import TcOtel.Ads.Parser

/-!
# The wire format

Messages as a sender builds them, each with its bytes (`encode`) and with what it says
(`value`, `entry`, `message`). The limits of the format are fields of the types, so that a
message that does not fit its length fields cannot be built.
-/

namespace TcOtel.Ads

open Decoding

/-! ### Texts and times -/

structure WireText (limit : Nat) where
  text : String
  fits : (utf8Bytes text).length ≤ limit

def WireText.length {limit : Nat} (t : WireText limit) : Nat := (utf8Bytes t.text).length

def WireText.encode {limit : Nat} (t : WireText limit) : List UInt8 :=
  UInt8.ofNat t.length :: utf8Bytes t.text

/-- A text whose UTF-16 encoding has at most 255 units. -/
structure WideText where
  text : String
  fits : (text.toList.flatMap utf16Encode).length ≤ 255

def WideText.units (t : WideText) : List UInt16 := t.text.toList.flatMap utf16Encode

def WideText.encode (t : WideText) : List UInt8 :=
  UInt8.ofNat t.units.length :: t.units.flatMap fun u => leBytes 2 u.toNat

structure FileTime where
  ticks : UInt64
  sinceUnixEpoch : filetimeEpochDiff ≤ ticks.toNat

def FileTime.instant (t : FileTime) : DateTime :=
  let ticks := t.ticks.toNat - filetimeEpochDiff
  ⟨(ticks / 10000000 : Nat), ticks % 10000000 * 100⟩

def FileTime.encode (t : FileTime) : List UInt8 := leBytes 8 t.ticks.toNat

structure DcTime where
  ns : Int64
  positive : 0 < ns.toInt

def DcTime.instant (t : DcTime) : DateTime :=
  ⟨unixToDcEpochSecs + t.ns.toInt / 1000000000, (t.ns.toInt % 1000000000).toNat⟩

def encodeI64 (n : Int64) : List UInt8 := leBytes 8 n.toUInt64.toNat

/-! ### Argument values -/

/-- Unsigned numbers, which are also what enumerations are made of. -/
inductive WireUnsigned where
  | byte (v : UInt8) | usint (v : UInt8)
  | word (v : UInt16) | uint (v : UInt16)
  | dword (v : UInt32) | udint (v : UInt32)
  | ularge (v : UInt64)

namespace WireUnsigned

def typeId : WireUnsigned → Nat
  | byte _ => 1
  | usint _ => 9
  | word _ => 2
  | uint _ => 10
  | dword _ => 3
  | udint _ => 11
  | ularge _ => 15

def encode : WireUnsigned → List UInt8
  | byte v | usint v => leBytes 1 v.toNat
  | word v | uint v => leBytes 2 v.toNat
  | dword v | udint v => leBytes 4 v.toNat
  | ularge v => leBytes 8 v.toNat

def toNat : WireUnsigned → Nat
  | byte v | usint v => v.toNat
  | word v | uint v => v.toNat
  | dword v | udint v => v.toNat
  | ularge v => v.toNat

end WireUnsigned

/-- An argument value of every type the readers know. An LTIME is one whose nanoseconds
fit 64 bits. -/
inductive WireValue where
  | null
  | unsigned (v : WireUnsigned)
  | real (f : F32)
  | lreal (f : F64)
  | sint (v : Int8)
  | int (v : Int16)
  | dint (v : Int32)
  | string (t : WireText 255)
  | bool (b : Bool)
  | large (v : Int64)
  | time (ms : UInt32)
  | ltime (ns100 : UInt64) (fits : ns100.toNat * 100 < 2 ^ 64)
  | date (secs : UInt32)
  | dateAndTime (secs : UInt32)
  | timeOfDay (ms : UInt32)
  | enum (v : WireUnsigned)
  | wstring (t : WideText)

namespace WireValue

/-- The type id of v1, an `INT16`. -/
def typeId : WireValue → Nat
  | null => 0
  | unsigned v => v.typeId
  | real _ => 4
  | lreal _ => 5
  | sint _ => 6
  | int _ => 7
  | dint _ => 8
  | string _ => 12
  | bool _ => 13
  | large _ => 17
  | time _ => 20000
  | ltime _ _ => 20001
  | date _ => 20002
  | dateAndTime _ => 20003
  | timeOfDay _ => 20004
  | enum _ => 20005
  | wstring _ => 20006

/-- The type id of v2, a byte. -/
def typeIdV2 : WireValue → Nat
  | time _ => 100
  | ltime _ _ => 101
  | date _ => 102
  | dateAndTime _ => 103
  | timeOfDay _ => 104
  | enum _ => 105
  | wstring _ => 106
  | v => v.typeId

/-- The bytes behind the type id. An enumeration repeats a type id of the same width. -/
def payload (idWidth : Nat) : WireValue → List UInt8
  | null => []
  | unsigned v => v.encode
  | real f => leBytes 4 f.bits.toNat
  | lreal f => leBytes 8 f.bits.toNat
  | sint v => leBytes 1 v.toUInt8.toNat
  | int v => leBytes 2 v.toUInt16.toNat
  | dint v => leBytes 4 v.toUInt32.toNat
  | string t => t.encode
  | bool b => [if b then 1 else 0]
  | large v => encodeI64 v
  | time v | date v | dateAndTime v | timeOfDay v => leBytes 4 v.toNat
  | ltime v _ => leBytes 8 v.toNat
  | enum v => leBytes idWidth v.typeId ++ v.encode
  | wstring t => t.encode

def encodeV1 (v : WireValue) : List UInt8 := leBytes 2 v.typeId ++ v.payload 2
def encodeV2 (v : WireValue) : List UInt8 := leBytes 1 v.typeIdV2 ++ v.payload 1

def value (env : Env) : WireValue → Value
  | null => .null
  | unsigned v | enum v => .int v.toNat
  | real f => .ofF32 f
  | lreal f => .ofF64 f
  | sint v => .int v.toInt
  | int v => .int v.toInt
  | dint v => .int v.toInt
  | string t => .string t.text
  | bool b => .bool b
  | large v => .int v.toInt
  | time ms => .string (formatTime ms.toNat)
  | ltime ns100 _ => .string (formatLtime ns100)
  | date secs => .string (formatDate env secs.toNat)
  | dateAndTime secs => .string (formatDateAndTime env secs.toNat)
  | timeOfDay ms => .string (formatTimeOfDay ms.toNat)
  | wstring t => .string t.text

end WireValue

structure WireProperty where
  name : WireText 255
  value : WireValue

def WireProperty.encode (p : WireProperty) : List UInt8 := p.name.encode ++ p.value.encodeV2

/-! ### Log entries -/

inductive WireItem where
  | argument (index : UInt8) (value : WireValue)
  | property (scope : UInt8) (name : WireText 255) (value : WireValue)

namespace WireItem

def encode : WireItem → List UInt8
  | argument index value => 1 :: index :: value.encodeV1
  | property scope name value => 2 :: scope :: (name.encode ++ value.encodeV1)

def isArgument : WireItem → Bool
  | argument _ _ => true
  | property _ _ _ => false

@[simp] theorem isArgument_argument (index : UInt8) (value : WireValue) :
    (argument index value).isArgument = true := rfl

@[simp] theorem isArgument_property (scope : UInt8) (name : WireText 255) (value : WireValue) :
    (property scope name value).isArgument = false := rfl

def addTo (env : Env) (found : Arguments × Context) : WireItem → Arguments × Context
  | argument index value => (found.1.insert index.toNat (value.value env), found.2)
  | property scope name value =>
    (found.1, found.2.insert (contextKey scope name.text) (value.value env))

end WireItem

/-- A v1 log entry, ended by 255. -/
structure WireV1 where
  text : WireText 255
  logger : WireText 255
  level : LogLevel
  plcTime : FileTime
  clockTime : DcTime
  taskIndex : Int32
  taskName : WireText 255
  taskCycleCounter : UInt32
  appName : WireText 255
  projectName : WireText 255
  onlineChangeCount : UInt32
  items : List WireItem
  arguments_le : items.countP (·.isArgument) ≤ maxArguments
  properties_le : items.countP (!·.isArgument) ≤ maxContextVars

def WireV1.encode (m : WireV1) : List UInt8 :=
  [[1], m.text.encode, m.logger.encode, leBytes 2 m.level.asU8.toNat, m.plcTime.encode,
    encodeI64 m.clockTime.ns, leBytes 4 m.taskIndex.toUInt32.toNat, m.taskName.encode,
    leBytes 4 m.taskCycleCounter.toNat, m.appName.encode, m.projectName.encode,
    leBytes 4 m.onlineChangeCount.toNat, m.items.flatMap WireItem.encode ++ [255]].flatten

def WireV1.entry (env : Env) (m : WireV1) : AdsLogEntry :=
  let found := m.items.foldl (WireItem.addTo env) (∅, ∅)
  { version := .v1, message := m.text.text, logger := m.logger.text, level := m.level
    plcTimestamp := m.plcTime.instant, clockTimestamp := m.clockTime.instant
    taskIndex := m.taskIndex, taskName := m.taskName.text, taskCycleCounter := m.taskCycleCounter
    appName := m.appName.text, projectName := m.projectName.text
    onlineChangeCount := m.onlineChangeCount, traceId := Bytes.zero 16, spanId := Bytes.zero 8
    arguments := found.1, context := found.2 }

structure WireGroup where
  scope : UInt8
  properties : List WireProperty
  properties_le : properties.length ≤ 255

def WireGroup.encode (g : WireGroup) : List UInt8 :=
  [g.scope] ++ ([UInt8.ofNat g.properties.length] ++ g.properties.flatMap WireProperty.encode)

def WireGroup.pairs (env : Env) (g : WireGroup) : List (String × Value) :=
  g.properties.map fun p => (contextKey g.scope p.name.text, p.value.value env)

def propertyCount (groups : List WireGroup) : Nat := (groups.map fun g => g.properties.length).sum

/-- The body of a v2 or traced entry. At most 64 properties: no group, not even an empty
one, follows the 64th. -/
structure WireLog where
  level : LogLevel
  plcTime : FileTime
  clockTime : DcTime
  taskIndex : UInt8
  taskCycleCounter : UInt32
  text : WireText 255
  logger : WireText 255
  arguments : List WireValue
  groups : List WireGroup
  arguments_le : arguments.length ≤ maxArguments
  groups_le : groups.length ≤ 255
  opens : ∀ before g after, groups = before ++ g :: after → propertyCount before < maxContextVars

def WireLog.encode (m : WireLog) : List UInt8 :=
  [[m.level.asU8], m.plcTime.encode, encodeI64 m.clockTime.ns, [m.taskIndex],
    leBytes 4 m.taskCycleCounter.toNat, [UInt8.ofNat m.arguments.length],
    [UInt8.ofNat m.groups.length], m.text.encode, m.logger.encode,
    m.arguments.flatMap WireValue.encodeV2, m.groups.flatMap WireGroup.encode].flatten

/-- The arguments with their numbers, from 1 on. -/
def numbered (env : Env) (arguments : List WireValue) : List (Nat × Value) :=
  (arguments.map (WireValue.value env)).mapIdx fun i v => (i + 1, v)

def WireLog.entry (env : Env) (traceId : Bytes 16) (spanId : Bytes 8) (m : WireLog) : AdsLogEntry :=
  { version := .v2, message := m.text.text, logger := m.logger.text, level := m.level
    plcTimestamp := m.plcTime.instant, clockTimestamp := m.clockTime.instant
    taskIndex := Int32.ofNat m.taskIndex.toNat, taskName := ""
    taskCycleCounter := m.taskCycleCounter, appName := "", projectName := ""
    onlineChangeCount := 0, traceId, spanId
    arguments := HashMap.ofList (numbered env m.arguments)
    context := HashMap.ofList (m.groups.flatMap (WireGroup.pairs env)) }

def encodeFrame (body : List UInt8) : List UInt8 := leBytes 2 body.length ++ body

structure WireV2 where
  body : WireLog
  frame_lt : body.encode.length < 65536

def WireV2.encode (m : WireV2) : List UInt8 := 2 :: encodeFrame m.body.encode

structure WireTraced where
  traceId : Bytes 16
  spanId : Bytes 8
  body : WireLog
  frame_lt : body.encode.length + 24 < 65536

def WireTraced.bodyBytes (m : WireTraced) : List UInt8 :=
  [m.traceId.val, m.spanId.val, m.body.encode].flatten

def WireTraced.encode (m : WireTraced) : List UInt8 := 9 :: encodeFrame m.bodyBytes

/-! ### Registrations -/

structure WireRegistration where
  taskIndex : UInt8
  taskName : WireText 255
  appName : WireText 255
  projectName : WireText 255
  onlineChangeCount : UInt32
  appPort : UInt16

def WireRegistration.encode (m : WireRegistration) : List UInt8 :=
  [[3], [m.taskIndex], m.taskName.encode, m.appName.encode, m.projectName.encode,
    leBytes 4 m.onlineChangeCount.toNat, leBytes 2 m.appPort.toNat].flatten

def WireRegistration.registration (m : WireRegistration) : RegistrationMessage :=
  { taskIndex := m.taskIndex, taskName := m.taskName.text, appName := m.appName.text
    projectName := m.projectName.text, onlineChangeCount := m.onlineChangeCount
    appPort := m.appPort }

/-! ### Metrics -/

structure WireHistogram where
  bounds : List F64
  counts : List UInt64
  count : UInt64
  sum : F64
  bounds_le : bounds.length ≤ maxHistogramBuckets
  counts_eq : counts.length = bounds.length + 1

def encodeF64 (f : F64) : List UInt8 := leBytes 8 f.bits.toNat

def WireHistogram.encode (h : WireHistogram) : List UInt8 :=
  [[UInt8.ofNat h.bounds.length], h.bounds.flatMap encodeF64,
    h.counts.flatMap fun c => leBytes 8 c.toNat, leBytes 8 h.count.toNat, encodeF64 h.sum].flatten

inductive WireMetricKind where
  | gauge
  | sum
  | histogram (h : WireHistogram)

namespace WireMetricKind

def kind : WireMetricKind → MetricKind
  | gauge => .gauge
  | sum => .sum
  | histogram _ => .histogram

def encode : WireMetricKind → List UInt8
  | gauge | sum => []
  | histogram h => h.encode

def part : WireMetricKind → HistogramPart
  | gauge | sum => .none
  | histogram h => ⟨h.bounds, h.counts, h.count, h.sum⟩

end WireMetricKind

/-- The body of a metric; the lowest flag says whether a sum is monotonic. -/
structure WireMetricBody where
  kind : WireMetricKind
  time : FileTime
  taskIndex : UInt8
  taskCycleCounter : UInt32
  flags : UInt8
  name : WireText 255
  description : WireText 255
  unit : WireText 255
  value : F64
  attributes : List WireProperty
  attributes_le : attributes.length ≤ maxMetricAttributes

def WireMetricBody.encode (m : WireMetricBody) : List UInt8 :=
  [[m.kind.kind.asU8], m.time.encode, [m.taskIndex], leBytes 4 m.taskCycleCounter.toNat,
    [UInt8.ofNat m.attributes.length], [m.flags], m.name.encode, m.description.encode,
    m.unit.encode, encodeF64 m.value, m.kind.encode,
    m.attributes.flatMap WireProperty.encode].flatten

def WireMetricBody.metric (env : Env) (m : WireMetricBody) : AdsMetricEntry :=
  { name := m.name.text, description := m.description.text, unit := m.unit.text
    kind := m.kind.kind, value := m.value, timestamp := m.time.instant
    taskIndex := Int32.ofNat m.taskIndex.toNat, taskCycleCounter := m.taskCycleCounter
    isMonotonic := m.flags &&& 0x01 != 0
    attributes := HashMap.ofList (m.attributes.map fun p => (p.name.text, p.value.value env))
    histogramBounds := m.kind.part.bounds, histogramCounts := m.kind.part.counts
    histogramCount := m.kind.part.count, histogramSum := m.kind.part.sum }

structure WireMetric where
  body : WireMetricBody
  frame_lt : body.encode.length < 65536

def WireMetric.encode (m : WireMetric) : List UInt8 := 4 :: encodeFrame m.body.encode

/-! ### Trace events -/

def encodeOptional {limit : Nat} (t : Option (WireText limit)) : List UInt8 :=
  t.elim [] WireText.encode

/-- SPAN_BEGIN. Two flags say which of the optional fields follow. -/
structure WireSpanBegin where
  localId : UInt8
  taskIndex : UInt8
  flags : UInt8
  dcTime : Int64
  parentSpanId : Bytes 8
  kind : UInt8
  reserved : Bytes 2
  traceId : Bytes 16
  spanId : Bytes 8
  name : WireText 127
  traceparent : Option (WireText 127)
  scopeNamespace : Option (WireText 127)
  traceparent_flag : flags &&& 0x02 ≠ 0 ↔ traceparent.isSome
  namespace_flag : flags &&& 0x04 ≠ 0 ↔ scopeNamespace.isSome

def WireSpanBegin.encode (m : WireSpanBegin) : List UInt8 :=
  [[5], [m.localId], [m.taskIndex], [m.flags], encodeI64 m.dcTime, m.parentSpanId.val, [m.kind],
    [UInt8.ofNat m.name.length], m.reserved.val, m.traceId.val, m.spanId.val, utf8Bytes m.name.text,
    encodeOptional m.traceparent, encodeOptional m.scopeNamespace].flatten

def WireSpanBegin.event (m : WireSpanBegin) : SpanBegin :=
  { localId := m.localId, taskIndex := m.taskIndex, flags := m.flags, dcTime := m.dcTime
    parentSpanId := m.parentSpanId, kind := m.kind, name := m.name.text
    traceparent := m.traceparent.map WireText.text, traceId := m.traceId, spanId := m.spanId
    scopeNamespace := (m.scopeNamespace.map WireText.text).getD "" }

/-- The header of the events that name their span: the span id is split around it. -/
def encodeSpanHeader (eventType : UInt8) (spanId : Bytes 8) (taskIndex flags : UInt8)
    (dcTime : Int64) : List (List UInt8) :=
  [[eventType], spanId.val.take 1, [taskIndex], [flags], encodeI64 dcTime, spanId.val.drop 1]

inductive WireAttrValue where
  | i64 (n : Int64)
  | f64 (f : F64)
  | bool (b : Bool)
  | string (t : WireText 127)

namespace WireAttrValue

def typeId : WireAttrValue → UInt8
  | i64 _ => 1
  | f64 _ => 2
  | bool _ => 3
  | string _ => 4

def encode : WireAttrValue → List UInt8
  | i64 n => encodeI64 n
  | f64 f => encodeF64 f
  | bool b => [if b then 1 else 0]
  | string t => utf8Bytes t.text

def value : WireAttrValue → AttrValue
  | i64 n => .i64 n
  | f64 f => .f64 f
  | bool b => .bool b
  | string t => .string t.text

end WireAttrValue

structure WireSpanAttr where
  spanId : Bytes 8
  taskIndex : UInt8
  flags : UInt8
  dcTime : Int64
  reserved : UInt8
  key : WireText 31
  value : WireAttrValue

def WireSpanAttr.encode (m : WireSpanAttr) : List UInt8 :=
  (encodeSpanHeader 6 m.spanId m.taskIndex m.flags m.dcTime ++
    [[m.value.typeId], [UInt8.ofNat m.key.length], [UInt8.ofNat m.value.encode.length], [m.reserved],
      utf8Bytes m.key.text, m.value.encode]).flatten

def WireSpanAttr.event (m : WireSpanAttr) : SpanAttr :=
  { spanId := m.spanId, taskIndex := m.taskIndex, flags := m.flags, dcTime := m.dcTime
    key := m.key.text, value := m.value.value }

inductive WirePointValue where
  | i64 (n : Int64)
  | bool (b : Bool)

namespace WirePointValue

def typeId : WirePointValue → UInt8
  | i64 _ => 1
  | bool _ => 2

def encode : WirePointValue → List UInt8
  | i64 n => encodeI64 n
  | bool b => [if b then 1 else 0]

def value : WirePointValue → AttrValue
  | i64 n => .i64 n
  | bool b => .bool b

end WirePointValue

structure WirePointAttr where
  reserved : UInt8
  key : WireText 31
  value : WirePointValue

def WirePointAttr.encode (a : WirePointAttr) : List UInt8 :=
  [[a.value.typeId], [UInt8.ofNat a.key.length], [UInt8.ofNat a.value.encode.length], [a.reserved],
    utf8Bytes a.key.text, a.value.encode].flatten

structure WireSpanPoint where
  spanId : Bytes 8
  taskIndex : UInt8
  flags : UInt8
  dcTime : Int64
  reserved : UInt16
  name : WireText 31
  attrs : List WirePointAttr
  attrs_le : attrs.length ≤ 4

def WireSpanPoint.encode (m : WireSpanPoint) : List UInt8 :=
  (encodeSpanHeader 7 m.spanId m.taskIndex m.flags m.dcTime ++
    [[UInt8.ofNat m.name.length], [UInt8.ofNat m.attrs.length], leBytes 2 m.reserved.toNat,
      utf8Bytes m.name.text, m.attrs.flatMap WirePointAttr.encode]).flatten

def WireSpanPoint.event (m : WireSpanPoint) : SpanPoint :=
  { spanId := m.spanId, taskIndex := m.taskIndex, flags := m.flags, dcTime := m.dcTime
    name := m.name.text, attrs := m.attrs.map fun a => (a.key.text, a.value.value) }

structure WireSpanEnd where
  spanId : Bytes 8
  taskIndex : UInt8
  flags : UInt8
  dcTime : Int64
  status : UInt8
  reserved : UInt16
  text : WireText 127

def WireSpanEnd.encode (m : WireSpanEnd) : List UInt8 :=
  (encodeSpanHeader 8 m.spanId m.taskIndex m.flags m.dcTime ++
    [[m.status], [UInt8.ofNat m.text.length], leBytes 2 m.reserved.toNat,
      utf8Bytes m.text.text]).flatten

def WireSpanEnd.event (m : WireSpanEnd) : SpanEnd :=
  { spanId := m.spanId, taskIndex := m.taskIndex, flags := m.flags, dcTime := m.dcTime
    status := m.status, message := m.text.text }

/-! ### Messages -/

inductive WireMessage where
  | v1 (m : WireV1)
  | v2 (m : WireV2)
  | traced (m : WireTraced)
  | registration (m : WireRegistration)
  | metric (m : WireMetric)
  | spanBegin (m : WireSpanBegin)
  | spanAttr (m : WireSpanAttr)
  | spanEvent (m : WireSpanPoint)
  | spanEnd (m : WireSpanEnd)

namespace WireMessage

def encode : WireMessage → List UInt8
  | v1 m => m.encode
  | v2 m => m.encode
  | traced m => m.encode
  | registration m => m.encode
  | metric m => m.encode
  | spanBegin m => m.encode
  | spanAttr m => m.encode
  | spanEvent m => m.encode
  | spanEnd m => m.encode

def message (env : Env) : WireMessage → Message
  | v1 m => .log (m.entry env)
  | v2 m => .log (m.body.entry env (Bytes.zero 16) (Bytes.zero 8))
  | traced m => .log (m.body.entry env m.traceId m.spanId)
  | registration m => .registration m.registration
  | metric m => .metric (m.body.metric env)
  | spanBegin m => .traceEvent (.spanBegin m.event)
  | spanAttr m => .traceEvent (.spanAttr m.event)
  | spanEvent m => .traceEvent (.spanEvent m.event)
  | spanEnd m => .traceEvent (.spanEnd m.event)

end WireMessage

def encodeAll (messages : List WireMessage) : List UInt8 := messages.flatMap WireMessage.encode

namespace Message

def log? : Message → Option AdsLogEntry
  | log entry => some entry
  | _ => none

def registration? : Message → Option RegistrationMessage
  | registration reg => some reg
  | _ => none

def metric? : Message → Option AdsMetricEntry
  | metric m => some m
  | _ => none

def traceEvent? : Message → Option TraceWireEvent
  | traceEvent ev => some ev
  | _ => none

end Message

/-- The messages sorted by kind, each kind in its original order. -/
def ParseResult.ofMessages (messages : List Message) : ParseResult :=
  { entries := messages.filterMap Message.log?
    registrations := messages.filterMap Message.registration?
    metrics := messages.filterMap Message.metric?
    traceEvents := messages.filterMap Message.traceEvent? }

theorem ParseResult.ofMessages_concat (messages : List Message) (m : Message) :
    ofMessages (messages ++ [m]) = (ofMessages messages).push m := by
  cases m <;>
    simp [ofMessages, push, Message.log?, Message.registration?, Message.metric?, Message.traceEvent?]

end TcOtel.Ads
