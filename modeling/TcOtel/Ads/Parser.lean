import TcOtel.Ads.Reader
import TcOtel.Lib.Loop

/-!
# `AdsParser::parse_all`

A buffer holds messages of six kinds one after the other. Each kind has its own decoder;
`parseStep` is the body of the loop over them, with the rule of each kind for what a
message that does not decode does to the rest of the buffer.
-/

namespace TcOtel.Ads

open Decoding Decoder Looping

def maxArguments : Nat := 32
def maxContextVars : Nat := 64
def maxMessageSize : Nat := 1048576
def maxMetricAttributes : Nat := 32
def maxHistogramBuckets : Nat := 100

def contextKey (scope : UInt8) (name : String) : String := s!"scope_{scope}_{name}"

/-! ### v1 log entries -/

abbrev Arguments := HashMap Nat Value
abbrev Context := HashMap String Value

/-- A round of the v1 loop over arguments and context. Other type ids are skipped. -/
def v1Round (env : Env) (found : Arguments × Context) : Read (Turn (Arguments × Context)) := do
  let left ← remaining
  if left = 0 then pure (.done found)
  else
    let typeId ← readU8
    if typeId = 0 ∨ typeId = 255 then pure (.done found)
    else if typeId = 1 then do
      failIf (found.1.len ≥ maxArguments) (.parseError
        s!"Too many arguments: {found.1.len + 1} exceeds maximum {maxArguments}")
      let index ← readU8
      let value ← readValue env
      pure (.again (found.1.insert index.toNat value, found.2))
    else if typeId = 2 then do
      failIf (found.2.len ≥ maxContextVars) (.parseError
        s!"Too many context variables: {found.2.len + 1} exceeds maximum {maxContextVars}")
      let scope ← readU8
      let name ← readString
      let value ← readValue env
      pure (.again (found.1, found.2.insert (contextKey scope name) value))
    else pure (.again found)

def parseV1FromReader (env : Env) : Read AdsLogEntry := do
  let versionByte ← readU8
  let version ← orFail (.invalidVersion versionByte) (AdsProtocolVersion.fromU8 versionByte)
  let message ← readString
  let logger ← readString
  let levelU16 ← readU16
  -- `level_u16 as u8` keeps the low byte
  let level ← orFail (.parseError s!"Invalid log level: {levelU16}") (LogLevel.fromU8 levelU16.toUInt8)
  let plcTimestamp ← readFiletime env
  let clockTimestamp ← readDcTaskTime env
  let taskIndex ← readI32
  let taskName ← readString
  let taskCycleCounter ← readU32
  let appName ← readString
  let projectName ← readString
  let onlineChangeCount ← readU32
  let found ← loopOpen (v1Round env) (∅, ∅)
  pure {
    version, message, logger, level, plcTimestamp, clockTimestamp, taskIndex, taskName
    taskCycleCounter, appName, projectName, onlineChangeCount
    traceId := Bytes.zero 16, spanId := Bytes.zero 8, arguments := found.1, context := found.2 }

/-! ### Length-framed messages -/

/-- A body behind a 16-bit length. The length says where the next message starts, whatever
the body has read. -/
def framed {α : Type} (body : Read α) : Read α := do
  let entryLength ← readU16
  let entryStart ← position
  let value ← body
  seek (entryStart + entryLength.toNat)
  pure value

/-- An argument of a v2 entry; the arguments are numbered from 1. -/
def readArgument (env : Env) (found : Nat × Arguments) : Read (Nat × Arguments) := do
  failIf (found.2.len ≥ maxArguments) (.parseError "Too many arguments")
  let value ← readV2Value env
  pure (found.1 + 1, found.2.insert (found.1 + 1) value)

def readProperty (env : Env) (scope : UInt8) (found : Nat × Context) : Read (Nat × Context) := do
  let name ← readString
  let value ← readV2Value env
  pure (found.1 + 1, found.2.insert (contextKey scope name) value)

/-- A context group. The limit is checked at the start of a group only. -/
def readGroup (env : Env) (found : Nat × Context) : Read (Nat × Context) := do
  failIf (found.1 ≥ maxContextVars) (.parseError "Too many context variables")
  let scope ← readU8
  let propCount ← readU8
  iterate propCount.toNat (readProperty env scope) found

instance (env : Env) (found : Nat × Arguments) : Relative (readArgument env found) := by
  unfold readArgument; infer_instance

instance (env : Env) (scope : UInt8) (found : Nat × Context) : Relative (readProperty env scope found) := by
  unfold readProperty; infer_instance

instance (env : Env) (found : Nat × Context) : Relative (readGroup env found) := by
  unfold readGroup; infer_instance

def readLogBody (env : Env) (traceId : Bytes 16) (spanId : Bytes 8) : Read AdsLogEntry := do
  let levelByte ← readU8
  let level ← orFail (.parseError s!"Invalid log level: {levelByte}") (LogLevel.fromU8 levelByte)
  let plcTimestamp ← readFiletime env
  let clockTimestamp ← readDcTaskTime env
  let taskIndex ← readU8
  let taskCycleCounter ← readU32
  let argCount ← readU8
  let contextCount ← readU8
  let message ← readString
  let logger ← readString
  let arguments ← iterate argCount.toNat (readArgument env) (0, ∅)
  let context ← iterate contextCount.toNat (readGroup env) (0, ∅)
  pure {
    version := .v2, message, logger, level, plcTimestamp, clockTimestamp
    taskIndex := Int32.ofNat taskIndex.toNat, taskName := "", taskCycleCounter
    appName := "", projectName := "", onlineChangeCount := 0
    traceId, spanId, arguments := arguments.2, context := context.2 }

def parseV2FromReader (env : Env) : Read AdsLogEntry := do
  let versionByte ← readU8
  failIf (versionByte ≠ 2) (.invalidVersion versionByte)
  framed (readLogBody env (Bytes.zero 16) (Bytes.zero 8))

/-- The body of a traced entry: the ids of its span, then a v2 body. -/
def readTracedBody (env : Env) : Read AdsLogEntry := do
  let traceId ← readArray 16
  let spanId ← readArray 8
  readLogBody env traceId spanId

def parseV2TracedFromReader (env : Env) : Read AdsLogEntry := do
  let typeByte ← readU8
  failIf (typeByte ≠ 9) (.parseError s!"Invalid traced log type: {typeByte}")
  framed (readTracedBody env)

/-! ### Registrations -/

def parseRegistrationFromReader : Read RegistrationMessage := do
  let typeByte ← readU8
  failIf (typeByte ≠ 3) (.parseError s!"Invalid registration type: {typeByte}")
  let taskIndex ← readU8
  let taskName ← readString
  let appName ← readString
  let projectName ← readString
  let onlineChangeCount ← readU32
  let appPort ← readU16
  pure { taskIndex, taskName, appName, projectName, onlineChangeCount, appPort }

/-! ### Trace events -/

/-- A text behind a one-byte length of its own, as the optional fields of SPAN_BEGIN are. -/
def readShortText (what : String) : Read String := do
  let len ← readU8
  failIf (len.toNat > 127) (.parseError s!"SPAN_BEGIN: {what} length exceeds 127")
  readUtf8 len.toNat s!"SPAN_BEGIN: invalid UTF-8 in {what}"

/-- A field that is there when its flag is set. -/
def readFlagged {α : Type} (flags mask : UInt8) (field : Read α) : Read (Option α) :=
  if flags &&& mask ≠ 0 then do
    let value ← field
    pure (some value)
  else pure none

def readSpanBegin (localId taskIndex flags : UInt8) (dcTime : Int64) : Read TraceWireEvent := do
  let parentSpanId ← readArray 8
  let kind ← readU8
  let nameLen ← readU8
  let _reserved ← readBytes 2
  failIf (nameLen.toNat > 127) (.parseError "SPAN_BEGIN: name length exceeds 127")
  let traceId ← readArray 16
  let spanId ← readArray 8
  let name ← readUtf8 nameLen.toNat "SPAN_BEGIN: invalid UTF-8 in name"
  let traceparent ← readFlagged flags 0x02 (readShortText "traceparent")
  let scopeNamespace ← readFlagged flags 0x04 (readShortText "namespace")
  pure (.spanBegin {
    localId, taskIndex, flags, dcTime, parentSpanId, kind, name, traceparent, traceId, spanId
    scopeNamespace := scopeNamespace.getD "" })

/-- Outside SPAN_BEGIN the header's second byte is the first one of the span id. -/
def readSpanIdRest (first : UInt8) : Read (Bytes 8) := do
  let rest ← readArray 7
  pure ⟨first :: rest.val, by rw [List.length_cons, rest.property]⟩

def readAttrValue (valueType : UInt8) (valueLen : Nat) : Read AttrValue :=
  match valueType.toNat with
  | 1 => do let v ← readI64; pure (.i64 v)
  | 2 => do let v ← readF64; pure (.f64 v)
  | 3 => do let v ← readU8; pure (.bool (v != 0))
  | 4 => do
    let s ← readUtf8 valueLen "SPAN_ATTR: invalid UTF-8 in string value"
    pure (.string s)
  | _ => fail (.parseError s!"SPAN_ATTR: unknown value_type {valueType}")

def readSpanAttr (localId taskIndex flags : UInt8) (dcTime : Int64) : Read TraceWireEvent := do
  let spanId ← readSpanIdRest localId
  let valueType ← readU8
  let keyLen ← readU8
  let valueLen ← readU8
  let _reserved ← readU8
  failIf (keyLen.toNat > 31) (.parseError "SPAN_ATTR: key length exceeds 31")
  failIf (valueLen.toNat > 127) (.parseError "SPAN_ATTR: value length exceeds 127")
  let key ← readUtf8 keyLen.toNat "SPAN_ATTR: invalid UTF-8 in key"
  let value ← readAttrValue valueType valueLen.toNat
  pure (.spanAttr { spanId, taskIndex, flags, dcTime, key, value })

/-- The attributes of span events number their types differently from SPAN_ATTR. -/
def readPointAttrValue (valueType : UInt8) : Read AttrValue :=
  match valueType.toNat with
  | 1 => do let v ← readI64; pure (.i64 v)
  | 2 => do let v ← readU8; pure (.bool (v != 0))
  | _ => fail (.parseError
      s!"SPAN_EVENT attr: invalid value_type {valueType} (only 1=i64, 2=bool)")

def readPointAttr (attrs : List (String × AttrValue)) : Read (List (String × AttrValue)) := do
  let valueType ← readU8
  let keyLen ← readU8
  let _valueLen ← readU8
  let _reserved ← readU8
  failIf (keyLen.toNat > 31) (.parseError "SPAN_EVENT attr: key length exceeds 31")
  let key ← readUtf8 keyLen.toNat "SPAN_EVENT attr: invalid UTF-8 in key"
  let value ← readPointAttrValue valueType
  pure (attrs ++ [(key, value)])

def readSpanPoint (localId taskIndex flags : UInt8) (dcTime : Int64) : Read TraceWireEvent := do
  let spanId ← readSpanIdRest localId
  let nameLen ← readU8
  let attrCount ← readU8
  let _reserved ← readU16
  failIf (nameLen.toNat > 31) (.parseError "SPAN_EVENT: name length exceeds 31")
  failIf (attrCount.toNat > 4) (.parseError "SPAN_EVENT: attribute count exceeds 4")
  let name ← readUtf8 nameLen.toNat "SPAN_EVENT: invalid UTF-8 in name"
  let attrs ← iterate attrCount.toNat readPointAttr []
  pure (.spanEvent { spanId, taskIndex, flags, dcTime, name, attrs })

def readSpanEnd (localId taskIndex flags : UInt8) (dcTime : Int64) : Read TraceWireEvent := do
  let spanId ← readSpanIdRest localId
  let status ← readU8
  let msgLen ← readU8
  let _reserved ← readU16
  failIf (msgLen.toNat > 127) (.parseError "SPAN_END: message length exceeds 127")
  let message ← readUtf8 msgLen.toNat "SPAN_END: invalid UTF-8 in message"
  pure (.spanEnd { spanId, taskIndex, flags, dcTime, status, message })

def readTracePayload (eventType localId taskIndex flags : UInt8) (dcTime : Int64) : Read TraceWireEvent :=
  match eventType.toNat with
  | 5 => readSpanBegin localId taskIndex flags dcTime
  | 6 => readSpanAttr localId taskIndex flags dcTime
  | 7 => readSpanPoint localId taskIndex flags dcTime
  | 8 => readSpanEnd localId taskIndex flags dcTime
  | _ => fail (.parseError s!"Unknown trace event type: {eventType}")

def parseV2TraceEventFromReader : Read TraceWireEvent := do
  let eventType ← readU8
  let localId ← readU8
  let taskIndex ← readU8
  let flags ← readU8
  let dcTime ← readI64
  readTracePayload eventType localId taskIndex flags dcTime

/-! ### Metrics -/

structure HistogramPart where
  bounds : List F64
  counts : List UInt64
  count : UInt64
  sum : F64
deriving DecidableEq, Repr

def HistogramPart.none : HistogramPart := ⟨[], [], 0, ⟨0⟩⟩

def readHistogram : Read HistogramPart := do
  let bucketCount ← readU8
  failIf (bucketCount.toNat > maxHistogramBuckets) (.parseError
    s!"Histogram bucket count {bucketCount} exceeds maximum {maxHistogramBuckets}")
  let bounds ← iterate bucketCount.toNat
    (fun found => do let b ← readF64; pure (found ++ [b])) []
  let counts ← iterate (bucketCount.toNat + 1)
    (fun found => do let c ← readU64; pure (found ++ [c])) []
  let count ← readU64
  let sum ← readF64
  pure { bounds, counts, count, sum }

def readHistogramPart (kind : MetricKind) : Read HistogramPart :=
  if kind = .histogram then readHistogram else pure HistogramPart.none

def readMetricAttribute (env : Env) (found : Context) : Read Context := do
  let key ← readString
  let value ← readV2Value env
  pure (found.insert key value)

def readMetricBody (env : Env) : Read AdsMetricEntry := do
  let kindByte ← readU8
  let kind ← orFail (.parseError s!"Invalid metric kind: {kindByte}") (MetricKind.fromU8 kindByte)
  let timestamp ← readFiletime env
  let taskIndex ← readU8
  let taskCycleCounter ← readU32
  let attrCount ← readU8
  let flags ← readU8
  failIf (attrCount.toNat > maxMetricAttributes) (.parseError
    s!"Metric attribute count {attrCount} exceeds maximum {maxMetricAttributes}")
  let name ← readString
  let description ← readString
  let unit ← readString
  let value ← readF64
  let histogram ← readHistogramPart kind
  let attributes ← iterate attrCount.toNat (readMetricAttribute env) ∅
  pure {
    name, description, unit, kind, value, timestamp
    taskIndex := Int32.ofNat taskIndex.toNat, taskCycleCounter
    isMonotonic := flags &&& 0x01 != 0, attributes
    histogramBounds := histogram.bounds, histogramCounts := histogram.counts
    histogramCount := histogram.count, histogramSum := histogram.sum }

def parseMetricFromReader (env : Env) : Read AdsMetricEntry := do
  let typeByte ← readU8
  failIf (typeByte ≠ 4) (.parseError s!"Invalid metric type: {typeByte}")
  framed (readMetricBody env)

/-! ### The loop over messages -/

inductive Message where
  | log (entry : AdsLogEntry)
  | registration (reg : RegistrationMessage)
  | metric (metric : AdsMetricEntry)
  | traceEvent (ev : TraceWireEvent)
deriving DecidableEq

def ParseResult.push (acc : ParseResult) : Message → ParseResult
  | .log entry => { acc with entries := acc.entries ++ [entry] }
  | .registration reg => { acc with registrations := acc.registrations ++ [reg] }
  | .metric metric => { acc with metrics := acc.metrics ++ [metric] }
  | .traceEvent ev => { acc with traceEvents := acc.traceEvents ++ [ev] }

/-- The arms of the dispatch on the first byte. -/
inductive MessageType where
  | v1 | v2 | registration | metric | traceEvent | traced
deriving DecidableEq, Repr

def MessageType.fromByte (b : UInt8) : Option MessageType :=
  match b.toNat with
  | 1 => some .v1
  | 2 => some .v2
  | 3 => some .registration
  | 4 => some .metric
  | 5 | 6 | 7 | 8 => some .traceEvent
  | 9 => some .traced
  | _ => none

def decodeMessage (env : Env) : MessageType → Read Message
  | .v1 => do let entry ← parseV1FromReader env; pure (.log entry)
  | .v2 => do let entry ← parseV2FromReader env; pure (.log entry)
  | .registration => do let reg ← parseRegistrationFromReader; pure (.registration reg)
  | .metric => do let metric ← parseMetricFromReader env; pure (.metric metric)
  | .traceEvent => do let ev ← parseV2TraceEventFromReader; pure (.traceEvent ev)
  | .traced => do let entry ← parseV2TracedFromReader env; pure (.log entry)

structure Cursor where
  acc : ParseResult
  pos : Nat
deriving DecidableEq

inductive Parsed where
  | ok (result : ParseResult)
  | err (error : AdsError)
  | panic
deriving DecidableEq

abbrev ParseStep := Step Cursor Parsed

def breakWith (acc : ParseResult) : ParseStep := .halt (.ok acc)

def ParseResult.noLogs (acc : ParseResult) : Bool :=
  acc.entries.isEmpty && acc.registrations.isEmpty

def isSkipTarget (b : UInt8) : Bool := (1 ≤ b.toNat && b.toNat ≤ 6) || b = 0 || b = 255

/-- Where a v2 entry that does not decode is skipped to, if it is. -/
def v2SkipTarget (data : List UInt8) (entryPos : Nat) : Outcome Unit (Option Nat) :=
  if data.length - entryPos ≥ 3 then
    match readU16.run data (entryPos + 1) with
    | .ok entryLen next =>
      let nextPos := entryPos + 3 + entryLen.toNat
      if nextPos < data.length ∧ nextPos > entryPos then
        match data[nextPos]? with
        | some nextType => .ok (if isSkipTarget nextType then some nextPos else none) next
        | none => .panic
      else .ok none next
    | .err _ next => .ok none next
    | .panic => .panic
  else .ok none entryPos

/-- What a message that does not decode does to the rest of the buffer. `failedAt` is where
its decoder stopped. -/
def afterError (data : List UInt8) (c : Cursor) (e : AdsError) (failedAt : Nat) : MessageType → ParseStep
  | .v1 | .metric =>
    if c.acc.noLogs && c.acc.metrics.isEmpty then .halt (.err e) else breakWith c.acc
  | .v2 =>
    match v2SkipTarget data c.pos with
    | .ok (some nextPos) _ => .next { c with pos := nextPos }
    | .ok none _ => if c.acc.noLogs then .halt (.err e) else breakWith c.acc
    | .err _ _ | .panic => .halt .panic
  | .registration => breakWith c.acc
  | .traced =>
    if !c.acc.noLogs then breakWith c.acc
    else if data.length - failedAt ≥ 3 then
      match readU16.run data (c.pos + 1) with
      | .ok entryLen _ => .next { c with pos := c.pos + 1 + 2 + entryLen.toNat }
      | .err _ _ => breakWith c.acc
      | .panic => .halt .panic
    else breakWith c.acc
  | .traceEvent =>
    if c.acc.noLogs && c.acc.metrics.isEmpty && c.acc.traceEvents.isEmpty then .halt (.err e)
    else breakWith c.acc

/-- The bytes the v2 arm slices out for its trace output, before it decodes. -/
def peekBytes (data : List UInt8) (pos : Nat) : MessageType → Outcome AdsError (List UInt8)
  | .v2 => (slice (min 40 (data.length - pos))).run data pos
  | _ => .ok [] pos

def parseStep (env : Env) (data : List UInt8) (c : Cursor) : ParseStep :=
  match data[c.pos]? with
  | none => breakWith c.acc
  | some first =>
    if first = 0 ∨ first = 255 then breakWith c.acc
    else
      match MessageType.fromByte first with
      | none => breakWith c.acc
      | some kind =>
        match peekBytes data c.pos kind with
        | .ok _ _ =>
          match (decodeMessage env kind).run data c.pos with
          | .ok message next => .next ⟨c.acc.push message, next⟩
          | .err e failedAt => afterError data c e failedAt kind
          | .panic => .halt .panic
        | .err _ _ | .panic => .halt .panic

def Cursor.start : Cursor := ⟨.empty, 0⟩

/-- `parse_all`. `none` would mean that the budget for the loop was too small, which
`parseAll_isSome` excludes. -/
def parseAll (env : Env) (data : List UInt8) : Option Parsed :=
  if data.length > maxMessageSize then
    some (.err (.parseError s!"Message size {data.length} exceeds maximum {maxMessageSize}"))
  else Looping.run (parseStep env data) (data.length + 1) .start

end TcOtel.Ads
