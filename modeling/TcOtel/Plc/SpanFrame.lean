import TcOtel.Ads.RoundTrip
import TcOtel.Plc.LogEntry

/-!
# Frames of `FB_TcOtelTaskTracer`

The four frames that the task tracer writes to the log buffer: `ST_SpanBeginPrefix`,
`ST_SpanAttrFrame`, `ST_SpanEventFrame` and `ST_SpanEndFrame`, each with the texts that follow.
A text is whatever bytes the PLC has; a frame whose texts are UTF-8 is decoded to the event it
is meant to be (`SpanFrame.messageAt_iff`).
-/

namespace TcOtel.Plc

open Decoding Memory Ads

abbrev StringOf (n : Nat) := { s : PlcString // s.bytes.length ≤ n }

namespace StringOf

def bytes {n : Nat} (s : StringOf n) : List UInt8 := s.val.bytes

def empty (n : Nat) : StringOf n := ⟨.empty, Nat.zero_le n⟩

end StringOf

inductive ESpanKind where
  | eInternal | eServer | eClient | eProducer | eConsumer
deriving DecidableEq, Repr

def ESpanKind.code : ESpanKind → UInt8
  | eInternal => 0
  | eServer => 1
  | eClient => 2
  | eProducer => 3
  | eConsumer => 4

inductive ESpanStatus where
  | eUnset | eOk | eError
deriving DecidableEq, Repr

def ESpanStatus.code : ESpanStatus → UInt8
  | eUnset => 0
  | eOk => 1
  | eError => 2

/-! ### Values of attributes -/

/-- `REAL_TO_LREAL`. What is not finite stays so, a NaN as a quiet one. -/
def realToLreal (f : F32) : F64 :=
  if f.isFinite then f.toF64
  else
    let sign := f.bits.toNat / 2 ^ 31
    let mantissa := f.bits.toNat % 2 ^ 23
    ⟨UInt64.ofNat (sign * 2 ^ 63 + 2047 * 2 ^ 52 +
      if mantissa = 0 then 0 else 2 ^ 51 ||| (mantissa * 2 ^ 29))⟩

inductive SpanAttrValue where
  | lint (v : Int64)
  | lreal (v : F64)
  | bool (v : Bool)
  | string (v : List UInt8) (length_le : v.length ≤ 127)

namespace SpanAttrValue

/-- An unsigned value, whose eight bytes are the same as those of a `LINT`. -/
def ulint (v : UInt64) : SpanAttrValue := lint v.toInt64

def nValueType : SpanAttrValue → UInt8
  | lint _ => 1
  | lreal _ => 2
  | bool _ => 3
  | string _ _ => 4

def bytes : SpanAttrValue → List UInt8
  | lint v => encodeI64 v
  | lreal v => encodeF64 v
  | bool v => [if v then 1 else 0]
  | string v _ => v

end SpanAttrValue

def SpanAttrValue.value? : SpanAttrValue → Option AttrValue
  | lint v => some (.i64 v)
  | lreal v => some (.f64 v)
  | bool v => some (.bool v)
  | string v _ => (fromUtf8 v).map .string

/-- The `CASE` of `AddAny`, which drops the types that it does not have. -/
def AnyArg.attrValue? : AnyArg → Option SpanAttrValue
  | .basic (.bool v) => some (.bool v)
  | .basic (.sint v) => some (.lint v.toInt64)
  | .basic (.int v) => some (.lint v.toInt64)
  | .basic (.dint v) => some (.lint v.toInt64)
  | .basic (.lint v) => some (.lint v)
  | .basic (.usint v) | .basic (.byte v) => some (.ulint v.toUInt64)
  | .basic (.uint v) | .basic (.word v) => some (.ulint v.toUInt64)
  | .basic (.udint v) | .basic (.dword v) => some (.ulint v.toUInt64)
  | .basic (.ulint v) | .basic (.lword v) => some (.ulint v)
  | .basic (.real v) => some (.lreal (realToLreal v))
  | .basic (.lreal v) => some (.lreal v)
  | .basic (.string v) => some (.string (v.bytes.take 127) (List.length_take_le ..))
  | _ => none

/-! ### The frames -/

structure SpanBeginFrame where
  nLocalId : UInt8
  nTaskIdx : UInt8
  nDcTime : Int64
  abParentSpanId : Bytes 8
  eKind : ESpanKind
  abTraceId : Bytes 16
  abSpanId : Bytes 8
  sName : List UInt8
  sTraceParent : List UInt8
  sLogger : List UInt8
  name_le : sName.length ≤ 127
  traceParent_le : sTraceParent.length ≤ 127
  logger_le : sLogger.length ≤ 127

/-- A tail of SPAN_BEGIN behind its length; nothing for an empty one. -/
def tail (bytes : List UInt8) : List UInt8 :=
  if bytes.isEmpty then [] else UInt8.ofNat bytes.length :: bytes

namespace SpanBeginFrame

def nFlags (f : SpanBeginFrame) : UInt8 :=
  (if f.sTraceParent.isEmpty then 0 else 2) ||| (if f.sLogger.isEmpty then 0 else 4)

def bytes (f : SpanBeginFrame) : List UInt8 :=
  [[5], [f.nLocalId], [f.nTaskIdx], [f.nFlags], encodeI64 f.nDcTime, f.abParentSpanId.val, [f.eKind.code],
    [UInt8.ofNat f.sName.length], [0, 0], f.abTraceId.val, f.abSpanId.val, f.sName, tail f.sTraceParent,
    tail f.sLogger].flatten

end SpanBeginFrame

structure SpanAttrFrame where
  abSpanId : Bytes 8
  nTaskIdx : UInt8
  nDcTime : Int64
  sKey : List UInt8
  value : SpanAttrValue
  key_le : sKey.length ≤ 31

def SpanAttrFrame.bytes (f : SpanAttrFrame) : List UInt8 :=
  (encodeSpanHeader 6 f.abSpanId f.nTaskIdx 0 f.nDcTime ++
    [[f.value.nValueType], [UInt8.ofNat f.sKey.length], [UInt8.ofNat f.value.bytes.length], [0], f.sKey,
      f.value.bytes]).flatten

structure SpanEventFrame where
  abSpanId : Bytes 8
  nTaskIdx : UInt8
  nDcTime : Int64
  sName : List UInt8
  name_le : sName.length ≤ 31

def SpanEventFrame.bytes (f : SpanEventFrame) : List UInt8 :=
  (encodeSpanHeader 7 f.abSpanId f.nTaskIdx 0 f.nDcTime ++
    [[UInt8.ofNat f.sName.length], [0], [0, 0], f.sName]).flatten

/-- SPAN_END. It has no room for a message. -/
structure SpanEndFrame where
  abSpanId : Bytes 8
  nTaskIdx : UInt8
  nDcTime : Int64
  nStatus : UInt8
  nMsgLen : UInt8

def SpanEndFrame.bytes (f : SpanEndFrame) : List UInt8 :=
  (encodeSpanHeader 8 f.abSpanId f.nTaskIdx 0 f.nDcTime ++ [[f.nStatus], [f.nMsgLen], [0, 0]]).flatten

inductive SpanFrame where
  | spanBegin (f : SpanBeginFrame)
  | spanAttr (f : SpanAttrFrame)
  | spanEvent (f : SpanEventFrame)
  | spanEnd (f : SpanEndFrame)

namespace SpanFrame

def bytes : SpanFrame → List UInt8
  | spanBegin f => f.bytes
  | spanAttr f => f.bytes
  | spanEvent f => f.bytes
  | spanEnd f => f.bytes

def nTotalLen : SpanFrame → Nat
  | spanBegin f => 24 + 16 + 8 + f.sName.length +
      (if f.sTraceParent.length > 0 then 1 + f.sTraceParent.length else 0) +
      (if f.sLogger.length > 0 then 1 + f.sLogger.length else 0)
  | spanAttr f => 23 + f.sKey.length + f.value.bytes.length
  | spanEvent f => 23 + f.sName.length
  | spanEnd _ => 23

theorem length_tail (bytes : List UInt8) :
    (tail bytes).length = if bytes.length > 0 then 1 + bytes.length else 0 := by
  cases bytes with
  | nil => rfl
  | cons b bytes => simp [tail, Nat.add_comm]

/-! ### What the frames say -/

def tailText? (bytes : List UInt8) : Option (Option String) :=
  if bytes.isEmpty then some none else (fromUtf8 bytes).map some

/-- The event that a frame is meant to be, if its texts are UTF-8. -/
def event? : SpanFrame → Option TraceWireEvent
  | spanBegin f => do
    let name ← fromUtf8 f.sName
    let traceparent ← tailText? f.sTraceParent
    let scopeNamespace ← tailText? f.sLogger
    pure (.spanBegin {
      localId := f.nLocalId, taskIndex := f.nTaskIdx, flags := f.nFlags, dcTime := f.nDcTime
      parentSpanId := f.abParentSpanId, kind := f.eKind.code, name, traceparent
      traceId := f.abTraceId, spanId := f.abSpanId, scopeNamespace := scopeNamespace.getD "" })
  | spanAttr f => do
    let key ← fromUtf8 f.sKey
    let value ← f.value.value?
    pure (.spanAttr {
      spanId := f.abSpanId, taskIndex := f.nTaskIdx, flags := 0, dcTime := f.nDcTime, key, value })
  | spanEvent f => do
    let name ← fromUtf8 f.sName
    pure (.spanEvent {
      spanId := f.abSpanId, taskIndex := f.nTaskIdx, flags := 0, dcTime := f.nDcTime, name, attrs := [] })
  | spanEnd f =>
    -- the bytes of a message would have to follow
    if f.nMsgLen = 0 then
      some (.spanEnd {
        spanId := f.abSpanId, taskIndex := f.nTaskIdx, flags := 0, dcTime := f.nDcTime
        status := f.nStatus, message := "" })
    else none

theorem exists_wireText {bytes : List UInt8} (isText : fromUtf8 bytes = some text)
    (fits : bytes.length ≤ limit) : ∃ t : WireText limit, t.text = text ∧ utf8Bytes t.text = bytes := by
  have same := utf8Bytes_of_fromUtf8 bytes text isText
  exact ⟨⟨text, by rw [same]; exact fits⟩, rfl, same⟩

theorem exists_wireTail {bytes : List UInt8} (isText : tailText? bytes = some text)
    (fits : bytes.length ≤ 127) :
    ∃ t : Option (WireText 127), t.map WireText.text = text ∧ encodeOptional t = tail bytes ∧
      t.isSome = !bytes.isEmpty := by
  unfold tailText? at isText
  unfold tail
  split at isText
  next empty =>
    cases isText
    exact ⟨none, rfl, by rw [if_pos empty]; rfl, by rw [empty]; rfl⟩
  next filled =>
    obtain ⟨text, decoded, rfl⟩ := Option.map_eq_some_iff.mp isText
    obtain ⟨t, rfl, same⟩ := exists_wireText decoded fits
    refine ⟨some t, rfl, ?_, by rw [Bool.eq_false_of_not_eq_true filled]; rfl⟩
    rw [if_neg filled]
    simp [encodeOptional, WireText.encode, WireText.length, same]

theorem flags_iff (f : SpanBeginFrame) :
    (f.nFlags &&& 0x02 ≠ 0 ↔ !f.sTraceParent.isEmpty) ∧ (f.nFlags &&& 0x04 ≠ 0 ↔ !f.sLogger.isEmpty) := by
  unfold SpanBeginFrame.nFlags
  generalize f.sTraceParent.isEmpty = noParent
  generalize f.sLogger.isEmpty = noScope
  revert noParent noScope
  decide

theorem exists_wireValue {v : SpanAttrValue} (isValue : v.value? = some value) :
    ∃ w : WireAttrValue, w.value = value ∧ w.typeId = v.nValueType ∧ w.encode = v.bytes := by
  cases v with
  | lint v => cases isValue; exact ⟨.i64 v, rfl, rfl, rfl⟩
  | lreal v => cases isValue; exact ⟨.f64 v, rfl, rfl, rfl⟩
  | bool v => cases isValue; exact ⟨.bool v, rfl, rfl, rfl⟩
  | string v fits =>
    obtain ⟨text, decoded, rfl⟩ := Option.map_eq_some_iff.mp isValue
    obtain ⟨t, rfl, same⟩ := exists_wireText decoded fits
    exact ⟨.string t, rfl, rfl, same⟩

theorem exists_wireMessage {frame : SpanFrame} (means : frame.event? = some ev) :
    ∃ m : WireMessage, m.encode = frame.bytes ∧ ∀ env, m.message env = .traceEvent ev := by
  cases frame with
  | spanBegin f =>
    simp only [event?, Option.bind_eq_bind, Option.bind_eq_some_iff, Option.pure_def] at means
    obtain ⟨name, isName, traceparent, isParent, scope, isScope, same⟩ := means
    cases same
    obtain ⟨n, rfl, nameBytes⟩ := exists_wireText isName f.name_le
    obtain ⟨p, rfl, parentBytes, hasParent⟩ := exists_wireTail isParent f.traceParent_le
    obtain ⟨s, rfl, scopeBytes, hasScope⟩ := exists_wireTail isScope f.logger_le
    refine ⟨.spanBegin {
      localId := f.nLocalId, taskIndex := f.nTaskIdx, flags := f.nFlags, dcTime := f.nDcTime
      parentSpanId := f.abParentSpanId, kind := f.eKind.code, reserved := ⟨[0, 0], rfl⟩
      traceId := f.abTraceId, spanId := f.abSpanId, name := n, traceparent := p, scopeNamespace := s
      traceparent_flag := by rw [hasParent]; exact (flags_iff f).1
      namespace_flag := by rw [hasScope]; exact (flags_iff f).2 }, ?_, fun _ => rfl⟩
    simp only [WireMessage.encode, WireSpanBegin.encode, WireText.length, nameBytes, parentBytes, scopeBytes]
    rfl
  | spanAttr f =>
    simp only [event?, Option.bind_eq_bind, Option.bind_eq_some_iff, Option.pure_def] at means
    obtain ⟨key, isKey, value, isValue, same⟩ := means
    cases same
    obtain ⟨k, rfl, keyBytes⟩ := exists_wireText isKey f.key_le
    obtain ⟨v, rfl, type, valueBytes⟩ := exists_wireValue isValue
    refine ⟨.spanAttr {
      spanId := f.abSpanId, taskIndex := f.nTaskIdx, flags := 0, dcTime := f.nDcTime, reserved := 0
      key := k, value := v }, ?_, fun _ => rfl⟩
    simp only [WireMessage.encode, WireSpanAttr.encode, WireText.length, keyBytes, type, valueBytes]
    rfl
  | spanEvent f =>
    simp only [event?, Option.bind_eq_bind, Option.bind_eq_some_iff, Option.pure_def] at means
    obtain ⟨name, isName, same⟩ := means
    cases same
    obtain ⟨n, rfl, nameBytes⟩ := exists_wireText isName f.name_le
    refine ⟨.spanEvent {
      spanId := f.abSpanId, taskIndex := f.nTaskIdx, flags := 0, dcTime := f.nDcTime, reserved := 0
      name := n, attrs := [], attrs_le := by decide }, ?_, fun _ => rfl⟩
    simp only [WireMessage.encode, WireSpanPoint.encode, WireText.length, nameBytes]
    simp [bytes, SpanEventFrame.bytes, leBytes]
  | spanEnd f =>
    simp only [event?, Option.ite_none_right_eq_some] at means
    obtain ⟨noMessage, same⟩ := means
    cases same
    refine ⟨.spanEnd {
      spanId := f.abSpanId, taskIndex := f.nTaskIdx, flags := 0, dcTime := f.nDcTime, status := f.nStatus
      reserved := 0, text := ⟨"", by decide⟩ }, ?_, fun _ => rfl⟩
    have noText : utf8Bytes "" = [] := by decide
    simp [WireMessage.encode, WireSpanEnd.encode, WireText.length, bytes, SpanEndFrame.bytes, noMessage,
      noText, leBytes]

theorem messageAt_iff {frame : SpanFrame} (means : frame.event? = some ev) (env : Env)
    (before after : List UInt8) (message : Message) :
    MessageAt env (before ++ (frame.bytes ++ after)) before.length message ↔ message = .traceEvent ev := by
  obtain ⟨m, bytes, event⟩ := exists_wireMessage means
  rw [← bytes, messageAt_encode_iff, event]

end SpanFrame

end TcOtel.Plc
