import TcOtel.Ads.DiagnosticsPush

/-!
# Frames of an `FB_Metrics`

The frame that `_DoFlush` puts together: the fixed header, the ids of a span, the name, the
unit, the namespace and the samples. `decode_bytes` says what the receiver makes of any such
frame: it accepts it if the texts are UTF-8, the sizes go with the schema and the body has
just the length that the header announces.
-/

namespace TcOtel.Plc

open Decoding Memory Ads.Push

/-- `ST_PushMetricAggHeader`, without its padding. -/
structure PushMetricAggHeader where
  nFlags : UInt8
  eBodySchema : UInt8
  nSampleSize : UInt32
  nSampleCount : UInt32
  nMetricId : UInt32
  nTaskIndex : UInt8
  nStatMask : UInt8
  nCycleCountStart : UInt32
  nCycleCountEnd : UInt32
  nDcTimeStart : Int64
  nDcTimeEnd : Int64
  nNameLen : UInt8
  nUnitLen : UInt8
deriving DecidableEq

def PushMetricAggHeader.bytes (h : PushMetricAggHeader) : List UInt8 :=
  leBytes 1 pushWireVersion.toNat ++ (leBytes 1 pushMetricAggEventType.toNat ++ (leBytes 1 h.nFlags.toNat ++
  (leBytes 1 h.eBodySchema.toNat ++ (leBytes 4 h.nSampleSize.toNat ++ (leBytes 4 h.nSampleCount.toNat ++
  (leBytes 4 h.nMetricId.toNat ++ (leBytes 1 h.nTaskIndex.toNat ++ (leBytes 1 h.nStatMask.toNat ++
  (leBytes 2 0 ++ (leBytes 4 h.nCycleCountStart.toNat ++ (leBytes 4 h.nCycleCountEnd.toNat ++ (leBytes 4 0 ++
  (leBytes 8 h.nDcTimeStart.toUInt64.toNat ++ (leBytes 8 h.nDcTimeEnd.toUInt64.toNat ++
  (leBytes 1 h.nNameLen.toNat ++ (leBytes 1 h.nUnitLen.toNat ++ leBytes 2 0))))))))))))))))

theorem PushMetricAggHeader.length_bytes (h : PushMetricAggHeader) :
    h.bytes.length = pushMetricAggHeaderSize := by
  simp [bytes, pushMetricAggHeaderSize]

structure MetricFrame where
  header : PushMetricAggHeader
  /-- The ids of the span that the frame refers to. -/
  span : Option (Bytes 16 × Bytes 8)
  name : List UInt8
  unit : List UInt8
  scope : List UInt8
  body : List UInt8
deriving DecidableEq

namespace MetricFrame

def spanBytes (f : MetricFrame) : List UInt8 :=
  match f.span with
  | none => []
  | some (traceId, spanId) => traceId.val ++ spanId.val

def scopeBytes (f : MetricFrame) : List UInt8 :=
  if f.scope.isEmpty then [] else UInt8.ofNat f.scope.length :: f.scope

def head (f : MetricFrame) : List UInt8 :=
  f.header.bytes ++ (f.spanBytes ++ (f.name ++ (f.unit ++ f.scopeBytes)))

def bytes (f : MetricFrame) : List UInt8 := f.head ++ f.body

/-- The header announces the parts in front of the samples as they are. -/
structure Announced (f : MetricFrame) : Prop where
  span : hasFlag f.header.nFlags metricFlagHasTraceCtx = f.span.isSome
  name : f.header.nNameLen.toNat = f.name.length
  unit : f.header.nUnitLen.toNat = f.unit.length
  scope : hasFlag f.header.nFlags metricFlagHasNamespace = !f.scope.isEmpty
  scopeLength : f.scope.length < 256

/-! ### Reading the parts -/

theorem part_at (before part rest : List UInt8) :
    part? (before ++ (part ++ rest)) before.length part.length = some (part, (before ++ part).length) := by
  rw [part?, if_neg (by simp only [List.length_append]; omega), extract_middle, List.length_append]

theorem text_at (before part rest : List UInt8) : text? (before ++ (part ++ rest)) before.length part.length =
      (fromUtf8 part).map fun text => (text, (before ++ part).length) := by
  rw [text?, part_at]
  simp only [Option.bind_eq_bind, Option.bind_some]
  cases fromUtf8 part <;> rfl

theorem traceContext_at (f : MetricFrame)
    (announced : hasFlag f.header.nFlags metricFlagHasTraceCtx = f.span.isSome) (rest : List UInt8) :
    traceContext? (f.header.bytes ++ (f.spanBytes ++ rest)) f.header.nFlags pushMetricAggHeaderSize =
      some ((f.span.map Prod.fst, f.span.map Prod.snd), (f.header.bytes ++ f.spanBytes).length) := by
  rw [traceContext?, announced, ← f.header.length_bytes]
  cases ids : f.span with
  | none => simp [spanBytes, ids]
  | some pair =>
    obtain ⟨⟨traceId, traceLength⟩, ⟨spanId, spanLength⟩⟩ := pair
    have size : (traceId ++ spanId).length = pushMetricAggTraceSize := by
      rw [List.length_append, traceLength, spanLength]
      rfl
    have trace : (traceId ++ spanId).take 16 = traceId := List.take_left' traceLength
    have span : (traceId ++ spanId).drop 16 = spanId := List.drop_left' traceLength
    simp only [spanBytes, ids, ← size, part_at, Option.bind_eq_bind, Option.bind_some, Bytes.ofList?, trace, span,
      traceLength, spanLength]
    rfl

def NamespaceAt (flags : UInt8) (part : List UInt8) (text : Option String) : Prop :=
  ∀ before rest, scopeNamespace? (before ++ (part ++ rest)) flags before.length =
    text.map fun text => (text, (before ++ part).length)

theorem namespaceAt_absent (clear : hasFlag flags metricFlagHasNamespace = false) :
    NamespaceAt flags [] (some "") := by
  intro before rest
  simp [scopeNamespace?, clear]

theorem namespaceAt_present (set : hasFlag flags metricFlagHasNamespace = true)
    (short : text.length < 256) : NamespaceAt flags (UInt8.ofNat text.length :: text) (fromUtf8 text) := by
  intro before rest
  have length : (UInt8.ofNat text.length).toNat = text.length := Nat.mod_eq_of_lt short
  have lengthByte := part_at before [UInt8.ofNat text.length] (text ++ rest)
  have read := text_at (before ++ [UInt8.ofNat text.length]) text rest
  simp only [List.cons_append, List.append_assoc, List.nil_append, List.length_singleton] at lengthByte read ⊢
  rw [scopeNamespace?, set, if_pos rfl, lengthByte, Option.bind_eq_bind, Option.bind_some]
  simp only [byteAt, List.getD_cons_zero, length, read]

theorem scopeNamespace_at (f : MetricFrame) (announced : f.Announced) :
    NamespaceAt f.header.nFlags f.scopeBytes (fromUtf8 f.scope) := by
  by_cases empty : f.scope.isEmpty
  · have clear := announced.scope
    rw [empty] at clear
    have text : fromUtf8 f.scope = some "" := by
      rw [List.isEmpty_iff.mp empty]
      exact fromUtf8_utf8Bytes ""
    rw [scopeBytes, if_pos empty, text]
    exact namespaceAt_absent clear
  · have set : hasFlag f.header.nFlags metricFlagHasNamespace = true := by
      simpa [empty] using announced.scope
    rw [scopeBytes, if_neg empty]
    exact namespaceAt_present set announced.scopeLength

/-! ### The whole frame -/

def slots (f : MetricFrame) (stride : Nat) : List (List UInt8) :=
  (List.range f.header.nSampleCount.toNat).map fun i => extract f.body (i * stride) stride

def event (f : MetricFrame) (schema : MetricBodySchema) (ts : Nat) (name unit scope : String) :
    MetricAggregateBatch where
  metricId := f.header.nMetricId
  taskIndex := f.header.nTaskIndex
  flags := f.header.nFlags
  bodySchema := schema
  sampleSize := f.header.nSampleSize
  statMask := f.header.nStatMask
  cycleCountStart := f.header.nCycleCountStart
  cycleCountEnd := f.header.nCycleCountEnd
  dcTimeStart := f.header.nDcTimeStart
  dcTimeEnd := f.header.nDcTimeEnd
  name := name
  unit := unit
  scopeNamespace := scope
  traceId := f.span.map Prod.fst
  spanId := f.span.map Prod.snd
  samples := (f.slots (f.header.nSampleSize.toNat + ts)).map fun slot =>
    decodeSample schema f.header.nStatMask (slot.drop ts)
  sampleCycleOffsets :=
    if hasFlag f.header.nFlags metricFlagHasSampleTs then
      some ((f.slots (f.header.nSampleSize.toNat + ts)).map (readU16 · 0))
    else none
  sampleDcTimes :=
    if hasFlag f.header.nFlags metricFlagHasSampleTsDc then
      some ((f.slots (f.header.nSampleSize.toNat + ts)).map (readI64 · 0))
    else none

/-! The fields of the header, in a frame. -/

section Header

variable {h : PushMetricAggHeader} {frame rest : List UInt8}

theorem bytes_fixed (start : frame = h.bytes ++ rest) : byteAt frame 0 = pushWireVersion ∧
    byteAt frame 1 = pushMetricAggEventType ∧ byteAt frame 2 = h.nFlags ∧ byteAt frame 3 = h.eBodySchema ∧
    byteAt frame 0x10 = h.nTaskIndex ∧ byteAt frame 0x11 = h.nStatMask ∧ byteAt frame 0x30 = h.nNameLen ∧
    byteAt frame 0x31 = h.nUnitLen := by
  subst start
  simp [PushMetricAggHeader.bytes, byteAt_behind, byteAt_start, length_leBytes]

theorem words_fixed (start : frame = h.bytes ++ rest) : readU32 frame 0x04 = h.nSampleSize ∧
    readU32 frame 0x08 = h.nSampleCount ∧ readU32 frame 0x0C = h.nMetricId ∧
    readU32 frame 0x14 = h.nCycleCountStart ∧ readU32 frame 0x18 = h.nCycleCountEnd ∧
    readI64 frame 0x20 = h.nDcTimeStart ∧ readI64 frame 0x28 = h.nDcTimeEnd := by
  subst start
  simp [PushMetricAggHeader.bytes, readU32_behind, readU32_start, readI64_behind, readI64_start, length_leBytes]

end Header

def bytesWith (f : MetricFrame) (scopeBytes : List UInt8) : List UInt8 :=
  f.header.bytes ++ (f.spanBytes ++ (f.name ++ (f.unit ++ (scopeBytes ++ f.body))))

theorem bytes_eq_bytesWith (f : MetricFrame) : f.bytes = f.bytesWith f.scopeBytes := by
  simp [bytes, head, bytesWith]

/-- What the receiver makes of a frame, given what it makes of the namespace. -/
def received (f : MetricFrame) (scopeText : Option String) : Option DiagEvent := do
  let schema ← MetricBodySchema.fromByte f.header.eBodySchema
  guard (sizeAllowed schema f.header.nStatMask f.header.nSampleSize.toNat)
  let name ← fromUtf8 f.name
  let unit ← fromUtf8 f.unit
  let scope ← scopeText
  let ts ← tsPrefix f.header.nFlags
  guard (f.body.length = f.header.nSampleCount.toNat * (f.header.nSampleSize.toNat + ts))
  pure (.metricAggregateBatch (f.event schema ts name unit scope))

theorem decode_bytesWith (f : MetricFrame) {scopeBytes : List UInt8}
    (announcedSpan : hasFlag f.header.nFlags metricFlagHasTraceCtx = f.span.isSome)
    (announcedName : f.header.nNameLen.toNat = f.name.length)
    (announcedUnit : f.header.nUnitLen.toNat = f.unit.length)
    (scopeAt : NamespaceAt f.header.nFlags scopeBytes scopeText) :
    decodeMetricAggregate (f.bytesWith scopeBytes) = f.received scopeText := by
  -- the frame, split at each part in turn
  have span := f.traceContext_at announcedSpan (f.name ++ (f.unit ++ (scopeBytes ++ f.body)))
  have name := text_at (f.header.bytes ++ f.spanBytes) f.name (f.unit ++ (scopeBytes ++ f.body))
  have unit := text_at (f.header.bytes ++ f.spanBytes ++ f.name) f.unit (scopeBytes ++ f.body)
  have scope := scopeAt (f.header.bytes ++ f.spanBytes ++ f.name ++ f.unit) f.body
  have body := part_at (f.header.bytes ++ f.spanBytes ++ f.name ++ f.unit ++ scopeBytes) f.body []
  simp only [List.append_assoc, List.append_nil] at span name unit scope body
  rw [bytesWith]
  generalize whole : f.header.bytes ++ (f.spanBytes ++ (f.name ++ (f.unit ++ (scopeBytes ++ f.body)))) = frame at *
  have atSpan := whole.symm
  have long : pushMetricAggHeaderSize ≤ frame.length := by
    rw [atSpan, List.length_append, f.header.length_bytes]
    omega
  obtain ⟨version, eventType, flags, schema, taskIndex, statMask, nameLen, unitLen⟩ := bytes_fixed atSpan
  obtain ⟨size, count, metricId, cycleStart, cycleEnd, dcStart, dcEnd⟩ := words_fixed atSpan
  simp only [decodeMetricAggregate, received, version, eventType, flags, schema, taskIndex, statMask, nameLen, unitLen, size,
    count, metricId, cycleStart, cycleEnd, dcStart, dcEnd, long, and_self, guard, if_true, span,
    announcedName, announcedUnit, name, Option.bind_eq_bind, Option.pure_def, Option.bind_some]
  -- both sides now do the same steps
  refine Option.bind_congr fun schema _ => Option.bind_congr fun _ _ => ?_
  rw [Option.bind_map]
  refine Option.bind_congr fun nameText _ => ?_
  simp only [Function.comp_apply, unit]
  rw [Option.bind_map]
  refine Option.bind_congr fun unitText _ => ?_
  simp only [Function.comp_apply, scope]
  rw [Option.bind_map]
  refine Option.bind_congr fun scopeText _ => Option.bind_congr fun ts _ => ?_
  by_cases exact_ : f.body.length = f.header.nSampleCount.toNat * (f.header.nSampleSize.toNat + ts)
  · simp only [← exact_, body, Option.bind_some]
    rfl
  · rw [if_neg exact_]
    unfold part?
    split
    · rfl
    · have other : ¬(f.header.bytes ++ (f.spanBytes ++ (f.name ++ (f.unit ++ scopeBytes)))).length +
          f.header.nSampleCount.toNat * (f.header.nSampleSize.toNat + ts) = frame.length := by
        simp only [atSpan, List.length_append]
        omega
      simp only [Option.bind_some, other]
      rfl

theorem decode_bytes (f : MetricFrame) (announced : f.Announced) :
    decodeMetricAggregate f.bytes = f.received (fromUtf8 f.scope) := by
  rw [bytes_eq_bytesWith]
  exact f.decode_bytesWith announced.span announced.name announced.unit (f.scopeNamespace_at announced)

end MetricFrame

/-! ### Samples in their slots -/

inductive SampleTimes where
  | off | cycles | dc
deriving DecidableEq, Repr

def SampleTimes.size : SampleTimes → Nat
  | off => 0
  | cycles => metricSampleTsSize
  | dc => metricSampleTsDcSize

inductive Stamp where
  | none
  | cycleOffset (cycles : UInt16)
  | dcTime (ns : Int64)
deriving DecidableEq

namespace Stamp

def times : Stamp → SampleTimes
  | none => .off
  | cycleOffset _ => .cycles
  | dcTime _ => .dc

def bytes : Stamp → List UInt8
  | none => []
  | cycleOffset cycles => leBytes 2 cycles.toNat
  | dcTime ns => leBytes 8 ns.toUInt64.toNat

theorem length_bytes (stamp : Stamp) : stamp.bytes.length = stamp.times.size := by
  cases stamp <;> simp [bytes, times, SampleTimes.size, metricSampleTsSize, metricSampleTsDcSize]

end Stamp

structure Reading where
  stamp : Stamp
  value : MetricAggregateSample
deriving DecidableEq

structure Layout where
  schema : MetricBodySchema
  statMask : UInt8
  times : SampleTimes
deriving DecidableEq

/-- A value of the kind that a batch of this layout holds. Texts are never sampled. -/
def Layout.Shapes (layout : Layout) : MetricAggregateSample → Prop
  | .bool _ => layout.schema = .bool
  | .numeric _ => layout.schema = .numeric
  | .discrete _ => layout.schema = .discrete
  | .string _ | .wstring _ => False
  | .numericAggregated statMask values =>
    layout.schema = .numericAggregated ∧ statMask = layout.statMask ∧ values.length = countOnes statMask

instance (layout : Layout) : (value : MetricAggregateSample) → Decidable (layout.Shapes value)
  | .bool _ | .numeric _ | .discrete _ => inferInstanceAs (Decidable (_ = _))
  | .string _ | .wstring _ => .isFalse id
  | .numericAggregated .. => inferInstanceAs (Decidable (_ ∧ _ ∧ _))

namespace Reading

/-- The sample is laid out as the batch says. -/
def Under (layout : Layout) (r : Reading) : Prop := r.stamp.times = layout.times ∧ layout.Shapes r.value
deriving Decidable

/-- The value as it is written. Texts are never written. -/
def payload (r : Reading) : List UInt8 :=
  match r.value with
  | .bool b => [if b then 1 else 0]
  | .numeric f => leBytes 8 f.bits.toNat
  | .discrete bytes => bytes
  | .string _ | .wstring _ => []
  | .numericAggregated _ values => values.flatMap fun f => leBytes 8 f.bits.toNat

/-- The bytes reserved for the value. A statistic that is selected but not known is reserved
and not written. -/
def size (r : Reading) : Nat :=
  match r.value with
  | .numericAggregated statMask _ => countOnes statMask * 8
  | _ => r.payload.length

/-- The slot of a sample: its stamp and its value stand at the start of it. -/
def InSlot (r : Reading) (slot : List UInt8) : Prop :=
  slot.length = r.stamp.times.size + r.size ∧ r.stamp.bytes ++ r.payload <+: slot

variable {layout : Layout} {r : Reading} {slot : List UInt8}

theorem length_payload (under : r.Under layout) : r.payload.length = r.size := by
  obtain ⟨stamp, value⟩ := r
  cases value with
  | numericAggregated statMask values =>
    have length : values.length = countOnes statMask := under.2.2.2
    simp [payload, size, ← length]
  | _ => rfl

theorem InSlot.eq_of_under (inSlot : r.InSlot slot) (under : r.Under layout) :
    slot = r.stamp.bytes ++ r.payload := by
  refine (inSlot.2.eq_of_length ?_).symm
  rw [inSlot.1, List.length_append, r.stamp.length_bytes, length_payload under]

theorem decodeSample_payload (under : r.Under layout) :
    decodeSample layout.schema layout.statMask r.payload = r.value := by
  obtain ⟨stamp, value⟩ := r
  obtain ⟨-, shape⟩ := under
  cases value with
  | bool b =>
    rw [show layout.schema = .bool from shape]
    cases b <;> rfl
  | numeric f =>
    rw [show layout.schema = .numeric from shape]
    have read : readF64 (leBytes 8 f.bits.toNat ++ []) 0 = f := readF64_start f
    exact congrArg _ (by simpa using read)
  | discrete bytes =>
    rw [show layout.schema = .discrete from shape]
    rfl
  | string _ | wstring _ => cases shape
  | numericAggregated statMask values =>
    obtain ⟨schema, mask, length⟩ := shape
    rw [schema, ← mask]
    show MetricAggregateSample.numericAggregated statMask ((List.range (countOnes statMask)).map fun k =>
      readF64 (values.flatMap fun f => leBytes 8 f.bits.toNat) (k * 8)) = _
    congr 1
    -- one value every eight bytes
    have records := map_range_records (readF64 · 0) (fun f : F64 => length_leBytes 8 f.bits.toNat)
      (fun f rest => readF64_start f) values
    rw [List.map_id', length] at records
    simpa only [readF64, extract_drop, Nat.add_zero] using records

end Reading

/-! ### What the receiver reads -/

def readings (batch : MetricAggregateBatch) : List Reading :=
  match batch.sampleCycleOffsets, batch.sampleDcTimes with
  | some offsets, _ => List.zipWith (fun cycles value => ⟨.cycleOffset cycles, value⟩) offsets batch.samples
  | none, some times => List.zipWith (fun ns value => ⟨.dcTime ns, value⟩) times batch.samples
  | none, none => batch.samples.map fun value => ⟨.none, value⟩

namespace MetricFrame

structure Stamped (f : MetricFrame) (times : SampleTimes) : Prop where
  cycles : hasFlag f.header.nFlags metricFlagHasSampleTs = decide (times = .cycles)
  dc : hasFlag f.header.nFlags metricFlagHasSampleTsDc = decide (times = .dc)

def readSlot (layout : Layout) (slot : List UInt8) : Reading where
  stamp :=
    match layout.times with
    | .off => .none
    | .cycles => .cycleOffset (readU16 slot 0)
    | .dc => .dcTime (readI64 slot 0)
  value := decodeSample layout.schema layout.statMask (slot.drop layout.times.size)

variable {f : MetricFrame}

theorem tsPrefix_eq (stamped : f.Stamped times) : tsPrefix f.header.nFlags = some times.size := by
  rw [tsPrefix, stamped.cycles, stamped.dc]
  cases times <;> rfl

variable {layout : Layout}

theorem readings_event (stamped : f.Stamped layout.times)
    (mask : f.header.nStatMask = layout.statMask) (name unit scope : String) :
    readings (f.event layout.schema layout.times.size name unit scope) =
      (f.slots (f.header.nSampleSize.toNat + layout.times.size)).map (readSlot layout) := by
  obtain ⟨schema, statMask, times⟩ := layout
  simp only [readings, event, stamped.cycles, stamped.dc, mask]
  cases times <;> simp [readSlot]

theorem under_readSlot (known : layout.schema ≠ .string ∧ layout.schema ≠ .wstring)
    (slot : List UInt8) : (readSlot layout slot).Under layout := by
  obtain ⟨schema, statMask, times⟩ := layout
  constructor
  · cases times <;> rfl
  · cases schema with
    | string => exact absurd rfl known.1
    | wstring => exact absurd rfl known.2
    | numericAggregated => exact ⟨rfl, rfl, by simp⟩
    | _ => rfl

theorem readSlot_eq (inSlot : r.InSlot slot) (under : r.Under layout) : readSlot layout slot = r := by
  have value := Reading.decodeSample_payload under
  rw [inSlot.eq_of_under under]
  obtain ⟨schema, statMask, times⟩ := layout
  obtain ⟨same, -⟩ := under
  obtain ⟨stamp, sample⟩ := r
  obtain rfl : stamp.times = times := same
  have behind : (stamp.bytes ++ Reading.payload ⟨stamp, sample⟩).drop stamp.times.size =
      Reading.payload ⟨stamp, sample⟩ := by
    rw [← stamp.length_bytes, List.drop_left]
  simp only [readSlot, behind, value]
  cases stamp with
  | none => rfl
  | cycleOffset cycles => simp only [Stamp.times, Stamp.bytes, readU16_start]
  | dcTime ns => simp only [Stamp.times, Stamp.bytes, readI64_start]

/-- A body made of the slots of these samples. -/
def Filled (body : List UInt8) (window : List Reading) : Prop :=
  ∃ placed : List (Reading × List UInt8), placed.map Prod.fst = window ∧
    body = (placed.map Prod.snd).flatten ∧ ∀ p ∈ placed, p.1.InSlot p.2

/-- A frame made of samples, whatever they are, under the layout of its header. -/
structure Describes (f : MetricFrame) (layout : Layout) (window : List Reading) : Prop where
  announced : f.Announced
  stamped : f.Stamped layout.times
  schema : MetricBodySchema.fromByte f.header.eBodySchema = some layout.schema
  known : layout.schema ≠ .string ∧ layout.schema ≠ .wstring
  statMask : f.header.nStatMask = layout.statMask
  size : sizeAllowed layout.schema layout.statMask f.header.nSampleSize.toNat = true
  count : f.header.nSampleCount.toNat = window.length
  filled : Filled f.body window
  /-- Samples of the size that is announced, if they are of the kind that is announced. -/
  sized : ∀ r ∈ window, r.Under layout → r.size = f.header.nSampleSize.toNat

/-- The receiver accepts the frame and reads these samples. -/
def Accepted (f : MetricFrame) (window : List Reading) : Prop :=
  (∃ ts, tsPrefix f.header.nFlags = some ts ∧
    f.body.length = f.header.nSampleCount.toNat * (f.header.nSampleSize.toNat + ts)) ∧
  ∃ batch, decodeMetricAggregate f.bytes = some (.metricAggregateBatch batch) ∧ readings batch = window

/-- The name, the unit and the namespace are UTF-8. -/
def TextsValid (f : MetricFrame) : Prop :=
  (fromUtf8 f.name).isSome ∧ (fromUtf8 f.unit).isSome ∧ (fromUtf8 f.scope).isSome
deriving Decidable

section

variable {window : List Reading} (describes : f.Describes layout window)
include describes

theorem Describes.accepted_of_under (texts : f.TextsValid) (under : ∀ r ∈ window, r.Under layout) :
    f.Accepted window := by
  obtain ⟨placed, rfl, body, inSlots⟩ := describes.filled
  have underPlaced (p : Reading × List UInt8) (member : p ∈ placed) : p.1.Under layout :=
    under p.1 (List.mem_map_of_mem member)
  have lengths : ∀ slot ∈ placed.map Prod.snd, slot.length = f.header.nSampleSize.toNat + layout.times.size := by
    intro slot inside
    obtain ⟨p, member, rfl⟩ := List.mem_map.mp inside
    rw [(inSlots p member).1, (underPlaced p member).1,
      describes.sized p.1 (List.mem_map_of_mem member) (underPlaced p member), Nat.add_comm]
  have count : (placed.map Prod.snd).length = f.header.nSampleCount.toNat := by
    rw [describes.count, List.length_map, List.length_map]
  have length : f.body.length =
      f.header.nSampleCount.toNat * (f.header.nSampleSize.toNat + layout.times.size) := by
    rw [body, List.length_flatten, List.map_congr_left lengths, List.map_const', List.sum_replicate, count,
      smul_eq_mul]
  have read : f.slots (f.header.nSampleSize.toNat + layout.times.size) = placed.map Prod.snd := by
    rw [slots, ← count, body]
    exact map_range_extract_flatten lengths
  obtain ⟨name, unit, scope⟩ := texts
  obtain ⟨nameText, name⟩ := Option.isSome_iff_exists.mp name
  obtain ⟨unitText, unit⟩ := Option.isSome_iff_exists.mp unit
  obtain ⟨scopeText, scope⟩ := Option.isSome_iff_exists.mp scope
  refine ⟨⟨_, tsPrefix_eq describes.stamped, length⟩,
    f.event layout.schema layout.times.size nameText unitText scopeText, ?_, ?_⟩
  · rw [f.decode_bytes describes.announced, received, describes.schema, name, unit, scope, tsPrefix_eq describes.stamped]
    simp [describes.statMask, describes.size, length]
  · rw [readings_event describes.stamped describes.statMask, read, List.map_map]
    exact List.map_congr_left fun p member => readSlot_eq (inSlots p member) (underPlaced p member)

theorem Describes.under_of_accepted (accepted : f.Accepted window) :
    f.TextsValid ∧ ∀ r ∈ window, r.Under layout := by
  obtain ⟨-, batch, decoded, rfl⟩ := accepted
  rw [f.decode_bytes describes.announced, received, describes.schema, tsPrefix_eq describes.stamped] at decoded
  simp only [Option.bind_eq_bind, Option.bind_eq_some_iff, Option.some.injEq, Option.pure_def,
    DiagEvent.metricAggregateBatch.injEq] at decoded
  obtain ⟨_, rfl, _, -, nameText, name, unitText, unit, scopeText, scope, _, rfl, _, -, rfl⟩ := decoded
  refine ⟨⟨by simp [name], by simp [unit], by simp [scope]⟩, fun r member => ?_⟩
  rw [readings_event describes.stamped describes.statMask] at member
  obtain ⟨slot, -, rfl⟩ := List.mem_map.mp member
  exact under_readSlot describes.known slot

/-- A frame is accepted, with its samples, just when its texts are UTF-8 and every sample was
laid out as the header says. -/
theorem Describes.accepted_iff : f.Accepted window ↔ f.TextsValid ∧ ∀ r ∈ window, r.Under layout :=
  ⟨describes.under_of_accepted, fun ⟨texts, under⟩ => describes.accepted_of_under texts under⟩

end

end MetricFrame

end TcOtel.Plc
