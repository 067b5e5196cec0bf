import TcOtel.Ads.MetricSlices
import TcOtel.Ads.RoundTrip
import TcOtel.Plc.Metrics

/-!
# The layout of an aggregate batch

`encodeBatch` lays a batch out as the wire format documents it: the fixed header, the ids if
the flags announce them, the name, the unit, the namespace if the flags announce one, and a
slot for each sample. Texts are padded with zeros to the sample size. `decode_metric_aggregate`
inverts this layout for every schema and every combination of flags that the format has.
-/

namespace TcOtel.Plc

open Decoding Memory Ads Ads.Push Slicing

/-! ### Samples in the layout -/

def padded (size : Nat) (bytes : List UInt8) : List UInt8 := bytes ++ List.replicate (size - bytes.length) 0

def wideBytes (s : String) : List UInt8 := (s.toList.flatMap utf16Encode).flatMap fun u => leBytes 2 u.toNat

/-- A sample, as it is laid out in `sample_size` bytes. -/
def samplePayload (size : Nat) : MetricAggregateSample → List UInt8
  | .bool b => [if b then 1 else 0]
  | .numeric f => leBytes 8 f.bits.toNat
  | .discrete bytes => bytes
  | .string s => padded size (utf8Bytes s)
  | .wstring s => padded size (wideBytes s)
  | .numericAggregated _ values => values.flatMap fun f => leBytes 8 f.bits.toNat

/-- A sample of the kind that a batch of this schema holds. A text is shorter than its slot or
fills it, and has no zero at its end, where padding starts. -/
def Represents (schema : MetricBodySchema) (statMask : UInt8) (size : Nat) : MetricAggregateSample → Prop
  | .bool _ => schema = .bool
  | .numeric _ => schema = .numeric
  | .discrete bytes => schema = .discrete ∧ bytes.length = size
  | .string s => schema = .string ∧ (utf8Bytes s).length ≤ size ∧ s.toList.getLast? ≠ some '\x00'
  | .wstring s => schema = .wstring ∧ (wideBytes s).length ≤ size ∧ s.toList.getLast? ≠ some '\x00'
  | .numericAggregated mask values =>
    schema = .numericAggregated ∧ mask = statMask ∧ values.length = countOnes statMask

instance (schema : MetricBodySchema) (statMask : UInt8) (size : Nat) :
    (sample : MetricAggregateSample) → Decidable (Represents schema statMask size sample)
  | .bool _ | .numeric _ => inferInstanceAs (Decidable (_ = _))
  | .discrete _ => inferInstanceAs (Decidable (_ ∧ _))
  | .string _ | .wstring _ | .numericAggregated .. => inferInstanceAs (Decidable (_ ∧ _ ∧ _))

section Samples

variable {schema : MetricBodySchema} {statMask : UInt8} {size : Nat}

theorem length_padded (fits : bytes.length ≤ size) : (padded size bytes).length = size := by
  simp [padded]
  omega

theorem length_samplePayload (represents : Represents schema statMask size sample)
    (allowed : sizeAllowed schema statMask size = true) : (samplePayload size sample).length = size := by
  cases sample with
  | bool b =>
    obtain rfl : schema = .bool := represents
    have one : size = 1 := by simpa [sizeAllowed] using allowed
    simp [samplePayload, one]
  | numeric f =>
    obtain rfl : schema = .numeric := represents
    have eight : size = 8 := by simpa [sizeAllowed] using allowed
    simp [samplePayload, eight]
  | discrete bytes => exact represents.2
  | string s | wstring s => exact length_padded represents.2.1
  | numericAggregated mask values =>
    obtain ⟨rfl, rfl, length⟩ := represents
    simp only [sizeAllowed, Bool.and_eq_true, beq_iff_eq] at allowed
    simp [samplePayload, length, allowed.2]

theorem rdropWhile_padding {α : Type} {p : α → Bool} {text padding : List α} (zeros : ∀ x ∈ padding, p x = true)
    (last : ∀ x ∈ text.getLast?, p x = false) : (text ++ padding).rdropWhile p = text := by
  rw [List.rdropWhile, List.reverse_append, List.dropWhile_append_of_pos (by simpa using zeros)]
  rcases List.eq_nil_or_concat text with rfl | ⟨front, x, rfl⟩
  · rfl
  · have stays : p x = false := last x (by simp)
    simp [stays]

theorem zero_notMem_utf16Encode (other : c ≠ '\x00') : 0 ∉ utf16Encode c := by
  have valid := c.valid
  have positive : c.toNat ≠ 0 := by
    intro zero
    refine other ?_
    rw [← Char.ofNat_toNat c, zero]
  have bound : c.toNat < 0x110000 := by
    rcases valid with low | high
    · exact Nat.lt_trans low (by decide)
    · exact high.2
  unfold utf16Encode
  split
  next basic =>
    simp only [List.mem_singleton]
    intro zero
    have value := congrArg UInt16.toNat zero
    rw [UInt16.toNat_ofNat', Nat.mod_eq_of_lt basic] at value
    exact positive value.symm
  next wide =>
    simp only [List.mem_cons, List.not_mem_nil, or_false, not_or]
    constructor
    all_goals
      intro zero
      have value := congrArg UInt16.toNat zero
      simp at value
      omega

theorem getLast_flatMap {α : Type} [DecidableEq α] {zero : α} {encode : Char → List α} (text : List Char)
    (last : text.getLast? ≠ some '\x00') (nonempty : ∀ c, encode c ≠ [])
    (other : ∀ c, c ≠ '\x00' → zero ∉ encode c) : ∀ x ∈ (text.flatMap encode).getLast?, (x == zero) = false := by
  rcases List.eq_nil_or_concat text with rfl | ⟨front, c, rfl⟩
  · simp
  · have differs : c ≠ '\x00' := by simpa using last
    intro x isLast
    rw [List.concat_eq_append, List.flatMap_append, List.flatMap_singleton,
      List.getLast?_append_of_ne_nil _ (nonempty c)] at isLast
    have inside := List.mem_of_getLast? isLast
    simp only [beq_eq_false_iff_ne]
    rintro rfl
    exact other c differs inside

theorem utf16Units_replicate (n : Nat) : ∀ u ∈ utf16Units (List.replicate n 0), (u == 0) = true := by
  induction n using Nat.strongRecOn with
  | ind n ih =>
    intro u member
    obtain rfl | rfl | ⟨m, rfl⟩ : n = 0 ∨ n = 1 ∨ ∃ m, n = m + 2 := by
      by_cases small : n < 2
      · omega
      · exact .inr (.inr ⟨n - 2, by omega⟩)
    · simp [utf16Units] at member
    · simp [utf16Units] at member
    · rw [List.replicate_succ] at member
      rcases List.mem_cons.mp member with rfl | later
      · rfl
      · exact ih m (by omega) u later

theorem decodeSample_samplePayload (represents : Represents schema statMask size sample) :
    decodeSample schema statMask (samplePayload size sample) = sample := by
  cases sample with
  | bool b =>
    obtain rfl : schema = .bool := represents
    cases b <;> rfl
  | numeric f =>
    obtain rfl : schema = .numeric := represents
    have read : readF64 (leBytes 8 f.bits.toNat ++ []) 0 = f := readF64_start f
    exact congrArg MetricAggregateSample.numeric read
  | discrete bytes =>
    obtain ⟨rfl, -⟩ := represents
    rfl
  | string s =>
    obtain ⟨rfl, -, last⟩ := represents
    have text : (padded size (utf8Bytes s)).rdropWhile (· == 0) = utf8Bytes s := by
      refine rdropWhile_padding (by simp) ?_
      rw [utf8Bytes_eq_flatMap]
      refine getLast_flatMap s.toList last (fun c => ?_) (fun c other => ?_)
      · exact String.utf8EncodeChar_ne_nil
      · rwa [nul_mem_utf8EncodeChar]
    rw [samplePayload, decodeSample, text, fromUtf8Lossy_utf8Bytes]
  | wstring s =>
    obtain ⟨rfl, -, last⟩ := represents
    have units : (utf16Units (padded size (wideBytes s))).rdropWhile (· == 0) = s.toList.flatMap utf16Encode := by
      rw [padded, wideBytes, utf16Units_append]
      refine rdropWhile_padding (utf16Units_replicate _) ?_
      refine getLast_flatMap s.toList last (fun c => ?_) (fun c other => zero_notMem_utf16Encode other)
      unfold utf16Encode
      split <;> simp
    rw [samplePayload, decodeSample, units, utf16Lossy_flatMap_utf16Encode, String.ofList_toList]
  | numericAggregated mask values =>
    -- the layout has no text here, so that its samples are those of a frame of the PLC
    obtain ⟨rfl, rfl, length⟩ := represents
    have under : Reading.Under ⟨.numericAggregated, mask, .off⟩ ⟨.none, .numericAggregated mask values⟩ :=
      ⟨rfl, rfl, rfl, length⟩
    exact Reading.decodeSample_payload under

end Samples

/-! ### A batch in the layout -/

def stamps (b : MetricAggregateBatch) : List Stamp :=
  match b.sampleCycleOffsets, b.sampleDcTimes with
  | some offsets, _ => offsets.map .cycleOffset
  | none, some times => times.map .dcTime
  | none, none => List.replicate b.samples.length .none

def slotsOf (b : MetricAggregateBatch) : List (List UInt8) :=
  List.zipWith (fun stamp sample => stamp.bytes ++ samplePayload b.sampleSize.toNat sample) (stamps b) b.samples

def frameOf (b : MetricAggregateBatch) : MetricFrame where
  header :=
    { nFlags := b.flags
      eBodySchema := Metrics.schemaByte (some b.bodySchema)
      nSampleSize := b.sampleSize
      nSampleCount := UInt32.ofNat b.samples.length
      nMetricId := b.metricId
      nTaskIndex := b.taskIndex
      nStatMask := b.statMask
      nCycleCountStart := b.cycleCountStart
      nCycleCountEnd := b.cycleCountEnd
      nDcTimeStart := b.dcTimeStart
      nDcTimeEnd := b.dcTimeEnd
      nNameLen := UInt8.ofNat (utf8Bytes b.name).length
      nUnitLen := UInt8.ofNat (utf8Bytes b.unit).length }
  span := b.traceId.bind fun traceId => b.spanId.map fun spanId => (traceId, spanId)
  name := utf8Bytes b.name
  unit := utf8Bytes b.unit
  scope := utf8Bytes b.scopeNamespace
  body := (slotsOf b).flatten

def namespaceBytes (b : MetricAggregateBatch) : List UInt8 :=
  if hasFlag b.flags metricFlagHasNamespace then
    UInt8.ofNat (utf8Bytes b.scopeNamespace).length :: utf8Bytes b.scopeNamespace
  else []

/-- The documented layout of a batch. -/
def encodeBatch (b : MetricAggregateBatch) : List UInt8 := (frameOf b).bytesWith (namespaceBytes b)

/-- A batch that the format can represent: what the flags announce is there, the two kinds of
time stamps exclude each other, every sample is one of the schema, and the lengths fit their
fields. -/
structure Representable (b : MetricAggregateBatch) : Prop where
  size : sizeAllowed b.bodySchema b.statMask b.sampleSize.toNat = true
  samples : ∀ sample ∈ b.samples, Represents b.bodySchema b.statMask b.sampleSize.toNat sample
  count : b.samples.length < 2 ^ 32
  name : (utf8Bytes b.name).length < 256
  unit : (utf8Bytes b.unit).length < 256
  scope : (utf8Bytes b.scopeNamespace).length < 256
  noScope : hasFlag b.flags metricFlagHasNamespace = false → b.scopeNamespace = ""
  trace : b.traceId.isSome = hasFlag b.flags metricFlagHasTraceCtx
  span : b.spanId.isSome = hasFlag b.flags metricFlagHasTraceCtx
  exclusive : (hasFlag b.flags metricFlagHasSampleTs && hasFlag b.flags metricFlagHasSampleTsDc) = false
  cycles : b.sampleCycleOffsets.map List.length =
    if hasFlag b.flags metricFlagHasSampleTs then some b.samples.length else none
  dcTimes : b.sampleDcTimes.map List.length =
    if hasFlag b.flags metricFlagHasSampleTsDc then some b.samples.length else none

/-! ### Decoding the layout -/

theorem zipWith_left {α β γ : Type} {f : α → β → γ} {g : γ → α} {xs : List α} {ys : List β}
    (length : xs.length = ys.length) (left : ∀ x ∈ xs, ∀ y ∈ ys, g (f x y) = x) : (List.zipWith f xs ys).map g = xs := by
  have first : ∀ p ∈ xs.zip ys, (g ∘ Function.uncurry f) p = p.1 := by
    intro p member
    obtain ⟨inLeft, inRight⟩ := List.of_mem_zip member
    exact left p.1 inLeft p.2 inRight
  rw [← List.map_uncurry_zip_eq_zipWith, List.map_map, List.map_congr_left first, List.map_fst_zip (Nat.le_of_eq length)]

namespace Representable

variable {b : MetricAggregateBatch}

/-- The kind of time stamps that the flags announce. -/
def timesOf (b : MetricAggregateBatch) : SampleTimes :=
  if hasFlag b.flags metricFlagHasSampleTs then .cycles
  else if hasFlag b.flags metricFlagHasSampleTsDc then .dc
  else .off

section

variable (h : Representable b)
include h

theorem stamped : (frameOf b).Stamped (timesOf b) := by
  have exclusive := h.exclusive
  constructor
  all_goals
    show hasFlag b.flags _ = _
    unfold timesOf
    cases cycles : hasFlag b.flags metricFlagHasSampleTs <;> cases dc : hasFlag b.flags metricFlagHasSampleTsDc <;>
      simp_all

theorem stamps_spec : (stamps b).length = b.samples.length ∧ ∀ stamp ∈ stamps b, stamp.times = timesOf b := by
  have cycles := h.cycles
  have dcTimes := h.dcTimes
  unfold stamps timesOf
  cases offsets : b.sampleCycleOffsets with
  | some offsets =>
    rw [offsets] at cycles
    split at cycles
    next set =>
      rw [if_pos set]
      exact ⟨by simpa using cycles, by simp [Stamp.times]⟩
    · cases cycles
  | none =>
    rw [offsets] at cycles
    split at cycles
    · cases cycles
    next clear =>
      rw [if_neg clear]
      cases times : b.sampleDcTimes with
      | some times =>
        rw [times] at dcTimes
        split at dcTimes
        next set =>
          rw [if_pos set]
          exact ⟨by simpa using dcTimes, by simp [Stamp.times]⟩
        · cases dcTimes
      | none =>
        rw [times] at dcTimes
        split at dcTimes
        · cases dcTimes
        next clear =>
          rw [if_neg clear]
          exact ⟨List.length_replicate, by simp +contextual [Stamp.times]⟩

theorem length_slots : ∀ slot ∈ slotsOf b, slot.length = b.sampleSize.toNat + (timesOf b).size := by
  intro slot member
  obtain ⟨length, times⟩ := h.stamps_spec
  rw [slotsOf, ← List.map_uncurry_zip_eq_zipWith] at member
  obtain ⟨⟨stamp, sample⟩, pair, rfl⟩ := List.mem_map.mp member
  obtain ⟨inStamps, inSamples⟩ := List.of_mem_zip pair
  rw [Function.uncurry_apply_pair, List.length_append, stamp.length_bytes, times stamp inStamps,
    length_samplePayload (h.samples sample inSamples) h.size, Nat.add_comm]

theorem length_body : (frameOf b).body.length = b.samples.length * (b.sampleSize.toNat + (timesOf b).size) := by
  have count : (slotsOf b).length = b.samples.length := by
    rw [slotsOf, List.length_zipWith, h.stamps_spec.1, Nat.min_self]
  show (slotsOf b).flatten.length = _
  rw [List.length_flatten, List.map_congr_left h.length_slots, List.map_const', List.sum_replicate, count,
    smul_eq_mul]

/-- The slots are read back one by one. -/
theorem slots_frameOf :
    (frameOf b).slots ((frameOf b).header.nSampleSize.toNat + (timesOf b).size) = slotsOf b := by
  have count : (frameOf b).header.nSampleCount.toNat = (slotsOf b).length := by
    rw [slotsOf, List.length_zipWith, h.stamps_spec.1, Nat.min_self]
    exact Nat.mod_eq_of_lt h.count
  rw [MetricFrame.slots, count]
  exact map_range_extract_flatten h.length_slots

theorem samples_slotsOf :
    (slotsOf b).map (fun slot => decodeSample b.bodySchema b.statMask (slot.drop (timesOf b).size)) = b.samples := by
  obtain ⟨length, times⟩ := h.stamps_spec
  rw [slotsOf, List.zipWith_comm]
  refine zipWith_left length.symm fun sample inSamples stamp inStamps => ?_
  rw [← times stamp inStamps, ← stamp.length_bytes, List.drop_left,
    decodeSample_samplePayload (h.samples sample inSamples)]

theorem offsets_slotsOf : (if hasFlag b.flags metricFlagHasSampleTs then
    some ((slotsOf b).map (readU16 · 0)) else none) = b.sampleCycleOffsets := by
  have cycles := h.cycles
  split
  next set =>
    rw [if_pos set] at cycles
    obtain ⟨offsets, present, length⟩ := Option.map_eq_some_iff.mp cycles
    rw [slotsOf, stamps, present]
    simp only [List.zipWith_map_left]
    exact congrArg some (zipWith_left length fun offset _ sample _ => readU16_start offset)
  next clear =>
    rw [if_neg clear, Option.map_eq_none_iff] at cycles
    exact cycles.symm

theorem dcTimes_slotsOf : (if hasFlag b.flags metricFlagHasSampleTsDc then
    some ((slotsOf b).map (readI64 · 0)) else none) = b.sampleDcTimes := by
  have cycles := h.cycles
  have dcTimes := h.dcTimes
  split
  next set =>
    -- the other kind of time stamps is absent then
    have other : hasFlag b.flags metricFlagHasSampleTs = false := by simpa [set] using h.exclusive
    rw [other, if_neg Bool.false_ne_true, Option.map_eq_none_iff] at cycles
    rw [if_pos set] at dcTimes
    obtain ⟨times, present, length⟩ := Option.map_eq_some_iff.mp dcTimes
    rw [slotsOf, stamps, cycles, present]
    simp only [List.zipWith_map_left]
    exact congrArg some (zipWith_left length fun time _ sample _ => readI64_start time)
  next clear =>
    rw [if_neg clear, Option.map_eq_none_iff] at dcTimes
    exact dcTimes.symm

theorem ids_frameOf : (frameOf b).span.map Prod.fst = b.traceId ∧ (frameOf b).span.map Prod.snd = b.spanId := by
  have both : b.traceId.isSome = b.spanId.isSome := h.trace.trans h.span.symm
  show Option.map Prod.fst (b.traceId.bind _) = _ ∧ Option.map Prod.snd (b.traceId.bind _) = _
  cases trace : b.traceId <;> cases span : b.spanId <;> simp_all

theorem event_frameOf : (frameOf b).event b.bodySchema (timesOf b).size b.name b.unit b.scopeNamespace = b := by
  have samples := h.samples_slotsOf
  have offsets := h.offsets_slotsOf
  have times := h.dcTimes_slotsOf
  obtain ⟨trace, span⟩ := h.ids_frameOf
  rw [MetricFrame.event, h.slots_frameOf, trace, span]
  show MetricAggregateBatch.mk _ _ _ _ _ _ _ _ _ _ _ _ _ _ _ ((slotsOf b).map _) (if _ then _ else _)
    (if _ then _ else _) = b
  rw [show (frameOf b).header.nStatMask = b.statMask from rfl, samples]
  rw [show (frameOf b).header.nFlags = b.flags from rfl, offsets, times]
  rfl

theorem decodeMetricAggregate_encodeBatch :
    decodeMetricAggregate (encodeBatch b) = some (.metricAggregateBatch b) := by
  have span : hasFlag (frameOf b).header.nFlags metricFlagHasTraceCtx = (frameOf b).span.isSome := by
    have trace := h.trace
    have span := h.span
    show hasFlag b.flags metricFlagHasTraceCtx = (b.traceId.bind _).isSome
    cases ids : b.traceId <;> cases other : b.spanId <;> simp_all
  have name : (frameOf b).header.nNameLen.toNat = (frameOf b).name.length := Nat.mod_eq_of_lt h.name
  have unit : (frameOf b).header.nUnitLen.toNat = (frameOf b).unit.length := Nat.mod_eq_of_lt h.unit
  have scope : MetricFrame.NamespaceAt (frameOf b).header.nFlags (namespaceBytes b) (some b.scopeNamespace) := by
    unfold namespaceBytes
    split
    next set =>
      have present := MetricFrame.namespaceAt_present set h.scope
      rwa [fromUtf8_utf8Bytes] at present
    next clear =>
      have absent : hasFlag b.flags metricFlagHasNamespace = false := by simpa using clear
      rw [h.noScope absent]
      exact MetricFrame.namespaceAt_absent absent
  have schema : MetricBodySchema.fromByte (frameOf b).header.eBodySchema = some b.bodySchema := by
    show MetricBodySchema.fromByte (Metrics.schemaByte (some b.bodySchema)) = _
    cases b.bodySchema <;> rfl
  have ts := MetricFrame.tsPrefix_eq h.stamped
  have nameText : fromUtf8 (frameOf b).name = some b.name := fromUtf8_utf8Bytes _
  have unitText : fromUtf8 (frameOf b).unit = some b.unit := fromUtf8_utf8Bytes _
  have size : sizeAllowed b.bodySchema (frameOf b).header.nStatMask (frameOf b).header.nSampleSize.toNat = true :=
    h.size
  have length : (frameOf b).body.length =
      (frameOf b).header.nSampleCount.toNat * ((frameOf b).header.nSampleSize.toNat + (timesOf b).size) := by
    rw [h.length_body]
    exact congrArg (· * _) (Nat.mod_eq_of_lt h.count).symm
  rw [encodeBatch, (frameOf b).decode_bytesWith span name unit scope, MetricFrame.received, schema, ts, nameText, unitText]
  simp only [Option.bind_eq_bind, Option.bind_some, size, length, h.event_frameOf]
  rfl

end

end Representable

/-- `decode_metric_aggregate` inverts the layout: from the frame of any batch that the format
can represent it returns the batch. It accepts only frames of the length that they announce,
and no index or slice of it is out of bounds, on any byte string. -/
theorem decodeMetricAggregate_inverts_layout :
    (∀ b, Representable b → sliceMetricAggregate (encodeBatch b) = .done (.metricAggregateBatch b)) ∧
    (∀ bytes event, sliceMetricAggregate bytes = .done event → bytes.length = announcedLength bytes) ∧
    ∀ bytes start stop length, sliceMetricAggregate bytes ≠ .outOfBounds start stop length := by
  refine ⟨fun b h => ?_, fun bytes event accepted => ?_, fun bytes start stop length => ?_⟩
  · rw [sliceMetricAggregate_eq, h.decodeMetricAggregate_encodeBatch]
    rfl
  · rw [sliceMetricAggregate_eq] at accepted
    cases decoded : decodeMetricAggregate bytes with
    | none =>
      rw [decoded] at accepted
      cases accepted
    | some other => exact length_of_accepted decoded
  · rw [sliceMetricAggregate_eq]
    intro outside
    cases decoded : decodeMetricAggregate bytes with
    | none | some event =>
      rw [decoded] at outside
      cases outside

/-- Two texts with their times, the ids of a span and an empty namespace. -/
def sampleTexts : MetricAggregateBatch where
  metricId := 7
  taskIndex := 1
  flags := 0x99
  bodySchema := .string
  sampleSize := 6
  statMask := 0
  cycleCountStart := 100
  cycleCountEnd := 120
  dcTimeStart := 5
  dcTimeEnd := 9
  name := "mode"
  unit := ""
  scopeNamespace := ""
  traceId := some (Bytes.zero 16)
  spanId := some (Bytes.zero 8)
  samples := [.string "auto", .string "manual"]
  sampleCycleOffsets := none
  sampleDcTimes := some [5, 9]

theorem sampleTexts_representable : Representable sampleTexts := by
  constructor
  all_goals decide +kernel

theorem decodeMetricAggregate_inverts_layout_texts : Representable sampleTexts ∧
      sliceMetricAggregate (encodeBatch sampleTexts) = .done (.metricAggregateBatch sampleTexts) :=
  ⟨sampleTexts_representable, decodeMetricAggregate_inverts_layout.1 sampleTexts sampleTexts_representable⟩

end TcOtel.Plc
