import TcOtel.Ads.DiagnosticsPush
import TcOtel.Lib.Slices

/-!
# The slices of `decode_metric_aggregate`

`decodeMetricAggregate` reads a frame with functions that are total. Here the decoder is
written with the index and slice expressions of the source, each of which stops the program
when it is out of bounds, and with its loop over the slots. The two are equal on every byte
string: lengths and counts from the frame never lead outside of it, and no sum of them wraps,
because the sample size is bounded before the body is measured.
-/

namespace TcOtel.Ads.Push

open Decoding Memory Slicing Slicing.Sliced

/-! ### The decoder with its slices -/

def sliceU32 (bytes : List UInt8) (off : Nat) : Sliced UInt32 := do
  let raw ← slice bytes off (off + 4)
  pure (UInt32.ofNat (leNat raw))

def sliceI64 (bytes : List UInt8) (off : Nat) : Sliced Int64 := do
  let raw ← slice bytes off (off + 8)
  pure (Int64.ofUInt64 (UInt64.ofNat (leNat raw)))

def sliceF64 (bytes : List UInt8) (off : Nat) : Sliced F64 := do
  let raw ← slice bytes off (off + 8)
  pure ⟨UInt64.ofNat (leNat raw)⟩

def sliceTraceContext (bytes : List UInt8) (flags : UInt8) (off : Nat) :
    Sliced ((Option (Bytes 16) × Option (Bytes 8)) × Nat) :=
  if hasFlag flags metricFlagHasTraceCtx then do
    refuseIf (bytes.length < off + pushMetricAggTraceSize)
    let tid ← slice bytes off (off + 16)
    let sid ← slice bytes (off + 16) (off + 24)
    pure ((Bytes.ofList? 16 tid, Bytes.ofList? 8 sid), off + pushMetricAggTraceSize)
  else pure ((none, none), off)

def sliceText (bytes : List UInt8) (off n : Nat) : Sliced (String × Nat) := do
  refuseIf (bytes.length < off + n)
  let raw ← slice bytes off (off + n)
  let text ← ofOption (fromUtf8 raw)
  pure (text, off + n)

def sliceNamespace (bytes : List UInt8) (flags : UInt8) (off : Nat) : Sliced (String × Nat) :=
  if hasFlag flags metricFlagHasNamespace then do
    refuseIf (bytes.length < off + 1)
    let nsLen ← index bytes off
    sliceText bytes (off + 1) nsLen.toNat
  else pure ("", off)

def sliceSample (schema : MetricBodySchema) (statMask : UInt8) (slot : List UInt8) : Sliced MetricAggregateSample :=
  match schema with
  | .bool => do
    let b ← index slot 0
    pure (.bool (b != 0))
  | .numeric => do
    let f ← sliceF64 slot 0
    pure (.numeric f)
  | .discrete => pure (.discrete slot)
  | .string => do
    let live ← slice slot 0 (((rposition (fun b => !(b == 0)) slot).map (· + 1)).getD 0)
    pure (.string (fromUtf8Lossy live))
  | .wstring => pure (.wstring (String.ofList (utf16Lossy ((utf16Units slot).rdropWhile (· == 0)))))
  | .numericAggregated => do
    let values ← forRange (countOnes statMask) (fun k values => do
      let f ← sliceF64 slot (k * 8)
      pure (values ++ [f])) []
    pure (.numericAggregated statMask values)

structure Collected where
  samples : List MetricAggregateSample
  sampleCycleOffsets : Option (List UInt16)
  sampleDcTimes : Option (List Int64)

structure SlotFormat where
  flags : UInt8
  schema : MetricBodySchema
  statMask : UInt8
  sampleSize : Nat
  ts : Nat

def SlotFormat.stride (format : SlotFormat) : Nat := format.sampleSize + format.ts

def sliceStamp (format : SlotFormat) (body : List UInt8) (slotBase : Nat) (c : Collected) : Sliced Collected :=
  if hasFlag format.flags metricFlagHasSampleTs then do
    let low ← index body slotBase
    let high ← index body (slotBase + 1)
    pure { c with sampleCycleOffsets := c.sampleCycleOffsets.map (· ++ [UInt16.ofNat (leNat [low, high])]) }
  else if hasFlag format.flags metricFlagHasSampleTsDc then do
    let dc ← sliceI64 body slotBase
    pure { c with sampleDcTimes := c.sampleDcTimes.map (· ++ [dc]) }
  else pure c

def sliceSlot (format : SlotFormat) (body : List UInt8) (i : Nat) (c : Collected) : Sliced Collected := do
  let slotBase := i * format.stride
  let c ← sliceStamp format body slotBase c
  let valueOff := slotBase + format.ts
  let slot ← slice body valueOff (valueOff + format.sampleSize)
  let sample ← sliceSample format.schema format.statMask slot
  pure { c with samples := c.samples ++ [sample] }

def SlotFormat.start (format : SlotFormat) : Collected where
  samples := []
  sampleCycleOffsets := if hasFlag format.flags metricFlagHasSampleTs then some [] else none
  sampleDcTimes := if hasFlag format.flags metricFlagHasSampleTsDc then some [] else none

def sliceMetricAggregate (bytes : List UInt8) : Sliced DiagEvent := do
  refuseIf (bytes.length < pushMetricAggHeaderSize)
  let version ← index bytes 0
  let eventType ← index bytes 1
  refuseIf (version ≠ pushWireVersion ∨ eventType ≠ pushMetricAggEventType)
  let flags ← index bytes 2
  let schemaByte ← index bytes 3
  let bodySchema ← ofOption (MetricBodySchema.fromByte schemaByte)
  let sampleSize ← sliceU32 bytes 0x04
  let sampleCount ← sliceU32 bytes 0x08
  let metricId ← sliceU32 bytes 0x0C
  let taskIndex ← index bytes 0x10
  let statMask ← index bytes 0x11
  let cycleCountStart ← sliceU32 bytes 0x14
  let cycleCountEnd ← sliceU32 bytes 0x18
  let dcTimeStart ← sliceI64 bytes 0x20
  let dcTimeEnd ← sliceI64 bytes 0x28
  let nameLen ← index bytes 0x30
  let unitLen ← index bytes 0x31
  refuseIf (sizeAllowed bodySchema statMask sampleSize.toNat = false)
  let ((traceId, spanId), off) ← sliceTraceContext bytes flags pushMetricAggHeaderSize
  let (name, off) ← sliceText bytes off nameLen.toNat
  let (unit, off) ← sliceText bytes off unitLen.toNat
  let (scopeNamespace, off) ← sliceNamespace bytes flags off
  let ts ← ofOption (tsPrefix flags)
  let stride ← ofOption (checkedAdd sampleSize.toNat ts)
  let bodyLen ← ofOption (checkedMul sampleCount.toNat stride)
  refuseIf (bytes.length < wrappingAdd off bodyLen)
  let body ← slice bytes off (wrappingAdd off bodyLen)
  refuseIf (wrappingAdd off bodyLen ≠ bytes.length)
  let format : SlotFormat := ⟨flags, bodySchema, statMask, sampleSize.toNat, ts⟩
  let collected ← forRange sampleCount.toNat (sliceSlot format body) format.start
  pure (.metricAggregateBatch {
    metricId, taskIndex, flags, bodySchema, sampleSize, statMask, cycleCountStart, cycleCountEnd
    dcTimeStart, dcTimeEnd, name, unit, scopeNamespace, traceId, spanId
    samples := collected.samples
    sampleCycleOffsets := collected.sampleCycleOffsets
    sampleDcTimes := collected.sampleDcTimes })

/-! ### The parts in front of the body -/

section Parts

variable {bytes : List UInt8} {off : Nat}

theorem sliceU32_eq (inside : off + 4 ≤ bytes.length) : sliceU32 bytes off = done (readU32 bytes off) := by
  rw [sliceU32, slice_eq inside]
  rfl

theorem sliceI64_eq (inside : off + 8 ≤ bytes.length) : sliceI64 bytes off = done (readI64 bytes off) := by
  rw [sliceI64, slice_eq inside]
  rfl

theorem sliceF64_eq (inside : off + 8 ≤ bytes.length) : sliceF64 bytes off = done (readF64 bytes off) := by
  rw [sliceF64, slice_eq inside]
  rfl

theorem sliceTraceContext_eq (bytes : List UInt8) (flags : UInt8) (off : Nat) :
    sliceTraceContext bytes flags off = ofOption (traceContext? bytes flags off) := by
  unfold sliceTraceContext traceContext? part?
  split
  · by_cases short : bytes.length < off + pushMetricAggTraceSize
    · simp [short]
      rfl
    · have inside : off + 24 ≤ bytes.length := Nat.le_of_not_lt short
      have trace : slice bytes off (off + 16) = done (extract bytes off 16) := slice_eq (by omega)
      have span : slice bytes (off + 16) (off + 24) = done (extract bytes (off + 16) 8) :=
        @slice_eq (off + 16) 8 _ bytes (by omega)
      have first : (extract bytes off 24).take 16 = extract bytes off 16 := by
        simp [extract, List.take_take]
      have second : (extract bytes off 24).drop 16 = extract bytes (off + 16) 8 := by
        simp [extract, List.drop_take]
      rw [refuseIf, if_neg short, if_neg short, trace, span, ← first, ← second]
      rfl
  · rfl

theorem sliceText_eq (bytes : List UInt8) (off n : Nat) :
    sliceText bytes off n = ofOption (text? bytes off n) := by
  unfold sliceText text? part?
  by_cases short : bytes.length < off + n
  · simp [short]
    rfl
  · rw [slice_eq (Nat.le_of_not_lt short)]
    simp only [short]
    exact bind_eq_ofOption rfl fun text _ => rfl

theorem byteAt_extract (bytes : List UInt8) (off : Nat) : byteAt (extract bytes off 1) 0 = byteAt bytes off := by
  simp [byteAt, extract]

theorem sliceNamespace_eq (bytes : List UInt8) (flags : UInt8) (off : Nat) :
    sliceNamespace bytes flags off = ofOption (scopeNamespace? bytes flags off) := by
  unfold sliceNamespace scopeNamespace? part?
  split
  · by_cases short : bytes.length < off + 1
    · simp [short]
      rfl
    · rw [index_eq (Nat.lt_of_not_le fun outside => short (by omega))]
      simp only [short, if_false, Option.bind_eq_bind, Option.bind_some, byteAt_extract]
      exact sliceText_eq bytes (off + 1) _
  · rfl

end Parts

/-! ### The loop over the slots -/

theorem sliceSample_eq (size : sizeAllowed schema statMask slot.length = true) :
    sliceSample schema statMask slot = done (decodeSample schema statMask slot) := by
  cases schema with
  | bool =>
    have one : slot.length = 1 := by simpa [sizeAllowed] using size
    rw [sliceSample, index_eq (by omega)]
    rfl
  | numeric =>
    have eight : slot.length = 8 := by simpa [sizeAllowed] using size
    rw [sliceSample, sliceF64_eq (by omega)]
    rfl
  | discrete => rfl
  | string =>
    have live := rdropWhile_eq_take (fun b : UInt8 => !(b == 0)) slot
    simp only [Bool.not_not] at live
    have inside : ((rposition (fun b : UInt8 => !(b == 0)) slot).map (· + 1)).getD 0 ≤ slot.length := by
      cases found : rposition (fun b : UInt8 => !(b == 0)) slot with
      | none => exact Nat.zero_le _
      | some i => exact lt_of_rposition found
    rw [sliceSample, slice, if_pos ⟨Nat.zero_le _, inside⟩, decodeSample, live]
    rfl
  | wstring => rfl
  | numericAggregated =>
    have length : slot.length = countOnes statMask * 8 := by
      simp only [sizeAllowed, Bool.and_eq_true, beq_iff_eq] at size
      exact size.2
    have round : ∀ k < countOnes statMask, ∀ values : List F64,
        (do let f ← sliceF64 slot (k * 8); pure (values ++ [f]) : Sliced (List F64)) =
          done (values ++ [readF64 slot (k * 8)]) := by
      intro k below values
      rw [sliceF64_eq (by omega)]
      rfl
    rw [sliceSample, forRange_eq round, foldl_push]
    rfl

namespace SlotFormat

variable {format : SlotFormat} {body : List UInt8}

def next (format : SlotFormat) (body : List UInt8) (c : Collected) (i : Nat) : Collected where
  samples := c.samples ++ [decodeSample format.schema format.statMask
    ((extract body (i * format.stride) format.stride).drop format.ts)]
  sampleCycleOffsets :=
    if hasFlag format.flags metricFlagHasSampleTs then
      c.sampleCycleOffsets.map (· ++ [readU16 (extract body (i * format.stride) format.stride) 0])
    else c.sampleCycleOffsets
  sampleDcTimes :=
    if hasFlag format.flags metricFlagHasSampleTs then c.sampleDcTimes
    else if hasFlag format.flags metricFlagHasSampleTsDc then
      c.sampleDcTimes.map (· ++ [readI64 (extract body (i * format.stride) format.stride) 0])
    else c.sampleDcTimes

theorem extract_slot {base stride count : Nat} (inside : count ≤ stride) :
    extract (extract body base stride) 0 count = extract body base count := by
  have start : 0 + count ≤ stride := by omega
  rw [extract.eq_def body base stride, extract_take start, extract_drop, Nat.add_zero]

theorem extract_two (inside : base + 2 ≤ body.length) :
    extract body base 2 = [body.getD base 0, body.getD (base + 1) 0] := by
  have first : base < body.length := by omega
  have second : base + 1 < body.length := by omega
  rw [extract, List.drop_eq_getElem_cons first, List.drop_eq_getElem_cons second, List.take_succ_cons,
    List.take_succ_cons]
  simp [first, second]

section

variable (ts : tsPrefix format.flags = some format.ts)
include ts

theorem sliceStamp_eq (inside : i * format.stride + format.stride ≤ body.length) (c : Collected) :
    sliceStamp format body (i * format.stride) c = done { format.next body c i with samples := c.samples } := by
  unfold tsPrefix at ts
  unfold sliceStamp next
  generalize i * format.stride = base at inside ⊢
  by_cases cycles : hasFlag format.flags metricFlagHasSampleTs = true
  · -- the two bytes of the cycle offset
    rw [if_pos cycles] at ts
    split at ts
    · cases ts
    have two : format.stride = format.sampleSize + 2 := by rw [stride, ← Option.some.inj ts]; rfl
    have read : readU16 (extract body base format.stride) 0 =
        UInt16.ofNat (leNat [body.getD base 0, body.getD (base + 1) 0]) := by
      rw [readU16, extract_slot (by omega), extract_two (by omega)]
    rw [index_eq (by omega), done_bind, index_eq (by omega), done_bind, ← read]
    simp only [cycles]
    rfl
  · rw [if_neg cycles] at ts ⊢
    by_cases dc : hasFlag format.flags metricFlagHasSampleTsDc = true
    · -- the eight bytes of the time
      rw [if_pos dc] at ts
      have eight : format.stride = format.sampleSize + 8 := by rw [stride, ← Option.some.inj ts]; rfl
      have read : readI64 (extract body base format.stride) 0 = readI64 body base := by
        rw [readI64, extract_slot (by omega), readI64]
      rw [sliceI64_eq (by omega), ← read]
      simp only [cycles, dc]
      rfl
    · simp only [cycles, dc]
      rfl

theorem sliceSlot_eq (size : sizeAllowed format.schema format.statMask format.sampleSize = true)
    (length : body.length = count * format.stride) (below : i < count) (c : Collected) :
    sliceSlot format body i c = done (format.next body c i) := by
  have inside : i * format.stride + format.stride ≤ body.length := by
    have rows : (i + 1) * format.stride ≤ count * format.stride := Nat.mul_le_mul_right _ below
    rw [length, ← Nat.succ_mul]
    exact rows
  have value : i * format.stride + format.ts + format.sampleSize ≤ body.length := by
    rw [stride] at inside
    rw [stride]
    omega
  have slot : (extract body (i * format.stride) format.stride).drop format.ts =
      extract body (i * format.stride + format.ts) format.sampleSize := by
    simp [extract, List.drop_take, stride]
  have sized : (extract body (i * format.stride + format.ts) format.sampleSize).length = format.sampleSize :=
    length_extract value
  have sample : sliceSample format.schema format.statMask (extract body (i * format.stride + format.ts) format.sampleSize) =
      done (decodeSample format.schema format.statMask (extract body (i * format.stride + format.ts) format.sampleSize)) :=
    sliceSample_eq (by rwa [sized])
  simp only [sliceSlot, sliceStamp_eq ts inside, done_bind, slice_eq value, sample, next, slot]
  rfl

theorem foldl_next (n : Nat) : (List.range n).foldl (format.next body) format.start = {
      samples := ((List.range n).map fun i => extract body (i * format.stride) format.stride).map fun slot =>
        decodeSample format.schema format.statMask (slot.drop format.ts)
      sampleCycleOffsets :=
        if hasFlag format.flags metricFlagHasSampleTs then
          some (((List.range n).map fun i => extract body (i * format.stride) format.stride).map (readU16 · 0))
        else none
      sampleDcTimes :=
        if hasFlag format.flags metricFlagHasSampleTsDc then
          some (((List.range n).map fun i => extract body (i * format.stride) format.stride).map (readI64 · 0))
        else none } := by
  -- the two kinds of time stamps exclude each other
  have exclusive : hasFlag format.flags metricFlagHasSampleTs = true →
      hasFlag format.flags metricFlagHasSampleTsDc = false := by
    intro cycles
    by_contra dc
    simp [tsPrefix, cycles, dc] at ts
  induction n with
  | zero => simp [start]
  | succ n ih =>
    rw [List.range_succ, List.foldl_concat, ih, next]
    by_cases cycles : hasFlag format.flags metricFlagHasSampleTs = true
    · simp [cycles, exclusive cycles]
    · by_cases dc : hasFlag format.flags metricFlagHasSampleTsDc = true <;> simp [cycles, dc]

end

end SlotFormat

/-! ### The whole frame -/

theorem traceContext_eq (read : traceContext? bytes flags off = some (ids, next)) :
    next = off + if hasFlag flags metricFlagHasTraceCtx then pushMetricAggTraceSize else 0 := by
  unfold traceContext? part? at read
  split at read
  next set =>
    rw [if_pos set]
    split at read
    · cases read
    · cases read
      rfl
  next clear =>
    rw [if_neg clear]
    cases read
    rfl

theorem text_eq (read : text? bytes off n = some (text, next)) : next = off + n := by
  unfold text? part? at read
  split at read
  · cases read
  · simp only [Option.bind_eq_bind, Option.bind_some, Option.bind_eq_some_iff] at read
    obtain ⟨_, -, same⟩ := read
    cases same
    rfl

theorem namespace_eq (read : scopeNamespace? bytes flags off = some (text, next)) :
    next = off + if hasFlag flags metricFlagHasNamespace then 1 + (byteAt bytes off).toNat else 0 := by
  unfold scopeNamespace? part? at read
  split at read
  next set =>
    rw [if_pos set]
    split at read
    · cases read
    · rw [text_eq read, byteAt_extract, Nat.add_assoc]
  next clear =>
    rw [if_neg clear]
    cases read
    rfl

theorem size_le (allowed : sizeAllowed schema statMask size = true) : size ≤ 65535 := by
  have ones : countOnes statMask ≤ 8 := by
    have filtered := List.length_filter_le (fun i => statMask.toNat.testBit i) (List.range 8)
    rwa [List.length_range] at filtered
  cases schema <;> simp [sizeAllowed] at allowed <;> omega

theorem tsPrefix_le (read : tsPrefix flags = some ts) : ts ≤ 8 := by
  unfold tsPrefix at read
  split at read
  · split at read
    · cases read
    · cases read
      decide
  · split at read
    · cases read
      decide
    · cases read
      decide

theorem sliceMetricAggregate_eq (bytes : List UInt8) :
    sliceMetricAggregate bytes = ofOption (decodeMetricAggregate bytes) := by
  unfold sliceMetricAggregate decodeMetricAggregate
  refine bind_eq_ofOption (refuseIf_eq (by omega)) fun _ long => ?_
  have header : 52 ≤ bytes.length := by
    by_contra short
    simp [pushMetricAggHeaderSize, short, guard] at long
  have byte (i : Nat) (inside : i < 52) : index bytes i = done (byteAt bytes i) := index_eq (by omega)
  have word (off : Nat) (inside : off + 4 ≤ 52) : sliceU32 bytes off = done (readU32 bytes off) :=
    sliceU32_eq (by omega)
  have time (off : Nat) (inside : off + 8 ≤ 52) : sliceI64 bytes off = done (readI64 bytes off) :=
    sliceI64_eq (by omega)
  simp only [byte 0 (by decide), byte 1 (by decide), byte 2 (by decide), byte 3 (by decide), byte 0x10 (by decide),
    byte 0x11 (by decide), byte 0x30 (by decide), byte 0x31 (by decide), word 4 (by decide), word 8 (by decide),
    word 0x0C (by decide), word 0x14 (by decide), word 0x18 (by decide), time 0x20 (by decide),
    time 0x28 (by decide), done_bind]
  refine bind_eq_ofOption (refuseIf_eq (by tauto)) fun _ _ => bind_eq_ofOption rfl fun bodySchema _ => ?_
  refine bind_eq_ofOption (refuseIf_eq (by simp)) fun _ allowed => ?_
  refine bind_eq_ofOption (sliceTraceContext_eq _ _ _) fun ids afterIds => ?_
  refine bind_eq_ofOption (sliceText_eq _ _ _) fun name afterName => ?_
  refine bind_eq_ofOption (sliceText_eq _ _ _) fun unit afterUnit => ?_
  refine bind_eq_ofOption (sliceNamespace_eq _ _ _) fun scope afterScope => ?_
  refine bind_eq_ofOption rfl fun ts stamped => ?_
  -- how far the body reaches
  have size : sizeAllowed bodySchema (byteAt bytes 0x11) (readU32 bytes 4).toNat = true := by
    by_contra other
    simp [guard, other] at allowed
  have samples := (readU32 bytes 8).toNat_lt
  have slot : (readU32 bytes 4).toNat + ts ≤ 65543 := Nat.add_le_add (size_le size) (tsPrefix_le stamped)
  have product : (readU32 bytes 8).toNat * ((readU32 bytes 4).toNat + ts) ≤ 2 ^ 32 * 65543 :=
    Nat.mul_le_mul (Nat.le_of_lt samples) slot
  have front : scope.2 ≤ 1000 := by
    have first := traceContext_eq afterIds
    have second := text_eq afterName
    have third := text_eq afterUnit
    have fourth := namespace_eq afterScope
    have nameLen := (byteAt bytes 0x30).toNat_lt
    have unitLen := (byteAt bytes 0x31).toNat_lt
    have scopeLen := (byteAt bytes unit.2).toNat_lt
    simp only [pushMetricAggHeaderSize, pushMetricAggTraceSize] at first
    split at first <;> split at fourth <;> omega
  have sum : checkedAdd (readU32 bytes 4).toNat ts = some ((readU32 bytes 4).toNat + ts) := by
    rw [checkedAdd, if_pos (by omega)]
  have measured : checkedMul (readU32 bytes 8).toNat ((readU32 bytes 4).toNat + ts) =
      some ((readU32 bytes 8).toNat * ((readU32 bytes 4).toNat + ts)) := by
    rw [checkedMul, if_pos (by omega)]
  have reach := wrappingAdd_eq (a := scope.2)
    (b := (readU32 bytes 8).toNat * ((readU32 bytes 4).toNat + ts)) (by omega)
  simp only [sum, measured, ofOption, done_bind, reach, part?]
  by_cases short : bytes.length < scope.2 + (readU32 bytes 8).toNat * ((readU32 bytes 4).toNat + ts)
  · rw [refuseIf, if_pos short, if_pos short]
    rfl
  · rw [refuseIf, if_neg short, if_neg short, done_bind, slice_eq (Nat.le_of_not_lt short), done_bind]
    refine bind_eq_ofOption (x := guard _) (refuseIf_eq (by tauto)) fun _ _ => ?_
    -- the slots, one after the other
    have length := length_extract (Nat.le_of_not_lt short)
    rw [forRange_eq (fun i below c => SlotFormat.sliceSlot_eq stamped size length below c), done_bind,
      SlotFormat.foldl_next stamped]
    rfl

/-- The length that a frame announces: its flags say which optional parts it has, and the
lengths and counts in it how long the parts are. -/
def announcedLength (bytes : List UInt8) : Nat :=
  let flags := byteAt bytes 2
  let scopeAt := pushMetricAggHeaderSize + (if hasFlag flags metricFlagHasTraceCtx then pushMetricAggTraceSize else 0) +
    (byteAt bytes 0x30).toNat + (byteAt bytes 0x31).toNat
  scopeAt + (if hasFlag flags metricFlagHasNamespace then 1 + (byteAt bytes scopeAt).toNat else 0) +
    (readU32 bytes 8).toNat * ((readU32 bytes 4).toNat + (tsPrefix flags).getD 0)

theorem length_of_accepted
    (accepted : decodeMetricAggregate bytes = some event) : bytes.length = announcedLength bytes := by
  simp only [decodeMetricAggregate, Option.bind_eq_bind, Option.bind_eq_some_iff] at accepted
  obtain ⟨_, _, _, _, schema, _, _, _, ids, afterIds, name, afterName, unit, afterUnit, scope, afterScope, ts, stamped,
    body, afterBody, _, ended, _⟩ := accepted
  have last : body.2 = bytes.length := by
    by_contra other
    simp [other] at ended
  have reached : body.2 = scope.2 + (readU32 bytes 8).toNat * ((readU32 bytes 4).toNat + ts) := by
    unfold part? at afterBody
    split at afterBody
    · cases afterBody
    · cases afterBody
      rfl
  rw [← last, reached, namespace_eq afterScope, text_eq afterUnit, text_eq afterName, traceContext_eq afterIds,
    announcedLength, stamped]
  rfl

end TcOtel.Ads.Push
