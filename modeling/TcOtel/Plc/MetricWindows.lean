import TcOtel.Plc.Metrics

/-!
# The frames of an `FB_Metrics`

`Holds` ties the state of a metric to the samples of its open window, and every operation keeps
it. So every frame that is handed to the sender is made of the samples of its window, each in
the slot that its own settings gave it, behind a header with the settings of the flush. The
receiver accepts the frame, and reads those samples, just when the two agree.
-/

namespace TcOtel.Plc

open Decoding Memory Ads.Push Collecting

/-! ### Slots -/

theorem MetricFrame.Filled.nil : MetricFrame.Filled [] [] := ⟨[], rfl, rfl, by simp⟩

theorem MetricFrame.Filled.concat {body slot : List UInt8}
    (filled : MetricFrame.Filled body window) (inSlot : r.InSlot slot) :
    MetricFrame.Filled (body ++ slot) (window ++ [r]) := by
  obtain ⟨placed, rfl, rfl, inSlots⟩ := filled
  refine ⟨placed ++ [(r, slot)], by simp, by simp, ?_⟩
  exact List.forall_mem_append.mpr ⟨inSlots, List.forall_mem_singleton.mpr inSlot⟩

theorem prefix_extract_overwrite (fits : target ≤ area.length)
    (short : src.length ≤ count) : src <+: extract (overwrite area target src) target count := by
  obtain ⟨rest, rfl⟩ := Nat.exists_eq_add_of_le short
  rw [extract_overwrite_from fits]
  exact List.prefix_append ..

namespace Metrics

def body (fb : Metrics) : List UInt8 := extract (fb.frames fb.eActiveBuf) hdrReserve fb.nBodyOffset

/-- Values of this schema are sampled. Before the first value there is none, and texts are
refused. -/
def samples : Option MetricBodySchema → Bool
  | none | some .string | some .wstring => false
  | some .bool | some .numeric | some .discrete | some .numericAggregated => true

variable {schema : Option MetricBodySchema}

theorem samples_of_locked (locked : schema ≠ none)
    (noText : ¬(schema = some .string ∨ schema = some .wstring)) : samples schema := by
  cases schema with
  | none => exact absurd rfl locked
  | some schema =>
    cases schema with
    | string => exact absurd (.inl rfl) noText
    | wstring => exact absurd (.inr rfl) noText
    | bool | numeric | discrete | numericAggregated => rfl

/-- The sample size that goes with the schema and the mask. -/
def SizeFits (schema : Option MetricBodySchema) (nStatMask : UInt8) (nSampleSize : Nat) : Prop :=
  match schema with
  | none | some .string | some .wstring => True
  | some .bool => nSampleSize = 1
  | some .numeric => nSampleSize = 8
  | some .discrete => 1 ≤ nSampleSize ∧ nSampleSize ≤ 8
  | some .numericAggregated => nStatMask ≠ 0 ∧ nSampleSize = countOnes nStatMask * 8

/-- What the state says about the samples of the open window. Nothing is said about the
settings under which each of them was appended: those may have changed meanwhile. -/
structure Holds (fb : Metrics) (window : List Reading) : Prop where
  halves : ∀ half, (fb.frames half).length = frameSize
  inside : fb.nBodyOffset ≤ bodyCapacity
  filled : MetricFrame.Filled fb.body window
  count : fb.nSampleCount = window.length
  few : window.length ≤ fb.nBodyOffset
  sampling : window ≠ [] → samples fb.eBodySchema
  discrete : ∀ r ∈ window, ∀ bytes, r.value = .discrete bytes →
    fb.eBodySchema = some .discrete ∧ bytes.length = fb.nSampleSize
  oneStamp : ¬(fb.bRecordSampleTimes = true ∧ fb.bRecordSampleTimesDc = true)
  aggSize : fb.nAggSampleSize = countOnes fb.nStatMask * 8
  size : SizeFits fb.eBodySchema fb.nStatMask fb.nSampleSize

variable {fb : Metrics} {window : List Reading}

theorem holds_initial (sLogger : PlcString) : Holds (initial sLogger) [] where
  halves half := List.length_replicate
  inside := Nat.zero_le _
  filled := .nil
  count := rfl
  few := Nat.le_refl _
  sampling none := absurd rfl none
  discrete := by simp
  oneStamp := by simp [initial]
  aggSize := show 0 = countOnes 0 * 8 by decide
  size := trivial

theorem countOnes_pos (some : mask ≠ 0) : 0 < countOnes mask := by
  have all : ∀ n < 256, UInt8.ofNat n ≠ 0 → 0 < countOnes (UInt8.ofNat n) := by decide +kernel
  simpa using all mask.toNat mask.toNat_lt (by simpa using some)

theorem SizeFits.pos (fits : SizeFits schema mask n) (sampling : samples schema) : 0 < n := by
  match schema, fits, sampling with
  | some .bool, fits, _ => exact fits ▸ Nat.one_pos
  | some .numeric, fits, _ => exact fits ▸ (by decide)
  | some .discrete, fits, _ => exact fits.1
  | some .numericAggregated, fits, _ =>
    have pos := countOnes_pos fits.1
    have size := fits.2
    omega

theorem countOnes_le (mask : UInt8) : countOnes mask ≤ 8 :=
  (List.length_filter_le ..).trans (by simp)

theorem SizeFits.small (fits : SizeFits schema mask n) (sampling : samples schema) : n ≤ 64 := by
  have ones := countOnes_le mask
  match schema, fits, sampling with
  | some .bool, fits, _ => exact fits ▸ (by decide)
  | some .numeric, fits, _ => exact fits ▸ (by decide)
  | some .discrete, fits, _ => exact fits.2.trans (by decide)
  | some .numericAggregated, fits, _ =>
    have size := fits.2
    omega

theorem SizeFits.allowed {schema : MetricBodySchema} (fits : SizeFits (some schema) mask n)
    (sampling : samples (some schema)) : sizeAllowed schema mask n = true := by
  match schema, fits, sampling with
  | .bool, fits, _ => exact beq_iff_eq.mpr fits
  | .numeric, fits, _ => exact beq_iff_eq.mpr fits
  | .discrete, fits, _ =>
    have low := fits.1
    have high := fits.2
    simp only [sizeAllowed, Bool.and_eq_true, bne_iff_ne, decide_eq_true_eq]
    omega
  | .numericAggregated, fits, _ =>
    have pos := countOnes_pos fits.1
    simp only [sizeAllowed, fits.2, Bool.and_eq_true, bne_iff_ne, beq_self_eq_true, and_true]
    omega

/-! ### Flushing -/

theorem frames_writeActive (fb : Metrics) (offset : Nat) (src : List UInt8) :
    (fb.writeActive offset src).frames =
      Function.update fb.frames fb.eActiveBuf (overwrite (fb.frames fb.eActiveBuf) offset src) := rfl

theorem hasFlag_flags (overflow span cycles dc empty : Bool) :
    let flags : UInt8 := (if overflow then 2 else 0) ||| (if span then 1 else 0) ||| (if cycles then 4 else 0) |||
      (if dc then 16 else 0) ||| (if empty then 0 else 8)
    hasFlag flags metricFlagHasTraceCtx = span ∧ hasFlag flags metricFlagHasSampleTs = cycles ∧
      hasFlag flags metricFlagHasSampleTsDc = dc ∧ hasFlag flags metricFlagHasNamespace = !empty := by
  revert overflow span cycles dc empty
  decide

theorem flags_frame (fb : Metrics) (c : MetricCycle) :
    hasFlag (fb.frame c).header.nFlags metricFlagHasTraceCtx = (fb.spanOf c).isSome ∧
    hasFlag (fb.frame c).header.nFlags metricFlagHasSampleTs = fb.bRecordSampleTimes ∧
    hasFlag (fb.frame c).header.nFlags metricFlagHasSampleTsDc = fb.bRecordSampleTimesDc ∧
    hasFlag (fb.frame c).header.nFlags metricFlagHasNamespace = !fb.sLogger.bytes.isEmpty :=
  hasFlag_flags ..

theorem toNat_ofNat_length_take {bytes : List UInt8} (small : n < 256) :
    (UInt8.ofNat (bytes.take n).length).toNat = (bytes.take n).length :=
  Nat.mod_eq_of_lt (Nat.lt_of_le_of_lt (List.length_take_le ..) small)

theorem announced_frame (fb : Metrics) (c : MetricCycle) : (fb.frame c).Announced where
  span := (fb.flags_frame c).1
  name := toNat_ofNat_length_take (by decide)
  unit := toNat_ofNat_length_take (by decide)
  scope := by
    -- cutting a text does not make it empty
    have cut : (fb.frame c).scope.isEmpty = fb.sLogger.bytes.isEmpty := by
      rw [Bool.eq_iff_iff]
      simp [frame]
    rw [(fb.flags_frame c).2.2.2, cut]
  scopeLength := Nat.lt_of_le_of_lt (List.length_take_le ..) (by decide)

theorem fromByte_schemaByte (schema : MetricBodySchema) :
    MetricBodySchema.fromByte (schemaByte (some schema)) = some schema := by
  cases schema <;> rfl

/-- A frame as the sender gets it: the samples of its window, behind a header with the present
settings. -/
def HandedOver (fb : Metrics) (window : List Reading) : Prop :=
  ∃ f : MetricFrame, ∃ layout : Layout, fb.pendingBytes = f.bytes ∧ fb.nPendingBodyLen = f.body.length ∧
    fb.layout? = some layout ∧ f.Describes layout window ∧ f.name = fb.sName.bytes.take 63 ∧
    f.unit = fb.sUnit.bytes.take 15 ∧ f.scope = fb.sLogger.bytes.take 127

section

variable (h : Holds fb window)

include h

theorem Holds.resetWindow : Holds fb.resetWindow [] :=
  { h with
    inside := Nat.zero_le _
    filled := .nil
    count := rfl
    few := Nat.le_refl _
    sampling := fun none => absurd rfl none
    discrete := by simp }

theorem Holds.length_writeActive
    (fits : offset + src.length ≤ frameSize) (half : Bool) : ((fb.writeActive offset src).frames half).length = frameSize := by
  have active := h.halves fb.eActiveBuf
  by_cases same : half = fb.eActiveBuf
  · subst same
    rw [frames_writeActive, Function.update_self, length_overwrite (by omega), active]
  · rw [frames_writeActive, Function.update_of_ne same, h.halves]

theorem Holds.swapHalves (short : head.length ≤ hdrReserve) : Holds (fb.swapHalves head) [] := by
  have fits : hdrReserve - head.length + head.length ≤ frameSize := by
    rw [Nat.sub_add_cancel short]
    decide
  exact { h.resetWindow with halves := h.length_writeActive fits }

/-- The sender gets the header and, right behind it, the samples. -/
theorem Holds.pendingBytes_swapHalves (short : head.length ≤ hdrReserve) :
    (fb.swapHalves head).pendingBytes = head ++ fb.body := by
  have fits : hdrReserve - head.length ≤ (fb.frames fb.eActiveBuf).length := by
    rw [h.halves]
    exact (Nat.sub_le ..).trans (by decide)
  have pending : (fb.swapHalves head).pendingBytes =
      extract ((fb.writeActive (hdrReserve - head.length) head).frames fb.eActiveBuf)
        (hdrReserve - head.length) (head.length + fb.nBodyOffset) := rfl
  rw [pending, frames_writeActive, Function.update_self, extract_overwrite_from fits, Nat.sub_add_cancel short, body]

theorem Holds.stamped_frame (c : MetricCycle) : (fb.frame c).Stamped fb.sampleTimes := by
  obtain ⟨-, cycles, dc, -⟩ := fb.flags_frame c
  have one := h.oneStamp
  constructor <;> rw [sampleTimes]
  · rw [cycles]
    cases fb.bRecordSampleTimes <;> cases fb.bRecordSampleTimesDc <;> rfl
  · rw [dc]
    cases cyclesSet : fb.bRecordSampleTimes <;> cases dcSet : fb.bRecordSampleTimesDc <;>
      first | rfl | exact absurd ⟨cyclesSet, dcSet⟩ one

theorem Holds.size_of_under {schema : MetricBodySchema} (locked : fb.eBodySchema = some schema)
    (member : r ∈ window) (under : r.Under ⟨schema, fb.nStatMask, fb.sampleTimes⟩) :
    r.size = fb.nSampleSize := by
  have fits := h.size
  have discrete := h.discrete r member
  rw [locked] at fits
  obtain ⟨stamp, value⟩ := r
  obtain ⟨-, shape⟩ := under
  cases value with
  | bool b =>
    obtain rfl : schema = .bool := shape
    exact (show fb.nSampleSize = 1 from fits).symm
  | numeric f =>
    obtain rfl : schema = .numeric := shape
    rw [show fb.nSampleSize = 8 from fits]
    exact length_leBytes 8 _
  | discrete bytes => exact (discrete bytes rfl).2
  | string _ | wstring _ => cases shape
  | numericAggregated statMask values =>
    obtain ⟨rfl, rfl, -⟩ := shape
    exact fits.2.symm

theorem Holds.describes_frame (c : MetricCycle) {schema : MetricBodySchema}
    (locked : fb.eBodySchema = some schema) (sampling : samples fb.eBodySchema) :
    (fb.frame c).Describes ⟨schema, fb.nStatMask, fb.sampleTimes⟩ window := by
  have size : (fb.frame c).header.nSampleSize.toNat = fb.nSampleSize :=
    Nat.mod_eq_of_lt (Nat.lt_of_le_of_lt (h.size.small sampling) (by decide))
  have count : (fb.frame c).header.nSampleCount.toNat = fb.nSampleCount := by
    refine Nat.mod_eq_of_lt (Nat.lt_of_le_of_lt ?_ (show bodyCapacity < 2 ^ 32 by decide))
    rw [h.count]
    exact h.few.trans h.inside
  constructor
  case announced => exact fb.announced_frame c
  case stamped => exact h.stamped_frame c
  case schema => rw [← fromByte_schemaByte, ← locked]; rfl
  case known => constructor <;> rintro rfl <;> rw [locked] at sampling <;> cases sampling
  case statMask => rfl
  case size =>
    rw [size]
    exact SizeFits.allowed (locked ▸ h.size) (locked ▸ sampling)
  case count => rw [count, h.count]
  case filled => exact h.filled
  case sized =>
    intro r member under
    rw [size]
    exact h.size_of_under locked member under

theorem Holds.length_body : fb.body.length = fb.nBodyOffset := by
  refine length_extract ?_
  rw [h.halves]
  exact Nat.add_le_add_left h.inside hdrReserve

omit h in
theorem Holds.offset_of_nil (h : Holds fb []) : fb.nBodyOffset = 0 := by
  obtain ⟨placed, none, body, -⟩ := h.filled
  rw [← h.length_body, body, List.map_eq_nil_iff.mp none]
  rfl

theorem Holds.handedOver (sampling : samples fb.eBodySchema) (c : MetricCycle)
    (short : (fb.frame c).head.length ≤ hdrReserve) : HandedOver (fb.swapHalves (fb.frame c).head) window := by
  obtain ⟨schema, locked⟩ : ∃ schema, fb.eBodySchema = some schema := by
    cases known : fb.eBodySchema with
    | none => rw [known] at sampling; cases sampling
    | some schema => exact ⟨schema, rfl⟩
  refine ⟨fb.frame c, ⟨schema, fb.nStatMask, fb.sampleTimes⟩, h.pendingBytes_swapHalves short, h.length_body.symm, ?_,
    h.describes_frame c locked sampling, rfl, rfl, rfl⟩
  show fb.eBodySchema.map _ = _
  rw [locked]
  rfl

/-- A window with samples is handed over whole or dropped whole. -/
theorem Holds.doFlush (filled : window ≠ []) (c : MetricCycle) :
    PreservesAt Holds HandedOver (doFlush c) fb window := by
  by_cases pending : fb.bPending
  · exact .of_drop (if_pos pending) { h.resetWindow with }
  by_cases long : (fb.frame c).head.length > hdrReserve
  · exact .of_drop ((if_neg pending).trans (if_pos long)) { h.resetWindow with }
  have short := Nat.le_of_not_lt long
  have swapped := h.swapHalves short
  by_cases enqueued : c.enqueued
  · exact .of_deliver ((if_neg pending).trans ((if_neg long).trans (if_pos enqueued)))
      (h.handedOver (h.sampling filled) c short) swapped
  · exact .of_drop ((if_neg pending).trans ((if_neg long).trans (if_neg enqueued))) { swapped with }

theorem Holds.ne_nil_of_count (some : 0 < fb.nSampleCount) : window ≠ [] := by
  rw [h.count] at some
  exact List.ne_nil_of_length_pos some

end

theorem preserves_doFlush_of {due : Metrics → Bool} (c : MetricCycle)
    (filled : ∀ fb window, Holds fb window → due fb → window ≠ []) :
    Preserves Holds HandedOver fun fb => if due fb then doFlush c fb else (fb, []) := by
  refine .of_at fun fb window h => ?_
  by_cases now : due fb
  · exact .congr (if_pos now) (h.doFlush (filled fb window h now) c)
  · exact .of_silent (if_neg now) h

section

variable (c : MetricCycle)

theorem checkFlush_cases (fb : Metrics) : checkFlush c fb = (fb, []) ∨
    checkFlush c fb = ({ fb with nWindowStartCycle := c.info.cycleCount, bWindowStartSet := true }, []) ∨
    checkFlush c fb = flushWindow c fb := by
  rw [checkFlush]
  split
  · exact .inl rfl
  split
  · exact .inr (.inl rfl)
  split
  · exact .inl rfl
  · exact .inr (.inr rfl)

theorem preserves_flushWindow : Preserves Holds HandedOver (flushWindow c) :=
  (preserves_doFlush_of c fun _ _ h some => h.ne_nil_of_count (of_decide_eq_true some)).andThen
    (.of_silent fun _ _ h => { h with })

theorem preserves_checkFlush : Preserves Holds HandedOver (checkFlush c) := by
  refine .of_at fun fb window h => ?_
  rcases checkFlush_cases c fb with same | started | elapsed
  · exact .of_silent same h
  · exact .of_silent started { h with }
  · exact .congr elapsed (preserves_flushWindow c fb window h)

theorem preserves_call : Preserves Holds HandedOver (call c) := by
  refine .of_at fun fb window h => ?_
  by_cases initialized : fb.bInitialized
  · exact .congr (if_pos initialized) (preserves_checkFlush c fb window h)
  · exact .of_silent (if_neg initialized) h

theorem preserves_flush : Preserves Holds HandedOver (flush c) :=
  preserves_doFlush_of c fun _ _ h due => h.ne_nil_of_count (of_decide_eq_true (Bool.and_eq_true_iff.mp due).2)

theorem preserves_autoFlush : Preserves Holds HandedOver (autoFlush c) := by
  refine preserves_doFlush_of c fun fb window h due => ?_
  have long : bodyHighWater ≤ fb.nBodyOffset := of_decide_eq_true (Bool.and_eq_true_iff.mp due).1
  rintro rfl
  exact absurd (h.offset_of_nil ▸ long) (by decide)

end

/-! ### Appending -/

/-- A sample as it is appended under the present settings. -/
structure Fits (fb : Metrics) (sample : Reading) (payload : List UInt8) : Prop where
  sampling : samples fb.eBodySchema
  stamp : sample.stamp.times = fb.sampleTimes
  payload : payload = sample.payload
  short : sample.payload.length ≤ sample.size
  size : sample.size = fb.nSampleSize
  discrete : ∀ bytes, sample.value = .discrete bytes → fb.eBodySchema = some .discrete

theorem Holds.body_append (h : Holds fb window) {sample : Reading} (stamp : sample.stamp.times = fb.sampleTimes)
    (short : sample.payload.length ≤ sample.size) (size : sample.size = fb.nSampleSize)
    (room : fb.nBodyOffset + fb.stride ≤ bodyCapacity) : ∃ slot, sample.InSlot slot ∧
      extract ((fb.writeActive (hdrReserve + fb.nBodyOffset) (sample.stamp.bytes ++ sample.payload)).frames
        fb.eActiveBuf) hdrReserve (fb.nBodyOffset + fb.stride) = fb.body ++ slot := by
  have active := h.halves fb.eActiveBuf
  have limits : hdrReserve + bodyCapacity = frameSize := rfl
  have stride : fb.stride = sample.stamp.times.size + sample.size := by
    rw [Metrics.stride, stamp, size, Nat.add_comm]
  have length : (sample.stamp.bytes ++ sample.payload).length ≤ fb.stride := by
    rw [List.length_append, sample.stamp.length_bytes]
    omega
  rw [frames_writeActive, Function.update_self, extract_add, extract_overwrite_before (by omega) (Nat.le_refl _)]
  refine ⟨_, ⟨?_, prefix_extract_overwrite (by omega) length⟩, rfl⟩
  rw [length_extract, stride]
  rw [length_overwrite] <;> omega

theorem Holds.append (h : Holds fb window) {sample : Reading} (fits : fb.Fits sample payload) :
    PreservesAt Holds HandedOver (append sample payload) fb window := by
  obtain ⟨sampling, stamp, rfl, short, size, discrete⟩ := fits
  by_cases full : fb.nBodyOffset + fb.stride > bodyCapacity
  · exact .of_silent (if_pos full) { h with }
  have room := Nat.le_of_not_lt full
  obtain ⟨slot, inSlot, extended⟩ := h.body_append stamp short size room
  have limits : hdrReserve + bodyCapacity = frameSize := rfl
  have inHalf : hdrReserve + fb.nBodyOffset + (sample.stamp.bytes ++ sample.payload).length ≤ frameSize := by
    have stride : fb.stride = fb.nSampleSize + fb.sampleTimes.size := rfl
    rw [List.length_append, sample.stamp.length_bytes, stamp]
    omega
  have pos : 0 < fb.stride := Nat.lt_of_lt_of_le (h.size.pos sampling) (Nat.le_add_right ..)
  refine .of_take (if_neg full) { h with
    halves := h.length_writeActive inHalf
    inside := room
    filled := ?filled
    count := ?count
    few := ?few
    sampling := fun _ => sampling
    discrete := ?discrete }
  case filled =>
    show MetricFrame.Filled (extract _ hdrReserve (fb.nBodyOffset + fb.stride)) _
    exact extended ▸ h.filled.concat inSlot
  case count =>
    show fb.nSampleCount + 1 = _
    rw [h.count, List.length_append, List.length_singleton]
  case few =>
    show _ ≤ fb.nBodyOffset + fb.stride
    have few := h.few
    rw [List.length_append, List.length_singleton]
    omega
  case discrete =>
    intro r member bytes value
    rcases List.mem_append.mp member with early | last
    · exact h.discrete r early bytes value
    · obtain rfl := List.mem_singleton.mp last
      refine ⟨discrete bytes value, Eq.trans ?_ size⟩
      rw [Reading.size, Reading.payload, value]

theorem times_stampOf (fb : Metrics) (c : MetricCycle) : (fb.stampOf c).times = fb.sampleTimes := by
  rw [stampOf]
  cases fb.sampleTimes <;> rfl

theorem length_padded (bytes : List UInt8) (n : Nat) : (padded bytes n).length = n := by
  rw [padded, List.length_append, List.length_take, List.length_replicate]
  omega

section

variable (h : Holds fb window) (lreal : Lreal) (arg : AnyRef) (c : MetricCycle) (sampling : samples fb.eBodySchema)
  (raw : fb.eBodySchema ≠ some .numericAggregated)
include h sampling raw

theorem Holds.rawSample :
    ∃ value payload, fb.rawSample lreal arg = some (value, payload) ∧ fb.Fits ⟨fb.stampOf c, value⟩ payload := by
  have stamp := fb.times_stampOf c
  have size := h.size
  rw [Metrics.rawSample]
  cases locked : fb.eBodySchema with
  | none => rw [locked] at sampling; cases sampling
  | some schema =>
    rw [locked] at size sampling raw
    cases schema with
    | bool =>
      exact ⟨_, _, rfl, locked ▸ rfl, stamp, rfl, Nat.le_refl _, Eq.symm size, fun _ other => nomatch other⟩
    | numeric =>
      refine ⟨_, _, rfl, locked ▸ rfl, stamp, rfl, Nat.le_refl _, ?_, fun _ other => nomatch other⟩
      exact (length_leBytes 8 _).trans (Eq.symm size)
    | discrete => exact ⟨_, _, rfl, locked ▸ rfl, stamp, rfl, Nat.le_refl _, length_padded .., fun _ _ => locked⟩
    | string | wstring => cases sampling
    | numericAggregated => exact absurd rfl raw

theorem Holds.appendSample : PreservesAt Holds HandedOver (appendSample lreal arg c) fb window := by
  obtain ⟨value, payload, sampled, fits⟩ := h.rawSample lreal arg c sampling raw
  refine .congr ?_ (h.append fits)
  rw [Metrics.appendSample, sampled]

end

theorem length_statistics_le (lreal : Lreal) (fb : Metrics) :
    (fb.statistics lreal).length ≤ countOnes fb.nStatMask := by
  have all : ∀ n < 256, (([1, 2, 4, 8, 16, 32].map fun bit => if hasFlag (UInt8.ofNat n) bit then 1 else 0).sum : Nat) ≤
      countOnes (UInt8.ofNat n) := by decide +kernel
  have known := all fb.nStatMask.toNat fb.nStatMask.toNat_lt
  simp only [UInt8.ofNat_toNat, List.map_cons, List.sum_cons] at known
  simp only [statistics, List.length_append, apply_ite List.length, List.length_singleton, List.length_nil]
  omega

theorem Holds.appendAggregated (h : Holds fb window) (lreal : Lreal) (c : MetricCycle)
    (aggregated : fb.eBodySchema = some .numericAggregated) :
    PreservesAt Holds HandedOver (appendAggregated lreal c) fb window := by
  have size := h.size
  rw [aggregated] at size
  have short : ((fb.statistics lreal).flatMap fun f => leBytes 8 f.bits.toNat).length ≤ countOnes fb.nStatMask * 8 := by
    have known := fb.length_statistics_le lreal
    simp only [List.length_flatMap, length_leBytes, List.map_const', List.sum_replicate, smul_eq_mul]
    omega
  have fits : fb.Fits ⟨fb.stampOf c, .numericAggregated fb.nStatMask (fb.statistics lreal)⟩
      ((fb.statistics lreal).flatMap fun f => leBytes 8 f.bits.toNat) :=
    ⟨aggregated ▸ rfl, fb.times_stampOf c, rfl, short, size.2.symm, fun _ other => nomatch other⟩
  refine .congr ?_ (h.append fits)
  rw [Metrics.appendAggregated]

/-! ### Observing -/

theorem Holds.fold (h : Holds fb window) (lreal : Lreal) (arg : AnyRef) : Holds (fb.fold lreal arg) window := by
  unfold Metrics.fold aggUpdate
  split
  · split <;> exact { h with }
  · exact h

theorem eBodySchema_fold (fb : Metrics) (lreal : Lreal) (arg : AnyRef) :
    (fb.fold lreal arg).eBodySchema = fb.eBodySchema := by
  unfold Metrics.fold aggUpdate
  split
  · split <;> rfl
  · rfl

section

variable (h : Holds fb window) (lreal : Lreal) (arg : AnyRef) (c : MetricCycle) (sampling : samples fb.eBodySchema)
include h sampling

theorem Holds.store : PreservesAt Holds HandedOver (store lreal arg c) fb window := by
  have opened : Holds (fb.openWindow c) window := { h with }
  refine .behind rfl (PreservesAt.andThen ?_ ?_)
  · by_cases aggregated : fb.eBodySchema = some .numericAggregated
    · exact .congr (if_pos aggregated)
        ((opened.appendAggregated lreal c aggregated).andThen (.of_silent fun _ _ h => { h with }))
    · exact .congr (if_neg aggregated)
        ((opened.appendSample lreal arg c sampling aggregated).andThen (.of_silent fun _ _ h => { h with }))
  · exact Preserves.andThen (.of_silent fun _ _ h => { h with }) ((preserves_autoFlush c).andThen (preserves_checkFlush c))

theorem Holds.observeLocked : PreservesAt Holds HandedOver (observeLocked lreal arg c) fb window := by
  have folded := h.fold lreal arg
  by_cases idle : c.nTaskIdx ≤ 0
  · exact .of_silent (if_pos idle) h
  by_cases limited : (fb.fold lreal arg).rateLimited c
  · exact .of_silent ((if_neg idle).trans (if_pos limited)) folded
  by_cases same : (decide (fb.eBodySchema ≠ some .numericAggregated) && (fb.fold lreal arg).unchanged arg)
  · exact .of_silent ((if_neg idle).trans ((if_neg limited).trans (if_pos same))) { folded with }
  · -- the sample is stored from the state behind the aggregator
    have stored := folded.store lreal arg c (fb.eBodySchema_fold lreal arg ▸ sampling)
    rw [PreservesAt, Metrics.observeLocked, if_neg idle, if_neg limited, if_neg same]
    exact stored

end

theorem Holds.eq_nil (h : Holds fb window) (free : fb.eBodySchema = none) : window = [] := by
  by_contra filled
  have sampling := h.sampling filled
  rw [free] at sampling
  cases sampling

/-- What locking can do: a schema whose sizes fit, one that is sampled just if the value is taken. -/
theorem lockSchema_cases (fb : Metrics) (arg : AnyRef) (free : fb.eBodySchema = none) : ∃ schema size locked,
      (fb.lockSchema arg).2 = { fb with eBodySchema := schema, nSampleSize := size, nLockedTypeClass := locked } ∧
      (fb.nAggSampleSize = countOnes fb.nStatMask * 8 → SizeFits schema fb.nStatMask size) ∧
      ((fb.lockSchema arg).1 ↔ samples schema) ∧ ((fb.lockSchema arg).1 → locked = arg.typeClass) := by
  have sized := arg.sized
  have numeric : (fb.nAggSampleSize = countOnes fb.nStatMask * 8 →
      SizeFits (if fb.nStatMask ≠ 0 then some .numericAggregated else some .numeric) fb.nStatMask
        (if fb.nStatMask ≠ 0 then fb.nAggSampleSize else 8)) ∧
      samples (if fb.nStatMask ≠ 0 then some .numericAggregated else some .numeric) := by
    by_cases mask : fb.nStatMask ≠ 0
    · simp only [if_pos mask]
      exact ⟨fun aggSize => ⟨mask, aggSize⟩, rfl⟩
    · simp only [if_neg mask]
      exact ⟨fun _ => rfl, rfl⟩
  cases typeClass : arg.typeClass <;> rw [typeClass] at sized <;> simp only [lockSchema, typeClass]
  case bool => exact ⟨_, _, _, rfl, fun _ => rfl, iff_of_true trivial rfl, fun _ => rfl⟩
  case sint | int | dint | lint | usint | uint | udint | ulint | real | lreal =>
    exact ⟨_, _, _, rfl, numeric.1, iff_of_true trivial numeric.2, fun _ => rfl⟩
  case byte | word | dword | lword | enum =>
    refine ⟨_, _, _, rfl, fun _ => ?_, iff_of_true trivial rfl, fun _ => rfl⟩
    simp only [TypeClass.allows, Bool.or_eq_true, beq_iff_eq] at sized
    exact ⟨by omega, by omega⟩
  case string | wstring => exact ⟨_, _, _, rfl, fun _ => trivial, Iff.rfl, fun taken => nomatch taken⟩
  case other => exact ⟨none, _, _, by rw [← free], fun _ => trivial, Iff.rfl, fun taken => nomatch taken⟩

theorem Holds.lockSchema (h : Holds fb window) (arg : AnyRef) (free : fb.eBodySchema = none) :
    Holds (fb.lockSchema arg).2 window ∧ ((fb.lockSchema arg).1 → samples (fb.lockSchema arg).2.eBodySchema) := by
  obtain ⟨schema, size, locked, becomes, fits, sampling, -⟩ := fb.lockSchema_cases arg free
  obtain rfl := h.eq_nil free
  rw [becomes]
  exact ⟨{ h with sampling := fun none => absurd rfl none, discrete := by simp, size := fits h.aggSize }, sampling.mp⟩

theorem preserves_observe (lreal : Lreal) (stArg : Option AnyRef) (c : MetricCycle) :
    Preserves Holds HandedOver (observe lreal stArg c) := by
  refine .of_at fun fb window h => ?_
  cases stArg with
  | none => exact .of_silent rfl h
  | some arg =>
    by_cases initialized : fb.bInitialized
    case neg => exact .of_silent (if_pos (by simpa using initialized)) h
    have ready : ¬(!fb.bInitialized) = true := by simpa using initialized
    by_cases text : fb.eBodySchema = some .string ∨ fb.eBodySchema = some .wstring
    · exact .of_silent ((if_neg ready).trans (if_pos text)) { h with }
    by_cases free : fb.eBodySchema = none
    · have locked := h.lockSchema arg free
      by_cases taken : (fb.lockSchema arg).1
      · have stored := locked.1.observeLocked lreal arg c (locked.2 taken)
        rw [PreservesAt, observe, if_neg ready, if_neg text, if_pos free, if_pos taken]
        exact stored
      · exact .of_silent ((if_neg ready).trans ((if_neg text).trans ((if_pos free).trans (if_neg taken))))
          { locked.1 with }
    by_cases other : fb.nLockedTypeClass ≠ arg.typeClass
    · exact .of_silent ((if_neg ready).trans ((if_neg text).trans ((if_neg free).trans (if_pos other)))) { h with }
    · exact .congr ((if_neg ready).trans ((if_neg text).trans ((if_neg free).trans (if_neg other))))
        (h.observeLocked lreal arg c (samples_of_locked free text))

/-! ### Runs -/

/-- What a new mask can do: sizes still fit, and only numbers change their schema. -/
theorem Holds.switchSchema (h : Holds fb window) (nMask : UInt8) :
    SizeFits (fb.switchSchema nMask).1 nMask (fb.switchSchema nMask).2 ∧
    (samples fb.eBodySchema → samples (fb.switchSchema nMask).1) ∧
    (fb.eBodySchema = some .discrete → fb.switchSchema nMask = (fb.eBodySchema, fb.nSampleSize)) := by
  have size := h.size
  by_cases mask : nMask = 0 <;>
    match locked : fb.eBodySchema with
    | none | some .string | some .wstring | some .bool | some .numeric | some .discrete | some .numericAggregated =>
      simp_all [Metrics.switchSchema, SizeFits, samples]

theorem Holds.setAggregation (h : Holds fb window) (nMask : UInt8) : Holds (fb.setAggregation nMask) window := by
  obtain ⟨size, sampling, kept⟩ := h.switchSchema nMask
  refine { h with
    sampling := fun filled => sampling (h.sampling filled)
    discrete := fun r member bytes value => ?_
    aggSize := rfl
    size := size }
  obtain ⟨locked, length⟩ := h.discrete r member bytes value
  show (fb.switchSchema nMask).1 = _ ∧ _ = (fb.switchSchema nMask).2
  rw [kept locked]
  exact ⟨locked, length⟩

theorem operation_preserves (lreal : Lreal) (event : Event) : Preserves Holds HandedOver (operation lreal event) := by
  cases event with
  | observe stArg c => exact preserves_observe lreal stArg c
  | call c => exact preserves_call c
  | flush c => exact preserves_flush c
  | setAggregation nMask => exact .of_silent fun _ _ h => h.setAggregation nMask
  | setRecordSampleTimes bEnable =>
    refine .of_silent fun fb _ h => { h with oneStamp := ?_ }
    cases bEnable <;> simp [setRecordSampleTimes]
  | setRecordSampleTimesDc bEnable =>
    refine .of_silent fun fb _ h => { h with oneStamp := ?_ }
    cases bEnable <;> simp [setRecordSampleTimesDc]
  | init | setSampleIntervalMs | setPushIntervalMs | setChangeDetect | bindTracer | withSpan | notifyFrameSent =>
    exact .of_silent fun _ _ h => { h with }

theorem handedOver_of_mem {lreal : Lreal} {sLogger : PlcString}
    (member : (fb, window) ∈ handedOver lreal sLogger events) : HandedOver fb window :=
  Preserves.of_mem_deliveries (operation_preserves lreal) (holds_initial sLogger) member

/-! ### What the receiver makes of a frame -/

/-- The body has the length that the header of the frame announces. -/
def BodyAsAnnounced (fb : Metrics) : Prop :=
  ∃ ts, tsPrefix (byteAt fb.pendingBytes 2) = some ts ∧
    fb.nPendingBodyLen = (readU32 fb.pendingBytes 8).toNat * ((readU32 fb.pendingBytes 4).toNat + ts)

/-- The receiver accepts the frame that is handed over, and reads these samples. -/
def Accepted (fb : Metrics) (window : List Reading) : Prop :=
  fb.BodyAsAnnounced ∧
    ∃ batch, decodeMetricAggregate fb.pendingBytes = some (.metricAggregateBatch batch) ∧ readings batch = window

def TextsValid (fb : Metrics) : Prop :=
  (fromUtf8 (fb.sName.bytes.take 63)).isSome ∧ (fromUtf8 (fb.sUnit.bytes.take 15)).isSome ∧
    (fromUtf8 (fb.sLogger.bytes.take 127)).isSome
deriving Decidable

/-- Every sample was appended under the settings that the header has: with that kind of time
stamp, by that schema and, if aggregated, by that mask. -/
def SettingsKept (fb : Metrics) (window : List Reading) : Prop :=
  ∀ layout, fb.layout? = some layout → ∀ r ∈ window, r.Under layout

theorem HandedOver.accepted_iff (handed : HandedOver fb window) :
    fb.Accepted window ↔ fb.TextsValid ∧ fb.SettingsKept window := by
  obtain ⟨f, layout, bytes, length, present, describes, name, unit, scope⟩ := handed
  have start : f.bytes = f.header.bytes ++ (f.spanBytes ++ (f.name ++ (f.unit ++ f.scopeBytes)) ++ f.body) := by
    rw [MetricFrame.bytes, MetricFrame.head, List.append_assoc]
  obtain ⟨-, -, flags, -⟩ := MetricFrame.bytes_fixed start
  obtain ⟨size, count, -⟩ := MetricFrame.words_fixed start
  have accepted : fb.Accepted window ↔ f.Accepted window := by
    rw [Accepted, BodyAsAnnounced, bytes, length, flags, size, count, MetricFrame.Accepted]
  have texts : fb.TextsValid ↔ f.TextsValid := by
    rw [TextsValid, MetricFrame.TextsValid, name, unit, scope]
  rw [accepted, describes.accepted_iff, texts, SettingsKept, present]
  simp [forall_eq']

/-- In whatever order a metric is used, the receiver accepts a frame, with the samples of its
window, just when its texts are UTF-8 and no setting that they are laid out by has changed
between the samples and the flush. -/
theorem accepted_iff_settingsKept (lreal : Lreal) (sLogger : PlcString) (events : List Event) (fb : Metrics)
    (window : List Reading) (member : (fb, window) ∈ handedOver lreal sLogger events) :
    fb.Accepted window ↔ fb.TextsValid ∧ fb.SettingsKept window :=
  (handedOver_of_mem member).accepted_iff

/-! A metric that takes one raw sample and is flushed, with other calls in between. -/

/-- No arithmetic is done for a raw sample of an `LREAL`. -/
def sampleLreal : Lreal :=
  ⟨fun n => .ofNat n.toNat, fun _ => .ofNat 0, fun a _ => a, fun a _ => a, fun a _ => a, fun a _ => a, id,
    fun _ _ => false⟩

def sampleCycle : MetricCycle :=
  ⟨1, ⟨0, 350, .empty, 7, 0, 10000, 0, false, false, false⟩, 0,
    (.zero 16, .zero 8), none, true⟩

def sampleEvents (between : List Event) : List Event :=
  [.init ⟨"speed".toUTF8.toList, by decide +kernel, by decide +kernel⟩ .empty 0,
    .observe (some ⟨.lreal, [0, 0, 0, 0, 0, 0, 0xF0, 0x3F], [], by decide⟩) sampleCycle] ++ between ++
    [.flush sampleCycle]

def sampleWindow : List Reading := [⟨.none, .numeric ⟨0x3FF0000000000000⟩⟩]

/-- The settings and the texts of the frames of a run, with their samples. -/
def settingsOf (events : List Event) : List (Option Layout × Bool × List Reading) :=
  (handedOver sampleLreal .empty events).map fun p =>
    (p.1.layout?, decide p.1.TextsValid, p.2)

theorem accepted_sampleEvents : ∃ fb, (fb, sampleWindow) ∈ handedOver sampleLreal .empty (sampleEvents []) ∧
      fb.Accepted sampleWindow := by
  have settings : settingsOf (sampleEvents []) = [(some ⟨.numeric, 0, .off⟩, true, sampleWindow)] := by
    decide +kernel
  obtain ⟨⟨fb, window⟩, member, same⟩ := List.mem_map.mp (settings ▸ List.mem_singleton_self _)
  obtain ⟨layout, texts, rfl⟩ : fb.layout? = _ ∧ decide fb.TextsValid = true ∧ window = sampleWindow := by
    simpa only [Prod.mk.injEq] using same
  refine ⟨fb, member, (accepted_iff_settingsKept _ _ _ fb _ member).mpr ⟨of_decide_eq_true texts, ?_⟩⟩
  intro other present
  obtain rfl := Option.some.inj (layout.symm.trans present)
  decide

/-- Time stamps that are switched on between a sample and the flush are announced, but not there. -/
theorem sampleEvents_setRecordSampleTimes_not_accepted : ∃ fb, (fb, sampleWindow) ∈
      handedOver sampleLreal .empty (sampleEvents [.setRecordSampleTimes true]) ∧
      ¬fb.Accepted sampleWindow := by
  have settings : settingsOf (sampleEvents [.setRecordSampleTimes true]) =
      [(some ⟨.numeric, 0, .cycles⟩, true, sampleWindow)] := by
    decide +kernel
  obtain ⟨⟨fb, window⟩, member, same⟩ := List.mem_map.mp (settings ▸ List.mem_singleton_self _)
  obtain ⟨layout, -, rfl⟩ : fb.layout? = _ ∧ _ ∧ window = sampleWindow := by
    simpa only [Prod.mk.injEq] using same
  refine ⟨fb, member, fun accepted => ?_⟩
  have kept := ((handedOver_of_mem member).accepted_iff.mp accepted).2
  exact absurd (kept _ layout) (by decide)

end Metrics

end TcOtel.Plc
