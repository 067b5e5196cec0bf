import TcOtel.Lib.Refinement
import TcOtel.Plc.MetricWindows

/-!
# When the samples of an `FB_Metrics` leave it

A metric that is observed in every cycle of its task. The push window is looked at at the end of
`Observe` only, behind two early returns: an observation that is suppressed does not flush.

## Main result

`observe_punctual_iff`: no sample stays longer than the push interval and one cycle just when no
observation is suppressed that comes when the push interval of the window is over. With a value that
stays the same and change detection, which is on by default, every later observation is suppressed.

## Strategy

`Settled` ties the registers of the window to the number of the cycle. The samples of the window are
not older than the push window, so what reaches `_CheckFlush` after the interval flushes.
-/

namespace TcOtel.Plc

open Decoding Memory Ads.Push Collecting

namespace Metrics

/-! ### What appending and flushing leave alone -/

/-- The registers that decide when a window is flushed. -/
structure Timing where
  bInitialized : Bool
  eBodySchema : Option MetricBodySchema
  nLockedTypeClass : TypeClass
  nPushIntervalMs : UInt32
  bWindowHasSample : Bool
  bWindowStartSet : Bool
  nWindowStartCycle : UInt32
  nCycleStart : UInt32

def timing (fb : Metrics) : Timing where
  bInitialized := fb.bInitialized
  eBodySchema := fb.eBodySchema
  nLockedTypeClass := fb.nLockedTypeClass
  nPushIntervalMs := fb.nPushIntervalMs
  bWindowHasSample := fb.bWindowHasSample
  bWindowStartSet := fb.bWindowStartSet
  nWindowStartCycle := fb.nWindowStartCycle
  nCycleStart := fb.nCycleStart

/-- The registers that no observation changes once the type is locked. -/
def identity (fb : Metrics) : Bool × Option MetricBodySchema × TypeClass × UInt32 :=
  (fb.bInitialized, fb.eBodySchema, fb.nLockedTypeClass, fb.nPushIntervalMs)

def pushInterval (fb : Metrics) : Nat := fb.nPushIntervalMs.toNat * 10000

variable {fb : Metrics} {window : List Reading} {c : MetricCycle}

theorem identity_eq_of_timing {fb' : Metrics}
    (same : fb'.timing = { fb.timing with bWindowHasSample := has, nCycleStart := start }) : fb'.identity = fb.identity :=
  congrArg (fun t => (t.bInitialized, t.eBodySchema, t.nLockedTypeClass, t.nPushIntervalMs)) same

theorem timing_fields {fb : Metrics} {t : Timing} (same : fb.timing = t) :
    fb.bWindowHasSample = t.bWindowHasSample ∧ fb.bWindowStartSet = t.bWindowStartSet ∧
      fb.nWindowStartCycle = t.nWindowStartCycle ∧ fb.nCycleStart = t.nCycleStart := by
  subst same
  exact ⟨rfl, rfl, rfl, rfl⟩

theorem pushInterval_eq_of_identity {fb' : Metrics} (same : fb'.identity = fb.identity) :
    fb'.pushInterval = fb.pushInterval :=
  congrArg (fun t => t.2.2.2.toNat * 10000) same

theorem timing_append (sample : Reading) (payload : List UInt8) (fb : Metrics) :
    (append sample payload fb).1.timing = fb.timing := by
  unfold append
  split <;> rfl

theorem timing_appendSample (lreal : Lreal) (arg : AnyRef) (c : MetricCycle) (fb : Metrics) :
    (appendSample lreal arg c fb).1.timing = fb.timing := by
  unfold appendSample
  split
  · rfl
  · exact timing_append ..

theorem doFlush_timing (c : MetricCycle) (fb : Metrics) :
    (doFlush c fb).1.timing = { fb.timing with bWindowHasSample := false, nCycleStart := 0 } ∧
      (doFlush c fb).1.nSampleCount = 0 := by
  unfold doFlush
  split
  · exact ⟨rfl, rfl⟩
  split
  · exact ⟨rfl, rfl⟩
  split <;> exact ⟨rfl, rfl⟩

theorem Holds.count_append (h : Holds fb window) (sampling : samples fb.eBodySchema) (sample : Reading)
    (payload : List UInt8) : 0 < (Metrics.append sample payload fb).1.nSampleCount := by
  unfold Metrics.append
  split
  next full =>
    -- a sample has at most 72 bytes, so that a full body has others in it
    have small := h.size.small sampling
    have times : fb.sampleTimes.size ≤ 8 := by cases fb.sampleTimes <;> decide
    have stride : fb.stride = fb.nSampleSize + fb.sampleTimes.size := rfl
    have capacity : bodyCapacity = 32768 := rfl
    have filled : window ≠ [] := by
      rintro rfl
      have zero := h.offset_of_nil
      omega
    show 0 < fb.nSampleCount
    rw [h.count]
    exact List.length_pos_of_ne_nil filled
  next => exact Nat.succ_pos _

/-! ### The window and the number of the cycle -/

/-- Behind an observation in cycle `n`: the samples of the window are not older than the push
window. -/
structure Settled (n : Nat) (fb : Metrics) : Prop where
  begun : fb.bWindowStartSet = true → fb.nWindowStartCycle.toNat ≤ n
  sample : fb.bWindowHasSample = true →
    fb.bWindowStartSet = true ∧ fb.nWindowStartCycle.toNat ≤ fb.nCycleStart.toNat ∧ fb.nCycleStart.toNat ≤ n
  count : fb.bWindowHasSample = true ↔ 0 < fb.nSampleCount

/-- The same before `_CheckFlush`, which sets the start of the first push window. -/
structure Opened (n : Nat) (fb : Metrics) : Prop where
  begun : fb.bWindowStartSet = true → fb.nWindowStartCycle.toNat ≤ n
  sample : fb.bWindowHasSample = true → fb.nCycleStart.toNat ≤ n ∧
    (fb.bWindowStartSet = true → fb.nWindowStartCycle.toNat ≤ fb.nCycleStart.toNat) ∧
    (fb.bWindowStartSet = false → fb.nCycleStart.toNat = n)
  count : fb.bWindowHasSample = true ↔ 0 < fb.nSampleCount

/-- How long the samples of the window are in the body, in units of 100 ns. -/
def age (n : Nat) (cycleTime : UInt32) (fb : Metrics) : Nat := (n - fb.nCycleStart.toNat) * cycleTime.toNat

theorem lt_windowCycles (whole : c.info.cycleTime.toNat % 10 = 0) (some : 0 < c.info.cycleTime.toNat)
    (fewer : n < (fb.windowCycles c).toNat) : n * c.info.cycleTime.toNat ≤ fb.pushInterval := by
  have notCut : n < (cyclesIn fb.nPushIntervalMs c.info.cycleTime).toNat := by
    unfold windowCycles at fewer
    split at fewer
    next cut =>
      have long : 0xFFFF < cyclesIn fb.nPushIntervalMs c.info.cycleTime := of_decide_eq_true (Bool.and_eq_true_iff.mp cut).2
      exact Nat.lt_trans fewer (UInt32.lt_iff_toNat_lt.mp long)
    · exact fewer
  obtain ⟨us, micros⟩ : ∃ us, c.info.cycleTime.toNat = 10 * us := ⟨_, (Nat.mul_div_cancel' (Nat.dvd_of_mod_eq_zero whole)).symm⟩
  have usToNat : (c.info.cycleTime / 10).toNat = us := by
    rw [UInt32.toNat_div, micros]
    exact Nat.mul_div_cancel_left us (by decide)
  have usNe : c.info.cycleTime / 10 ≠ 0 := by
    intro zero
    rw [zero] at usToNat
    have : us = 0 := usToNat.symm
    omega
  simp only [cyclesIn, TaskDiag.targetCycles, if_neg usNe] at notCut
  split at notCut
  · -- a window of one cycle
    have : n = 0 := by
      have one : (1 : UInt32).toNat = 1 := rfl
      omega
    rw [this, Nat.zero_mul]
    exact Nat.zero_le _
  · rw [UInt32.toNat_div, usToNat] at notCut
    -- the product may have wrapped, which makes the window shorter only
    have product : (fb.nPushIntervalMs * 1000).toNat ≤ fb.nPushIntervalMs.toNat * 1000 := by
      exact Nat.mod_le _ _
    have inside : n * us ≤ fb.nPushIntervalMs.toNat * 1000 := by
      have first := Nat.mul_le_of_le_div us n _ (Nat.le_of_lt notCut)
      exact first.trans product
    rw [micros]
    calc n * (10 * us) = 10 * (n * us) := by ring
      _ ≤ 10 * (fb.nPushIntervalMs.toNat * 1000) := Nat.mul_le_mul_left _ inside
      _ = fb.nPushIntervalMs.toNat * 10000 := by ring

theorem Opened.autoFlush (opened : Opened n fb) (c : MetricCycle) :
    Opened n (autoFlush c fb).1 ∧ (autoFlush c fb).1.identity = fb.identity := by
  unfold Metrics.autoFlush
  split
  · obtain ⟨timing, count⟩ := doFlush_timing c fb
    obtain ⟨sample, begun, start, -⟩ := timing_fields timing
    refine ⟨⟨?_, ?_, ?_⟩, identity_eq_of_timing timing⟩
    · rw [begun, start]
      exact opened.begun
    · intro has
      rw [sample] at has
      cases has
    · simp [sample, count]
  · exact ⟨opened, rfl⟩

/-- `_CheckFlush` leaves no sample in the body that is older than the push interval. -/
theorem Opened.checkFlush (opened : Opened n fb) (inTask : 0 < c.nTaskIdx) (now : c.info.cycleCount.toNat = n)
    (whole : c.info.cycleTime.toNat % 10 = 0) (some : 0 < c.info.cycleTime.toNat) :
    Settled n (checkFlush c fb).1 ∧ (checkFlush c fb).1.identity = fb.identity ∧
      (0 < (checkFlush c fb).1.nSampleCount → (checkFlush c fb).1.age n c.info.cycleTime ≤ fb.pushInterval) := by
  have before : ¬c.info.cycleCount < fb.nWindowStartCycle ∨ fb.bWindowStartSet = false := by
    cases begun : fb.bWindowStartSet with
    | false => exact .inr rfl
    | true =>
      have le := opened.begun begun
      rw [UInt32.lt_iff_toNat_lt]
      omega
  unfold Metrics.checkFlush
  rw [if_neg (by omega)]
  split
  next first =>
    -- the first push window starts now, and so did its first sample
    have unset : fb.bWindowStartSet = false := by
      simp only [Bool.or_eq_true, Bool.not_eq_true', decide_eq_true_eq] at first
      rcases first with unset | wrapped
      · exact unset
      · exact before.resolve_left (not_not.mpr wrapped)
    refine ⟨⟨fun _ => Nat.le_of_eq now, fun has => ?_, opened.count⟩, rfl, fun filled => ?_⟩
    · have here := (opened.sample has).2.2 unset
      exact ⟨rfl, Nat.le_of_eq (now.trans here.symm), Nat.le_of_eq here⟩
    · have here := (opened.sample (opened.count.mpr filled)).2.2 unset
      show (n - fb.nCycleStart.toNat) * _ ≤ _
      rw [here, Nat.sub_self, Nat.zero_mul]
      exact Nat.zero_le _
  next later =>
    simp only [Bool.or_eq_true, Bool.not_eq_true', not_or, Bool.not_eq_false] at later
    have begun := opened.begun later.1
    split
    next early =>
      have fewer : n - fb.nWindowStartCycle.toNat < (fb.windowCycles c).toNat := by
        have elapsed := UInt32.lt_iff_toNat_lt.mp early
        rwa [UInt32.toNat_sub_of_le _ _ (UInt32.le_iff_toNat_le.mpr (by omega)), now] at elapsed
      refine ⟨⟨opened.begun, fun has => ?_, opened.count⟩, rfl, fun filled => ?_⟩
      · obtain ⟨le, notOlder, -⟩ := opened.sample has
        exact ⟨later.1, notOlder later.1, le⟩
      · have notOlder := (opened.sample (opened.count.mpr filled)).2.1 later.1
        exact lt_windowCycles whole some (Nat.lt_of_le_of_lt (Nat.sub_le_sub_left notOlder n) fewer)
    next =>
      -- the push window is over: the body is empty behind it
      have emptied : (flushWindow c fb).1.bWindowHasSample = false ∧ (flushWindow c fb).1.nSampleCount = 0 ∧
          (flushWindow c fb).1.nWindowStartCycle = c.info.cycleCount ∧ (flushWindow c fb).1.identity = fb.identity := by
        simp only [flushWindow, andThen]
        split
        · obtain ⟨timing, count⟩ := doFlush_timing c fb
          have same : (doFlush c fb).1.identity = fb.identity := identity_eq_of_timing timing
          exact ⟨congrArg Timing.bWindowHasSample timing, count, trivial, same⟩
        next none =>
          have zero : fb.nSampleCount = 0 := by simpa using none
          have noSample : fb.bWindowHasSample = false := by
            rw [← Bool.not_eq_true, opened.count, zero]
            exact Nat.lt_irrefl 0
          exact ⟨noSample, zero, trivial, rfl⟩
      obtain ⟨noSample, zero, start, same⟩ := emptied
      refine ⟨⟨fun _ => ?_, fun has => ?_, ?_⟩, same, fun filled => ?_⟩
      · rw [start, now]
      · rw [noSample] at has
        cases has
      · simp [noSample, zero]
      · rw [zero] at filled
        cases filled

/-! ### One observation -/

/-- The observation is not stored: the sample interval is not over, or the value has not changed. -/
def suppressed (fb : Metrics) (arg : AnyRef) (c : MetricCycle) : Bool :=
  fb.rateLimited c || (decide (fb.eBodySchema ≠ some .numericAggregated) && fb.unchanged arg)

theorem fold_fields (fb : Metrics) (lreal : Lreal) (arg : AnyRef) :
    (fb.fold lreal arg).timing = fb.timing ∧ (fb.fold lreal arg).nSampleCount = fb.nSampleCount ∧
      (fb.fold lreal arg).suppressed arg c = fb.suppressed arg c := by
  unfold fold aggUpdate
  split
  · split <;> exact ⟨rfl, rfl, rfl⟩
  · exact ⟨rfl, rfl, rfl⟩

theorem appended_fields (fb : Metrics) (arg : AnyRef) (c : MetricCycle) :
    (fb.aggReset.sampled c).timing = fb.timing ∧ (fb.aggReset.sampled c).nSampleCount = fb.nSampleCount ∧
      ((fb.remember arg).sampled c).timing = fb.timing ∧ ((fb.remember arg).sampled c).nSampleCount = fb.nSampleCount :=
  ⟨rfl, rfl, rfl, rfl⟩

/-- A sample is appended in cycle `n`, to the samples of the cycles before. -/
theorem Settled.append (settled : Settled n fb) (h : Holds fb window) (sampling : samples fb.eBodySchema)
    (lreal : Lreal) (arg : AnyRef) (now : c.info.cycleCount.toNat = n + 1) :
    ∃ mid, Opened (n + 1) mid ∧ mid.identity = fb.identity ∧
      (store lreal arg c fb).1 = (checkFlush c (Metrics.autoFlush c mid).1).1 := by
  have opened : Holds (fb.openWindow c) window := { h with }
  -- both ways of appending leave the registers alone and a sample in the body
  have appended : ∃ mid : Metrics, mid.timing = (fb.openWindow c).timing ∧ 0 < mid.nSampleCount ∧
      (store lreal arg c fb).1 = (checkFlush c (Metrics.autoFlush c mid).1).1 := by
    by_cases aggregated : fb.eBodySchema = some .numericAggregated
    · obtain ⟨timing, count, -⟩ := appended_fields (appendAggregated lreal c (fb.openWindow c)).1 arg c
      refine ⟨_, timing.trans (timing_append ..), ?_, ?_⟩
      · rw [count]
        exact opened.count_append sampling _ _
      · have locked : (fb.openWindow c).eBodySchema = _ := aggregated
        simp [store, andThen, silent, locked]
    · obtain ⟨value, payload, raw, -⟩ := opened.rawSample lreal arg c sampling aggregated
      obtain ⟨-, -, timing, count⟩ := appended_fields (appendSample lreal arg c (fb.openWindow c)).1 arg c
      refine ⟨_, timing.trans (timing_appendSample ..), ?_, ?_⟩
      · rw [count, appendSample, raw]
        exact opened.count_append sampling _ _
      · have locked : ¬(fb.openWindow c).eBodySchema = _ := aggregated
        simp [store, andThen, silent, locked]
  obtain ⟨mid, timing, count, stored⟩ := appended
  obtain ⟨has, begun, start, first⟩ := timing_fields timing
  simp only [openWindow, Metrics.timing] at has begun start first
  refine ⟨mid, ⟨?_, fun _ => ?_, by simp [has, count]⟩, identity_eq_of_timing timing, stored⟩
  · rw [begun, start]
    exact fun set => (settled.begun set).trans (Nat.le_succ n)
  · rw [begun, start, first]
    cases old : fb.bWindowHasSample with
    | true =>
      obtain ⟨set, notOlder, le⟩ := settled.sample old
      exact ⟨le.trans (Nat.le_succ n), fun _ => notOlder, fun unset => by rw [set] at unset; cases unset⟩
    | false =>
      simp only [Bool.false_eq_true, if_false, now]
      exact ⟨Nat.le_refl _, fun set => (settled.begun set).trans (Nat.le_succ n), fun _ => trivial⟩

theorem Settled.later (settled : Settled n fb) : Settled (n + 1) fb where
  begun set := (settled.begun set).trans (Nat.le_succ n)
  sample has := by
    obtain ⟨set, notOlder, le⟩ := settled.sample has
    exact ⟨set, notOlder, le.trans (Nat.le_succ n)⟩
  count := settled.count

theorem Settled.congr (settled : Settled n fb) (timing : fb'.timing = fb.timing)
    (count : fb'.nSampleCount = fb.nSampleCount) : Settled n fb' := by
  obtain ⟨has, begun, start, first⟩ := timing_fields timing
  constructor
  · rw [begun, start]
    exact settled.begun
  · rw [has, begun, start, first]
    exact settled.sample
  · rw [has, count]
    exact settled.count

/-- What an observation in cycle `n` does to a metric that is locked, by whether it is suppressed. -/
inductive Observed (n : Nat) (c : MetricCycle) (before : Metrics) (result : Metrics × List (Action Reading Metrics)) :
    Bool → Prop where
  | suppressed (timing : result.1.timing = before.timing) (count : result.1.nSampleCount = before.nSampleCount)
      (nothing : result.2 = []) : Observed n c before result true
  | stored (settled : Settled n result.1) (identity : result.1.identity = before.identity)
      (young : 0 < result.1.nSampleCount → result.1.age n c.info.cycleTime ≤ result.1.pushInterval) :
      Observed n c before result false

variable {n : Nat}

theorem Observed.identity_eq (observed : Observed n c fb result held) : result.1.identity = fb.identity := by
  cases observed with
  | suppressed timing => exact identity_eq_of_timing timing
  | stored _ identity => exact identity

theorem Observed.settled
    (observed : Observed (n + 1) c fb result held) (before : Settled n fb) : Settled (n + 1) result.1 := by
  cases observed with
  | suppressed timing count => exact (before.congr timing count).later
  | stored settled => exact settled

theorem Settled.observeLocked (settled : Settled n fb) (h : Holds fb window) (sampling : samples fb.eBodySchema)
    (lreal : Lreal) (arg : AnyRef) (inTask : 0 < c.nTaskIdx) (now : c.info.cycleCount.toNat = n + 1)
    (whole : c.info.cycleTime.toNat % 10 = 0) (some : 0 < c.info.cycleTime.toNat) :
    Observed (n + 1) c fb (observeLocked lreal arg c fb) (fb.suppressed arg c) := by
  obtain ⟨timing, count, same⟩ := fb.fold_fields lreal arg (c := c)
  have schema := fb.eBodySchema_fold lreal arg
  rw [← same, suppressed, schema]
  unfold Metrics.observeLocked
  rw [if_neg (by omega)]
  cases limited : (fb.fold lreal arg).rateLimited c with
  | true => exact .suppressed timing count rfl
  | false =>
    cases unchanged : (decide (fb.eBodySchema ≠ Option.some .numericAggregated) && (fb.fold lreal arg).unchanged arg) with
    | true => exact .suppressed timing count rfl
    | false =>
      -- the sample is stored, and the push window is looked at
      obtain ⟨mid, opened, identity, stored⟩ :=
        (settled.congr timing count).append (h.fold lreal arg) (schema ▸ sampling) lreal arg now
      obtain ⟨flushed, kept⟩ := opened.autoFlush c
      have done := flushed.checkFlush inTask now whole some
      rw [← stored] at done
      obtain ⟨final, keptToo, young⟩ := done
      rw [← pushInterval_eq_of_identity keptToo] at young
      refine .stored final ?_ young
      exact keptToo.trans (kept.trans (identity.trans (identity_eq_of_timing timing)))

/-! ### Runs -/

/-- The call of `Observe` in one cycle, with a value of this type. In the time before it the sender
may have reported that it is done with the other half. -/
structure Tick (typeClass : TypeClass) where
  value : AnyRef
  locked : value.typeClass = typeClass
  cycle : MetricCycle
  inTask : 0 < cycle.nTaskIdx
  sent : Option Bool

def Tick.inCycle {typeClass : TypeClass} (tick : Tick typeClass) (n : Nat) (cycleTime : UInt32) : MetricCycle :=
  { tick.cycle with info := { tick.cycle.info with cycleCount := UInt32.ofNat n, cycleTime := cycleTime } }

/-- A metric, the samples in its body, and the number of the cycle in which it was observed last. -/
structure Moment where
  fb : Metrics
  window : List Reading
  cycle : Nat

def Moment.reported (m : Moment) (sent : Option Bool) : Metrics :=
  match sent with
  | none => m.fb
  | some bOk => m.fb.notifyFrameSent bOk

def Moment.observe {typeClass : TypeClass} (lreal : Lreal) (cycleTime : UInt32) (m : Moment) (tick : Tick typeClass) :
    Moment :=
  let done := Metrics.observe lreal (some tick.value) (tick.inCycle (m.cycle + 1) cycleTime) (m.reported tick.sent)
  ⟨done.1, (collect m.window done.2).2, m.cycle + 1⟩

/-- No sample is in the body that is older than the push interval: each leaves it at the latest with
the observation of the cycle behind the interval. -/
def Moment.Punctual (cycleTime : UInt32) (m : Moment) : Prop :=
  m.window ≠ [] → m.fb.age m.cycle cycleTime ≤ m.fb.pushInterval
deriving Decidable

/-- An observation that comes when the push interval of the samples is over is not suppressed. -/
def Moment.FollowsUp {typeClass : TypeClass} (cycleTime : UInt32) (m : Moment) (tick : Tick typeClass) : Prop :=
  m.window ≠ [] → m.fb.pushInterval < m.fb.age (m.cycle + 1) cycleTime →
    m.fb.suppressed tick.value (tick.inCycle (m.cycle + 1) cycleTime) = false
deriving Decidable

/-- What is known of a metric between two cycles. -/
structure Moment.Watched (typeClass : TypeClass) (m : Moment) : Prop where
  holds : Holds m.fb m.window
  initialized : m.fb.bInitialized = true
  locked : samples m.fb.eBodySchema → m.fb.nLockedTypeClass = typeClass
  settled : Settled m.cycle m.fb

namespace Moment

variable {typeClass : TypeClass} {m : Moment} {cycleTime : UInt32}

theorem Watched.reported (watched : m.Watched typeClass) (sent : Option Bool) :
    (⟨m.reported sent, m.window, m.cycle⟩ : Moment).Watched typeClass := by
  cases sent with
  | none => exact watched
  | some bOk =>
    exact ⟨{ watched.holds with }, watched.initialized, watched.locked,
      ⟨watched.settled.begun, watched.settled.sample, watched.settled.count⟩⟩

theorem observe_eq_observeLocked (lreal : Lreal) (c : MetricCycle)
    (initialized : fb.bInitialized = true) (sampling : samples fb.eBodySchema) (same : fb.nLockedTypeClass = arg.typeClass) :
    Metrics.observe lreal (some arg) c fb = observeLocked lreal arg c fb := by
  have text : ¬(fb.eBodySchema = some .string ∨ fb.eBodySchema = some .wstring) := by
    rintro (text | text) <;> rw [text] at sampling <;> cases sampling
  have known : ¬fb.eBodySchema = none := by
    intro none
    rw [none] at sampling
    cases sampling
  rw [Metrics.observe, if_neg (by simp [initialized]), if_neg text, if_neg known, if_neg (not_not.mpr same)]

theorem observe_unsampled (lreal : Lreal) (arg : AnyRef) (c : MetricCycle)
    (initialized : fb.bInitialized = true) (unsampled : ¬samples fb.eBodySchema) :
    (∃ fb', Metrics.observe lreal (some arg) c fb = (fb', []) ∧ fb'.bInitialized = true ∧ ¬samples fb'.eBodySchema ∧
      ∀ n, Settled n fb → Settled n fb') ∨ (fb.eBodySchema = none ∧ (fb.lockSchema arg).1 = true ∧
      Metrics.observe lreal (some arg) c fb = Metrics.observeLocked lreal arg c (fb.lockSchema arg).2) := by
  have ready : ¬(!fb.bInitialized) = true := by simp [initialized]
  by_cases text : fb.eBodySchema = some .string ∨ fb.eBodySchema = some .wstring
  · refine .inl ⟨fb.wrongType, by rw [Metrics.observe, if_neg ready, if_pos text], initialized, unsampled, ?_⟩
    exact fun n settled => settled.congr rfl rfl
  have free : fb.eBodySchema = none := by
    by_contra locked
    exact unsampled (samples_of_locked locked text)
  by_cases taken : (fb.lockSchema arg).1 = true
  · exact .inr ⟨free, taken, by rw [Metrics.observe, if_neg ready, if_neg text, if_pos free, if_pos taken]⟩
  · obtain ⟨schema, size, locked, becomes, -, sampling, -⟩ := fb.lockSchema_cases arg free
    refine .inl ⟨(fb.lockSchema arg).2.wrongType, ?_, ?_⟩
    · rw [Metrics.observe, if_neg ready, if_neg text, if_pos free, if_neg taken]
    · rw [becomes]
      exact ⟨initialized, fun still => taken (sampling.mpr still),
        fun n settled => ⟨settled.begun, settled.sample, settled.count⟩⟩

theorem Watched.observeLocked (watched : m.Watched typeClass) (lreal : Lreal) (arg : AnyRef) {c : MetricCycle}
    (sampling : samples m.fb.eBodySchema) (inTask : 0 < c.nTaskIdx) (now : c.info.cycleCount.toNat = m.cycle + 1)
    (whole : c.info.cycleTime.toNat % 10 = 0) (some : 0 < c.info.cycleTime.toNat) :
    let done := Metrics.observeLocked lreal arg c m.fb
    let next : Moment := ⟨done.1, (collect m.window done.2).2, m.cycle + 1⟩
    next.Watched typeClass ∧ (next.Punctual c.info.cycleTime ↔ (m.window ≠ [] →
      m.fb.pushInterval < m.fb.age (m.cycle + 1) c.info.cycleTime → m.fb.suppressed arg c = false)) := by
  have holds := (watched.holds.observeLocked lreal arg c sampling).2
  have observed := watched.settled.observeLocked watched.holds sampling lreal arg inTask now whole some
  have initialized := congrArg Prod.fst observed.identity_eq
  have typed := congrArg (fun t => t.2.2.1) observed.identity_eq
  have interval := pushInterval_eq_of_identity observed.identity_eq
  refine ⟨⟨holds, initialized.trans watched.initialized, fun _ => typed.trans (watched.locked sampling),
    observed.settled watched.settled⟩, ?_⟩
  cases held : m.fb.suppressed arg c with
  | true =>
    rw [held] at observed
    cases observed with
    | suppressed timing count nothing =>
      -- the samples are those from before, one cycle older
      have first := (timing_fields timing).2.2.2
      simp only [Punctual, nothing, age, interval, first, Bool.true_eq_false]
      refine imp_congr_right fun _ => ?_
      exact ⟨fun young older => Nat.not_lt.mpr young older, fun young => Nat.not_lt.mp young⟩
  | false =>
    rw [held] at observed
    cases observed with
    | stored settled identity young =>
      refine iff_of_true (fun filled => young ?_) (fun _ _ => rfl)
      rw [holds.count]
      exact List.length_pos_of_ne_nil filled

/-- The next cycle: what is known stays, and the samples are young just when an observation that is
due is not suppressed. -/
theorem Watched.observe (watched : m.Watched typeClass) (lreal : Lreal) (tick : Tick typeClass)
    (whole : cycleTime.toNat % 10 = 0) (some : 0 < cycleTime.toNat) (inside : m.cycle + 1 < 2 ^ 32) :
    (m.observe lreal cycleTime tick).Watched typeClass ∧
      ((m.observe lreal cycleTime tick).Punctual cycleTime ↔ m.FollowsUp cycleTime tick) := by
  have now : (tick.inCycle (m.cycle + 1) cycleTime).info.cycleCount.toNat = m.cycle + 1 := by
    show (UInt32.ofNat (m.cycle + 1)).toNat = _
    rw [UInt32.toNat_ofNat', Nat.mod_eq_of_lt inside]
  have inTask : 0 < (tick.inCycle (m.cycle + 1) cycleTime).nTaskIdx := tick.inTask
  have before := watched.reported tick.sent
  -- the report changes nothing that the condition is about
  have follows : m.FollowsUp cycleTime tick ↔ (m.window ≠ [] →
      (m.reported tick.sent).pushInterval < (m.reported tick.sent).age (m.cycle + 1) cycleTime →
        (m.reported tick.sent).suppressed tick.value (tick.inCycle (m.cycle + 1) cycleTime) = false) := by
    cases tick.sent <;> exact Iff.rfl
  rw [follows]
  by_cases sampling : samples (m.reported tick.sent).eBodySchema
  · have typed := before.locked sampling
    have same := observe_eq_observeLocked lreal (tick.inCycle (m.cycle + 1) cycleTime) before.initialized sampling
      (typed.trans tick.locked.symm)
    have next := before.observeLocked lreal tick.value sampling inTask now whole some
    unfold Moment.observe
    rw [same]
    exact next
  · -- nothing was sampled yet, so that there is nothing to follow up
    have empty : m.window = [] := by
      by_contra filled
      exact sampling (before.holds.sampling filled)
    rw [iff_true_right (fun filled => absurd empty filled)]
    unfold Moment.observe
    rcases observe_unsampled lreal tick.value (tick.inCycle (m.cycle + 1) cycleTime) before.initialized sampling with
      ⟨fb, same, initialized, still, settled⟩ | ⟨free, taken, same⟩
    · have holds := (preserves_observe lreal (Option.some tick.value) (tick.inCycle (m.cycle + 1) cycleTime)
        (m.reported tick.sent) m.window before.holds).2
      rw [same] at holds ⊢
      exact ⟨⟨holds, initialized, fun now => absurd now still, (settled _ before.settled).later⟩,
        fun filled => absurd empty filled⟩
    · -- the first value locks the type and is observed
      obtain ⟨holds, sampled⟩ := before.holds.lockSchema tick.value free
      obtain ⟨schema, size, known, becomes, -, -, typed⟩ := lockSchema_cases _ tick.value free
      have locked : (⟨((m.reported tick.sent).lockSchema tick.value).2, m.window, m.cycle⟩ : Moment).Watched typeClass := by
        rw [becomes] at holds ⊢
        exact ⟨holds, before.initialized, fun _ => (typed taken).trans tick.locked,
          ⟨before.settled.begun, before.settled.sample, before.settled.count⟩⟩
      obtain ⟨next, punctual⟩ := locked.observeLocked lreal tick.value (sampled taken) inTask now whole some
      rw [same]
      exact ⟨next, punctual.mpr (fun filled => absurd empty filled)⟩

/-- An event that neither observes nor flushes. -/
def IsSetting : Event → Prop
  | .observe .. | .call _ | .flush _ => False
  | _ => True

def configured (lreal : Lreal) (sLogger : PlcString) (settings : List Event) (cycle : Nat) : Moment :=
  let used := after (operation lreal) (initial sLogger) [] settings
  ⟨used.1, used.2, cycle⟩

/-- Settings leave the window as it is before the first observation. -/
structure Unused (fb : Metrics) : Prop where
  begun : fb.bWindowStartSet = false
  sample : fb.bWindowHasSample = false
  count : fb.nSampleCount = 0
  schema : fb.eBodySchema = none

theorem Unused.settled (unused : Unused fb) (n : Nat) : Settled n fb where
  begun set := by simp [unused.begun] at set
  sample has := by simp [unused.sample] at has
  count := by simp [unused.sample, unused.count]

theorem Unused.setting (unused : Unused fb) (lreal : Lreal) (setting : IsSetting event) :
    Unused (operation lreal event fb).1 ∧ (operation lreal event fb).2 = [] := by
  cases event with
  | observe | call | flush => cases setting
  | setAggregation nMask =>
    refine ⟨⟨unused.begun, unused.sample, unused.count, ?_⟩, rfl⟩
    show (fb.switchSchema nMask).1 = none
    simp [switchSchema, unused.schema]
  | init | setRecordSampleTimes | setRecordSampleTimesDc | setSampleIntervalMs | setPushIntervalMs | setChangeDetect
  | bindTracer | withSpan | notifyFrameSent => exact ⟨⟨unused.begun, unused.sample, unused.count, unused.schema⟩, rfl⟩

theorem Unused.after (lreal : Lreal) (only : ∀ event ∈ settings, IsSetting event)
    (unused : Unused fb) (h : Holds fb []) :
    Unused (after (operation lreal) fb [] settings).1 ∧ (after (operation lreal) fb [] settings).2 = [] ∧
      Holds (after (operation lreal) fb [] settings).1 [] := by
  induction settings generalizing fb with
  | nil => exact ⟨unused, rfl, h⟩
  | cons event settings ih =>
    obtain ⟨next, silent⟩ := unused.setting lreal (only event List.mem_cons_self)
    have holds := (operation_preserves lreal event fb [] h).2
    rw [silent] at holds
    rw [Collecting.after, silent]
    exact ih (fun other member => only other (List.mem_cons_of_mem _ member)) next holds

theorem configured_watched {lreal : Lreal} {sLogger : PlcString} {settings : List Event}
    (only : ∀ event ∈ settings, IsSetting event) {cycle : Nat}
    (initialized : (configured lreal sLogger settings cycle).fb.bInitialized = true) (typeClass : TypeClass) :
    (configured lreal sLogger settings cycle).Watched typeClass ∧ (configured lreal sLogger settings cycle).window = [] := by
  obtain ⟨unused, empty, holds⟩ := Unused.after lreal only ⟨rfl, rfl, rfl, rfl⟩ (holds_initial sLogger)
  have known : Holds (configured lreal sLogger settings cycle).fb (configured lreal sLogger settings cycle).window := by
    show Holds _ (Collecting.after (operation lreal) (initial sLogger) [] settings).2
    rw [empty]
    exact holds
  refine ⟨⟨known, initialized, fun sampling => ?_, unused.settled cycle⟩, empty⟩
  rw [show (configured lreal sLogger settings cycle).fb.eBodySchema = none from unused.schema] at sampling
  cases sampling

theorem cycle_foldl (lreal : Lreal) (ticks : List (Tick typeClass)) (m : Moment) :
    (ticks.foldl (Moment.observe lreal cycleTime) m).cycle = m.cycle + ticks.length := by
  induction ticks generalizing m with
  | nil => rfl
  | cons tick ticks ih =>
    rw [List.foldl_cons, ih, List.length_cons]
    show m.cycle + 1 + ticks.length = _
    omega

def sampleTick (value : UInt8) : Tick .bool := ⟨⟨.bool, [value], [], rfl⟩, rfl, sampleCycle, by decide, none⟩

/-- A push interval of one millisecond; change detection is on. -/
def sampleSettings : List Event :=
  [.init ⟨[0x62], by decide, by decide⟩ .empty 0, .setPushIntervalMs 1]

def sampleStart : Moment := configured sampleLreal .empty sampleSettings 0

end Moment

end Metrics

end TcOtel.Plc
