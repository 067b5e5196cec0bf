import TcOtel.Plc.TaskDiag

/-!
# The windows of the diagnostic collector

A frame has the samples of its window that are still in the ring, and the statistics of all of
them. `Complete` ties the state of the collector to the samples of the open window, and every call
keeps it. What the receiver decodes follows: execution times in ticks and not in microseconds
(`execTimes_inMicroseconds_iff_idle`), counts and averages that are right for fewer than 2^32
samples (`batches_right_iff`), and an overflow mark that comes one sample late
(`overflow_reported_iff`).
-/

namespace TcOtel.Plc

open Decoding Memory Rings Ads.Push Service

/-! ### Runs -/

namespace TaskDiag

def samples (fb : TaskDiag) (c : Cycle) : Bool :=
  fb.bInitialized && fb.configValid && c.config.enabled &&
    !decide (c.config.divider > 1 ∧ fb.nDividerCounter + 1 < c.config.divider) && decide (0 < c.nTaskIdx)

inductive Event where
  | init (sAmsNetId : PlcString) (nPort : UInt16) (validRef : Bool)
  | call (c : Cycle)

def operation : Event → Collecting.Operation TaskDiag PlcTaskSystemInfo AdsWrite
  | .init sAmsNetId nPort validRef => fun fb => (fb.init sAmsNetId nPort validRef, [])
  | .call c => fun fb =>
    ((fb.call c).1,
      (if (fb.pump c).samples c then [.take c.info] else []) ++
        match (fb.call c).2 with
        | none => []
        | some frame => [.deliver frame])

def pushed (events : List Event) : List (AdsWrite × List PlcTaskSystemInfo) :=
  Collecting.deliveries operation initial [] events

/-- A sample of the window: the cycle and its flags. -/
abbrev Taken := PlcTaskSystemInfo × UInt8

def recorded : Event → Collecting.Operation TaskDiag Taken AdsWrite
  | .init sAmsNetId nPort validRef => fun fb => (fb.init sAmsNetId nPort validRef, [])
  | .call c => fun fb =>
    ((fb.call c).1,
      (if (fb.pump c).samples c then [.take (c.info, (fb.pump c).flagsOf c.info)] else []) ++
        match (fb.call c).2 with
        | none => []
        | some frame => [.deliver frame])

/-- The frames of a run, each with all samples of its window. -/
def batches (events : List Event) : List (AdsWrite × List Taken) := Collecting.deliveries recorded initial [] events

theorem pushed_eq (events : List Event) : pushed events = (batches events).map (Prod.map id (List.map Prod.fst)) := by
  refine Collecting.deliveries_map Prod.fst (fun event fb => ?_) initial [] events
  cases event with
  | init => rfl
  | call c =>
    simp only [operation, recorded]
    cases (fb.pump c).samples c <;> cases (fb.call c).2 <;> rfl

def ticks (window : List PlcTaskSystemInfo) : List Nat := window.map (·.lastExecTime.toNat)

/-- The part of the state that is about the execution times of the window. -/
structure Statistics where
  ring : Ring PushDiagSample nMaxSamples
  hasSample : Bool
  least : UInt32
  most : UInt32
  sum : UInt64
  count : UInt32

def statistics (fb : TaskDiag) : Statistics :=
  ⟨fb.ring, fb.bWindowHasSample, fb.nExecTimeMinUs, fb.nExecTimeMaxUs, fb.nExecTimeSumUs, fb.nExecTimeSamples⟩

/-- The statistics of a window. The ring has its last samples only, and sums wrap. -/
structure Statistics.Describe (st : Statistics) (window : List PlcTaskSystemInfo) : Prop where
  ring : st.ring.contents.map (·.execTimeUs) = (window.map (·.lastExecTime)).rtake nMaxSamples
  hasSample : st.hasSample = !window.isEmpty
  least : window ≠ [] → (ticks window).min? = some st.least.toNat
  most : window ≠ [] → (ticks window).max? = some st.most.toNat
  sum : st.sum.toNat = (ticks window).sum % 2 ^ 64
  count : st.count.toNat = window.length % 2 ^ 32

/-- The rest of what a flush starts again with. -/
def tally (fb : TaskDiag) : (UInt32 × UInt32) × (UInt32 × UInt32) × Int64 × Int64 :=
  ((fb.nCycleExceedInWnd, fb.nRtViolationInWnd), (fb.nCycleCountStart, fb.nCycleCountEnd), fb.nDcTimeStart, fb.nDcTimeEnd)

/-- What a flush leaves as it is. -/
def lasting (fb : TaskDiag) : Bool × UInt32 := (fb.bOverflowPending, fb.nLifetimeExceedCount)

def sampledIf (taken : Bool) (info : PlcTaskSystemInfo) (fb : TaskDiag) : TaskDiag :=
  if taken then fb.takeSample info else fb

theorem collect_cases (fb : TaskDiag) (c : Cycle) :
    ∃ n mid, mid = (fb.setDivider n).sampledIf (fb.samples c) c.info ∧
      (fb.collect c = (mid, none) ∨ fb.collect c = mid.checkFlush c) := by
  unfold collect
  split
  · next stopped =>
    have idle : fb.samples c = false := by
      rcases Bool.or_eq_true_iff.mp stopped with off | off <;> simp_all [samples]
    exact ⟨fb.nDividerCounter, fb, by rw [idle]; rfl, .inl rfl⟩
  split
  · next disabled =>
    have idle : fb.samples c = false := by simp_all [samples]
    exact ⟨fb.nDividerCounter, fb, by rw [idle]; rfl, .inl rfl⟩
  split
  · next skipped =>
    have idle : fb.samples c = false := by simp [samples, skipped]
    exact ⟨_, fb.setDivider (fb.nDividerCounter + 1), by rw [idle]; rfl, .inr rfl⟩
  split
  · next outside =>
    have idle : fb.samples c = false := by
      simp [samples, decide_eq_false (show ¬0 < c.nTaskIdx by omega)]
    exact ⟨if c.config.divider > 1 then 0 else fb.nDividerCounter, _, by rw [idle]; rfl, .inl rfl⟩
  · next started enabled due inside =>
    have taken : fb.samples c = true := by
      simp only [Bool.or_eq_true, Bool.not_eq_true', not_or] at started enabled
      simp [samples, started, enabled, due, decide_eq_true (show 0 < c.nTaskIdx by omega)]
    exact ⟨if c.config.divider > 1 then 0 else fb.nDividerCounter, _, by rw [taken]; rfl, .inr rfl⟩

theorem checkFlush_cases (fb : TaskDiag) (c : Cycle) : (fb.checkFlush c).1.lasting = fb.lasting ∧
      ((fb.checkFlush c).2 = none ∧ (fb.checkFlush c).1.statistics = fb.statistics ∧ (fb.checkFlush c).1.tally = fb.tally ∨
      ∃ frame, (fb.checkFlush c).2 = some frame ∧ fb.bWindowHasSample = true ∧
        frame.data = (fb.header c).bytes ++ fb.ring.contents.flatMap PushDiagSample.bytes ∧
        (fb.checkFlush c).1.statistics = ⟨fb.ring.clear, false, 0, 0, 0, 0⟩ ∧
        (fb.checkFlush c).1.tally = ((0, 0), (0, 0), 0, 0)) := by
  unfold checkFlush
  split
  · exact ⟨rfl, .inl ⟨rfl, rfl, rfl⟩⟩
  split
  · exact ⟨rfl, .inl ⟨rfl, rfl, rfl⟩⟩
  split
  · exact ⟨rfl, .inl ⟨rfl, rfl, rfl⟩⟩
  split
  · exact ⟨rfl, .inl ⟨rfl, rfl, rfl⟩⟩
  split
  · exact ⟨rfl, .inl ⟨rfl, rfl, rfl⟩⟩
  · next due =>
    simp only [Bool.or_eq_true, Bool.not_eq_true', not_or, Bool.not_eq_false] at due
    -- only here a frame may start, and `flush` still refuses an empty ring
    unfold flush
    split
    · exact ⟨rfl, .inl ⟨rfl, rfl, rfl⟩⟩
    · exact ⟨rfl, .inr ⟨_, rfl, due.1, rfl, rfl, rfl⟩⟩

/-! ### The statistics describe the window -/

theorem ticks_concat (window : List PlcTaskSystemInfo) (info : PlcTaskSystemInfo) :
    ticks (window ++ [info]) = ticks window ++ [info.lastExecTime.toNat] := List.map_append

theorem Statistics.Describe.empty (ring : Ring PushDiagSample nMaxSamples) (none : ring.contents = []) :
    (⟨ring, false, 0, 0, 0, 0⟩ : Statistics).Describe [] where
  ring := by rw [none]; rfl
  hasSample := rfl
  least h := absurd rfl h
  most h := absurd rfl h
  sum := rfl
  count := rfl

variable {window : List PlcTaskSystemInfo}

theorem Statistics.Describe.concat {fb : TaskDiag}
    (described : fb.statistics.Describe window) (info : PlcTaskSystemInfo) :
    (fb.takeSample info).statistics.Describe (window ++ [info]) := by
  constructor
  case ring =>
    rw [List.map_append]
    exact Ring.map_contents_push described.ring _
  case hasSample => simp [statistics, takeSample]
  -- the least and the most are replaced by the first sample and by a better one
  case least =>
    intro _
    have has : fb.bWindowHasSample = !window.isEmpty := described.hasSample
    cases window with
    | nil => simp [ticks, statistics, takeSample, has]
    | cons first rest =>
      have least := described.least (List.cons_ne_nil first rest)
      rw [ticks, List.map_cons, List.min?_cons', Option.some.injEq] at least
      rw [ticks_concat, ticks, List.map_cons, List.cons_append, List.min?_cons', List.foldl_append, least]
      simp only [statistics, takeSample, has, apply_ite UInt32.toNat]
      grind [UInt32.lt_iff_toNat_lt]
  case most =>
    intro _
    have has : fb.bWindowHasSample = !window.isEmpty := described.hasSample
    cases window with
    | nil => simp [ticks, statistics, takeSample, has]
    | cons first rest =>
      have most := described.most (List.cons_ne_nil first rest)
      rw [ticks, List.map_cons, List.max?_cons', Option.some.injEq] at most
      rw [ticks_concat, ticks, List.map_cons, List.cons_append, List.max?_cons', List.foldl_append, most]
      simp only [statistics, takeSample, has, apply_ite UInt32.toNat]
      grind [UInt32.lt_iff_toNat_lt]
  case sum =>
    show (fb.nExecTimeSumUs + info.lastExecTime.toUInt64).toNat = _
    rw [ticks_concat, List.sum_append, Nat.add_mod (ticks window).sum, ← described.sum, Nat.add_mod_mod]
    rfl
  case count =>
    show (fb.nExecTimeSamples + 1).toNat = _
    rw [List.length_append, Nat.add_mod window.length, ← described.count]
    rfl

/-- A frame reports a window: it was built when the statistics described that window. -/
def Reports (frame : AdsWrite) (window : List PlcTaskSystemInfo) : Prop :=
  ∃ (fb : TaskDiag) (c : Cycle), fb.statistics.Describe window ∧ window ≠ [] ∧
    frame.data = (fb.header c).bytes ++ fb.ring.contents.flatMap PushDiagSample.bytes

/-! ### All of a window -/

def sampleOf (p : Taken) : DiagSample := ⟨p.1.cycleCount, p.1.lastExecTime, p.1.dcTaskTime, p.2⟩

def exceeds (window : List Taken) : Nat := window.countP (·.1.cycleTimeExceeded)

def violations (window : List Taken) : Nat := window.countP (hasFlag ·.2 sampleFlagRtViolation)

/-- The state and the samples of the open window. A sample behind the first one is marked when a
sample of the window was overwritten by the one before it. -/
structure Complete (fb : TaskDiag) (window : List Taken) : Prop where
  described : fb.statistics.Describe (window.map Prod.fst)
  ring : fb.ring.contents.map PushDiagSample.decoded = (window.map sampleOf).rtake nMaxSamples
  counts : (fb.nCycleExceedInWnd, fb.nRtViolationInWnd) = (.ofNat (exceeds window), .ofNat (violations window))
  start : ∀ p ∈ window.head?, (fb.nCycleCountStart, fb.nDcTimeStart) = (p.1.cycleCount, p.1.dcTaskTime)
  last : ∀ p ∈ window.getLast?, (fb.nCycleCountEnd, fb.nDcTimeEnd) = (p.1.cycleCount, p.1.dcTaskTime)
  marked : ∀ i, ∀ p ∈ window[i + 1]?, hasFlag p.2 sampleFlagOverflow = decide (nMaxSamples ≤ i)
  pending : window ≠ [] → fb.bOverflowPending = decide (nMaxSamples < window.length)

theorem hasFlag_flagsOf (fb : TaskDiag) (info : PlcTaskSystemInfo) :
    hasFlag (fb.flagsOf info) sampleFlagRtViolation = (info.rtViolation && !fb.bPrevRtViolation) ∧
      hasFlag (fb.flagsOf info) sampleFlagOverflow = fb.bOverflowPending := by
  have all : ∀ a b c d : Bool,
      hasFlag ((if a then 1 else 0) ||| (if b then 2 else 0) ||| (if c then 4 else 0) ||| (if d then 8 else 0)) 2 = b ∧
        hasFlag ((if a then 1 else 0) ||| (if b then 2 else 0) ||| (if c then 4 else 0) ||| (if d then 8 else 0)) 8 = d := by
    decide
  exact all ..

theorem Complete.empty {fb : TaskDiag} {ring : Ring PushDiagSample nMaxSamples} (none : ring.contents = [])
    (cleared : fb.statistics = ⟨ring, false, 0, 0, 0, 0⟩) (zero : fb.tally = ((0, 0), (0, 0), 0, 0)) : Complete fb [] where
  described := cleared ▸ .empty _ none
  ring := by rw [show fb.ring = ring from congrArg Statistics.ring cleared, none]; rfl
  counts := congrArg Prod.fst zero
  start := by simp
  last := by simp
  marked := by simp
  pending some := absurd rfl some

theorem ofNat_countP_concat {α : Type} (f : α → Bool) (xs : List α) (x : α) :
    UInt32.ofNat ((xs ++ [x]).countP f) = if f x then UInt32.ofNat (xs.countP f) + 1 else UInt32.ofNat (xs.countP f) := by
  rw [List.countP_append, List.countP_singleton]
  split
  · exact UInt32.ofNat_add ..
  · rfl

variable {fb : TaskDiag} {taken : List Taken}

theorem Complete.concat (h : Complete fb taken) (info : PlcTaskSystemInfo) :
    Complete (fb.takeSample info) (taken ++ [(info, fb.flagsOf info)]) where
  described := by
    rw [List.map_append]
    exact h.described.concat info
  ring := by
    rw [List.map_append]
    exact Ring.map_contents_push h.ring _
  counts := by
    obtain ⟨exceeded, violated⟩ := Prod.mk.inj h.counts
    rw [exceeds, violations, ofNat_countP_concat, ofNat_countP_concat, (fb.hasFlag_flagsOf info).1]
    simp [takeSample, exceeded, violated, exceeds, violations]
  start := by
    have has : fb.bWindowHasSample = !(taken.map Prod.fst).isEmpty := h.described.hasSample
    cases taken with
    | nil => simp [takeSample, show fb.bWindowHasSample = false from has]
    | cons first rest =>
      rintro p found
      have same := h.start first rfl
      obtain rfl : first = p := by simpa using found
      simpa [takeSample, show fb.bWindowHasSample = true from has] using same
  last := by simp [takeSample]
  marked i p found := by
    rw [List.getElem?_append] at found
    split at found
    · exact h.marked i p found
    next behind =>
      -- the new sample has the mark that the one before it has left
      obtain ⟨at_, rfl⟩ : i + 1 - taken.length = 0 ∧ (info, fb.flagsOf info) = p := by
        cases index : i + 1 - taken.length with
        | zero => simpa [index] using found
        | succ n => simp [index] at found
      have filled : taken ≠ [] := by rintro rfl; simp at at_
      rw [(fb.hasFlag_flagsOf info).2, h.pending filled, decide_eq_decide]
      omega
  pending _ := by
    have count := congrArg List.length h.ring
    rw [List.length_map, Ring.length_contents, List.rtake, List.length_drop, List.length_map] at count
    show decide (nMaxSamples ≤ fb.ring.count) = _
    rw [List.length_append, List.length_singleton, decide_eq_decide]
    omega

/-- A frame that was built when the state was that of the window. -/
def Built (frame : AdsWrite) (window : List Taken) : Prop :=
  ∃ fb c, Complete fb window ∧ window ≠ [] ∧
    frame.data = (fb.header c).bytes ++ fb.ring.contents.flatMap PushDiagSample.bytes

theorem Complete.congr (h : Complete fb taken) (statistics : fb'.statistics = fb.statistics)
    (tally : fb'.tally = fb.tally) (lasting : fb'.lasting = fb.lasting) : Complete fb' taken where
  described := statistics ▸ h.described
  ring := by rw [show fb'.ring = fb.ring from congrArg Statistics.ring statistics, h.ring]
  counts := (congrArg Prod.fst tally).trans h.counts
  start p found := (congrArg (fun t => (t.2.1.1, t.2.2.1)) tally).trans (h.start p found)
  last p found := (congrArg (fun t => (t.2.1.2, t.2.2.2)) tally).trans (h.last p found)
  marked := h.marked
  pending some := (congrArg Prod.fst lasting).trans (h.pending some)

theorem Complete.collect (h : Complete fb taken) (c : Cycle) :
    let taken := taken ++ if fb.samples c then [(c.info, fb.flagsOf c.info)] else []
    (fb.collect c).2 = none ∧ Complete (fb.collect c).1 taken ∨
      ∃ frame, (fb.collect c).2 = some frame ∧ Built frame taken ∧ Complete (fb.collect c).1 [] := by
  intro sampled
  obtain ⟨n, mid, same, checked⟩ := fb.collect_cases c
  have now : Complete mid sampled := by
    have divided : Complete (fb.setDivider n) taken := h.congr rfl rfl rfl
    subst same
    simp only [sampled]
    cases fb.samples c with
    | false => exact (List.append_nil taken).symm ▸ divided
    | true => exact divided.concat c.info
  rcases checked with same | same <;> rw [same]
  · exact .inl ⟨rfl, now⟩
  · obtain ⟨lasting, ⟨none, statistics, tally⟩ | ⟨frame, sent, some, data, cleared, zero⟩⟩ := mid.checkFlush_cases c
    · exact .inl ⟨none, now.congr statistics tally lasting⟩
    · have filled : sampled ≠ [] := by
        have has := now.described.hasSample
        rw [show mid.statistics.hasSample = true from some] at has
        intro empty
        rw [empty] at has
        cases has
      exact .inr ⟨frame, sent, ⟨mid, c, now, filled, data⟩, .empty (Ring.contents_clear _) cleared zero⟩

theorem pump_eq (fb : TaskDiag) (c : Cycle) : (fb.pump c).statistics = fb.statistics ∧ (fb.pump c).tally = fb.tally ∧
    (fb.pump c).lasting = fb.lasting := by
  unfold pump
  split_ifs <;> exact ⟨rfl, rfl, rfl⟩

/-- What a call takes and delivers. -/
theorem Complete.call (h : Complete fb taken) (c : Cycle) :
    let sample := if (fb.pump c).samples c then [(c.info, (fb.pump c).flagsOf c.info)] else []
    let done := Collecting.collect taken (recorded (.call c) fb).2
    done = ([], taken ++ sample) ∧ Complete (fb.call c).1 (taken ++ sample) ∨
      ∃ frame, done = ([(frame, taken ++ sample)], []) ∧ Built frame (taken ++ sample) ∧ Complete (fb.call c).1 [] := by
  intro sample done
  have sampled : done = Collecting.collect (taken ++ sample) (match (fb.call c).2 with
      | none => []
      | some frame => [.deliver frame]) := by
    simp only [done, sample, recorded, Collecting.collect_append]
    cases (fb.pump c).samples c <;> simp [Collecting.collect]
  obtain ⟨statistics, tally, lasting⟩ := fb.pump_eq c
  rcases (h.congr statistics tally lasting).collect c with ⟨none, kept⟩ | ⟨frame, sent, built, next⟩
  · refine .inl ⟨?_, kept⟩
    rw [sampled, TaskDiag.call, none]
    rfl
  · refine .inr ⟨frame, ?_, built, next⟩
    rw [sampled, TaskDiag.call, sent]
    rfl

theorem recorded_preserves (event : Event) : Collecting.Preserves Complete Built (recorded event) := by
  cases event with
  | init sAmsNetId nPort validRef => exact .of_silent fun fb window h => h.congr rfl rfl rfl
  | call c =>
    intro fb window h
    rcases h.call c with ⟨same, kept⟩ | ⟨frame, same, built, next⟩ <;> rw [same]
    · exact ⟨fun _ _ member => absurd member List.not_mem_nil, kept⟩
    · refine ⟨fun sent window member => ?_, next⟩
      cases List.mem_singleton.mp member
      exact built

theorem built_of_mem {events : List Event} {frame : AdsWrite} (member : (frame, taken) ∈ batches events) :
    Built frame taken :=
  Collecting.Preserves.of_mem_deliveries recorded_preserves (Complete.empty rfl rfl rfl) member

theorem reports_of_pushed (member : (frame, window) ∈ pushed events) : Reports frame window := by
  rw [pushed_eq] at member
  obtain ⟨⟨sent, taken⟩, recorded, same⟩ := List.mem_map.mp member
  cases same
  obtain ⟨fb, c, complete, filled, data⟩ := built_of_mem recorded
  exact ⟨fb, c, complete.described, by simpa using filled, data⟩

/-! ### The execution times the receiver sees -/

/-- What the receiver makes of a frame that is built in this state. -/
def batch (fb : TaskDiag) (c : Cycle) : TaskDiagBatch := (fb.header c).decoded fb.ring.contents

theorem decodeBatch_header (fb : TaskDiag) (c : Cycle) :
    decodeBatch ((fb.header c).bytes ++ fb.ring.contents.flatMap PushDiagSample.bytes) =
      some (.taskDiagBatch (fb.batch c)) := by
  have few : fb.ring.contents.length ≤ pushBatchMaxSamples := by
    rw [Ring.length_contents]
    exact fb.ring.count_le
  refine PushDiagBatchHeader.decodeBatch_frame _ _ rfl rfl ?_ few
  rw [Ring.length_contents] at few ⊢
  exact Nat.mod_eq_of_lt (Nat.lt_of_le_of_lt few (by decide))

/-- What the receiver decodes: ticks, as the task gives them. -/
structure Received (batch : TaskDiagBatch) (window : List PlcTaskSystemInfo) : Prop where
  samples : batch.samples.map (·.execTimeUs) = (window.map (·.lastExecTime)).rtake nMaxSamples
  least : (ticks window).min? = some batch.execTimeMinUs.toNat
  most : (ticks window).max? = some batch.execTimeMaxUs.toNat
  average : batch.execTimeAvgUs.toNat = (ticks window).sum % 2 ^ 64 / (window.length % 2 ^ 32) % 2 ^ 32

theorem execTimeAvgUs_header (fb : TaskDiag) (c : Cycle) : (fb.header c).execTimeAvgUs.toNat =
      fb.nExecTimeSumUs.toNat / fb.nExecTimeSamples.toNat % 2 ^ 32 := by
  by_cases some : fb.nExecTimeSamples > 0
  · simp [header, some]
  · have none : fb.nExecTimeSamples.toNat = 0 := Nat.eq_zero_of_not_pos some
    simp only [header, some, none, Nat.div_zero]
    rfl

theorem Statistics.Describe.received {fb : TaskDiag} (described : fb.statistics.Describe window) (filled : window ≠ [])
    (c : Cycle) : Received (fb.batch c) window where
  samples := by
    rw [← described.ring]
    simp [batch, PushDiagBatchHeader.decoded, PushDiagSample.decoded, statistics]
  least := described.least filled
  most := described.most filled
  average := by
    rw [← described.sum, ← described.count]
    exact fb.execTimeAvgUs_header c

/-- The execution times of a window in microseconds, rounded down for each cycle. -/
def microseconds (window : List PlcTaskSystemInfo) : List Nat := window.map (·.lastExecTime.toNat / 10)

/-- The receiver decodes the frame, and the samples and the metrics it gets have the execution
times in microseconds. The frame has the samples of the last cycles only; the metrics are
about the whole window. -/
def ExecTimesInMicroseconds (env : DiagnosticsBridge.Surroundings) (netId : String) (frame : AdsWrite)
    (window : List PlcTaskSystemInfo) : Prop :=
  ∃ batch, decodeBatch frame.data = some (.taskDiagBatch batch) ∧
    batch.samples.map (·.execTimeUs.toNat) = (microseconds window).rtake nMaxSamples ∧
    let metrics := DiagnosticsBridge.batchToMetrics env netId batch
    DiagnosticsBridge.valuesNamed "tc.task.exec_time_min_us" metrics =
      (microseconds window).min?.toList.map F64.ofNat ∧
    DiagnosticsBridge.valuesNamed "tc.task.exec_time_max_us" metrics =
      (microseconds window).max?.toList.map F64.ofNat ∧
    DiagnosticsBridge.valuesNamed "tc.task.exec_time_avg_us" metrics =
      [F64.ofNat ((microseconds window).sum / window.length)]

theorem microseconds_eq (window : List PlcTaskSystemInfo) : microseconds window = (ticks window).map (· / 10) := by
  rw [ticks, List.map_map]
  rfl

theorem max_microseconds (isMost : (ticks window).max? = some most) :
    (microseconds window).max? = some (most / 10) := by
  rw [List.max?_eq_some_iff] at isMost ⊢
  rw [microseconds_eq]
  refine ⟨List.mem_map_of_mem isMost.1, fun y member => ?_⟩
  obtain ⟨x, inside, rfl⟩ := List.mem_map.mp member
  exact Nat.div_le_div_right (isMost.2 x inside)

theorem Reports.inMicroseconds_iff
    (reports : Reports frame window) (env : DiagnosticsBridge.Surroundings) (netId : String) :
    ExecTimesInMicroseconds env netId frame window ↔ ∀ info ∈ window, info.lastExecTime = 0 := by
  obtain ⟨fb, c, described, filled, data⟩ := reports
  obtain ⟨batch, decoded, received⟩ : ∃ batch, decodeBatch frame.data = some (.taskDiagBatch batch) ∧
      Received batch window := ⟨fb.batch c, data ▸ fb.decodeBatch_header c, described.received filled c⟩
  obtain ⟨minimum, maximum, average⟩ := DiagnosticsBridge.valuesNamed_execTimes env netId batch
  constructor
  · rintro ⟨other, same, -, -, most, -⟩
    obtain rfl : batch = other := by simpa [decoded] using same
    -- the longest time would have to be a tenth of itself
    rw [maximum, max_microseconds received.most] at most
    have small : batch.execTimeMaxUs.toNat < 2 ^ 53 := Nat.lt_trans batch.execTimeMaxUs.toNat_lt (by decide)
    have fixed : batch.execTimeMaxUs.toNat = batch.execTimeMaxUs.toNat / 10 :=
      F64.ofNat_injective small (Nat.lt_of_le_of_lt (Nat.div_le_self ..) small) (by simpa using most)
    intro info inside
    have bound := (List.max?_eq_some_iff.mp received.most).2 _ (List.mem_map_of_mem inside)
    exact UInt32.toNat_inj.mp (Nat.le_zero.mp (by omega))
  · -- an idle task has the same execution times in both units
    intro idle
    have zero : ∀ t ∈ ticks window, t = 0 := by
      intro t inside
      obtain ⟨info, sampled, rfl⟩ := List.mem_map.mp inside
      rw [idle info sampled]
      rfl
    have same : microseconds window = ticks window := by
      have unchanged : ∀ t ∈ ticks window, t / 10 = id t := fun t inside => by rw [zero t inside]; rfl
      rw [microseconds_eq, List.map_congr_left unchanged, List.map_id]
    have sum : (ticks window).sum = 0 := List.sum_eq_zero zero
    refine ⟨batch, decoded, ?_, ?_, ?_, ?_⟩ <;> rw [same]
    · have values := congrArg (List.map UInt32.toNat) received.samples
      rw [map_rtake, List.map_map, List.map_map] at values
      exact values
    · rw [minimum, received.least]
      rfl
    · rw [maximum, received.most]
      rfl
    · rw [average, received.average, sum]
      simp

/-- In whatever way the collector is driven, the execution times of a frame are in microseconds
just when the task was idle in every cycle sampled for it. -/
theorem execTimes_inMicroseconds_iff_idle (env : DiagnosticsBridge.Surroundings) (netId : String)
    (events : List Event) (frame : AdsWrite) (window : List PlcTaskSystemInfo)
    (member : (frame, window) ∈ pushed events) :
    ExecTimesInMicroseconds env netId frame window ↔ ∀ info ∈ window, info.lastExecTime = 0 :=
  (reports_of_pushed member).inMicroseconds_iff env netId

/-! A task of 1 ms that runs for `exec` ticks in each of two cycles, with a window of 1 ms. -/

def sampleCycle (exec cycle : UInt32) : Cycle where
  config := ⟨1, true, 1⟩
  nTaskIdx := 1
  info := ⟨0, 350, .empty, cycle, exec, 10000, 0, false, false, false⟩
  busy := false
  err := false

def sampleRun (exec : UInt32) : List Event :=
  [.init .empty 16150 true, .call (sampleCycle exec 1), .call (sampleCycle exec 2)]

def sampleWindow (exec : UInt32) : List PlcTaskSystemInfo := [(sampleCycle exec 1).info, (sampleCycle exec 2).info]

def sampleSurroundings : DiagnosticsBridge.Surroundings := ⟨.unlimited, fun _ => ⟨0, 0⟩, "127.0.0.1"⟩

theorem execTimes_inMicroseconds_idleTask : ∃ frame, (frame, sampleWindow 0) ∈ pushed (sampleRun 0) ∧
      ExecTimesInMicroseconds sampleSurroundings "5.1.2.3.1.1" frame (sampleWindow 0) := by
  have windows : (pushed (sampleRun 0)).map Prod.snd = [sampleWindow 0] := by decide +kernel
  obtain ⟨⟨frame, _⟩, member, rfl⟩ := List.mem_map.mp (windows ▸ List.mem_singleton_self (sampleWindow 0))
  exact ⟨frame, member, (execTimes_inMicroseconds_iff_idle _ _ _ frame _ member).mpr (by decide)⟩

/-- A task that runs for 1 µs, ten ticks, is reported to run for 10 µs. -/
theorem sampleRun_not_inMicroseconds : ∃ frame, (frame, sampleWindow 10) ∈ pushed (sampleRun 10) ∧
      ¬ExecTimesInMicroseconds sampleSurroundings "5.1.2.3.1.1" frame (sampleWindow 10) := by
  have windows : (pushed (sampleRun 10)).map Prod.snd = [sampleWindow 10] := by decide +kernel
  obtain ⟨⟨frame, _⟩, member, rfl⟩ := List.mem_map.mp (windows ▸ List.mem_singleton_self (sampleWindow 10))
  exact ⟨frame, member, fun right =>
    absurd (((reports_of_pushed member).inMicroseconds_iff _ _).mp right) (by decide)⟩

/-! ### What a batch says of its window -/

structure Right (batch : TaskDiagBatch) (window : List Taken) : Prop where
  samples : batch.samples = (window.map sampleOf).rtake nMaxSamples
  least : (ticks (window.map Prod.fst)).min? = some batch.execTimeMinUs.toNat
  most : (ticks (window.map Prod.fst)).max? = some batch.execTimeMaxUs.toNat
  average : batch.execTimeAvgUs.toNat = (ticks (window.map Prod.fst)).sum / window.length
  exceeded : batch.cycleExceedCount.toNat = exceeds window
  violated : batch.rtViolationCount.toNat = violations window
  start : window.head?.map (fun p => (p.1.cycleCount, p.1.dcTaskTime)) = some (batch.cycleCountStart, batch.dcTimeStart)
  last : window.getLast?.map (fun p => (p.1.cycleCount, p.1.dcTaskTime)) = some (batch.cycleCountEnd, batch.dcTimeEnd)

/-- The counters of 32 bits do not change what is told of a window. -/
def Counted (window : List Taken) : Prop :=
  let sum := (ticks (window.map Prod.fst)).sum
  sum % 2 ^ 64 / (window.length % 2 ^ 32) % 2 ^ 32 = sum / window.length ∧
    exceeds window < 2 ^ 32 ∧ violations window < 2 ^ 32

theorem ofNat_toNat_eq_iff {n : Nat} : (UInt32.ofNat n).toNat = n ↔ n < 2 ^ 32 := by
  rw [UInt32.toNat_ofNat']
  exact Nat.mod_eq_iff_lt (by decide)

theorem Complete.right_iff (h : Complete fb taken) (filled : taken ≠ []) (c : Cycle) :
    Right (fb.batch c) taken ↔ Counted taken := by
  obtain ⟨exceeded, violated⟩ := Prod.mk.inj h.counts
  have received := h.described.received (by simpa using filled) c
  have average := received.average
  rw [List.length_map] at average
  have exceeds : (fb.batch c).cycleExceedCount.toNat = exceeds taken ↔ exceeds taken < 2 ^ 32 := by
    rw [← ofNat_toNat_eq_iff, ← exceeded]
    rfl
  have violations : (fb.batch c).rtViolationCount.toNat = violations taken ↔ violations taken < 2 ^ 32 := by
    rw [← ofNat_toNat_eq_iff, ← violated]
    rfl
  refine ⟨fun right => ⟨average ▸ right.average, exceeds.mp right.exceeded, violations.mp right.violated⟩, fun counted => ?_⟩
  constructor
  case samples => exact h.ring
  case least => exact received.least
  case most => exact received.most
  case average => exact average.trans counted.1
  case exceeded => exact exceeds.mpr counted.2.1
  case violated => exact violations.mpr counted.2.2
  case start =>
    rw [List.head?_eq_some_head filled, Option.map_some, ← h.start _ (List.head?_eq_some_head filled)]
    rfl
  case last =>
    rw [List.getLast?_eq_some_getLast filled, Option.map_some, ← h.last _ (List.getLast?_eq_some_getLast filled)]
    rfl

/-- The receiver decodes the frame, and the batch is right for the window. -/
def Decodes (frame : AdsWrite) (window : List Taken) : Prop :=
  ∃ batch, decodeBatch frame.data = some (.taskDiagBatch batch) ∧ Right batch window

theorem Built.decodes_iff {frame : AdsWrite} (built : Built frame taken) : Decodes frame taken ↔ Counted taken := by
  obtain ⟨fb, c, complete, filled, data⟩ := built
  rw [Decodes, data, decodeBatch_header, ← complete.right_iff filled c]
  simp

/-! ### The lifetime count -/

/-- The exceeded cycles that a frame tells of. -/
def exceedsOf (frame : AdsWrite) : Nat :=
  match decodeBatch frame.data with
  | some (.taskDiagBatch batch) => batch.cycleExceedCount.toNat
  | _ => 0

/-- The exceeded cycles of all frames before, and of the open window. -/
structure AddsUp (told : Nat) (fb : TaskDiag) (window : List Taken) : Prop where
  complete : Complete fb window
  lifetime : fb.nLifetimeExceedCount = .ofNat (told + exceeds window)

theorem Built.ofNat_exceedsOf {frame : AdsWrite} (built : Built frame taken) :
    UInt32.ofNat (exceedsOf frame) = .ofNat (exceeds taken) := by
  obtain ⟨fb, c, complete, -, data⟩ := built
  rw [exceedsOf, data, decodeBatch_header, ← (Prod.mk.inj complete.counts).1]
  exact UInt32.ofNat_toNat

theorem lifetime_call (fb : TaskDiag) (c : Cycle) : (fb.call c).1.nLifetimeExceedCount = fb.nLifetimeExceedCount +
    .ofNat (exceeds (if (fb.pump c).samples c then [(c.info, (fb.pump c).flagsOf c.info)] else [])) := by
  obtain ⟨n, mid, same, checked⟩ := (fb.pump c).collect_cases c
  have before : (fb.pump c).nLifetimeExceedCount = fb.nLifetimeExceedCount := congrArg Prod.snd (fb.pump_eq c).2.2
  have behind : (fb.call c).1.nLifetimeExceedCount = mid.nLifetimeExceedCount := by
    rcases checked with same | same <;> rw [call, same]
    exact congrArg Prod.snd (mid.checkFlush_cases c).1
  rw [behind, same, ← before]
  cases (fb.pump c).samples c with
  | false => exact (UInt32.add_zero _).symm
  | true =>
    simp only [sampledIf, if_true, takeSample, exceeds, List.countP_singleton]
    cases c.info.cycleTimeExceeded <;> simp [setDivider]

theorem AddsUp.step {told : Nat} (h : AddsUp told fb taken) (event : Event) :
    let done := Collecting.collect taken (recorded event fb).2
    AddsUp (told + (done.1.map (exceedsOf ·.1)).sum) (recorded event fb).1 done.2 := by
  cases event with
  | init sAmsNetId nPort validRef => exact ⟨h.complete.congr rfl rfl rfl, h.lifetime⟩
  | call c =>
    intro done
    have total := fb.lifetime_call c
    rw [h.lifetime, ← UInt32.ofNat_add, Nat.add_assoc, exceeds, exceeds, ← List.countP_append] at total
    rcases h.complete.call c with ⟨same, kept⟩ | ⟨frame, same, built, next⟩ <;> simp only [done, same]
    · exact ⟨kept, total⟩
    · refine ⟨next, total.trans ?_⟩
      rw [UInt32.ofNat_add, UInt32.ofNat_add, UInt32.ofNat_add]
      simp [built.ofNat_exceedsOf, exceeds]

theorem AddsUp.run {told : Nat} (h : AddsUp told fb taken) (events : List Event) :
    AddsUp (told + ((Collecting.deliveries recorded fb taken events).map (exceedsOf ·.1)).sum)
      (Collecting.after recorded fb taken events).1 (Collecting.after recorded fb taken events).2 := by
  induction events generalizing told fb taken with
  | nil => exact h
  | cons event events ih =>
    have next := ih (h.step event)
    rwa [Nat.add_assoc, ← List.sum_append, ← List.map_append] at next

/-- Every frame of a run tells the truth of its window, and the lifetime count is that of all
frames and of the open window. -/
structure TellsAll (events : List Event) : Prop where
  frames : ∀ frame window, (frame, window) ∈ batches events → Decodes frame window
  lifetime : (Collecting.after recorded initial [] events).1.nLifetimeExceedCount =
    .ofNat (((batches events).map (exceedsOf ·.1)).sum + exceeds (Collecting.after recorded initial [] events).2)

theorem counted_of_short (short : taken.length < 2 ^ 32) : Counted taken := by
  have sum : ∀ xs : List PlcTaskSystemInfo, (ticks xs).sum ≤ xs.length * (2 ^ 32 - 1) := by
    intro xs
    rw [← List.length_map fun info : PlcTaskSystemInfo => info.lastExecTime.toNat]
    refine List.sum_le_card_nsmul _ _ fun t inside => ?_
    obtain ⟨info, -, rfl⟩ := List.mem_map.mp inside
    exact Nat.le_sub_one_of_lt info.lastExecTime.toNat_lt
  have bound := sum (taken.map Prod.fst)
  rw [List.length_map] at bound
  have whole : (ticks (taken.map Prod.fst)).sum < 2 ^ 64 := by omega
  have average := Nat.lt_of_le_of_lt (Nat.div_le_of_le_mul bound) (show 2 ^ 32 - 1 < 2 ^ 32 by decide)
  refine ⟨?_, Nat.lt_of_le_of_lt List.countP_le_length short, Nat.lt_of_le_of_lt List.countP_le_length short⟩
  rw [Nat.mod_eq_of_lt whole, Nat.mod_eq_of_lt short, Nat.mod_eq_of_lt average]

/-- The frames are right just when no counter has wrapped in a way that shows, as in windows of
fewer than 2^32 samples (`counted_of_short`). The lifetime count adds up in any case. -/
theorem tellsAll_iff_counted (events : List Event) :
    TellsAll events ↔ ∀ frame window, (frame, window) ∈ batches events → Counted window := by
  have start : AddsUp 0 initial [] := ⟨Complete.empty rfl rfl rfl, rfl⟩
  have adds := (start.run events).lifetime
  rw [Nat.zero_add] at adds
  refine ⟨fun tells frame window member => ?_, fun counted => ⟨fun frame window member => ?_, adds⟩⟩
  · exact (built_of_mem member).decodes_iff.mp (tells.frames frame window member)
  · exact (built_of_mem member).decodes_iff.mpr (counted frame window member)

/-! ### Long windows

A task whose cycle counter stands still fills its window and does not flush it. -/

/-- `n + 1` samples and the one that ends the window. -/
def longRun (exec : UInt32) (n : Nat) : List Event :=
  .init .empty 16150 true :: .call (sampleCycle exec 1) ::
    (List.replicate n (.call (sampleCycle exec 1)) ++ [.call (sampleCycle exec 2)])

/-- The state within such a window. -/
def Filling (fb : TaskDiag) : Prop :=
  fb.bInitialized = true ∧ fb.configValid = true ∧ fb.bFlushInFlight = false ∧ fb.bWindowStartSet = true ∧
    fb.nWindowStartCycle = 1

theorem Filling.call_one {fb : TaskDiag} (h : Filling fb) (exec : UInt32) :
    Filling (fb.call (sampleCycle exec 1)).1 ∧
      (recorded (.call (sampleCycle exec 1)) fb).2 = [.take ((sampleCycle exec 1).info, fb.flagsOf (sampleCycle exec 1).info)] := by
  obtain ⟨initialized, config, idle, set, start⟩ := h
  have target : targetCycles 1 10000 = 1 := by decide
  simp [recorded, call, pump, collect, samples, checkFlush, sampleCycle, takeSample, setDivider, Filling, initialized,
    config, idle, set, start, target]

theorem Filling.call_two {fb : TaskDiag} (h : Filling fb) (exec : UInt32) : ∃ frame,
    (recorded (.call (sampleCycle exec 2)) fb).2 =
      [.take ((sampleCycle exec 2).info, fb.flagsOf (sampleCycle exec 2).info), .deliver frame] := by
  obtain ⟨initialized, config, idle, set, start⟩ := h
  have target : targetCycles 1 10000 = 1 := by decide
  have filled (r : Ring PushDiagSample nMaxSamples) (x : PushDiagSample) : (r.push x).count ≠ 0 := by
    simp only [Ring.push]
    split <;> simp_all [nMaxSamples]
    omega
  simp [recorded, call, pump, collect, samples, checkFlush, flush, sampleCycle, takeSample, setDivider, initialized,
    config, idle, set, start, target, filled]

theorem Filling.deliveries {fb : TaskDiag} (h : Filling fb) (exec : UInt32) (n : Nat) (start : List Taken) :
    ∃ frame window, Collecting.deliveries recorded fb start
        (List.replicate n (.call (sampleCycle exec 1)) ++ [.call (sampleCycle exec 2)]) = [(frame, window)] ∧
      window.map Prod.fst = start.map Prod.fst ++ List.replicate n (sampleCycle exec 1).info ++ [(sampleCycle exec 2).info] := by
  induction n generalizing fb start with
  | zero =>
    obtain ⟨frame, does⟩ := h.call_two exec
    refine ⟨frame, start ++ [((sampleCycle exec 2).info, fb.flagsOf (sampleCycle exec 2).info)], ?_, by simp⟩
    rw [List.replicate_zero, List.nil_append, Collecting.deliveries, does]
    rfl
  | succ n ih =>
    obtain ⟨filling, does⟩ := h.call_one exec
    obtain ⟨frame, window, sent, infos⟩ := ih filling (start ++ [((sampleCycle exec 1).info, fb.flagsOf _)])
    refine ⟨frame, window, ?_, by simp [infos, List.replicate_succ]⟩
    rw [List.replicate_succ, List.cons_append, Collecting.deliveries, does]
    exact sent

theorem mem_batches_longRun (exec : UInt32) (n : Nat) : ∃ frame window, (frame, window) ∈ batches (longRun exec n) ∧
    window.length = n + 2 ∧
    window.map Prod.fst = List.replicate (n + 1) (sampleCycle exec 1).info ++ [(sampleCycle exec 2).info] := by
  have first : Filling ((initial.init .empty 16150 true).call (sampleCycle exec 1)).1 := ⟨rfl, rfl, rfl, rfl, rfl⟩
  obtain ⟨frame, window, sent, infos⟩ := first.deliveries exec n [((sampleCycle exec 1).info, _)]
  refine ⟨frame, window, List.mem_of_mem_head? (congrArg List.head? sent), ?_, infos⟩
  rw [← List.length_map Prod.fst, infos, List.length_append, List.length_append, List.length_replicate]
  exact Nat.add_assoc 1 n 1 |>.trans (Nat.add_comm 1 (n + 1))

theorem average_longRun {exec : UInt32} {n : Nat} (tells : TellsAll (longRun exec n)) :
    (n + 2) * exec.toNat % 2 ^ 64 / ((n + 2) % 2 ^ 32) % 2 ^ 32 = (n + 2) * exec.toNat / (n + 2) := by
  obtain ⟨frame, window, member, length, infos⟩ := mem_batches_longRun exec n
  have sum : (ticks (window.map Prod.fst)).sum = (n + 2) * exec.toNat := by
    rw [infos, ticks, List.map_append, List.map_replicate, List.sum_append, List.sum_replicate, Nat.succ_mul]
    rfl
  have counted := (built_of_mem member).decodes_iff.mp (tells.frames frame window member)
  rw [← sum, ← length]
  exact counted.1

/-- A window of 2^32 samples of ten ticks each is said to have an average of none. -/
theorem longRun_not_tellsAll : ¬TellsAll (longRun 10 (2 ^ 32 - 2)) :=
  fun tells => absurd (average_longRun tells) (by decide)

/-! ### The overflow mark -/

/-- The receiver reports that the batch has overflowed. -/
def Reported (env : DiagnosticsBridge.Surroundings) (netId : String) (frame : AdsWrite) : Prop :=
  ∃ batch, decodeBatch frame.data = some (.taskDiagBatch batch) ∧
    DiagnosticsBridge.valuesNamed "tc.task.sample_buffer_overflow"
      (DiagnosticsBridge.batchToMetrics env netId batch) = [F64.ofNat 1]

def carriesMark (p : Taken) : Bool := hasFlag p.2 sampleFlagOverflow

theorem Complete.any_carriesMark_iff (h : Complete fb taken) : (taken.rtake nMaxSamples).any carriesMark ↔
    nMaxSamples + 1 < taken.length ∨ taken.length ≤ nMaxSamples ∧ taken.head?.any carriesMark := by
  rw [List.any_eq_true, List.rtake]
  constructor
  · rintro ⟨p, inside, mark⟩
    obtain ⟨i, found⟩ := List.mem_iff_getElem?.mp inside
    rw [List.getElem?_drop] at found
    have below := (List.getElem?_eq_some_iff.mp found).1
    cases index : taken.length - nMaxSamples + i with
    | zero =>
      refine .inr ⟨by omega, ?_⟩
      rw [index, ← List.head?_eq_getElem?] at found
      rw [found]
      exact mark
    | succ j =>
      rw [index] at found below
      have late := h.marked j p found
      rw [show hasFlag p.2 sampleFlagOverflow = true from mark] at late
      have := of_decide_eq_true late.symm
      exact .inl (by omega)
  · rintro (long | ⟨short, mark⟩)
    · -- the last sample is in the ring, and the one before it has overwritten another
      obtain ⟨j, size⟩ : ∃ j, taken.length = j + 2 := ⟨taken.length - 2, by omega⟩
      have : 0 < nMaxSamples := by decide
      have last : taken[j + 1]? = some (taken[j + 1]) := List.getElem?_eq_getElem _
      refine ⟨taken[j + 1], List.mem_iff_getElem?.mpr ⟨j + 1 - (taken.length - nMaxSamples), ?_⟩, ?_⟩
      · rw [List.getElem?_drop, Nat.add_sub_cancel' (by omega), last]
      · exact (h.marked j _ last).trans (decide_eq_true (by omega))
    · obtain ⟨first, found, marks⟩ := (Option.any_eq_true ..).mp mark
      rw [Nat.sub_eq_zero_of_le short, List.drop_zero]
      exact ⟨first, List.mem_of_mem_head? found, marks⟩

theorem Built.reported_iff {frame : AdsWrite} (built : Built frame taken)
    (env : DiagnosticsBridge.Surroundings) (netId : String) : Reported env netId frame ↔
      nMaxSamples + 1 < taken.length ∨ taken.length ≤ nMaxSamples ∧ taken.head?.any carriesMark := by
  obtain ⟨fb, c, complete, -, data⟩ := built
  have samples : (fb.batch c).samples = (taken.rtake nMaxSamples).map sampleOf := by
    rw [map_rtake]
    exact complete.ring
  rw [← complete.any_carriesMark_iff, Reported, data, decodeBatch_header]
  simp only [Option.some.injEq, DiagEvent.taskDiagBatch.injEq, exists_eq_left',
    DiagnosticsBridge.valuesNamed_overflow, samples, List.any_map]
  have differ : F64.ofNat 0 ≠ F64.ofNat 1 := by decide
  change [F64.ofNat (if (taken.rtake nMaxSamples).any carriesMark then 1 else 0)] = [F64.ofNat 1] ↔ _
  cases (taken.rtake nMaxSamples).any carriesMark <;> simp [differ]

/-- In whatever way the collector is driven, an overflow is reported for the windows that have lost
a sample, unless the last sample of a window is the only one that has overwritten another, or its
first sample has the mark of the window before. -/
theorem overflow_reported_iff (env : DiagnosticsBridge.Surroundings) (netId : String)
    (events : List Event) (frame : AdsWrite) (window : List Taken) (member : (frame, window) ∈ batches events) :
    (Reported env netId frame ↔ nMaxSamples < window.length) ↔
      window.length ≠ nMaxSamples + 1 ∧ (window.length ≤ nMaxSamples → ¬window.head?.any carriesMark) := by
  rw [(built_of_mem member).reported_iff env netId]
  by_cases mark : window.head?.any carriesMark
  · simp only [mark, and_true, not_true_eq_false, imp_false]
    omega
  · simp only [mark, Bool.false_eq_true, and_false, or_false, not_false_eq_true, implies_true, and_true]
    omega

theorem overflow_reported_sampleRun : ∃ frame window, (frame, window) ∈ batches (sampleRun 0) ∧
      (Reported sampleSurroundings "5.1.2.3.1.1" frame ↔ nMaxSamples < window.length) := by
  let window : List Taken := [((sampleCycle 0 1).info, 0), ((sampleCycle 0 2).info, 0)]
  have windows : (batches (sampleRun 0)).map Prod.snd = [window] := by decide +kernel
  obtain ⟨⟨frame, _⟩, member, rfl⟩ := List.mem_map.mp (windows ▸ List.mem_singleton_self window)
  exact ⟨frame, _, member, (overflow_reported_iff _ _ _ frame _ member).mpr (by decide)⟩

/-- Of 1025 samples the first is overwritten by the last, and nothing is reported. -/
theorem longRun_not_reported : ∃ frame window, (frame, window) ∈ batches (longRun 0 1023) ∧
      ¬(Reported sampleSurroundings "5.1.2.3.1.1" frame ↔ nMaxSamples < window.length) := by
  obtain ⟨frame, window, member, length, -⟩ := mem_batches_longRun 0 1023
  refine ⟨frame, window, member, ?_⟩
  rw [(built_of_mem member).reported_iff, length]
  simp [nMaxSamples]

end TaskDiag

end TcOtel.Plc
