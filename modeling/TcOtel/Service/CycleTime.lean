import Mathlib.Data.List.MinMax
import TcOtel.Core.Entries

/-!
# Cycle times of the tasks

The service watches the cycle counters of the log entries and keeps the cycle times of each task over a
rolling window. The last counter it knows never falls, so that a task is lost behind a reset, and the
key of a task does not name its runtime.
-/

namespace TcOtel.Service

/-- The `f64` arithmetic: one cycle time, and what is reported of a window of them. -/
structure CycleArithmetic where
  cycleTime : Int → UInt32 → F64
  min : List F64 → F64
  max : List F64 → F64
  avg : List F64 → F64
  jitter : List F64 → F64

/-- `num_microseconds().unwrap_or(0)` of the time between two dates. -/
def microsBetween (earlier later : DateTime) : Int :=
  let micros := ((later.secs - earlier.secs) * 1000000000 + (later.nanos - earlier.nanos)).tdiv 1000
  if -2 ^ 63 ≤ micros ∧ micros < 2 ^ 63 then micros else 0

structure TaskKey where
  amsNetId : String
  taskIndex : Int32
deriving DecidableEq

/-- A task as the registry tells them apart, by the port of its runtime too. -/
structure PlcTask extends TaskKey where
  amsSourcePort : UInt16
deriving DecidableEq

def plcTask (entry : LogEntry) : PlcTask := ⟨⟨entry.amsNetId, entry.taskIndex⟩, entry.amsSourcePort⟩

structure TaskCycleState where
  taskName : String
  lastCycleCounter : UInt32
  lastTimestamp : DateTime
  cycleTimesUs : List F64
  totalCycles : UInt64
  windowSize : Nat

structure CycleTimeStats extends TaskKey where
  taskName : String
  sampleCount : Nat
  totalCycles : UInt64
  minUs : F64
  maxUs : F64
  avgUs : F64
  jitterUs : F64
  lastCycleCounter : UInt32

abbrev CycleTimeTracker := HashMap TaskKey TaskCycleState

section

variable (f64 : CycleArithmetic) (windowSize : Nat) (cycleTimeEnabled : Bool)

def TaskCycleState.record (s : TaskCycleState) (cycleCounter : UInt32) (timestamp : DateTime) :
    TaskCycleState × Option F64 :=
  if cycleCounter ≤ s.lastCycleCounter then (s, none)
  else
    let cycleDelta := cycleCounter - s.lastCycleCounter
    let timeDeltaUs := microsBetween s.lastTimestamp timestamp
    let seen := { s with lastCycleCounter := cycleCounter, lastTimestamp := timestamp }
    if timeDeltaUs ≤ 0 then (seen, none)
    else
      let cycleTimeUs := f64.cycleTime timeDeltaUs cycleDelta
      let window := if s.windowSize ≤ s.cycleTimesUs.length then s.cycleTimesUs.tail else s.cycleTimesUs
      ({ seen with cycleTimesUs := window ++ [cycleTimeUs], totalCycles := s.totalCycles + cycleDelta.toUInt64 },
        some cycleTimeUs)

def TaskCycleState.stats (key : TaskKey) (s : TaskCycleState) : Option CycleTimeStats :=
  let window := s.cycleTimesUs
  if window.isEmpty then none
  else some ⟨key, s.taskName, window.length, s.totalCycles, f64.min window, f64.max window, f64.avg window,
    f64.jitter window, s.lastCycleCounter⟩

namespace CycleTimeTracker

/-- What an entry makes of the state of its task, and the cycle time recorded with it. -/
def observe (known : Option TaskCycleState) (entry : LogEntry) : TaskCycleState × Option F64 :=
  let state := known.getD ⟨entry.taskName, entry.taskCycleCounter, entry.plcTimestamp, [], 0, windowSize⟩
  let named := if state.taskName ≠ entry.taskName ∧ entry.taskName ≠ "" then { state with taskName := entry.taskName }
    else state
  named.record f64 entry.taskCycleCounter entry.plcTimestamp

def record (t : CycleTimeTracker) (entry : LogEntry) : CycleTimeTracker × Option F64 :=
  let key := (plcTask entry).toTaskKey
  let (state, recorded) := observe f64 windowSize (t.lookup key) entry
  (t.insert key state, recorded)

def taskStats (t : CycleTimeTracker) (key : TaskKey) : Option CycleTimeStats :=
  (t.lookup key).bind (TaskCycleState.stats f64 key)

/-- The tracker is fed with the entries that have a counter, if it is enabled. -/
def isFed (entry : LogEntry) : Bool := cycleTimeEnabled && decide (0 < entry.taskCycleCounter)

def run (entries : List LogEntry) : CycleTimeTracker :=
  entries.foldl (fun t entry => if isFed cycleTimeEnabled entry then (record f64 windowSize t entry).1 else t) ∅

/-- The entries the tracker is fed with for a key. -/
def history (key : TaskKey) (entries : List LogEntry) : List LogEntry :=
  entries.filter fun entry => isFed cycleTimeEnabled entry && decide ((plcTask entry).toTaskKey = key)

/-- The state of a task is made of the entries with its key, whatever comes between them. -/
theorem lookup_run (key : TaskKey) (entries : List LogEntry) :
    (run f64 windowSize cycleTimeEnabled entries).lookup key =
      (history cycleTimeEnabled key entries).foldl (fun known entry => some (observe f64 windowSize known entry).1) none := by
  induction entries using List.reverseRecOn with
  | nil => rfl
  | append_singleton entries entry ih =>
    rw [run, List.foldl_append, ← run, List.foldl_cons, List.foldl_nil, history, List.filter_append, ← history,
      List.foldl_append, ← ih]
    by_cases fed : isFed cycleTimeEnabled entry
    · by_cases same : (plcTask entry).toTaskKey = key
      · subst same
        simp [record, fed]
      · simp [record, fed, same, Ne.symm same]
    · simp [fed]

/-- The counter and the time kept of a task are those of one entry. -/
def Keeps (known : Option TaskCycleState) (top : Option LogEntry) : Prop :=
  known.map (fun s => (s.lastCycleCounter, s.lastTimestamp)) = top.map fun e => (e.taskCycleCounter, e.plcTimestamp)

theorem Keeps.observe (keeps : Keeps known top) (entry : LogEntry) :
    Keeps (some (observe f64 windowSize known entry).1)
        (top.elim (some entry) fun e => if e.taskCycleCounter < entry.taskCycleCounter then some entry else some e) ∧
      ((CycleTimeTracker.observe f64 windowSize known entry).2.isSome = true ↔ ∃ e ∈ top,
        e.taskCycleCounter < entry.taskCycleCounter ∧ 0 < microsBetween e.plcTimestamp entry.plcTimestamp) := by
  -- the name of the task plays no part in what is recorded
  obtain ⟨named, counter, time, observed⟩ : ∃ s : TaskCycleState,
      s.lastCycleCounter = known.elim entry.taskCycleCounter (·.lastCycleCounter) ∧
      s.lastTimestamp = known.elim entry.plcTimestamp (·.lastTimestamp) ∧
      CycleTimeTracker.observe f64 windowSize known entry = s.record f64 entry.taskCycleCounter entry.plcTimestamp := by
    refine ⟨_, ?_, ?_, rfl⟩ <;> split <;> cases known <;> rfl
  rw [observed]
  cases top with
  | none =>
    have unknown : known = none := Option.map_eq_none_iff.mp keeps
    subst unknown
    simp_all [Keeps, TaskCycleState.record]
  | some e =>
    obtain ⟨s, rfl, same⟩ := Option.map_eq_some_iff.mp keeps
    have counter : named.lastCycleCounter = e.taskCycleCounter := counter.trans (Prod.mk.inj same).1
    have time : named.lastTimestamp = e.plcTimestamp := time.trans (Prod.mk.inj same).2
    by_cases advanced : e.taskCycleCounter < entry.taskCycleCounter
    · have above := UInt32.not_le.mpr advanced
      -- the entry is the new largest, whether or not it is later
      by_cases later : microsBetween e.plcTimestamp entry.plcTimestamp ≤ 0
      · simp [Keeps, TaskCycleState.record, counter, time, advanced, above, later]
      · simp [Keeps, TaskCycleState.record, counter, time, advanced, above, later, Int.not_le.mp later]
    · simp [Keeps, TaskCycleState.record, counter, time, advanced, UInt32.not_lt.mp advanced]

/-- It is the first of the entries with the largest counter, the `List.argmax` of the history. -/
theorem keeps_run (key : TaskKey) (entries : List LogEntry) :
    Keeps ((run f64 windowSize cycleTimeEnabled entries).lookup key)
      ((history cycleTimeEnabled key entries).argmax (·.taskCycleCounter.toNat)) := by
  rw [lookup_run]
  induction history cycleTimeEnabled key entries using List.reverseRecOn with
  | nil => rfl
  | append_singleton seen entry ih =>
    rw [List.foldl_append, List.argmax_concat]
    have next := (ih.observe f64 windowSize entry).1
    cases largest : seen.argmax (·.taskCycleCounter.toNat) <;> rw [largest] at next <;> exact next

/-- A cycle time is recorded with an entry just when its counter is above all those that were seen of its
key, and its time behind that of the first entry with the largest of them. -/
theorem recorded_iff (entries : List LogEntry) (entry : LogEntry) :
    (record f64 windowSize (run f64 windowSize cycleTimeEnabled entries) entry).2.isSome = true ↔
      ∃ top ∈ (history cycleTimeEnabled (plcTask entry).toTaskKey entries).argmax (·.taskCycleCounter.toNat),
        top.taskCycleCounter < entry.taskCycleCounter ∧ 0 < microsBetween top.plcTimestamp entry.plcTimestamp :=
  ((keeps_run f64 windowSize cycleTimeEnabled _ entries).observe f64 windowSize entry).2

/-- An entry of a task in this second. -/
def sampleEntry (task : PlcTask) (second : Nat) (taskCycleCounter : UInt32) : LogEntry :=
  ⟨"", "", task.amsNetId, task.amsSourcePort, 0, "", "", .info, ⟨second, 0⟩, ⟨second, 0⟩, task.taskIndex, "",
    taskCycleCounter, "", "", 0, ⟨List.replicate 16 0, rfl⟩, ⟨List.replicate 8 0, rfl⟩, ∅, ∅⟩

def sampleArithmetic : CycleArithmetic :=
  ⟨fun _ _ => ⟨0⟩, fun _ => ⟨0⟩, fun _ => ⟨0⟩, fun _ => ⟨0⟩, fun _ => ⟨0⟩⟩

def sampleTask : PlcTask := ⟨⟨"10.0.0.1.1.1", 1⟩, 851⟩

/-- The counter 10, and a second later 1 after a restart: the advance to 2 is not recorded. -/
theorem record_not_resumed :
    (record sampleArithmetic 100 (run sampleArithmetic 100 true [sampleEntry sampleTask 0 10, sampleEntry sampleTask 1 1])
      (sampleEntry sampleTask 2 2)).2 = none := by
  decide +kernel

/-- Entries of a fleet of tasks: what is reported of one task does not depend on the others, just when
no task of another runtime has its NetID and index. -/
theorem taskStats_isolated_iff (fleet : Set PlcTask) (task : PlcTask) :
    (∀ xs ys : List LogEntry, (∀ entry ∈ xs ++ ys, plcTask entry ∈ fleet) →
      xs.filter (plcTask · = task) = ys.filter (plcTask · = task) →
        taskStats f64 (run f64 windowSize cycleTimeEnabled xs) task.toTaskKey =
          taskStats f64 (run f64 windowSize cycleTimeEnabled ys) task.toTaskKey) ↔
    (cycleTimeEnabled = true → ∀ other ∈ fleet, other.toTaskKey = task.toTaskKey → other = task) := by
  simp only [taskStats, lookup_run]
  constructor
  · rintro isolated rfl other member same
    by_contra differs
    -- two entries of the other task make a cycle time
    have seen := isolated [] [sampleEntry other 0 1, sampleEntry other 1 2] (by simpa [sampleEntry, plcTask] using member)
      (by simp [sampleEntry, plcTask, differs])
    simp [history, isFed, sampleEntry, plcTask, same, observe, TaskCycleState.record, microsBetween,
      TaskCycleState.stats] at seen
  · intro unique xs ys members agree
    have own (entries : List LogEntry) (members : ∀ entry ∈ entries, plcTask entry ∈ fleet) :
        history cycleTimeEnabled task.toTaskKey entries =
          (entries.filter (plcTask · = task)).filter (isFed cycleTimeEnabled) := by
      rw [history, List.filter_filter]
      refine List.filter_congr fun entry member => ?_
      by_cases fed : isFed cycleTimeEnabled entry
      · have enabled := (Bool.and_eq_true_iff.mp fed).1
        have same : (plcTask entry).toTaskKey = task.toTaskKey ↔ plcTask entry = task :=
          ⟨unique enabled _ (members entry member), congrArg _⟩
        simp [fed, same]
      · simp [fed]
    rw [List.forall_mem_append] at members
    rw [own xs members.1, own ys members.2, agree]

/-- Two entries of the second runtime are reported as a cycle of the first one's task. -/
theorem taskStats_not_isolated :
    (taskStats sampleArithmetic (run sampleArithmetic 100 true []) sampleTask.toTaskKey).isSome = false ∧
      (taskStats sampleArithmetic (run sampleArithmetic 100 true [sampleEntry { sampleTask with amsSourcePort := 852 } 0 1,
        sampleEntry { sampleTask with amsSourcePort := 852 } 1 2]) sampleTask.toTaskKey).isSome = true := by
  decide +kernel

end CycleTimeTracker

end

end TcOtel.Service
