import TcOtel.Ads.DiagnosticsPush
import TcOtel.Core.Entries

/-!
# From push diagnostics to metrics

`batch_to_metrics` of `diagnostics_bridge.rs`: the metrics of one batch of a task's cycles.
-/

namespace TcOtel.Service.DiagnosticsBridge

open Decoding Ads Ads.Push

/-- What the bridge takes from outside. The clock is asked once for each metric of the window,
and once for each sample whose own time is out of range. -/
structure Surroundings where
  chrono : Chrono
  now : Nat → DateTime
  localSourceAddress : String

/-- Nanoseconds since the DC epoch. The quotient rounds towards zero, the remainder does not. -/
def dcTimeToDatetime (env : Surroundings) (reading : Nat) (dcNs : Int64) : DateTime :=
  (env.chrono.fromTimestamp (unixToDcEpochSecs + dcNs.toInt.tdiv 1000000000)
    (dcNs.toInt % 1000000000).toNat).getD (env.now reading)

def withTask (env : Surroundings) (netId : String) (taskPort : UInt16) (taskName : String) (m : MetricEntry) :
    MetricEntry :=
  { m with
    amsNetId := netId
    amsSourcePort := taskPort
    taskName := taskName
    source := if m.source.isEmpty then env.localSourceAddress else m.source }

def withSampleAttrs (m : MetricEntry) (s : DiagSample) : MetricEntry :=
  { m with
    attributes := ((m.attributes.insert "cycle_count" (.int s.cycleCount.toNat)).insert
      "dc_time_ns" (.int s.dcTime.toInt)).insert "exec_time_us" (.int s.execTimeUs.toNat) }

def sampleMetrics (task : MetricEntry → MetricEntry) (timestamp : DateTime) (s : DiagSample) :
    List MetricEntry :=
  let edge (m : MetricEntry) : MetricEntry := { withSampleAttrs (task m) s with timestamp := timestamp }
  (if hasFlag s.flags sampleFlagCycleExceed then
    [edge (.sum timestamp "tc.task.cycle_exceed_edge" (.ofNat 1) false),
      edge (.gauge timestamp "tc.task.cycle_exceed_exec_us" (.ofNat s.execTimeUs.toNat))]
  else []) ++
  if hasFlag s.flags sampleFlagRtViolation then
    [edge (.sum timestamp "tc.task.rt_violation_edge" (.ofNat 1) false)]
  else []

def batchToMetrics (env : Surroundings) (netId : String) (b : TaskDiagBatch) : List MetricEntry :=
  let task := withTask env netId b.taskPort b.taskName
  let overflowSeen := b.samples.any fun s => hasFlag s.flags sampleFlagOverflow
  [task (.gauge (env.now 0) "tc.task.exec_time_min_us" (.ofNat b.execTimeMinUs.toNat)),
    task (.gauge (env.now 1) "tc.task.exec_time_max_us" (.ofNat b.execTimeMaxUs.toNat)),
    task (.gauge (env.now 2) "tc.task.exec_time_avg_us" (.ofNat b.execTimeAvgUs.toNat)),
    task (.gauge (env.now 3) "tc.task.window_ms" (.ofNat b.windowMs.toNat)),
    task (.gauge (env.now 4) "tc.task.sample_count" (.ofNat b.samples.length)),
    task (.sum (env.now 5) "tc.task.cycle_count" (.ofNat b.cycleCountEnd.toNat) true),
    task (.sum (env.now 6) "tc.task.cycle_exceed_window" (.ofNat b.cycleExceedCount.toNat) false),
    task (.sum (env.now 7) "tc.task.rt_violation_window" (.ofNat b.rtViolationCount.toNat) false)] ++
  (b.samples.zipIdx.flatMap fun (s, i) => sampleMetrics task (dcTimeToDatetime env (8 + i) s.dcTime) s) ++
  [task (.gauge (env.now (8 + b.samples.length)) "tc.task.sample_buffer_overflow"
    (.ofNat (if overflowSeen then 1 else 0)))]

def valuesNamed (name : String) (metrics : List MetricEntry) : List F64 :=
  (metrics.filter fun m => m.name = name).map MetricEntry.value

/-- The names that flagged cycles are reported under. -/
def edgeNames : List String :=
  ["tc.task.cycle_exceed_edge", "tc.task.cycle_exceed_exec_us", "tc.task.rt_violation_edge"]

theorem name_of_mem_sampleMetrics 
    (member : m ∈ sampleMetrics (withTask env netId port taskName) timestamp s) : m.name ∈ edgeNames := by
  simp only [sampleMetrics, List.mem_append] at member
  rcases member with member | member
  · split at member
    · rcases List.mem_pair.mp member with rfl | rfl <;> simp [edgeNames, withSampleAttrs, withTask,
        MetricEntry.sum, MetricEntry.gauge]
    · cases member
  · split at member
    · obtain rfl := List.mem_singleton.mp member
      simp [edgeNames, withSampleAttrs, withTask, MetricEntry.sum, MetricEntry.gauge]
    · cases member

theorem filter_edges {env : Surroundings} {netId : String} {b : TaskDiagBatch} {name : String}
    (other : name ∉ edgeNames) :
    ((b.samples.zipIdx.flatMap fun (s, i) => sampleMetrics (withTask env netId b.taskPort b.taskName)
      (dcTimeToDatetime env (8 + i) s.dcTime) s).filter fun m => m.name = name) = [] := by
  rw [List.filter_eq_nil_iff]
  intro m member
  obtain ⟨⟨s, i⟩, -, inside⟩ := List.mem_flatMap.mp member
  have edge := name_of_mem_sampleMetrics inside
  simp only [decide_eq_true_eq]
  rintro rfl
  exact other edge

theorem valuesNamed_execTimes (env : Surroundings) (netId : String) (b : TaskDiagBatch) :
    valuesNamed "tc.task.exec_time_min_us" (batchToMetrics env netId b) = [.ofNat b.execTimeMinUs.toNat] ∧
    valuesNamed "tc.task.exec_time_max_us" (batchToMetrics env netId b) = [.ofNat b.execTimeMaxUs.toNat] ∧
    valuesNamed "tc.task.exec_time_avg_us" (batchToMetrics env netId b) = [.ofNat b.execTimeAvgUs.toNat] := by
  simp only [valuesNamed, batchToMetrics, List.filter_append]
  refine ⟨?_, ?_, ?_⟩ <;>
    rw [filter_edges (by decide)] <;>
    simp [withTask, MetricEntry.sum, MetricEntry.gauge]

theorem valuesNamed_overflow (env : Surroundings) (netId : String) (b : TaskDiagBatch) :
    valuesNamed "tc.task.sample_buffer_overflow" (batchToMetrics env netId b) =
      [.ofNat (if b.samples.any fun s => hasFlag s.flags sampleFlagOverflow then 1 else 0)] := by
  simp only [valuesNamed, batchToMetrics, List.filter_append]
  rw [filter_edges (by decide)]
  simp [withTask, MetricEntry.sum, MetricEntry.gauge]

end TcOtel.Service.DiagnosticsBridge
