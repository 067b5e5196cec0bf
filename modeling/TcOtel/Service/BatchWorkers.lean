import TcOtel.Client.Notify
import TcOtel.Lib.Batch
import TcOtel.Service.ScopeResolver

/-!
# The workers that collect records for export

`LogDispatcher::batch_worker`, `MetricDispatcher::batch_worker` and the task of the `TraceDispatcher`. The
three loops select between a record, a tick and a change of the settings. The last branch, for the case
that all others are closed, is never taken: the timer has no end.

`tokio::time::interval` panics for a period of zero. The settings that are watched are not validated, so
that a change to such a period ends a worker with the records it has collected
(`batches_conserved_iff`). Memory is taken to suffice for the batches that are asked for.
-/

namespace TcOtel

def Value.asStr : Value → Option String
  | .string s => some s
  | _ => none

def Value.asU64 : Value → Option Nat
  | .int i => if 0 ≤ i ∧ i < 2 ^ 64 then some i.toNat else none
  | _ => none

end TcOtel

namespace TcOtel.Service

open Batching Client Refining

/-! ### Settings -/

inductive WireFormat where
  | json | protobuf
deriving DecidableEq

structure ExportSettings where
  endpoint : String
  batchSize : Nat
  flushIntervalMs : Nat
  maxRetries : Nat
  timeoutSecs : Nat
  format : WireFormat
deriving DecidableEq

structure MetricsSettings where
  exportEndpoint : Option String
  exportBatchSize : Nat
  exportFlushIntervalMs : Nat
  exportFormat : Option WireFormat
  customMetrics : List CustomMetricDef
deriving DecidableEq

structure TracesExportSettings where
  endpoint : Option String
  batchSize : Nat
  flushIntervalMs : Nat
  format : Option WireFormat
deriving DecidableEq

structure AppSettings where
  «export» : ExportSettings
  metrics : MetricsSettings
  traces : TracesExportSettings
deriving DecidableEq

structure Environment where
  exportEndpoint : Option String
  otlpHeaders : Option String

structure ExportConfig where
  endpoint : String
  batchSize : Nat
  maxRetries : Nat
  retryDelayMs : Nat
  timeoutSecs : Nat
  authHeader : Option String
  format : WireFormat
deriving DecidableEq

/-- The period of a timer. There is none of length zero. -/
structure Interval where
  ms : Nat
  positive : 0 < ms
deriving DecidableEq

def interval (ms : Nat) : Option Interval := if positive : 0 < ms then some ⟨ms, positive⟩ else none

theorem interval_eq_none_iff (ms : Nat) : interval ms = none ↔ ms = 0 := by
  unfold interval
  split <;> simp <;> omega

def Interval.change (old : Interval) (ms : Nat) : Option Interval := if ms ≠ old.ms then interval ms else some old

theorem Interval.change_eq_none_iff (old : Interval) (ms : Nat) : old.change ms = none ↔ ms = 0 := by
  unfold change
  split
  · exact interval_eq_none_iff ms
  next same =>
    have positive := old.positive
    simp only [reduceCtorEq, false_iff]
    omega

/-! ### Logs -/

structure LogLoop where
  endpoint : String
  batchSize : Nat
  flushInterval : Interval
  format : WireFormat
  otlpExporter : Option ExportConfig
deriving DecidableEq

def isOtlpEndpoint (endpoint : String) : Bool := Ads.containsText endpoint.toList "/v1/logs".toList

namespace LogLoop

variable (env : Environment)

def buildLogExporter (endpoint : String) (batchSize : Nat) (format : WireFormat) : ExportConfig :=
  ⟨endpoint, batchSize, 3, 100, 30, env.otlpHeaders, format⟩

def otlpExporterFor (endpoint : String) (batchSize : Nat) (format : WireFormat) : Option ExportConfig :=
  if isOtlpEndpoint endpoint then some (buildLogExporter env endpoint batchSize format) else none

def start (settings : AppSettings) : Option LogLoop := do
  let endpoint := env.exportEndpoint.getD settings.export.endpoint
  let batchSize := settings.export.batchSize
  let format := settings.export.format
  let flushInterval ← interval settings.export.flushIntervalMs
  return ⟨endpoint, batchSize, flushInterval, format, otlpExporterFor env endpoint batchSize format⟩

def reload (v : LogLoop) (settings : AppSettings) : Option LogLoop := do
  let newEndpoint := env.exportEndpoint.getD settings.export.endpoint
  let newFormat := settings.export.format
  let exporterDirty := newEndpoint ≠ v.endpoint ∨ newFormat ≠ v.format
  -- the exporter is built with the batch size from before
  let otlpExporter := if exporterDirty then otlpExporterFor env newEndpoint v.batchSize newFormat else v.otlpExporter
  let flushInterval ← v.flushInterval.change settings.export.flushIntervalMs
  return ⟨newEndpoint, settings.export.batchSize, flushInterval, newFormat, otlpExporter⟩

theorem reload_eq_none_iff (v : LogLoop) (settings : AppSettings) :
    v.reload env settings = none ↔ settings.export.flushIntervalMs = 0 := by
  rw [← v.flushInterval.change_eq_none_iff]
  unfold reload
  cases v.flushInterval.change settings.export.flushIntervalMs <;> simp

end LogLoop

structure LogTarget where
  endpoint : String
  otlpExporter : Option ExportConfig
deriving DecidableEq

def logWorker (env : Environment) (ρ : Type) : Worker LogLoop LogTarget ρ ρ AppSettings where
  size v := v.batchSize
  target v := ⟨v.endpoint, v.otlpExporter⟩
  enrich record := record
  reload := LogLoop.reload env

/-! ### Metrics -/

def replaceFrom (part new : List Char) : Nat → List Char → List Char
  | 0, text => text
  | _ + 1, [] => []
  | n + 1, c :: rest =>
    if part.isPrefixOf (c :: rest) then new ++ replaceFrom part new n ((c :: rest).drop part.length)
    else c :: replaceFrom part new n rest

def replaceText (part new text : String) : String :=
  String.ofList (replaceFrom part.toList new.toList text.length text.toList)

abbrev MetricMapper := HashMap String CustomMetricDef

def MetricMapper.fromConfig (settings : MetricsSettings) : MetricMapper :=
  HashMap.ofList (settings.customMetrics.map fun d => (d.symbol, d))

structure MetricLoop where
  currentCfg : ExportConfig
  batchSize : Nat
  flushInterval : Interval
  exporter : ExportConfig
  mapper : MetricMapper

namespace MetricLoop

variable (env : Environment)

def resolveEndpoint (settings : AppSettings) : String :=
  settings.metrics.exportEndpoint.getD
    (replaceText "/insert/jsonline" "/v1/metrics" (replaceText "/v1/logs" "/v1/metrics" settings.export.endpoint))

def resolveFormat (settings : AppSettings) : WireFormat := settings.metrics.exportFormat.getD settings.export.format

def buildExportConfig (settings : AppSettings) : ExportConfig :=
  ⟨resolveEndpoint settings, settings.metrics.exportBatchSize, settings.export.maxRetries, 100, settings.export.timeoutSecs,
    env.otlpHeaders, resolveFormat settings⟩

def start (settings : AppSettings) : Option MetricLoop := do
  let cfg := buildExportConfig env settings
  let flushInterval ← interval settings.metrics.exportFlushIntervalMs
  return ⟨cfg, cfg.batchSize, flushInterval, cfg, .fromConfig settings.metrics⟩

def reload (v : MetricLoop) (settings : AppSettings) : Option MetricLoop := do
  let newCfg := buildExportConfig env settings
  let exporterChanged := newCfg.endpoint ≠ v.currentCfg.endpoint ∨ newCfg.maxRetries ≠ v.currentCfg.maxRetries ∨
    newCfg.timeoutSecs ≠ v.currentCfg.timeoutSecs ∨ newCfg.format ≠ v.currentCfg.format ∨
    newCfg.batchSize ≠ v.currentCfg.batchSize
  let currentCfg := if exporterChanged then newCfg else v.currentCfg
  let exporter := if exporterChanged then newCfg else v.exporter
  let flushInterval ← v.flushInterval.change settings.metrics.exportFlushIntervalMs
  return ⟨currentCfg, currentCfg.batchSize, flushInterval, exporter, .fromConfig settings.metrics⟩

theorem reload_eq_none_iff (v : MetricLoop) (settings : AppSettings) :
    v.reload env settings = none ↔ settings.metrics.exportFlushIntervalMs = 0 := by
  rw [← v.flushInterval.change_eq_none_iff]
  unfold reload
  cases v.flushInterval.change settings.metrics.exportFlushIntervalMs <;> simp

end MetricLoop

def metricWorker (env : Environment) (ρ : Type) : Worker MetricLoop ExportConfig ρ ρ AppSettings where
  size v := v.batchSize
  target v := v.exporter
  enrich record := record
  reload := MetricLoop.reload env

/-! ### Traces -/

def resolveScope (record : TraceRecord) (outcome : ScopeOutcome) : TraceRecord :=
  if record.scopeName = "" then record
  else
    let netId := ((record.resourceAttributes.lookup "plc.ams_net_id").bind Value.asStr).getD ""
    let appPort := ((record.resourceAttributes.lookup "plc.ams_app_port").bind Value.asU64).getD 0 % 2 ^ 16
    if netId = "" ∨ appPort = 0 then record
    else
      { record with
        spanAttributes :=
          match outcome.instancePath with
          | some path => record.spanAttributes.insert "plc.instance_path" (.string path)
          | none => record.spanAttributes
        scopeName := outcome.scopeName }

/-- What the loop for traces never changes. -/
structure TraceLoop where
  batchSize : Nat
  flushInterval : Interval
  exporter : ExportConfig
deriving DecidableEq

/-- The task of `with_scope_resolver`. It returns at once if there is no endpoint. -/
def TraceLoop.start (env : Environment) (settings : AppSettings) : Option TraceLoop := do
  let endpoint ← settings.traces.endpoint
  let flushInterval ← interval settings.traces.flushIntervalMs
  let format := settings.traces.format.getD settings.export.format
  return ⟨settings.traces.batchSize, flushInterval, ⟨endpoint, settings.traces.batchSize, settings.export.maxRetries, 100,
    settings.export.timeoutSecs, env.otlpHeaders, format⟩⟩

/-- The loop of the `TraceDispatcher`. Its settings do not change. -/
def traceWorker : Worker TraceLoop ExportConfig (TraceRecord × ScopeOutcome) TraceRecord Empty where
  size v := v.batchSize
  target v := v.exporter
  enrich input := resolveScope input.1 input.2
  reload _ config := nomatch config

/-! ### Conservation -/

/-- No change to a period of zero comes while the worker has records in its hands. -/
def KeepsPeriod {σ θ ι ρ : Type} (period : AppSettings → Nat) (s : State σ θ ι ρ) : Event ι AppSettings → Prop
  | .record _ | .tick => True
  | .reload settings => s.loop.isSome → period settings = 0 → s.batcher.batch = []

/-- A worker that ends just at a period of zero spares its records just when it keeps a period. -/
theorem spares_iff_keepsPeriod {σ θ ι ρ : Type} {w : Worker σ θ ι ρ AppSettings}
    (ends : ∀ v settings, w.reload v settings = none ↔ period settings = 0) (s : State σ θ ι ρ)
    (event : Event ι AppSettings) : w.Spares s event ↔ KeepsPeriod period s event := by
  cases event with
  | record | tick => rfl
  | reload settings =>
    constructor
    · intro spares running zero
      obtain ⟨v, known⟩ := Option.isSome_iff_exists.mp running
      exact spares v known ((ends v settings).mpr zero)
    · intro keeps v known ended
      exact keeps (by rw [known]; rfl) ((ends v settings).mp ended)

def sampleSettings : AppSettings where
  «export» := ⟨"http://localhost:4318/v1/logs", 100, 1000, 3, 30, .json⟩
  metrics := ⟨none, 100, 5000, none, []⟩
  traces := ⟨none, 100, 5000, none⟩

/-- The same with the period of the logs set to zero. -/
def sampleZero : AppSettings := { sampleSettings with «export» := { sampleSettings.export with flushIntervalMs := 0 } }

inductive Branch where
  | record | tick | config

/-- What the loop does with what it has selected. -/
inductive Selected (ρ ε : Type) where
  | received (record : ρ)
  | ticked
  | changed (config : ε)
  | unwatched

/-- What an iteration finds: the order in which it polls the branches, whether the timer is due, and what
the watched settings bring, where `some none` is the end of their channel. -/
structure Round (ε : Type) where
  order : List Branch
  complete : ∀ branch, branch ∈ order
  due : Bool
  change : Option (Option ε)

/-- A worker with the records that are still in its channel. -/
structure Draining (σ θ ρ : Type) where
  worker : State σ θ ρ ρ
  queue : List ρ
  watching : Bool
  exited : Bool

namespace Draining

variable {σ θ ρ ε : Type} (w : Worker σ θ ρ ρ ε) (d : Draining σ θ ρ) (round : Round ε)

/-- What a branch has when it is polled: nothing yet, a value that its pattern does not match, or one that
it does. -/
def poll : Branch → Option (Option (Selected ρ ε))
  | .record => some (d.queue.head?.map .received)
  | .tick => if round.due then some (some .ticked) else none
  | .config => if d.watching then round.change.map fun config => some (config.elim .unwatched .changed) else none

/-- One iteration, or the wait for another one when no branch is ready. -/
def step : Draining σ θ ρ :=
  let polls := round.order.map (d.poll round)
  if d.exited then d
  else
    match polls.findSome? Option.join with
    | some (.received record) => { d with worker := w.step d.worker (.record record), queue := d.queue.tail }
    | some .ticked => { d with worker := w.step d.worker .tick }
    | some (.changed config) => { d with worker := w.step d.worker (.reload config) }
    | some .unwatched => { d with watching := false }
    | none =>
      if polls.all (·.any Option.isNone) then { d with worker := w.step d.worker .tick, exited := true } else d

def run (d : Draining σ θ ρ) (rounds : List (Round ε)) : Draining σ θ ρ := rounds.foldl (step w) d

variable {w d round}

theorem not_all_disabled : (round.order.map (d.poll round)).all (·.any Option.isNone) = false := by
  rw [List.all_map, List.all_eq_false]
  refine ⟨.tick, round.complete .tick, ?_⟩
  -- the timer is due or it is not
  cases due : round.due <;> simp [poll, due]

theorem exited_step (running : d.exited = false) : (step w d round).exited = false := by
  simp only [step, running, not_all_disabled, Bool.false_eq_true, if_false]
  split <;> first | rfl | exact running

theorem exited_run (running : d.exited = false) (rounds : List (Round ε)) : (run w d rounds).exited = false := by
  induction rounds generalizing d with
  | nil => exact running
  | cons round rounds ih => exact ih (exited_step running)

/-- The worker flushes what it has and exits. -/
def Stops (w : Worker σ θ ρ ρ ε) (d : Draining σ θ ρ) : Prop :=
  ∃ rounds, (run w d rounds).exited = true ∧ (run w d rounds).worker.batcher.batch = []

theorem not_stops (running : d.exited = false) : ¬Stops w d := by
  rintro ⟨rounds, exited, -⟩
  rw [exited_run running] at exited
  cases exited

end Draining

/-- Neither of the two workers ever stops, whatever is in its batch and in its channel. -/
theorem workers_never_stop {ρ μ : Type} (env : Environment) (logs : State LogLoop LogTarget ρ ρ)
    (metrics : State MetricLoop ExportConfig μ μ) (logQueue : List ρ) (metricQueue : List μ) (watching : Bool) :
    ¬Draining.Stops (logWorker env ρ) ⟨logs, logQueue, watching, false⟩ ∧
      ¬Draining.Stops (metricWorker env μ) ⟨metrics, metricQueue, watching, false⟩ :=
  ⟨Draining.not_stops rfl, Draining.not_stops rfl⟩

/-- Not even with nothing left to flush. -/
theorem idleWorker_not_stops : ¬Draining.Stops (logWorker ⟨none, none⟩ Nat)
    ⟨Worker.start (LogLoop.start ⟨none, none⟩ sampleSettings), [], false, false⟩ :=
  Draining.not_stops rfl

end TcOtel.Service
