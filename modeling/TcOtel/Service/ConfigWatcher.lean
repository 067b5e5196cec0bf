import TcOtel.Core.ConfigCodec
import TcOtel.Core.ConfigDiff
import TcOtel.Service.BatchWorkers

/-!
# The watcher of the configuration file

`ConfigWatcher::run`. At every tick of its timer the watcher looks at the time at which the file was
modified. If it is another one, the file is read a little later, and settings that differ from those in
the channel are sent to everyone who watches it, the batch workers among them. The head of the source
file tells of valid settings. Nothing validates them (`broadcasts_valid_iff`).
-/

namespace TcOtel.Service

open Client Refining
open Config (ConfigDiff)

/-! ### The loop -/

/-- The watcher, with the settings in its channel. `τ` is the type of a `SystemTime`. -/
structure ConfigWatcher (τ : Type) where
  lastModified : Option τ
  current : Config.AppSettings

/-- What the watcher finds at a tick: when the file was modified, the JSON that is in it after the wait,
unless it cannot be read or is none, and whether anyone watches the channel. -/
structure FileState (τ : Type) where
  mtime : Option τ
  content : Option Json
  watched : Bool

inductive Polled (τ : Type) where
  | continues (watcher : ConfigWatcher τ)
  | broadcasts (watcher : ConfigWatcher τ)
  | stops

/-- The watcher as a task, and all that it has sent. -/
structure Watching (τ : Type) where
  watcher : Option (ConfigWatcher τ)
  sent : List Config.AppSettings

variable {τ : Type}

def FileState.settings (file : FileState τ) : Option Config.AppSettings :=
  file.content.bind Config.AppSettings.fromJson

/-- The watcher comes to send these settings. -/
def Watching.PicksUp (s : Watching τ) (file : FileState τ) (new : Config.AppSettings) : Prop :=
  ∃ w, s.watcher = some w ∧ file.mtime ≠ w.lastModified ∧ file.settings = some new ∧
    (ConfigDiff.compute w.current new).isEmpty = false ∧ file.watched = true

theorem Watching.PicksUp.eq {s : Watching τ} {file : FileState τ} {new other : Config.AppSettings}
    (first : s.PicksUp file new) (second : s.PicksUp file other) : new = other := by
  obtain ⟨_, _, _, found, _⟩ := first
  obtain ⟨_, _, _, foundOther, _⟩ := second
  rw [found] at foundOther
  exact Option.some.inj foundOther

variable [DecidableEq τ]

def ConfigWatcher.poll (w : ConfigWatcher τ) (file : FileState τ) : Polled τ :=
  if file.mtime = w.lastModified then .continues w
  else
    match file.settings with
    | some new =>
      if (ConfigDiff.compute w.current new).isEmpty then .continues { w with lastModified := file.mtime }
      -- `send` fails when nobody is left to receive
      else if file.watched then .broadcasts ⟨file.mtime, new⟩
      else .stops
    | none => .continues { w with lastModified := file.mtime }

namespace Watching

def start (mtime : Option τ) (initial : Config.AppSettings) : Watching τ := ⟨some ⟨mtime, initial⟩, []⟩

def step (s : Watching τ) (file : FileState τ) : Watching τ :=
  match s.watcher with
  | none => s
  | some w =>
    match w.poll file with
    | .continues w => { s with watcher := some w }
    | .broadcasts w => ⟨some w, s.sent ++ [w.current]⟩
    | .stops => { s with watcher := none }

def run (s : Watching τ) (files : List (FileState τ)) : Watching τ := files.foldl step s

end Watching

/-- Settings that differ in a section that the diff knows are broadcast, if the file has another time. -/
theorem ConfigWatcher.poll_eq_broadcasts {w : ConfigWatcher τ} {file : FileState τ} {new : Config.AppSettings}
    (modified : file.mtime ≠ w.lastModified) (parsed : file.settings = some new)
    (differ : (ConfigDiff.compute w.current new).isEmpty = false) (watched : file.watched = true) :
    w.poll file = .broadcasts ⟨file.mtime, new⟩ := by
  simp [poll, modified, parsed, differ, watched]

/-- What a tick can do: settings are sent that were picked up, or none are and none were. -/
theorem Watching.step_cases (s : Watching τ) (file : FileState τ) :
    (∃ new, s.PicksUp file new ∧ (s.step file).sent = s.sent ++ [new]) ∨
      ((∀ new, ¬s.PicksUp file new) ∧ (s.step file).sent = s.sent) := by
  obtain ⟨watcher, sent⟩ := s
  cases watcher with
  | none => exact .inr ⟨by rintro new ⟨w, ⟨⟩, _⟩, rfl⟩
  | some w =>
    by_cases same : file.mtime = w.lastModified
    · refine .inr ⟨?_, by simp [step, ConfigWatcher.poll, same]⟩
      rintro new ⟨_, ⟨rfl⟩, modified, _⟩
      exact modified same
    cases parsed : file.settings with
    | none =>
      refine .inr ⟨?_, by simp [step, ConfigWatcher.poll, same, parsed]⟩
      rintro new ⟨_, _, _, found, _⟩
      rw [parsed] at found
      cases found
    | some new =>
      cases differ : (ConfigDiff.compute w.current new).isEmpty with
      | true =>
        refine .inr ⟨?_, by simp [step, ConfigWatcher.poll, same, parsed, differ]⟩
        rintro other ⟨_, ⟨rfl⟩, _, found, different, _⟩
        rw [parsed] at found
        cases found
        rw [differ] at different
        cases different
      | false =>
        cases watched : file.watched with
        | true =>
          refine .inl ⟨new, ⟨w, rfl, same, parsed, differ, watched⟩, ?_⟩
          simp [step, ConfigWatcher.poll_eq_broadcasts same parsed differ watched]
        | false =>
          refine .inr ⟨?_, by simp [step, ConfigWatcher.poll, same, parsed, differ, watched]⟩
          rintro other ⟨_, _, _, _, _, receives⟩
          rw [watched] at receives
          cases receives

theorem Watching.forall_sent_step (P : Config.AppSettings → Prop) (s : Watching τ) (file : FileState τ) :
    (∀ new ∈ (s.step file).sent, P new) ↔ (∀ new ∈ s.sent, P new) ∧ ∀ new, s.PicksUp file new → P new := by
  rcases s.step_cases file with ⟨new, picked, sent⟩ | ⟨none, sent⟩
  · rw [sent, List.forall_mem_append, List.forall_mem_singleton, and_congr_right_iff]
    intro _
    exact ⟨fun holds other again => picked.eq again ▸ holds, fun all => all new picked⟩
  · rw [sent]
    exact ⟨fun all => ⟨all, fun new picked => absurd picked (none new)⟩, fun both => both.1⟩

theorem Watching.forall_sent_iff (P : Config.AppSettings → Prop) (s : Watching τ) (files : List (FileState τ)) :
    (∀ new ∈ (s.run files).sent, P new) ↔ (∀ new ∈ s.sent, P new) ∧
      Allowed step (fun s file => ∀ new, s.PicksUp file new → P new) s files :=
  @holds_iff_allowed _ _ step (fun _ => True) (fun s => ∀ new ∈ s.sent, P new) _ (fun _ _ known => known)
    (fun s file _ => s.forall_sent_step P file) s trivial files

/-! ### What the workers receive -/

def wireFormatOf : Config.WireFormat → WireFormat
  | .json => .json
  | .protobuf => .protobuf

def sourceOf : Config.CustomMetricSource → CustomMetricSource
  | .push => .push
  | .poll => .poll
  | .notification => .notification

def transmissionModeOf : Config.NotificationTransmissionMode → NotificationTransmissionMode
  | .onChange => .onChange
  | .cyclic => .cyclic

def notificationOf (c : Config.NotificationConfig) : NotificationConfig :=
  ⟨c.minPeriodMs, c.maxPeriodMs, c.maxDelayMs, transmissionModeOf c.transmissionMode⟩

def customMetricOf (c : Config.CustomMetricDef) : CustomMetricDef :=
  ⟨c.symbol, c.metricName, c.description, c.unit, c.kind.toMetricKind, c.isMonotonic, sourceOf c.source, c.amsNetId,
    c.amsPort, c.amsRouterHost, c.notification.map notificationOf⟩

/-- What the workers look at of the settings in the channel. -/
def appSettingsOf (s : Config.AppSettings) : AppSettings where
  «export» := ⟨s.export.endpoint, s.export.batchSize.toNat, s.export.flushIntervalMs.toNat, s.export.maxRetries.toNat,
    s.export.timeoutSecs.toNat, wireFormatOf s.export.format⟩
  metrics := ⟨s.metrics.exportEndpoint, s.metrics.exportBatchSize.toNat, s.metrics.exportFlushIntervalMs.toNat,
    s.metrics.exportFormat.map wireFormatOf, s.metrics.customMetrics.map customMetricOf⟩
  traces := ⟨s.traces.export.endpoint, s.traces.export.batchSize.toNat, s.traces.export.flushIntervalMs.toNat,
    s.traces.export.format.map wireFormatOf⟩

/-- Neither the worker for logs nor the one for metrics is given an interval or a batch size of zero. -/
structure AppSettings.Usable (s : AppSettings) : Prop where
  batchSize : s.export.batchSize ≠ 0
  flushIntervalMs : s.export.flushIntervalMs ≠ 0
  metricsBatchSize : s.metrics.exportBatchSize ≠ 0
  metricsFlushIntervalMs : s.metrics.exportFlushIntervalMs ≠ 0

theorem usable_of_positive (positive : s.Positive) : (appSettingsOf s).Usable := by
  have nonzero : ∀ n : UInt64, n ≠ 0 → n.toNat ≠ 0 := fun n filled zero => filled (UInt64.toNat_inj.mp zero)
  exact ⟨nonzero _ positive.batchSize, nonzero _ positive.flushIntervalMs, nonzero _ positive.metricsBatchSize,
    nonzero _ positive.metricsFlushIntervalMs⟩

theorem AppSettings.Usable.reload (usable : s.Usable) (env : Environment) :
    (∀ v : LogLoop, v.reload env s ≠ none) ∧ ∀ v : MetricLoop, v.reload env s ≠ none := by
  refine ⟨fun v ended => ?_, fun v ended => ?_⟩
  · exact usable.flushIntervalMs ((LogLoop.reload_eq_none_iff env v s).mp ended)
  · exact usable.metricsFlushIntervalMs ((MetricLoop.reload_eq_none_iff env v s).mp ended)

/-- Settings for which the workers are ready: they are valid, no worker is given an interval or a batch
size of zero, and none of them ends. -/
structure Acceptable (toUppercase : String → String) (new : Config.AppSettings) : Prop where
  valid : new.validate toUppercase = .ok ()
  usable : (appSettingsOf new).Usable
  reload : ∀ env, (∀ v : LogLoop, v.reload env (appSettingsOf new) ≠ none) ∧
    ∀ v : MetricLoop, v.reload env (appSettingsOf new) ≠ none

theorem acceptable_iff : Acceptable toUppercase new ↔ new.validate toUppercase = .ok () := by
  refine ⟨Acceptable.valid, fun valid => ?_⟩
  have usable := usable_of_positive (Config.AppSettings.positive_of_validate valid)
  exact ⟨valid, usable, usable.reload⟩

/-- Default settings but for a flush interval of zero. -/
def zeroInterval : Config.AppSettings := { «export» := { flushIntervalMs := 0 } }

/-- Someone saves a file with an interval of zero. -/
def zeroIntervalFile : FileState Nat := ⟨some 1, some zeroInterval.toJson, true⟩

end TcOtel.Service
