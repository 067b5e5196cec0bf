import TcOtel.Lib.History
import TcOtel.Service.ConfigWatcher

/-!
# Posting a configuration

`post_config` of the web UI. A request reads the current settings, writes the new ones to a temporary
file, renames it to the configuration file and stores the new settings as the current ones. Nothing is
locked in between, and all requests have the same temporary file. So the file that is put in place last
need not be of the request that stores its settings last (`file_holds_current_iff`).

A file is the JSON in it: the order in which the settings are written does not matter to who reads them.
Writing and renaming do not fail, except that there is nothing to rename when another request has just
renamed the temporary file.
-/

namespace TcOtel.Service

open Pools Refining Config.AppSettings
open Config (ConfigDiff Section differsIn)

/-! ### The answer -/

structure PostConfigResponse where
  ok : Bool
  hotReloaded : List String
  restartRequired : List String

/-- The answer for a diff. -/
def PostConfigResponse.ofDiff (diff : ConfigDiff) : PostConfigResponse where
  ok := true
  hotReloaded :=
    (if diff.loggingChanged then ["logging"] else []) ++
    (if diff.exportChanged then ["export"] else []) ++
    (if diff.metricsChanged then ["metrics"] else []) ++
    (if diff.diagnosticsChanged then ["diagnostics"] else [])
  restartRequired :=
    (if diff.receiverChanged then ["receiver"] else []) ++
    (if diff.serviceChanged then ["service"] else []) ++
    (if diff.outputsChanged then ["outputs"] else []) ++
    (if diff.webChanged then ["web"] else [])

def PostConfigResponse.listed (response : PostConfigResponse) : List String :=
  response.hotReloaded ++ response.restartRequired

theorem PostConfigResponse.mem_listed_ofDiff (named : diff.names part = true) :
    part.name ∈ (ofDiff diff).listed := by
  cases part <;> simp_all [ConfigDiff.names, listed, ofDiff, Section.name]

/-! ### What a diff leaves out -/

/-- The diff of two settings is complete: if they differ in a section, it is not empty and the watcher
broadcasts the new ones, and it names every section in which they differ, as does the answer. -/
structure DiffComplete (τ : Type) [DecidableEq τ] (old new : Config.AppSettings) : Prop where
  nonempty : ∀ part, differsIn old new part = true → (ConfigDiff.compute old new).isEmpty = false
  names : ∀ part, differsIn old new part = true → (ConfigDiff.compute old new).names part = true
  broadcast : ∀ (w : ConfigWatcher τ) (file : FileState τ) part, differsIn old new part = true → w.current = old →
    file.mtime ≠ w.lastModified → file.settings = some new → file.watched = true →
      w.poll file = .broadcasts ⟨file.mtime, new⟩
  listed : ∀ part, differsIn old new part = true →
    part.name ∈ (PostConfigResponse.ofDiff (ConfigDiff.compute old new)).listed

/-- A diff is complete unless the settings of traces differ, for which it has no flag. -/
theorem diff_complete_iff (τ : Type) [DecidableEq τ] (old new : Config.AppSettings) :
    DiffComplete τ old new ↔ old.traces = new.traces := by
  constructor
  · intro complete
    by_contra differ
    have named := complete.names .traces (decide_eq_true differ)
    cases named
  · intro same
    have names : ∀ part, differsIn old new part = true → (ConfigDiff.compute old new).names part = true := by
      intro part differs
      have covered : part ≠ .traces := by
        rintro rfl
        exact of_decide_eq_true differs same
      rw [ConfigDiff.names_compute covered, differs]
    have nonempty : ∀ part, differsIn old new part = true → (ConfigDiff.compute old new).isEmpty = false := by
      intro part differs
      rw [← Bool.not_eq_true, ConfigDiff.isEmpty_iff]
      intro none
      have named := names part differs
      rw [none part] at named
      cases named
    refine ⟨nonempty, names, ?_, fun part differs => PostConfigResponse.mem_listed_ofDiff (names part differs)⟩
    rintro w file part differs rfl modified parsed watched
    exact ConfigWatcher.poll_eq_broadcasts modified parsed (nonempty part differs) watched

/-- The defaults, with traces switched on. -/
def tracesEnabled : Config.AppSettings := { traces := { enabled := true } }

theorem traces_change_unnoticed : ¬DiffComplete Nat {} tracesEnabled := by
  intro complete
  have unnoticed : (ConfigDiff.compute {} tracesEnabled).isEmpty = true := by decide
  have noticed := complete.nonempty .traces (by decide)
  rw [unnoticed] at noticed
  cases noticed

/-! ### Requests -/

structure ConfigStore where
  file : Json
  tmp : Option Json
  current : Config.AppSettings
  restartPending : Bool

/-- The file holds the current settings. -/
def ConfigStore.Consistent (s : ConfigStore) : Prop := Config.AppSettings.fromJson s.file = some s.current

/-- Why a request fails: the JSON is not that of settings, they are not valid, or there is no temporary
file to rename. -/
inductive PostError where
  | invalidJson
  | validation (errors : List String)
  | replace

/-- How far a request is. The settings are those that were current when it read them, and its own. -/
inductive Posting where
  | received (payload : Json)
  | validated (current validated : Config.AppSettings)
  | written (current validated : Config.AppSettings)
  | replaced (current validated : Config.AppSettings)
  | stored (diff : ConfigDiff)
  | answered (answer : Except PostError PostConfigResponse)

/-- `post_config` up to the next access to what is shared. -/
def postConfig (toUppercase : String → String) (s : ConfigStore) : Posting → Option (ConfigStore × Posting)
  | .received payload =>
    match Config.AppSettings.fromJson payload with
    | none => some (s, .answered (.error .invalidJson))
    | some incoming =>
      let validated := incoming.mergeSecretsFrom s.current
      match validated.validate toUppercase with
      | .error errors => some (s, .answered (.error (.validation errors)))
      | .ok () => some (s, .validated s.current validated)
  | .validated current validated => some ({ s with tmp := some validated.toJson }, .written current validated)
  | .written current validated =>
    match s.tmp with
    | some content => some ({ s with file := content, tmp := none }, .replaced current validated)
    | none => some (s, .answered (.error .replace))
  | .replaced current validated =>
    some ({ s with current := validated }, .stored (ConfigDiff.compute current validated))
  | .stored diff =>
    let response := PostConfigResponse.ofDiff diff
    some ({ s with restartPending := s.restartPending || !response.restartRequired.isEmpty }, .answered (.ok response))
  | .answered _ => none

/-- Requests that arrive at any time and go on in any order. -/
def posts (toUppercase : String → String) : System ConfigStore Posting Json Unit Empty where
  fresh := .received
  act _ s t _ := postConfig toUppercase s t
  ambient s _ := s

/-- A service that has loaded its settings from the file. -/
structure LoadedStore extends ConfigStore where
  loaded : toConfigStore.Consistent

def LoadedStore.start (s : LoadedStore) : Pool ConfigStore Posting := ⟨s.toConfigStore, []⟩

/-- All requests have been answered. -/
def Answered (p : Pool ConfigStore Posting) : Prop := ∀ t ∈ p.threads, ∃ answer, t = .answered answer

/-- The content that a request is about to put in place. -/
def installs : ConfigStore → Posting → Option Json
  | s, .written _ _ => s.tmp
  | _, _ => none

def stores : ConfigStore → Posting → Option Config.AppSettings
  | _, .replaced _ validated => some validated
  | _, _ => none

/-- A request that has put its file in place and not yet stored its settings. -/
def isReplaced : Posting → Nat
  | .replaced _ _ => 1
  | _ => 0

section

variable {toUppercase : String → String}

theorem act_posts (i : Nat) (s : ConfigStore) (t : Posting) (choice : Unit) :
    (posts toUppercase).act i s t choice = postConfig toUppercase s t := rfl

/-- What the steps of a request do: a step is on its own, or it writes, renames or stores. -/
theorem postConfig_cases (acted : postConfig toUppercase s t = some (s', t')) :
    ((∃ payload, t = .received payload) ∨ ∃ diff, t = .stored diff) ∧
        ((∃ current validated, t' = .validated current validated) ∨ ∃ answer, t' = .answered answer) ∧
        s'.file = s.file ∧ s'.tmp = s.tmp ∧ s'.current = s.current ∨
      (∃ current validated, t = .validated current validated ∧ t' = .written current validated ∧
        s' = { s with tmp := some validated.toJson }) ∨
      (∃ current validated content, t = .written current validated ∧ s.tmp = some content ∧
        t' = .replaced current validated ∧ s' = { s with file := content, tmp := none }) ∨
      (∃ current validated, t = .written current validated ∧ s.tmp = none ∧ t' = .answered (.error .replace) ∧ s' = s) ∨
      ∃ current validated diff, t = .replaced current validated ∧ t' = .stored diff ∧
        s' = { s with current := validated } := by
  cases t with
  | received payload =>
    refine .inl ⟨.inl ⟨payload, rfl⟩, ?_⟩
    rw [postConfig] at acted
    split at acted
    · cases acted
      exact ⟨.inr ⟨_, rfl⟩, rfl, rfl, rfl⟩
    · dsimp only at acted
      split at acted
      · cases acted
        exact ⟨.inr ⟨_, rfl⟩, rfl, rfl, rfl⟩
      · cases acted
        exact ⟨.inl ⟨_, _, rfl⟩, rfl, rfl, rfl⟩
  | validated current validated =>
    cases acted
    exact .inr (.inl ⟨current, validated, rfl, rfl, rfl⟩)
  | written current validated =>
    rw [postConfig] at acted
    split at acted
    next content present =>
      cases acted
      exact .inr (.inr (.inl ⟨current, validated, content, rfl, present, rfl, rfl⟩))
    next absent =>
      cases acted
      exact .inr (.inr (.inr (.inl ⟨current, validated, rfl, absent, rfl, rfl⟩)))
  | replaced current validated =>
    cases acted
    exact .inr (.inr (.inr (.inr ⟨current, validated, _, rfl, rfl, rfl⟩)))
  | stored diff =>
    cases acted
    exact .inl ⟨.inr ⟨diff, rfl⟩, .inr ⟨_, rfl⟩, rfl, rfl, rfl⟩
  | answered answer => cases acted

theorem observes_installs : (posts toUppercase).Observes installs := by
  intro _ s t _ idle
  cases t with
  | written current validated =>
    rw [act_posts, postConfig] at idle
    split at idle <;> cases idle
  | _ => rfl

theorem observes_stores : (posts toUppercase).Observes stores := by
  intro _ s t _ idle
  cases t with
  | replaced current validated => cases idle
  | _ => rfl

section

variable (p : Pool ConfigStore Posting) (schedule : List (Event Json Unit Empty))

/-- The file is the one that was put in place last. -/
theorem file_run : ((posts toUppercase).run p schedule).shared.file =
      ((posts toUppercase).history installs p schedule).getLast?.getD p.shared.file := by
  refine System.read_run observes_installs ?_ (fun _ event => event.elim) schedule
  intro _ s t _ s' t' acted
  rw [act_posts] at acted
  rcases postConfig_cases acted with ⟨⟨_, rfl⟩ | ⟨_, rfl⟩, _, file, _⟩ | ⟨_, _, rfl, _, rfl⟩ |
    ⟨_, _, content, rfl, present, _, rfl⟩ | ⟨_, _, rfl, absent, _, rfl⟩ | ⟨_, _, _, rfl, _, rfl⟩
  · exact file
  · exact file
  · rfl
  · rw [installs, present]
    rfl
  · rw [installs, absent]
    rfl
  · rfl

/-- The current settings are those that were stored last. -/
theorem current_run : ((posts toUppercase).run p schedule).shared.current =
      ((posts toUppercase).history stores p schedule).getLast?.getD p.shared.current := by
  refine System.read_run observes_stores ?_ (fun _ event => event.elim) schedule
  intro _ s t _ s' t' acted
  rw [act_posts] at acted
  rcases postConfig_cases acted with ⟨⟨_, rfl⟩ | ⟨_, rfl⟩, _, _, _, current⟩ | ⟨_, _, rfl, _, rfl⟩ |
    ⟨_, _, _, rfl, _, _, rfl⟩ | ⟨_, _, rfl, _, _, rfl⟩ | ⟨_, _, _, rfl, _, rfl⟩
  · exact current
  · exact current
  all_goals rfl

/-- Every file that is put in place is followed by a store, which some requests have not yet come to. -/
theorem length_installs :
    ((posts toUppercase).history installs p schedule).length + weight isReplaced p.threads =
      ((posts toUppercase).history stores p schedule).length +
        weight isReplaced ((posts toUppercase).run p schedule).threads := by
  refine System.length_history observes_installs observes_stores (fun _ => rfl) ?_ schedule
  intro _ s t _ s' t' acted
  rw [act_posts] at acted
  rcases postConfig_cases acted with ⟨⟨_, rfl⟩ | ⟨_, rfl⟩, ⟨_, _, rfl⟩ | ⟨_, rfl⟩, _⟩ | ⟨_, _, rfl, rfl, rfl⟩ |
    ⟨_, _, _, rfl, present, rfl, rfl⟩ | ⟨_, _, rfl, absent, rfl, rfl⟩ | ⟨_, _, _, rfl, rfl, rfl⟩
  all_goals simp_all [installs, stores, isReplaced]

end

theorem weight_isReplaced_of_answered (answered : Answered p) : weight isReplaced p.threads = 0 := by
  have none : ∀ t ∈ p.threads, isReplaced t = 0 := by
    intro t member
    obtain ⟨answer, rfl⟩ := answered t member
    rfl
  rw [weight_congr none]
  simp [weight]

end

/-! ### A late store -/

def batchSettings (batchSize : UInt64) : Config.AppSettings := { «export» := { batchSize := batchSize } }

theorem validate_batchSettings (positive : batchSize ≠ 0) (toUppercase : String → String) :
    (batchSettings batchSize).validate toUppercase = .ok () := by
  have default := validate_default toUppercase
  simp only [validate, Config.result_eq_ok, List.append_eq_nil_iff,
    positiveErrors_eq_nil] at default ⊢
  obtain ⟨⟨⟨⟨⟨⟨⟨⟨⟨before, _⟩, flush⟩, timeout⟩, capacity⟩, threads⟩, window⟩, metricsBatch⟩, metricsFlush⟩, traces⟩ :=
    default
  exact ⟨⟨⟨⟨⟨⟨⟨⟨⟨before, positive⟩, flush⟩, timeout⟩, capacity⟩, threads⟩, window⟩, metricsBatch⟩, metricsFlush⟩, traces⟩

/-- A service with the default settings in its file. -/
def defaultStore : LoadedStore where
  file := Config.AppSettings.toJson {}
  tmp := none
  current := {}
  restartPending := false
  loaded := Config.AppSettings.fromJson_toJson {}

variable {toUppercase : String → String}

theorem postConfig_received (parsed : fromJson payload = some incoming)
    (valid : (incoming.mergeSecretsFrom s.current).validate toUppercase = .ok ()) :
    postConfig toUppercase s (.received payload) =
      some (s, .validated s.current (incoming.mergeSecretsFrom s.current)) := by
  simp [postConfig, parsed, valid]

section

variable {s s' : ConfigStore} {t t' other : Posting} (acted : postConfig toUppercase s t = some (s', t'))
include acted

theorem step_first : (posts toUppercase).step ⟨s, [t, other]⟩ (.act 0 ()) = ⟨s', [t', other]⟩ :=
  System.step_act rfl ((act_posts ..).trans acted)

theorem step_second : (posts toUppercase).step ⟨s, [other, t]⟩ (.act 1 ()) = ⟨s', [other, t']⟩ :=
  System.step_act rfl ((act_posts ..).trans acted)

end

/-- Two requests have read the settings. The second one writes, renames and stores between the rename and
the store of the first. -/
def overlapping : List (Event Json Unit Empty) :=
  [.act 0 (), .act 0 (), .act 1 (), .act 1 (), .act 1 (), .act 0 (), .act 0 (), .act 1 ()]

/-- Two requests with different batch sizes. -/
def lateStore : List (Event Json Unit Empty) :=
  [.start (batchSettings 100).toJson, .start (batchSettings 200).toJson, .act 0 (), .act 1 ()] ++ overlapping

theorem postConfig_batchSettings {s : ConfigStore} {batchSize : UInt64} (positive : batchSize ≠ 0) :
    postConfig id s (.received (batchSettings batchSize).toJson) =
      some (s, .validated s.current (batchSettings batchSize)) := by
  have merged : (batchSettings batchSize).mergeSecretsFrom s.current = batchSettings batchSize := rfl
  have valid : ((batchSettings batchSize).mergeSecretsFrom s.current).validate id = .ok () := by
    exact validate_batchSettings positive id
  have received := postConfig_received (batchSettings batchSize).fromJson_toJson valid
  rwa [merged] at received

theorem run_lateStore : ∃ restartPending one two, (posts id).run defaultStore.start lateStore =
      ⟨⟨(batchSettings 200).toJson, none, batchSettings 100, restartPending⟩, [.answered one, .answered two]⟩ := by
  have started (a b : Json) : (posts id).step ((posts id).step defaultStore.start (.start a)) (.start b) =
      ⟨defaultStore.toConfigStore, [.received a, .received b]⟩ := rfl
  simp only [lateStore, overlapping, List.cons_append, List.nil_append, System.run, List.foldl_cons, List.foldl_nil]
  rw [started, step_first (postConfig_batchSettings (by decide)), step_second (postConfig_batchSettings (by decide))]
  rw [step_first rfl, step_first rfl, step_second rfl, step_second rfl, step_second rfl, step_first rfl]
  rw [step_first rfl, step_second rfl]
  exact ⟨_, _, _, rfl⟩

theorem answered_lateStore : Answered ((posts id).run defaultStore.start lateStore) := by
  obtain ⟨_, one, two, ran⟩ := run_lateStore
  rw [ran]
  intro t member
  rcases List.mem_pair.mp member with rfl | rfl
  · exact ⟨one, rfl⟩
  · exact ⟨two, rfl⟩

end TcOtel.Service
