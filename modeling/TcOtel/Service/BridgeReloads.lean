import TcOtel.Service.BridgeSetup

/-!
# Reloading the client bridge

What `ClientBridge::reconcile` leaves behind when it is called again and again. A target that is
rebuilt or dropped loses its `TargetState`, whose `drop` aborts the tasks. That stops the pollers. It
does not stop the loop of the notifier, which is a blocking task: once such a task runs, `abort` has no
effect on it, and it ends only when the channel behind `recv_timeout` has no sender any more. The loop
itself keeps one alive, through the notifier, the backend and the dispatcher to its sink. And nothing
tells the PLC to forget a notification.
-/

namespace TcOtel.Service

open Ads Client Iterating

open Bridge (sampleDef samplePlc)

/-! ### The bridge over many configurations -/

/-- Where the blocking task of a notifier stands. -/
inductive LoopStage where
  | queued
  | running
  | cancelled
  | exited
deriving DecidableEq

/-- `JoinHandle::abort` takes a blocking task from the queue. It has no effect once the task runs. -/
def LoopStage.abort : LoopStage → LoopStage
  | .queued => .cancelled
  | stage => stage

/-- The pool has a thread for the task. -/
def LoopStage.begin : LoopStage → LoopStage
  | .queued => .running
  | stage => stage

/-- What keeps the sender of a notifier's channel alive. -/
inductive Holder where
  /-- The task of `attach_mqtt`, which has the sink and is never aborted. -/
  | eventTask
  /-- `TargetState`, by the dispatcher and by the notifier. -/
  | targetState
  /-- The closure of the loop, by the notifier, the backend and the dispatcher. -/
  | notifierTask
  /-- The reader of a poller, by the dispatcher. -/
  | pollTask (d : CustomMetricDef)

structure TargetState where
  /-- The call of `reconcile` that made it. -/
  round : Nat
  descriptor : TargetDescriptor
  notifier : Notifier
  notifierTask : LoopStage
  pollTasks : List CustomMetricDef
  /-- It is in the map of the bridge. -/
  held : Bool

namespace TargetState

def drop (s : TargetState) : TargetState :=
  { s with notifierTask := s.notifierTask.abort, pollTasks := [], held := false }

def removed (key : AmsNetId → Bool) (s : TargetState) : TargetState :=
  if s.held ∧ key s.descriptor.amsNetId then s.drop else s

def senders (s : TargetState) : List Holder :=
  .eventTask :: (if s.held then [.targetState] else []) ++
    (if s.notifierTask = .queued ∨ s.notifierTask = .running then [.notifierTask] else []) ++
    s.pollTasks.map .pollTask

/-- What one turn of the loop hands to the channel of the metrics, if this batch is received. -/
def emits (s : TargetState) (now : DateTime) (batch : List Sample) : List MetricEntry :=
  if s.notifierTask = .running then batch.filterMap (s.notifier.dispatchSample now) else []

def begin (s : TargetState) : TargetState := { s with notifierTask := s.notifierTask.begin }

/-- One turn of the loop. It ends when `recv_timeout` finds no sender. -/
def turn (s : TargetState) : TargetState :=
  if s.notifierTask = .running ∧ s.senders.isEmpty then { s with notifierTask := .exited } else s

/-- The loop does not run, and hands nothing over. -/
def Stopped (s : TargetState) : Prop :=
  s.notifierTask ≠ .running ∧ ∀ now batch, s.emits now batch = []

end TargetState

/-- The bridge, together with the notifications on the PLCs. Of its states all are remembered, also
those that are no longer in its map. -/
structure ClientBridge where
  round : Nat
  states : List TargetState
  registered : List Registration
  emitted : List MetricEntry

inductive ReloadEvent where
  | reconcile (customMetrics : List CustomMetricDef) (plcs : Plcs) (order : Iteration AmsNetId)
  | begin (place : Nat)
  | turn (place : Nat) (now : DateTime) (batch : List Sample)

def ReloadEvent.isReconcile : ReloadEvent → Bool
  | .reconcile _ _ _ => true
  | .begin _ | .turn _ _ _ => false

namespace ClientBridge

def new : ClientBridge := ⟨0, [], [], []⟩

def remove (b : ClientBridge) (key : AmsNetId → Bool) : ClientBridge :=
  { b with states := b.states.map (TargetState.removed key) }

def rebuildTarget (plcs : Plcs) (b : ClientBridge) (entry : TargetDescriptor × List CustomMetricDef) : ClientBridge :=
  let b := b.remove fun key => key = entry.1.amsNetId
  match plcs.tree entry.1.amsNetId entry.1.amsPort with
  | none => b
  | some tree =>
    let setup := Setup.run plcs entry.1 tree entry.2
    { b with
      states := b.states ++ [⟨b.round, entry.1, setup.notifier, .queued, setup.pollTasks, true⟩]
      registered := b.registered ++ setup.registered }

/-- The targets of a configuration in the order in which the map `by_target` gives them out. -/
def targetsIn (order : Iteration AmsNetId) (customMetrics : List CustomMetricDef) :
    List (TargetDescriptor × List CustomMetricDef) :=
  (order.order ((byTarget customMetrics).map fun entry => entry.1.amsNetId).toFinset).filterMap fun key =>
    (byTarget customMetrics).find? fun entry => entry.1.amsNetId = key

def reconcile (b : ClientBridge) (customMetrics : List CustomMetricDef) (plcs : Plcs) (order : Iteration AmsNetId) :
    ClientBridge :=
  let desired := (byTarget customMetrics).map fun entry => entry.1.amsNetId
  (targetsIn order customMetrics).foldl (rebuildTarget plcs)
    ({ b with round := b.round + 1 }.remove fun key => !desired.contains key)

def step (b : ClientBridge) : ReloadEvent → ClientBridge
  | .reconcile customMetrics plcs order => b.reconcile customMetrics plcs order
  | .begin place =>
    { b with states := b.states.modify place TargetState.begin }
  | .turn place now batch =>
    { b with
      states := b.states.modify place TargetState.turn
      emitted := b.emitted ++ (b.states[place]?).toList.flatMap fun s => s.emits now batch }

def run (b : ClientBridge) (events : List ReloadEvent) : ClientBridge := events.foldl step b

/-- The PLCs have one notification for each definition, and no loop of an earlier configuration is
left. -/
structure Clean (b : ClientBridge) (customMetrics : List CustomMetricDef) : Prop where
  registered : (b.registered.map fun r => r.sub.metricDef).Perm (customMetrics.filter fun d => d.source = .notification)
  stopped : ∀ s ∈ b.states, s.round < b.round → s.Stopped

end ClientBridge

/-! ### Notifications of one configuration -/

/-- The runtimes can be read, know the symbols of the notification definitions, and grant them. -/
def Plcs.Serve (plcs : Plcs) (customMetrics : List CustomMetricDef) : Prop :=
  ∀ d ∈ customMetrics, d.source = .notification → ∃ netId port tree sub,
    ownNetId d = some netId ∧ firstPort customMetrics netId = some port ∧ plcs.tree netId port = some tree ∧
      subscriptionOf tree d = some sub ∧ ∀ before, (plcs.grant before netId port sub).isSome

theorem ClientBridge.targetsIn_perm (order : Iteration AmsNetId) (customMetrics : List CustomMetricDef) :
    (targetsIn order customMetrics).Perm (byTarget customMetrics) :=
  order.order_entries_perm (parted_byTarget customMetrics).distinct

namespace ClientBridge

variable {plcs : Plcs} {customMetrics : List CustomMetricDef}

def registrations (plcs : Plcs) (entry : TargetDescriptor × List CustomMetricDef) : List Registration :=
  ((plcs.tree entry.1.amsNetId entry.1.amsPort).map fun tree => (Setup.run plcs entry.1 tree entry.2).registered).getD []

theorem registered_rebuildTarget (b : ClientBridge) (entry : TargetDescriptor × List CustomMetricDef) :
    (b.rebuildTarget plcs entry).registered = b.registered ++ registrations plcs entry := by
  unfold rebuildTarget registrations
  cases plcs.tree entry.1.amsNetId entry.1.amsPort with
  | none => exact (List.append_nil _).symm
  | some tree => rfl

/-- Nothing is ever taken from the PLCs. -/
theorem registered_reconcile (b : ClientBridge) (order : Iteration AmsNetId) :
    (b.reconcile customMetrics plcs order).registered =
      b.registered ++ (targetsIn order customMetrics).flatMap (registrations plcs) := by
  have all : ∀ (entries : List (TargetDescriptor × List CustomMetricDef)) (b : ClientBridge),
      (entries.foldl (rebuildTarget plcs) b).registered = b.registered ++ entries.flatMap (registrations plcs) := by
    intro entries
    induction entries with
    | nil => exact fun b => (List.append_nil _).symm
    | cons entry entries ih =>
      intro b
      rw [List.foldl_cons, ih, registered_rebuildTarget, List.flatMap_cons, List.append_assoc]
  exact all _ _

section

variable (served : plcs.Serve customMetrics) {entry : TargetDescriptor × List CustomMetricDef}
  (member : entry ∈ byTarget customMetrics)
include served member

theorem served_at_target (inside : d ∈ entry.2) (source : d.source = .notification) :
    ∃ tree sub, plcs.tree entry.1.amsNetId entry.1.amsPort = some tree ∧ subscriptionOf tree d = some sub ∧
      ∀ before, (plcs.grant before entry.1.amsNetId entry.1.amsPort sub).isSome := by
  have grouped := grouped_byTarget customMetrics
  have listed := (parted_byTarget customMetrics).all.subset (List.mem_flatMap.mpr ⟨entry, member, inside⟩)
  obtain ⟨netId, port, tree, sub, own, first, rest⟩ :=
    served d (List.mem_of_mem_filter (List.mem_of_mem_filter listed)) source
  -- the target has the definition's NetID, and the port of the first definition with it
  cases own.symm.trans (grouped.netId entry member d inside)
  rw [firstPort, grouped.first entry member] at first
  cases first
  exact ⟨tree, sub, rest⟩

theorem registrations_eq :
    ((registrations plcs entry).map fun r => r.sub.metricDef) = entry.2.filter fun d => d.source = .notification := by
  rw [registrations]
  cases upload : plcs.tree entry.1.amsNetId entry.1.amsPort with
  | none =>
    -- a runtime that cannot be read is asked for no notification
    have noneAsked : entry.2.filter (fun d => d.source = .notification) = [] := by
      apply List.filter_eq_nil_iff.mpr
      intro d inside source
      obtain ⟨tree, -, read, -⟩ := served_at_target served member inside (of_decide_eq_true source)
      cases upload.symm.trans read
    rw [noneAsked]
    rfl
  | some tree =>
    apply Setup.registered_run
    intro d inside source
    obtain ⟨tree', sub, read, asked⟩ := served_at_target served member inside source
    cases upload.symm.trans read
    exact ⟨sub, asked⟩

end

theorem filter_valid_of_served (served : plcs.Serve customMetrics) :
    ((customMetrics.filter fun d => d.source ≠ .push).filter fun d => (TargetDescriptor.fromDef d).isSome).filter
      (fun d => d.source = .notification) = customMetrics.filter fun d => d.source = .notification := by
  rw [List.filter_filter, List.filter_filter]
  apply List.filter_congr
  intro d member
  by_cases source : d.source = .notification
  · obtain ⟨netId, -, -, -, own, -⟩ := served d member source
    have isValid : (TargetDescriptor.fromDef d).isSome := by
      rw [ownNetId] at own
      rw [← Option.isSome_map, own]
      rfl
    simp [source, isValid]
  · simp [source]

/-- A served configuration gets one notification for each of its notification definitions. -/
theorem registrations_perm (served : plcs.Serve customMetrics) (order : Iteration AmsNetId) :
    (((targetsIn order customMetrics).flatMap (registrations plcs)).map fun r => r.sub.metricDef).Perm
      (customMetrics.filter fun d => d.source = .notification) := by
  have ordered := (targetsIn_perm order customMetrics).flatMap_right fun entry =>
    (registrations plcs entry).map fun r => r.sub.metricDef
  rw [List.map_flatMap]
  refine ordered.trans ?_
  rw [List.flatMap_congr fun entry => registrations_eq served, ← List.filter_flatMap, ← filter_valid_of_served served]
  exact (parted_byTarget customMetrics).all.filter _

end ClientBridge

/-! ### States that are left behind -/

namespace TargetState

section

variable (s : TargetState)

@[simp] theorem removed_round (key : AmsNetId → Bool) : (s.removed key).round = s.round := by
  unfold removed
  split <;> rfl

@[simp] theorem removed_descriptor (key : AmsNetId → Bool) : (s.removed key).descriptor = s.descriptor := by
  unfold removed
  split <;> rfl

theorem held_removed_iff (key : AmsNetId → Bool) :
    (s.removed key).held = true ↔ s.held = true ∧ key s.descriptor.amsNetId = false := by
  unfold removed drop
  by_cases held : s.held <;> simp [held]
  split <;> simp_all

theorem removed_running_iff (key : AmsNetId → Bool) :
    (s.removed key).notifierTask = .running ↔ s.notifierTask = .running := by
  unfold removed
  split
  · unfold drop
    cases s.notifierTask <;> simp [LoopStage.abort]
  · rfl

/-- The sender outlives the state: the loop never ends. -/
theorem turn_eq : s.turn = s := by
  apply if_neg
  rintro ⟨-, none⟩
  cases none

theorem begin_of_notQueued (notQueued : s.notifierTask ≠ .queued) : s.begin = s := by
  unfold begin
  cases stage : s.notifierTask with
  | queued => exact absurd stage notQueued
  | running | cancelled | exited => rw [LoopStage.begin, ← stage]; simp

theorem stopped_iff : s.Stopped ↔ s.notifierTask ≠ .running := by
  constructor
  · exact fun stopped => stopped.1
  · exact fun notRunning => ⟨notRunning, fun _ _ => if_neg notRunning⟩

end

/-- The loop has been aborted, if the state is out of the map. -/
def Settled (s : TargetState) : Prop := s.held = false → s.notifierTask ≠ .queued

theorem Settled.removed {s : TargetState} (settled : s.Settled) (key : AmsNetId → Bool) : (s.removed key).Settled := by
  unfold TargetState.removed
  split
  · intro _
    unfold drop
    cases s.notifierTask <;> simp [LoopStage.abort]
  · exact settled

end TargetState

open TargetState

theorem exists_of_mem_modify {xs : List α} (member : y ∈ xs.modify place f) : ∃ x ∈ xs, y = x ∨ y = f x := by
  obtain ⟨j, found⟩ := List.mem_iff_getElem?.mp member
  rw [List.getElem?_modify] at found
  obtain ⟨x, there, rfl⟩ := Option.map_eq_some_iff.mp found
  refine ⟨x, List.mem_of_getElem? there, ?_⟩
  split
  · exact .inr rfl
  · exact .inl rfl

theorem mem_modify_of_fixed {xs : List α} (member : x ∈ xs) (fixed : f x = x) : x ∈ xs.modify place f := by
  obtain ⟨j, found⟩ := List.mem_iff_getElem?.mp member
  apply List.mem_of_getElem? (i := j)
  simp [List.getElem?_modify, found, fixed]

namespace ClientBridge

/-- What holds of the states in every run. -/
structure Sound (b : ClientBridge) : Prop where
  round : ∀ s ∈ b.states, s.round ≤ b.round
  settled : ∀ s ∈ b.states, s.Settled

/-- What the map holds is of the last configuration, but for targets that are still to be built up. -/
structure Rebuilding (b : ClientBridge) (left : List AmsNetId) : Prop extends b.Sound where
  held : ∀ s ∈ b.states, s.held = true → s.round = b.round ∨ s.descriptor.amsNetId ∈ left

/-- A loop of one of the configurations up to a round runs. -/
def Runs (b : ClientBridge) (round : Nat) : Prop := ∃ s ∈ b.states, s.round ≤ round ∧ s.notifierTask = .running

/-- Within a round the loops of the earlier ones stay as they are. -/
structure Rebuilt (b after : ClientBridge) (left : List AmsNetId) : Prop where
  rebuilding : after.Rebuilding left
  round : after.round = b.round
  runs : ∀ r < b.round, (after.Runs r ↔ b.Runs r)

variable {plcs : Plcs} {customMetrics : List CustomMetricDef} {b : ClientBridge}

theorem Rebuilt.trans (one : Rebuilt b b' left) (two : Rebuilt b' b'' left') : Rebuilt b b'' left' :=
  ⟨two.rebuilding, two.round.trans one.round,
    fun r earlier => (two.runs r (one.round ▸ earlier)).trans (one.runs r earlier)⟩

theorem runs_remove (b : ClientBridge) (key : AmsNetId → Bool) : (b.remove key).Runs r ↔ b.Runs r := by
  simp [Runs, remove, removed_running_iff]

theorem Rebuilding.of_remove (rebuilding : (b.remove key).Rebuilding left) : Rebuilt b (b.remove key) left :=
  ⟨rebuilding, rfl, fun _ _ => b.runs_remove key⟩

theorem Sound.remove (sound : b.Sound) (key : AmsNetId → Bool) : (b.remove key).Sound := by
  constructor
  · simpa [ClientBridge.remove] using sound.round
  · exact List.forall_mem_map.mpr fun s member => (sound.settled s member).removed key

theorem states_rebuildTarget (b : ClientBridge) (plcs : Plcs) (entry : TargetDescriptor × List CustomMetricDef) :
    ∃ more, (b.rebuildTarget plcs entry).states = (b.remove fun netId => netId = entry.1.amsNetId).states ++ more ∧
      (∀ s ∈ more, s.round = b.round ∧ s.held = true) ∧ (b.rebuildTarget plcs entry).round = b.round := by
  unfold rebuildTarget
  cases plcs.tree entry.1.amsNetId entry.1.amsPort with
  | none => exact ⟨[], (List.append_nil _).symm, fun s member => (by cases member), rfl⟩
  | some tree =>
    refine ⟨_, rfl, ?_, rfl⟩
    intro s member
    rw [List.mem_singleton.mp member]
    exact ⟨rfl, rfl⟩

theorem Rebuilding.rebuildTarget (rebuilding : b.Rebuilding (entry.1.amsNetId :: left)) :
    Rebuilt b (b.rebuildTarget plcs entry) left := by
  obtain ⟨more, states, added, round⟩ := b.states_rebuildTarget plcs entry
  have old := rebuilding.remove fun netId => netId = entry.1.amsNetId
  refine ⟨⟨⟨?_, ?_⟩, ?_⟩, round, ?_⟩
  · rw [states, round, List.forall_mem_append]
    exact ⟨old.round, fun s member => (added s member).1.le⟩
  · rw [states, List.forall_mem_append]
    refine ⟨old.settled, fun s member notHeld => ?_⟩
    rw [(added s member).2] at notHeld
    cases notHeld
  · rw [states, round, List.forall_mem_append]
    refine ⟨List.forall_mem_map.mpr fun s member held => ?_, fun s member _ => .inl (added s member).1⟩
    obtain ⟨held, other⟩ := (s.held_removed_iff _).mp held
    rw [removed_round, removed_descriptor]
    refine (rebuilding.held s member held).imp_right fun place => (List.mem_cons.mp place).resolve_left ?_
    simpa using other
  · -- the new states are of this round
    intro r earlier
    rw [← b.runs_remove fun netId => netId = entry.1.amsNetId, Runs, Runs, states]
    constructor
    · rintro ⟨s, member, early, running⟩
      rcases List.mem_append.mp member with old | new
      · exact ⟨s, old, early, running⟩
      · exact absurd (added s new).1 (by omega)
    · exact fun ⟨s, member, rest⟩ => ⟨s, List.mem_append_left _ member, rest⟩

theorem Rebuilding.rebuildTargets {entries : List (TargetDescriptor × List CustomMetricDef)}
    (rebuilding : b.Rebuilding (entries.map fun entry => entry.1.amsNetId)) :
    Rebuilt b (entries.foldl (ClientBridge.rebuildTarget plcs) b) [] := by
  induction entries generalizing b with
  | nil => exact ⟨rebuilding, rfl, fun _ _ => Iff.rfl⟩
  | cons entry entries ih => exact rebuilding.rebuildTarget.trans (ih rebuilding.rebuildTarget.rebuilding)

/-- Every state that was there loses its place in the map. -/
theorem Sound.reconcile (sound : b.Sound) (customMetrics : List CustomMetricDef) (plcs : Plcs)
    (order : Iteration AmsNetId) : Rebuilt { b with round := b.round + 1 } (b.reconcile customMetrics plcs order) [] := by
  have next : { b with round := b.round + 1 }.Sound :=
    ⟨fun s member => Nat.le_succ_of_le (sound.round s member), sound.settled⟩
  refine .trans (Rebuilding.of_remove ?rebuilding) (Rebuilding.rebuildTargets ?rebuilding)
  -- a NetID is not desired any more, or it is built up again
  refine ⟨next.remove _, List.forall_mem_map.mpr fun s member held => .inr ?_⟩
  rw [removed_descriptor, ((targetsIn_perm order customMetrics).map _).mem_iff]
  simpa using ((s.held_removed_iff _).mp held).2

/-- Only a loop in the queue can get a thread, and those are of the last round. -/
theorem Rebuilding.modify (rebuilding : b.Rebuilding []) {f : TargetState → TargetState}
    (same : ∀ s, (f s).round = s.round ∧ (f s).held = s.held) (fixed : ∀ s, s.notifierTask ≠ .queued → f s = s)
    (states : after.states = b.states.modify place f) (round : after.round = b.round) : Rebuilt b after [] := by
  have each : ∀ s' ∈ after.states, ∃ s ∈ b.states, s'.round = s.round ∧ s'.held = s.held ∧
      (s.notifierTask ≠ .queued → s' = s) := by
    intro s' member
    rw [states] at member
    obtain ⟨s, there, rfl | rfl⟩ := exists_of_mem_modify member
    · exact ⟨s', there, rfl, rfl, fun _ => rfl⟩
    · exact ⟨s, there, (same s).1, (same s).2, fixed s⟩
  refine ⟨⟨⟨?_, ?_⟩, ?_⟩, round, fun r earlier => ⟨?_, ?_⟩⟩
  · intro s' member
    obtain ⟨s, there, sameRound, -⟩ := each s' member
    rw [sameRound, round]
    exact rebuilding.round s there
  · intro s' member notHeld
    obtain ⟨s, there, -, sameHeld, kept⟩ := each s' member
    have notQueued := rebuilding.settled s there (sameHeld.symm.trans notHeld)
    rwa [kept notQueued]
  · intro s' member held
    obtain ⟨s, there, sameRound, sameHeld, -⟩ := each s' member
    rw [sameRound, round]
    exact .inl ((rebuilding.held s there (sameHeld.symm.trans held)).resolve_right List.not_mem_nil)
  · rintro ⟨s', member, early, running⟩
    obtain ⟨s, there, sameRound, -, kept⟩ := each s' member
    have notHeld : s.held = false := by
      by_contra held
      have now := (rebuilding.held s there (Bool.eq_true_of_not_eq_false held)).resolve_right List.not_mem_nil
      omega
    rw [kept (rebuilding.settled s there notHeld)] at early running
    exact ⟨s, there, early, running⟩
  · rintro ⟨s, there, early, running⟩
    have isFixed := fixed s (by rw [running]; exact LoopStage.noConfusion)
    exact ⟨s, by rw [states]; exact mem_modify_of_fixed there isFixed, early, running⟩

theorem Rebuilding.step (rebuilding : b.Rebuilding []) (event : ReloadEvent) (noReload : event.isReconcile = false) :
    Rebuilt b (b.step event) [] := by
  cases event with
  | reconcile customMetrics plcs order => cases noReload
  | begin place => exact rebuilding.modify (f := begin) (fun _ => ⟨rfl, rfl⟩) begin_of_notQueued rfl rfl
  | turn place now batch =>
    refine rebuilding.modify (f := turn) (fun s => ?_) (fun s _ => s.turn_eq) rfl rfl
    rw [s.turn_eq]
    exact ⟨rfl, rfl⟩

theorem rebuilding_run (events : List ReloadEvent) : (new.run events).Rebuilding [] := by
  induction events using List.reverseRecOn with
  | nil => exact ⟨⟨fun s member => (by cases member), fun s member => (by cases member)⟩, fun s member => (by cases member)⟩
  | append_singleton events event ih =>
    rw [run, List.foldl_append]
    cases reload : event.isReconcile with
    | false => exact (ih.step event reload).rebuilding
    | true =>
      cases event with
      | reconcile customMetrics plcs order => exact (ih.reconcile customMetrics plcs order).rebuilding
      | begin | turn => cases reload

/-- Until the next configuration nothing happens to the states of the earlier ones. -/
theorem Rebuilding.run (rebuilding : b.Rebuilding []) (noReload : ∀ event ∈ later, event.isReconcile = false) :
    Rebuilt b (b.run later) [] ∧ (b.run later).registered = b.registered := by
  induction later generalizing b with
  | nil => exact ⟨⟨rebuilding, rfl, fun _ _ => Iff.rfl⟩, rfl⟩
  | cons event later ih =>
    rw [List.forall_mem_cons] at noReload
    have one := rebuilding.step event noReload.1
    obtain ⟨rest, registered⟩ := ih one.rebuilding noReload.2
    refine ⟨one.trans rest, registered.trans ?_⟩
    cases event with
    | reconcile => cases noReload.1
    | begin | turn => rfl

/-- After any configurations the last one, if it is served, is all there is just when the ones before
it have registered no notification, and none of their loops ran when the last one came. -/
theorem clean_iff (before later : List ReloadEvent) (customMetrics : List CustomMetricDef) (plcs : Plcs)
    (order : Iteration AmsNetId) (served : plcs.Serve customMetrics)
    (noReload : ∀ event ∈ later, event.isReconcile = false) :
    (new.run (before ++ .reconcile customMetrics plcs order :: later)).Clean customMetrics ↔
      (new.run before).registered = [] ∧ ∀ s ∈ (new.run before).states, s.notifierTask ≠ .running := by
  have sound := rebuilding_run before
  have rebuilt := sound.reconcile customMetrics plcs order
  obtain ⟨rest, registered⟩ := rebuilt.rebuilding.run noReload
  have kept := rebuilt.trans rest
  have whole : new.run (before ++ .reconcile customMetrics plcs order :: later) =
      ((new.run before).reconcile customMetrics plcs order).run later := by
    rw [run, List.foldl_append]
    rfl
  rw [whole]
  have loops : (∀ s ∈ (((new.run before).reconcile customMetrics plcs order).run later).states,
        s.round < (((new.run before).reconcile customMetrics plcs order).run later).round → s.Stopped) ↔
      ∀ s ∈ (new.run before).states, s.notifierTask ≠ .running := by
    have same := (kept.runs (new.run before).round (Nat.lt_succ_self _)).not
    simp only [Runs, not_exists, not_and] at same
    rw [kept.round]
    simp only [stopped_iff, Nat.lt_succ_iff]
    exact same.trans (forall₂_congr fun s member => forall_prop_of_true (sound.round s member))
  have perm := registrations_perm served order
  rw [registered_reconcile] at registered
  constructor
  · intro clean
    refine ⟨?_, loops.mp clean.stopped⟩
    -- the last configuration alone has registered as many as there should be
    have total := clean.registered.length_eq
    rw [registered, List.map_append, List.length_append, perm.length_eq, List.length_map] at total
    exact List.eq_nil_of_length_eq_zero (by omega)
  · rintro ⟨noneBefore, notRunning⟩
    refine ⟨?_, loops.mpr notRunning⟩
    rw [registered, noneBefore]
    exact perm

/-! ### One metric, two configurations -/

def sampleMetrics : List CustomMetricDef := [sampleDef "5.9.8.7.1.1"]

def sampleTarget : TargetDescriptor × List CustomMetricDef := (⟨samplePlc, 851, none⟩, sampleMetrics)

/-- PLCs that have the symbol and grant this handle. -/
def samplePlcs (handle : UInt32) : Plcs where
  tree _ _ := some (SymbolTree.empty.push ⟨"GVL.a", "BOOL", "", 0x4040, 0, 1, 33, 0⟩)
  grant _ _ _ _ := some handle

theorem byTarget_sample : byTarget sampleMetrics = [sampleTarget] := by
  decide +kernel

theorem samplePlcs_serve (handle : UInt32) : (samplePlcs handle).Serve sampleMetrics := by
  intro d member _
  rw [List.mem_singleton.mp member]
  refine ⟨samplePlc, 851, _, ⟨sampleDef "5.9.8.7.1.1", ⟨1, "BOOL", 0x4040, 0⟩, ⟨1, .onChange, 5000, 10⟩⟩, ?_, ?_, rfl, ?_,
    fun _ => rfl⟩
  · decide +kernel
  · decide +kernel
  · decide +kernel

theorem reconcile_sample (b : ClientBridge) (handle : UInt32) (order : Iteration AmsNetId) :
    b.reconcile sampleMetrics (samplePlcs handle) order =
      (({ b with round := b.round + 1 }.remove fun key => key ≠ samplePlc).rebuildTarget (samplePlcs handle) sampleTarget) := by
  have only : targetsIn order sampleMetrics = [sampleTarget] :=
    List.perm_singleton.mp ((targetsIn_perm order sampleMetrics).trans (.of_eq byTarget_sample))
  rw [reconcile, only, byTarget_sample]
  have keys : (fun key => !([sampleTarget].map fun entry => entry.1.amsNetId).contains key) = fun key => key ≠ samplePlc := by
    funext key
    simp [sampleTarget]
  rw [keys]
  rfl

/-- The first configuration alone is clean, its loop running. -/
theorem clean_iff_sample :
    (new.run ([] ++ .reconcile sampleMetrics (samplePlcs 7) .listing :: [.begin 0])).Clean sampleMetrics := by
  apply (clean_iff [] [.begin 0] sampleMetrics (samplePlcs 7) .listing (samplePlcs_serve 7) (by decide)).mpr
  exact ⟨rfl, fun s member => (by cases member)⟩

/-- The same configuration twice, and the first loop gets its thread in between. -/
def sampleReload (order : Iteration AmsNetId) : List ReloadEvent :=
  [.reconcile sampleMetrics (samplePlcs 7) order, .begin 0, .reconcile sampleMetrics (samplePlcs 8) order]

/-- The same without the order, which does not matter for one target. -/
def sampleReloaded : ClientBridge :=
  let rebuild (b : ClientBridge) (handle : UInt32) :=
    ({ b with round := b.round + 1 }.remove fun key => key ≠ samplePlc).rebuildTarget (samplePlcs handle) sampleTarget
  rebuild ((rebuild new 7).step (.begin 0)) 8

theorem run_sampleReload (order : Iteration AmsNetId) : new.run (sampleReload order) = sampleReloaded := by
  rw [run, sampleReload, List.foldl_cons, List.foldl_cons, List.foldl_cons, step, step, reconcile_sample,
    reconcile_sample]
  rfl

/-- The PLC has two notifications, and the loop of the first configuration still hands metrics over. -/
theorem sampleReload_not_clean :
    ∃ b, new.run (sampleReload .listing) = b ∧ b.registered.map (·.handle) = [7, 8] ∧
      b.states.map (fun s => (s.round, s.notifierTask)) = [(1, .running), (2, .queued)] ∧
      (b.states.map fun s => (s.emits ⟨0, 0⟩ [(7, [1])]).map (·.name)) = [["plc.a"], []] ∧ ¬b.Clean sampleMetrics := by
  have twice : sampleReloaded.registered.map (·.handle) = [7, 8] := by decide +kernel
  refine ⟨sampleReloaded, run_sampleReload _, twice, by decide +kernel, by decide +kernel, ?_⟩
  intro clean
  have one := clean.registered.length_eq
  have two := congrArg List.length twice
  rw [List.length_map] at one two
  rw [two] at one
  revert one
  decide

end ClientBridge

end TcOtel.Service
