import TcOtel.Service.ClientIsolation
import TcOtel.Client.Subscriptions

/-!
# Where the requests of the bridge go

The bridge sorts the definitions of metrics by their NetID, and the first one of a NetID says which
port all of them are read from. A poll or a subscription goes to that port, which is the one of the
definition only if they agree (`routed_iff`).

`Tracked` is a target together with a record that no step reads: the definition that each poller is
for, the requests that were made for a definition, and the answers to subscriptions. The notifier is
what these answers make of it (`Tracked.Sound`).
-/

namespace TcOtel.Service

open Ads Client Decoding Pools TargetDescriptor

/-! ### Definitions and requests -/

structure Issue where
  metricDef : CustomMetricDef
  request : Request

def ownPort (d : CustomMetricDef) : UInt16 := d.amsPort.getD defaultAmsPort

def ownNetId (d : CustomMetricDef) : Option AmsNetId := (TargetDescriptor.fromDef d).map (·.amsNetId)

/-- The request goes to the NetID and the port of its definition. -/
def Issue.Routed (i : Issue) : Prop :=
  ownNetId i.metricDef = some i.request.targetNetId ∧ ownPort i.metricDef = i.request.targetPort
deriving Decidable

structure Tracked where
  target : Target
  pollerDefs : List CustomMetricDef
  issued : List Issue
  answers : List Answer

namespace Tracked

def servedDef (k : Tracked) : TargetEvent → Option CustomMetricDef
  | .task (.poll j) => k.pollerDefs[j]?
  | .task (.rebuild _) =>
    match k.target.stage with
    | .registering _ (d :: _) => some d
    | _ => none
  | _ => none

/-- The answer that a step takes from the PLC for the notifier. -/
def answer (k : Tracked) : TargetEvent → List Answer
  | .task (.rebuild _) =>
    match k.target.stage with
    | .subscribing _ _ i sub =>
      match (k.target.returnedBy i).map Target.handleOf with
      | none => []
      | some none => [.notSubscribed]
      | some (some handle) => [.subscribed handle sub]
    | _ => []
  | _ => []

def step (k : Tracked) (event : TargetEvent) : Tracked where
  target := k.target.step event
  pollerDefs := k.pollerDefs ++ ((k.target.step event).pollers.drop k.target.pollers.length).flatMap
    fun _ => (k.servedDef event).toList
  issued := k.issued ++ ((k.target.step event).pool.threads.drop k.target.pool.threads.length).flatMap
    fun request => (k.servedDef event).toList.map fun d => ⟨d, request⟩
  answers := k.answers ++ k.answer event

def new (t : Target) : Tracked := ⟨t, [], [], []⟩

def run (k : Tracked) (events : List TargetEvent) : Tracked := events.foldl step k

end Tracked

/-! ### One step -/

def RebuildStage.pendingDefs : RebuildStage → List CustomMetricDef
  | .registering _ defs | .subscribing _ defs _ _ => defs
  | _ => []

/-- The loop over the definitions has not been reached. -/
def RebuildStage.early : RebuildStage → Bool
  | .registering _ _ | .subscribing _ _ _ _ | .ready => false
  | _ => true

def subscriptionOf (tree : SymbolTree) (d : CustomMetricDef) : Option Subscription :=
  match Target.resolveMeta tree d, d.source with
  | some symbol, .notification => (NotifAttrs.fromDef d symbol.size).toOption.map fun attrs => ⟨d, symbol, attrs⟩
  | _, _ => none

/-- All that one step can do to the stage of a target with these definitions, and the answer that it
takes. -/
inductive Advance (defs : List CustomMetricDef) : RebuildStage → List Answer → RebuildStage → Prop where
  | stay (stage : RebuildStage) : Advance defs stage [] stage
  | early {stage stage' : RebuildStage} (before : stage.early) (after : stage'.early) : Advance defs stage [] stage'
  | uploaded (tree : SymbolTree) {stage : RebuildStage} (before : stage.early) :
    Advance defs stage [] (.registering tree defs)
  | skipped (tree : SymbolTree) (d : CustomMetricDef) (later : List CustomMetricDef)
    (nothing : subscriptionOf tree d = none) :
    Advance defs (.registering tree (d :: later)) [] (.registering tree later)
  | asked (tree : SymbolTree) (d : CustomMetricDef) (later : List CustomMetricDef) (call : Nat) (sub : Subscription)
    (found : subscriptionOf tree d = some sub) :
    Advance defs (.registering tree (d :: later)) [] (.subscribing tree later call sub)
  | refused (tree : SymbolTree) (later : List CustomMetricDef) (call : Nat) (sub : Subscription) :
    Advance defs (.subscribing tree later call sub) [.notSubscribed] (.registering tree later)
  | granted (tree : SymbolTree) (later : List CustomMetricDef) (call : Nat) (sub : Subscription) (handle : UInt32) :
    Advance defs (.subscribing tree later call sub) [.subscribed handle sub] (.registering tree later)
  | finished (tree : SymbolTree) : Advance defs (.registering tree []) [] .ready

theorem RebuildStage.pendingDefs_early {stage : RebuildStage} (early : stage.early) : stage.pendingDefs = [] := by
  cases stage with
  | registering | subscribing => cases early
  | _ => rfl

theorem Advance.pendingDefs {defs : List CustomMetricDef} (advance : Advance defs stage answer stage') :
    ∀ d ∈ stage'.pendingDefs, d ∈ stage.pendingDefs ∨ d ∈ defs := by
  intro d member
  cases advance with
  | stay => exact .inl member
  | early before after =>
    rw [RebuildStage.pendingDefs_early after] at member
    cases member
  | uploaded => exact .inr member
  | skipped | asked => exact .inl (List.mem_cons_of_mem _ member)
  | refused | granted => exact .inl member
  | finished => cases member

namespace Target

variable {t t' : Target}

/-- The requests that are new go to the target's NetID and port. -/
def NewRequestsOwn (t t' : Target) : Prop :=
  ∀ request ∈ t'.pool.threads.drop t.pool.threads.length,
    request.targetNetId = t.descriptor.amsNetId ∧ request.targetPort = t.descriptor.amsPort

theorem newRequestsOwn_of_threads_eq (same : t'.pool.threads = t.pool.threads) : NewRequestsOwn t t' := by
  intro request member
  rw [same, List.drop_length] at member
  cases member

theorem newRequestsOwn_send (t : Target) (cmd : UInt16) (payload : List UInt8) :
    NewRequestsOwn t (t.send cmd payload) := by
  intro request member
  have threads : (t.send cmd payload).pool.threads =
      t.pool.threads ++ [AmsDispatcher.system.fresh (t.call cmd payload)] := rfl
  rw [threads, List.drop_left] at member
  rw [List.mem_singleton.mp member]
  exact ⟨rfl, rfl⟩

/-- What a step keeps: the target stays the same one, `rebuild_target` goes on, and the notifier
changes by an answer only. -/
structure Keeps (t t' : Target) (answer : List Answer) : Prop where
  descriptor : t'.descriptor = t.descriptor
  defs : t'.defs = t.defs
  advance : Advance t.defs t.stage answer t'.stage
  notifier : t'.notifier = answer.foldl Notifier.learn t.notifier

theorem Keeps.of_sameStage (descriptor : t'.descriptor = t.descriptor) (defs : t'.defs = t.defs)
    (stage : t'.stage = t.stage) (notifier : t'.notifier = t.notifier) : Keeps t t' [] :=
  ⟨descriptor, defs, by rw [stage]; exact .stay _, notifier⟩

theorem Keeps.refl (t : Target) : Keeps t t [] := .of_sameStage rfl rfl rfl rfl

section

variable (t : Target) (tree : SymbolTree) (d : CustomMetricDef) (later : List CustomMetricDef)

theorem registerDef_cases : (∃ more, subscriptionOf tree d = none ∧ t.registerDef tree d later =
      { t with stage := .registering tree later, pollers := t.pollers ++ more }) ∨
    ∃ attrs symbol, subscriptionOf tree d = some ⟨d, symbol, attrs⟩ ∧ t.registerDef tree d later =
      { t.send adsCmdAddNotification (addNotificationRequest attrs symbol) with
        stage := .subscribing tree later t.pool.threads.length ⟨d, symbol, attrs⟩ } := by
  have none : t.pollers = t.pollers ++ [] := (List.append_nil _).symm
  unfold registerDef subscriptionOf
  cases resolveMeta tree d with
  | none => exact .inl ⟨[], rfl, by rw [← none]⟩
  | some symbol =>
    cases d.source with
    | push => exact .inl ⟨[], rfl, by rw [← none]⟩
    | poll =>
      dsimp only
      split
      · exact .inl ⟨[], rfl, by rw [← none]⟩
      · exact .inl ⟨[symbol], rfl, rfl⟩
    | notification =>
      dsimp only
      cases NotifAttrs.fromDef d symbol.size with
      | error e => exact .inl ⟨[], rfl, by rw [← none]⟩
      | ok attrs => exact .inr ⟨attrs, symbol, rfl, rfl⟩

theorem newRequestsOwn_registerDef : NewRequestsOwn t (t.registerDef tree d later) := by
  obtain ⟨more, -, same⟩ | ⟨attrs, symbol, -, same⟩ := registerDef_cases t tree d later
  · rw [same]
    exact newRequestsOwn_of_threads_eq rfl
  · rw [same]
    exact newRequestsOwn_send t _ _

end

end Target

namespace Tracked

variable {k : Tracked}

theorem keeps_rebuild (k : Tracked) (choice : RebuildChoice) :
    k.target.Keeps (k.target.rebuild choice) (k.answer (.task (.rebuild choice))) := by
  have early {t' : Target} (before : k.target.stage.early) (after : t'.stage.early)
      (descriptor : t'.descriptor = k.target.descriptor) (defs : t'.defs = k.target.defs)
      (notifier : t'.notifier = k.target.notifier) : k.target.Keeps t' [] :=
    ⟨descriptor, defs, .early before after, notifier⟩
  unfold answer Target.rebuild
  cases stage : k.target.stage with
  | grace =>
    dsimp only
    split
    · exact early (by rw [stage]; rfl) rfl rfl rfl rfl
    · exact .refl _
  | fallback | resolvingHost =>
    dsimp only
    split <;> exact early (by rw [stage]; rfl) rfl rfl rfl rfl
  | awaitingRoute =>
    dsimp only
    split
    · exact early (by rw [stage]; rfl) rfl rfl rfl rfl
    · split
      · exact early (by rw [stage]; rfl) rfl rfl rfl rfl
      · exact .refl _
  | uploadingInfo i =>
    dsimp only
    split
    · exact .refl _
    · exact early (by rw [stage]; rfl) rfl rfl rfl rfl
    · exact early (by rw [stage]; rfl) rfl rfl rfl rfl
  | uploading i info =>
    dsimp only
    split
    · exact .refl _
    · exact early (by rw [stage]; rfl) rfl rfl rfl rfl
    next tree _ => exact ⟨rfl, rfl, .uploaded tree (by rw [stage]; rfl), rfl⟩
  | registering tree defs =>
    cases defs with
    | nil => exact ⟨rfl, rfl, by rw [stage]; exact .finished tree, rfl⟩
    | cons d later =>
      dsimp only
      obtain ⟨more, nothing, same⟩ | ⟨attrs, symbol, asked, same⟩ := k.target.registerDef_cases tree d later
      · rw [same]
        exact ⟨rfl, rfl, by rw [stage]; exact .skipped tree d later nothing, rfl⟩
      · rw [same]
        exact ⟨rfl, rfl, by rw [stage]; exact .asked tree d later _ _ asked, rfl⟩
  | subscribing tree defs i sub =>
    dsimp only
    cases (k.target.returnedBy i).map Target.handleOf with
    | none => exact .refl _
    | some handle =>
      cases handle with
      | none => exact ⟨rfl, rfl, by rw [stage]; exact .refused tree defs i sub, rfl⟩
      | some handle => exact ⟨rfl, rfl, by rw [stage]; exact .granted tree defs i sub handle, rfl⟩
  | ready | returned => exact .refl _

theorem keeps_step (k : Tracked) (event : TargetEvent) : k.target.Keeps (k.target.step event) (k.answer event) := by
  cases event with
  | arrive p =>
    change k.target.Keeps (k.target.arrive p) []
    unfold Target.arrive
    split
    · exact .refl _
    · split
      · exact .of_sameStage rfl rfl rfl rfl
      · exact .refl _
  | task event =>
    change k.target.Keeps (k.target.task event) _
    cases event with
    | rebuild choice => exact keeps_rebuild k choice
    | mqtt | received | notify =>
      unfold Target.task
      dsimp only
      split
      all_goals first | exact .refl _ | exact .of_sameStage rfl rfl rfl rfl
    | poll j =>
      unfold Target.task
      dsimp only
      split
      · exact .refl _
      · exact .of_sameStage rfl rfl rfl rfl
    | tcpFrame | tcpClosed | readerExit | act => exact .of_sameStage rfl rfl rfl rfl

theorem newRequestsOwn_of_servedDef (served : k.servedDef event = some d) :
    k.target.NewRequestsOwn (k.target.step event) := by
  cases event with
  | arrive p => cases served
  | task event =>
    cases event with
    | poll j =>
      change k.target.NewRequestsOwn (k.target.task (.poll j))
      unfold Target.task
      dsimp only
      split
      · exact Target.newRequestsOwn_of_threads_eq rfl
      · exact Target.newRequestsOwn_send _ _ _
    | rebuild choice =>
      simp only [servedDef] at served
      split at served
      next tree first later stage =>
        change k.target.NewRequestsOwn (k.target.rebuild choice)
        rw [Target.rebuild, stage]
        exact Target.newRequestsOwn_registerDef _ _ _ _
      · cases served
    | mqtt | received | notify | tcpFrame | tcpClosed | readerExit | act => cases served

/-- What is known of a target of these definitions along every run. -/
structure Sound (plc : TargetDescriptor) (all : List CustomMetricDef) (k : Tracked) : Prop where
  descriptor : k.target.descriptor = plc
  defs : k.target.defs = all
  pending : ∀ d ∈ k.target.stage.pendingDefs, d ∈ all
  pollerDefs : ∀ d ∈ k.pollerDefs, d ∈ all
  issued : ∀ i ∈ k.issued, i.metricDef ∈ all ∧
    i.request.targetNetId = plc.amsNetId ∧ i.request.targetPort = plc.amsPort
  notifier : k.target.notifier = k.answers.foldl Notifier.learn .new

theorem Sound.new (ourNetId : AmsNetId) (topicPrefix : String) (plc : TargetDescriptor)
    (all : List CustomMetricDef) : Sound plc all (.new (.new ourNetId topicPrefix plc all)) where
  descriptor := rfl
  defs := rfl
  pending _ member := by cases member
  pollerDefs _ member := by cases member
  issued _ member := by cases member
  notifier := rfl

section

variable {plc : TargetDescriptor} {all : List CustomMetricDef} (sound : Sound plc all k)
include sound

theorem Sound.served (served : k.servedDef event = some d) : d ∈ all := by
  cases event with
  | arrive p => cases served
  | task event =>
    cases event with
    | poll j => exact sound.pollerDefs d (List.mem_of_getElem? served)
    | rebuild choice =>
      simp only [servedDef] at served
      split at served
      next tree first later stage =>
        cases served
        apply sound.pending
        rw [stage]
        exact List.mem_cons_self
      · cases served
    | mqtt | received | notify | tcpFrame | tcpClosed | readerExit | act => cases served

theorem Sound.step (event : TargetEvent) : Sound plc all (k.step event) := by
  have keeps := keeps_step k event
  constructor
  · exact keeps.descriptor.trans sound.descriptor
  · exact keeps.defs.trans sound.defs
  · intro d member
    rcases keeps.advance.pendingDefs d member with before | started
    · exact sound.pending d before
    · rw [sound.defs] at started
      exact started
  · intro d member
    rcases List.mem_append.mp member with before | added
    · exact sound.pollerDefs d before
    · obtain ⟨_, -, here⟩ := List.mem_flatMap.mp added
      exact sound.served (Option.mem_toList.mp here)
  · intro i member
    rcases List.mem_append.mp member with before | added
    · exact sound.issued i before
    · obtain ⟨request, fresh, here⟩ := List.mem_flatMap.mp added
      obtain ⟨d, served, rfl⟩ := List.mem_map.mp here
      have itsDef := Option.mem_toList.mp served
      have address := newRequestsOwn_of_servedDef itsDef request fresh
      rw [sound.descriptor] at address
      exact ⟨sound.served itsDef, address⟩
  · change (k.target.step event).notifier = (k.answers ++ k.answer event).foldl Notifier.learn .new
    rw [keeps.notifier, sound.notifier, List.foldl_append]

theorem Sound.run (events : List TargetEvent) : Sound plc all (k.run events) := by
  induction events generalizing k with
  | nil => exact sound
  | cons event events ih => exact ih (sound.step event)

end

end Tracked

/-! ### Targets and their definitions -/

/-- The port of the first definition with this NetID that is read from a PLC. -/
def firstPort (customMetrics : List CustomMetricDef) (netId : AmsNetId) : Option UInt16 :=
  (((customMetrics.filter fun d => d.source ≠ .push).filterMap TargetDescriptor.fromDef).find?
    fun tgt => tgt.amsNetId = netId).map (·.amsPort)

/-- The targets that the loop has made of these definitions. -/
structure Grouped (defs : List CustomMetricDef) (targets : List (TargetDescriptor × List CustomMetricDef)) : Prop where
  netId : ∀ entry ∈ targets, ∀ d ∈ entry.2, ownNetId d = some entry.1.amsNetId
  first : ∀ entry ∈ targets, (defs.filterMap TargetDescriptor.fromDef).find?
    (fun tgt => tgt.amsNetId = entry.1.amsNetId) = some entry.1
  complete : ∀ tgt ∈ defs.filterMap TargetDescriptor.fromDef, ∃ entry ∈ targets, entry.1.amsNetId = tgt.amsNetId

section Grouping

variable {defs : List CustomMetricDef} {targets : List (TargetDescriptor × List CustomMetricDef)} {d : CustomMetricDef}
  {tgt : TargetDescriptor}

theorem filterMap_fromDef_concat (valid : fromDef d = some tgt) :
    (defs ++ [d]).filterMap fromDef = defs.filterMap fromDef ++ [tgt] := by
  simp [valid]

theorem ownNetId_of_fromDef (valid : fromDef d = some tgt) : ownNetId d = some tgt.amsNetId := by
  rw [ownNetId, valid, Option.map_some]

section

variable (grouped : Grouped defs targets) (valid : TargetDescriptor.fromDef d = some tgt)
include grouped valid

theorem Grouped.first_concat (member : entry ∈ targets) :
    ((defs ++ [d]).filterMap fromDef).find? (fun other => other.amsNetId = entry.1.amsNetId) =
      some entry.1 := by
  rw [filterMap_fromDef_concat valid, List.find?_append, grouped.first entry member, Option.some_or]

theorem Grouped.addKnown (known : old ∈ targets) (sameId : old.1.amsNetId = tgt.amsNetId) :
    Grouped (defs ++ [d])
      (targets.map fun entry => if entry.1.amsNetId = tgt.amsNetId then (entry.1, entry.2 ++ [d]) else entry) := by
  -- an entry keeps its descriptor, whatever is added to it
  have kept : ∀ entry : TargetDescriptor × List CustomMetricDef,
      (if entry.1.amsNetId = tgt.amsNetId then (entry.1, entry.2 ++ [d]) else entry).1 = entry.1 := by
    intro entry
    split <;> rfl
  constructor
  · intro entry member other inside
    obtain ⟨before, there, rfl⟩ := List.mem_map.mp member
    rw [kept]
    split at inside
    next sameId =>
      rcases List.mem_append.mp inside with old | new
      · exact grouped.netId before there other old
      · rw [List.mem_singleton.mp new, ownNetId_of_fromDef valid, sameId]
    · exact grouped.netId before there other inside
  · intro entry member
    obtain ⟨before, there, rfl⟩ := List.mem_map.mp member
    rw [kept]
    exact grouped.first_concat valid there
  · intro other member
    rw [filterMap_fromDef_concat valid] at member
    rcases List.mem_append.mp member with before | new
    · obtain ⟨entry, there, same⟩ := grouped.complete other before
      exact ⟨_, List.mem_map_of_mem there, by rw [kept, same]⟩
    · rw [List.mem_singleton.mp new]
      exact ⟨_, List.mem_map_of_mem known, by rw [kept, sameId]⟩

theorem Grouped.addNew (unknown : ∀ entry ∈ targets, entry.1.amsNetId ≠ tgt.amsNetId) : Grouped (defs ++ [d]) (targets ++ [(tgt, [d])]) := by
  constructor
  · intro entry member other inside
    rcases List.mem_append.mp member with before | new
    · exact grouped.netId entry before other inside
    · rw [List.mem_singleton.mp new] at inside ⊢
      rw [List.mem_singleton.mp inside, ownNetId_of_fromDef valid]
  · intro entry member
    rcases List.mem_append.mp member with before | new
    · exact grouped.first_concat valid before
    · rw [List.mem_singleton.mp new]
      have noneBefore : (defs.filterMap fromDef).find?
          (fun other => other.amsNetId = tgt.amsNetId) = none := by
        apply List.find?_eq_none.mpr
        intro other member same
        obtain ⟨entry, there, sameId⟩ := grouped.complete other member
        exact unknown entry there (sameId.trans (of_decide_eq_true same))
      rw [filterMap_fromDef_concat valid, List.find?_append, noneBefore, Option.none_or, List.find?_singleton,
        if_pos (decide_eq_true rfl)]
  · intro other member
    rw [filterMap_fromDef_concat valid] at member
    rcases List.mem_append.mp member with before | new
    · obtain ⟨entry, there, same⟩ := grouped.complete other before
      exact ⟨entry, List.mem_append_left _ there, same⟩
    · rw [List.mem_singleton.mp new]
      exact ⟨(tgt, [d]), List.mem_append_right _ List.mem_cons_self, rfl⟩

end

theorem Grouped.addDef (grouped : Grouped defs targets) (d : CustomMetricDef) :
    Grouped (defs ++ [d]) (addDef targets d) := by
  cases valid : fromDef d with
  | none =>
    have same : (defs ++ [d]).filterMap fromDef = defs.filterMap fromDef := by
      simp [valid]
    rw [Service.addDef, valid]
    exact ⟨grouped.netId, by rw [same]; exact grouped.first, by rw [same]; exact grouped.complete⟩
  | some tgt =>
    rw [Service.addDef, valid]
    dsimp only
    split
    next known =>
      obtain ⟨old, there, sameId⟩ := List.any_eq_true.mp known
      exact grouped.addKnown valid there (of_decide_eq_true sameId)
    next unknown =>
      refine grouped.addNew valid fun entry member same => ?_
      exact unknown (List.any_eq_true.mpr ⟨entry, member, decide_eq_true same⟩)

end Grouping

theorem grouped_foldl (defs : List CustomMetricDef) : Grouped defs (defs.foldl addDef []) := by
  induction defs using List.reverseRecOn with
  | nil =>
    constructor
    · intro entry member
      cases member
    · intro entry member
      cases member
    · intro tgt member
      cases member
  | append_singleton defs d ih =>
    rw [List.foldl_append]
    exact ih.addDef d

theorem grouped_byTarget (customMetrics : List CustomMetricDef) :
    Grouped (customMetrics.filter fun d => d.source ≠ .push) (byTarget customMetrics) :=
  grouped_foldl _

/-! ### All targets -/

namespace Bridge

variable (ourNetId : AmsNetId) (topicPrefix : String) (customMetrics : List CustomMetricDef)
variable (schedule : List BridgeEvent)

def tracked : List Tracked :=
  (byTarget customMetrics).mapIdx fun k entry =>
    (Tracked.new (.new ourNetId topicPrefix entry.1 entry.2)).run (eventsFor k schedule)

def issued : List Issue := (tracked ourNetId topicPrefix customMetrics schedule).flatMap Tracked.issued

/-- A definition's request goes to its NetID, and to the port of the first definition there. -/
theorem issued_address (member : i ∈ issued ourNetId topicPrefix customMetrics schedule) :
    ownNetId i.metricDef = some i.request.targetNetId ∧
      firstPort customMetrics i.request.targetNetId = some i.request.targetPort := by
  obtain ⟨k, there, made⟩ := List.mem_flatMap.mp member
  obtain ⟨place, bound, rfl⟩ := List.mem_mapIdx.mp there
  have grouped := grouped_byTarget customMetrics
  have target := List.getElem_mem bound
  obtain ⟨isDef, netId, port⟩ := ((Tracked.Sound.new ourNetId topicPrefix _ _).run (eventsFor place schedule)).issued i made
  rw [netId, port]
  constructor
  · exact grouped.netId _ target _ isDef
  · rw [firstPort, grouped.first _ target, Option.map_some]

/-- Every poll and every subscription goes to the port of its definition just when none of these
definitions comes behind one with the same NetID and another port. -/
theorem routed_iff : (∀ i ∈ issued ourNetId topicPrefix customMetrics schedule, i.Routed) ↔
      ∀ i ∈ issued ourNetId topicPrefix customMetrics schedule, ∀ netId,
        ownNetId i.metricDef = some netId → firstPort customMetrics netId = some (ownPort i.metricDef) := by
  apply forall₂_congr
  intro i member
  obtain ⟨sameId, port⟩ := issued_address ourNetId topicPrefix customMetrics schedule member
  constructor
  · rintro ⟨-, samePort⟩ netId own
    cases sameId.symm.trans own
    rw [port, samePort]
  · intro firstIsOwn
    refine ⟨sameId, ?_⟩
    have samePort := firstIsOwn _ sameId
    rw [port] at samePort
    exact (Option.some.inj samePort).symm

/-- Two metrics of the PLC, of different runtimes. -/
def sampleRuntimes : List CustomMetricDef :=
  [sampleDef "5.9.8.7.1.1", { sampleDef "5.9.8.7.1.1" with amsPort := some 852 }]

/-- The PLC grants the first subscription, and the bridge goes on to the second. -/
def sampleSecond : List BridgeEvent := sampleSetup ++ [.task 0 (.rebuild ⟨false, none⟩)]

/-- The subscription of the second runtime's metric goes to the first runtime. -/
theorem sampleRuntimes_misrouted :
    (issued sampleNetId "AdsOverMqtt" sampleRuntimes sampleSecond).map (fun i => (ownPort i.metricDef, i.request.targetPort)) =
        [(851, 851), (852, 851)] ∧
      ¬∀ i ∈ issued sampleNetId "AdsOverMqtt" sampleRuntimes sampleSecond, i.Routed := by
  decide +kernel

/-! ### Two metrics of one symbol -/

/-- Two metrics that are made of one symbol. -/
def sampleTwice : List CustomMetricDef :=
  [sampleDef "5.9.8.7.1.1", { sampleDef "5.9.8.7.1.1" with metricName := "plc.b" }]

/-- The PLC grants both subscriptions, with the handles 7 and 8. -/
def sampleBoth : List BridgeEvent := sampleSecond ++ sampleAnswer 3 adsCmdAddNotification (leBytes 4 0 ++ leBytes 4 8)

def sampleNotifier : Option Notifier :=
  ((start sampleNetId "AdsOverMqtt" sampleTwice).run sampleBoth).targets.head?.map (·.notifier)

/-- Both handles are held for the symbol, which leads to the second one only. -/
theorem sampleTwice_not_linked : ∃ n, sampleNotifier = some n ∧ n.subs.keys = {7, 8} ∧ ¬n.Linked := by
  have facts : sampleNotifier.any fun n => n.subs.keys = {7, 8} ∧
      (n.subs.lookup 7).map (·.metricDef.symbol) = some "GVL.a" ∧ n.bySymbol.lookup "GVL.a" = some 8 := by
    decide +kernel
  obtain ⟨n, here, holds⟩ := Option.any_eq_true _ _ |>.mp facts
  obtain ⟨keys, first, second⟩ := of_decide_eq_true holds
  refine ⟨n, here, keys, fun linked => ?_⟩
  obtain ⟨sub, held, symbol⟩ := Option.map_eq_some_iff.mp first
  have back := linked.toSymbol 7 sub held
  rw [symbol, second] at back
  cases back

end Bridge

end TcOtel.Service
