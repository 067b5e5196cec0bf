import TcOtel.Ads.DispatcherFrames
import TcOtel.Lib.Unwinding
import TcOtel.Service.ClientBridge

/-!
# Isolation of the targets of the bridge

Every target has a dispatcher and a notifier of its own. But all dispatchers have the same address,
their invoke ids all start at one, and the broker hands a frame for that address to all of them. A
notifier knows a sample by its handle only, and the PLCs choose their handles independently.

So what another PLC sends reaches a target's metrics when a handle or an invoke id happens to be
the same (`sampleCollision_emits`). As long as that does not happen and every host publishes under
its own address, the metrics of a target depend on nothing that others send
(`emittedFor_eq_of_ownEvents_eq`).
-/

namespace TcOtel.Service

open Ads Client Decoding Pools Refining Unwinding

namespace Target

variable {t u : Target} {routes : HashMap AmsNetId TransportKind} {delivered : List ResponseFrame}

/-! ### Events of others -/

def owns (t : Target) (sender : AmsNetId) : Bool := sender = t.descriptor.amsNetId

/-- The event only moves on what another host has sent. A step that takes the next of a queue is as
foreign as what it finds there; what comes over a TCP connection is the target's. -/
def foreign (t : Target) : TargetEvent → Bool
  | .arrive p => !t.owns p.sender
  | .task .mqtt => t.inbox.head?.any fun p => !t.owns p.sender
  | .task .received => t.pool.shared.received.head?.any fun frame => !t.owns frame.header.sourceNetId
  | .task (.notify _) => t.stamps.head?.any fun stamp => !t.owns stamp.sender
  | .task _ => false

/-- The publication says of no other host that it is from there. -/
def Honest (t : Target) (p : Publication) : Prop :=
  ∀ topicPrefix ∈ t.pool.shared.mqtt, ∀ netId ∈ AmsDispatcher.attributed topicPrefix p.topic p.payload, netId = p.sender
deriving Decidable

/-- The event does not reach into the target: a host publishes under its own address, a response of
another host answers no call of this target, and no sample of another host has a handle of this
target's notifier with a value of the type that belongs to it. -/
def Undisturbed (t : Target) : TargetEvent → Prop
  | .task .mqtt => ∀ p ∈ t.inbox.head?, t.Honest p
  | .task .received =>
    ∀ frame ∈ t.pool.shared.received.head?, ¬t.owns frame.header.sourceNetId → ¬t.pool.shared.Answers frame
  | .task (.notify _) =>
    ∀ stamp ∈ t.stamps.head?, ¬t.owns stamp.sender → ¬t.notifier.Takes stamp.sample
  | _ => True

instance (t : Target) (event : TargetEvent) : Decidable (t.Undisturbed event) :=
  match event with
  | .task .mqtt => inferInstanceAs (Decidable (∀ p ∈ t.inbox.head?, _))
  | .task .received => inferInstanceAs (Decidable (∀ frame ∈ t.pool.shared.received.head?, _))
  | .task (.notify _) => inferInstanceAs (Decidable (∀ stamp ∈ t.stamps.head?, _))
  | .arrive _ | .task (.tcpFrame _ _) | .task (.tcpClosed _) | .task (.readerExit _) | .task (.act _ _)
  | .task (.poll _) | .task (.rebuild _) => .isTrue trivial

/-! ### A target alone -/

/-- Of a queue, what the target itself has sent. -/
def own {α : Type} (t : Target) (sender : α → AmsNetId) (queue : List α) : List α :=
  queue.filter fun item => t.owns (sender item)

section

variable {α : Type} {sender : α → AmsNetId} {item : α} {queue : List α}

theorem own_cons (mine : t.owns (sender item)) (later : List α) :
    t.own sender (item :: later) = item :: t.own sender later :=
  List.filter_cons_of_pos mine

theorem own_cons_foreign (notMine : ¬t.owns (sender item)) (later : List α) :
    t.own sender (item :: later) = t.own sender later :=
  List.filter_cons_of_neg notMine

theorem own_append (t : Target) (sender : α → AmsNetId) (queue more : List α) :
    t.own sender (queue ++ more) = t.own sender queue ++ t.own sender more :=
  List.filter_append ..

theorem own_eq_self (mine : ∀ item ∈ queue, t.owns (sender item)) : t.own sender queue = queue :=
  List.filter_eq_self.mpr mine

theorem own_eq_nil (notMine : ∀ item ∈ queue, ¬t.owns (sender item)) : t.own sender queue = [] :=
  List.filter_eq_nil_iff.mpr notMine

end

abbrev frameSource (frame : ResponseFrame) : AmsNetId := frame.header.sourceNetId

def stampsOf (sender : AmsNetId) (samples : List Sample) : List Stamp := samples.map fun sample => ⟨sender, sample⟩

theorem Honest.frameSource_eq (honest : t.Honest p) (broker : t.pool.shared.mqtt = some topicPrefix)
    (member : frame ∈ AmsDispatcher.framesIn p.topic p.payload) : frameSource frame = p.sender :=
  honest topicPrefix broker _ (AmsDispatcher.source_of_framesIn topicPrefix member)

theorem own_stampsOf (mine : t.owns sender) (samples : List Sample) :
    t.own Stamp.sender (stampsOf sender samples) = stampsOf sender samples := by
  refine own_eq_self fun stamp member => ?_
  obtain ⟨sample, -, rfl⟩ := List.mem_map.mp member
  exact mine

theorem own_stampsOf_foreign (notMine : ¬t.owns sender) (samples : List Sample) :
    t.own Stamp.sender (stampsOf sender samples) = [] := by
  refine own_eq_nil fun stamp member => ?_
  obtain ⟨sample, -, rfl⟩ := List.mem_map.mp member
  exact notMine

/-- The target with only its own publications, frames and samples in the queues. -/
def alone (t : Target) (routes : HashMap AmsNetId TransportKind) (delivered : List ResponseFrame) : Target :=
  { t with
    pool := ⟨t.pool.shared.reframe routes (t.own frameSource t.pool.shared.received) delivered, t.pool.threads⟩
    inbox := t.own Publication.sender t.inbox
    stamps := t.own Stamp.sender t.stamps }

/-- `u` is the target in a run without the events of others. -/
structure Shadows (t u : Target) : Prop where
  state : ∃ routes delivered, routes.lookup t.descriptor.amsNetId = t.route ∧ u = t.alone routes delivered
  aimed : ∀ r ∈ t.pool.threads, r.targetNetId = t.descriptor.amsNetId

namespace Shadows

open AmsDispatcher

theorem initial (ourNetId : AmsNetId) (topicPrefix : String) (descriptor : TargetDescriptor)
    (defs : List CustomMetricDef) :
    Shadows (new ourNetId topicPrefix descriptor defs) (new ourNetId topicPrefix descriptor defs) where
  state := ⟨∅, [], rfl, rfl⟩
  aimed _ none := by cases none

/-! ### What the two have in common -/

section

variable (shadows : Shadows t u)
include shadows

theorem descriptor : u.descriptor = t.descriptor := by
  obtain ⟨⟨_, _, -, rfl⟩, -⟩ := shadows
  rfl

theorem stage : u.stage = t.stage := by
  obtain ⟨⟨_, _, -, rfl⟩, -⟩ := shadows
  rfl

theorem threads : u.pool.threads = t.pool.threads := by
  obtain ⟨⟨_, _, -, rfl⟩, -⟩ := shadows
  rfl

theorem pollers : u.pollers = t.pollers := by
  obtain ⟨⟨_, _, -, rfl⟩, -⟩ := shadows
  rfl

theorem emitted : u.emitted = t.emitted := by
  obtain ⟨⟨_, _, -, rfl⟩, -⟩ := shadows
  rfl

theorem hasRoute : u.hasRoute = t.hasRoute := by
  obtain ⟨⟨routes, _, same, rfl⟩, -⟩ := shadows
  exact congrArg Option.isSome same

theorem needsFallback : u.needsFallback = t.needsFallback := by
  rw [Target.needsFallback, Target.needsFallback, shadows.hasRoute, shadows.descriptor]

theorem returnedBy (i : Nat) : u.returnedBy i = t.returnedBy i := by
  rw [Target.returnedBy, Target.returnedBy, shadows.threads]

end

/-! ### Steps of the build-up -/

section

variable (shadows : Shadows t u)
include shadows

theorem restage (stage : RebuildStage) : Shadows { t with stage := stage } { u with stage := stage } := by
  obtain ⟨⟨routes, delivered, same, rfl⟩, aimed⟩ := shadows
  exact ⟨⟨routes, delivered, same, rfl⟩, aimed⟩

theorem send (cmd : UInt16) (payload : List UInt8) : Shadows (t.send cmd payload) (u.send cmd payload) := by
  obtain ⟨⟨routes, delivered, same, rfl⟩, aimed⟩ := shadows
  exact ⟨⟨routes, delivered, same, rfl⟩, List.forall_mem_append.mpr ⟨aimed, List.forall_mem_singleton.mpr rfl⟩⟩

theorem addTcpPeer (addr : SocketAddr) :
    Shadows { t with pool := system.step t.pool (.ambient (.addTcpPeer t.descriptor.amsNetId addr)) }
      { u with pool := system.step u.pool (.ambient (.addTcpPeer u.descriptor.amsNetId addr)) } := by
  obtain ⟨⟨routes, delivered, same, rfl⟩, aimed⟩ := shadows
  have learned := lookup_learnIfAbsent_congr same t.descriptor.amsNetId .tcp
  exact ⟨⟨_, delivered, learned, rfl⟩, aimed⟩

theorem registerDef (tree : SymbolTree) (d : CustomMetricDef) (later : List CustomMetricDef) :
    Shadows (t.registerDef tree d later) (u.registerDef tree d later) := by
  unfold Target.registerDef
  cases resolveMeta tree d with
  | none => exact shadows.restage _
  | some symbol =>
    cases d.source with
    | push => exact shadows.restage _
    | poll =>
      dsimp only
      split
      · exact shadows.restage _
      · obtain ⟨routes, delivered, same, rfl⟩ := shadows.state
        exact ⟨⟨routes, delivered, same, rfl⟩, shadows.aimed⟩
    | notification =>
      dsimp only
      cases NotifAttrs.fromDef d symbol.size with
      | error _ => exact shadows.restage _
      | ok attrs =>
        rw [shadows.threads]
        exact (shadows.send _ _).restage _

theorem rebuild (choice : RebuildChoice) : Shadows (t.rebuild choice) (u.rebuild choice) := by
  obtain ⟨routes, delivered, same, rfl⟩ := shadows.state
  unfold Target.rebuild
  -- it looks at its stage, the route to its own target and the answers to its own calls
  rw [shadows.stage, shadows.hasRoute, shadows.needsFallback]
  cases t.stage with
  | grace =>
    dsimp only
    split
    · exact shadows.restage _
    · exact shadows
  | fallback =>
    dsimp only
    split
    · exact shadows.restage _
    · exact shadows.restage _
  | resolvingHost =>
    cases choice.resolved with
    | none => exact shadows.restage _
    | some addr => exact (shadows.addTcpPeer addr).restage _
  | awaitingRoute =>
    dsimp only
    split
    · exact (shadows.send _ _).restage _
    split
    · exact shadows.restage _
    · exact shadows
  | uploadingInfo i =>
    simp only [shadows.returnedBy]
    split
    · exact shadows
    · exact shadows.restage _
    · exact (shadows.send _ _).restage _
  | uploading i info =>
    simp only [shadows.returnedBy]
    split
    · exact shadows
    · exact shadows.restage _
    · exact shadows.restage _
  | registering tree defs =>
    cases defs with
    | nil => exact shadows.restage _
    | cons d later => exact shadows.registerDef tree d later
  | subscribing tree defs i sub =>
    simp only [shadows.returnedBy]
    split
    · exact shadows
    · exact shadows.restage _
    · exact ⟨⟨routes, delivered, same, rfl⟩, shadows.aimed⟩
  | ready | returned => exact shadows

end

/-! ### Steps of the other tasks -/

theorem poll (shadows : Shadows t u) (j : Nat) : Shadows (t.task (.poll j)) (u.task (.poll j)) := by
  simp only [task, shadows.pollers]
  cases t.pollers[j]? with
  | none => exact shadows
  | some symbol => exact shadows.send _ _

theorem repool {d' : AmsDispatcher} {threads : List Request}
    (same : routes.lookup t.descriptor.amsNetId = d'.routes.lookup t.descriptor.amsNetId)
    (kept : d'.received = t.pool.shared.received) (aimed : ∀ r ∈ threads, r.targetNetId = t.descriptor.amsNetId) :
    Shadows { t with pool := ⟨d', threads⟩ }
      { t.alone routes delivered with
        pool := ⟨d'.reframe routes (t.own frameSource t.pool.shared.received) delivered, threads⟩ } := by
  refine ⟨⟨routes, delivered, same, ?_⟩, aimed⟩
  rw [← kept]
  rfl

theorem act (shadows : Shadows t u) (i : Nat) (choice : Choice) :
    Shadows (t.task (.act i choice)) (u.task (.act i choice)) := by
  obtain ⟨routes, delivered, same, rfl⟩ := shadows.state
  have threads : (t.alone routes delivered).pool.threads[i]? = t.pool.threads[i]? := rfl
  simp only [task, System.step, threads]
  cases present : t.pool.threads[i]? with
  | none => exact shadows
  | some r =>
    have target := shadows.aimed r (List.mem_of_getElem? present)
    have moved : (t.alone routes delivered).pool.shared.act i r choice = (t.pool.shared.act i r choice).map fun next =>
        (next.1.reframe routes (t.own frameSource t.pool.shared.received) delivered, next.2) :=
      act_reframe routes _ delivered (by rw [target]; exact same)
    cases acted : t.pool.shared.act i r choice with
    | none =>
      simp only [system, moved, acted]
      exact shadows
    | some next =>
      obtain ⟨d', r'⟩ := next
      obtain ⟨-, sameRoutes, kept, sameTarget⟩ := act_frame acted
      simp only [system, moved, acted]
      refine repool (by rw [sameRoutes]; exact same) kept ?_
      exact System.forall_mem_set shadows.aimed (sameTarget.trans target) i

theorem redispatch (shadows : Shadows t u) (f : AmsDispatcher → AmsDispatcher)
    (frame : ∀ d : AmsDispatcher, (f d).routes = d.routes ∧ (f d).received = d.received)
    (moves : ∀ (d : AmsDispatcher) routes received delivered,
      f (d.reframe routes received delivered) = (f d).reframe routes received delivered) :
    Shadows { t with pool := ⟨f t.pool.shared, t.pool.threads⟩ }
      { u with pool := ⟨f u.pool.shared, u.pool.threads⟩ } := by
  obtain ⟨routes, delivered, same, rfl⟩ := shadows.state
  obtain ⟨sameRoutes, kept⟩ := frame t.pool.shared
  have moved : f (t.alone routes delivered).pool.shared =
      (f t.pool.shared).reframe routes (t.own frameSource t.pool.shared.received) delivered := moves ..
  rw [moved]
  exact repool (by rw [sameRoutes]; exact same) kept shadows.aimed

theorem sink (shadows : Shadows t (t.alone routes delivered)) (mine : t.owns sender)
     (given : d'.delivered = t.pool.shared.delivered ++ gets)
    (same : routes.lookup t.descriptor.amsNetId = d'.routes.lookup t.descriptor.amsNetId) :
    Shadows (t.sink sender d') ((t.alone routes delivered).sink sender
      (d'.reframe routes (t.own frameSource d'.received) (delivered ++ gets))) := by
  refine ⟨⟨routes, delivered ++ gets, same, ?_⟩, shadows.aimed⟩
  have kept : t.own Stamp.sender (t.stamps ++ stampsOf sender (gets.flatMap sinkSamples)) =
      t.own Stamp.sender t.stamps ++ stampsOf sender (gets.flatMap sinkSamples) := by
    rw [own_append, own_stampsOf mine]
  simp only [Target.sink, alone, reframe, given, List.drop_left, own, owns, stampsOf] at kept ⊢
  rw [kept]

theorem tcpFrame (shadows : Shadows t u) (connection : Nat) (body : List UInt8) :
    Shadows (t.task (.tcpFrame connection body)) (u.task (.tcpFrame connection body)) := by
  obtain ⟨routes, delivered, same, rfl⟩ := shadows.state
  obtain ⟨gets, given, sameRoutes, kept, moves⟩ := tcpFrame_reframe t.pool.shared connection body
  have next := shadows.sink (decide_eq_true rfl) given (by rw [sameRoutes]; exact same)
  rw [kept, ← moves] at next
  exact next

/-! ### Steps that take the next of a queue -/

section

variable (shadows : Shadows t u)
include shadows

theorem received (notForeign : t.foreign (.task .received) = false) :
    Shadows (t.task .received) (u.task .received) := by
  obtain ⟨routes, delivered, same, rfl⟩ := shadows.state
  have queue : (t.alone routes delivered).pool.shared.received = t.own frameSource t.pool.shared.received := rfl
  cases first : t.pool.shared.received with
  | nil =>
    simp only [task, queue, first]
    exact shadows
  | cons frame later =>
    have mine : t.owns (frameSource frame) := by simpa [foreign, first] using notForeign
    -- then it is first in the queue of the other run, too
    rw [first, own_cons mine] at queue
    obtain ⟨gets, given, sameRoutes, kept, moves⟩ := handleReceived_reframe first
    have moved : (t.alone routes delivered).pool.shared.handleReceived =
        t.pool.shared.handleReceived.reframe routes (t.own frameSource later) (delivered ++ gets) := by
      rw [← moves, ← queue]
      rfl
    have next := shadows.sink mine given (by rw [sameRoutes]; exact same)
    rw [kept, ← moved] at next
    simp only [task, queue, first]
    exact next

/-- A frame of another host that answers no call leaves the target as it is alone. -/
theorem received_foreign (other : t.foreign (.task .received) = true)
    (undisturbed : t.Undisturbed (.task .received)) : Shadows (t.task .received) u := by
  obtain ⟨routes, delivered, same, rfl⟩ := shadows.state
  cases first : t.pool.shared.received with
  | nil => simp [foreign, first] at other
  | cons frame later =>
    have notMine : ¬t.owns (frameSource frame) := by simpa [foreign, first] using other
    have unasked := undisturbed frame (by rw [first]; rfl) notMine
    obtain ⟨gets, handled⟩ := handleReceived_of_not_answers first unasked
    simp only [task, first, handled]
    refine ⟨⟨routes, delivered, same, ?_⟩, shadows.aimed⟩
    -- neither the frame nor its samples are there in the other run
    have queue : t.own frameSource t.pool.shared.received = t.own frameSource later := by
      rw [first, own_cons_foreign notMine]
    have dropped : t.own Stamp.sender (t.stamps ++ stampsOf (frameSource frame) (gets.flatMap sinkSamples)) =
        t.own Stamp.sender t.stamps := by
      rw [own_append, own_stampsOf_foreign notMine, List.append_nil]
    simp only [Target.sink, alone, reframe, List.drop_left, own, owns, stampsOf] at queue dropped ⊢
    rw [queue, dropped]

theorem mqtt (notForeign : t.foreign (.task .mqtt) = false)
    (undisturbed : t.Undisturbed (.task .mqtt)) : Shadows (t.task .mqtt) (u.task .mqtt) := by
  obtain ⟨routes, delivered, same, rfl⟩ := shadows.state
  have queue : (t.alone routes delivered).inbox = t.own Publication.sender t.inbox := rfl
  cases first : t.inbox with
  | nil =>
    simp only [task, queue, first]
    exact shadows
  | cons p later =>
    have mine : t.owns p.sender := by simpa [foreign, first] using notForeign
    have honest := undisturbed p (by rw [first]; rfl)
    rw [first, own_cons mine] at queue
    simp only [task, first, queue, System.step, system]
    cases broker : t.pool.shared.mqtt with
    | none =>
      have brokerThere : (t.alone routes delivered).pool.shared.mqtt = none := broker
      rw [ambient_mqtt_of_none broker, ambient_mqtt_of_none brokerThere]
      exact ⟨⟨routes, delivered, same, rfl⟩, shadows.aimed⟩
    | some topicPrefix =>
      have brokerThere : (t.alone routes delivered).pool.shared.mqtt = some topicPrefix := broker
      rw [ambient_mqtt_eq_reframe broker, ambient_mqtt_eq_reframe brokerThere]
      have learned := lookup_routesAfter_congr same t.pool.shared.sourceNetId topicPrefix p.topic p.payload
      refine ⟨⟨_, delivered, learned, ?_⟩, shadows.aimed⟩
      -- what the target publishes under its own address stays in the queue
      have fromTarget : ∀ frame ∈ framesIn p.topic p.payload, t.owns (frameSource frame) := by
        intro frame member
        rwa [honest.frameSource_eq broker member]
      have kept := own_append t frameSource t.pool.shared.received (framesIn p.topic p.payload)
      rw [own_eq_self fromTarget] at kept
      simp only [alone, reframe, own, owns] at kept ⊢
      rw [kept]

/-- What another host publishes under its own address concerns only that host's route. -/
theorem mqtt_foreign (other : t.foreign (.task .mqtt) = true)
    (undisturbed : t.Undisturbed (.task .mqtt)) : Shadows (t.task .mqtt) u := by
  obtain ⟨routes, delivered, same, rfl⟩ := shadows.state
  cases first : t.inbox with
  | nil => simp [foreign, first] at other
  | cons p later =>
    have notMine : ¬t.owns p.sender := by simpa [foreign, first] using other
    have honest := undisturbed p (by rw [first]; rfl)
    have queue : t.own Publication.sender t.inbox = t.own Publication.sender later := by
      rw [first, own_cons_foreign notMine]
    simp only [task, first, System.step, system]
    cases broker : t.pool.shared.mqtt with
    | none =>
      rw [ambient_mqtt_of_none broker]
      refine ⟨⟨routes, delivered, same, ?_⟩, shadows.aimed⟩
      simp only [alone, own, owns] at queue ⊢
      rw [queue]
    | some topicPrefix =>
      rw [ambient_mqtt_eq_reframe broker]
      have elsewhere : attributed topicPrefix p.topic p.payload ≠ some t.descriptor.amsNetId := by
        intro here
        exact notMine (decide_eq_true (honest topicPrefix broker _ here).symm)
      have sameRoute := lookup_routesAfter_of_ne elsewhere t.pool.shared.sourceNetId t.pool.shared.routes
      refine ⟨⟨routes, delivered, same.trans sameRoute.symm, ?_⟩, shadows.aimed⟩
      -- nor is a frame in it one of the target's
      have notFromTarget : ∀ frame ∈ framesIn p.topic p.payload, ¬t.owns (frameSource frame) := by
        intro frame member
        rwa [honest.frameSource_eq broker member]
      have dropped := own_append t frameSource t.pool.shared.received (framesIn p.topic p.payload)
      rw [own_eq_nil notFromTarget, List.append_nil] at dropped
      simp only [alone, reframe, own, owns] at dropped queue ⊢
      rw [dropped, queue]

theorem notify (now : DateTime) (notForeign : t.foreign (.task (.notify now)) = false) :
    Shadows (t.task (.notify now)) (u.task (.notify now)) := by
  obtain ⟨routes, delivered, same, rfl⟩ := shadows.state
  have queue : (t.alone routes delivered).stamps = t.own Stamp.sender t.stamps := rfl
  simp only [task, shadows.stage]
  cases t.stage.notifying with
  | false => exact shadows
  | true =>
    cases first : t.stamps with
    | nil =>
      rw [first] at queue
      simp only [queue]
      exact shadows
    | cons stamp later =>
      have mine : t.owns stamp.sender := by simpa [foreign, first] using notForeign
      rw [first, own_cons mine] at queue
      simp only [queue]
      exact ⟨⟨routes, delivered, same, rfl⟩, shadows.aimed⟩

theorem notify_foreign (now : DateTime) (other : t.foreign (.task (.notify now)) = true)
    (undisturbed : t.Undisturbed (.task (.notify now))) : Shadows (t.task (.notify now)) u := by
  obtain ⟨routes, delivered, same, rfl⟩ := shadows.state
  simp only [task]
  cases t.stage.notifying with
  -- samples wait in the channel until the notifier runs
  | false => exact shadows
  | true =>
    cases first : t.stamps with
    | nil => simp [foreign, first] at other
    | cons stamp later =>
      have notMine : ¬t.owns stamp.sender := by simpa [foreign, first] using other
      have refused := undisturbed stamp (by rw [first]; rfl) notMine
      have nothing : t.notifier.dispatchSample now stamp.sample = none := by
        have not := (t.notifier.dispatchSample_isSome_iff now stamp.sample).not.mpr refused
        simpa using not
      have queue : t.own Stamp.sender t.stamps = t.own Stamp.sender later := by rw [first, own_cons_foreign notMine]
      refine ⟨⟨routes, delivered, same, ?_⟩, shadows.aimed⟩
      simp only [alone, nothing, Option.toList_none, List.append_nil, own, owns] at queue ⊢
      rw [queue]

theorem arrive (notForeign : t.foreign (.arrive p) = false) : Shadows (t.arrive p) (u.arrive p) := by
  obtain ⟨routes, delivered, same, rfl⟩ := shadows.state
  have mine : t.owns p.sender := by simpa [foreign] using notForeign
  have broker : (t.alone routes delivered).pool.shared.mqtt = t.pool.shared.mqtt := rfl
  have netId : (t.alone routes delivered).pool.shared.sourceNetId = t.pool.shared.sourceNetId := rfl
  simp only [Target.arrive, broker, netId]
  split
  · exact shadows
  split
  · refine ⟨⟨routes, delivered, same, ?_⟩, shadows.aimed⟩
    have kept := own_append t Publication.sender t.inbox [p]
    rw [own_cons mine] at kept
    simp only [alone, own, owns] at kept ⊢
    rw [kept]
    rfl
  · exact shadows

theorem arrive_foreign (other : t.foreign (.arrive p) = true) : Shadows (t.arrive p) u := by
  obtain ⟨routes, delivered, same, rfl⟩ := shadows.state
  have notMine : ¬t.owns p.sender := by simpa [foreign] using other
  unfold Target.arrive
  split
  · exact shadows
  split
  · refine ⟨⟨routes, delivered, same, ?_⟩, shadows.aimed⟩
    have dropped := own_append t Publication.sender t.inbox [p]
    rw [own_cons_foreign notMine] at dropped
    simp only [alone, own, owns, List.filter_nil, List.append_nil] at dropped ⊢
    rw [dropped]
  · exact shadows

end

/-! ### All steps -/

theorem skips (shadows : Shadows t u) (other : t.foreign event = true)
    (undisturbed : t.Undisturbed event) : Shadows (t.step event) u := by
  cases event with
  | arrive p => exact shadows.arrive_foreign other
  | task event =>
    cases event with
    | mqtt => exact shadows.mqtt_foreign other undisturbed
    | received => exact shadows.received_foreign other undisturbed
    | notify now => exact shadows.notify_foreign now other undisturbed
    | _ => cases other

theorem follows (shadows : Shadows t u) (notForeign : t.foreign event = false)
    (undisturbed : t.Undisturbed event) : Shadows (t.step event) (u.step event) := by
  cases event with
  | arrive p => exact shadows.arrive notForeign
  | task event =>
    cases event with
    | mqtt => exact shadows.mqtt notForeign undisturbed
    | received => exact shadows.received notForeign
    | tcpFrame connection body => exact shadows.tcpFrame connection body
    | tcpClosed connection =>
      exact shadows.redispatch (fun d => d.tcpClosed connection) (fun d => (d.tcpClosed_frame connection).2)
        fun d routes received delivered => tcpClosed_reframe routes received delivered connection
    | readerExit connection =>
      exact shadows.redispatch (fun d => d.readerExit connection) (fun d => (d.readerExit_frame connection).2)
        fun d routes received delivered => readerExit_reframe routes received delivered connection
    | act i choice => exact shadows.act i choice
    | poll j => exact shadows.poll j
    | rebuild choice => exact shadows.rebuild choice
    | notify now => exact shadows.notify now notForeign

end Shadows

end Target

namespace Bridge

/-- What the target at this place does of its own, or takes of what it has sent itself. -/
def ownEvents (b : Bridge) (k : Nat) (schedule : List BridgeEvent) : List TargetEvent :=
  match b.targets[k]? with
  | none => []
  | some t => purge Target.step Target.foreign t (eventsFor k schedule)

/-- Nothing in this run reaches into the target from outside. -/
def Undisturbed (b : Bridge) (k : Nat) (schedule : List BridgeEvent) : Prop :=
  ∀ t ∈ b.targets[k]?, Allowed Target.step Target.Undisturbed t (eventsFor k schedule)
deriving Decidable

def emittedFor (b : Bridge) (k : Nat) : List MetricEntry :=
  match b.targets[k]? with
  | none => []
  | some t => t.emitted

def sampleNetId : AmsNetId := .fromBytes 10 10 10 10 1 1
def samplePlc : AmsNetId := .fromBytes 5 9 8 7 1 1
def sampleOtherPlc : AmsNetId := .fromBytes 5 9 8 8 1 1

def sampleDef (netId : String) : CustomMetricDef :=
  ⟨"GVL.a", "plc.a", "", "", .gauge, false, .notification, some netId, none, none, some ⟨0, 10000, 5000, .onChange⟩⟩

def sampleBridge : Bridge := start sampleNetId "AdsOverMqtt" [sampleDef "5.9.8.7.1.1", sampleDef "5.9.8.8.1.1"]

/-- The target at the front takes the next publication and the frame in it. -/
def sampleTake : List BridgeEvent := [.task 0 .mqtt, .task 0 .received]

/-- The PLC answers the call at this place, whose invoke id is the next number. -/
def sampleAnswer (i : Nat) (cmd : UInt16) (body : List UInt8) : List BridgeEvent :=
  List.replicate 4 (.task 0 (.act i .succeed)) ++ [.publish ⟨samplePlc, "AdsOverMqtt/5.9.8.7.1.1/ams/res",
    buildAmsFrame sampleNetId defaultSourcePort samplePlc defaultAmsPort cmd 5 (UInt32.ofNat (i + 1)) body⟩] ++
    sampleTake ++ [.task 0 (.act i .succeed), .task 0 (.rebuild ⟨false, none⟩)]

/-- The only symbol of the PLC, a `BOOL`. -/
def sampleSymbols : List UInt8 :=
  leBytes 4 42 ++ leBytes 4 0x4040 ++ leBytes 4 0 ++ leBytes 4 1 ++ leBytes 4 33 ++ leBytes 4 0 ++ leBytes 2 5 ++
    leBytes 2 4 ++ leBytes 2 0 ++ utf8Bytes "GVL.a" ++ [0] ++ utf8Bytes "BOOL" ++ [0, 0]

/-- The PLC announces itself, and the bridge subscribes to its symbol, which gets the handle 7. -/
def sampleSetup : List BridgeEvent :=
  [.publish ⟨samplePlc, "AdsOverMqtt/5.9.8.7.1.1/info", utf8Bytes "<online>true</online>"⟩, .task 0 .mqtt] ++
    List.replicate 3 (.task 0 (.rebuild ⟨false, none⟩)) ++
    sampleAnswer 0 adsCmdRead (leBytes 4 0 ++ leBytes 4 24 ++ leBytes 4 1 ++ leBytes 4 42 ++ List.replicate 16 0) ++
    sampleAnswer 1 adsCmdRead (leBytes 4 0 ++ leBytes 4 42 ++ sampleSymbols) ++
    [.task 0 (.rebuild ⟨false, none⟩)] ++ sampleAnswer 2 adsCmdAddNotification (leBytes 4 0 ++ leBytes 4 7)

/-- A PLC sends a sample with this handle to the bridge, and the target at the front takes it. -/
def sampleNotification (plc : AmsNetId) (handle : Nat) : List BridgeEvent :=
  .publish ⟨plc, "AdsOverMqtt/10.10.10.10.1.1/ams",
    buildAmsFrame sampleNetId defaultSourcePort plc defaultAmsPort adsCmdNotification 4 0
      (leBytes 4 25 ++ leBytes 4 1 ++ leBytes 8 0 ++ leBytes 4 1 ++ leBytes 4 handle ++ leBytes 4 1 ++ [1])⟩ ::
    sampleTake ++ [.task 0 (.notify ⟨0, 0⟩)]

end Bridge

end TcOtel.Service
