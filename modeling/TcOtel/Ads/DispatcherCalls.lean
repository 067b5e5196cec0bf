import TcOtel.Ads.DispatcherFrames
import TcOtel.Lib.Refinement

/-!
# Which frame resolves which call

A call waits under its invoke id, and a response is given to the call under its invoke id. The map
never has a call that was resolved before, and it has every call under the id that the call was
sent with (`Waits`). So a call is resolved at most once, by a response with its own id.

Nothing compares where the response comes from or what command it answers. That is right just when
every response that finds a call comes from the call's target (`resolved_once_matching_iff`).
-/

namespace TcOtel.Ads.AmsDispatcher

open Decoding Pools

/-! ### What a response does -/

/-- The response with which an event looks for a call: the first frame of the broker, when it is
for this dispatcher, or a frame of a connection that is still read. -/
def responseOf (d : AmsDispatcher) : DispatcherEvent → Option ResponseFrame
  | .received =>
    match d.received with
    | [] => none
    | frame :: _ =>
      if frame.header.isResponse ∧ frame.header.targetNetId = d.sourceNetId ∧ frame.header.targetPort = d.sourcePort then
        some frame
      else none
  | .tcpFrame connection body =>
    match d.readers[connection]?, AmsHeader.parse body with
    | some ⟨_, .reading⟩, .ok header =>
      if readerAccepts body.length ∧ header.isResponse then some ⟨header, body.drop 32⟩ else none
    | _, _ => none
  | _ => none

/-- All that an event outside of the calls can do to the map and to what was resolved. -/
inductive Resolution (d : AmsDispatcher) (event : DispatcherEvent) (d' : AmsDispatcher) : Prop where
  | none (missed : ∀ frame, d.responseOf event = some frame → d.pending.lookup frame.header.invokeId = none)
      (pending : d'.pending = d.pending) (resolved : d'.resolved = d.resolved)
  | found (frame : ResponseFrame) (i : Nat) (response : d.responseOf event = some frame)
      (waits : d.pending.lookup frame.header.invokeId = some i)
      (pending : d'.pending = d.pending.erase frame.header.invokeId) (resolved : d'.resolved = d.resolved ++ [(i, frame)])

variable {d : AmsDispatcher} {event : DispatcherEvent}

theorem resolution_of_noResponse (nothing : d.responseOf event = none)
    (pending : d'.pending = d.pending) (resolved : d'.resolved = d.resolved) : Resolution d event d' :=
  .none (fun frame response => by rw [nothing] at response; cases response) pending resolved

theorem resolution_of_response {e : AmsDispatcher} (response : d.responseOf event = some frame)
    (pending : e.pending = d.pending) (resolved : e.resolved = d.resolved) : Resolution d event (e.resolve frame) := by
  cases waits : d.pending.lookup frame.header.invokeId with
  | none =>
    have same : e.resolve frame = e := by simp only [resolve, pending, waits]
    rw [same]
    refine .none (fun other found => ?_) pending resolved
    cases response.symm.trans found
    exact waits
  | some i =>
    refine .found frame i response waits ?_ ?_ <;> simp only [resolve, pending, resolved, waits]

theorem handleReceived_resolution (d : AmsDispatcher) : Resolution d .received d.handleReceived := by
  cases waiting : d.received with
  | nil =>
    have same : d.handleReceived = d := by simp only [handleReceived, waiting]
    rw [same]
    exact resolution_of_noResponse (by simp only [responseOf, waiting]) rfl rfl
  | cons frame later =>
    simp only [handleReceived, waiting]
    split
    next response =>
      split
      next foreign =>
        refine resolution_of_noResponse ?_ rfl rfl
        simp only [responseOf, waiting]
        rw [if_neg]
        rintro ⟨-, netId, port⟩
        rcases foreign with other | other
        · exact other netId
        · exact other port
      next own =>
        have ours := not_or.mp own
        refine resolution_of_response ?_ rfl rfl
        simp only [responseOf, waiting]
        rw [if_pos ⟨response, not_not.mp ours.1, not_not.mp ours.2⟩]
    next request =>
      -- what is no response goes to the sink
      refine resolution_of_noResponse ?_ rfl rfl
      simp only [responseOf, waiting]
      rw [if_neg (fun all => request all.1)]

theorem tcpFrame_resolution (d : AmsDispatcher) (connection : Nat) (body : List UInt8) :
    Resolution d (.tcpFrame connection body) (d.tcpFrame connection body) := by
  unfold tcpFrame
  split
  next target reading =>
    split
    next tooLong =>
      refine resolution_of_noResponse ?_ rfl rfl
      simp only [responseOf]
      split
      · rw [if_neg (fun all => tooLong all.1)]
      · rfl
    next accepted =>
      split
      next malformed => exact resolution_of_noResponse (by simp only [responseOf, reading, malformed]) rfl rfl
      next header parsed =>
        split
        next response =>
          refine resolution_of_response ?_ rfl rfl
          simp only [responseOf, reading, parsed]
          rw [if_pos ⟨not_not.mp accepted, response⟩]
        next request =>
          refine resolution_of_noResponse ?_ rfl rfl
          simp only [responseOf, reading, parsed]
          rw [if_neg (fun all => request all.2)]
  next notReading =>
    refine resolution_of_noResponse ?_ rfl rfl
    simp only [responseOf]
    split
    next target _ reading _ => exact absurd reading (notReading target)
    · rfl

theorem ambient_resolution (d : AmsDispatcher) (event : DispatcherEvent) : Resolution d event (d.ambient event) := by
  cases event with
  | mqtt topic payload =>
    simp only [ambient]
    split
    · exact resolution_of_noResponse rfl rfl rfl
    · rw [incomingMqtt_eq_reframe]
      exact resolution_of_noResponse rfl rfl rfl
  | received => exact d.handleReceived_resolution
  | tcpFrame connection body => exact d.tcpFrame_resolution connection body
  | tcpClosed connection =>
    refine resolution_of_noResponse rfl ?_ ?_ <;> simp only [ambient, tcpClosed] <;> split <;> rfl
  | readerExit connection =>
    refine resolution_of_noResponse rfl ?_ ?_ <;> simp only [ambient, readerExit] <;> split <;> rfl
  | addStaticRoute | addTcpPeer | forceTcpPeer => exact resolution_of_noResponse rfl rfl rfl

/-! ### Calls in the map -/

def Registered (threads : List Request) (i : Nat) (id : UInt32) : Prop :=
  ∃ r, threads[i]? = some r ∧ r.stage.invokeId? = some id ∧ r.stage.beforeMap = false

variable {threads : List Request} {i j : Nat} {id : UInt32} {r r' : Request} {d' : AmsDispatcher} {choice : Choice}

theorem Registered.start (sent : Registered threads i id) (r : Request) : Registered (threads ++ [r]) i id := by
  obtain ⟨r₀, present, known⟩ := sent
  exact ⟨r₀, (List.getElem?_append_left (List.getElem?_eq_some_iff.mp present).1).trans present, known⟩

theorem Registered.act (sent : Registered threads i id) (present : threads[j]? = some r)
    (acted : d.act j r choice = some (d', r')) : Registered (threads.set j r') i id := by
  obtain ⟨r₀, there, known, behind⟩ := sent
  by_cases own : j = i
  · subst own
    cases present.symm.trans there
    refine ⟨r', List.getElem?_set_self (List.getElem?_eq_some_iff.mp there).1, ?_⟩
    cases act_effect acted with
    | routes _ entered | noRoute _ entered =>
      rw [entered] at behind
      cases behind
    | allocates _ routed =>
      rw [routed] at behind
      cases behind
    | registers _ _ allocated =>
      rw [allocated] at behind
      cases behind
    | moves stage _ stays sameId => exact ⟨sameId.trans known, stays⟩
    | dials _ _ connecting =>
      rw [connecting] at known
      exact ⟨known, rfl⟩
    | connects _ _ opened =>
      rw [opened] at known
      exact ⟨known, rfl⟩
    | publishes _ _ _ sameId => exact ⟨sameId.symm.trans known, rfl⟩
    | disconnects _ _ broken =>
      rw [broken] at known
      exact ⟨known, rfl⟩
    | removes _ _ failed =>
      rw [failed] at known
      exact ⟨known, rfl⟩
  · exact ⟨r₀, (List.getElem?_set_ne own).trans there, known, behind⟩

theorem not_registered (present : threads[i]? = some r) (before : r.stage.beforeMap = true) : ¬Registered threads i id := by
  rintro ⟨r₀, there, -, behind⟩
  cases present.symm.trans there
  rw [before] at behind
  cases behind

/-- What holds between the map, the answers and the calls. -/
structure Waits (p : Pool AmsDispatcher Request) : Prop where
  waiting : ∀ id i, p.shared.pending.lookup id = some i → Registered p.threads i id
  answered : ∀ i frame, (i, frame) ∈ p.shared.resolved → Registered p.threads i frame.header.invokeId
  /-- A call in the map has got no answer. -/
  unanswered : ∀ id i, p.shared.pending.lookup id = some i → ∀ frame, (i, frame) ∉ p.shared.resolved
  once : (p.shared.resolved.map Prod.fst).Nodup

namespace Waits

variable {p : Pool AmsDispatcher Request}

theorem of_subset (waits : Waits p)
    (stays : ∀ i id, Registered p.threads i id → Registered threads i id) (resolved : d'.resolved = p.shared.resolved)
    (subset : ∀ id i, d'.pending.lookup id = some i → p.shared.pending.lookup id = some i) : Waits ⟨d', threads⟩ where
  waiting id i found := stays _ _ (waits.waiting id i (subset id i found))
  answered i frame member := stays _ _ (waits.answered i frame (resolved ▸ member))
  unanswered id i found frame member := waits.unanswered id i (subset id i found) frame (resolved ▸ member)
  once := resolved ▸ waits.once

theorem lookup_of_erase {pending : HashMap UInt32 Nat}
    (found : (pending.erase id).lookup other = some i) : pending.lookup other = some i := by
  by_cases same : other = id
  · subst same
    rw [Finmap.lookup_erase] at found
    cases found
  · rwa [Finmap.lookup_erase_ne same] at found

theorem act (waits : Waits p) (present : p.threads[i]? = some r) (acted : p.shared.act i r choice = some (d', r')) :
    Waits ⟨d', p.threads.set i r'⟩ := by
  have stays : ∀ k id, Registered p.threads k id → Registered (p.threads.set i r') k id :=
    fun _ _ sent => sent.act present acted
  cases act_effect acted with
  | registers kind id allocated =>
    -- the call was in the map under no id and has no answer, as it was not registered
    have fresh : ∀ id, ¬Registered p.threads i id := fun id => not_registered present (by rw [allocated]; rfl)
    have here : (p.threads.set i { r with stage := .registered kind id })[i]? = some { r with stage := .registered kind id } :=
      List.getElem?_set_self (List.getElem?_eq_some_iff.mp present).1
    refine ⟨?_, fun k frame member => stays _ _ (waits.answered k frame member), ?_, waits.once⟩
    · intro other k found
      rcases HashMap.lookup_insert_cases found with ⟨rfl, rfl⟩ | older
      · exact ⟨_, here, rfl, rfl⟩
      · exact stays _ _ (waits.waiting other k older)
    · intro other k found frame member
      rcases HashMap.lookup_insert_cases found with ⟨rfl, rfl⟩ | older
      · exact fresh _ (waits.answered i frame member)
      · exact waits.unanswered other k older frame member
  | removes => exact waits.of_subset stays rfl (fun _ _ => lookup_of_erase)
  | routes | noRoute | allocates | moves | dials | connects | publishes | disconnects =>
    exact waits.of_subset stays rfl (fun _ _ found => found)

theorem ambient (waits : Waits p) (event : DispatcherEvent) : Waits ⟨p.shared.ambient event, p.threads⟩ := by
  cases ambient_resolution p.shared event with
  | none _ pending resolved => exact waits.of_subset (fun _ _ => id) resolved (fun id i found => by rwa [pending] at found)
  | found frame i _ found pending resolved =>
    have sent := waits.waiting _ _ found
    refine ⟨?_, ?_, ?_, ?_⟩
    · intro id k later
      rw [pending] at later
      exact waits.waiting id k (lookup_of_erase later)
    · intro k other member
      rw [resolved, List.mem_append, List.mem_singleton] at member
      rcases member with earlier | new
      · exact waits.answered k other earlier
      · cases new
        exact sent
    · intro id k later other member
      rw [pending] at later
      rw [resolved, List.mem_append, List.mem_singleton] at member
      rcases member with earlier | new
      · exact waits.unanswered id k (lookup_of_erase later) other earlier
      · -- the call was in the map under one id only, which is gone
        cases new
        obtain ⟨r₀, there, known, -⟩ := sent
        obtain ⟨r₁, again, same, -⟩ := waits.waiting id i (lookup_of_erase later)
        cases there.symm.trans again
        cases known.symm.trans same
        rw [Finmap.lookup_erase] at later
        cases later
    · rw [resolved, List.map_append, List.nodup_append]
      refine ⟨waits.once, List.nodup_singleton _, ?_⟩
      intro k earlier other new same
      obtain ⟨⟨k', answer⟩, member, rfl⟩ := List.mem_map.mp earlier
      rw [List.map_singleton, List.mem_singleton] at new
      subst new
      subst same
      exact waits.unanswered _ _ found answer member

theorem initial (sourceNetId : AmsNetId) (sourcePort : UInt16) (mqtt : Option String) :
    Waits (AmsDispatcher.start sourceNetId sourcePort mqtt) where
  waiting _ _ found := by cases found
  answered _ _ member := by cases member
  unanswered _ _ _ _ member := by cases member
  once := List.nodup_nil

theorem step (waits : Waits p) (event : Event Call Choice DispatcherEvent) : Waits (system.step p event) := by
  cases event with
  | start call => exact waits.of_subset (fun _ _ sent => sent.start _) rfl (fun _ _ found => found)
  | act i choice =>
    rcases system.act_or_idle p i choice with ⟨same, -⟩ | ⟨r, d', r', present, acted, stepped⟩
    · rwa [same]
    · rw [stepped]
      exact waits.act present acted
  | ambient event => exact waits.ambient event

theorem run (waits : Waits p) (schedule : List (Event Call Choice DispatcherEvent)) : Waits (system.run p schedule) := by
  induction schedule generalizing p with
  | nil => exact waits
  | cons event schedule ih => exact ih (waits.step event)

end Waits

/-! ### Where a response comes from -/

/-- The frame comes from the address that the call was sent to, and answers the call's command. -/
def Matches (threads : List Request) (i : Nat) (frame : ResponseFrame) : Prop :=
  ∃ r, threads[i]? = some r ∧ frame.header.sourceNetId = r.targetNetId ∧ frame.header.sourcePort = r.targetPort ∧
    frame.header.commandId = r.cmd

theorem act_asked (acted : d.act i r choice = some (d', r')) :
    r'.targetNetId = r.targetNetId ∧ r'.targetPort = r.targetPort ∧ r'.cmd = r.cmd := by
  cases act_effect acted <;> exact ⟨rfl, rfl, rfl⟩

theorem matches_step_iff (present : p.threads[i]? = some r)
    (event : Event Call Choice DispatcherEvent) (frame : ResponseFrame) :
    Matches (system.step p event).threads i frame ↔ Matches p.threads i frame := by
  -- the call at the place is there in both states, and asks for the same
  have same : ∃ r', (system.step p event).threads[i]? = some r' ∧ r'.targetNetId = r.targetNetId ∧
      r'.targetPort = r.targetPort ∧ r'.cmd = r.cmd :=
    System.run_stable system (fun r' => r'.targetNetId = r.targetNetId ∧ r'.targetPort = r.targetPort ∧ r'.cmd = r.cmd)
      (fun j s t choice s' t' kept acted => by
        obtain ⟨netId, port, cmd⟩ := act_asked acted
        exact ⟨netId.trans kept.1, port.trans kept.2.1, cmd.trans kept.2.2⟩)
      present ⟨rfl, rfl, rfl⟩ [event]
  obtain ⟨r', later, netId, port, cmd⟩ := same
  simp [Matches, later, present, netId, port, cmd]

/-- Every call that has an answer has it from where it was sent to. -/
def AnsweredByTarget (p : Pool AmsDispatcher Request) : Prop :=
  ∀ i frame, (i, frame) ∈ p.shared.resolved → Matches p.threads i frame

/-- A response that finds a call in this state comes from where the call was sent to. -/
def FromTarget (p : Pool AmsDispatcher Request) : Event Call Choice DispatcherEvent → Prop
  | .ambient event =>
    ∀ frame i, p.shared.responseOf event = some frame → p.shared.pending.lookup frame.header.invokeId = some i →
      Matches p.threads i frame
  | _ => True

theorem answeredByTarget_step_iff (waits : Waits p) (event : Event Call Choice DispatcherEvent) :
    AnsweredByTarget (system.step p event) ↔ AnsweredByTarget p ∧ FromTarget p event := by
  have earlier : ∀ i frame, (i, frame) ∈ p.shared.resolved →
      (Matches (system.step p event).threads i frame ↔ Matches p.threads i frame) := by
    intro i frame member
    obtain ⟨r, present, -⟩ := waits.answered i frame member
    exact matches_step_iff present event frame
  -- without a new answer only the old ones count
  have unchanged (resolved : (system.step p event).shared.resolved = p.shared.resolved) :
      AnsweredByTarget (system.step p event) ↔ AnsweredByTarget p := by
    unfold AnsweredByTarget
    rw [resolved]
    exact ⟨fun all i frame member => (earlier i frame member).mp (all i frame member),
      fun all i frame member => (earlier i frame member).mpr (all i frame member)⟩
  cases event with
  | start call => exact (unchanged rfl).trans (and_iff_left trivial).symm
  | act i choice =>
    refine (unchanged ?_).trans (and_iff_left trivial).symm
    rcases system.act_or_idle p i choice with ⟨same, -⟩ | ⟨r, d', r', present, acted, stepped⟩
    · rw [same]
    · rw [stepped]
      cases act_effect acted <;> rfl
  | ambient event =>
    cases ambient_resolution p.shared event with
    | none missed pending resolved =>
      refine (unchanged resolved).trans (and_iff_left ?_).symm
      intro frame i response found
      rw [missed frame response] at found
      cases found
    | found frame i response found pending resolved =>
      have members : ∀ k other, (k, other) ∈ (system.step p (.ambient event)).shared.resolved ↔
          (k, other) ∈ p.shared.resolved ∨ (k, other) = (i, frame) := by
        intro k other
        show (k, other) ∈ (p.shared.ambient event).resolved ↔ _
        rw [resolved, List.mem_append, List.mem_singleton]
      constructor
      · intro all
        refine ⟨fun k other member => all k other ((members k other).mpr (.inl member)), ?_⟩
        intro other k responded waiting
        cases response.symm.trans responded
        cases found.symm.trans waiting
        exact all i frame ((members i frame).mpr (.inr rfl))
      · rintro ⟨all, here⟩ k other member
        rcases (members k other).mp member with old | new
        · exact all k other old
        · cases new
          exact here frame i response found

/-- For every interleaving: a call is resolved at most once and by a response with its own invoke
id; and it is resolved by the target of the call, for the call's command, just when every response
that finds a call in the map comes from there. -/
theorem resolved_once_matching_iff (sourceNetId : AmsNetId) (sourcePort : UInt16) (mqtt : Option String)
    (schedule : List (Event Call Choice DispatcherEvent)) :
    let p := system.run (start sourceNetId sourcePort mqtt) schedule
    (p.shared.resolved.map Prod.fst).Nodup ∧
      (∀ i frame, (i, frame) ∈ p.shared.resolved →
        ∃ r, p.threads[i]? = some r ∧ r.stage.invokeId? = some frame.header.invokeId) ∧
      (AnsweredByTarget p ↔ Refining.Allowed system.step FromTarget (start sourceNetId sourcePort mqtt) schedule) := by
  have waits := (Waits.initial sourceNetId sourcePort mqtt).run schedule
  refine ⟨waits.once, ?_, ?_⟩
  · intro i frame member
    obtain ⟨r, present, known, -⟩ := waits.answered i frame member
    exact ⟨r, present, known⟩
  · refine (Refining.holds_iff_allowed (fun _ event waits => waits.step event)
      (fun _ event waits => answeredByTarget_step_iff waits event)
      (Waits.initial sourceNetId sourcePort mqtt) schedule).trans (and_iff_right ?_)
    intro i frame member
    cases member

/-- A call to one PLC on the broker, up to where it waits. -/
def sampleCall : List (Event Call Choice DispatcherEvent) :=
  [.ambient (.addStaticRoute (.fromBytes 5 9 8 7 1 1) .mqtt), .start ⟨.fromBytes 5 9 8 7 1 1, 851, adsCmdRead, []⟩] ++
    List.replicate 4 (.act 0 .succeed)

/-- A response of another PLC, to another command, with the invoke id of the first call. -/
def sampleForeignResponse : List UInt8 :=
  buildAmsFrame (.fromBytes 10 10 10 10 1 1) 30010 (.fromBytes 1 2 3 4 1 1) 10000 adsCmdWrite 5 1 [0, 0, 0, 0]

/-- The call returns the payload that the other PLC sent. -/
theorem sampleForeignResponse_not_answeredByTarget :
    let p := system.run (start ⟨[10, 10, 10, 10, 1, 1], rfl⟩ 30010 (some "AdsOverMqtt"))
      (sampleCall ++ [.ambient (.mqtt "AdsOverMqtt/1.2.3.4.1.1/ams/res" sampleForeignResponse), .ambient .received,
        .act 0 .succeed])
    (p.threads.map (fun r => match r.stage with | .done _ (.ok payload) => some payload | _ => none)) = [some [0, 0, 0, 0]] ∧
      ¬AnsweredByTarget p := by
  refine ⟨by decide +kernel, fun all => ?_⟩
  obtain ⟨r, present, netId, -⟩ := all 0 ⟨⟨⟨[10, 10, 10, 10, 1, 1], rfl⟩, 30010, ⟨[1, 2, 3, 4, 1, 1], rfl⟩, 10000, adsCmdWrite, 5,
    4, 0, 1⟩, [0, 0, 0, 0]⟩ (by decide +kernel)
  -- the call asked the first PLC
  have asked := congrArg (Option.map Request.targetNetId) present
  rw [Option.map_some, ← netId] at asked
  exact absurd asked (by decide +kernel)

end TcOtel.Ads.AmsDispatcher
