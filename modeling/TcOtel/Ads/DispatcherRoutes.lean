import TcOtel.Ads.DispatcherFrames
import TcOtel.Lib.Refinement

/-!
# Routes and connections of the dispatcher

Which steps change the route of a host, and what the end of a reader task does to the map of the
TCP connections.

A route to TCP that was forced is lost as soon as the host is announced on its topic `/info`, and
by nothing else that comes from the broker (`forced_overTcp_iff`). A reader that ends removes
whatever connection the map has for its host (`readerExit_removesOnlyOwn_iff`).
-/

namespace TcOtel.Ads.AmsDispatcher

open Decoding Pools

variable {d d' : AmsDispatcher} {r r' : Request} {i : Nat} {choice : Choice}

/-! ### Routes -/

section

variable (d : AmsDispatcher)

theorem handleReceived_routes : d.handleReceived.mqtt = d.mqtt ∧ d.handleReceived.routes = d.routes := by
  unfold handleReceived
  split
  · exact ⟨rfl, rfl⟩
  dsimp only
  split
  · split
    · exact ⟨rfl, rfl⟩
    · obtain ⟨mqtt, routes, -⟩ := resolve_frame { d with received := _ } _
      exact ⟨mqtt, routes⟩
  · exact ⟨rfl, rfl⟩

theorem tcpFrame_routes (connection : Nat) (body : List UInt8) :
    (d.tcpFrame connection body).mqtt = d.mqtt ∧ (d.tcpFrame connection body).routes = d.routes := by
  unfold tcpFrame
  split
  · split
    · exact ⟨rfl, rfl⟩
    split
    · exact ⟨rfl, rfl⟩
    split
    · obtain ⟨mqtt, routes, -⟩ := resolve_frame d _
      exact ⟨mqtt, routes⟩
    · exact ⟨rfl, rfl⟩
  · exact ⟨rfl, rfl⟩

end

/-- A publication that says that a host is online, or that it is not. -/
def Announces (topicPrefix : String) (netId : AmsNetId) (topic : String) (payload : List UInt8) : Prop :=
  endsWith topic "/info" = true ∧ topicNetId topic topicPrefix = some netId ∧ parseInfoXml payload ≠ none

theorem lookup_learnIfAbsent {routes : HashMap AmsNetId TransportKind}
    (known : routes.lookup netId = some kind) (source : AmsNetId) (other : TransportKind) :
    (learnIfAbsent routes source other).lookup netId = some kind := by
  unfold learnIfAbsent
  split
  · exact known
  next absent =>
    -- the host that is learned had no route, so it is another one
    have differs : netId ≠ source := by
      rintro rfl
      exact absent (Finmap.mem_of_lookup_eq_some known)
    rw [Finmap.lookup_insert_of_ne _ differs, known]

/-- A publication takes a host from TCP just when it announces that host. -/
theorem incomingMqtt_lookup_iff (forced : d.routes.lookup netId = some .tcp) :
    (d.incomingMqtt topicPrefix topic payload).routes.lookup netId = some .tcp ↔
      ¬Announces topicPrefix netId topic payload := by
  rw [incomingMqtt_eq_reframe]
  show (routesAfter d.sourceNetId topicPrefix topic payload d.routes).lookup netId = _ ↔ _
  by_cases info : endsWith topic "/info"
  · by_cases onTopic : topicNetId topic topicPrefix = some netId
    · rw [routesAfter, if_pos info, onTopic]
      cases said : parseInfoXml payload with
      | none => exact iff_of_true forced (fun announces => announces.2.2 said)
      | some online =>
        -- the route is through the broker now, or there is none any more
        refine iff_of_false ?_ (fun quiet => quiet ⟨info, onTopic, by simp [said]⟩)
        cases online <;> simp
    · have other : attributed topicPrefix topic payload ≠ some netId := by rwa [attributed, if_pos info]
      rw [lookup_routesAfter_of_ne other]
      exact iff_of_true forced (fun announces => onTopic announces.2.1)
  · refine iff_of_true ?_ (fun announces => info announces.1)
    rw [routesAfter, if_neg info]
    split
    · exact forced
    split
    · exact forced
    split
    · exact lookup_learnIfAbsent forced _ _
    · exact forced

/-- A call to the host that looks up its route now goes over TCP. -/
def OverTcp (netId : AmsNetId) (p : Pool AmsDispatcher Request) : Prop :=
  ∀ i r choice, r.targetNetId = netId → r.stage = .entered →
    p.shared.act i r choice = some (p.shared, { r with stage := .routed .tcp })

theorem overTcp_iff (netId : AmsNetId) (p : Pool AmsDispatcher Request) :
    OverTcp netId p ↔ p.shared.routes.lookup netId = some .tcp := by
  constructor
  · intro goes
    have routed := goes 0 ⟨netId, 0, 0, [], .entered⟩ .succeed rfl rfl
    simp only [act] at routed
    split at routed
    · simp at routed
    next kind found =>
      simp only [Option.some.injEq, Prod.mk.injEq, Request.mk.injEq, RequestStage.routed.injEq, true_and] at routed
      rw [found, routed]
  · intro forced i r choice own entered
    rw [← own] at forced
    simp [act, entered, forced]

def SetsRoute : Event Call Choice DispatcherEvent → Prop
  | .ambient (.addStaticRoute ..) | .ambient (.addTcpPeer ..) | .ambient (.forceTcpPeer ..) => True
  | _ => False

def IsAnnouncement (mqtt : Option String) (netId : AmsNetId) : Event Call Choice DispatcherEvent → Prop
  | .ambient (.mqtt topic payload) => ∃ topicPrefix, mqtt = some topicPrefix ∧ Announces topicPrefix netId topic payload
  | _ => False

theorem step_overTcp_iff (forced : p.shared.routes.lookup netId = some .tcp) (notSet : ¬SetsRoute event) :
    (system.step p event).shared.mqtt = p.shared.mqtt ∧
      ((system.step p event).shared.routes.lookup netId = some .tcp ↔ ¬IsAnnouncement p.shared.mqtt netId event) := by
  have unchanged {d : AmsDispatcher} (mqtt : d.mqtt = p.shared.mqtt) (routes : d.routes = p.shared.routes) :
      d.mqtt = p.shared.mqtt ∧ (d.routes.lookup netId = some .tcp ↔ ¬False) :=
    ⟨mqtt, iff_of_true (by rw [routes, forced]) id⟩
  cases event with
  | start call => exact unchanged rfl rfl
  | act i choice =>
    rcases system.act_or_idle p i choice with ⟨same, -⟩ | ⟨r, d', r', present, acted, stepped⟩
    · rw [same]
      exact unchanged rfl rfl
    · obtain ⟨mqtt, routes, -⟩ := act_frame acted
      rw [stepped]
      exact unchanged mqtt routes
  | ambient event =>
    cases event with
    | mqtt topic payload =>
      cases attached : p.shared.mqtt with
      | none =>
        have same : system.step p (.ambient (.mqtt topic payload)) = p := by
          simp [System.step, system, ambient, attached]
        rw [same]
        refine ⟨attached, iff_of_true forced ?_⟩
        rintro ⟨topicPrefix, known, -⟩
        cases known
      | some topicPrefix =>
        have stepped : (system.step p (.ambient (.mqtt topic payload))).shared =
            p.shared.incomingMqtt topicPrefix topic payload := by
          simp [System.step, system, ambient, attached]
        rw [stepped, incomingMqtt_lookup_iff forced]
        refine ⟨?_, not_congr ⟨fun said => ⟨topicPrefix, rfl, said⟩, ?_⟩⟩
        · rw [← attached, incomingMqtt_eq_reframe]
          rfl
        · rintro ⟨other, same, said⟩
          cases same
          exact said
    | received =>
      obtain ⟨mqtt, routes⟩ := handleReceived_routes p.shared
      exact unchanged mqtt routes
    | tcpFrame connection body =>
      obtain ⟨mqtt, routes⟩ := tcpFrame_routes p.shared connection body
      exact unchanged mqtt routes
    | tcpClosed connection =>
      obtain ⟨mqtt, routes, -⟩ := tcpClosed_frame p.shared connection
      exact unchanged mqtt routes
    | readerExit connection =>
      obtain ⟨mqtt, routes, -⟩ := readerExit_frame p.shared connection
      exact unchanged mqtt routes
    | addStaticRoute | addTcpPeer | forceTcpPeer => exact absurd trivial notSet

theorem overTcp_throughout_iff (notSet : ∀ event ∈ schedule, ¬SetsRoute event)
    (forced : p.shared.routes.lookup netId = some .tcp) :
    Refining.Throughout (fun before => OverTcp netId (system.run p before)) schedule ↔
      ∀ event ∈ schedule, ¬IsAnnouncement p.shared.mqtt netId event := by
  induction schedule generalizing p with
  | nil =>
    refine iff_of_true ?_ (by simp)
    intro before initial
    rw [List.prefix_nil.mp initial]
    exact (overTcp_iff netId p).mpr forced
  | cons event schedule ih =>
    obtain ⟨mqtt, here⟩ := step_overTcp_iff forced (notSet event List.mem_cons_self)
    have later := fun q => ih (fun e member => notSet e (List.mem_cons_of_mem _ member)) (p := q)
    rw [Refining.throughout_cons, List.forall_mem_cons, ← here, ← mqtt]
    constructor
    · rintro ⟨-, rest⟩
      have still := (overTcp_iff netId _).mp (rest [] List.nil_prefix)
      exact ⟨still, (later _ still).mp rest⟩
    · rintro ⟨still, quiet⟩
      exact ⟨(overTcp_iff netId p).mpr forced, (later _ still).mpr quiet⟩

def samplePlc : AmsNetId := .fromBytes 5 9 8 7 1 1

def sampleDispatcher : Pool AmsDispatcher Request := start (.fromBytes 10 10 10 10 1 1) 30010 (some "AdsOverMqtt")

/-- The retained announcement of a PLC. -/
def sampleAnnouncement : Event Call Choice DispatcherEvent :=
  .ambient (.mqtt "AdsOverMqtt/5.9.8.7.1.1/info" (utf8Bytes "<info><online name=\"x\">true</online></info>"))

/-- The end of the reader leaves every other connection where it is in the map. -/
def RemovesOnlyOwn (d : AmsDispatcher) (connection : Nat) : Prop :=
  ∀ netId other, other ≠ connection → d.peers.lookup netId = some other →
    (d.readerExit connection).peers.lookup netId = some other

/-- In every state that is reached, a reader that ends leaves the other connections just when no
other connection has taken its place in the map. -/
theorem readerExit_removesOnlyOwn_iff (sourceNetId : AmsNetId) (sourcePort : UInt16) (mqtt : Option String)
    (schedule : List (Event Call Choice DispatcherEvent)) (connection : Nat) (target : AmsNetId)
    (ending : (system.run (start sourceNetId sourcePort mqtt) schedule).shared.readers[connection]? = some ⟨target, .ending⟩) :
    RemovesOnlyOwn (system.run (start sourceNetId sourcePort mqtt) schedule).shared connection ↔
      ∀ other, (system.run (start sourceNetId sourcePort mqtt) schedule).shared.peers.lookup target = some other →
        other = connection := by
  generalize (system.run (start sourceNetId sourcePort mqtt) schedule).shared = d at ending ⊢
  have removed : (d.readerExit connection).peers = d.peers.erase target := by
    simp [readerExit, ending]
  constructor
  · intro only other registered
    by_contra differs
    have still := only target other differs registered
    rw [removed, Finmap.lookup_erase] at still
    cases still
  · intro own netId other differs registered
    have elsewhere : netId ≠ target := by
      rintro rfl
      exact differs (own other registered)
    rw [removed, Finmap.lookup_erase_ne elsewhere, registered]

def dial (call : Nat) : List (Event Call Choice DispatcherEvent) := List.replicate 6 (.act call .succeed)

/-- Two calls find no connection and both dial; then the first connection ends. -/
def sampleDials : List (Event Call Choice DispatcherEvent) :=
  [.ambient (.addTcpPeer samplePlc "10.0.0.5:48898"), .start ⟨samplePlc, 851, adsCmdRead, []⟩,
    .start ⟨samplePlc, 851, adsCmdRead, []⟩] ++ dial 0 ++ dial 1 ++ [.act 0 .succeed, .act 1 .succeed, .ambient (.tcpClosed 0)]

def sampleDial : List (Event Call Choice DispatcherEvent) :=
  [.ambient (.addTcpPeer samplePlc "10.0.0.5:48898"), .start ⟨samplePlc, 851, adsCmdRead, []⟩] ++ dial 0 ++
    [.act 0 .succeed, .ambient (.tcpClosed 0)]

theorem readerExit_removesOnlyOwn_iff_sample :
    RemovesOnlyOwn (system.run (start ⟨[10, 10, 10, 10, 1, 1], rfl⟩ 30010 none) sampleDial).shared 0 :=
  (readerExit_removesOnlyOwn_iff _ _ _ sampleDial 0 samplePlc (by decide +kernel)).mpr (by
    have registered : (system.run (start ⟨[10, 10, 10, 10, 1, 1], rfl⟩ 30010 none) sampleDial).shared.peers.lookup samplePlc =
      some 0 := by decide +kernel
    intro other same
    exact (Option.some.inj same).symm)

/-- The end of the first connection removes the second one, which is still open. -/
theorem sampleDials_not_removesOnlyOwn :
    (system.run (start ⟨[10, 10, 10, 10, 1, 1], rfl⟩ 30010 none) sampleDials).shared.readers[0]? =
        some ⟨samplePlc, .ending⟩ ∧
      (system.run (start ⟨[10, 10, 10, 10, 1, 1], rfl⟩ 30010 none) sampleDials).shared.readers[1]? =
        some ⟨samplePlc, .reading⟩ ∧
      ¬RemovesOnlyOwn (system.run (start ⟨[10, 10, 10, 10, 1, 1], rfl⟩ 30010 none) sampleDials).shared 0 := by
  refine ⟨by decide +kernel, by decide +kernel, fun only => ?_⟩
  have still := only samplePlc 1 (by decide) (by decide +kernel)
  exact absurd still (by decide +kernel)

end TcOtel.Ads.AmsDispatcher
