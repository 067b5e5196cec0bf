import TcOtel.Ads.Dispatcher

/-!
# Frames of other hosts

The broker hands a dispatcher the frames of every host. Those of a host that it has no call to can
change its routes, its queue and what its sink is given, and nothing else as long as they answer no
call. `reframe` is a dispatcher with these three replaced. The lemmas say that each step does the
same to it as to the dispatcher itself.
-/

namespace TcOtel.Ads.AmsDispatcher

open Decoding Pools

variable {d : AmsDispatcher} {frame : ResponseFrame} {later : List ResponseFrame}

/-! ### A dispatcher with other routes and frames -/

/-- What the frames of other hosts change. -/
def reframe (d : AmsDispatcher) (routes : HashMap AmsNetId TransportKind) (received delivered : List ResponseFrame) :
    AmsDispatcher :=
  { d with routes := routes, received := received, delivered := delivered }

/-- `d` becomes `d'`, and `there` is what becomes of it with other routes and frames: the same, and the
sink is given the same. -/
def Reframed (d d' : AmsDispatcher)
    (there : HashMap AmsNetId TransportKind → List ResponseFrame → List ResponseFrame → AmsDispatcher) : Prop :=
  ∃ gets, d'.delivered = d.delivered ++ gets ∧ d'.routes = d.routes ∧ d'.received = d.received ∧
    ∀ routes received delivered, there routes received delivered = d'.reframe routes received (delivered ++ gets)

theorem Reframed.silent
    (given : d'.delivered = d.delivered) (routes : d'.routes = d.routes) (received : d'.received = d.received)
    (same : ∀ routes received delivered, there routes received delivered = d'.reframe routes received delivered) :
    Reframed d d' there :=
  ⟨[], by rw [given, List.append_nil], routes, received, fun _ _ _ => by rw [same, List.append_nil]⟩

theorem act_frame (acted : d.act i r choice = some (d', r')) :
    d'.mqtt = d.mqtt ∧ d'.routes = d.routes ∧ d'.received = d.received ∧ r'.targetNetId = r.targetNetId := by
  cases act_effect acted <;> exact ⟨rfl, rfl, rfl, rfl⟩

section

variable (routes : HashMap AmsNetId TransportKind) (received delivered : List ResponseFrame)

theorem act_reframe (same : routes.lookup r.targetNetId = d.routes.lookup r.targetNetId) :
    (d.reframe routes received delivered).act i r choice =
      (d.act i r choice).map fun next => (next.1.reframe routes received delivered, next.2) := by
  obtain ⟨netId, port, cmd, payload, stage⟩ := r
  cases stage with
  | entered =>
    simp only [act, reframe] at same ⊢
    rw [same]
    cases d.routes.lookup netId <;> rfl
  | registered transport id =>
    cases transport with
    | mqtt =>
      obtain ⟨_, _, _, _, _, mqtt, _, _, _, _, _, _, _⟩ := d
      cases mqtt <;> cases choice <;> rfl
    | tcp =>
      simp only [act, reframe]
      cases d.peers.lookup netId <;> rfl
  | resolving id =>
    simp only [act, reframe]
    cases d.addrs.lookup netId <;> rfl
  | connecting id addr | writing id connection => cases choice <;> rfl
  | waiting id =>
    -- the answers to calls are kept elsewhere
    have answer : (d.reframe routes received delivered).answerFor i = d.answerFor i := rfl
    simp only [act, answer]
    cases d.answerFor i with
    | some _ => rfl
    | none =>
      by_cases closed : d.pending.lookup id ≠ some i
      · have closedThere : (d.reframe routes received delivered).pending.lookup id ≠ some i := closed
        rw [if_pos closed, if_pos closedThere]
        rfl
      · have openThere : ¬(d.reframe routes received delivered).pending.lookup id ≠ some i := closed
        rw [if_neg closed, if_neg openThere]
        cases choice <;> rfl
  | _ => rfl

theorem resolve_reframe (frame : ResponseFrame) :
    (d.reframe routes received delivered).resolve frame = (d.resolve frame).reframe routes received delivered := by
  simp only [resolve, reframe]
  cases d.pending.lookup frame.header.invokeId <;> rfl

theorem tcpClosed_frame (d : AmsDispatcher) (connection : Nat) : (d.tcpClosed connection).mqtt = d.mqtt ∧
      (d.tcpClosed connection).routes = d.routes ∧ (d.tcpClosed connection).received = d.received := by
  unfold tcpClosed
  split <;> exact ⟨rfl, rfl, rfl⟩

theorem readerExit_frame (d : AmsDispatcher) (connection : Nat) : (d.readerExit connection).mqtt = d.mqtt ∧
      (d.readerExit connection).routes = d.routes ∧ (d.readerExit connection).received = d.received := by
  unfold readerExit
  split <;> exact ⟨rfl, rfl, rfl⟩

theorem tcpClosed_reframe (connection : Nat) : (d.reframe routes received delivered).tcpClosed connection =
      (d.tcpClosed connection).reframe routes received delivered := by
  have readers : (d.reframe routes received delivered).readers = d.readers := rfl
  simp only [tcpClosed, readers]
  split <;> rfl

theorem readerExit_reframe (connection : Nat) : (d.reframe routes received delivered).readerExit connection =
      (d.readerExit connection).reframe routes received delivered := by
  have readers : (d.reframe routes received delivered).readers = d.readers := rfl
  simp only [readerExit, readers]
  split <;> rfl

end

section

variable (d : AmsDispatcher) (frame : ResponseFrame)

theorem resolve_delivered : (d.resolve frame).delivered = d.delivered := by
  rw [resolve]
  cases d.pending.lookup frame.header.invokeId <;> rfl

theorem resolve_frame : (d.resolve frame).mqtt = d.mqtt ∧ (d.resolve frame).routes = d.routes ∧
      (d.resolve frame).received = d.received := by
  rw [resolve]
  cases d.pending.lookup frame.header.invokeId <;> exact ⟨rfl, rfl, rfl⟩

theorem reframed_resolve :
    Reframed d (d.resolve frame) fun routes received delivered => (d.reframe routes received delivered).resolve frame :=
  .silent (resolve_delivered d frame) (resolve_frame d frame).2.1 (resolve_frame d frame).2.2
    fun routes received delivered => resolve_reframe routes received delivered frame

end

theorem tcpFrame_reframe (d : AmsDispatcher) (connection : Nat) (body : List UInt8) :
    Reframed d (d.tcpFrame connection body) fun routes received delivered =>
      (d.reframe routes received delivered).tcpFrame connection body := by
  have readers (routes received delivered) : (d.reframe routes received delivered).readers = d.readers := rfl
  simp only [tcpFrame, readers]
  split
  · split
    · exact .silent rfl rfl rfl fun _ _ _ => rfl
    split
    · exact .silent rfl rfl rfl fun _ _ _ => rfl
    split
    · exact reframed_resolve d _
    · exact ⟨[_], rfl, rfl, rfl, fun _ _ _ => rfl⟩
  · exact .silent rfl rfl rfl fun _ _ _ => rfl

def handle (d : AmsDispatcher) (frame : ResponseFrame) : AmsDispatcher :=
  if frame.header.isResponse then
    if frame.header.targetNetId ≠ d.sourceNetId ∨ frame.header.targetPort ≠ d.sourcePort then d else d.resolve frame
  else d.deliver frame

theorem handleReceived_eq_handle (first : d.received = frame :: later) :
    d.handleReceived = (d.reframe d.routes later d.delivered).handle frame := by
  rw [handleReceived, first]
  rfl

theorem handle_reframe (d : AmsDispatcher) (frame : ResponseFrame) :
    Reframed d (d.handle frame) fun routes received delivered => (d.reframe routes received delivered).handle frame := by
  have netId (routes received delivered) : (d.reframe routes received delivered).sourceNetId = d.sourceNetId := rfl
  have port (routes received delivered) : (d.reframe routes received delivered).sourcePort = d.sourcePort := rfl
  simp only [handle, netId, port]
  split
  · split
    -- a response to somebody else is dropped
    · exact .silent rfl rfl rfl fun _ _ _ => rfl
    · exact reframed_resolve d frame
  · exact ⟨[frame], rfl, rfl, rfl, fun _ _ _ => rfl⟩

theorem handleReceived_reframe (first : d.received = frame :: later) :
    ∃ gets, d.handleReceived.delivered = d.delivered ++ gets ∧ d.handleReceived.routes = d.routes ∧
      d.handleReceived.received = later ∧
      ∀ routes received delivered, (d.reframe routes (frame :: received) delivered).handleReceived =
        d.handleReceived.reframe routes received (delivered ++ gets) := by
  obtain ⟨gets, given, sameRoutes, kept, moves⟩ := handle_reframe (d.reframe d.routes later d.delivered) frame
  rw [handleReceived_eq_handle first]
  refine ⟨gets, given, sameRoutes, kept, fun routes received delivered => ?_⟩
  exact moves routes received delivered

/-- The frame is the response to a call of this dispatcher, by its address and its id. -/
def Answers (d : AmsDispatcher) (frame : ResponseFrame) : Prop :=
  frame.header.isResponse ∧ frame.header.targetNetId = d.sourceNetId ∧ frame.header.targetPort = d.sourcePort ∧
    (d.pending.lookup frame.header.invokeId).isSome
deriving Decidable

theorem handleReceived_of_not_answers (first : d.received = frame :: later) (not : ¬d.Answers frame) :
    ∃ gets, d.handleReceived = d.reframe d.routes later (d.delivered ++ gets) := by
  rw [handleReceived_eq_handle first, handle]
  split
  next response =>
    refine ⟨[], ?_⟩
    rw [List.append_nil]
    split
    · rfl
    next ours =>
      obtain ⟨netId, port⟩ := not_or.mp ours
      have nobody : (d.reframe d.routes later d.delivered).pending.lookup frame.header.invokeId = none := by
        by_contra some
        exact not ⟨response, not_not.mp netId, not_not.mp port, Option.isSome_iff_ne_none.mpr some⟩
      rw [resolve, nobody]
  · exact ⟨[frame], rfl⟩

/-! ### What a publication changes -/

/-- The host that a publication is from, as far as the dispatcher can tell. -/
def attributed (topicPrefix topic : String) (payload : List UInt8) : Option AmsNetId :=
  if endsWith topic "/info" then topicNetId topic topicPrefix
  else (AmsHeader.parse payload).toOption.map AmsHeader.sourceNetId

def routesAfter (sourceNetId : AmsNetId) (topicPrefix topic : String) (payload : List UInt8)
    (routes : HashMap AmsNetId TransportKind) : HashMap AmsNetId TransportKind :=
  if endsWith topic "/info" then
    match topicNetId topic topicPrefix, parseInfoXml payload with
    | some netId, some true => routes.insert netId .mqtt
    | some netId, some false => routes.erase netId
    | _, _ => routes
  else if ¬endsWith topic "/ams" ∧ ¬endsWith topic "/ams/res" then routes
  else
    match AmsHeader.parse payload with
    | .error _ => routes
    | .ok header =>
      if header.sourceNetId ≠ sourceNetId then learnIfAbsent routes header.sourceNetId .mqtt else routes

def framesIn (topic : String) (payload : List UInt8) : List ResponseFrame :=
  if endsWith topic "/info" then []
  else if ¬endsWith topic "/ams" ∧ ¬endsWith topic "/ams/res" then []
  else
    match AmsHeader.parse payload with
    | .error _ => []
    | .ok header => [⟨header, payload.drop 32⟩]

theorem incomingMqtt_eq_reframe (d : AmsDispatcher) (topicPrefix topic : String) (payload : List UInt8) :
    d.incomingMqtt topicPrefix topic payload =
      d.reframe (routesAfter d.sourceNetId topicPrefix topic payload d.routes) (d.received ++ framesIn topic payload)
        d.delivered := by
  have unchanged : d.reframe d.routes (d.received ++ []) d.delivered = d := by
    rw [List.append_nil]
    rfl
  unfold incomingMqtt routesAfter framesIn
  split
  · -- an announcement or a withdrawal brings no frame
    rw [List.append_nil]
    cases topicNetId topic topicPrefix with
    | none => rfl
    | some netId =>
      cases parseInfoXml payload with
      | none => rfl
      | some online => cases online <;> rfl
  split
  · rw [unchanged]
  cases AmsHeader.parse payload with
  | error _ => exact unchanged.symm
  | ok header => rfl

theorem ambient_mqtt_eq_reframe (broker : d.mqtt = some topicPrefix) (topic : String) (payload : List UInt8) :
    d.ambient (.mqtt topic payload) =
      d.reframe (routesAfter d.sourceNetId topicPrefix topic payload d.routes) (d.received ++ framesIn topic payload)
        d.delivered := by
  rw [← incomingMqtt_eq_reframe]
  simp [ambient, broker]

theorem ambient_mqtt_of_none (broker : d.mqtt = none) (topic : String) (payload : List UInt8) :
    d.ambient (.mqtt topic payload) = d := by
  simp [ambient, broker]

theorem source_of_framesIn (topicPrefix : String)
    (inside : frame ∈ framesIn topic payload) : attributed topicPrefix topic payload = some frame.header.sourceNetId := by
  rw [framesIn] at inside
  split at inside
  · cases inside
  next noInfo =>
    rw [attributed, if_neg noInfo]
    split at inside
    · cases inside
    split at inside
    · cases inside
    next header parsed =>
      rw [List.mem_singleton.mp inside, parsed]
      rfl

theorem lookup_learnIfAbsent_of_ne {routes : HashMap AmsNetId TransportKind} (other : netId ≠ source) :
    (learnIfAbsent routes source kind).lookup netId = routes.lookup netId := by
  rw [learnIfAbsent]
  split
  · rfl
  · exact Finmap.lookup_insert_of_ne _ other

section

variable {routes others : HashMap AmsNetId TransportKind} {netId : AmsNetId}
  (same : routes.lookup netId = others.lookup netId)
include same

theorem lookup_learnIfAbsent_congr (source : AmsNetId) (kind : TransportKind) :
    (learnIfAbsent routes source kind).lookup netId = (learnIfAbsent others source kind).lookup netId := by
  by_cases own : netId = source
  · subst own
    have both : netId ∈ routes ↔ netId ∈ others := by
      rw [← Finmap.lookup_isSome, ← Finmap.lookup_isSome, same]
    simp only [learnIfAbsent, both]
    split
    · exact same
    · rw [Finmap.lookup_insert, Finmap.lookup_insert]
  · rw [lookup_learnIfAbsent_of_ne own, lookup_learnIfAbsent_of_ne own, same]

theorem lookup_routesAfter_congr (sourceNetId : AmsNetId) (topicPrefix topic : String)
    (payload : List UInt8) : (routesAfter sourceNetId topicPrefix topic payload routes).lookup netId =
      (routesAfter sourceNetId topicPrefix topic payload others).lookup netId := by
  unfold routesAfter
  split
  · split
    -- the route of the host that announces or withdraws itself is set alike in both maps
    next host _ _ =>
      rw [HashMap.lookup_insert_eq, HashMap.lookup_insert_eq, same]
    next host _ _ =>
      by_cases own : netId = host
      · subst own
        rw [Finmap.lookup_erase, Finmap.lookup_erase]
      · rw [Finmap.lookup_erase_ne own, Finmap.lookup_erase_ne own, same]
    · exact same
  split
  · exact same
  split
  · exact same
  split
  · exact lookup_learnIfAbsent_congr same _ _
  · exact same

end

theorem lookup_routesAfter_of_ne {topicPrefix topic : String}
    (other : attributed topicPrefix topic payload ≠ some netId) (sourceNetId : AmsNetId)
    (routes : HashMap AmsNetId TransportKind) :
    (routesAfter sourceNetId topicPrefix topic payload routes).lookup netId = routes.lookup netId := by
  unfold routesAfter
  unfold attributed at other
  split
  next info =>
    rw [if_pos info] at other
    split
    next host onTopic _ => exact Finmap.lookup_insert_of_ne _ (by rintro rfl; exact other onTopic)
    next host onTopic _ => exact Finmap.lookup_erase_ne (by rintro rfl; exact other onTopic)
    · rfl
  next noInfo =>
    rw [if_neg noInfo] at other
    split
    · rfl
    split
    · rfl
    next header parsed =>
      rw [parsed] at other
      split
      · exact lookup_learnIfAbsent_of_ne (by rintro rfl; exact other rfl)
      · rfl

end TcOtel.Ads.AmsDispatcher
