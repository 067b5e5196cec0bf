import TcOtel.Ads.Ams
import TcOtel.Lib.Pool

/-!
# Requests to PLCs

`AmsDispatcher` of `dispatcher.rs`. Calls of `send_request` run at the same time; each is a thread
that takes the source's steps between two awaits one by one. In between, publications arrive from
the broker, the reader tasks of TCP connections get frames or end, and routes are set from outside.

A call waits under its invoke id. What is in `pending` is the place of the call in the pool of
threads: the sender of the one-shot channel that the call waits for. `resolved` lists what was sent
through these channels.
-/

namespace TcOtel.Ads

open Decoding Pools

def maxAmsPayload : Nat := 16 * 1024 * 1024

/-- Max wire frame: AMS header and payload. -/
def maxAmsFrame : Nat := 32 + maxAmsPayload

inductive TransportKind where
  | mqtt | tcp
deriving DecidableEq, Repr

/-- The text of a `SocketAddr`. -/
abbrev SocketAddr := String

inductive DispatcherError where
  | noRoute (netId : AmsNetId)
  | transportNotAttached (kind : TransportKind)
  | timeout
  | closed
  | ads (text : String)
  | mqtt (text : String)
deriving DecidableEq

structure ResponseFrame where
  header : AmsHeader
  payload : List UInt8
deriving DecidableEq

def AmsHeader.isResponse (h : AmsHeader) : Bool := h.stateFlags &&& 1 ≠ 0

def buildAmsFrame (targetNetId : AmsNetId) (targetPort : UInt16) (sourceNetId : AmsNetId) (sourcePort cmd stateFlags : UInt16)
    (invokeId : UInt32) (payload : List UInt8) : List UInt8 :=
  AmsHeader.serialize ⟨targetNetId, targetPort, sourceNetId, sourcePort, cmd, stateFlags, UInt32.ofNat payload.length, 0,
    invokeId⟩ ++ payload

/-! ### Topics of the broker -/

def endsWith (text ending : String) : Bool := ending.toList.isSuffixOf text.toList

def containsText (text part : List Char) : Bool := decide (part <:+: text)

/-- `parse_info_xml`: whether the host of a topic is online. -/
def parseInfoXml (payload : List UInt8) : Option Bool :=
  match fromUtf8 payload with
  | none => none
  | some s =>
    -- `to_ascii_lowercase`
    let lower := s.toList.map Char.toLower
    if containsText lower ">true</online>".toList then some true
    else if containsText lower ">false</online>".toList then some false
    else none

def topicNetId (topic topicPrefix : String) : Option AmsNetId :=
  let text := topic.toList
  let start := topicPrefix.toList ++ ['/']
  if start.isPrefixOf text then
    let rest := text.drop start.length
    -- `split_once('/')` needs a second slash
    if '/' ∈ rest then (AmsNetId.fromStrRef (String.ofList (rest.takeWhile (· ≠ '/')))).toOption else none
  else none

/-! ### The dispatcher -/

inductive ReaderState where
  | reading | ending | ended
deriving DecidableEq

structure TcpReader where
  target : AmsNetId
  state : ReaderState
deriving DecidableEq

structure Published where
  transport : TransportKind
  target : AmsNetId
  frame : List UInt8
deriving DecidableEq

/-- What the calls and tasks share. A TCP connection is known by the place of its reader. -/
structure AmsDispatcher where
  sourceNetId : AmsNetId
  sourcePort : UInt16
  routes : HashMap AmsNetId TransportKind
  pending : HashMap UInt32 Nat
  invokeCounter : UInt32
  /-- The topic prefix of the broker, when one is attached. -/
  mqtt : Option String
  peers : HashMap AmsNetId Nat
  addrs : HashMap AmsNetId SocketAddr
  readers : List TcpReader
  /-- Frames from the broker whose host is learned and that are still to be handled. -/
  received : List ResponseFrame
  /-- What the sink was given. -/
  delivered : List ResponseFrame
  resolved : List (Nat × ResponseFrame)
  published : List Published

/-- How far a call of `send_request` has come. The invoke id stays known after the call has returned. -/
inductive RequestStage where
  | entered
  | routed (transport : TransportKind)
  | allocated (transport : TransportKind) (invokeId : UInt32)
  | registered (transport : TransportKind) (invokeId : UInt32)
  | resolving (invokeId : UInt32)
  | connecting (invokeId : UInt32) (addr : SocketAddr)
  | opened (invokeId : UInt32) (connection : Nat)
  | writing (invokeId : UInt32) (connection : Nat)
  | writeFailed (invokeId : UInt32) (error : DispatcherError)
  | failed (invokeId : UInt32) (error : DispatcherError)
  | waiting (invokeId : UInt32)
  | done (invokeId : Option UInt32) (result : Except DispatcherError (List UInt8))

structure Request where
  targetNetId : AmsNetId
  targetPort : UInt16
  cmd : UInt16
  payload : List UInt8
  stage : RequestStage

inductive Choice where
  | succeed
  | fail (text : String)
  | timeout
deriving DecidableEq

namespace AmsDispatcher

/-- `with_sink`, with a broker attached or not. -/
def new (sourceNetId : AmsNetId) (sourcePort : UInt16) (mqtt : Option String) : AmsDispatcher where
  sourceNetId := sourceNetId
  sourcePort := sourcePort
  routes := ∅
  pending := ∅
  invokeCounter := 1
  mqtt := mqtt
  peers := ∅
  addrs := ∅
  readers := []
  received := []
  delivered := []
  resolved := []
  published := []

def requestFrame (d : AmsDispatcher) (r : Request) (invokeId : UInt32) : List UInt8 :=
  buildAmsFrame r.targetNetId r.targetPort d.sourceNetId d.sourcePort r.cmd 4 invokeId r.payload

def answerFor (d : AmsDispatcher) (i : Nat) : Option ResponseFrame := (d.resolved.find? (·.1 = i)).map Prod.snd

def lowerHex (n : UInt32) : String := String.ofList (Nat.toDigits 16 n.toNat)

def resultOf (answer : ResponseFrame) : Except DispatcherError (List UInt8) :=
  if answer.header.errorCode ≠ 0 then
    .error (.ads s!"ADS error 0x{lowerHex answer.header.errorCode} from {answer.header.sourceNetId.display}")
  else .ok answer.payload

def act (i : Nat) (d : AmsDispatcher) (r : Request) (choice : Choice) : Option (AmsDispatcher × Request) :=
  match r.stage with
  | .entered =>
    match d.routes.lookup r.targetNetId with
    | none => some (d, { r with stage := .done none (.error (.noRoute r.targetNetId)) })
    | some kind => some (d, { r with stage := .routed kind })
  | .routed kind =>
    some ({ d with invokeCounter := d.invokeCounter + 1 }, { r with stage := .allocated kind d.invokeCounter })
  -- a call that still waits under this id loses its place
  | .allocated kind id => some ({ d with pending := d.pending.insert id i }, { r with stage := .registered kind id })
  | .registered .mqtt id =>
    match d.mqtt, choice with
    | none, _ => some (d, { r with stage := .failed id (.transportNotAttached .mqtt) })
    | some _, .fail text => some (d, { r with stage := .failed id (.mqtt text) })
    | some _, _ =>
      some ({ d with published := d.published ++ [⟨.mqtt, r.targetNetId, d.requestFrame r id⟩] },
        { r with stage := .waiting id })
  | .registered .tcp id =>
    -- `get_or_dial_tcp_peer`: a connection that is in the map is used
    match d.peers.lookup r.targetNetId with
    | some connection => some (d, { r with stage := .writing id connection })
    | none => some (d, { r with stage := .resolving id })
  | .resolving id =>
    match d.addrs.lookup r.targetNetId with
    | none => some (d, { r with stage := .failed id (.noRoute r.targetNetId) })
    | some addr => some (d, { r with stage := .connecting id addr })
  | .connecting id addr =>
    match choice with
    | .fail text => some (d, { r with stage := .failed id (.mqtt s!"tcp connect to {addr} failed: {text}") })
    | _ =>
      some ({ d with readers := d.readers ++ [⟨r.targetNetId, .reading⟩] }, { r with stage := .opened id d.readers.length })
  | .opened id connection =>
    some ({ d with peers := d.peers.insert r.targetNetId connection }, { r with stage := .writing id connection })
  | .writing id _ =>
    match choice with
    | .fail text => some (d, { r with stage := .writeFailed id (.mqtt s!"tcp write: {text}") })
    | _ =>
      some ({ d with published := d.published ++ [⟨.tcp, r.targetNetId, d.requestFrame r id⟩] },
        { r with stage := .waiting id })
  -- whatever connection is in the map by now
  | .writeFailed id error =>
    some ({ d with peers := d.peers.erase r.targetNetId }, { r with stage := .failed id error })
  | .failed id error => some ({ d with pending := d.pending.erase id }, { r with stage := .done (some id) (.error error) })
  | .waiting id =>
    match d.answerFor i with
    | some answer => some (d, { r with stage := .done (some id) (resultOf answer) })
    | none =>
      -- the channel is closed when its sender is gone
      if d.pending.lookup id ≠ some i then some (d, { r with stage := .failed id .closed })
      else
        match choice with
        | .timeout => some (d, { r with stage := .failed id .timeout })
        | _ => none
  | .done _ _ => none

end AmsDispatcher

def RequestStage.invokeId? : RequestStage → Option UInt32
  | .entered | .routed _ => none
  | .allocated _ id | .registered _ id | .resolving id | .connecting id _ | .opened id _ | .writing id _
  | .writeFailed id _ | .failed id _ | .waiting id => some id
  | .done id _ => id

def RequestStage.beforeMap : RequestStage → Bool
  | .entered | .routed _ | .allocated _ _ => true
  | _ => false

namespace AmsDispatcher

/-- All that a step of a call can do. -/
inductive Effect (i : Nat) (d : AmsDispatcher) (r : Request) : AmsDispatcher → Request → Prop where
  | routes (kind : TransportKind) (entered : r.stage = .entered) (found : d.routes.lookup r.targetNetId = some kind) :
      Effect i d r d { r with stage := .routed kind }
  | noRoute (error : DispatcherError) (entered : r.stage = .entered) (unknown : d.routes.lookup r.targetNetId = none) :
      Effect i d r d { r with stage := .done none (.error error) }
  | allocates (kind : TransportKind) (routed : r.stage = .routed kind) :
      Effect i d r { d with invokeCounter := d.invokeCounter + 1 } { r with stage := .allocated kind d.invokeCounter }
  | registers (kind : TransportKind) (id : UInt32) (allocated : r.stage = .allocated kind id) :
      Effect i d r { d with pending := d.pending.insert id i } { r with stage := .registered kind id }
  /-- A step that changes nothing that is shared, between two stages behind the registration. -/
  | moves (stage : RequestStage) (behind : r.stage.beforeMap = false) (stays : stage.beforeMap = false)
      (sameId : stage.invokeId? = r.stage.invokeId?) : Effect i d r d { r with stage := stage }
  | dials (id : UInt32) (addr : SocketAddr) (connecting : r.stage = .connecting id addr) :
      Effect i d r { d with readers := d.readers ++ [⟨r.targetNetId, .reading⟩] }
        { r with stage := .opened id d.readers.length }
  | connects (id : UInt32) (connection : Nat) (opened : r.stage = .opened id connection) :
      Effect i d r { d with peers := d.peers.insert r.targetNetId connection } { r with stage := .writing id connection }
  | publishes (id : UInt32) (entry : Published) (behind : r.stage.beforeMap = false) (sameId : r.stage.invokeId? = some id) :
      Effect i d r { d with published := d.published ++ [entry] } { r with stage := .waiting id }
  | disconnects (id : UInt32) (error : DispatcherError) (broken : r.stage = .writeFailed id error) :
      Effect i d r { d with peers := d.peers.erase r.targetNetId } { r with stage := .failed id error }
  | removes (id : UInt32) (error : DispatcherError) (failed : r.stage = .failed id error) :
      Effect i d r { d with pending := d.pending.erase id } { r with stage := .done (some id) (.error error) }

theorem act_effect (acted : d.act i r choice = some (d', r')) : Effect i d r d' r' := by
  obtain ⟨netId, port, cmd, payload, stage⟩ := r
  cases stage with
  | entered =>
    simp only [act] at acted
    split at acted
    next unknown =>
      cases acted
      exact .noRoute _ rfl unknown
    next found =>
      cases acted
      exact .routes _ rfl found
  | routed kind =>
    cases acted
    exact .allocates kind rfl
  | allocated kind id =>
    cases acted
    exact .registers kind id rfl
  | registered transport id =>
    cases transport with
    | mqtt =>
      simp only [act] at acted
      split at acted
      · cases acted
        exact .moves _ rfl rfl rfl
      · cases acted
        exact .moves _ rfl rfl rfl
      · cases acted
        exact .publishes id _ rfl rfl
    | tcp =>
      simp only [act] at acted
      split at acted <;> cases acted <;> exact .moves _ rfl rfl rfl
  | resolving id =>
    simp only [act] at acted
    split at acted <;> cases acted <;> exact .moves _ rfl rfl rfl
  | connecting id addr =>
    simp only [act] at acted
    split at acted
    · cases acted
      exact .moves _ rfl rfl rfl
    · cases acted
      exact .dials id addr rfl
  | opened id connection =>
    cases acted
    exact .connects id connection rfl
  | writing id connection =>
    simp only [act] at acted
    split at acted
    · cases acted
      exact .moves _ rfl rfl rfl
    · cases acted
      exact .publishes id _ rfl rfl
  | writeFailed id error =>
    cases acted
    exact .disconnects id error rfl
  | failed id error =>
    cases acted
    exact .removes id error rfl
  | waiting id =>
    -- the answer, a closed channel or the timeout
    simp only [act] at acted
    split at acted
    · cases acted
      exact .moves _ rfl rfl rfl
    split at acted
    · cases acted
      exact .moves _ rfl rfl rfl
    split at acted
    · cases acted
      exact .moves _ rfl rfl rfl
    · cases acted
  | done => cases acted

/-! ### Frames -/

def resolve (d : AmsDispatcher) (frame : ResponseFrame) : AmsDispatcher :=
  match d.pending.lookup frame.header.invokeId with
  | none => d
  | some i => { d with pending := d.pending.erase frame.header.invokeId, resolved := d.resolved ++ [(i, frame)] }

def deliver (d : AmsDispatcher) (frame : ResponseFrame) : AmsDispatcher :=
  { d with delivered := d.delivered ++ [frame] }

def learnIfAbsent (routes : HashMap AmsNetId TransportKind) (netId : AmsNetId) (kind : TransportKind) :
    HashMap AmsNetId TransportKind :=
  if netId ∈ routes then routes else routes.insert netId kind

/-- `handle_incoming_mqtt` up to where it waits for the map of the calls: a topic `/info` sets or
removes a route, and a host that publishes frames can be reached through the broker. -/
def incomingMqtt (d : AmsDispatcher) (topicPrefix topic : String) (payload : List UInt8) : AmsDispatcher :=
  if endsWith topic "/info" then
    match topicNetId topic topicPrefix, parseInfoXml payload with
    | some netId, some true => { d with routes := d.routes.insert netId .mqtt }
    | some netId, some false => { d with routes := d.routes.erase netId }
    | _, _ => d
  else if ¬endsWith topic "/ams" ∧ ¬endsWith topic "/ams/res" then d
  else
    match AmsHeader.parse payload with
    | .error _ => d
    | .ok header =>
      { d with
        routes := if header.sourceNetId ≠ d.sourceNetId then learnIfAbsent d.routes header.sourceNetId .mqtt else d.routes
        received := d.received ++ [⟨header, payload.drop 32⟩] }

/-- The rest of `handle_incoming_mqtt`, for the frame that came first. -/
def handleReceived (d : AmsDispatcher) : AmsDispatcher :=
  match d.received with
  | [] => d
  | frame :: later =>
    let d := { d with received := later }
    if frame.header.isResponse then
      if frame.header.targetNetId ≠ d.sourceNetId ∨ frame.header.targetPort ≠ d.sourcePort then d else d.resolve frame
    else d.deliver frame

def setReader (d : AmsDispatcher) (connection : Nat) (reader : TcpReader) : AmsDispatcher :=
  { d with readers := d.readers.set connection reader }

def readerAccepts (totalLen : Nat) : Bool := totalLen ≠ 0 ∧ totalLen ≤ maxAmsFrame

/-- `run_tcp_reader`, one round: a frame of a length that is not accepted ends the loop. -/
def tcpFrame (d : AmsDispatcher) (connection : Nat) (body : List UInt8) : AmsDispatcher :=
  match d.readers[connection]? with
  | some ⟨target, .reading⟩ =>
    if ¬readerAccepts body.length then d.setReader connection ⟨target, .ending⟩
    else
      match AmsHeader.parse body with
      | .error _ => d
      | .ok header =>
        if header.isResponse then d.resolve ⟨header, body.drop 32⟩ else d.deliver ⟨header, body.drop 32⟩
  | _ => d

def tcpClosed (d : AmsDispatcher) (connection : Nat) : AmsDispatcher :=
  match d.readers[connection]? with
  | some ⟨target, .reading⟩ => d.setReader connection ⟨target, .ending⟩
  | _ => d

def readerExit (d : AmsDispatcher) (connection : Nat) : AmsDispatcher :=
  match d.readers[connection]? with
  | some ⟨target, .ending⟩ =>
    { d.setReader connection ⟨target, .ended⟩ with peers := d.peers.erase target }
  | _ => d

/-! ### Routes that are set from outside -/

def addStaticRoute (d : AmsDispatcher) (netId : AmsNetId) (kind : TransportKind) : AmsDispatcher :=
  { d with routes := d.routes.insert netId kind }

def addTcpPeer (d : AmsDispatcher) (netId : AmsNetId) (addr : SocketAddr) : AmsDispatcher :=
  { d with routes := learnIfAbsent d.routes netId .tcp, addrs := d.addrs.insert netId addr }

def forceTcpPeer (d : AmsDispatcher) (netId : AmsNetId) (addr : SocketAddr) : AmsDispatcher :=
  { d with routes := d.routes.insert netId .tcp, addrs := d.addrs.insert netId addr }

end AmsDispatcher

inductive DispatcherEvent where
  | mqtt (topic : String) (payload : List UInt8)
  | received
  | tcpFrame (connection : Nat) (body : List UInt8)
  | tcpClosed (connection : Nat)
  | readerExit (connection : Nat)
  | addStaticRoute (netId : AmsNetId) (kind : TransportKind)
  | addTcpPeer (netId : AmsNetId) (addr : SocketAddr)
  | forceTcpPeer (netId : AmsNetId) (addr : SocketAddr)

namespace AmsDispatcher

def ambient (d : AmsDispatcher) : DispatcherEvent → AmsDispatcher
  | .mqtt topic payload =>
    -- without a broker there is no task that could get a publication
    match d.mqtt with
    | none => d
    | some topicPrefix => d.incomingMqtt topicPrefix topic payload
  | .received => d.handleReceived
  | .tcpFrame connection body => d.tcpFrame connection body
  | .tcpClosed connection => d.tcpClosed connection
  | .readerExit connection => d.readerExit connection
  | .addStaticRoute netId kind => d.addStaticRoute netId kind
  | .addTcpPeer netId addr => d.addTcpPeer netId addr
  | .forceTcpPeer netId addr => d.forceTcpPeer netId addr

structure Call where
  targetNetId : AmsNetId
  targetPort : UInt16
  cmd : UInt16
  payload : List UInt8

def system : System AmsDispatcher Request Call Choice DispatcherEvent where
  fresh call := ⟨call.targetNetId, call.targetPort, call.cmd, call.payload, .entered⟩
  act := act
  ambient := ambient

def start (sourceNetId : AmsNetId) (sourcePort : UInt16) (mqtt : Option String) : Pool AmsDispatcher Request :=
  ⟨new sourceNetId sourcePort mqtt, []⟩

end AmsDispatcher

end TcOtel.Ads
