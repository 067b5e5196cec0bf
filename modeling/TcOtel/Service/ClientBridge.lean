import TcOtel.Client.Notify

/-!
# The client bridge

`client_bridge.rs`: for each PLC that metrics are read from, a dispatcher with its own client of the
broker, a task that builds the subscriptions up, pollers and a notifier. What the broker is given by
anyone it hands to every client that is subscribed to the topic; everything else is a step of the
tasks of one target.

The model starts where the broker is attached, and it has one configuration. Of a publication it
remembers who sent it, and so of a sample. No step reads that.
-/

namespace TcOtel.Service

open Ads Client Decoding Pools

def defaultAmsPort : UInt16 := 851

/-- Source port of the requests of every dispatcher of the bridge. -/
def defaultSourcePort : UInt16 := 30010

/-! ### Targets of a configuration -/

structure TargetDescriptor where
  amsNetId : AmsNetId
  amsPort : UInt16
  routerHost : Option String
deriving DecidableEq

/-- `from_def`, whose error is only logged. -/
def TargetDescriptor.fromDef (d : CustomMetricDef) : Option TargetDescriptor := do
  let idStr ← d.amsNetId
  let netId ← (AmsNetId.fromStrRef idStr).toOption
  return ⟨netId, d.amsPort.getD defaultAmsPort, d.amsRouterHost.filter fun host => !host.isEmpty⟩

/-- One turn of the loop that sorts the metrics by their target. The first metric of a target
describes it. -/
def addDef (targets : List (TargetDescriptor × List CustomMetricDef)) (d : CustomMetricDef) :
    List (TargetDescriptor × List CustomMetricDef) :=
  match TargetDescriptor.fromDef d with
  | none => targets
  | some tgt =>
    if targets.any fun entry => entry.1.amsNetId = tgt.amsNetId then
      targets.map fun entry => if entry.1.amsNetId = tgt.amsNetId then (entry.1, entry.2 ++ [d]) else entry
    else targets ++ [(tgt, [d])]

def byTarget (customMetrics : List CustomMetricDef) : List (TargetDescriptor × List CustomMetricDef) :=
  (customMetrics.filter fun d => d.source ≠ .push).foldl addDef []

/-! ### Topics -/

def topicMatches : List (List Char) → List (List Char) → Bool
  | [['#']], _ => true
  | ['+'] :: fs, _ :: levels => topicMatches fs levels
  | f :: fs, level :: levels => f == level && topicMatches fs levels
  | [], [] => true
  | _, _ => false

def subscriptions (topicPrefix : String) (sourceNetId : AmsNetId) : List String :=
  [s!"{topicPrefix}/+/ams/res", s!"{topicPrefix}/{sourceNetId.display}/ams", s!"{topicPrefix}/+/info"]

def subscribedTo (topicPrefix : String) (sourceNetId : AmsNetId) (topic : String) : Bool :=
  (subscriptions topicPrefix sourceNetId).any fun f => topicMatches (f.toList.splitOn '/') (topic.toList.splitOn '/')

structure Publication where
  sender : AmsNetId
  topic : String
  payload : List UInt8
deriving DecidableEq

/-! ### A target -/

/-- How far `rebuild_target` has come. Calls are known by their place in the pool. -/
inductive RebuildStage where
  | grace
  | fallback
  | resolvingHost
  | awaitingRoute
  | uploadingInfo (call : Nat)
  | uploading (call : Nat) (info : UploadInfo)
  | registering (tree : SymbolTree) (defs : List CustomMetricDef)
  | subscribing (tree : SymbolTree) (defs : List CustomMetricDef) (call : Nat) (sub : Subscription)
  | ready
  | returned

def RebuildStage.notifying : RebuildStage → Bool
  | .registering _ _ | .subscribing _ _ _ _ | .ready => true
  | _ => false

structure Stamp where
  sender : AmsNetId
  sample : Sample

structure Target where
  descriptor : TargetDescriptor
  defs : List CustomMetricDef
  /-- The dispatcher and the calls of `send_request`. -/
  pool : Pool AmsDispatcher Request
  /-- Publications that the broker has handed to the client. -/
  inbox : List Publication
  stage : RebuildStage
  pollers : List SymbolMeta
  notifier : Notifier
  stamps : List Stamp
  /-- What the notifier has handed to the channel of the metrics. -/
  emitted : List MetricEntry

/-- What `rebuild_target` depends on outside of the program. -/
structure RebuildChoice where
  /-- The time to wait for a route is over. -/
  expired : Bool
  /-- The first address that the host's name stands for. -/
  resolved : Option SocketAddr
deriving DecidableEq

inductive TaskEvent where
  | mqtt
  | received
  | tcpFrame (connection : Nat) (body : List UInt8)
  | tcpClosed (connection : Nat)
  | readerExit (connection : Nat)
  | act (call : Nat) (choice : Choice)
  | poll (poller : Nat)
  | rebuild (choice : RebuildChoice)
  | notify (now : DateTime)
deriving DecidableEq

namespace Target

/-- A target right behind `attach_mqtt`. -/
def new (ourNetId : AmsNetId) (topicPrefix : String) (descriptor : TargetDescriptor) (defs : List CustomMetricDef) :
    Target where
  descriptor := descriptor
  defs := defs
  pool := AmsDispatcher.start ourNetId defaultSourcePort (some topicPrefix)
  inbox := []
  stage := .grace
  pollers := []
  notifier := .new
  stamps := []
  emitted := []

def route (t : Target) : Option TransportKind := t.pool.shared.routes.lookup t.descriptor.amsNetId

def hasRoute (t : Target) : Bool := t.route.isSome

/-- The broker was silent about the target, and its host is configured. -/
def needsFallback (t : Target) : Bool := !t.hasRoute && t.descriptor.routerHost.isSome

def call (t : Target) (cmd : UInt16) (payload : List UInt8) : AmsDispatcher.Call :=
  ⟨t.descriptor.amsNetId, t.descriptor.amsPort, cmd, payload⟩

def send (t : Target) (cmd : UInt16) (payload : List UInt8) : Target :=
  { t with pool := AmsDispatcher.system.step t.pool (.start (t.call cmd payload)) }

def returnedBy (t : Target) (i : Nat) : Option (Except DispatcherError (List UInt8)) :=
  match (t.pool.threads[i]?).map Request.stage with
  | some (.done _ result) => some result
  | _ => none

def resolveMeta (tree : SymbolTree) (d : CustomMetricDef) : Option SymbolMeta :=
  (tree.get d.symbol).map fun node => ⟨node.size, node.typeName, node.igroup, node.ioffset⟩

def uploadInfoOf (result : Except DispatcherError (List UInt8)) : Option UploadInfo := do
  let raw ← result.toOption
  let bytes ← (readData adsigrpSymUploadinfo2 raw).toOption
  (parseUploadInfo bytes).toOption

def symbolTreeOf (info : UploadInfo) (result : Except DispatcherError (List UInt8)) : Option SymbolTree := do
  let raw ← result.toOption
  let bytes ← (readData adsigrpSymUpload raw).toOption
  (parseUpload bytes info).toOption

def handleOf (result : Except DispatcherError (List UInt8)) : Option UInt32 := do
  let raw ← result.toOption
  (addedHandle raw).toOption

/-- One turn of the loop over the metrics of the target. -/
def registerDef (t : Target) (tree : SymbolTree) (d : CustomMetricDef) (later : List CustomMetricDef) : Target :=
  match resolveMeta tree d with
  | none => { t with stage := .registering tree later }
  | some symbol =>
    match d.source with
    | .poll =>
      -- `Poller::new` refuses histograms
      if d.kind = .histogram then { t with stage := .registering tree later }
      else { t with stage := .registering tree later, pollers := t.pollers ++ [symbol] }
    | .notification =>
      match NotifAttrs.fromDef d symbol.size with
      | .error _ => { t with stage := .registering tree later }
      | .ok attrs =>
        { t.send adsCmdAddNotification (addNotificationRequest attrs symbol) with
          stage := .subscribing tree later t.pool.threads.length ⟨d, symbol, attrs⟩ }
    | .push => { t with stage := .registering tree later }

/-- The next step of `rebuild_target`. -/
def rebuild (t : Target) (choice : RebuildChoice) : Target :=
  match t.stage with
  | .grace => if t.hasRoute ∨ choice.expired then { t with stage := .fallback } else t
  | .fallback =>
    if t.needsFallback then { t with stage := .resolvingHost } else { t with stage := .awaitingRoute }
  | .resolvingHost =>
    match choice.resolved with
    | none => { t with stage := .awaitingRoute }
    | some addr =>
      { t with
        pool := AmsDispatcher.system.step t.pool (.ambient (.addTcpPeer t.descriptor.amsNetId addr))
        stage := .awaitingRoute }
  | .awaitingRoute =>
    if t.hasRoute then
      { t.send adsCmdRead (readRequest adsigrpSymUploadinfo2 0 uploadInfoLength) with
        stage := .uploadingInfo t.pool.threads.length }
    else if choice.expired then { t with stage := .returned }
    else t
  | .uploadingInfo i =>
    match (t.returnedBy i).map uploadInfoOf with
    | none => t
    | some none => { t with stage := .returned }
    | some (some info) =>
      { t.send adsCmdRead (readRequest adsigrpSymUpload 0 info.symbolLength) with
        stage := .uploading t.pool.threads.length info }
  | .uploading i info =>
    match (t.returnedBy i).map (symbolTreeOf info) with
    | none => t
    | some none => { t with stage := .returned }
    | some (some tree) => { t with stage := .registering tree t.defs }
  | .registering tree defs =>
    match defs with
    | [] => { t with stage := .ready }
    | d :: later => t.registerDef tree d later
  | .subscribing tree defs i sub =>
    match (t.returnedBy i).map handleOf with
    | none => t
    | some none => { t with stage := .registering tree defs }
    | some (some handle) =>
      { t with notifier := t.notifier.register handle sub, stage := .registering tree defs }
  | .ready | .returned => t

/-- The sink behind the dispatcher: what was delivered since is put into the notifier's channel. -/
def sink (t : Target) (sender : AmsNetId) (d : AmsDispatcher) : Target :=
  { t with
    pool := ⟨d, t.pool.threads⟩
    stamps := t.stamps ++
      ((d.delivered.drop t.pool.shared.delivered.length).flatMap sinkSamples).map fun sample => ⟨sender, sample⟩ }

def task (t : Target) : TaskEvent → Target
  | .mqtt =>
    match t.inbox with
    | [] => t
    | p :: later =>
      { t with pool := AmsDispatcher.system.step t.pool (.ambient (.mqtt p.topic p.payload)), inbox := later }
  | .received =>
    match t.pool.shared.received with
    | [] => t
    | frame :: _ => t.sink frame.header.sourceNetId t.pool.shared.handleReceived
  | .tcpFrame connection body => t.sink t.descriptor.amsNetId (t.pool.shared.tcpFrame connection body)
  | .tcpClosed connection => { t with pool := AmsDispatcher.system.step t.pool (.ambient (.tcpClosed connection)) }
  | .readerExit connection => { t with pool := AmsDispatcher.system.step t.pool (.ambient (.readerExit connection)) }
  | .act i choice => { t with pool := AmsDispatcher.system.step t.pool (.act i choice) }
  | .poll j =>
    match t.pollers[j]? with
    | none => t
    | some symbol => t.send adsCmdRead (readRequest symbol.indexGroup symbol.indexOffset symbol.size)
  | .rebuild choice => t.rebuild choice
  | .notify now =>
    match t.stage.notifying, t.stamps with
    | true, stamp :: later =>
      { t with stamps := later, emitted := t.emitted ++ (t.notifier.dispatchSample now stamp.sample).toList }
    | _, _ => t

/-- The broker hands a publication to the client, if it is subscribed. -/
def arrive (t : Target) (p : Publication) : Target :=
  match t.pool.shared.mqtt with
  | none => t
  | some topicPrefix =>
    if subscribedTo topicPrefix t.pool.shared.sourceNetId p.topic then { t with inbox := t.inbox ++ [p] } else t

end Target

inductive TargetEvent where
  | arrive (p : Publication)
  | task (event : TaskEvent)
deriving DecidableEq

def Target.step (t : Target) : TargetEvent → Target
  | .arrive p => t.arrive p
  | .task event => t.task event

/-! ### The bridge -/

structure Bridge where
  targets : List Target

inductive BridgeEvent where
  | publish (p : Publication)
  | task (target : Nat) (event : TaskEvent)

namespace Bridge

def start (ourNetId : AmsNetId) (topicPrefix : String) (customMetrics : List CustomMetricDef) : Bridge :=
  ⟨(byTarget customMetrics).map fun entry => Target.new ourNetId topicPrefix entry.1 entry.2⟩

def step (b : Bridge) : BridgeEvent → Bridge
  | .publish p => ⟨b.targets.map fun t => t.step (.arrive p)⟩
  | .task k event => ⟨b.targets.modify k fun t => t.step (.task event)⟩

def run (b : Bridge) (schedule : List BridgeEvent) : Bridge := schedule.foldl step b

def eventFor (k : Nat) : BridgeEvent → Option TargetEvent
  | .publish p => some (.arrive p)
  | .task j event => if j = k then some (.task event) else none

def eventsFor (k : Nat) (schedule : List BridgeEvent) : List TargetEvent := schedule.filterMap (eventFor k)

theorem target_step (b : Bridge) (k : Nat) (event : BridgeEvent) :
    (b.step event).targets[k]? = (b.targets[k]?).map fun t => ((eventFor k event).toList).foldl Target.step t := by
  cases event with
  | publish p => exact List.getElem?_map
  | task j event =>
    by_cases own : j = k
    · subst own
      simp [step, eventFor]
    · simp [step, eventFor, own]

/-- Targets share nothing but the broker: each goes its own way. -/
theorem target_run (b : Bridge) (k : Nat) (schedule : List BridgeEvent) :
    (b.run schedule).targets[k]? = (b.targets[k]?).map fun t => (eventsFor k schedule).foldl Target.step t := by
  induction schedule generalizing b with
  | nil => simp [run, eventsFor]
  | cons event schedule ih =>
    have rest := ih (b.step event)
    rw [run, List.foldl_cons, ← run, rest, target_step, Option.map_map]
    congr 1
    funext t
    cases mine : eventFor k event <;> simp [eventsFor, mine]

end Bridge

end TcOtel.Service
