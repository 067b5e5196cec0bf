import TcOtel.Ads.Ams
import TcOtel.Ads.Safety
import TcOtel.Core.Entries
import TcOtel.Lib.Channel

/-!
# The ADS router

`AdsRouter::dispatch`: every request is answered at once. What a write brings is decoded and
sent to the channels of the service, without waiting for room in them.
-/

namespace TcOtel.Ads

open Decoding Memory Channels

/-! ### Registrations -/

def RegistrationMessage.metadata (reg : RegistrationMessage) : TaskMetadata where
  taskName := reg.taskName
  appName := reg.appName
  projectName := reg.projectName
  onlineChangeCount := reg.onlineChangeCount
  appPort := reg.appPort

abbrev TaskRegistry := HashMap RegistrationKey TaskMetadata

def TaskRegistry.register (sourceNetId : String) (sourcePort : UInt16) (registry : TaskRegistry)
    (reg : RegistrationMessage) : TaskRegistry :=
  registry.insert ⟨sourceNetId, sourcePort, reg.taskIndex⟩ reg.metadata

/-! ### Logs -/

def AdsLogEntry.registeredIndex (e : AdsLogEntry) : UInt8 := e.taskIndex.toUInt32.toUInt8

/-- What is registered for the task of a log. Only logs of version 2 are looked up. -/
def TaskRegistry.metadataFor (registry : TaskRegistry) (sourceNetId : String) (sourcePort : UInt16) (e : AdsLogEntry) :
    Option TaskMetadata :=
  if e.version = .v2 then registry.lookup ⟨sourceNetId, sourcePort, e.registeredIndex⟩ else none

def logEntry (source sourceNetId : String) (sourcePort : UInt16) (registry : TaskRegistry) (e : AdsLogEntry) : LogEntry :=
  let found := registry.metadataFor sourceNetId sourcePort e
  { source := source
    hostname := ""
    amsNetId := sourceNetId
    amsSourcePort := sourcePort
    amsAppPort := found.elim 0 (·.appPort)
    message := e.message
    logger := e.logger
    level := e.level
    plcTimestamp := e.plcTimestamp
    clockTimestamp := e.clockTimestamp
    taskIndex := e.taskIndex
    taskName := found.elim e.taskName (·.taskName)
    taskCycleCounter := e.taskCycleCounter
    appName := found.elim e.appName (·.appName)
    projectName := found.elim e.projectName (·.projectName)
    onlineChangeCount := found.elim e.onlineChangeCount (·.onlineChangeCount)
    traceId := e.traceId
    spanId := e.spanId
    arguments := e.arguments
    context := e.context }

/-! ### The router -/

structure AdsRouter where
  adsPort : UInt16
  logTx : Channel LogEntry
  metricTx : Option (Channel MetricEntry)
  pushTx : Option (Channel (AmsNetId × Push.DiagEvent))
  traceTx : Option (Channel (AmsNetId × UInt16 × TraceWireEvent))
  registry : TaskRegistry

/-- What the router takes from outside. -/
structure RouterEnv where
  env : Env
  /-- The address that stands for a peer without one. -/
  localSourceAddress : String

namespace AdsRouter

def buildResponse (header : AmsHeader) (payload : List UInt8) : List UInt8 :=
  { header.makeResponse 0 with
    dataLength := UInt32.ofNat payload.length
    stateFlags := 0x0005 }.serialize ++ payload

def responsePayload (frame : List UInt8) (commandId : UInt16) : List UInt8 :=
  if commandId = adsCmdReadState then [0, 0, 0, 0, 5, 0, 0, 0]
  else if commandId = adsCmdReadDeviceInfo then
    leBytes 4 0 ++ ([0, 1] ++ (leBytes 2 1 ++ (utf8Bytes "tc-otel" ++ List.replicate 9 0)))
  else if commandId = adsCmdRead then
    -- zeros, as many as the request asks for
    let readLen := if 44 ≤ frame.length then (Push.readU32 frame 40).toNat else 0
    leBytes 4 0 ++ (leBytes 4 readLen ++ List.replicate readLen 0)
  else if commandId = adsCmdWrite then leBytes 4 0
  else if commandId = adsCmdReadWrite ∨ commandId = adsCmdAddNotification then
    leBytes 4 adserrDeviceSrvnotsupp.toNat ++ leBytes 4 0
  else leBytes 4 adserrDeviceSrvnotsupp.toNat

/-- `dispatch_write_sync`. Logs and trace events are sent on; metrics are not. -/
def dispatchWriteSync (host : RouterEnv) (sourceNetId : String) (sourcePort : UInt16) (peerAddress : Option String)
    (writeData : List UInt8) (r : AdsRouter) : AdsRouter :=
  match parseAll host.env writeData with
  | some (.ok pr) =>
    let registry := pr.registrations.foldl (TaskRegistry.register sourceNetId sourcePort) r.registry
    let source := peerAddress.getD host.localSourceAddress
    { r with
      registry := registry
      logTx := r.logTx.trySendAll (pr.entries.map (logEntry source sourceNetId sourcePort registry))
      traceTx :=
        match AmsNetId.fromStrRef sourceNetId with
        | .ok netId => r.traceTx.map fun tx => tx.trySendAll (pr.traceEvents.map fun ev => (netId, sourcePort, ev))
        | .error _ => r.traceTx }
  | _ => r

def pushEvent (wr : AdsWriteRequest) : Option Push.DiagEvent :=
  if wr.indexOffset = Push.ioPushBatch then Push.decodeBatch wr.data
  else if wr.indexOffset = Push.ioPushMetricAgg then Push.decodeMetricAggregate wr.data
  else none

def handleWrite (host : RouterEnv) (peerAddress : Option String) (header : AmsHeader) (payload : List UInt8)
    (r : AdsRouter) : AdsRouter :=
  match AdsWriteRequest.parse payload with
  | .error _ => r
  | .ok wr =>
    if header.targetPort ≠ r.adsPort then r
    else if wr.indexGroup = Push.igPushDiag then
      match pushEvent wr with
      | some ev => { r with pushTx := r.pushTx.map fun tx => tx.trySend (header.sourceNetId, ev) }
      | none => r
    else r.dispatchWriteSync host header.sourceNetId.display header.sourcePort peerAddress wr.data

/-- `dispatch`: the answer, and the router behind it. -/
def dispatch (host : RouterEnv) (frame : List UInt8) (peerAddress : Option String) (r : AdsRouter) :
    Except AdsError (Option (List UInt8)) × AdsRouter :=
  if frame.length < 32 then (.error (.parseError "AMS frame too short"), r)
  else
    match AmsHeader.parse frame with
    | .error e => (.error e, r)
    | .ok header =>
      (.ok (some (buildResponse header (responsePayload frame header.commandId))),
        if header.commandId = adsCmdWrite then r.handleWrite host peerAddress header (frame.drop 32) else r)

/-! ### A router that has served nothing yet, and the header of a write to it -/

def sampleRouter : AdsRouter where
  adsPort := 16150
  logTx := .empty 8
  metricTx := some (.empty 8)
  pushTx := none
  traceTx := some (.empty 8)
  registry := ∅

def sampleHost : RouterEnv := ⟨.atEpoch, "127.0.0.1"⟩

def sampleHeader : AmsHeader where
  targetNetId := .fromBytes 5 1 2 3 1 1
  targetPort := 16150
  sourceNetId := .fromBytes 5 9 8 7 1 1
  sourcePort := 350
  commandId := adsCmdWrite
  stateFlags := 4
  dataLength := 0
  errorCode := 0
  invokeId := 1

end AdsRouter

end TcOtel.Ads
