import TcOtel.Ads.RoundTrip
import TcOtel.Ads.Router

/-!
# What a write delivers

The router sends the logs and the trace events of a write on, once and in order, with the
address of the frame. Metrics are decoded and then forgotten, and logs of version 1 keep the
metadata they bring even if the task is registered with other ones; where there are neither,
a write is delivered as a whole.
-/

namespace TcOtel.Ads

open Decoding Decoder Memory Channels Looping

/-! ### The index of a task -/

/-- A log of version 2 has the index of its task in one byte. -/
def AdsLogEntry.IndexInByte (e : AdsLogEntry) : Prop :=
  e.version = .v2 → ∃ b : UInt8, e.taskIndex = Int32.ofNat b.toNat

theorem yields_readLogBody (env : Env) (traceId : Bytes 16) (spanId : Bytes 8) :
    Yields (readLogBody env traceId spanId) fun e => e.IndexInByte ∧ e.traceId = traceId ∧ e.spanId = spanId := by
  refine .bind fun levelByte => .bind fun level => .bind fun plcTimestamp => .bind fun clockTimestamp =>
    .bind fun taskIndex => .bind fun cycles => .bind fun argCount => .bind fun contextCount =>
    .bind fun message => .bind fun logger => .bind fun arguments => .bind fun context => ?_
  exact .pure ⟨fun _ => ⟨taskIndex, rfl⟩, rfl, rfl⟩

theorem parseV1_version
    (found : typeAt data pos = some .v1) (ran : (parseV1FromReader env).run data pos = .ok e next) :
    e.version = .v1 := by
  obtain ⟨first, present, isV1⟩ := Option.bind_eq_some_iff.mp found
  obtain ⟨inside, rfl⟩ := List.getElem?_eq_some_iff.mp present
  -- the type byte of the message is the version byte of the entry
  have version : AdsProtocolVersion.fromU8 data[pos] = some .v1 := by
    revert isV1
    generalize data[pos] = b
    simp only [MessageType.fromByte, AdsProtocolVersion.fromU8]
    split <;> simp_all
  obtain ⟨versionByte, _, read, rest⟩ := bind_eq_ok ran
  obtain rfl : data[pos] = versionByte := by
    rw [readU8_run inside] at read
    cases read
    rfl
  obtain ⟨v, _, known, body⟩ := bind_eq_ok rest
  obtain rfl : v = .v1 := by
    rw [version] at known
    cases known
    rfl
  refine (Yields.bind fun message => ?_ : Yields _ fun e : AdsLogEntry => e.version = .v1) body
  exact .bind fun _ => .bind fun _ => .bind fun _ => .bind fun _ => .bind fun _ => .bind fun _ => .bind fun _ =>
    .bind fun _ => .bind fun _ => .bind fun _ => .bind fun _ => .bind fun _ => .pure rfl

theorem decodeMessage_indexInByte
    (found : typeAt data pos = some kind) (ran : (decodeMessage env kind).run data pos = .ok (.log e) next) :
    e.IndexInByte := by
  cases kind with
  | v1 =>
    obtain ⟨entry, _, read, done⟩ := bind_eq_ok ran
    cases done
    intro isV2
    rw [parseV1_version found read] at isV2
    cases isV2
  | v2 =>
    obtain ⟨entry, _, read, done⟩ := bind_eq_ok ran
    cases done
    exact (Yields.bind (fun _ => .bind fun _ => yields_framed (yields_readLogBody ..)) read).1
  | traced =>
    obtain ⟨entry, _, read, done⟩ := bind_eq_ok ran
    cases done
    refine Yields.bind (fun _ => .bind fun _ => yields_framed ?_) read
    exact .bind fun _ => .bind fun _ _ _ _ _ body => (yields_readLogBody _ _ _ body).1
  | registration | metric | traceEvent =>
    obtain ⟨_, _, _, done⟩ := bind_eq_ok ran
    cases done

/-- Every log that a write brings has its index as its version has it. -/
theorem parseAll_indexInByte
    (parsed : parseAll env data = some (.ok pr)) : ∀ e ∈ pr.entries, e.IndexInByte := by
  have size : data.length ≤ maxMessageSize := by
    by_contra large
    rw [parseAll, if_pos (by omega)] at parsed
    cases parsed
  obtain ⟨c, reached, halted⟩ := (parseAll_eq_some_iff size).mp parsed
  -- what is decoded so far, in every iteration
  have all : ∀ e ∈ c.acc.entries, e.IndexInByte := by
    refine Reaches.invariant (fun c => ∀ e ∈ c.acc.entries, e.IndexInByte) ?_ reached (by simp [Cursor.start, ParseResult.empty])
    intro s s' before moved
    have effect := parseStep_effect env data s
    rw [moved] at effect
    cases effect with
    | skipped => exact before
    | @decoded kind message _ found ran =>
      cases message with
      | log entry =>
        have last := decodeMessage_indexInByte found ran
        exact List.forall_mem_append.mpr ⟨before, List.forall_mem_singleton.mpr last⟩
      | registration | metric | traceEvent => exact before
  have effect := parseStep_effect env data c
  rw [halted] at effect
  cases effect
  exact all

/-! ### The registrations of a run -/

def registrationsOf (sourceNetId : String) (sourcePort : UInt16) (pr : ParseResult) :
    List (RegistrationKey × TaskMetadata) :=
  pr.registrations.map fun reg => (⟨sourceNetId, sourcePort, reg.taskIndex⟩, reg.metadata)

namespace AdsRouter

def registrationsIn (r : AdsRouter) (host : RouterEnv) (frame : List UInt8) : List (RegistrationKey × TaskMetadata) :=
  match AmsHeader.parse frame with
  | .error _ => []
  | .ok header =>
    match AdsWriteRequest.parse (frame.drop 32) with
    | .error _ => []
    | .ok wr =>
      if header.commandId = adsCmdWrite ∧ header.targetPort = r.adsPort ∧ wr.indexGroup ≠ Push.igPushDiag then
        match parseAll host.env wr.data with
        | some (.ok pr) => registrationsOf header.sourceNetId.display header.sourcePort pr
        | _ => []
      else []

/-- A router that has served any frames so far, and the registrations they brought, the latest
one last. Between frames the service takes from the channels. -/
inductive Serves (host : RouterEnv) : AdsRouter → List (RegistrationKey × TaskMetadata) → Prop where
  | start {r : AdsRouter} (fresh : r.registry = ∅) : Serves host r []
  | dispatch {r : AdsRouter} {history : List (RegistrationKey × TaskMetadata)} (served : Serves host r history)
      (frame : List UInt8) (peerAddress : Option String) :
      Serves host (r.dispatch host frame peerAddress).2 (history ++ r.registrationsIn host frame)
  | received {r r' : AdsRouter} {history : List (RegistrationKey × TaskMetadata)} (served : Serves host r history)
      (port : r'.adsPort = r.adsPort) (registry : r'.registry = r.registry) : Serves host r' history

theorem registry_dispatchWriteSync
    (parsed : parseAll host.env data = some (.ok pr)) (netId : String) (port : UInt16) (peer : Option String)
    (r : AdsRouter) : (r.dispatchWriteSync host netId port peer data).registry =
      HashMap.insertAll r.registry (registrationsOf netId port pr) := by
  rw [dispatchWriteSync, parsed, HashMap.insertAll, registrationsOf, List.foldl_map]
  rfl

theorem registry_dispatch (host : RouterEnv) (frame : List UInt8) (peer : Option String) (r : AdsRouter) :
    (r.dispatch host frame peer).2.registry = HashMap.insertAll r.registry (r.registrationsIn host frame) := by
  unfold dispatch registrationsIn
  by_cases short : frame.length < 32
  · rw [if_pos short, AmsHeader.parse, dif_pos short]
    rfl
  rw [if_neg short]
  cases AmsHeader.parse frame with
  | error e => rfl
  | ok header =>
    dsimp only
    by_cases write : header.commandId = adsCmdWrite
    case neg =>
      cases AdsWriteRequest.parse (frame.drop 32) <;> simp [write, HashMap.insertAll]
    rw [if_pos write, handleWrite]
    cases AdsWriteRequest.parse (frame.drop 32) with
    | error e => rfl
    | ok wr =>
      by_cases port : header.targetPort = r.adsPort
      case neg => simp [port, HashMap.insertAll]
      by_cases push : wr.indexGroup = Push.igPushDiag
      · simp only [port, push, ne_eq, not_true, if_false, if_true, and_false]
        split <;> rfl
      simp only [write, port, push, ne_eq, not_true, not_false_iff, if_false, and_self, if_true]
      obtain ⟨result, returned⟩ := parseAll_isSome host.env wr.data
      cases result with
      | ok pr => rw [registry_dispatchWriteSync returned, returned]
      | err e => rw [dispatchWriteSync, returned]; rfl
      | panic => exact absurd returned (parseAll_no_panic host.env wr.data)

variable {history : List (RegistrationKey × TaskMetadata)}

/-- The registry has the latest registration of every task. -/
theorem Serves.lookup
    (served : Serves host r history) (k : RegistrationKey) : r.registry.lookup k = HashMap.lastValue k history := by
  have all : r.registry = HashMap.insertAll ∅ history := by
    induction served with
    | start fresh => exact fresh
    | dispatch served frame peer ih => rw [registry_dispatch, ih, HashMap.insertAll_append]
    | received served port registry ih => rw [registry, ih]
  rw [all, HashMap.lookup_insertAll, Finmap.lookup_empty, Option.or_none]

/-! ### What should be sent -/

/-- The latest registration for a task of a PLC, by the number of the task. -/
def latestMetadata (history : List (RegistrationKey × TaskMetadata)) (netId : AmsNetId) (port : UInt16)
    (taskIndex : Int32) : Option TaskMetadata :=
  ((history.filter fun p => decide (p.1.amsNetId = netId.display ∧ p.1.amsSourcePort = port ∧
    (p.1.taskIndex.toNat : Int) = taskIndex.toInt)).getLast?).map Prod.snd

structure Carries (le : LogEntry) (m : TaskMetadata) : Prop where
  taskName : le.taskName = m.taskName
  appName : le.appName = m.appName
  projectName : le.projectName = m.projectName
  onlineChangeCount : le.onlineChangeCount = m.onlineChangeCount
  appPort : le.amsAppPort = m.appPort

/-- A log as it should be sent: what was decoded, the address of the frame and the metadata of
the task. -/
structure LogSent (netId : AmsNetId) (port : UInt16) (latest : Option TaskMetadata) (e : AdsLogEntry) (le : LogEntry) :
    Prop where
  amsNetId : le.amsNetId = netId.display
  amsSourcePort : le.amsSourcePort = port
  metadata : ∀ m, latest = some m → Carries le m
  message : le.message = e.message
  logger : le.logger = e.logger
  level : le.level = e.level
  times : le.plcTimestamp = e.plcTimestamp ∧ le.clockTimestamp = e.clockTimestamp
  task : le.taskIndex = e.taskIndex ∧ le.taskCycleCounter = e.taskCycleCounter
  ids : le.traceId = e.traceId ∧ le.spanId = e.spanId
  arguments : le.arguments = e.arguments
  context : le.context = e.context

structure MetricSent (netId : AmsNetId) (port : UInt16) (me : AdsMetricEntry) (m : MetricEntry) : Prop where
  amsNetId : m.amsNetId = netId.display
  amsSourcePort : m.amsSourcePort = port
  texts : m.name = me.name ∧ m.description = me.description ∧ m.unit = me.unit
  kind : m.kind = me.kind ∧ m.isMonotonic = me.isMonotonic
  value : m.value = me.value
  timestamp : m.timestamp = me.timestamp
  task : m.taskIndex = me.taskIndex ∧ m.taskCycleCounter = me.taskCycleCounter
  attributes : m.attributes = me.attributes
  buckets : m.histogramBounds = me.histogramBounds ∧ m.histogramCounts = me.histogramCounts
  totals : m.histogramCount = me.histogramCount ∧ m.histogramSum = me.histogramSum

/-- Everything that was decoded from a write is behind what the channels had before, once and
in order. -/
structure Delivered (netId : AmsNetId) (port : UInt16) (history : List (RegistrationKey × TaskMetadata))
    (pr : ParseResult) (before after : AdsRouter) : Prop where
  logs : ∃ sent, after.logTx.queue = before.logTx.queue ++ sent ∧
    List.Forall₂ (fun e le => LogSent netId port (latestMetadata history netId port e.taskIndex) e le) pr.entries sent
  metrics : ∃ tx tx' sent, before.metricTx = some tx ∧ after.metricTx = some tx' ∧ tx'.queue = tx.queue ++ sent ∧
    List.Forall₂ (MetricSent netId port) pr.metrics sent
  traces : ∃ tx tx', before.traceTx = some tx ∧ after.traceTx = some tx' ∧
    tx'.queue = tx.queue ++ pr.traceEvents.map fun ev => (netId, port, ev)

/-- All channels are there and have room for what was decoded. -/
structure Ready (r : AdsRouter) (pr : ParseResult) : Prop where
  logs : r.logTx.Room pr.entries.length
  metrics : ∃ tx, r.metricTx = some tx ∧ tx.Room pr.metrics.length
  traces : ∃ tx, r.traceTx = some tx ∧ tx.Room pr.traceEvents.length

/-- A frame that writes log messages to this router. -/
structure LogWrite (r : AdsRouter) (frame : List UInt8) (header : AmsHeader) (wr : AdsWriteRequest) : Prop where
  parsed : AmsHeader.parse frame = .ok header
  request : AdsWriteRequest.parse (frame.drop 32) = .ok wr
  command : header.commandId = adsCmdWrite
  port : header.targetPort = r.adsPort
  group : wr.indexGroup ≠ Push.igPushDiag

section

variable {r : AdsRouter} {frame : List UInt8} {header : AmsHeader} {wr : AdsWriteRequest}
  (w : r.LogWrite frame header wr)
include w

theorem LogWrite.dispatch_eq (host : RouterEnv) (peer : Option String) : (r.dispatch host frame peer).2 =
      r.dispatchWriteSync host header.sourceNetId.display header.sourcePort peer wr.data := by
  have long : ¬frame.length < 32 := by
    intro short
    have parsed := w.parsed
    rw [AmsHeader.parse, dif_pos short] at parsed
    cases parsed
  rw [dispatch, if_neg long, w.parsed]
  simp [w.command, handleWrite, w.request, w.port, w.group]

theorem LogWrite.registrationsIn_eq (parsed : parseAll host.env wr.data = some (.ok pr)) :
    r.registrationsIn host frame = registrationsOf header.sourceNetId.display header.sourcePort pr := by
  rw [registrationsIn, w.parsed]
  simp [w.request, w.command, w.port, w.group, parsed]

end

theorem latestMetadata_byte (history : List (RegistrationKey × TaskMetadata)) (netId : AmsNetId) (port : UInt16)
    (b : UInt8) :
    latestMetadata history netId port (Int32.ofNat b.toNat) = HashMap.lastValue ⟨netId.display, port, b⟩ history := by
  have small := b.toNat_lt
  have number : (Int32.ofNat b.toNat).toInt = b.toNat := Int32.toInt_ofNat_of_lt (by omega)
  rw [latestMetadata, number]
  congr 3
  funext p
  obtain ⟨⟨net, source, index⟩, m⟩ := p
  simp [UInt8.toNat_inj]

theorem registeredIndex_byte {e : AdsLogEntry} (index : e.taskIndex = Int32.ofNat b.toNat) :
    e.registeredIndex = b := by
  have all : ∀ n < 256, (Int32.ofNat n).toUInt32.toUInt8 = UInt8.ofNat n := by decide +kernel
  rw [AdsLogEntry.registeredIndex, index, all b.toNat b.toNat_lt, UInt8.ofNat_toNat]

/-! ### What is sent -/

/-- The log brings the metadata of a task itself, for an application without a port. -/
def BringsMetadata (e : AdsLogEntry) (m : TaskMetadata) : Prop :=
  e.taskName = m.taskName ∧ e.appName = m.appName ∧ e.projectName = m.projectName ∧
    e.onlineChangeCount = m.onlineChangeCount ∧ m.appPort = 0
deriving Decidable

theorem logSent_iff {source : String} {netId : AmsNetId} {port : UInt16} {registry : TaskRegistry}
   
    (records : ∀ k, registry.lookup k = HashMap.lastValue k history) {e : AdsLogEntry} (index : e.IndexInByte) :
    LogSent netId port (latestMetadata history netId port e.taskIndex) e
        (logEntry source netId.display port registry e) ↔
      (e.version ≠ .v2 → ∀ m, latestMetadata history netId port e.taskIndex = some m → BringsMetadata e m) := by
  by_cases isV2 : e.version = .v2
  · obtain ⟨b, number⟩ := index isV2
    have found : registry.metadataFor netId.display port e = latestMetadata history netId port e.taskIndex := by
      rw [TaskRegistry.metadataFor, if_pos isV2, registeredIndex_byte number, records, number, latestMetadata_byte]
    refine iff_of_true ?_ (fun other => absurd isV2 other)
    constructor <;> first | rfl | exact ⟨rfl, rfl⟩ | skip
    intro m latest
    constructor <;> simp [logEntry, found, latest]
  · have found : registry.metadataFor netId.display port e = none := if_neg isV2
    constructor
    · intro sent _ m latest
      have carries := sent.metadata m latest
      have appPort := carries.appPort
      simp only [logEntry, found] at appPort
      refine ⟨?_, ?_, ?_, ?_, appPort.symm⟩
      · simpa only [logEntry, found, Option.elim_none] using carries.taskName
      · simpa only [logEntry, found, Option.elim_none] using carries.appName
      · simpa only [logEntry, found, Option.elim_none] using carries.projectName
      · simpa only [logEntry, found, Option.elim_none] using carries.onlineChangeCount
    · intro brings
      constructor <;> first | rfl | exact ⟨rfl, rfl⟩ | skip
      intro m latest
      obtain ⟨taskName, appName, projectName, onlineChangeCount, appPort⟩ := brings isV2 m latest
      constructor <;> simp [logEntry, *]

theorem channels_dispatchWriteSync {host : RouterEnv} {data : List UInt8} {pr : ParseResult}
    (parsed : parseAll host.env data = some (.ok pr)) (netId : AmsNetId) (port : UInt16) (peer : Option String)
    {r : AdsRouter} (ready : r.Ready pr) : let after := r.dispatchWriteSync host netId.display port peer data
    after.logTx.queue = r.logTx.queue ++
        pr.entries.map (logEntry (peer.getD host.localSourceAddress) netId.display port after.registry) ∧
      ∃ tx tx', r.traceTx = some tx ∧ after.traceTx = some tx' ∧
        tx'.queue = tx.queue ++ pr.traceEvents.map fun ev => (netId, port, ev) := by
  obtain ⟨logs, -, tx, traceTx, traces⟩ := ready
  simp only [dispatchWriteSync, parsed, AmsNetId.fromStrRef_display, traceTx]
  refine ⟨Channel.queue_trySendAll (by rwa [List.length_map]), tx, _, rfl, rfl, ?_⟩
  exact Channel.queue_trySendAll (by rwa [List.length_map])

theorem metricTx_dispatchWriteSync (host : RouterEnv) (netId : String) (port : UInt16) (peer : Option String)
    (data : List UInt8) (r : AdsRouter) : (r.dispatchWriteSync host netId port peer data).metricTx = r.metricTx := by
  unfold dispatchWriteSync
  split <;> rfl

theorem Delivered.no_metrics (delivered : Delivered netId port history pr before after)
    (same : after.metricTx = before.metricTx) : pr.metrics = [] := by
  obtain ⟨tx, tx', sent, old, new, queue, pairs⟩ := delivered.metrics
  rw [same, old, Option.some.injEq] at new
  subst new
  have nothing : sent = [] := List.append_right_eq_self.mp queue.symm
  rw [nothing] at pairs
  exact List.forall₂_nil_right_iff.mp pairs

/-- What the router has served so far does not matter: a log write is delivered as a whole just
when it has no metrics and the logs that are not of version 2 bring the latest metadata of
their task, if it is registered. -/
theorem delivered_iff_no_metrics (host : RouterEnv) (r : AdsRouter) (history : List (RegistrationKey × TaskMetadata))
    (served : Serves host r history) (frame : List UInt8) (peer : Option String) (header : AmsHeader)
    (wr : AdsWriteRequest) (w : r.LogWrite frame header wr) (pr : ParseResult)
    (parsed : parseAll host.env wr.data = some (.ok pr)) (ready : r.Ready pr) :
    let latest := history ++ registrationsOf header.sourceNetId.display header.sourcePort pr
    Delivered header.sourceNetId header.sourcePort latest pr r (r.dispatch host frame peer).2 ↔
      pr.metrics = [] ∧ ∀ e ∈ pr.entries, e.version ≠ .v2 → ∀ m,
        latestMetadata latest header.sourceNetId header.sourcePort e.taskIndex = some m → BringsMetadata e m := by
  intro latest
  have records : ∀ k, (r.dispatch host frame peer).2.registry.lookup k = HashMap.lastValue k latest := by
    have next := (served.dispatch frame peer).lookup
    rwa [w.registrationsIn_eq parsed] at next
  rw [w.dispatch_eq] at records ⊢
  obtain ⟨logs, traces⟩ := channels_dispatchWriteSync parsed header.sourceNetId header.sourcePort peer ready
  have metrics := metricTx_dispatchWriteSync host header.sourceNetId.display header.sourcePort peer wr.data r
  constructor
  · intro delivered
    refine ⟨delivered.no_metrics metrics, ?_⟩
    obtain ⟨sent, queued, each⟩ := delivered.logs
    obtain rfl := List.append_cancel_left (logs.symm.trans queued)
    rw [List.forall₂_map_right_iff, List.forall₂_same] at each
    exact fun e member => (logSent_iff records (parseAll_indexInByte parsed e member)).mp (each e member)
  · rintro ⟨none, brings⟩
    obtain ⟨tx, configured, -⟩ := ready.metrics
    refine ⟨⟨_, logs, ?_⟩, ⟨tx, tx, [], configured, metrics.trans configured, (List.append_nil _).symm, ?_⟩, traces⟩
    · rw [List.forall₂_map_right_iff, List.forall₂_same]
      exact fun e member => (logSent_iff records (parseAll_indexInByte parsed e member)).mpr (brings e member)
    · rw [none]
      exact .nil

/-! One write of a few messages to a router that has served nothing yet. -/

def sampleWrite (messages : List WireMessage) : AdsWriteRequest := ⟨1, 1, encodeAll messages⟩

def sampleFrame (messages : List WireMessage) : List UInt8 :=
  sampleHeader.serialize ++ (sampleWrite messages).serialize

def sampleRegistration : WireRegistration where
  taskIndex := 1
  taskName := ⟨"PlcTask", by decide +kernel⟩
  appName := ⟨"Machine", by decide +kernel⟩
  projectName := ⟨"Line", by decide +kernel⟩
  onlineChangeCount := 2
  appPort := 851

def sampleMetric : WireMetricBody where
  kind := .gauge
  time := sampleLog.plcTime
  taskIndex := 1
  taskCycleCounter := 42
  flags := 0
  name := ⟨"speed", by decide +kernel⟩
  description := ⟨"", by decide +kernel⟩
  unit := ⟨"", by decide +kernel⟩
  value := ⟨0⟩
  attributes := []
  attributes_le := by decide

theorem logWrite_sampleFrame (messages : List WireMessage) (short : (encodeAll messages).length < 2 ^ 32) :
    sampleRouter.LogWrite (sampleFrame messages) sampleHeader (sampleWrite messages) where
  parsed := AmsHeader.parse_serialize ..
  request := by
    have behind : (sampleFrame messages).drop 32 = (sampleWrite messages).serialize := by
      rw [sampleFrame, ← sampleHeader.length_serialize, List.drop_left]
    rw [behind]
    exact AdsWriteRequest.parse_serialize short
  command := rfl
  port := rfl
  group := show (1 : UInt32) ≠ Push.igPushDiag by decide

/-- A registration, a log of its task and the end of a span. -/
theorem delivered_registeredLog : let messages : List WireMessage :=
      [.registration sampleRegistration, sampleV2, .spanEnd sampleSpanEnd]
    let pr := ParseResult.ofMessages (messages.map (WireMessage.message .atEpoch))
    Delivered sampleHeader.sourceNetId 350 (registrationsOf sampleHeader.sourceNetId.display 350 pr) pr sampleRouter
      (sampleRouter.dispatch sampleHost (sampleFrame messages) none).2 := by
  intro messages pr
  have parsed : parseAll .atEpoch (encodeAll messages) = some (.ok pr) :=
    (parseAll_eq_some_iff (by decide +kernel)).mpr (parses_encodeAll ..)
  have ready : sampleRouter.Ready pr :=
    ⟨by decide +kernel, ⟨_, rfl, by decide +kernel⟩, ⟨_, rfl, by decide +kernel⟩⟩
  refine (delivered_iff_no_metrics sampleHost sampleRouter [] (.start rfl) _ none _ _
    (logWrite_sampleFrame messages (by decide +kernel)) pr parsed ready).mpr ⟨rfl, fun e member other => ?_⟩
  have version : ∀ e ∈ pr.entries, e.version = .v2 := by decide +kernel
  exact absurd (version e member) other

/-- A gauge is decoded, and not sent. -/
theorem sampleMetric_not_delivered :
    let messages : List WireMessage := [.metric ⟨sampleMetric, by decide +kernel⟩]
    let pr := ParseResult.ofMessages (messages.map (WireMessage.message .atEpoch))
    parseAll .atEpoch (encodeAll messages) = some (.ok pr) ∧ pr.metrics ≠ [] ∧ sampleRouter.Ready pr ∧
      sampleRouter.LogWrite (sampleFrame messages) sampleHeader (sampleWrite messages) ∧
      ¬Delivered sampleHeader.sourceNetId 350 (registrationsOf sampleHeader.sourceNetId.display 350 pr) pr sampleRouter
        (sampleRouter.dispatch sampleHost (sampleFrame messages) none).2 := by
  intro messages pr
  have parsed : parseAll .atEpoch (encodeAll messages) = some (.ok pr) :=
    (parseAll_eq_some_iff (by decide +kernel)).mpr (parses_encodeAll ..)
  have ready : sampleRouter.Ready pr :=
    ⟨by decide +kernel, ⟨_, rfl, by decide +kernel⟩, ⟨_, rfl, by decide +kernel⟩⟩
  have w := logWrite_sampleFrame messages (by decide +kernel)
  refine ⟨parsed, by decide +kernel, ready, w, fun delivered => ?_⟩
  rw [w.dispatch_eq] at delivered
  exact absurd (delivered.no_metrics (metricTx_dispatchWriteSync ..)) (by decide +kernel)

end AdsRouter

end TcOtel.Ads
