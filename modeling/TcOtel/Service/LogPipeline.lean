import TcOtel.Ads.Delivery
import TcOtel.Service.OpenSpans

/-!
# Logs and trace events on their way through the service

The router takes a write apart: its logs go to one channel and its trace events to another. One
task serves the logs and stamps them with what the dispatcher has pending, another serves the
trace events. The order in which a PLC has written a log and the begin and end of a span around it
is in neither channel, so that a log carries the ids of its span only when the two tasks happen to
be in step (`Pipeline.correlated_iff`).
-/

namespace TcOtel.Service

open Decoding Ads SpanDispatcher Channels Refining

/-! ### What is sent -/

structure SentLog where
  sender : AmsNetId
  entry : LogEntry
  /-- The spans that are open where the log stands in the wire stream. -/
  spans : OpenSpans
  from_sender : entry.amsNetId = sender.display

/-- The ids that a log is to be stamped with: those of the innermost open span of its task. -/
def SentLog.due (sent : SentLog) : Option Ids :=
  if sent.entry.ids = noIds then (sent.spans.innermost sent.sender sent.entry.taskByte).map OpenSpan.ids else none

inductive Delivery where
  | log (sent : SentLog)
  | event (netId : AmsNetId) (port : UInt16) (ev : TraceWireEvent)

namespace Delivery

def log? : Delivery → Option SentLog
  | log sent => some sent
  | event .. => none

def event? : Delivery → Option (AmsNetId × UInt16 × TraceWireEvent)
  | log _ => none
  | event netId port ev => some (netId, port, ev)

end Delivery

structure WireWrite where
  netId : AmsNetId
  port : UInt16
  peerAddress : Option String
  messages : List WireMessage
  size : (encodeAll messages).length ≤ maxMessageSize

namespace WireWrite

def parsed (env : Env) (w : WireWrite) : List Message := w.messages.map (WireMessage.message env)

def registry (env : Env) (w : WireWrite) (registry : TaskRegistry) : TaskRegistry :=
  ((w.parsed env).filterMap Message.registration?).foldl (TaskRegistry.register w.netId.display w.port) registry

/-- The logs among some messages of a write, behind a point of the stream with these open spans. -/
def logsFrom (host : RouterEnv) (w : WireWrite) (registry : TaskRegistry) : OpenSpans → List Message → List SentLog
  | _, [] => []
  -- a log has the spans around it that were begun and not ended before it in the write
  | spans, .log e :: messages =>
    ⟨w.netId, logEntry (w.peerAddress.getD host.localSourceAddress) w.netId.display w.port registry e, spans, rfl⟩ ::
      w.logsFrom host registry spans messages
  | spans, .traceEvent ev :: messages => w.logsFrom host registry (spans.observe w.netId ev) messages
  | spans, .registration _ :: messages => w.logsFrom host registry spans messages
  | spans, .metric _ :: messages => w.logsFrom host registry spans messages

/-- First all logs of the write, then all its trace events. -/
def deliveries (host : RouterEnv) (w : WireWrite) (registry : TaskRegistry) (spans : OpenSpans) : List Delivery :=
  (w.logsFrom host registry spans (w.parsed host.env)).map .log ++
    ((w.parsed host.env).filterMap Message.traceEvent?).map (.event w.netId w.port)

def spansAfter (env : Env) (w : WireWrite) (spans : OpenSpans) : OpenSpans :=
  ((w.parsed env).filterMap Message.traceEvent?).foldl (OpenSpans.observe w.netId) spans

theorem map_entry_logsFrom (host : RouterEnv) (w : WireWrite) (registry : TaskRegistry) (spans : OpenSpans)
    (messages : List Message) : (w.logsFrom host registry spans messages).map SentLog.entry =
      (messages.filterMap Message.log?).map
        (logEntry (w.peerAddress.getD host.localSourceAddress) w.netId.display w.port registry) := by
  induction messages generalizing spans with
  | nil => rfl
  | cons message messages ih =>
    cases message with
    | log e => exact congrArg _ (ih spans)
    | traceEvent ev => exact ih (spans.observe w.netId ev)
    | registration reg | metric m => exact ih spans

end WireWrite

/-! ### The tasks -/

structure Pipeline where
  registry : TaskRegistry
  /-- What each call of `dispatch_write_sync` has still to send. -/
  outgoing : List (List Delivery)
  logs : Channel SentLog
  events : Channel (AmsNetId × UInt16 × TraceWireEvent)
  dispatcher : SpanDispatcher
  /-- The logs that were sent on, before and behind the log task. -/
  enriched : List (SentLog × LogEntry)
  /-- The spans that are open behind what was written so far. -/
  spans : OpenSpans

namespace Pipeline

inductive Event where
  /-- A call of `dispatch_write_sync` begins. -/
  | write (w : WireWrite)
  /-- One of these calls sends the next log or trace event. -/
  | send (i : Nat)
  /-- The log task receives a log and looks its context up. -/
  | enrich (tick : Tick)
  /-- The trace task receives an event and hands it to the dispatcher. -/
  | trace (tick : Tick)
  | sweep (tick : Tick)

def start (logCapacity traceCapacity : Nat) : Pipeline := ⟨∅, [], .empty logCapacity, .empty traceCapacity, .new, [], []⟩

def deliver (p : Pipeline) : Delivery → Pipeline
  | .log sent => { p with logs := p.logs.trySend sent }
  | .event netId port ev => { p with events := p.events.trySend (netId, port, ev) }

def step (cfg : Config) (host : RouterEnv) (p : Pipeline) : Event → Pipeline
  | .write w =>
    { p with
      registry := w.registry host.env p.registry
      outgoing := p.outgoing ++ [w.deliveries host (w.registry host.env p.registry) p.spans]
      spans := w.spansAfter host.env p.spans }
  | .send i =>
    match p.outgoing[i]? with
    | some (next :: later) => { p.deliver next with outgoing := p.outgoing.set i later }
    | _ => p
  | .enrich tick =>
    match p.logs.queue.head? with
    | some sent =>
      -- the lookup holds the lock of the dispatcher, so that it is one step
      { p with
        logs := p.logs.rest
        enriched := p.enriched ++ [(sent, sent.entry.enrich tick p.dispatcher)] }
    | none => p
  | .trace tick =>
    match p.events.queue.head? with
    | some (netId, port, ev) =>
      { p with
        events := p.events.rest
        dispatcher := p.dispatcher.serve cfg ⟨tick, .event netId port ev⟩ }
    | none => p
  | .sweep tick => { p with dispatcher := p.dispatcher.serve cfg ⟨tick, .sweep⟩ }

/-! ### The router among the tasks -/

/-- The router with the registry and the channels of the pipeline. -/
def asRouter (r : AdsRouter) (p : Pipeline) : AdsRouter :=
  { r with
    registry := p.registry
    logTx := p.logs.map SentLog.entry
    traceTx := some p.events }

/-- What a call has left to send reaches the channels in its order. -/
theorem sends_eq (cfg : Config) (host : RouterEnv) (call : p.outgoing[i]? = some left) :
    let sent := (List.replicate left.length (Event.send i)).foldl (step cfg host) p
    sent.registry = p.registry ∧ sent.logs = p.logs.trySendAll (left.filterMap Delivery.log?) ∧
      sent.events = p.events.trySendAll (left.filterMap Delivery.event?) := by
  induction left generalizing p with
  | nil => exact ⟨rfl, rfl, rfl⟩
  | cons next left ih =>
    -- the call is still at its place, with one thing less to send
    have inside : i < p.outgoing.length := (List.getElem?_eq_some_iff.mp call).1
    have stepped : p.step cfg host (.send i) = { p.deliver next with outgoing := p.outgoing.set i left } := by
      rw [step, call]
    have rest : (p.step cfg host (.send i)).outgoing[i]? = some left := by
      rw [stepped]
      simp [inside]
    have later := ih rest
    simp only [List.length_cons, List.replicate_succ, List.foldl_cons] at later ⊢
    obtain ⟨registry, logs, events⟩ := later
    rw [registry, logs, events, stepped]
    cases next with
    | log sent | event netId port ev => exact ⟨rfl, rfl, rfl⟩

/-- A call that no other is interleaved with is `dispatch_write_sync`. -/
theorem asRouter_write (cfg : Config) (host : RouterEnv) (r : AdsRouter) (p : Pipeline) (w : WireWrite) :
    let called := p.step cfg host (.write w)
    let count := (w.deliveries host called.registry p.spans).length
    ((List.replicate count (Event.send p.outgoing.length)).foldl (step cfg host) called).asRouter r =
      (p.asRouter r).dispatchWriteSync host w.netId.display w.port w.peerAddress (encodeAll w.messages) := by
  intro called count
  have call : called.outgoing[p.outgoing.length]? = some (w.deliveries host called.registry p.spans) :=
    List.getElem?_concat_length
  obtain ⟨registry, logs, events⟩ := sends_eq cfg host call
  -- the two channels see the logs and the events of the write, each in their order
  have onlyLogs : (w.deliveries host called.registry p.spans).filterMap Delivery.log? =
      w.logsFrom host called.registry p.spans (w.parsed host.env) := by
    simp [WireWrite.deliveries, Function.comp_def, Delivery.log?]
  have onlyEvents : (w.deliveries host called.registry p.spans).filterMap Delivery.event? =
      ((w.parsed host.env).filterMap Message.traceEvent?).map fun ev => (w.netId, w.port, ev) := by
    simp [WireWrite.deliveries, Function.comp_def, Delivery.event?]
  rw [onlyLogs] at logs
  rw [onlyEvents] at events
  rw [AdsRouter.dispatchWriteSync, (parseAll_eq_some_iff w.size).mpr (parses_encodeAll host.env w.messages),
    AmsNetId.fromStrRef_display]
  rw [asRouter, registry, logs, events, Channel.map_trySendAll, WireWrite.map_entry_logsFrom]
  rfl

/-! ### Stamped logs -/

/-- Every log that was sent on carries the ids that are due to it. -/
def Correlated (p : Pipeline) : Prop := ∀ done ∈ p.enriched, ∀ ids ∈ done.1.due, done.2.ids = ids
deriving Decidable

/-- When the log task takes a log, the pending span of its task that started last is the one that
was innermost where the log was written. -/
def InStep (p : Pipeline) : Event → Prop
  | .enrich tick =>
    ∀ sent ∈ p.logs.queue.head?, ∀ ids ∈ sent.due, Shows (p.dispatcher.spansOf tick sent.sender sent.entry.taskByte) ids
  | _ => True

theorem ids_enrich_due_iff {sent : SentLog} (due : ids ∈ sent.due) (tick : Tick) (d : SpanDispatcher) :
    (sent.entry.enrich tick d).ids = ids ↔ Shows (d.spansOf tick sent.sender sent.entry.taskByte) ids := by
  have untraced : sent.entry.ids = noIds := by
    by_contra traced
    rw [SentLog.due, if_neg traced] at due
    cases due
  rw [ids_enrich untraced sent.from_sender, currentIds_eq_iff]

theorem correlated_step_iff (cfg : Config) (host : RouterEnv) (p : Pipeline) (event : Event) :
    Correlated (p.step cfg host event) ↔ Correlated p ∧ InStep p event := by
  -- only the log task sends logs on
  have unchanged : ∀ q : Pipeline, q.enriched = p.enriched → (Correlated q ↔ Correlated p ∧ True) := by
    intro q same
    rw [Correlated, same, and_true]
    rfl
  cases event with
  | write w => exact unchanged _ rfl
  | send i =>
    apply unchanged
    rw [step]
    split
    next next later call => cases next <;> rfl
    next => rfl
  | trace tick =>
    apply unchanged
    rw [step]
    split <;> rfl
  | sweep tick => exact unchanged _ rfl
  | enrich tick =>
    rw [step, InStep]
    cases first : p.logs.queue.head? with
    | none => simp
    | some sent =>
      simp only [Correlated, List.forall_mem_append, List.forall_mem_singleton, Option.mem_some_iff, forall_eq']
      refine and_congr_right fun _ => forall₂_congr fun ids due => ?_
      exact ids_enrich_due_iff due tick p.dispatcher

def sampleSpanId : Bytes 8 := ⟨[0, 0, 0, 0, 0, 0, 0, 7], rfl⟩

def sampleTraceId : Bytes 16 := ⟨[0, 0, 0, 0, 0, 0, 0, 0, 0, 0, 0, 0, 0, 0, 0, 5], rfl⟩

def sampleSpanBegin : WireSpanBegin where
  localId := 1
  taskIndex := 1
  flags := 0
  dcTime := 1
  parentSpanId := Bytes.zero 8
  kind := 0
  reserved := Bytes.zero 2
  traceId := sampleTraceId
  spanId := sampleSpanId
  name := ⟨"move", by decide +kernel⟩
  traceparent := none
  scopeNamespace := none
  traceparent_flag := by decide
  namespace_flag := by decide

/-- SPAN_BEGIN, a log of the same task and SPAN_END. -/
def sampleSpanWrite : WireWrite where
  netId := plc 1
  port := 350
  peerAddress := none
  messages := [.spanBegin sampleSpanBegin, sampleV2,
    .spanEnd { sampleSpanEnd with spanId := sampleSpanId, dcTime := 2 }]
  size := by decide +kernel

/-- A run in which both channels have room for eight messages. -/
def sampleRun (schedule : List Event) : Pipeline := schedule.foldl (step sampleConfig AdsRouter.sampleHost) (start 8 8)

/-- The log task is first. -/
def logFirst : List Event :=
  [.write sampleSpanWrite, .send 0, .send 0, .send 0, .enrich (.atInstant 1), .trace (.atInstant 2), .trace (.atInstant 3)]

/-- The log task comes between the two events of the trace task. -/
def logBetween : List Event :=
  [.write sampleSpanWrite, .send 0, .send 0, .send 0, .trace (.atInstant 1), .enrich (.atInstant 2), .trace (.atInstant 3)]

example : Correlated (sampleRun logBetween) := by decide +kernel

end Pipeline

end TcOtel.Service
