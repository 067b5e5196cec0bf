import Mathlib.Data.List.AList
import Mathlib.Data.List.MinMax
import TcOtel.Ads.Protocol

/-!
# `SpanDispatcher`

Trace events arrive one at a time and are put together to spans. A span is pending from its
SPAN_BEGIN until it ends, is begun again, is evicted or outlives its time to live; it then
becomes one `TraceRecord`. The pending spans are held by PLC and span id, with a second map
from the span id alone.

The dispatcher is taken as the release build runs it: `debug_assert_eq!` does nothing, and
integer overflow wraps.
-/

namespace TcOtel.Service

open Decoding Ads

/-! ### Spans -/

structure SpanKey where
  amsNetId : AmsNetId
  spanId : Bytes 8
deriving DecidableEq

structure SpanEvent where
  time : DateTime
  name : String
  attrs : List (String × AttrValue)
deriving DecidableEq

structure PendingSpan where
  traceId : Bytes 16
  spanId : Bytes 8
  parentSpanId : Option (Bytes 8)
  name : String
  kind : UInt8
  startTime : DateTime
  attrs : HashMap String AttrValue
  events : List SpanEvent
  deadline : Nat
  orphanReason : Option String
  amsNetId : AmsNetId
  taskIndex : UInt8
  amsSourcePort : UInt16
  amsAppPort : UInt16
  appName : String
  projectName : String
  scopeNamespace : String
deriving DecidableEq

def PendingSpan.key (p : PendingSpan) : SpanKey := ⟨p.amsNetId, p.spanId⟩

/-! ### What a call takes from outside -/

/-- The order in which a `HashMap` is iterated: any order of its keys, at every call. -/
structure IterOrder (κ : Type) where
  arrange : List κ → List κ
  perm : ∀ keys, (arrange keys).Perm keys

def IterOrder.asListed (κ : Type) : IterOrder κ := ⟨id, fun _ => .refl _⟩

/-- The settings of a dispatcher; the time to live is in nanoseconds. -/
structure Config where
  chrono : Chrono
  spanTtl : Nat
  maxPending : Nat
  serviceName : String
  hostName : String

/-- The surroundings of one call. A call finalises a span at most once, so that functions of
the key cover every way the clock may run and the channel may fill meanwhile. -/
structure Tick where
  /-- `Instant::now`, in nanoseconds. -/
  instant : Nat
  /-- `Utc::now` for a DC time that cannot be used. -/
  now : DateTime
  /-- `Utc::now` when a span is timed out. -/
  utc : SpanKey → DateTime
  /-- Whether `try_send` finds room for the record of a span. -/
  room : SpanKey → Bool
  registry : RegistrationKey → Option TaskMetadata
  order : IterOrder SpanKey

/-- Nothing registered and room in the channel, to evaluate the model with. -/
def Tick.atInstant (instant : Nat) : Tick where
  instant := instant
  now := ⟨0, 0⟩
  utc _ := ⟨0, 0⟩
  room _ := true
  registry _ := none
  order := .asListed SpanKey

/-! ### Helpers of the source -/

def utf8Length (text : List Char) : Nat := (text.map Char.utf8Size).sum

/-- `00-<32 hex>-<16 hex>-<2 hex>`; the last part may be anything. -/
def parseW3cTraceparent (s : String) : Option (Bytes 16 × Bytes 8) :=
  match s.toList.splitOn '-' with
  | [version, traceHex, spanHex, _] =>
    if version ≠ ['0', '0'] then none
    else if utf8Length traceHex ≠ 32 then none
    else do
      let traceId ← hexDecode traceHex
      let tid ← Bytes.ofList? 16 traceId
      if utf8Length spanHex ≠ 16 then none
      else do
        let spanId ← hexDecode spanHex
        let sid ← Bytes.ofList? 8 spanId
        pure (tid, sid)
  | _ => none

def dcEpochOffsetNs : Int64 := 946684800000000000

/-- Nanoseconds since 2000 as a date; the current time when there is none. -/
def dcTimeToDatetime (chrono : Chrono) (now : DateTime) (dcNanos : Int64) : DateTime :=
  if dcNanos ≤ 0 then now
  else
    -- an `i64` that wraps for a time beyond 2262
    let unixNanos := dcNanos + dcEpochOffsetNs
    let secs := unixNanos / 1000000000
    let nanos := (unixNanos % 1000000000).toUInt64.toUInt32
    (chrono.fromTimestamp secs.toInt nanos.toNat).getD now

def statusCode (status : UInt8) : SpanStatusCode :=
  match status.toNat with
  | 0 => .unset
  | 1 => .ok
  | 2 => .error
  | _ => .unset

def toJsonPair (pair : String × AttrValue) : String × Value := (pair.1, pair.2.toJson)

def SpanEvent.toRecord (ev : SpanEvent) : TraceEventRecord where
  timestamp := ev.time
  name := ev.name
  attributes := .ofList (ev.attrs.map toJsonPair)

/-- The record `finalise` makes of a span. -/
def PendingSpan.toRecord (cfg : Config) (p : PendingSpan) (endTime : DateTime)
    (status : SpanStatusCode) (message : String) : TraceRecord where
  traceId := hexEncode p.traceId.val
  spanId := hexEncode p.spanId.val
  parentSpanId := (p.parentSpanId.map fun id => hexEncode id.val).getD ""
  name := p.name
  kind := Int32.ofNat p.kind.toNat
  startTime := p.startTime
  endTime := endTime
  statusCode := status.asI32
  statusMessage := message
  resourceAttributes :=
    (buildOtelResource (if p.projectName.isEmpty then cfg.serviceName else p.projectName) p.appName
      cfg.hostName p.amsNetId.display p.amsAppPort p.amsSourcePort).insert
      "tc.task.index" (.int p.taskIndex.toNat)
  scopeName := p.scopeNamespace
  scopeAttributes := ∅
  spanAttributes := p.attrs.mapValues AttrValue.toJson
  events := p.events.map SpanEvent.toRecord

/-! ### The dispatcher -/

/-- A `try_send` to the channel: the record, the span it was made of, and whether there was
room. -/
structure Sent where
  span : PendingSpan
  record : TraceRecord
  accepted : Bool
deriving DecidableEq

/-- The state of a dispatcher, with all it has sent so far. `pending` is iterated, so that its
keys are in a list; the order in the list is of no account, see `IterOrder`. -/
structure SpanDispatcher where
  pending : AList fun _ : SpanKey => PendingSpan
  pendingBySpanId : HashMap (Bytes 8) SpanKey
  orphanCounter : UInt64
  traceTx : List Sent

namespace SpanDispatcher

def new : SpanDispatcher := ⟨∅, ∅, 0, []⟩

def pendingCount (d : SpanDispatcher) : Nat := d.pending.keys.length

def iter (tick : Tick) (d : SpanDispatcher) : List (SpanKey × PendingSpan) :=
  (tick.order.arrange d.pending.keys).filterMap fun key =>
    (d.pending.lookup key).map fun p => (key, p)

def finalise (cfg : Config) (tick : Tick) (p : PendingSpan) (endTime : DateTime)
    (status : SpanStatusCode) (message : String) (d : SpanDispatcher) : SpanDispatcher :=
  { d with traceTx := d.traceTx ++ [⟨p, p.toRecord cfg endTime status message, tick.room p.key⟩] }

def timeoutMessage (cfg : Config) : String :=
  s!"span did not end within {cfg.spanTtl / 1000000000} seconds"

def finaliseTimedOut (cfg : Config) (tick : Tick) (p : PendingSpan) (d : SpanDispatcher) : SpanDispatcher :=
  d.finalise cfg tick p (tick.utc p.key) .error (timeoutMessage cfg)

/-- Take a span out of both maps and send it as timed out. Eviction, the sweep and a second
SPAN_BEGIN for a key all do this. -/
def flush (cfg : Config) (tick : Tick) (d : SpanDispatcher) (key : SpanKey) : SpanDispatcher :=
  match d.pending.lookup key with
  | none => d
  | some p =>
    finaliseTimedOut cfg tick p
      { d with pending := d.pending.erase key, pendingBySpanId := d.pendingBySpanId.erase p.spanId }

/-- The span that would be evicted: the first one with the least deadline. -/
def oldestKey (tick : Tick) (d : SpanDispatcher) : Option SpanKey :=
  ((d.iter tick).argmin fun entry => entry.2.deadline).map Prod.fst

def evictOldest (cfg : Config) (tick : Tick) (d : SpanDispatcher) : SpanDispatcher :=
  match d.oldestKey tick with
  | some key => d.flush cfg tick key
  | none => d

def expired (tick : Tick) (d : SpanDispatcher) : List SpanKey :=
  ((d.iter tick).filter fun entry => decide (entry.2.deadline ≤ tick.instant)).map Prod.fst

def sweepTimedOut (cfg : Config) (tick : Tick) (d : SpanDispatcher) : SpanDispatcher :=
  (d.expired tick).foldl (flush cfg tick) d

/-! ### SPAN_BEGIN -/

/-- What the parent of a new span comes out as. -/
structure Lineage where
  traceId : Bytes 16
  parentSpanId : Option (Bytes 8)
  orphanReason : Option String
  /-- Whether the orphan counter goes up. -/
  counted : Bool
deriving DecidableEq

/-- An external traceparent comes first, then a pending parent, then the ids of the event. -/
def resolveParent (d : SpanDispatcher) (ev : SpanBegin) : Lineage :=
  match ev.traceparent with
  | some tp =>
    match parseW3cTraceparent tp with
    | some (tid, sid) => ⟨tid, some sid, none, false⟩
    -- a traceparent that cannot be read hides a pending parent
    | none => ⟨ev.traceId, none, none, false⟩
  | none =>
    if ev.parentSpanId ≠ Bytes.zero 8 then
      match d.pendingBySpanId.lookup ev.parentSpanId with
      | some parentKey =>
        match d.pending.lookup parentKey with
        | some parent => ⟨parent.traceId, some ev.parentSpanId, none, false⟩
        -- the two maps disagree; the counter stays
        | none => ⟨ev.traceId, none, some "parent_span_id_not_in_pending", false⟩
      | none =>
        ⟨ev.traceId, none, some s!"parent_span_id_{ev.parentSpanId.val}_not_found", true⟩
    else ⟨ev.traceId, none, none, false⟩

/-- The attributes a span starts with. -/
def orphanAttrs (orphanReason : Option String) : HashMap String AttrValue :=
  match orphanReason with
  | some reason => Finmap.insert "TCOTEL.orphan_reason" (.string reason) ∅
  | none => ∅

def newSpan (cfg : Config) (tick : Tick) (netId : AmsNetId) (port : UInt16) (ev : SpanBegin)
    (lineage : Lineage) : PendingSpan :=
  let registered := (tick.registry ⟨netId.display, port, ev.taskIndex⟩).getD ⟨"", "", "", 0, 0⟩
  { traceId := lineage.traceId
    spanId := ev.spanId
    parentSpanId := lineage.parentSpanId
    name := ev.name
    kind := ev.kind
    startTime := dcTimeToDatetime cfg.chrono tick.now ev.dcTime
    attrs := orphanAttrs lineage.orphanReason
    events := []
    deadline := tick.instant + cfg.spanTtl
    orphanReason := lineage.orphanReason
    amsNetId := netId
    taskIndex := ev.taskIndex
    amsSourcePort := port
    amsAppPort := registered.appPort
    appName := registered.appName
    projectName := registered.projectName
    scopeNamespace := ev.scopeNamespace }

def openSpan (p : PendingSpan) (d : SpanDispatcher) : SpanDispatcher :=
  { d with
    pendingBySpanId := d.pendingBySpanId.insert p.spanId p.key
    pending := d.pending.insert p.key p }

def countOrphan (lineage : Lineage) (d : SpanDispatcher) : SpanDispatcher :=
  if lineage.counted then { d with orphanCounter := d.orphanCounter + 1 } else d

def makeRoom (cfg : Config) (tick : Tick) (d : SpanDispatcher) : SpanDispatcher :=
  if d.pendingCount ≥ cfg.maxPending then d.evictOldest cfg tick else d

def onBegin (cfg : Config) (tick : Tick) (netId : AmsNetId) (port : UInt16) (ev : SpanBegin)
    (d : SpanDispatcher) : SpanDispatcher :=
  let lineage := d.resolveParent ev
  let flushed := ((d.countOrphan lineage).makeRoom cfg tick).flush cfg tick ⟨netId, ev.spanId⟩
  flushed.openSpan (newSpan cfg tick netId port ev lineage)

/-! ### The other events

They look a span up by its id alone, whichever PLC sends them. -/

def modify (spanId : Bytes 8) (f : PendingSpan → PendingSpan) (d : SpanDispatcher) : SpanDispatcher :=
  match d.pendingBySpanId.lookup spanId with
  | some key =>
    match d.pending.lookup key with
    | some p => { d with pending := d.pending.insert key (f p) }
    | none => d
  | none => d

def onAttr (ev : SpanAttr) : SpanDispatcher → SpanDispatcher :=
  modify ev.spanId fun p => { p with attrs := p.attrs.insert ev.key ev.value }

def onEventEv (cfg : Config) (tick : Tick) (ev : SpanPoint) : SpanDispatcher → SpanDispatcher :=
  modify ev.spanId fun p =>
    { p with
      events := p.events ++ [⟨dcTimeToDatetime cfg.chrono tick.now ev.dcTime, ev.name, ev.attrs⟩] }

def onEnd (cfg : Config) (tick : Tick) (ev : SpanEnd) (d : SpanDispatcher) : SpanDispatcher :=
  match d.pendingBySpanId.lookup ev.spanId with
  | some key =>
    match d.pending.lookup key with
    | some p =>
      finalise cfg tick p (dcTimeToDatetime cfg.chrono tick.now ev.dcTime) (statusCode ev.status)
        ev.message
        { d with pending := d.pending.erase key
                 pendingBySpanId := d.pendingBySpanId.erase ev.spanId }
    | none => d
  | none => d

def onEvent (cfg : Config) (tick : Tick) (netId : AmsNetId) (port : UInt16) (ev : TraceWireEvent)
    (d : SpanDispatcher) : SpanDispatcher :=
  match ev with
  | .spanBegin ev => d.onBegin cfg tick netId port ev
  | .spanAttr ev => d.onAttr ev
  | .spanEvent ev => d.onEventEv cfg tick ev
  | .spanEnd ev => d.onEnd cfg tick ev

end SpanDispatcher

/-! ### Runs -/

inductive Request where
  | event (netId : AmsNetId) (port : UInt16) (ev : TraceWireEvent)
  | sweep
deriving DecidableEq

structure Call where
  tick : Tick
  request : Request

/-- The key of the span that a call begins. -/
def Call.beginKey? (call : Call) : Option SpanKey :=
  match call.request with
  | .event netId _ (.spanBegin ev) => some ⟨netId, ev.spanId⟩
  | _ => none

def SpanDispatcher.serve (cfg : Config) (d : SpanDispatcher) (call : Call) : SpanDispatcher :=
  match call.request with
  | .event netId port ev => d.onEvent cfg call.tick netId port ev
  | .sweep => d.sweepTimedOut cfg call.tick

def serveAll (cfg : Config) (calls : List Call) : SpanDispatcher :=
  calls.foldl (SpanDispatcher.serve cfg) .new

end TcOtel.Service
