import TcOtel.Core.Entries
import TcOtel.Export.TracesProto
import TcOtel.Service.SpanIndex

/-!
# Two ways to a record

A record for export is made by `finalise` of a pending span, or by `from_span_entry` of an entry
that describes a span as a whole. Both are then encoded by `build_span`. They agree on the ids,
the name, the times, the status and the events of a span. They do not agree on its kind:
`from_span_entry` translates it to the numbers of OTLP, `finalise` hands on the number of the PLC,
which is one less. Nor do they agree on the parent of a root span.
-/

namespace TcOtel.Service

open Decoding Ads Export

/-- The entry describes this span, ended at this time with this status. What a pending span does
not know, such as the name of the task, may be anything. -/
structure Equivalent (p : PendingSpan) (endTime : DateTime) (status : SpanStatusCode) (message : String)
    (e : SpanEntry) : Prop where
  traceId : e.traceId = p.traceId
  spanId : e.spanId = p.spanId
  parentSpanId : e.parentSpanId = p.parentSpanId.getD (Bytes.zero 8)
  name : e.name = p.name
  kind : SpanKind.fromU8 p.kind = some e.kind
  startTime : e.startTime = p.startTime
  endTime : e.endTime = endTime
  statusCode : e.statusCode = status
  statusMessage : e.statusMessage = message
  amsNetId : e.amsNetId = p.amsNetId.display
  amsSourcePort : e.amsSourcePort = p.amsSourcePort
  amsAppPort : e.amsAppPort = p.amsAppPort
  taskIndex : e.taskIndex = Int32.ofNat p.taskIndex.toNat
  appName : e.appName = p.appName
  projectName : e.projectName = p.projectName
  scopeNamespace : e.scopeNamespace = p.scopeNamespace
  attributes : e.attributes = p.attrs.mapValues AttrValue.toJson
  events : e.events.map TcOtel.SpanEvent.toRecord = p.events.map SpanEvent.toRecord

def SpanEvent.toEntryEvent (ev : SpanEvent) : TcOtel.SpanEvent where
  timestamp := ev.time
  name := ev.name
  attributes := .ofList (ev.attrs.map toJsonPair)

def PendingSpan.describedBy (p : PendingSpan) (kind : SpanKind) (endTime : DateTime) (status : SpanStatusCode)
    (message : String) : SpanEntry where
  traceId := p.traceId
  spanId := p.spanId
  parentSpanId := p.parentSpanId.getD (Bytes.zero 8)
  name := p.name
  kind := kind
  statusCode := status
  statusMessage := message
  startTime := p.startTime
  endTime := endTime
  source := ""
  hostname := ""
  amsNetId := p.amsNetId.display
  amsSourcePort := p.amsSourcePort
  amsAppPort := p.amsAppPort
  taskIndex := Int32.ofNat p.taskIndex.toNat
  taskName := ""
  taskCycleCounter := 0
  appName := p.appName
  projectName := p.projectName
  scopeNamespace := p.scopeNamespace
  attributes := p.attrs.mapValues AttrValue.toJson
  events := p.events.map SpanEvent.toEntryEvent

theorem equivalent_describedBy (known : SpanKind.fromU8 p.kind = some kind)
    (endTime : DateTime) (status : SpanStatusCode) (message : String) :
    Equivalent p endTime status message (p.describedBy kind endTime status message) where
  traceId := rfl
  spanId := rfl
  parentSpanId := rfl
  name := rfl
  kind := known
  startTime := rfl
  endTime := rfl
  statusCode := rfl
  statusMessage := rfl
  amsNetId := rfl
  amsSourcePort := rfl
  amsAppPort := rfl
  taskIndex := rfl
  appName := rfl
  projectName := rfl
  scopeNamespace := rfl
  attributes := rfl
  events := by
    rw [PendingSpan.describedBy, List.map_map]
    rfl

def SameSpan (record other : TraceRecord) : Prop :=
  ∃ span, buildSpan record = some span ∧ buildSpan other = some span

section

variable {cfg : Config} {p : PendingSpan} {endTime : DateTime} {status : SpanStatusCode} {message : String}
  {e : SpanEntry}

def finalisedSpan (p : PendingSpan) (endTime : DateTime) (status : SpanStatusCode) (message : String) : Export.Span where
  traceId := p.traceId.val
  spanId := p.spanId.val
  -- a span without a parent has no parent id
  parentSpanId := (p.parentSpanId.map Subtype.val).getD []
  name := p.name
  kind := Int32.ofNat p.kind.toNat
  startTimeUnixNano := datetimeToUnixNano p.startTime
  endTimeUnixNano := datetimeToUnixNano endTime
  attributes := buildAttributes (p.attrs.mapValues AttrValue.toJson)
  events := p.events.map fun ev => buildEvent ev.toRecord
  status := ⟨message, status.asI32⟩

def entrySpan (e : SpanEntry) : Export.Span where
  traceId := e.traceId.val
  spanId := e.spanId.val
  parentSpanId := e.parentSpanId.val
  name := e.name
  kind := e.kind.toOtelKind
  startTimeUnixNano := datetimeToUnixNano e.startTime
  endTimeUnixNano := datetimeToUnixNano e.endTime
  attributes := buildAttributes e.spanAttributes
  events := e.events.map fun ev => buildEvent ev.toRecord
  status := ⟨e.statusMessage, e.statusCode.toOtelStatus⟩

theorem buildSpan_toRecord : buildSpan (p.toRecord cfg endTime status message) =
    some (finalisedSpan p endTime status message) := by
  have parent : decodeSpanIdHex ((p.parentSpanId.map fun id => hexEncode id.val).getD "") =
      some ((p.parentSpanId.map Subtype.val).getD []) := by
    cases p.parentSpanId with
    | none => exact decodeSpanIdHex_empty
    | some id => exact decodeSpanIdHex_hexEncode id
  simp only [buildSpan, PendingSpan.toRecord, decodeTraceIdHex_hexEncode, decodeSpanIdHex_hexEncode, parent,
    List.map_map]
  rfl

theorem buildSpan_fromSpanEntry (e : SpanEntry) : buildSpan (.fromSpanEntry e) = some (entrySpan e) := by
  simp only [buildSpan, TraceRecord.fromSpanEntry, decodeTraceIdHex_hexEncode, decodeSpanIdHex_hexEncode,
    List.map_map]
  rfl

theorem sameSpan_iff : SameSpan (p.toRecord cfg endTime status message) (.fromSpanEntry e) ↔
    finalisedSpan p endTime status message = entrySpan e := by
  simp only [SameSpan, buildSpan_toRecord, buildSpan_fromSpanEntry, Option.some.injEq]
  constructor
  · rintro ⟨span, rfl, same⟩
    exact same.symm
  · exact fun same => ⟨_, rfl, same.symm⟩

theorem Equivalent.kind_ne (equivalent : Equivalent p endTime status message e) :
    (finalisedSpan p endTime status message).kind ≠ (entrySpan e).kind := by
  have number : e.kind.asU8 = p.kind := SpanKind.fromU8_eq_some_iff.mp equivalent.kind
  change Int32.ofNat p.kind.toNat ≠ e.kind.toOtelKind
  rw [← number]
  cases e.kind <;> decide

/-- No finished span is exported as the entry that describes it. -/
theorem finalised_not_sameSpan (equivalent : Equivalent p endTime status message e) :
    ¬SameSpan (p.toRecord cfg endTime status message) (.fromSpanEntry e) := by
  rw [sameSpan_iff]
  exact fun same => equivalent.kind_ne (congrArg Export.Span.kind same)

end

/-! ### A server span -/

/-- The span of a server, with a parent. -/
def serverSpan : PendingSpan :=
  SpanDispatcher.newSpan sampleConfig (.atInstant 1) (plc 1) 350 { rootSpan 7 "a" with kind := SpanKind.server.asU8 }
    ⟨(rootSpan 7 "a").traceId, some (rootSpan 8 "b").spanId, none, false⟩

theorem finalised_not_sameSpan_server : ¬SameSpan (serverSpan.toRecord sampleConfig ⟨3, 0⟩ .ok "")
      (.fromSpanEntry (serverSpan.describedBy .server ⟨3, 0⟩ .ok "")) :=
  finalised_not_sameSpan (equivalent_describedBy (by decide) ⟨3, 0⟩ .ok "")

/-- It is exported as an internal one. -/
theorem serverSpan_not_sameSpan :
    Equivalent serverSpan ⟨3, 0⟩ .ok "" (serverSpan.describedBy .server ⟨3, 0⟩ .ok "") ∧
      (buildSpan (serverSpan.toRecord sampleConfig ⟨3, 0⟩ .ok "")).map Export.Span.kind =
        some SpanKind.internal.toOtelKind ∧
      (buildSpan (.fromSpanEntry (serverSpan.describedBy .server ⟨3, 0⟩ .ok ""))).map Export.Span.kind =
        some SpanKind.server.toOtelKind ∧ ¬SameSpan (serverSpan.toRecord sampleConfig ⟨3, 0⟩ .ok "")
        (.fromSpanEntry (serverSpan.describedBy .server ⟨3, 0⟩ .ok "")) := by
  have equivalent : Equivalent serverSpan ⟨3, 0⟩ .ok "" (serverSpan.describedBy .server ⟨3, 0⟩ .ok "") :=
    equivalent_describedBy (by decide) ⟨3, 0⟩ .ok ""
  refine ⟨equivalent, ?_, ?_, ?_⟩
  · rw [buildSpan_toRecord]
    decide
  · rw [buildSpan_fromSpanEntry]
    decide
  · rw [sameSpan_iff]
    exact fun same => equivalent.kind_ne (congrArg Export.Span.kind same)

end TcOtel.Service
