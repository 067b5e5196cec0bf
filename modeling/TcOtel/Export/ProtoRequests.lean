import TcOtel.Export.ProtoCommon
import Mathlib

/-!
# Protobuf requests

`build_request` of `logs_proto.rs`, `metrics_proto.rs` and `traces_proto.rs`. The three group their
records in the same way, the last one by another loop. Every record of a batch is written once, in a
block with its resource and under the name of its scope, and no block has its records in another order
than the batch; that is, unless the id of some record makes the decoder of ids panic
(`records_placed_iff`).
-/

namespace TcOtel.Otlp

open Rendering Bucketing
open TcOtel.Export (decodeTraceIdHex decodeSpanIdHex datetimeToUnixNano)

/-! ### Logs -/

/-- A `LogRecord` message, without the fields that are always empty or zero. -/
structure ProtoLogRecord where
  timeUnixNano : UInt64
  observedTimeUnixNano : UInt64
  severityNumber : Int32
  severityText : String
  body : Option AnyValue
  attributes : Multiset (String × AnyValue)
  traceId : List UInt8
  spanId : List UInt8

/-- A body that is not a string is written as its JSON text. -/
def buildBody (z : Zmij) : Json → Option AnyValue
  | .string s => some (.stringValue s)
  | .null => none
  | other => some (.stringValue (Json.toString z other))

def buildLogRecord (z : Zmij) (record : LogRecord) : Option ProtoLogRecord := do
  let ts := datetimeToUnixNano record.timestamp
  let traceId ← decodeTraceIdHex record.traceId
  let spanId ← decodeSpanIdHex record.spanId
  pure {
    timeUnixNano := ts
    observedTimeUnixNano := ts
    severityNumber := record.severityNumber
    severityText := record.severityText
    body := buildBody z record.body
    attributes := buildAttributes record.logAttributes
    traceId, spanId }

/-- A scope has the attributes of its first record. -/
def buildScopeLogs (z : Zmij) (scopeName : String) (bucket : List LogRecord) : Option (ScopeBlock ProtoLogRecord) := do
  let first ← bucket.head?
  let records ← bucket.mapM (buildLogRecord z)
  pure {
    scope := { name := scopeName, version := crateVersion, attributes := buildAttributes first.scopeAttributes }
    records }

def LogRecord.effectiveScope (record : LogRecord) : String := effectiveScopeName record.scopeName

def buildLogsRequest (z : Zmij) (records : List LogRecord) : Option (List (ResourceBlock ProtoLogRecord)) :=
  if records.isEmpty then some []
  else
    buildBlocks z LogRecord.resourceAttributes (fun bucket => some (scopeBuckets LogRecord.effectiveScope bucket))
      (buildScopeLogs z) records

/-! ### Metrics -/

structure Exemplar where
  timeUnixNano : UInt64
  spanId : List UInt8
  traceId : List UInt8
  value : Option F64

structure NumberDataPoint where
  attributes : Multiset (String × AnyValue)
  timeUnixNano : UInt64
  exemplars : List Exemplar
  value : Option F64

structure HistogramDataPoint where
  attributes : Multiset (String × AnyValue)
  timeUnixNano : UInt64
  count : UInt64
  sum : Option F64
  bucketCounts : List UInt64
  explicitBounds : List F64
  exemplars : List Exemplar

inductive MetricData where
  | gauge (dataPoints : List NumberDataPoint)
  | sum (dataPoints : List NumberDataPoint) (aggregationTemporality : Int32) (isMonotonic : Bool)
  | histogram (dataPoints : List HistogramDataPoint) (aggregationTemporality : Int32)

structure Metric where
  name : String
  description : String
  unit : String
  data : MetricData

def cumulative : Int32 := 2

/-- No exemplar for ids that are both empty, and none for ids that are both malformed. -/
def buildExemplars (record : MetricRecord) (tsUnixNano : UInt64) : Option (List Exemplar) :=
  if record.traceId.isEmpty && record.spanId.isEmpty then some []
  else do
    let traceId ← decodeTraceIdHex record.traceId
    let spanId ← decodeSpanIdHex record.spanId
    -- ids that are malformed decode to nothing
    if traceId.isEmpty && spanId.isEmpty then pure []
    else pure [{ timeUnixNano := tsUnixNano, spanId, traceId, value := some record.value }]

def buildNumberDataPoint (record : MetricRecord) : Option NumberDataPoint := do
  let ts := datetimeToUnixNano record.timestamp
  let exemplars ← buildExemplars record ts
  pure { attributes := buildAttributes record.attributes, timeUnixNano := ts, exemplars, value := some record.value }

def buildHistogramDataPoint (record : MetricRecord) : Option HistogramDataPoint := do
  let ts := datetimeToUnixNano record.timestamp
  let exemplars ← buildExemplars record ts
  pure {
    attributes := buildAttributes record.attributes
    timeUnixNano := ts
    count := record.histogramCount
    sum := some record.histogramSum
    bucketCounts := record.histogramCounts
    explicitBounds := record.histogramBounds
    exemplars }

def buildMetric (record : MetricRecord) : Option Metric := do
  let data ←
    match record.kind with
    | .gauge => do
      let point ← buildNumberDataPoint record
      pure (MetricData.gauge [point])
    | .sum => do
      let point ← buildNumberDataPoint record
      pure (.sum [point] cumulative record.isMonotonic)
    | .histogram => do
      let point ← buildHistogramDataPoint record
      pure (.histogram [point] cumulative)
  pure { name := record.name, description := record.description, unit := record.unit, data }

def buildScopeMetrics (scopeName : String) (bucket : List MetricRecord) : Option (ScopeBlock Metric) := do
  let records ← bucket.mapM buildMetric
  pure { scope := { name := scopeName, version := crateVersion, attributes := 0 }, records }

def MetricRecord.effectiveScope (record : MetricRecord) : String := effectiveScopeName record.scopeName

def buildMetricsRequest (z : Zmij) (records : List MetricRecord) : Option (List (ResourceBlock Metric)) :=
  if records.isEmpty then some []
  else
    buildBlocks z MetricRecord.resourceAttributes
      (fun bucket => some (scopeBuckets MetricRecord.effectiveScope bucket)) buildScopeMetrics records

/-! ### Traces -/

structure SpanEvent where
  timeUnixNano : UInt64
  name : String
  attributes : Multiset (String × AnyValue)

structure Status where
  message : String
  code : Int32

/-- A `Span`, without the fields that are always empty or zero. -/
structure Span where
  traceId : List UInt8
  spanId : List UInt8
  parentSpanId : List UInt8
  name : String
  kind : Int32
  startTimeUnixNano : UInt64
  endTimeUnixNano : UInt64
  attributes : Multiset (String × AnyValue)
  events : List SpanEvent
  status : Status

def buildEvent (ev : TraceEventRecord) : SpanEvent where
  timeUnixNano := datetimeToUnixNano ev.timestamp
  name := ev.name
  attributes := buildAttributes ev.attributes

def buildSpan (record : TraceRecord) : Option Span := do
  let traceId ← decodeTraceIdHex record.traceId
  let spanId ← decodeSpanIdHex record.spanId
  let parentSpanId ← decodeSpanIdHex record.parentSpanId
  pure {
    traceId, spanId, parentSpanId
    name := record.name
    kind := record.kind
    startTimeUnixNano := datetimeToUnixNano record.startTime
    endTimeUnixNano := datetimeToUnixNano record.endTime
    attributes := buildAttributes record.spanAttributes
    events := record.events.map buildEvent
    status := { message := record.statusMessage, code := record.statusCode } }

/-- The scopes in the order in which they are met, and the records of each. -/
structure ScopeGroups where
  order : List String
  buckets : HashMap String (List TraceRecord)

def ScopeGroups.add (groups : ScopeGroups) (r : TraceRecord) : ScopeGroups :=
  let key := r.scopeName
  -- a key that is new is the last one of the list
  let order := if key ∈ groups.buckets then groups.order else groups.order ++ [key]
  { order, buckets := groups.buckets.insert key ((groups.buckets.lookup key).getD [] ++ [r]) }

/-- The loop at the end, which takes each bucket out of the map. There is no result if it is not there. -/
def ScopeGroups.take (groups : HashMap String (List TraceRecord)) :
    List String → Option (List (String × List TraceRecord))
  | [] => some []
  | k :: order => do
    let v ← groups.lookup k
    let rest ← ScopeGroups.take (groups.erase k) order
    pure ((k, v) :: rest)

def groupRecordsByScope (records : List TraceRecord) : Option (List (String × List TraceRecord)) :=
  let groups := records.foldl ScopeGroups.add { order := [], buckets := ∅ }
  ScopeGroups.take groups.buckets groups.order

/-- Records without a scope are kept apart from those of the default one until here. -/
def buildScopeSpans (scopeName : String) (bucket : List TraceRecord) : Option (ScopeBlock Span) := do
  let records ← bucket.mapM buildSpan
  pure {
    scope := { name := effectiveScopeName scopeName, version := crateVersion, attributes := 0 }
    records }

def TraceRecord.effectiveScope (record : TraceRecord) : String := effectiveScopeName record.scopeName

def buildTracesRequest (z : Zmij) (records : List TraceRecord) : Option (List (ResourceBlock Span)) :=
  if records.isEmpty then some []
  else buildBlocks z TraceRecord.resourceAttributes groupRecordsByScope buildScopeSpans records

/-! ### The scopes of a resource, for traces -/

/-- The list and the map hold the buckets that the other encoders have in one list. -/
structure ScopeGroups.Holds (groups : ScopeGroups) (buckets : List (String × List TraceRecord)) : Prop where
  order : groups.order = buckets.map Prod.fst
  lookup : ∀ k, groups.buckets.lookup k = buckets.lookup k

variable {buckets : List (String × List TraceRecord)}

theorem ScopeGroups.Holds.mem_iff {groups : ScopeGroups}
    (holds : groups.Holds buckets) : k ∈ groups.buckets ↔ k ∈ buckets.map Prod.fst := by
  rw [← Finmap.lookup_isSome, holds.lookup]
  simp only [List.lookup_isSome_iff, List.mem_map, beq_iff_eq]
  exact exists_congr fun bucket => and_congr_right fun _ => eq_comm

theorem ScopeGroups.Holds.add {groups : ScopeGroups} (holds : groups.Holds buckets) (r : TraceRecord) :
    (groups.add r).Holds (upsert r.scopeName (addToScope r) buckets) where
  order := by
    rw [keys_upsert, ScopeGroups.add]
    simp only [holds.mem_iff, holds.order]
  lookup k := by
    rw [lookup_upsert, ScopeGroups.add, HashMap.lookup_insert_eq, holds.lookup, holds.lookup]
    rfl

theorem ScopeGroups.take_eq
    (distinct : (buckets.map Prod.fst).Nodup) (stored : ∀ bucket ∈ buckets, groups.lookup bucket.1 = some bucket.2) :
    ScopeGroups.take groups (buckets.map Prod.fst) = some buckets := by
  induction buckets generalizing groups with
  | nil => rfl
  | cons bucket rest ih =>
    obtain ⟨fresh, distinct⟩ := List.nodup_cons.mp distinct
    obtain ⟨here, later⟩ := List.forall_mem_cons.mp stored
    -- the keys are distinct, so that taking one out leaves the others in the map
    have remaining : ScopeGroups.take (groups.erase bucket.1) (rest.map Prod.fst) = some rest := by
      refine ih distinct fun other member => ?_
      have apart : other.1 ≠ bucket.1 := fun same => fresh (same ▸ List.mem_map_of_mem member)
      rw [Finmap.lookup_erase_ne apart, later other member]
    rw [List.map_cons, ScopeGroups.take, here, remaining]
    rfl

/-- Nothing is missing when the buckets are taken out, and they are those of the other encoders. -/
theorem groupRecordsByScope_eq (records : List TraceRecord) :
    groupRecordsByScope records = some (scopeBuckets TraceRecord.scopeName records) := by
  -- the list and the map go along with the buckets, record by record
  have holds : (records.foldl ScopeGroups.add { order := [], buckets := ∅ }).Holds
      (scopeBuckets TraceRecord.scopeName records) := by
    induction records using List.reverseRecOn with
    | nil => exact ⟨rfl, fun k => rfl⟩
    | append_singleton records r ih =>
      rw [scopeBuckets, collect, List.foldl_append, List.foldl_append]
      exact ih.add r
  have collected := collected_collect TraceRecord.scopeName addToScope records
  rw [groupRecordsByScope]
  simp only [holds.order]
  refine ScopeGroups.take_eq collected.distinct fun bucket member => ?_
  rw [holds.lookup]
  exact (lookup_eq_some_iff collected.distinct).mpr member

/-! ### Placement -/

/-- The ids of a record can be decoded, or are malformed in a way that is noticed before a slice
of them panics. -/
def Decodes (traceId spanId : String) : Prop := (decodeTraceIdHex traceId).isSome ∧ (decodeSpanIdHex spanId).isSome
deriving Decidable

theorem isSome_buildLogRecord_iff :
    (buildLogRecord z record).isSome ↔ Decodes record.traceId record.spanId := by
  rw [buildLogRecord, Decodes]
  cases decodeTraceIdHex record.traceId <;> cases decodeSpanIdHex record.spanId <;> simp

theorem isSome_buildExemplars_iff :
    (buildExemplars record ts).isSome ↔ Decodes record.traceId record.spanId := by
  rw [buildExemplars]
  split
  case isTrue empty =>
    rw [Bool.and_eq_true, String.isEmpty_iff, String.isEmpty_iff] at empty
    rw [empty.1, empty.2]
    decide
  case isFalse =>
    rw [Decodes]
    cases decodeTraceIdHex record.traceId <;> cases decodeSpanIdHex record.spanId <;> simp
    split <;> rfl

theorem isSome_buildMetric_iff : (buildMetric record).isSome ↔ Decodes record.traceId record.spanId := by
  rw [← @isSome_buildExemplars_iff record (datetimeToUnixNano record.timestamp), buildMetric]
  simp only [buildNumberDataPoint, buildHistogramDataPoint]
  cases record.kind <;> cases buildExemplars record (datetimeToUnixNano record.timestamp) <;> simp

theorem isSome_buildSpan_iff : (buildSpan record).isSome ↔
    Decodes record.traceId record.spanId ∧ (decodeSpanIdHex record.parentSpanId).isSome := by
  rw [buildSpan, Decodes]
  cases decodeTraceIdHex record.traceId <;> cases decodeSpanIdHex record.spanId <;>
    cases decodeSpanIdHex record.parentSpanId <;> simp

theorem buildLogsRequest_eq (z : Zmij) (records : List LogRecord) : buildLogsRequest z records =
    buildBlocks z LogRecord.resourceAttributes (fun bucket => some (scopeBuckets LogRecord.effectiveScope bucket))
      (buildScopeLogs z) records := by
  cases records <;> rfl

theorem buildMetricsRequest_eq (z : Zmij) (records : List MetricRecord) : buildMetricsRequest z records =
    buildBlocks z MetricRecord.resourceAttributes
      (fun bucket => some (scopeBuckets MetricRecord.effectiveScope bucket)) buildScopeMetrics records := by
  cases records <;> rfl

theorem buildTracesRequest_eq (z : Zmij) (records : List TraceRecord) : buildTracesRequest z records =
    buildBlocks z TraceRecord.resourceAttributes groupRecordsByScope buildScopeSpans records := by
  cases records <;> rfl

/-- The scope of some log records, with the attributes that the first one has for it. -/
def logScope (name : String) (bucket : List LogRecord) : InstrumentationScope where
  name := name
  version := crateVersion
  attributes := bucket.head?.elim 0 fun first => buildAttributes first.scopeAttributes

theorem buildScopeLogs_eq (z : Zmij) (key : String) (filled : bucket ≠ []) : buildScopeLogs z key bucket =
      (bucket.mapM (buildLogRecord z)).map fun records => { scope := logScope key bucket, records } := by
  obtain ⟨first, rest, rfl⟩ := List.exists_cons_of_ne_nil filled
  rw [buildScopeLogs]
  cases (first :: rest).mapM (buildLogRecord z) <;> rfl

def bareScope (name : String) : InstrumentationScope where
  name := name
  version := crateVersion
  attributes := 0

theorem buildScopeMetrics_eq (key : String) (bucket : List MetricRecord) : buildScopeMetrics key bucket =
    (bucket.mapM buildMetric).map fun records => { scope := bareScope key, records } := by
  rw [buildScopeMetrics]
  cases bucket.mapM buildMetric <;> rfl

theorem buildScopeSpans_eq (key : String) (bucket : List TraceRecord) : buildScopeSpans key bucket =
    (bucket.mapM buildSpan).map fun records => { scope := bareScope (effectiveScopeName key), records } := by
  rw [buildScopeSpans]
  cases bucket.mapM buildSpan <;> rfl

theorem logs_placed_iff (z : Zmij) (separable : ∀ r ∈ records, Separable r.resourceAttributes) :
    (∃ payload, buildLogsRequest z records = some payload ∧
        Placed LogRecord.resourceAttributes LogRecord.effectiveScope (buildLogRecord z) records payload) ↔
      ∀ r ∈ records, Decodes r.traceId r.spanId := by
  rw [buildLogsRequest_eq]
  simp only [← @isSome_buildLogRecord_iff z]
  exact exists_placed_iff LogRecord.effectiveScope id (fun _ => rfl)
    (fun key bucket filled => ⟨logScope key bucket, rfl, buildScopeLogs_eq z key filled⟩) separable

theorem metrics_placed_iff (z : Zmij) (separable : ∀ r ∈ records, Separable r.resourceAttributes) :
    (∃ payload, buildMetricsRequest z records = some payload ∧
        Placed MetricRecord.resourceAttributes MetricRecord.effectiveScope buildMetric records payload) ↔
      ∀ r ∈ records, Decodes r.traceId r.spanId := by
  rw [buildMetricsRequest_eq]
  simp only [← isSome_buildMetric_iff]
  exact exists_placed_iff MetricRecord.effectiveScope id (fun _ => rfl)
    (fun key bucket _ => ⟨bareScope key, rfl, buildScopeMetrics_eq key bucket⟩) separable

theorem traces_placed_iff (z : Zmij) (separable : ∀ r ∈ records, Separable r.resourceAttributes) :
    (∃ payload, buildTracesRequest z records = some payload ∧
        Placed TraceRecord.resourceAttributes TraceRecord.effectiveScope buildSpan records payload) ↔
      ∀ r ∈ records, Decodes r.traceId r.spanId ∧ (decodeSpanIdHex r.parentSpanId).isSome := by
  rw [buildTracesRequest_eq]
  simp only [← isSome_buildSpan_iff]
  exact exists_placed_iff TraceRecord.scopeName effectiveScopeName groupRecordsByScope_eq
    (fun key bucket _ => ⟨bareScope (effectiveScopeName key), rfl, buildScopeSpans_eq key bucket⟩) separable

theorem records_placed_iff (z : Zmij) :
    (∀ records : List LogRecord, (∀ r ∈ records, Separable r.resourceAttributes) →
      ((∃ payload, buildLogsRequest z records = some payload ∧
          Placed LogRecord.resourceAttributes LogRecord.effectiveScope (buildLogRecord z) records payload) ↔
        ∀ r ∈ records, Decodes r.traceId r.spanId)) ∧
    (∀ records : List MetricRecord, (∀ r ∈ records, Separable r.resourceAttributes) →
      ((∃ payload, buildMetricsRequest z records = some payload ∧
          Placed MetricRecord.resourceAttributes MetricRecord.effectiveScope buildMetric records payload) ↔
        ∀ r ∈ records, Decodes r.traceId r.spanId)) ∧
    (∀ records : List TraceRecord, (∀ r ∈ records, Separable r.resourceAttributes) →
      ((∃ payload, buildTracesRequest z records = some payload ∧
          Placed TraceRecord.resourceAttributes TraceRecord.effectiveScope buildSpan records payload) ↔
        ∀ r ∈ records, Decodes r.traceId r.spanId ∧ (decodeSpanIdHex r.parentSpanId).isSome)) :=
  ⟨fun _ => logs_placed_iff z, fun _ => metrics_placed_iff z, fun _ => traces_placed_iff z⟩

def sampleLog (traceId spanId : String) : LogRecord where
  timestamp := { secs := 0, nanos := 0 }
  body := .string "started"
  severityNumber := 9
  severityText := "INFO"
  traceId := traceId
  spanId := spanId
  resourceAttributes := ∅
  scopeName := "MotionAxis"
  scopeAttributes := ∅
  logAttributes := ∅

theorem separable_empty : Separable ∅ := fun _ member => absurd member Finmap.notMem_empty

theorem records_placed_iff_sample :
    ∃ payload, buildLogsRequest Zmij.bitwise [sampleLog "" "", sampleLog "" "0123456789abcdef"] = some payload ∧
      Placed LogRecord.resourceAttributes LogRecord.effectiveScope (buildLogRecord Zmij.bitwise)
        [sampleLog "" "", sampleLog "" "0123456789abcdef"] payload := by
  refine ((records_placed_iff Zmij.bitwise).1 _ fun r member => ?_).mpr fun r member => ?_
  all_goals
    simp only [List.mem_cons, List.not_mem_nil, or_false] at member
    rcases member with rfl | rfl
  · exact separable_empty
  · exact separable_empty
  · decide +kernel
  · decide +kernel

/-- The second character of this id has two bytes, so that the first pair of digits ends within it. -/
def sampleSplit : LogRecord := sampleLog "aéaaaaaaaaaaaaaaaaaaaaaaaaaaaaa" ""

theorem sampleSplit_not_placed : Separable sampleSplit.resourceAttributes ∧
    ¬∃ payload, buildLogsRequest Zmij.bitwise [sampleSplit] = some payload ∧
      Placed LogRecord.resourceAttributes LogRecord.effectiveScope (buildLogRecord Zmij.bitwise) [sampleSplit] payload := by
  have separable : ∀ r ∈ [sampleSplit], Separable r.resourceAttributes := by
    intro r member
    rw [List.mem_singleton.mp member]
    exact separable_empty
  refine ⟨separable_empty, fun placed => ?_⟩
  have decodes := (logs_placed_iff Zmij.bitwise separable).mp placed sampleSplit List.mem_cons_self
  revert decodes
  decide +kernel

end TcOtel.Otlp
