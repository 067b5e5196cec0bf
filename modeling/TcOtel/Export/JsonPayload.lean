import TcOtel.Export.ProtoRequests
import TcOtel.Lib.Iteration
import Mathlib

/-!
# JSON payloads

`build_otel_payload`, `build_otel_metrics_payload` and `build_otel_traces_payload` of `exporter.rs`. A
payload is a text, and what it denotes is read from it by the rules of the JSON encoding of OTLP
(`readBlocks`): 64-bit integers are decimal texts, ids are hexadecimal, what is absent has its default.
A record comes back as `jsonEntry` of it says, or the payload cannot be read.
-/

namespace TcOtel.Otlp

open Rendering Bucketing Iterating Decoding

/-! ### Objects -/

/-- The `json!` of an object, with what is assigned to its fields afterwards at the end. The fields are
kept by key, and of two values for one key the later one. -/
def jsonObject (fields : List (String × Json)) : Json :=
  .object (collectSorted Prod.fst (fun field _ => field.2) fields)

def field (key : String) : Json → Option Json
  | .object fields => fields.lookup key
  | _ => none

theorem fill_last : fill (fun (field : String × Json) _ => field.2) fields = fields.getLast?.map Prod.snd := by
  cases fields using List.reverseRecOn <;> simp

@[simp] theorem field_jsonObject (key : String) (fields : List (String × Json)) :
    field key (jsonObject fields) = HashMap.lastValue key fields := by
  rw [jsonObject, field, (collected_collectSorted _ _ _).lookup, fill_last, HashMap.lastValue]

/-! ### Values -/

def jsonOfF64 (f : F64) : Json := if finite : f.isFinite then .number (.float f finite) else .null

def decimal (i : Int) : Json := .string i.repr

/-- A null, an array or an object is written as the text of it. -/
def toOtlpValue (z : Zmij) : Json → Json
  | .string s => jsonObject [("stringValue", .string s)]
  | .number n =>
    match n.asI64 with
    | some i => jsonObject [("intValue", decimal i.toInt)]
    -- an integer beyond an `i64` becomes a float
    | none => jsonObject [("doubleValue", jsonOfF64 n.asF64)]
  | .bool b => jsonObject [("boolValue", .bool b)]
  | v => jsonObject [("stringValue", .string (Json.toString z v))]

def toOtlpAttributes (z : Zmij) (i : Iteration String) (attrs : Attributes) : Json :=
  .array ((i.order attrs.keys).filterMap fun k =>
    (attrs.lookup k).map fun v => jsonObject [("key", .string k), ("value", toOtlpValue z v)])

def timestampNanosOpt (ts : DateTime) : Option Int :=
  let nanos := ts.secs * 1000000000 + ts.nanos
  if -2 ^ 63 ≤ nanos ∧ nanos < 2 ^ 63 then some nanos else none

def timeUnixNano (ts : DateTime) : UInt64 := (Int64.ofInt ((timestampNanosOpt ts).getD 0)).toUInt64

def timeJson (ts : DateTime) : Json := decimal (timeUnixNano ts).toNat

def i32Json (n : Int32) : Json := .number (Number.ofInt n.toInt)

/-! ### Payloads -/

def bodyText : Json → String
  | .string s => s
  | _ => ""

section Payloads

variable (z : Zmij) (i : Iteration String)

/-- One record with a resource block and a scope block of its own. -/
def blockJson (scopesKey recordsKey : String) (resource : Attributes) (scope : List (String × Json)) (record : Json) :
    Json :=
  jsonObject [
    ("resource", jsonObject [("attributes", toOtlpAttributes z i resource)]),
    (scopesKey, .array [jsonObject [("scope", jsonObject scope), (recordsKey, .array [record])]])]

def logJson (record : LogRecord) : Json :=
  jsonObject ([
    ("timeUnixNano", timeJson record.timestamp),
    ("body", jsonObject [("stringValue", .string (bodyText record.body))]),
    ("severityNumber", i32Json record.severityNumber),
    ("severityText", .string record.severityText),
    ("attributes", toOtlpAttributes z i record.logAttributes)] ++
    -- these two are assigned only if there is something to assign
    (if record.traceId.isEmpty then [] else [("traceId", .string record.traceId)]) ++
    (if record.spanId.isEmpty then [] else [("spanId", .string record.spanId)]))

def buildOtelPayload (records : List LogRecord) : String :=
  Json.toString z (jsonObject [("resourceLogs", .array (records.map fun record =>
    blockJson z i "scopeLogs" "logRecords" record.resourceAttributes
      [("name", .string record.effectiveScope), ("attributes", toOtlpAttributes z i record.scopeAttributes)]
      (logJson z i record)))])

def exemplarJson (record : MetricRecord) : Json :=
  jsonObject [
    ("timeUnixNano", timeJson record.timestamp),
    ("asDouble", jsonOfF64 record.value),
    ("traceId", .string record.traceId),
    ("spanId", .string record.spanId)]

def dataPointJson (record : MetricRecord) : Json :=
  jsonObject ([
    ("timeUnixNano", timeJson record.timestamp),
    ("asDouble", jsonOfF64 record.value),
    ("attributes", toOtlpAttributes z i record.attributes)] ++
    (if record.traceId.isEmpty && record.spanId.isEmpty then []
      else [("exemplars", .array [exemplarJson record])]))

/-- The data point of a histogram, without exemplars. -/
def histogramPointJson (record : MetricRecord) : Json :=
  jsonObject [
    ("timeUnixNano", timeJson record.timestamp),
    ("attributes", toOtlpAttributes z i record.attributes),
    ("count", decimal record.histogramCount.toNat),
    ("sum", jsonOfF64 record.histogramSum),
    ("bucketCounts", .array (record.histogramCounts.map fun c => decimal c.toNat)),
    ("explicitBounds", .array (record.histogramBounds.map jsonOfF64))]

def metricJson (record : MetricRecord) : Json :=
  let named := [("name", Json.string record.name), ("description", .string record.description),
    ("unit", .string record.unit)]
  match record.kind with
  | .gauge => jsonObject (named ++ [("gauge", jsonObject [("dataPoints", .array [dataPointJson z i record])])])
  | .sum =>
    jsonObject (named ++ [("sum", jsonObject [
      ("dataPoints", .array [dataPointJson z i record]),
      ("aggregationTemporality", i32Json 2),
      ("isMonotonic", .bool record.isMonotonic)])])
  | .histogram =>
    jsonObject (named ++ [("histogram", jsonObject [
      ("dataPoints", .array [histogramPointJson z i record]),
      ("aggregationTemporality", i32Json 2)])])

def buildOtelMetricsPayload (records : List MetricRecord) : String :=
  Json.toString z (jsonObject [("resourceMetrics", .array (records.map fun record =>
    blockJson z i "scopeMetrics" "metrics" record.resourceAttributes [("name", .string record.effectiveScope)]
      (metricJson z i record)))])

def eventJson (event : TraceEventRecord) : Json :=
  jsonObject [
    ("timeUnixNano", timeJson event.timestamp),
    ("name", .string event.name),
    ("attributes", toOtlpAttributes z i event.attributes)]

def spanJson (record : TraceRecord) : Json :=
  jsonObject [
    ("traceId", .string record.traceId),
    ("spanId", .string record.spanId),
    ("parentSpanId", .string record.parentSpanId),
    ("name", .string record.name),
    ("kind", i32Json record.kind),
    ("startTimeUnixNano", timeJson record.startTime),
    ("endTimeUnixNano", timeJson record.endTime),
    ("attributes", toOtlpAttributes z i record.spanAttributes),
    ("status", jsonObject [("code", i32Json record.statusCode), ("message", .string record.statusMessage)]),
    ("events", .array (record.events.map (eventJson z i)))]

def buildOtelTracesPayload (records : List TraceRecord) : String :=
  Json.toString z (jsonObject [("resourceSpans", .array (records.map fun record =>
    blockJson z i "scopeSpans" "spans" record.resourceAttributes
      [("name", .string record.effectiveScope), ("attributes", toOtlpAttributes z i record.scopeAttributes)]
      (spanJson z i record)))])

end Payloads

/-! ### Reading a payload -/

def readString : Option Json → Option String
  | none => some ""
  | some (.string s) => some s
  | some _ => none

def readBool : Option Json → Option Bool
  | none => some false
  | some (.bool b) => some b
  | some _ => none

def readInt : Option Json → Option Int
  | none => some 0
  | some (.number n) => n.toInt?
  | some (.string s) => s.toInt?
  | some _ => none

def readU64 (v : Option Json) : Option UInt64 := do
  let n ← readInt v
  if 0 ≤ n ∧ n < 2 ^ 64 then pure (UInt64.ofNat n.toNat) else none

def readI32 (v : Option Json) : Option Int32 := do
  let n ← readInt v
  if -2 ^ 31 ≤ n ∧ n < 2 ^ 31 then pure (Int32.ofInt n) else none

/-- The member of a choice, which is not there if it is null. -/
def readDouble : Option Json → Option (Option F64)
  | none | some .null => some none
  | some (.number n) => some (some n.asF64)
  | some _ => none

def readId (v : Option Json) : Option (List UInt8) := do
  let s ← readString v
  hexDecode s.toList

def readItems {α : Type} (read : Json → Option α) : Option Json → Option (List α)
  | none => some []
  | some (.array items) => items.mapM read
  | some _ => none

def readAnyValue : Json → Option AnyValue
  | .object [(kind, v)] =>
    if kind = "stringValue" then (readString (some v)).map .stringValue
    else if kind = "boolValue" then (readBool (some v)).map .boolValue
    else if kind = "intValue" then do
      let n ← readInt (some v)
      if -2 ^ 63 ≤ n ∧ n < 2 ^ 63 then pure (.intValue (Int64.ofInt n)) else none
    else if kind = "doubleValue" then do
      let f ← readDouble (some v)
      f.map .doubleValue
    else none
  | _ => none

def readKeyValue (v : Json) : Option (String × AnyValue) := do
  let key ← readString (field "key" v)
  let value ← (field "value" v).bind readAnyValue
  pure (key, value)

def readAttributes (v : Option Json) : Option (Multiset (String × AnyValue)) :=
  (readItems readKeyValue v).map Multiset.ofList

def readScope (v : Json) : Option InstrumentationScope := do
  let name ← readString (field "name" v)
  let version ← readString (field "version" v)
  let attributes ← readAttributes (field "attributes" v)
  pure { name, version, attributes }

section Reading

variable {π : Type} (readRecord : Json → Option π) (scopesKey recordsKey : String)

def readScopeBlock (v : Json) : Option (ScopeBlock π) := do
  let scope ← (field "scope" v).bind readScope
  let records ← readItems readRecord (field recordsKey v)
  pure { scope, records }

def readBlock (v : Json) : Option (ResourceBlock π) := do
  let attributes ← readAttributes ((field "resource" v).bind (field "attributes"))
  let scopes ← readItems (readScopeBlock readRecord recordsKey) (field scopesKey v)
  pure { resource := { attributes }, scopes }

def readBlocks (blocksKey : String) (v : Json) : Option (List (ResourceBlock π)) :=
  readItems (readBlock readRecord scopesKey recordsKey) (field blocksKey v)

end Reading

def readLog (v : Json) : Option ProtoLogRecord := do
  let timeUnixNano ← readU64 (field "timeUnixNano" v)
  let observedTimeUnixNano ← readU64 (field "observedTimeUnixNano" v)
  let severityNumber ← readI32 (field "severityNumber" v)
  let severityText ← readString (field "severityText" v)
  let body ← (field "body" v).mapM readAnyValue
  let attributes ← readAttributes (field "attributes" v)
  let traceId ← readId (field "traceId" v)
  let spanId ← readId (field "spanId" v)
  pure { timeUnixNano, observedTimeUnixNano, severityNumber, severityText, body, attributes, traceId, spanId }

def readExemplar (v : Json) : Option Exemplar := do
  let timeUnixNano ← readU64 (field "timeUnixNano" v)
  let spanId ← readId (field "spanId" v)
  let traceId ← readId (field "traceId" v)
  let value ← readDouble (field "asDouble" v)
  pure { timeUnixNano, spanId, traceId, value }

def readNumberPoint (v : Json) : Option NumberDataPoint := do
  let attributes ← readAttributes (field "attributes" v)
  let timeUnixNano ← readU64 (field "timeUnixNano" v)
  let exemplars ← readItems readExemplar (field "exemplars" v)
  let value ← readDouble (field "asDouble" v)
  pure { attributes, timeUnixNano, exemplars, value }

/-- A float of a list, where there is no null. -/
def readBound : Json → Option F64
  | .number n => some n.asF64
  | _ => none

def readHistogramPoint (v : Json) : Option HistogramDataPoint := do
  let attributes ← readAttributes (field "attributes" v)
  let timeUnixNano ← readU64 (field "timeUnixNano" v)
  let count ← readU64 (field "count" v)
  let sum ← readDouble (field "sum" v)
  let bucketCounts ← readItems (fun c => readU64 (some c)) (field "bucketCounts" v)
  let explicitBounds ← readItems readBound (field "explicitBounds" v)
  let exemplars ← readItems readExemplar (field "exemplars" v)
  pure { attributes, timeUnixNano, count, sum, bucketCounts, explicitBounds, exemplars }

def readMetricData (v : Json) : Option MetricData :=
  match field "gauge" v, field "sum" v, field "histogram" v with
  | some data, none, none => do
    let dataPoints ← readItems readNumberPoint (field "dataPoints" data)
    pure (.gauge dataPoints)
  | none, some data, none => do
    let dataPoints ← readItems readNumberPoint (field "dataPoints" data)
    let aggregationTemporality ← readI32 (field "aggregationTemporality" data)
    let isMonotonic ← readBool (field "isMonotonic" data)
    pure (.sum dataPoints aggregationTemporality isMonotonic)
  | none, none, some data => do
    let dataPoints ← readItems readHistogramPoint (field "dataPoints" data)
    let aggregationTemporality ← readI32 (field "aggregationTemporality" data)
    pure (.histogram dataPoints aggregationTemporality)
  -- the data is one of the three
  | _, _, _ => none

def readMetric (v : Json) : Option Metric := do
  let name ← readString (field "name" v)
  let description ← readString (field "description" v)
  let unit ← readString (field "unit" v)
  let data ← readMetricData v
  pure { name, description, unit, data }

def readEvent (v : Json) : Option SpanEvent := do
  let timeUnixNano ← readU64 (field "timeUnixNano" v)
  let name ← readString (field "name" v)
  let attributes ← readAttributes (field "attributes" v)
  pure { timeUnixNano, name, attributes }

def readStatus (v : Json) : Option Status := do
  let message ← readString (field "message" v)
  let code ← readI32 (field "code" v)
  pure { message, code }

def readSpan (v : Json) : Option Span := do
  let traceId ← readId (field "traceId" v)
  let spanId ← readId (field "spanId" v)
  let parentSpanId ← readId (field "parentSpanId" v)
  let name ← readString (field "name" v)
  let kind ← readI32 (field "kind" v)
  let startTimeUnixNano ← readU64 (field "startTimeUnixNano" v)
  let endTimeUnixNano ← readU64 (field "endTimeUnixNano" v)
  let attributes ← readAttributes (field "attributes" v)
  let events ← readItems readEvent (field "events" v)
  let status ← (field "status" v).bind readStatus
  pure {
    traceId, spanId, parentSpanId, name, kind, startTimeUnixNano, endTimeUnixNano, attributes, events, status }

/-! ### What is read from a payload -/

attribute [simp] HashMap.lastValue_nil HashMap.lastValue_cons HashMap.lastValue_append

@[simp] theorem lastValue_unless (key k : String) (v : Json) (left : Prop) [Decidable left] :
    HashMap.lastValue key (if left then [] else [(k, v)]) = if key = k then if left then none else some v else none := by
  by_cases out : left <;> by_cases same : key = k <;> simp [out]

@[simp] theorem readString_none : readString none = some "" := rfl

@[simp] theorem readString_string (s : String) : readString (some (.string s)) = some s := rfl

@[simp] theorem readBool_bool (b : Bool) : readBool (some (.bool b)) = some b := rfl

@[simp] theorem readU64_none : readU64 none = some 0 := rfl

@[simp] theorem readItems_none {α : Type} (read : Json → Option α) : readItems read none = some [] := rfl

@[simp] theorem readItems_array {α : Type} (read : Json → Option α) (items : List Json) :
    readItems read (some (.array items)) = items.mapM read := rfl

theorem readInt_decimal (n : Int) : readInt (some (decimal n)) = some n := Int.toInt?_repr n

@[simp] theorem readU64_decimal (n : UInt64) : readU64 (some (decimal n.toNat)) = some n := by
  have small := n.toNat_lt
  rw [readU64, readInt_decimal, Option.bind_eq_bind, Option.bind_some, if_pos ⟨by omega, by omega⟩, Int.toNat_natCast,
    UInt64.ofNat_toNat]
  rfl

@[simp] theorem readU64_timeJson (ts : DateTime) : readU64 (some (timeJson ts)) = some (timeUnixNano ts) :=
  readU64_decimal _

theorem toInt?_ofInt (low : -2 ^ 63 ≤ n) (high : n < 2 ^ 64) : (Number.ofInt n).toInt? = some n := by
  obtain ⟨negative, _, written⟩ | ⟨positive, written⟩ := Number.ofInt_cases low
  · rw [written, Number.toInt?, Int64.toInt_ofInt_of_le low (by omega)]
  · rw [written, Number.toInt?, UInt64.toNat_ofNat', Nat.mod_eq_of_lt (by omega), Int.toNat_of_nonneg positive]

@[simp] theorem readI32_i32Json (n : Int32) : readI32 (some (i32Json n)) = some n := by
  have low := n.le_toInt
  have high := n.toInt_lt
  rw [readI32, i32Json, readInt, toInt?_ofInt (by omega) (by omega), Option.bind_eq_bind, Option.bind_some,
    if_pos ⟨low, high⟩, Int32.ofInt_toInt]
  rfl

@[simp] theorem readDouble_jsonOfF64 (f : F64) :
    readDouble (some (jsonOfF64 f)) = some (if f.isFinite then some f else none) := by
  rw [jsonOfF64]
  split <;> simp_all [readDouble, Number.asF64]

def otlpValue (z : Zmij) : Json → AnyValue
  | .string s => .stringValue s
  | .number n =>
    match n.asI64 with
    | some i => .intValue i
    | none => .doubleValue n.asF64
  | .bool b => .boolValue b
  | v => .stringValue (Json.toString z v)

theorem isFinite_asF64 {n : Number} (noInteger : n.asI64 = none) : n.asF64.isFinite := by
  cases n with
  | posInt n => exact F64.isFinite_ofU64 n
  | negInt n negative => cases noInteger
  | float f finite => exact finite

theorem readAnyValue_toOtlpValue (z : Zmij) (v : Json) : readAnyValue (toOtlpValue z v) = some (otlpValue z v) := by
  -- an object with one field is that field
  have single (kind : String) (inner : Json) : jsonObject [(kind, inner)] = .object [(kind, inner)] := rfl
  cases v with
  | string s => rfl
  | bool b => rfl
  | null => rfl
  | array items => rfl
  | object fields => rfl
  | number n =>
    rw [toOtlpValue, otlpValue]
    cases integer : n.asI64 with
    | some i =>
      have low := i.le_toInt
      have high := i.toInt_lt
      simp only [single, readAnyValue, readInt_decimal, Option.bind_eq_bind, Option.bind_some]
      rw [if_neg (by decide), if_neg (by decide), if_pos trivial, if_pos ⟨low, high⟩, Int64.ofInt_toInt]
      rfl
    | none =>
      simp only [single, readAnyValue, readDouble_jsonOfF64, isFinite_asF64 integer]
      rfl

def otlpAttributes (z : Zmij) (attrs : Attributes) : Multiset (String × AnyValue) :=
  attrs.entries.map fun entry => (entry.1, otlpValue z entry.2)

theorem order_filterMap_lookup (i : Iteration String) (attrs : Attributes) :
    (((i.order attrs.keys).filterMap fun k => (attrs.lookup k).map fun v => (k, v) : List (String × Json)) :
      Multiset (String × Json)) = attrs.entries.map fun entry => (entry.1, entry.2) := by
  rw [← Multiset.filterMap_coe, i.lists]
  change (attrs.entries.map Sigma.fst).filterMap _ = _
  rw [Multiset.filterMap_map, ← Multiset.filterMap_eq_map]
  refine filterMap_congr fun entry member => ?_
  simp [Finmap.lookup_eq_some_iff.mpr member]

@[simp] theorem readAttributes_toOtlpAttributes (z : Zmij) (i : Iteration String) (attrs : Attributes) :
    readAttributes (some (toOtlpAttributes z i attrs)) = some (otlpAttributes z attrs) := by
  have each (k : String) (v : Json) : readKeyValue (jsonObject [("key", .string k), ("value", toOtlpValue z v)]) =
      some (k, otlpValue z v) := by
    simp [readKeyValue, readAnyValue_toOtlpValue]
  have items : (i.order attrs.keys).filterMap (fun k =>
        (attrs.lookup k).map fun v => jsonObject [("key", .string k), ("value", toOtlpValue z v)]) =
      ((i.order attrs.keys).filterMap fun k => (attrs.lookup k).map fun v => (k, v)).map fun (k, v) =>
        jsonObject [("key", .string k), ("value", toOtlpValue z v)] := by
    simp [List.map_filterMap, Function.comp_def]
  rw [readAttributes, toOtlpAttributes, readItems, items, mapM_map_eq_some fun entry _ => each entry.1 entry.2,
    Option.map_some, ← Multiset.map_coe, order_filterMap_lookup, Multiset.map_map]
  rfl

@[simp] theorem readId_string (s : String) : readId (some (.string s)) = hexDecode s.toList := rfl

theorem readId_unlessEmpty (s : String) :
    readId (if s.isEmpty then none else some (.string s)) = hexDecode s.toList := by
  by_cases empty : s.isEmpty
  · rw [String.isEmpty_iff.mp empty]
    rfl
  · rw [if_neg empty, readId_string]

/-! ### Records as they are read -/

def jsonLog (z : Zmij) (record : LogRecord) : Option ProtoLogRecord := do
  let traceId ← hexDecode record.traceId.toList
  let spanId ← hexDecode record.spanId.toList
  pure {
    timeUnixNano := timeUnixNano record.timestamp
    observedTimeUnixNano := 0
    severityNumber := record.severityNumber
    severityText := record.severityText
    body := some (.stringValue (bodyText record.body))
    attributes := otlpAttributes z record.logAttributes
    traceId, spanId }

theorem readLog_logJson (z : Zmij) (i : Iteration String) (record : LogRecord) :
    readLog (logJson z i record) = jsonLog z record := by
  have body : readAnyValue (jsonObject [("stringValue", .string (bodyText record.body))]) =
      some (.stringValue (bodyText record.body)) := rfl
  have traceId : field "traceId" (logJson z i record) =
      if record.traceId.isEmpty then none else some (.string record.traceId) := by
    simp [logJson]
  have spanId : field "spanId" (logJson z i record) =
      if record.spanId.isEmpty then none else some (.string record.spanId) := by
    simp [logJson]
  rw [readLog, traceId, spanId, readId_unlessEmpty, readId_unlessEmpty]
  simp [logJson, body, jsonLog]

/-- A float that is not finite is read as none at all. -/
def readable (f : F64) : Option F64 := if f.isFinite then some f else none

def jsonExemplars (record : MetricRecord) : Option (List Exemplar) :=
  if record.traceId.isEmpty && record.spanId.isEmpty then some []
  else do
    let spanId ← hexDecode record.spanId.toList
    let traceId ← hexDecode record.traceId.toList
    pure [{ timeUnixNano := timeUnixNano record.timestamp, spanId, traceId, value := readable record.value }]

def jsonNumberPoint (z : Zmij) (record : MetricRecord) : Option NumberDataPoint := do
  let exemplars ← jsonExemplars record
  pure {
    attributes := otlpAttributes z record.attributes
    timeUnixNano := timeUnixNano record.timestamp
    exemplars
    value := readable record.value }

/-- The bounds of a histogram are read only if all are finite. -/
def jsonHistogramPoint (z : Zmij) (record : MetricRecord) : Option HistogramDataPoint := do
  let explicitBounds ← record.histogramBounds.mapM readable
  pure {
    attributes := otlpAttributes z record.attributes
    timeUnixNano := timeUnixNano record.timestamp
    count := record.histogramCount
    sum := readable record.histogramSum
    bucketCounts := record.histogramCounts
    explicitBounds
    exemplars := [] }

def jsonMetric (z : Zmij) (record : MetricRecord) : Option Metric := do
  let data ←
    match record.kind with
    | .gauge => do
      let point ← jsonNumberPoint z record
      pure (MetricData.gauge [point])
    | .sum => do
      let point ← jsonNumberPoint z record
      pure (.sum [point] cumulative record.isMonotonic)
    | .histogram => do
      let point ← jsonHistogramPoint z record
      pure (.histogram [point] cumulative)
  pure { name := record.name, description := record.description, unit := record.unit, data }

section

variable (z : Zmij) (i : Iteration String) (record : MetricRecord)

theorem readNumberPoint_dataPointJson :
    readNumberPoint (dataPointJson z i record) = jsonNumberPoint z record := by
  have exemplar : readExemplar (exemplarJson record) = (do
      let spanId ← hexDecode record.spanId.toList
      let traceId ← hexDecode record.traceId.toList
      pure { timeUnixNano := timeUnixNano record.timestamp, spanId, traceId, value := readable record.value }) := by
    simp [readExemplar, exemplarJson, readable]
  -- the field is left out when there is no context, and an absent one is read as no exemplar
  have exemplars : readItems readExemplar (field "exemplars" (dataPointJson z i record)) = jsonExemplars record := by
    rw [jsonExemplars]
    by_cases none : record.traceId.isEmpty && record.spanId.isEmpty
    · simp [dataPointJson, none]
    · simp [dataPointJson, none, exemplar, Option.bind_assoc]
  rw [readNumberPoint, exemplars]
  simp [dataPointJson, jsonNumberPoint, readable]

theorem readHistogramPoint_histogramPointJson :
    readHistogramPoint (histogramPointJson z i record) = jsonHistogramPoint z record := by
  -- counts are decimal texts and always come back, bounds are numbers and may not
  have counts : (record.histogramCounts.map fun c => decimal c.toNat).mapM (fun c => readU64 (some c)) =
      some record.histogramCounts := by
    have read := @mapM_map_eq_some _ _ _ (fun c => readU64 (some c)) (fun c : UInt64 => decimal c.toNat) id
      record.histogramCounts fun c _ => readU64_decimal c
    rwa [List.map_id] at read
  have bounds : (record.histogramBounds.map jsonOfF64).mapM readBound = record.histogramBounds.mapM readable := by
    rw [List.mapM_map]
    congr 1
    funext f
    by_cases finite : f.isFinite <;> simp [jsonOfF64, readable, readBound, finite, Number.asF64]
  simp [readHistogramPoint, histogramPointJson, jsonHistogramPoint, counts, bounds, readable]

theorem readMetric_metricJson : readMetric (metricJson z i record) = jsonMetric z record := by
  have temporality : i32Json 2 = i32Json cumulative := rfl
  cases kind : record.kind <;>
    simp [readMetric, readMetricData, metricJson, jsonMetric, kind, temporality, readNumberPoint_dataPointJson,
      readHistogramPoint_histogramPointJson, Option.bind_assoc]

end

def jsonEvent (z : Zmij) (ev : TraceEventRecord) : SpanEvent where
  timeUnixNano := timeUnixNano ev.timestamp
  name := ev.name
  attributes := otlpAttributes z ev.attributes

def jsonSpan (z : Zmij) (record : TraceRecord) : Option Span := do
  let traceId ← hexDecode record.traceId.toList
  let spanId ← hexDecode record.spanId.toList
  let parentSpanId ← hexDecode record.parentSpanId.toList
  pure {
    traceId, spanId, parentSpanId
    name := record.name
    kind := record.kind
    startTimeUnixNano := timeUnixNano record.startTime
    endTimeUnixNano := timeUnixNano record.endTime
    attributes := otlpAttributes z record.spanAttributes
    events := record.events.map (jsonEvent z)
    status := { message := record.statusMessage, code := record.statusCode } }

theorem readSpan_spanJson (z : Zmij) (i : Iteration String) (record : TraceRecord) :
    readSpan (spanJson z i record) = jsonSpan z record := by
  have events : (record.events.map (eventJson z i)).mapM readEvent = some (record.events.map (jsonEvent z)) :=
    mapM_map_eq_some fun ev _ => by simp [readEvent, eventJson, jsonEvent]
  have status : readStatus (jsonObject [("code", i32Json record.statusCode), ("message", .string record.statusMessage)]) =
      some { message := record.statusMessage, code := record.statusCode } := by
    simp [readStatus]
  simp [readSpan, spanJson, jsonSpan, events, status]

/-! ### Payloads as they are read -/

structure Entry (π : Type) where
  resource : Resource
  scope : InstrumentationScope
  record : π

section Payload

variable {ρ π : Type}

def entries (blocks : List (ResourceBlock π)) : Multiset (Entry π) :=
  ((scopeBlocks blocks).flatMap fun (resource, block) =>
    block.records.map fun record => { resource, scope := block.scope, record } : List (Entry π))

def Entry.block (entry : Entry π) : ResourceBlock π where
  resource := entry.resource
  scopes := [{ scope := entry.scope, records := [entry.record] }]

theorem entries_map_block (list : List (Entry π)) : entries (list.map Entry.block) = list := by
  induction list with
  | nil => rfl
  | cons entry list ih =>
    simp only [entries, Multiset.coe_eq_coe] at ih ⊢
    exact ih.cons entry

/-- A text is a payload with these data if it is the text of a JSON value that is read as them. -/
def Denotes (z : Zmij) (read : Json → Option (List (ResourceBlock π))) (payload : String) (data : Multiset (Entry π)) :
    Prop :=
  ∃ v, Json.toString z v = payload ∧ (read v).map entries = some data

theorem denotes_toString_iff {z : Zmij} {read : Json → Option (List (ResourceBlock π))}
    : Denotes z read (Json.toString z v) data ↔ (read v).map entries = some data := by
  constructor
  · rintro ⟨w, same, data⟩
    -- whatever other value has this text is the same value
    rw [← text_injective z.numerals (String.ofList_injective same)]
    exact data
  · exact fun data => ⟨v, rfl, data⟩

variable (z : Zmij) (i : Iteration String) {readRecord : Json → Option π} {scopesKey recordsKey : String}

theorem readBlock_blockJson (notResource : scopesKey ≠ "resource") (notScope : recordsKey ≠ "scope")
    (resource : Attributes) (scopeRead : readScope (jsonObject fields) = some scope) (record : Json) :
    readBlock readRecord scopesKey recordsKey (blockJson z i scopesKey recordsKey resource fields record) =
      (readRecord record).map fun written =>
        { resource := { attributes := otlpAttributes z resource }, scopes := [{ scope, records := [written] }] } := by
  -- the scope block within the resource block
  have inner : readScopeBlock readRecord recordsKey
      (jsonObject [("scope", jsonObject fields), (recordsKey, .array [record])]) =
        (readRecord record).map fun written => { scope, records := [written] } := by
    simp [readScopeBlock, notScope.symm, scopeRead, Option.map_eq_bind, Option.bind_assoc]
  simp [readBlock, blockJson, notResource.symm, inner, Option.map_eq_bind, Option.bind_assoc]

def jsonEntry (resource : Attributes) (scope : InstrumentationScope) (record : Option π) : Option (Entry π) :=
  record.map fun record => { resource := { attributes := otlpAttributes z resource }, scope, record }

/-- The data of a payload are those of its records, one by one. -/
theorem readBlocks_eq (blocksKey : String) (notResource : scopesKey ≠ "resource") (notScope : recordsKey ≠ "scope")
    {resourceOf : ρ → Attributes} {fieldsOf : ρ → List (String × Json)} {scopeOf : ρ → InstrumentationScope}
    (scopeRead : ∀ r, readScope (jsonObject (fieldsOf r)) = some (scopeOf r)) {jsonOf : ρ → Json} {readOf : ρ → Option π}
    (recordRead : ∀ r, readRecord (jsonOf r) = readOf r) (records : List ρ) :
    (readBlocks readRecord scopesKey recordsKey blocksKey
        (jsonObject [(blocksKey, .array (records.map fun r =>
          blockJson z i scopesKey recordsKey (resourceOf r) (fieldsOf r) (jsonOf r)))])).map entries =
      (records.mapM fun r => jsonEntry z (resourceOf r) (scopeOf r) (readOf r)).map Multiset.ofList := by
  have blocks : (readBlock readRecord scopesKey recordsKey ∘ fun r =>
        blockJson z i scopesKey recordsKey (resourceOf r) (fieldsOf r) (jsonOf r)) =
      fun r => (jsonEntry z (resourceOf r) (scopeOf r) (readOf r)).map Entry.block := by
    funext r
    rw [Function.comp_apply, readBlock_blockJson z i notResource notScope _ (scopeRead r), recordRead, jsonEntry,
      Option.map_map]
    rfl
  rw [readBlocks]
  simp only [field_jsonObject, HashMap.lastValue_cons, HashMap.lastValue_nil, Option.none_or, if_true,
    readItems_array, List.mapM_map]
  rw [blocks, mapM_option_map, Option.map_map]
  congr 1
  funext list
  exact entries_map_block list

end Payload

/-! ### The three payloads -/

def logsRead : Json → Option (List (ResourceBlock ProtoLogRecord)) :=
  readBlocks readLog "scopeLogs" "logRecords" "resourceLogs"

def metricsRead : Json → Option (List (ResourceBlock Metric)) :=
  readBlocks readMetric "scopeMetrics" "metrics" "resourceMetrics"

def tracesRead : Json → Option (List (ResourceBlock Span)) :=
  readBlocks readSpan "scopeSpans" "spans" "resourceSpans"

def jsonScope (name : String) (attributes : Multiset (String × AnyValue)) : InstrumentationScope where
  name := name
  version := ""
  attributes := attributes

def jsonLogEntry (z : Zmij) (r : LogRecord) : Option (Entry ProtoLogRecord) :=
  jsonEntry z r.resourceAttributes (jsonScope r.effectiveScope (otlpAttributes z r.scopeAttributes)) (jsonLog z r)

def jsonMetricEntry (z : Zmij) (r : MetricRecord) : Option (Entry Metric) :=
  jsonEntry z r.resourceAttributes (jsonScope r.effectiveScope 0) (jsonMetric z r)

def jsonTraceEntry (z : Zmij) (r : TraceRecord) : Option (Entry Span) :=
  jsonEntry z r.resourceAttributes (jsonScope r.effectiveScope (otlpAttributes z r.scopeAttributes)) (jsonSpan z r)

section Three

variable (z : Zmij) (i : Iteration String)

theorem readScope_named (name : String) (attrs : Attributes) :
    readScope (jsonObject [("name", .string name), ("attributes", toOtlpAttributes z i attrs)]) =
      some (jsonScope name (otlpAttributes z attrs)) := by
  simp [readScope, jsonScope]

theorem denotes_logs_iff {records : List LogRecord} {data : Multiset (Entry ProtoLogRecord)} :
    Denotes z logsRead (buildOtelPayload z i records) data ↔
      (records.mapM (jsonLogEntry z)).map Multiset.ofList = some data := by
  rw [buildOtelPayload, denotes_toString_iff, logsRead, readBlocks_eq z i "resourceLogs" (by decide) (by decide)
    (fun r => readScope_named z i (LogRecord.effectiveScope r) r.scopeAttributes) (readLog_logJson z i)]
  rfl

theorem denotes_metrics_iff {records : List MetricRecord} {data : Multiset (Entry Metric)} :
    Denotes z metricsRead (buildOtelMetricsPayload z i records) data ↔
      (records.mapM (jsonMetricEntry z)).map Multiset.ofList = some data := by
  have scope (r : MetricRecord) : readScope (jsonObject [("name", .string r.effectiveScope)]) =
      some (jsonScope r.effectiveScope 0) := by
    simp [readScope, readAttributes, jsonScope]
  rw [buildOtelMetricsPayload, denotes_toString_iff, metricsRead, readBlocks_eq z i "resourceMetrics" (by decide)
    (by decide) scope (readMetric_metricJson z i)]
  rfl

theorem denotes_traces_iff {records : List TraceRecord} {data : Multiset (Entry Span)} :
    Denotes z tracesRead (buildOtelTracesPayload z i records) data ↔
      (records.mapM (jsonTraceEntry z)).map Multiset.ofList = some data := by
  rw [buildOtelTracesPayload, denotes_toString_iff, tracesRead, readBlocks_eq z i "resourceSpans" (by decide) (by decide)
    (fun r => readScope_named z i (TraceRecord.effectiveScope r) r.scopeAttributes) (readSpan_spanJson z i)]
  rfl

end Three

end TcOtel.Otlp
