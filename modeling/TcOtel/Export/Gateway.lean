import TcOtel.Core.Entries
import TcOtel.Core.Json
import TcOtel.Lib.Codec

/-!
# Logs that are received over gRPC

`convert_request_to_entries`, which makes a log entry of every record that an OTLP client sends, and
`LogRecord::from_log_entry`, which makes of the entry the record that is exported. The time of the
received record becomes the `plc_timestamp` of the entry, and the exported record has its
`clock_timestamp`: the time at which the record was converted. Of the attributes of the record, those with
a name that every exported record has are replaced (`carries_iff`).

An entry of a PLC has scalar attributes only. Here they are JSON values. The random id of an entry is left
out.
-/

namespace TcOtel

def LogLevel.toOtelSeverityNumber : LogLevel → Int32
  | .trace => 1
  | .debug => 5
  | .info => 9
  | .warn => 13
  | .error => 17
  | .fatal => 21

def LogLevel.toOtelSeverityText : LogLevel → String
  | .trace => "TRACE"
  | .debug => "DEBUG"
  | .info => "INFO"
  | .warn => "WARN"
  | .error => "ERROR"
  | .fatal => "FATAL"

namespace Grpc

open Decoding Rendering

/-! ### What is received -/

/-- An `AnyValue`, whose value may be missing. -/
inductive AnyValue where
  | unset
  | stringValue (s : String)
  | boolValue (b : Bool)
  | intValue (i : Int64)
  | doubleValue (d : F64)
  | arrayValue (values : List AnyValue)
  | kvlistValue (values : List (String × Option AnyValue))
  | bytesValue (b : List UInt8)

structure KeyValue where
  key : String
  value : Option AnyValue

structure LogRecord where
  timeUnixNano : UInt64
  severityNumber : Int32
  body : Option AnyValue
  attributes : List KeyValue
  traceId : List UInt8
  spanId : List UInt8

structure ScopeLogs where
  scope : Option String
  logRecords : List LogRecord

structure ResourceLogs where
  resource : Option (List KeyValue)
  scopeLogs : List ScopeLogs

structure ExportLogsServiceRequest where
  resourceLogs : List ResourceLogs

mutual

def anyValueToJson : AnyValue → Json
  | .unset => .null
  | .stringValue s => .string s
  | .boolValue b => .bool b
  | .intValue i => .number (Number.ofI64 i)
  | .doubleValue d => if finite : d.isFinite then .number (.float d finite) else .null
  | .arrayValue values => .array (valuesToJson values)
  | .kvlistValue values => .object (Coding.ordered (fieldsToJson values))
  | .bytesValue b => .string (hexEncode b)

def valuesToJson : List AnyValue → List Json
  | [] => []
  | value :: values => anyValueToJson value :: valuesToJson values

def fieldsToJson : List (String × Option AnyValue) → List (String × Json)
  | [] => []
  | (key, some value) :: fields => (key, anyValueToJson value) :: fieldsToJson fields
  | (key, none) :: fields => (key, .null) :: fieldsToJson fields

end

def KeyValue.json (kv : KeyValue) : Json := (kv.value.map anyValueToJson).getD .null

def extractStringAttr (attrs : List KeyValue) (key : String) : String :=
  match (attrs.find? fun kv => kv.key = key).bind KeyValue.value with
  | some (.stringValue s) => s
  | _ => ""

def extractIntAttr (attrs : List KeyValue) (key : String) : Int32 :=
  match (attrs.find? fun kv => kv.key = key).bind KeyValue.value with
  | some (.intValue i) => i.toInt32
  | _ => 0

def severityToLogLevel (severityNumber : Int32) : LogLevel :=
  let n := severityNumber.toInt
  if 1 ≤ n ∧ n ≤ 4 then .trace
  else if 5 ≤ n ∧ n ≤ 8 then .debug
  else if 9 ≤ n ∧ n ≤ 12 then .info
  else if 13 ≤ n ∧ n ≤ 16 then .warn
  else if 17 ≤ n ∧ n ≤ 20 then .error
  else if 21 ≤ n ∧ n ≤ 24 then .fatal
  else .info

/-! ### Entries -/

structure LogEntry where
  source : String
  hostname : String
  amsNetId : String
  amsSourcePort : UInt16
  amsAppPort : UInt16
  message : String
  logger : String
  level : LogLevel
  plcTimestamp : DateTime
  clockTimestamp : DateTime
  taskIndex : Int32
  taskName : String
  taskCycleCounter : UInt32
  appName : String
  projectName : String
  onlineChangeCount : UInt32
  traceId : Bytes 16
  spanId : Bytes 8
  arguments : List (Nat × Json)
  context : Attributes

/-- `LogEntry::new`. The two times are what `Utc::now` returns. -/
def LogEntry.new (plcNow clockNow : DateTime) (source hostname message logger : String) (level : LogLevel) :
    LogEntry where
  source := source
  hostname := hostname
  amsNetId := ""
  amsSourcePort := 0
  amsAppPort := 0
  message := message
  logger := logger
  level := level
  plcTimestamp := plcNow
  clockTimestamp := clockNow
  taskIndex := 0
  taskName := ""
  taskCycleCounter := 0
  appName := ""
  projectName := ""
  onlineChangeCount := 0
  traceId := Bytes.zero 16
  spanId := Bytes.zero 8
  arguments := []
  context := ∅

/-- A record as the loops reach it: with the attributes of its resource and the name of its scope. -/
structure Received where
  resourceAttrs : List KeyValue
  logger : String
  record : LogRecord

namespace Received

variable (r : Received)

def hasAttr (key : String) : Bool := r.resourceAttrs.any fun kv => kv.key = key

def taskIndex : Int32 :=
  if r.hasAttr "tc.task.index" then extractIntAttr r.resourceAttrs "tc.task.index"
  else extractIntAttr r.resourceAttrs "process.pid"

def taskName : String :=
  if r.hasAttr "tc.task.name" then extractStringAttr r.resourceAttrs "tc.task.name"
  else extractStringAttr r.resourceAttrs "process.command_line"

def message (z : Zmij) : String :=
  match r.record.body with
  | none | some .unset => ""
  | some (.stringValue s) => s
  | some other => Json.toString z (anyValueToJson other)

def source : String :=
  let address := extractStringAttr r.record.attributes "source.address"
  if address = "" then "otel-grpc" else address

def timestamp : DateTime := ⟨r.record.timeUnixNano.toNat / 1000000000, r.record.timeUnixNano.toNat % 1000000000⟩

def context : List (String × Json) :=
  (r.record.attributes.filter fun kv => kv.key ≠ "source.address").map fun kv => (kv.key, kv.json)

def toEntry (chrono : Chrono) (z : Zmij) (plcNow clockNow : DateTime) : LogEntry :=
  let entry := LogEntry.new plcNow clockNow r.source (extractStringAttr r.resourceAttrs "host.name") (r.message z) r.logger
    (severityToLogLevel r.record.severityNumber)
  { entry with
    projectName := extractStringAttr r.resourceAttrs "service.name"
    appName := extractStringAttr r.resourceAttrs "service.instance.id"
    taskIndex := r.taskIndex
    taskName := r.taskName
    plcTimestamp :=
      if 0 < r.record.timeUnixNano then
        (chrono.fromTimestamp (r.record.timeUnixNano.toNat / 1000000000)
          (r.record.timeUnixNano.toNat % 1000000000)).getD entry.plcTimestamp
      else entry.plcTimestamp
    traceId := (Bytes.ofList? 16 r.record.traceId).getD entry.traceId
    spanId := (Bytes.ofList? 8 r.record.spanId).getD entry.spanId
    context := HashMap.ofList r.context }

end Received

def ExportLogsServiceRequest.received (request : ExportLogsServiceRequest) : List Received :=
  request.resourceLogs.flatMap fun resourceLogs => resourceLogs.scopeLogs.flatMap fun scopeLogs =>
    scopeLogs.logRecords.map fun record => ⟨resourceLogs.resource.getD [], scopeLogs.scope.getD "", record⟩

/-- `convert_request_to_entries`. The clock is read twice for every entry. -/
def convertRequestToEntries (chrono : Chrono) (z : Zmij) (clock : Nat → DateTime)
    (request : ExportLogsServiceRequest) : List LogEntry :=
  request.received.mapIdx fun k received => received.toEntry chrono z (clock (2 * k)) (clock (2 * k + 1))

/-! ### Records for export -/

namespace LogEntry

def hasTraceContext (entry : LogEntry) : Bool := entry.traceId ≠ Bytes.zero 16

def standard (entry : LogEntry) : List (String × Json) :=
  [("task.cycle", Json.number (.posInt entry.taskCycleCounter.toUInt64)),
    ("online.changes", Json.number (.posInt entry.onlineChangeCount.toUInt64))] ++
  (if entry.source = "" then [] else [("source.address", Json.string entry.source)]) ++
  (if 0 < entry.taskIndex then [("tc.task.index", Json.number (Number.ofI64 entry.taskIndex.toInt64))] else []) ++
  (if entry.taskName = "" then [] else [("tc.task.name", Json.string entry.taskName)])

def toRecord (entry : LogEntry) : Otlp.LogRecord where
  timestamp := entry.clockTimestamp
  body := .string entry.message
  severityNumber := entry.level.toOtelSeverityNumber
  severityText := entry.level.toOtelSeverityText
  traceId := if entry.hasTraceContext then hexEncode entry.traceId.val else ""
  spanId := if entry.hasTraceContext then hexEncode entry.spanId.val else ""
  resourceAttributes := (buildOtelResource entry.projectName entry.appName entry.hostname entry.amsNetId
    entry.amsAppPort entry.amsSourcePort).mapValues Value.toJson
  scopeName := entry.logger
  scopeAttributes := ∅
  logAttributes := HashMap.insertAll (HashMap.insertAll entry.context entry.standard)
    (entry.arguments.map fun argument => ("arg." ++ argument.1.repr, argument.2))

end LogEntry

def exported (chrono : Chrono) (z : Zmij) (clock : Nat → DateTime) (request : ExportLogsServiceRequest) :
    List Otlp.LogRecord :=
  (convertRequestToEntries chrono z clock request).map LogEntry.toRecord

/-! ### What is carried -/

/-- The exported record has the time of the received one and every attribute of it with its value. -/
structure Received.Carries (r : Received) (record : Otlp.LogRecord) : Prop where
  timestamp : record.timestamp = r.timestamp
  attributes : ∀ kv ∈ r.record.attributes, record.logAttributes.lookup kv.key = some kv.json

/-- The value under which an attribute is exported: five names have a meaning of their own, and of two
values for another name it is the later one. -/
def Received.exportedValue (r : Received) (key : String) : Option Json :=
  if key = "task.cycle" ∨ key = "online.changes" then some (.number (.posInt 0))
  else if key = "source.address" then some (.string r.source)
  else if key = "tc.task.index" ∧ 0 < r.taskIndex then some (.number (Number.ofI64 r.taskIndex.toInt64))
  else if key = "tc.task.name" ∧ r.taskName ≠ "" then some (.string r.taskName)
  else HashMap.lastValue key r.context

theorem Received.source_ne_empty (r : Received) : r.source ≠ "" := by
  rw [source]
  split
  · decide
  · assumption

theorem LogEntry.lastValue_standard (entry : LogEntry) (filled : entry.source ≠ "") (key : String) :
    HashMap.lastValue key entry.standard =
      if key = "task.cycle" then some (.number (.posInt entry.taskCycleCounter.toUInt64))
      else if key = "online.changes" then some (.number (.posInt entry.onlineChangeCount.toUInt64))
      else if key = "source.address" then some (.string entry.source)
      else if key = "tc.task.index" ∧ 0 < entry.taskIndex then
        some (.number (Number.ofI64 entry.taskIndex.toInt64))
      else if key = "tc.task.name" ∧ entry.taskName ≠ "" then some (.string entry.taskName) else none := by
  have index : ∀ value : Json, HashMap.lastValue key
      (if 0 < entry.taskIndex then [("tc.task.index", value)] else []) =
        if key = "tc.task.index" ∧ 0 < entry.taskIndex then some value else none := by
    intro value
    by_cases known : 0 < entry.taskIndex
    · simp [known, HashMap.lastValue_cons, HashMap.lastValue_nil]
    · simp [known, HashMap.lastValue_nil]
  have name : ∀ value : Json, HashMap.lastValue key
      (if entry.taskName = "" then [] else [("tc.task.name", value)]) =
        if key = "tc.task.name" ∧ entry.taskName ≠ "" then some value else none := by
    intro value
    by_cases unknown : entry.taskName = ""
    · simp [unknown, HashMap.lastValue_nil]
    · simp [unknown, HashMap.lastValue_cons, HashMap.lastValue_nil]
  rw [standard, if_neg filled, HashMap.lastValue_append, HashMap.lastValue_append, HashMap.lastValue_append, index, name]
  simp only [HashMap.lastValue_cons, HashMap.lastValue_nil]
  -- a name is that of one attribute at most, so that their order does not matter
  by_cases cycle : key = "task.cycle"
  · simp [cycle]
  by_cases changes : key = "online.changes"
  · simp [changes]
  by_cases address : key = "source.address"
  · simp [address]
  by_cases task : key = "tc.task.index"
  · simp [task]
  · simp [cycle, changes, address, task]

theorem Received.lookup_exported (r : Received) (chrono : Chrono) (z : Zmij) (plcNow clockNow : DateTime)
    (key : String) :
    (r.toEntry chrono z plcNow clockNow).toRecord.logAttributes.lookup key = r.exportedValue key := by
  change (HashMap.insertAll (HashMap.insertAll (HashMap.ofList r.context)
    (r.toEntry chrono z plcNow clockNow).standard) []).lookup key = _
  rw [HashMap.lookup_insertAll, HashMap.lookup_insertAll, HashMap.ofList, HashMap.lookup_insertAll,
    LogEntry.lastValue_standard _ r.source_ne_empty]
  change (if key = "task.cycle" then some (.number (.posInt 0))
    else if key = "online.changes" then some (.number (.posInt 0))
    else if key = "source.address" then some (.string r.source)
    else if key = "tc.task.index" ∧ 0 < r.taskIndex then some (.number (Number.ofI64 r.taskIndex.toInt64))
    else if key = "tc.task.name" ∧ r.taskName ≠ "" then some (.string r.taskName)
    else none : Option Json).or ((HashMap.lastValue key r.context).or none) = _
  rw [Received.exportedValue]
  split_ifs <;> simp_all

/-- The time of a record is lost: what is exported is when it was converted. -/
theorem Received.carries_iff_of_entry (r : Received) (chrono : Chrono) (z : Zmij) (plcNow clockNow : DateTime) :
    r.Carries (r.toEntry chrono z plcNow clockNow).toRecord ↔
      clockNow = r.timestamp ∧ ∀ kv ∈ r.record.attributes, r.exportedValue kv.key = some kv.json := by
  have attributes : (∀ kv ∈ r.record.attributes,
      (r.toEntry chrono z plcNow clockNow).toRecord.logAttributes.lookup kv.key = some kv.json) ↔
        ∀ kv ∈ r.record.attributes, r.exportedValue kv.key = some kv.json := by
    simp [r.lookup_exported]
  exact ⟨fun carries => ⟨carries.timestamp, attributes.mp carries.attributes⟩,
    fun ⟨time, kept⟩ => ⟨time, attributes.mpr kept⟩⟩

/-- A time of 64 bits is one that `chrono` represents, and it comes to the entry. -/
theorem Received.plcTimestamp_toEntry (r : Received) (timed : r.record.timeUnixNano ≠ 0) (chrono : Chrono) (z : Zmij)
    (plcNow clockNow : DateTime) : (r.toEntry chrono z plcNow clockNow).plcTimestamp = r.timestamp := by
  have bound : r.record.timeUnixNano.toNat < 2 ^ 64 := r.record.timeUnixNano.toNat_lt
  have positive : 0 < r.record.timeUnixNano := UInt64.pos_iff_ne_zero.mpr timed
  have represented := chrono.fromTimestamp_inRange (r.record.timeUnixNano.toNat / 1000000000)
    (r.record.timeUnixNano.toNat % 1000000000) (by omega) (by omega) (by omega)
  simp only [toEntry, if_pos positive, represented]
  rfl

/-- For every record of a request that has a time: the time comes to its entry, and the record that is
exported for it carries its time and all its attributes just when the clock showed that very time at the
conversion, and every attribute has the value under which its name is exported. -/
theorem carries_iff (chrono : Chrono) (z : Zmij) (clock : Nat → DateTime) (request : ExportLogsServiceRequest)
    {k : Nat} {r : Received} (there : request.received[k]? = some r) (timed : r.record.timeUnixNano ≠ 0) :
    ∃ entry record, (convertRequestToEntries chrono z clock request)[k]? = some entry ∧
      (exported chrono z clock request)[k]? = some record ∧ entry.plcTimestamp = r.timestamp ∧
      (r.Carries record ↔ clock (2 * k + 1) = r.timestamp ∧
        ∀ kv ∈ r.record.attributes, r.exportedValue kv.key = some kv.json) := by
  have converted : (convertRequestToEntries chrono z clock request)[k]? =
      some (r.toEntry chrono z (clock (2 * k)) (clock (2 * k + 1))) := by
    rw [convertRequestToEntries, List.getElem?_mapIdx, there, Option.map_some]
  have sent : (exported chrono z clock request)[k]? =
      some (r.toEntry chrono z (clock (2 * k)) (clock (2 * k + 1))).toRecord := by
    rw [exported, List.getElem?_map, converted, Option.map_some]
  exact ⟨_, _, converted, sent, r.plcTimestamp_toEntry timed chrono z _ _, r.carries_iff_of_entry chrono z _ _⟩

/-! ### A record from long ago -/

/-- A record of one second past 1970 with an attribute of its own called `task.cycle`. -/
def oldRecord : Received :=
  ⟨[], "", ⟨1000000000, 9, none, [⟨"task.cycle", some (.intValue 7)⟩], [], []⟩⟩

def oldRequest : ExportLogsServiceRequest := ⟨[⟨none, [⟨none, [oldRecord.record]⟩]⟩]⟩

def lateClock (_ : Nat) : DateTime := ⟨1700000000, 0⟩

def oldExported : Otlp.LogRecord := (oldRecord.toEntry .unlimited .bitwise (lateClock 0) (lateClock 1)).toRecord

theorem old_record_carries_iff : oldRequest.received[0]? = some oldRecord ∧ oldRecord.record.timeUnixNano ≠ 0 ∧
      ∃ entry record, (convertRequestToEntries .unlimited .bitwise lateClock oldRequest)[0]? = some entry ∧
        (exported .unlimited .bitwise lateClock oldRequest)[0]? = some record ∧
        entry.plcTimestamp = oldRecord.timestamp ∧
        (oldRecord.Carries record ↔ lateClock 1 = oldRecord.timestamp ∧
          ∀ kv ∈ oldRecord.record.attributes, oldRecord.exportedValue kv.key = some kv.json) := by
  have there : oldRequest.received[0]? = some oldRecord := rfl
  have timed : oldRecord.record.timeUnixNano ≠ 0 := by decide
  exact ⟨there, timed, carries_iff .unlimited .bitwise lateClock oldRequest there timed⟩

theorem old_record_not_carried :
    exported .unlimited .bitwise lateClock oldRequest = [oldExported] ∧ ¬oldRecord.Carries oldExported := by
  refine ⟨rfl, fun carries => ?_⟩
  have clocks := ((oldRecord.carries_iff_of_entry _ _ _ _).mp carries).1
  exact absurd clocks (by decide)

end Grpc

end TcOtel
