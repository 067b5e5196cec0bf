import TcOtel.Core.Models
import TcOtel.Lib.Bytes

/-!
# Entries of the pipeline

What the receiver hands to the service: log entries, metric points and spans, with the addresses
and the task they come from. The random id of a log entry is left out.
-/

namespace TcOtel

open Decoding

/-! ### Exact conversions to `f64` -/

/-- `n as f64`, which is exact below `2 ^ 53`. -/
def F64.ofNat (n : Nat) : F64 :=
  if n = 0 then ⟨0⟩
  else
    let top := Nat.log2 n
    ⟨UInt64.ofNat ((top + 1023) * 2 ^ 52 + (n - 2 ^ top) * 2 ^ (52 - top))⟩

theorem F64.bits_ofNat (positive : n ≠ 0) (exact : n < 2 ^ 53) :
    (F64.ofNat n).bits.toNat / 2 ^ 52 = Nat.log2 n + 1023 ∧
      (F64.ofNat n).bits.toNat % 2 ^ 52 = (n - 2 ^ Nat.log2 n) * 2 ^ (52 - Nat.log2 n) := by
  have low : 2 ^ Nat.log2 n ≤ n := Nat.log2_self_le positive
  have high : n < 2 ^ (Nat.log2 n + 1) := Nat.lt_log2_self
  have top : Nat.log2 n < 53 := (Nat.log2_lt positive).mpr exact
  have fraction : (n - 2 ^ Nat.log2 n) * 2 ^ (52 - Nat.log2 n) < 2 ^ 52 :=
    calc (n - 2 ^ Nat.log2 n) * 2 ^ (52 - Nat.log2 n)
        < 2 ^ Nat.log2 n * 2 ^ (52 - Nat.log2 n) :=
          Nat.mul_lt_mul_of_pos_right (by rw [Nat.pow_succ] at high; omega) (Nat.two_pow_pos _)
      _ = 2 ^ 52 := by rw [← Nat.pow_add]; congr 1; omega
  have bits : (F64.ofNat n).bits.toNat =
      (Nat.log2 n + 1023) * 2 ^ 52 + (n - 2 ^ Nat.log2 n) * 2 ^ (52 - Nat.log2 n) := by
    simp only [F64.ofNat, if_neg positive]
    rw [UInt64.toNat_ofNat', Nat.mod_eq_of_lt (by omega)]
  omega

theorem F64.ofNat_injective (exactM : m < 2 ^ 53) (exactN : n < 2 ^ 53)
    (same : F64.ofNat m = F64.ofNat n) : m = n := by
  have zero (k : Nat) (exact : k < 2 ^ 53) (isZero : F64.ofNat k = F64.ofNat 0) : k = 0 := by
    by_contra positive
    have exponent := (F64.bits_ofNat positive exact).1
    rw [isZero] at exponent
    have : (F64.ofNat 0).bits.toNat = 0 := rfl
    omega
  by_cases mZero : m = 0
  · subst mZero
    exact (zero n exactN same.symm).symm
  by_cases nZero : n = 0
  · subst nZero
    exact zero m exactM same
  obtain ⟨exponentM, fractionM⟩ := F64.bits_ofNat mZero exactM
  obtain ⟨exponentN, fractionN⟩ := F64.bits_ofNat nZero exactN
  rw [same] at exponentM fractionM
  have top : Nat.log2 m = Nat.log2 n := by omega
  rw [fractionN, top] at fractionM
  have fraction := Nat.eq_of_mul_eq_mul_right (Nat.two_pow_pos _) fractionM
  have lowM := Nat.log2_self_le mZero
  have lowN := Nat.log2_self_le nZero
  rw [top] at lowM
  omega

/-! ### Logs -/

/-- A log entry with its origin. All-zero ids mean no trace context. -/
structure LogEntry where
  source : String
  hostname : String
  amsNetId : String
  amsSourcePort : UInt16
  amsAppPort : UInt16
  message : String
  logger : String
  level : LogLevel
  plcTimestamp : DateTime
  clockTimestamp : DateTime
  taskIndex : Int32
  taskName : String
  taskCycleCounter : UInt32
  appName : String
  projectName : String
  onlineChangeCount : UInt32
  traceId : Bytes 16
  spanId : Bytes 8
  arguments : HashMap Nat Value
  context : HashMap String Value
deriving DecidableEq

/-! ### Metrics -/

structure MetricEntry where
  name : String
  description : String
  unit : String
  kind : MetricKind
  value : F64
  timestamp : DateTime
  source : String
  hostname : String
  amsNetId : String
  amsSourcePort : UInt16
  amsAppPort : UInt16
  taskIndex : Int32
  taskName : String
  taskCycleCounter : UInt32
  appName : String
  projectName : String
  scopeNamespace : String
  attributes : HashMap String Value
  histogramBounds : List F64
  histogramCounts : List UInt64
  histogramCount : UInt64
  histogramSum : F64
  isMonotonic : Bool
  traceId : Bytes 16
  spanId : Bytes 8
deriving DecidableEq

namespace MetricEntry

def gauge (now : DateTime) (name : String) (value : F64) : MetricEntry where
  name := name
  description := ""
  unit := ""
  kind := .gauge
  value := value
  timestamp := now
  source := ""
  hostname := ""
  amsNetId := ""
  amsSourcePort := 0
  amsAppPort := 0
  taskIndex := 0
  taskName := ""
  taskCycleCounter := 0
  appName := ""
  projectName := ""
  scopeNamespace := ""
  attributes := ∅
  histogramBounds := []
  histogramCounts := []
  histogramCount := 0
  histogramSum := ⟨0⟩
  isMonotonic := false
  traceId := Bytes.zero 16
  spanId := Bytes.zero 8

def sum (now : DateTime) (name : String) (value : F64) (isMonotonic : Bool) : MetricEntry :=
  { gauge now name value with kind := .sum, isMonotonic := isMonotonic }

end MetricEntry

/-! ### Spans -/

structure SpanEvent where
  timestamp : DateTime
  name : String
  attributes : HashMap String Value
deriving DecidableEq

/-- A finished span with its origin. An all-zero parent id means a root span. -/
structure SpanEntry where
  traceId : Bytes 16
  spanId : Bytes 8
  parentSpanId : Bytes 8
  name : String
  kind : SpanKind
  statusCode : SpanStatusCode
  statusMessage : String
  startTime : DateTime
  endTime : DateTime
  source : String
  hostname : String
  amsNetId : String
  amsSourcePort : UInt16
  amsAppPort : UInt16
  taskIndex : Int32
  taskName : String
  taskCycleCounter : UInt32
  appName : String
  projectName : String
  scopeNamespace : String
  attributes : HashMap String Value
  events : List SpanEvent
deriving DecidableEq

def SpanEvent.toRecord (e : SpanEvent) : TraceEventRecord where
  timestamp := e.timestamp
  name := e.name
  attributes := e.attributes

def SpanEntry.spanAttributes (entry : SpanEntry) : HashMap String Value :=
  let addressed := insertWhen (!entry.source.isEmpty) "source.address" (.string entry.source) entry.attributes
  let named := insertWhen (!entry.taskName.isEmpty) "task.name" (.string entry.taskName) addressed
  let indexed := insertWhen (entry.taskIndex > 0) "task.index" (.int entry.taskIndex.toInt) named
  insertWhen (entry.taskCycleCounter > 0) "task.cycle" (.int entry.taskCycleCounter.toNat) indexed

def TraceRecord.fromSpanEntry (entry : SpanEntry) : TraceRecord where
  traceId := hexEncode entry.traceId.val
  spanId := hexEncode entry.spanId.val
  parentSpanId := hexEncode entry.parentSpanId.val
  name := entry.name
  kind := entry.kind.toOtelKind
  startTime := entry.startTime
  endTime := entry.endTime
  statusCode := entry.statusCode.toOtelStatus
  statusMessage := entry.statusMessage
  resourceAttributes := buildOtelResource entry.projectName entry.appName entry.hostname entry.amsNetId
    entry.amsAppPort entry.amsSourcePort
  scopeName := entry.scopeNamespace
  scopeAttributes := ∅
  spanAttributes := entry.spanAttributes
  events := entry.events.map SpanEvent.toRecord

end TcOtel
