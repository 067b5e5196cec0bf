import TcOtel.Core.Models
import TcOtel.Lib.Bytes

/-!
# Messages of the ADS log protocol

What `parse_all` returns: log entries, task registrations, metrics and trace events, as
`protocol.rs` declares them, and the errors of `error.rs` that decoding can raise.
-/

namespace TcOtel.Ads

open Decoding

inductive AdsError where
  | invalidVersion (version : UInt8)
  | incompleteMessage (expected got : Nat)
  | invalidTimestamp (text : String)
  | parseError (text : String)
deriving DecidableEq, Repr

inductive AdsProtocolVersion where
  | v1 | v2 | registration
deriving DecidableEq, Repr

def AdsProtocolVersion.fromU8 (val : UInt8) : Option AdsProtocolVersion :=
  match val.toNat with
  | 1 => some .v1
  | 2 => some .v2
  | 3 => some .registration
  | _ => none

/-- A log entry as it comes over the wire. All-zero ids mean that it belongs to no span. -/
structure AdsLogEntry where
  version : AdsProtocolVersion
  message : String
  logger : String
  level : LogLevel
  plcTimestamp : DateTime
  clockTimestamp : DateTime
  taskIndex : Int32
  taskName : String
  taskCycleCounter : UInt32
  appName : String
  projectName : String
  onlineChangeCount : UInt32
  traceId : Bytes 16
  spanId : Bytes 8
  arguments : HashMap Nat Value
  context : HashMap String Value
deriving DecidableEq

structure RegistrationMessage where
  taskIndex : UInt8
  taskName : String
  appName : String
  projectName : String
  onlineChangeCount : UInt32
  appPort : UInt16
deriving DecidableEq, Repr

structure AdsMetricEntry where
  name : String
  description : String
  unit : String
  kind : MetricKind
  value : F64
  timestamp : DateTime
  taskIndex : Int32
  taskCycleCounter : UInt32
  isMonotonic : Bool
  attributes : HashMap String Value
  histogramBounds : List F64
  histogramCounts : List UInt64
  histogramCount : UInt64
  histogramSum : F64
deriving DecidableEq

inductive AttrValue where
  | i64 (n : Int64)
  | f64 (f : F64)
  | bool (b : Bool)
  | string (s : String)
deriving DecidableEq

/-- SPAN_BEGIN. An all-zero parent id means a root span. -/
structure SpanBegin where
  localId : UInt8
  taskIndex : UInt8
  flags : UInt8
  dcTime : Int64
  parentSpanId : Bytes 8
  kind : UInt8
  name : String
  traceparent : Option String
  traceId : Bytes 16
  spanId : Bytes 8
  scopeNamespace : String
deriving DecidableEq

structure SpanAttr where
  spanId : Bytes 8
  taskIndex : UInt8
  flags : UInt8
  dcTime : Int64
  key : String
  value : AttrValue
deriving DecidableEq

/-- SPAN_EVENT: a time-stamped event of a pending span. -/
structure SpanPoint where
  spanId : Bytes 8
  taskIndex : UInt8
  flags : UInt8
  dcTime : Int64
  name : String
  attrs : List (String × AttrValue)
deriving DecidableEq

structure SpanEnd where
  spanId : Bytes 8
  taskIndex : UInt8
  flags : UInt8
  dcTime : Int64
  status : UInt8
  message : String
deriving DecidableEq

inductive TraceWireEvent where
  | spanBegin (ev : SpanBegin)
  | spanAttr (ev : SpanAttr)
  | spanEvent (ev : SpanPoint)
  | spanEnd (ev : SpanEnd)
deriving DecidableEq

def AttrValue.toJson : AttrValue → Value
  | .i64 n => .int n.toInt
  | .f64 f => .ofF64 f
  | .bool b => .bool b
  | .string s => .string s

/-! ### PLCs and their tasks -/

abbrev AmsNetId := Bytes 6

def AmsNetId.display (netId : AmsNetId) : String := ".".intercalate (netId.val.map toString)

structure RegistrationKey where
  amsNetId : String
  amsSourcePort : UInt16
  taskIndex : UInt8
deriving DecidableEq, Repr

structure TaskMetadata where
  taskName : String
  appName : String
  projectName : String
  onlineChangeCount : UInt32
  appPort : UInt16
deriving DecidableEq, Repr

/-! ### Parsing -/

/-- What a buffer holds. The `spans` of the source are always empty and are left out. -/
structure ParseResult where
  entries : List AdsLogEntry
  registrations : List RegistrationMessage
  metrics : List AdsMetricEntry
  traceEvents : List TraceWireEvent
deriving DecidableEq

def ParseResult.empty : ParseResult := ⟨[], [], [], []⟩

end TcOtel.Ads
