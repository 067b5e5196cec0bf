import TcOtel.Client.Browse
import TcOtel.Client.Scalar

/-!
# Notifications of a PLC

`notify.rs`: how a symbol is subscribed to, what the sink makes of a notification frame, and what
the notifier makes of a sample. A sample names its subscription only by the handle that the PLC
chose for it.
-/

namespace TcOtel.Client

open Ads Decoding Memory

/-! ### Definitions of metrics -/

inductive NotificationTransmissionMode where
  | onChange | cyclic
deriving DecidableEq

structure NotificationConfig where
  minPeriodMs : UInt32
  maxPeriodMs : UInt32
  maxDelayMs : UInt32
  transmissionMode : NotificationTransmissionMode
deriving DecidableEq

inductive CustomMetricSource where
  | push | poll | notification
deriving DecidableEq

/-- A metric of the configuration, with its `MetricKindConfig` as the kind that it stands for. The
interval of its poller is left out: it decides only when the
poller reads. -/
structure CustomMetricDef where
  symbol : String
  metricName : String
  description : String
  unit : String
  kind : MetricKind
  isMonotonic : Bool
  source : CustomMetricSource
  amsNetId : Option String
  amsPort : Option UInt16
  amsRouterHost : Option String
  notification : Option NotificationConfig
deriving DecidableEq

structure SymbolMeta where
  size : UInt32
  typeName : String
  indexGroup : UInt32
  indexOffset : UInt32
deriving DecidableEq

/-- `build_metric_entry`. `now` is what `Utc::now` returns. -/
def buildMetricEntry (now : DateTime) (d : CustomMetricDef) (value : PlcValue) : MetricEntry :=
  let entry :=
    match d.kind with
    | .gauge => MetricEntry.gauge now d.metricName value.asF64
    | .sum => MetricEntry.sum now d.metricName value.asF64 d.isMonotonic
    | .histogram => MetricEntry.gauge now d.metricName value.asF64
  let datatype :=
    match value with
    | .bool _ => "bool"
    | .i64 _ => "i64"
    | .u64 _ => "u64"
    | .f64 _ => "f64"
  { entry with
    description := d.description
    unit := d.unit
    source := "client-poll"
    amsNetId := d.amsNetId.getD entry.amsNetId
    amsSourcePort := d.amsPort.getD entry.amsSourcePort
    attributes := (entry.attributes.insert "plc.symbol" (.string d.symbol)).insert "plc.datatype" (.string datatype) }

/-! ### Subscribing -/

/-- Durations are in milliseconds. -/
structure NotifAttrs where
  length : UInt32
  transMode : NotificationTransmissionMode
  maxDelay : Nat
  cycleTime : Nat
deriving DecidableEq

def NotifAttrs.fromDef (d : CustomMetricDef) (size : UInt32) : Except ClientError NotifAttrs :=
  match d.notification with
  | none => .error (.decode s!"metric '{d.metricName}' has source=notification but no notification config")
  | some cfg => .ok ⟨size, cfg.transmissionMode, cfg.maxDelayMs.toNat, max cfg.minPeriodMs.toNat 10⟩

/-- `to_100ns`: the ticks of a duration, cut to 32 bits. -/
def to100ns (ms : Nat) : UInt32 := UInt32.ofNat (ms * 10000)

def NotifAttrs.serializeTail (attrs : NotifAttrs) : List UInt8 :=
  let transMode :=
    match attrs.transMode with
    | .onChange => 4
    | .cyclic => 3
  leBytes 4 transMode ++ (leBytes 4 (to100ns attrs.maxDelay).toNat ++
    (leBytes 4 (to100ns attrs.cycleTime).toNat ++ List.replicate 16 0))

def addNotificationRequest (attrs : NotifAttrs) (symbol : SymbolMeta) : List UInt8 :=
  leBytes 4 symbol.indexGroup.toNat ++ (leBytes 4 symbol.indexOffset.toNat ++ (leBytes 4 symbol.size.toNat ++
    attrs.serializeTail))

def addedHandle (raw : List UInt8) : Except ClientError UInt32 :=
  if raw.length < 8 then .error (.decode s!"ADS AddNotification response too short: {raw.length} bytes")
  else if Push.readU32 raw 0 ≠ 0 then
    .error (.ads s!"ADS AddNotification returned error 0x{AmsDispatcher.lowerHex (Push.readU32 raw 0)}")
  else .ok (Push.readU32 raw 4)

structure Subscription where
  metricDef : CustomMetricDef
  symbol : SymbolMeta
  attrs : NotifAttrs
deriving DecidableEq

/-! ### The sink -/

abbrev Sample := UInt32 × List UInt8

/-- The samples of one stamp from an offset on, and where the loop over them ends. -/
def samplesFrom (data : List UInt8) : Nat → Nat → List Sample × Nat
  | 0, off => ([], off)
  | remaining + 1, off =>
    if data.length < off + 8 then ([], off)
    else
      let size := (Push.readU32 data (off + 4)).toNat
      if data.length < off + 8 + size then ([], off + 8)
      else
        let rest := samplesFrom data remaining (off + 8 + size)
        ((Push.readU32 data off, extract data (off + 8) size) :: rest.1, rest.2)

/-- The loop over the stamps. It goes on behind a stamp whose samples break off. -/
def stampsFrom (data : List UInt8) : Nat → Nat → List Sample
  | 0, _ => []
  | remaining + 1, off =>
    if data.length < off + 12 then []
    else
      let stamp := samplesFrom data (Push.readU32 data (off + 8)).toNat (off + 12)
      stamp.1 ++ stampsFrom data remaining stamp.2

def parseNotificationPayload (data : List UInt8) : List Sample :=
  if data.length < 8 then [] else stampsFrom data (Push.readU32 data 4).toNat 8

/-- `NotificationSink::deliver`: the samples that go into the channel of the notifier. The header is
asked for the command only. -/
def sinkSamples (frame : ResponseFrame) : List Sample :=
  if frame.header.commandId ≠ adsCmdNotification then [] else parseNotificationPayload frame.payload

/-! ### The notifier -/

def metricEntryWithSource (e : MetricEntry) (src : String) : MetricEntry := { e with source := src }

structure Notifier where
  subs : HashMap UInt32 Subscription
  bySymbol : HashMap String UInt32

namespace Notifier

def new : Notifier := ⟨∅, ∅⟩

def register (n : Notifier) (handle : UInt32) (sub : Subscription) : Notifier :=
  ⟨n.subs.insert handle sub, n.bySymbol.insert sub.metricDef.symbol handle⟩

/-- `dispatch_sample`: what is handed to the channel of the metrics. -/
def dispatchSample (n : Notifier) (now : DateTime) (sample : Sample) : Option MetricEntry :=
  match n.subs.lookup sample.1 with
  | none => none
  | some sub =>
    (decodeScalar sub.symbol.typeName sample.2).map fun value =>
      metricEntryWithSource (buildMetricEntry now sub.metricDef value) "client-notify"

/-- The sample has a handle of this notifier, and its bytes are a value of the symbol's type. -/
def Takes (n : Notifier) (sample : Sample) : Prop :=
  ∃ sub ∈ n.subs.lookup sample.1, (decodeScalar sub.symbol.typeName sample.2).isSome
deriving Decidable

theorem dispatchSample_isSome_iff (n : Notifier) (now : DateTime) (sample : Sample) :
    (n.dispatchSample now sample).isSome ↔ n.Takes sample := by
  rw [dispatchSample, Takes]
  cases n.subs.lookup sample.1 with
  | none | some sub => simp

end Notifier

end TcOtel.Client
