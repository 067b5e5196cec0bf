import TcOtel.Plc.MetricFrame
import TcOtel.Plc.TaskDiag

/-!
# `FB_Metrics`

A metric of the PLC program. `Observe` appends samples to the active one of two frame halves;
`_DoFlush` puts the header in front of them, hands the half to the sender and goes on with
the other half. How a sample is laid out is decided by settings that may change at any time:
they are read when a sample is appended, and again when the header is built.
-/

namespace TcOtel.Plc

open Decoding Memory Ads.Push Collecting

/-! ### Arguments and arithmetic -/

inductive TypeClass where
  | bool | sint | int | dint | lint | usint | uint | udint | ulint | real | lreal
  | byte | word | dword | lword | enum | string | wstring | other
deriving DecidableEq, Repr

/-- The sizes that a value of a class may have. -/
def TypeClass.allows : TypeClass → Nat → Bool
  | bool, n | sint, n | usint, n | byte, n => n == 1
  | int, n | uint, n | word, n => n == 2
  | dint, n | udint, n | dword, n | real, n => n == 4
  | lint, n | ulint, n | lword, n | lreal, n => n == 8
  | enum, n => n == 1 || n == 2 || n == 4 || n == 8
  | string, _ | wstring, _ | other, _ => true

structure AnyRef where
  typeClass : TypeClass
  bytes : List UInt8
  behind : List UInt8
  sized : typeClass.allows bytes.length

/-- The first bytes at `pValue`, which may be more than the value has. -/
def AnyRef.memory (arg : AnyRef) (n : Nat) : List UInt8 := (arg.bytes ++ arg.behind).take n

/-- The arithmetic of `LREAL`, whatever the processor makes of it. -/
structure Lreal where
  ofInt : Int → F64
  ofReal : F32 → F64
  add : F64 → F64 → F64
  sub : F64 → F64 → F64
  mul : F64 → F64 → F64
  div : F64 → F64 → F64
  sqrt : F64 → F64
  lt : F64 → F64 → Bool

namespace AnyRef

def unsigned (arg : AnyRef) (n : Nat) : Nat := leNat (arg.memory n)

def signed (arg : AnyRef) (n : Nat) : Int :=
  if arg.unsigned n < 2 ^ (8 * n - 1) then arg.unsigned n else (arg.unsigned n : Int) - 2 ^ (8 * n)

def toLreal (lreal : Lreal) (arg : AnyRef) : F64 :=
  match arg.typeClass with
  | .bool => if arg.unsigned 1 ≠ 0 then .ofNat 1 else .ofNat 0
  | .sint => lreal.ofInt (arg.signed 1)
  | .int => lreal.ofInt (arg.signed 2)
  | .dint => lreal.ofInt (arg.signed 4)
  | .lint => lreal.ofInt (arg.signed 8)
  | .usint | .byte => lreal.ofInt (arg.unsigned 1)
  | .uint | .word => lreal.ofInt (arg.unsigned 2)
  | .udint | .dword => lreal.ofInt (arg.unsigned 4)
  | .ulint | .lword => lreal.ofInt (arg.unsigned 8)
  | .real => lreal.ofReal ⟨UInt32.ofNat (arg.unsigned 4)⟩
  | .lreal => ⟨UInt64.ofNat (arg.unsigned 8)⟩
  | .enum | .string | .wstring | .other => .ofNat 0

end AnyRef

/-! ### State -/

def hdrReserve : Nat := 256
def bodyCapacity : Nat := 32768
def bodyHighWater : Nat := 26214
def frameSize : Nat := 33024

/-- What a call sees of the task, of the DC clock, of the spans it may refer to and of the
sender. -/
structure MetricCycle where
  nTaskIdx : Int
  info : PlcTaskSystemInfo
  actualDcTime : Int64
  /-- The ids of the span that `WithSpan` has pinned. -/
  pinned : Bytes 16 × Bytes 8
  /-- The ids of the innermost open span of the bound tracer. -/
  innermost : Option (Bytes 16 × Bytes 8)
  /-- There is a sender and its queue has room. -/
  enqueued : Bool

structure Metrics where
  bInitialized : Bool
  sName : PlcString
  sUnit : PlcString
  nMetricId : UInt32
  /-- `none` is `eUnknown`. -/
  eBodySchema : Option MetricBodySchema
  nSampleSize : Nat
  nLockedTypeClass : TypeClass
  nStringSize : Nat
  /-- `_aFrameA` is the half `false` and `_aFrameB` the half `true`. -/
  frames : Bool → List UInt8
  eActiveBuf : Bool
  nBodyOffset : Nat
  nSampleCount : Nat
  bOverflow : Bool
  bPending : Bool
  ePendingBuf : Bool
  nPendingHdrLen : Nat
  nPendingBodyLen : Nat
  abyLastValue : List UInt8
  bLastValueValid : Bool
  bChangeDetect : Bool
  nSampleIntervalMs : UInt32
  nPushIntervalMs : UInt32
  nLastSampleCycle : UInt32
  bLastSampleSet : Bool
  nWindowStartCycle : UInt32
  bWindowStartSet : Bool
  nCycleStart : UInt32
  nCycleEnd : UInt32
  nDcTimeStart : Int64
  nDcTimeEnd : Int64
  bWindowHasSample : Bool
  nFlushOk : UInt32
  nDropAppend : UInt32
  nDropEmit : UInt32
  nDropWindow : UInt32
  nWrongTypeDrops : UInt32
  nStatMask : UInt8
  nAggSampleSize : Nat
  aggMin : F64
  aggMax : F64
  aggMean : F64
  aggSumSq : F64
  aggSum : F64
  nAggCount : UInt32
  bAggHasSample : Bool
  /-- A tracer is bound. -/
  pTracer : Bool
  /-- A span is pinned for the next flush. -/
  pSpanOverride : Bool
  bRecordSampleTimes : Bool
  bRecordSampleTimesDc : Bool
  sLogger : PlcString

namespace Metrics

/-- As the instance starts; `sLogger` is derived from its path. -/
def initial (sLogger : PlcString) : Metrics where
  bInitialized := false
  sName := .empty
  sUnit := .empty
  nMetricId := 0
  eBodySchema := none
  nSampleSize := 0
  nLockedTypeClass := .other
  nStringSize := 64
  frames := fun _ => List.replicate frameSize 0
  eActiveBuf := false
  nBodyOffset := 0
  nSampleCount := 0
  bOverflow := false
  bPending := false
  ePendingBuf := false
  nPendingHdrLen := 0
  nPendingBodyLen := 0
  abyLastValue := List.replicate 64 0
  bLastValueValid := false
  bChangeDetect := true
  nSampleIntervalMs := 0
  nPushIntervalMs := 1000
  nLastSampleCycle := 0
  bLastSampleSet := false
  nWindowStartCycle := 0
  bWindowStartSet := false
  nCycleStart := 0
  nCycleEnd := 0
  nDcTimeStart := 0
  nDcTimeEnd := 0
  bWindowHasSample := false
  nFlushOk := 0
  nDropAppend := 0
  nDropEmit := 0
  nDropWindow := 0
  nWrongTypeDrops := 0
  nStatMask := 0
  nAggSampleSize := 0
  aggMin := .ofNat 0
  aggMax := .ofNat 0
  aggMean := .ofNat 0
  aggSumSq := .ofNat 0
  aggSum := .ofNat 0
  nAggCount := 0
  bAggHasSample := false
  pTracer := false
  pSpanOverride := false
  bRecordSampleTimes := false
  bRecordSampleTimesDc := false
  sLogger := sLogger

/-! ### Settings -/

def fnv1a (bytes : List UInt8) : UInt32 :=
  bytes.foldl (fun hash b => (hash ^^^ b.toUInt32) * 0x01000193) 0x811C9DC5

def init (sName sUnit : PlcString) (nStringSize : Nat) (fb : Metrics) : Metrics :=
  { fb with
    sName := sName
    sUnit := sUnit
    nStringSize := if nStringSize = 0 then 64 else min nStringSize 255
    nMetricId := fnv1a sName.bytes
    bInitialized := true }

def aggReset (fb : Metrics) : Metrics :=
  { fb with
    aggMin := .ofNat 0
    aggMax := .ofNat 0
    aggMean := .ofNat 0
    aggSumSq := .ofNat 0
    aggSum := .ofNat 0
    nAggCount := 0
    bAggHasSample := false }

/-- A metric that is locked to numbers changes its schema at once. -/
def switchSchema (nMask : UInt8) (fb : Metrics) : Option MetricBodySchema × Nat :=
  if fb.eBodySchema = some .numeric ∧ nMask ≠ 0 then (some .numericAggregated, countOnes nMask * 8)
  else if fb.eBodySchema = some .numericAggregated ∧ nMask = 0 then (some .numeric, 8)
  else if fb.eBodySchema = some .numericAggregated ∧ nMask ≠ 0 then (fb.eBodySchema, countOnes nMask * 8)
  else (fb.eBodySchema, fb.nSampleSize)

def setAggregation (nMask : UInt8) (fb : Metrics) : Metrics :=
  aggReset { fb with
    nStatMask := nMask
    nAggSampleSize := countOnes nMask * 8
    eBodySchema := (fb.switchSchema nMask).1
    nSampleSize := (fb.switchSchema nMask).2 }

/-- `SetRecordSampleTimes`. The two kinds of time stamps exclude each other. -/
def setRecordSampleTimes (bEnable : Bool) (fb : Metrics) : Metrics :=
  { fb with
    bRecordSampleTimes := bEnable
    bRecordSampleTimesDc := if bEnable then false else fb.bRecordSampleTimesDc }

def setRecordSampleTimesDc (bEnable : Bool) (fb : Metrics) : Metrics :=
  { fb with
    bRecordSampleTimesDc := bEnable
    bRecordSampleTimes := if bEnable then false else fb.bRecordSampleTimes }

def setSampleIntervalMs (nMs : UInt32) (fb : Metrics) : Metrics := { fb with nSampleIntervalMs := nMs }

def setPushIntervalMs (nMs : UInt32) (fb : Metrics) : Metrics :=
  { fb with nPushIntervalMs := if nMs = 0 then 1000 else nMs }

def setChangeDetect (bEnabled : Bool) (fb : Metrics) : Metrics := { fb with bChangeDetect := bEnabled }

/-- `BindTracer`, with a tracer or with none. -/
def bindTracer (bound : Bool) (fb : Metrics) : Metrics := { fb with pTracer := bound }

def withSpan (pinned : Bool) (fb : Metrics) : Metrics := { fb with pSpanOverride := pinned }

/-- `_NotifyFrameSent`: the sender is done with the pending half. -/
def notifyFrameSent (bOk : Bool) (fb : Metrics) : Metrics :=
  { fb with
    nFlushOk := if bOk then fb.nFlushOk + 1 else fb.nFlushOk
    nDropEmit := if bOk then fb.nDropEmit else fb.nDropEmit + 1
    bPending := false
    nPendingHdrLen := 0
    nPendingBodyLen := 0 }

def sampleTimes (fb : Metrics) : SampleTimes :=
  if fb.bRecordSampleTimes then .cycles else if fb.bRecordSampleTimesDc then .dc else .off

def layout? (fb : Metrics) : Option Layout :=
  fb.eBodySchema.map fun schema => ⟨schema, fb.nStatMask, fb.sampleTimes⟩

/-! ### Flushing -/

/-- The span of the frame: the one that is pinned, else the innermost one of the bound tracer. -/
def spanOf (fb : Metrics) (c : MetricCycle) : Option (Bytes 16 × Bytes 8) :=
  if fb.pSpanOverride then some c.pinned else if fb.pTracer then c.innermost else none

def schemaByte : Option MetricBodySchema → UInt8
  | none => 0
  | some .bool => 1
  | some .numeric => 2
  | some .discrete => 3
  | some .string => 4
  | some .wstring => 5
  | some .numericAggregated => 6

def flagsOf (fb : Metrics) (c : MetricCycle) : UInt8 :=
  (if fb.bOverflow then 2 else 0) ||| (if (fb.spanOf c).isSome then 1 else 0) |||
    (if fb.bRecordSampleTimes then 4 else 0) ||| (if fb.bRecordSampleTimesDc then 16 else 0) |||
    (if fb.sLogger.bytes.isEmpty then 0 else 8)

def frame (fb : Metrics) (c : MetricCycle) : MetricFrame where
  header := {
    nFlags := fb.flagsOf c
    eBodySchema := schemaByte fb.eBodySchema
    nSampleSize := UInt32.ofNat fb.nSampleSize
    nSampleCount := UInt32.ofNat fb.nSampleCount
    nMetricId := fb.nMetricId
    nTaskIndex := UInt8.ofNat c.nTaskIdx.toNat
    nStatMask := fb.nStatMask
    nCycleCountStart := fb.nCycleStart
    nCycleCountEnd := fb.nCycleEnd
    nDcTimeStart := fb.nDcTimeStart
    nDcTimeEnd := fb.nDcTimeEnd
    nNameLen := UInt8.ofNat (fb.sName.bytes.take 63).length
    nUnitLen := UInt8.ofNat (fb.sUnit.bytes.take 15).length }
  span := fb.spanOf c
  name := fb.sName.bytes.take 63
  unit := fb.sUnit.bytes.take 15
  scope := fb.sLogger.bytes.take 127
  body := extract (fb.frames fb.eActiveBuf) hdrReserve fb.nBodyOffset

def resetWindow (fb : Metrics) : Metrics :=
  { fb with
    nBodyOffset := 0
    nSampleCount := 0
    bOverflow := false
    bWindowHasSample := false
    nCycleStart := 0
    nCycleEnd := 0
    nDcTimeStart := 0
    nDcTimeEnd := 0 }

def writeActive (offset : Nat) (src : List UInt8) (fb : Metrics) : Metrics :=
  { fb with frames := Function.update fb.frames fb.eActiveBuf (overwrite (fb.frames fb.eActiveBuf) offset src) }

def swapHalves (head : List UInt8) (fb : Metrics) : Metrics :=
  resetWindow { fb.writeActive (hdrReserve - head.length) head with
    ePendingBuf := fb.eActiveBuf
    nPendingHdrLen := head.length
    nPendingBodyLen := fb.nBodyOffset
    bPending := true
    eActiveBuf := !fb.eActiveBuf
    pSpanOverride := false }

/-- `_DoFlush`. The instance is delivered as it is when the sender gets it. -/
def doFlush (c : MetricCycle) : Operation Metrics Reading Metrics := fun fb =>
  if fb.bPending then
    -- the sender still has the other half: this window is lost
    ({ fb.resetWindow with nDropWindow := fb.nDropWindow + 1 }, [.drop])
  else if (fb.frame c).head.length > hdrReserve then
    -- the header does not fit in front of the samples: they are lost, too
    ({ fb.resetWindow with nDropEmit := fb.nDropEmit + 1, pSpanOverride := false }, [.drop])
  else
    let swapped := fb.swapHalves (fb.frame c).head
    if c.enqueued then (swapped, [.deliver swapped])
    -- the ring of the sender is full
    else ({ swapped with bPending := false, nDropEmit := swapped.nDropEmit + 1 }, [.drop])

/-- The bytes the sender gets: `_GetPendingLen` bytes at `_GetPendingPtr`. -/
def pendingBytes (fb : Metrics) : List UInt8 :=
  extract (fb.frames fb.ePendingBuf) (hdrReserve - fb.nPendingHdrLen) (fb.nPendingHdrLen + fb.nPendingBodyLen)

def cyclesIn (ms cycleTime : UInt32) : UInt32 := TaskDiag.targetCycles ms cycleTime

def flushWindow (c : MetricCycle) : Operation Metrics Reading Metrics :=
  andThen (fun fb => if decide (fb.nSampleCount > 0) then doFlush c fb else (fb, []))
    (fun fb => ({ fb with nWindowStartCycle := c.info.cycleCount }, []))

/-- The length of the push window. Time stamps of 16 bits limit it. -/
def windowCycles (fb : Metrics) (c : MetricCycle) : UInt32 :=
  if fb.bRecordSampleTimes && decide (cyclesIn fb.nPushIntervalMs c.info.cycleTime > 0xFFFF) then 0xFFFF
  else cyclesIn fb.nPushIntervalMs c.info.cycleTime

/-- `_CheckFlush`: flush when the push window is over. -/
def checkFlush (c : MetricCycle) : Operation Metrics Reading Metrics := fun fb =>
  if c.nTaskIdx ≤ 0 then (fb, [])
  else if !fb.bWindowStartSet || decide (c.info.cycleCount < fb.nWindowStartCycle) then
    ({ fb with nWindowStartCycle := c.info.cycleCount, bWindowStartSet := true }, [])
  else if c.info.cycleCount - fb.nWindowStartCycle < fb.windowCycles c then (fb, [])
  else flushWindow c fb

def call (c : MetricCycle) : Operation Metrics Reading Metrics := fun fb =>
  if fb.bInitialized then checkFlush c fb else (fb, [])

def flush (c : MetricCycle) : Operation Metrics Reading Metrics := fun fb =>
  if fb.bInitialized && decide (fb.nSampleCount > 0) then doFlush c fb else (fb, [])

/-! ### Observing -/

def aggUpdate (lreal : Lreal) (fValue : F64) (fb : Metrics) : Metrics :=
  if !fb.bAggHasSample then
    { fb with
      aggMin := fValue
      aggMax := fValue
      aggMean := fValue
      aggSumSq := .ofNat 0
      aggSum := fValue
      nAggCount := 1
      bAggHasSample := true }
  else
    let nAggCount := fb.nAggCount + 1
    -- the mean and the squares are updated by the difference to the mean before
    let fDelta := lreal.sub fValue fb.aggMean
    let aggMean := lreal.add fb.aggMean (lreal.div fDelta (lreal.ofInt nAggCount.toNat))
    { fb with
      aggMin := if lreal.lt fValue fb.aggMin then fValue else fb.aggMin
      aggMax := if lreal.lt fb.aggMax fValue then fValue else fb.aggMax
      aggSum := lreal.add fb.aggSum fValue
      nAggCount := nAggCount
      aggMean := aggMean
      aggSumSq := lreal.add fb.aggSumSq (lreal.mul fDelta (lreal.sub fValue aggMean)) }

def statistics (lreal : Lreal) (fb : Metrics) : List F64 :=
  (if hasFlag fb.nStatMask 1 then [fb.aggMin] else []) ++
  (if hasFlag fb.nStatMask 2 then [fb.aggMax] else []) ++
  (if hasFlag fb.nStatMask 4 then [fb.aggMean] else []) ++
  (if hasFlag fb.nStatMask 8 then [fb.aggSum] else []) ++
  (if hasFlag fb.nStatMask 16 then [lreal.ofInt fb.nAggCount.toNat] else []) ++
  (if hasFlag fb.nStatMask 32 then
    [if fb.nAggCount > 1 then lreal.sqrt (lreal.div fb.aggSumSq (lreal.ofInt (fb.nAggCount - 1).toNat))
      else .ofNat 0]
  else [])

def nowDcTime (c : MetricCycle) : Int64 :=
  if c.actualDcTime = 0 then if c.nTaskIdx > 0 then c.info.dcTaskTime else 0 else c.actualDcTime

def stampOf (fb : Metrics) (c : MetricCycle) : Stamp :=
  match fb.sampleTimes with
  | .off => .none
  | .cycles =>
    -- the offset has 16 bits and stops at its largest value
    let nCycles := c.info.cycleCount - fb.nCycleStart
    .cycleOffset (if nCycles > 0xFFFF then 0xFFFF else nCycles.toUInt16)
  | .dc => .dcTime (nowDcTime c)

def stride (fb : Metrics) : Nat := fb.nSampleSize + fb.sampleTimes.size

/-- The common part of `_AppendSample` and `_AppendAggregated`: a slot with the stamp and the
value at its start. A sample that does not fit is dropped. -/
def append (sample : Reading) (payload : List UInt8) : Operation Metrics Reading Metrics := fun fb =>
  if fb.nBodyOffset + fb.stride > bodyCapacity then
    ({ fb with bOverflow := true, nDropAppend := fb.nDropAppend + 1 }, [])
  else
    ({ fb.writeActive (hdrReserve + fb.nBodyOffset) (sample.stamp.bytes ++ payload) with
      nBodyOffset := fb.nBodyOffset + fb.stride
      nSampleCount := fb.nSampleCount + 1 }, [.take sample])

def padded (bytes : List UInt8) (n : Nat) : List UInt8 := bytes.take n ++ List.replicate (n - bytes.length) 0

def rawSample (lreal : Lreal) (arg : AnyRef) (fb : Metrics) : Option (MetricAggregateSample × List UInt8) :=
  match fb.eBodySchema with
  | some .bool =>
    let b := arg.unsigned 1 != 0
    some (.bool b, [if b then 1 else 0])
  | some .numeric => some (.numeric (arg.toLreal lreal), leBytes 8 (arg.toLreal lreal).bits.toNat)
  | some .discrete => some (.discrete (padded arg.bytes fb.nSampleSize), padded arg.bytes fb.nSampleSize)
  | some .string =>
    let text := arg.bytes.takeWhile (· != 0)
    some (.string (fromUtf8Lossy (text.take fb.nSampleSize)), padded text fb.nSampleSize)
  | some .wstring =>
    let units := (Ads.utf16Units arg.bytes).takeWhile (· != 0)
    some (.wstring (String.ofList (utf16Lossy (units.take (fb.nSampleSize / 2)))),
      padded (arg.bytes.take (2 * units.length)) fb.nSampleSize)
  | some .numericAggregated | none => none

/-- `_AppendSample`. A schema without raw samples counts as a sample that does not fit. -/
def appendSample (lreal : Lreal) (arg : AnyRef) (c : MetricCycle) : Operation Metrics Reading Metrics := fun fb =>
  match fb.rawSample lreal arg with
  | none => ({ fb with bOverflow := true, nDropAppend := fb.nDropAppend + 1 }, [])
  | some (value, payload) => append ⟨fb.stampOf c, value⟩ payload fb

def appendAggregated (lreal : Lreal) (c : MetricCycle) : Operation Metrics Reading Metrics := fun fb =>
  append ⟨fb.stampOf c, .numericAggregated fb.nStatMask (fb.statistics lreal)⟩
    ((fb.statistics lreal).flatMap fun f => leBytes 8 f.bits.toNat) fb

/-- `_LockSchema`: the schema of the first value. Texts are refused, and leave their schema. -/
def lockSchema (arg : AnyRef) (fb : Metrics) : Bool × Metrics :=
  match arg.typeClass with
  | .bool => (true, { fb with eBodySchema := some .bool, nSampleSize := 1, nLockedTypeClass := arg.typeClass })
  | .sint | .int | .dint | .lint | .usint | .uint | .udint | .ulint | .real | .lreal =>
    (true, { fb with
      eBodySchema := if fb.nStatMask ≠ 0 then some .numericAggregated else some .numeric
      nSampleSize := if fb.nStatMask ≠ 0 then fb.nAggSampleSize else 8
      nLockedTypeClass := arg.typeClass })
  | .byte | .word | .dword | .lword | .enum =>
    (true, { fb with
      eBodySchema := some .discrete
      nSampleSize := arg.bytes.length
      nLockedTypeClass := arg.typeClass })
  | .string => (false, { fb with eBodySchema := some .string, nSampleSize := fb.nStringSize })
  | .wstring => (false, { fb with eBodySchema := some .wstring, nSampleSize := fb.nStringSize * 2 })
  | .other => (false, fb)

def wrongType (fb : Metrics) : Metrics := { fb with nWrongTypeDrops := fb.nWrongTypeDrops + 1 }

def rateLimited (fb : Metrics) (c : MetricCycle) : Bool :=
  decide (fb.nSampleIntervalMs > 0) && fb.bLastSampleSet &&
    decide (c.info.cycleCount - fb.nLastSampleCycle < cyclesIn fb.nSampleIntervalMs c.info.cycleTime)

def compareLength (fb : Metrics) : Nat := min fb.nSampleSize 64

def unchanged (fb : Metrics) (arg : AnyRef) : Bool :=
  fb.bChangeDetect && fb.bLastValueValid &&
    decide (arg.memory fb.compareLength = fb.abyLastValue.take fb.compareLength)

def remember (arg : AnyRef) (fb : Metrics) : Metrics :=
  { fb with
    abyLastValue := overwrite fb.abyLastValue 0 (arg.memory fb.compareLength)
    bLastValueValid := true }

def sampled (c : MetricCycle) (fb : Metrics) : Metrics :=
  { fb with nLastSampleCycle := c.info.cycleCount, bLastSampleSet := true }

def openWindow (c : MetricCycle) (fb : Metrics) : Metrics :=
  { fb with
    nCycleStart := if fb.bWindowHasSample then fb.nCycleStart else c.info.cycleCount
    nDcTimeStart := if fb.bWindowHasSample then fb.nDcTimeStart else nowDcTime c
    bWindowHasSample := true
    nCycleEnd := c.info.cycleCount
    nDcTimeEnd := nowDcTime c }

def silent (f : Metrics → Metrics) : Operation Metrics Reading Metrics := fun fb => (f fb, [])

/-- A body that is nearly full is flushed at once, unless the other half is still pending. -/
def autoFlush (c : MetricCycle) : Operation Metrics Reading Metrics := fun fb =>
  if decide (fb.nBodyOffset ≥ bodyHighWater) && !fb.bPending then doFlush c fb else (fb, [])

/-- The end of `Observe`: the sample is taken, and the flush conditions are checked. -/
def store (lreal : Lreal) (arg : AnyRef) (c : MetricCycle) : Operation Metrics Reading Metrics :=
  andThen (silent (openWindow c)) <|
  andThen (fun fb =>
    if fb.eBodySchema = some .numericAggregated then andThen (appendAggregated lreal c) (silent aggReset) fb
    else andThen (appendSample lreal arg c) (silent (remember arg)) fb) <|
  andThen (silent (sampled c)) <|
  andThen (autoFlush c) (checkFlush c)

/-- The aggregator takes every value, also those that are not sampled. -/
def fold (lreal : Lreal) (arg : AnyRef) (fb : Metrics) : Metrics :=
  if fb.eBodySchema = some .numericAggregated then fb.aggUpdate lreal (arg.toLreal lreal) else fb

/-- `Observe`, when the type of the value is the locked one. -/
def observeLocked (lreal : Lreal) (arg : AnyRef) (c : MetricCycle) : Operation Metrics Reading Metrics := fun fb =>
  if c.nTaskIdx ≤ 0 then (fb, [])
  else if (fb.fold lreal arg).rateLimited c then (fb.fold lreal arg, [])
  else if decide (fb.eBodySchema ≠ some .numericAggregated) && (fb.fold lreal arg).unchanged arg then
    ((fb.fold lreal arg).sampled c, [])
  else store lreal arg c (fb.fold lreal arg)

/-- `Observe`; `none` is a null pointer. -/
def observe (lreal : Lreal) (stArg : Option AnyRef) (c : MetricCycle) : Operation Metrics Reading Metrics := fun fb =>
  match stArg with
  | none => (fb, [])
  | some arg =>
    if !fb.bInitialized then (fb, [])
    else if fb.eBodySchema = some .string ∨ fb.eBodySchema = some .wstring then (fb.wrongType, [])
    else if fb.eBodySchema = none then
      if (fb.lockSchema arg).1 then observeLocked lreal arg c (fb.lockSchema arg).2
      else ((fb.lockSchema arg).2.wrongType, [])
    else if fb.nLockedTypeClass ≠ arg.typeClass then (fb.wrongType, [])
    else observeLocked lreal arg c fb

/-! ### Runs -/

inductive Event where
  | init (sName sUnit : PlcString) (nStringSize : Nat)
  | observe (stArg : Option AnyRef) (c : MetricCycle)
  | call (c : MetricCycle)
  | flush (c : MetricCycle)
  | setAggregation (nMask : UInt8)
  | setRecordSampleTimes (bEnable : Bool)
  | setRecordSampleTimesDc (bEnable : Bool)
  | setSampleIntervalMs (nMs : UInt32)
  | setPushIntervalMs (nMs : UInt32)
  | setChangeDetect (bEnabled : Bool)
  | bindTracer (bound : Bool)
  | withSpan (pinned : Bool)
  | notifyFrameSent (bOk : Bool)

def operation (lreal : Lreal) : Event → Operation Metrics Reading Metrics
  | .init sName sUnit nStringSize => silent (init sName sUnit nStringSize)
  | .observe stArg c => observe lreal stArg c
  | .call c => call c
  | .flush c => flush c
  | .setAggregation nMask => silent (setAggregation nMask)
  | .setRecordSampleTimes bEnable => silent (setRecordSampleTimes bEnable)
  | .setRecordSampleTimesDc bEnable => silent (setRecordSampleTimesDc bEnable)
  | .setSampleIntervalMs nMs => silent (setSampleIntervalMs nMs)
  | .setPushIntervalMs nMs => silent (setPushIntervalMs nMs)
  | .setChangeDetect bEnabled => silent (setChangeDetect bEnabled)
  | .bindTracer bound => silent (bindTracer bound)
  | .withSpan pinned => silent (withSpan pinned)
  | .notifyFrameSent bOk => silent (notifyFrameSent bOk)

/-- The instance each time it hands a frame to the sender, with the samples appended to that
frame. -/
def handedOver (lreal : Lreal) (sLogger : PlcString) (events : List Event) : List (Metrics × List Reading) :=
  deliveries (operation lreal) (initial sLogger) [] events

end Metrics

end TcOtel.Plc
