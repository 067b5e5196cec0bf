import TcOtel.Lib.Ring
import TcOtel.Lib.Window
import TcOtel.Plc.ContextBuilder
import TcOtel.Service.DiagnosticsBridge

/-!
# The diagnostic collector of a task

`FB_TcOtelTaskDiag` takes a sample of its task in every cycle and pushes the samples of a window,
together with their aggregates, as one frame. The receiver decodes the frame and emits the
aggregates as metrics.
-/

namespace TcOtel.Plc

open Decoding Memory Rings Ads.Push

/-- `PlcTaskSystemInfo`, as far as the library reads it. Times are in units of 100 ns. -/
structure PlcTaskSystemInfo where
  objId : UInt32
  adsPort : UInt32
  taskName : PlcString
  cycleCount : UInt32
  lastExecTime : UInt32
  cycleTime : UInt32
  dcTaskTime : Int64
  cycleTimeExceeded : Bool
  rtViolation : Bool
  firstCycle : Bool
deriving DecidableEq

structure PushDiagConfig where
  windowMs : UInt32
  enabled : Bool
  divider : UInt8
deriving DecidableEq

/-- `ST_PushDiagSample`, without its padding. -/
structure PushDiagSample where
  cycleCount : UInt32
  execTimeUs : UInt32
  dcTime : Int64
  flags : UInt8
deriving DecidableEq

def PushDiagSample.bytes (s : PushDiagSample) : List UInt8 :=
  leBytes 4 s.cycleCount.toNat ++ (leBytes 4 s.execTimeUs.toNat ++ (leBytes 8 s.dcTime.toUInt64.toNat ++
    (leBytes 1 s.flags.toNat ++ List.replicate 7 0)))

/-- `ST_PushDiagBatchHeader`, without its reserved words. -/
structure PushDiagBatchHeader where
  version : UInt8
  eventType : UInt8
  taskObjId : UInt32
  taskPort : UInt16
  windowMs : UInt16
  sampleCount : UInt16
  cycleCountStart : UInt32
  cycleCountEnd : UInt32
  dcTimeStart : Int64
  dcTimeEnd : Int64
  execTimeMinUs : UInt32
  execTimeMaxUs : UInt32
  execTimeAvgUs : UInt32
  cycleExceedCount : UInt32
  rtViolationCount : UInt32
  taskName : Bytes 20

def PushDiagBatchHeader.bytes (h : PushDiagBatchHeader) : List UInt8 :=
  leBytes 1 h.version.toNat ++ (leBytes 1 h.eventType.toNat ++ (leBytes 2 0 ++
  (leBytes 4 h.taskObjId.toNat ++ (leBytes 2 h.taskPort.toNat ++ (leBytes 2 h.windowMs.toNat ++
  (leBytes 2 h.sampleCount.toNat ++ (leBytes 2 0 ++ (leBytes 4 h.cycleCountStart.toNat ++
  (leBytes 4 h.cycleCountEnd.toNat ++ (leBytes 8 h.dcTimeStart.toUInt64.toNat ++
  (leBytes 8 h.dcTimeEnd.toUInt64.toNat ++ (leBytes 4 h.execTimeMinUs.toNat ++
  (leBytes 4 h.execTimeMaxUs.toNat ++ (leBytes 4 h.execTimeAvgUs.toNat ++
  (leBytes 4 h.cycleExceedCount.toNat ++ (leBytes 4 h.rtViolationCount.toNat ++
    h.taskName.val))))))))))))))))

structure AdsWrite where
  netId : PlcString
  port : UInt16
  idxGrp : UInt32
  idxOffs : UInt32
  data : List UInt8
deriving DecidableEq

/-- What one call sees: the configuration, which the service may have changed, the index and the
info of the task, and how far a write in flight has come. -/
structure Cycle where
  config : PushDiagConfig
  nTaskIdx : Int
  info : PlcTaskSystemInfo
  busy : Bool
  err : Bool
deriving DecidableEq

def nMaxSamples : Nat := 1024

structure TaskDiag where
  bInitialized : Bool
  configValid : Bool
  sTcOtelNetId : PlcString
  nTcOtelPort : UInt16
  /-- `aSampleRing`, `nRingHead` and `nRingCount`. -/
  ring : Ring PushDiagSample nMaxSamples
  bOverflowPending : Bool
  nExecTimeMinUs : UInt32
  nExecTimeMaxUs : UInt32
  nExecTimeSumUs : UInt64
  nExecTimeSamples : UInt32
  nCycleExceedInWnd : UInt32
  nRtViolationInWnd : UInt32
  nCycleCountStart : UInt32
  nCycleCountEnd : UInt32
  nDcTimeStart : Int64
  nDcTimeEnd : Int64
  bWindowHasSample : Bool
  nWindowStartCycle : UInt32
  bWindowStartSet : Bool
  nDividerCounter : UInt8
  bPrevRtViolation : Bool
  nLifetimeExceedCount : UInt32
  nLifetimeRtvCount : UInt32
  nMaxExecTimeUs : UInt32
  nLastExecTimeUs : UInt32
  nLastCycleTimeUs : UInt32
  bFlushInFlight : Bool
  nFlushStartCycle : UInt32
  nLastFlushSuccessCycle : UInt32
  nFlushDropCount : UInt32
  nFlushErrorCount : UInt32
  nFlushOkCount : UInt32

namespace TaskDiag

def nFlightWatchdogCycles : UInt32 := 2000

/-- As the PLC starts. -/
def initial : TaskDiag where
  bInitialized := false
  configValid := false
  sTcOtelNetId := .empty
  nTcOtelPort := 16150
  ring := ⟨fun _ => ⟨0, 0, 0, 0⟩, ⟨0, by decide⟩, 0, by decide⟩
  bOverflowPending := false
  nExecTimeMinUs := 0
  nExecTimeMaxUs := 0
  nExecTimeSumUs := 0
  nExecTimeSamples := 0
  nCycleExceedInWnd := 0
  nRtViolationInWnd := 0
  nCycleCountStart := 0
  nCycleCountEnd := 0
  nDcTimeStart := 0
  nDcTimeEnd := 0
  bWindowHasSample := false
  nWindowStartCycle := 0
  bWindowStartSet := false
  nDividerCounter := 0
  bPrevRtViolation := false
  nLifetimeExceedCount := 0
  nLifetimeRtvCount := 0
  nMaxExecTimeUs := 0
  nLastExecTimeUs := 0
  nLastCycleTimeUs := 0
  bFlushInFlight := false
  nFlushStartCycle := 0
  nLastFlushSuccessCycle := 0
  nFlushDropCount := 0
  nFlushErrorCount := 0
  nFlushOkCount := 0

/-- `Init`: bind the instance to an endpoint and its configuration. -/
def init (sAmsNetId : PlcString) (nPort : UInt16) (validRef : Bool) (fb : TaskDiag) : TaskDiag :=
  { fb with
    sTcOtelNetId := sAmsNetId
    nTcOtelPort := if nPort != 0 then nPort else fb.nTcOtelPort
    configValid := validRef
    bInitialized := true
    bWindowStartSet := false }

/-- The name, cut or padded to the 20 bytes of its field. -/
def nameField (name : PlcString) : Bytes 20 :=
  ⟨name.bytes.take 20 ++ List.replicate (20 - (name.bytes.take 20).length) 0, by
    have : (name.bytes.take 20).length ≤ 20 := List.length_take_le ..
    rw [List.length_append, List.length_replicate]
    omega⟩

def header (fb : TaskDiag) (c : Cycle) : PushDiagBatchHeader where
  version := 2
  eventType := 10
  taskObjId := c.info.objId
  taskPort := (c.info.adsPort &&& 0xFFFF).toUInt16
  -- the field has 16 bits: of a window of a minute and more the upper half is lost
  windowMs := c.config.windowMs.toUInt16
  sampleCount := UInt16.ofNat fb.ring.count
  cycleCountStart := fb.nCycleCountStart
  cycleCountEnd := fb.nCycleCountEnd
  dcTimeStart := fb.nDcTimeStart
  dcTimeEnd := fb.nDcTimeEnd
  execTimeMinUs := fb.nExecTimeMinUs
  execTimeMaxUs := fb.nExecTimeMaxUs
  -- the sum, like the least and the most, is of ticks as the task gives them
  execTimeAvgUs :=
    if fb.nExecTimeSamples > 0 then (fb.nExecTimeSumUs / fb.nExecTimeSamples.toUInt64).toUInt32 else 0
  cycleExceedCount := fb.nCycleExceedInWnd
  rtViolationCount := fb.nRtViolationInWnd
  taskName := nameField c.info.taskName

/-- `Flush`: the frame and the state behind it. The ring is walked from the oldest sample on. -/
def flush (fb : TaskDiag) (c : Cycle) : TaskDiag × Option AdsWrite :=
  if fb.bFlushInFlight || fb.ring.count == 0 then (fb, none)
  else if c.nTaskIdx ≤ 0 then (fb, none)
  else
    ({ fb with
      bFlushInFlight := true
      nFlushStartCycle := c.info.cycleCount
      ring := fb.ring.clear
      nExecTimeMinUs := 0
      nExecTimeMaxUs := 0
      nExecTimeSumUs := 0
      nExecTimeSamples := 0
      nCycleExceedInWnd := 0
      nRtViolationInWnd := 0
      nCycleCountStart := 0
      nCycleCountEnd := 0
      nDcTimeStart := 0
      nDcTimeEnd := 0
      bWindowHasSample := false },
    some {
      netId := fb.sTcOtelNetId
      port := fb.nTcOtelPort
      idxGrp := 0x4D424301
      idxOffs := 0
      data := (fb.header c).bytes ++ fb.ring.contents.flatMap PushDiagSample.bytes })

/-- The length of the window in cycles, from the cycle time in units of 100 ns. -/
def targetCycles (windowMs cycleTime : UInt32) : UInt32 :=
  let nCycleTimeUs := if cycleTime / 10 = 0 then 1000 else cycleTime / 10
  let nTargetCycles := windowMs * 1000 / nCycleTimeUs
  if nTargetCycles = 0 then 1 else nTargetCycles

def setWindowStart (fb : TaskDiag) (nNowCycle : UInt32) : TaskDiag :=
  { fb with nWindowStartCycle := nNowCycle, bWindowStartSet := true }

/-- `CheckFlush`: flush when the window is over. -/
def checkFlush (fb : TaskDiag) (c : Cycle) : TaskDiag × Option AdsWrite :=
  if !fb.configValid || c.config.windowMs == 0 then (fb, none)
  else if c.nTaskIdx ≤ 0 then (fb, none)
  -- the first call, or the cycle counter of the task has started again
  else if !fb.bWindowStartSet || decide (c.info.cycleCount < fb.nWindowStartCycle) then
    (fb.setWindowStart c.info.cycleCount, none)
  else if c.info.cycleCount - fb.nWindowStartCycle < targetCycles c.config.windowMs c.info.cycleTime then
    (fb, none)
  -- the window is over, but its samples have to wait for the write in flight
  else if !fb.bWindowHasSample || fb.bFlushInFlight then (fb.setWindowStart c.info.cycleCount, none)
  else ((fb.flush c).1.setWindowStart c.info.cycleCount, (fb.flush c).2)

/-- The head of `Call`: follow a write in flight, and give it up when it takes too long. -/
def pump (fb : TaskDiag) (c : Cycle) : TaskDiag :=
  if fb.bFlushInFlight then
    if !c.busy then
      if c.err then { fb with nFlushErrorCount := fb.nFlushErrorCount + 1, bFlushInFlight := false }
      else
        { fb with
          nFlushOkCount := fb.nFlushOkCount + 1
          nLastFlushSuccessCycle := c.info.cycleCount
          bFlushInFlight := false }
    -- a write that was started in cycle 0 is never given up
    else if fb.nFlushStartCycle != 0 &&
        decide (c.info.cycleCount - fb.nFlushStartCycle > nFlightWatchdogCycles) then
      { fb with nFlushDropCount := fb.nFlushDropCount + 1, bFlushInFlight := false }
    else fb
  else fb

def flagsOf (fb : TaskDiag) (info : PlcTaskSystemInfo) : UInt8 :=
  (if info.cycleTimeExceeded then 1 else 0) |||
    (if info.rtViolation && !fb.bPrevRtViolation then 2 else 0) |||
    (if info.firstCycle then 4 else 0) ||| (if fb.bOverflowPending then 8 else 0)

/-- The part of `Call` that takes a sample: the online view, the ring and the aggregates. -/
def takeSample (fb : TaskDiag) (info : PlcTaskSystemInfo) : TaskDiag :=
  let nExecNow := info.lastExecTime
  let exceeded := info.cycleTimeExceeded
  let violated := info.rtViolation && !fb.bPrevRtViolation
  { fb with
    nLastCycleTimeUs := info.cycleTime / 10
    nLastExecTimeUs := nExecNow / 10
    nMaxExecTimeUs := if nExecNow / 10 > fb.nMaxExecTimeUs then nExecNow / 10 else fb.nMaxExecTimeUs
    nCycleExceedInWnd := if exceeded then fb.nCycleExceedInWnd + 1 else fb.nCycleExceedInWnd
    nLifetimeExceedCount := if exceeded then fb.nLifetimeExceedCount + 1 else fb.nLifetimeExceedCount
    nRtViolationInWnd := if violated then fb.nRtViolationInWnd + 1 else fb.nRtViolationInWnd
    nLifetimeRtvCount := if violated then fb.nLifetimeRtvCount + 1 else fb.nLifetimeRtvCount
    bPrevRtViolation := info.rtViolation
    -- the online view above is in microseconds, the sample is in ticks
    ring := fb.ring.push ⟨info.cycleCount, nExecNow, info.dcTaskTime, fb.flagsOf info⟩
    -- the sample after the one that overwrote the oldest carries the flag
    bOverflowPending := decide (nMaxSamples ≤ fb.ring.count)
    nExecTimeMinUs :=
      if !fb.bWindowHasSample || decide (nExecNow < fb.nExecTimeMinUs) then nExecNow else fb.nExecTimeMinUs
    nExecTimeMaxUs :=
      if !fb.bWindowHasSample || decide (nExecNow > fb.nExecTimeMaxUs) then nExecNow else fb.nExecTimeMaxUs
    nCycleCountStart := if fb.bWindowHasSample then fb.nCycleCountStart else info.cycleCount
    nDcTimeStart := if fb.bWindowHasSample then fb.nDcTimeStart else info.dcTaskTime
    bWindowHasSample := true
    nCycleCountEnd := info.cycleCount
    nDcTimeEnd := info.dcTaskTime
    nExecTimeSumUs := fb.nExecTimeSumUs + nExecNow.toUInt64
    nExecTimeSamples := fb.nExecTimeSamples + 1 }

def setDivider (fb : TaskDiag) (n : UInt8) : TaskDiag := { fb with nDividerCounter := n }

/-- The rest of `Call`. A cycle that the divider skips is still checked for the end of the
window. -/
def collect (fb : TaskDiag) (c : Cycle) : TaskDiag × Option AdsWrite :=
  if !fb.bInitialized || !fb.configValid then (fb, none)
  else if !c.config.enabled then (fb, none)
  else if c.config.divider > 1 ∧ fb.nDividerCounter + 1 < c.config.divider then
    (fb.setDivider (fb.nDividerCounter + 1)).checkFlush c
  else if c.nTaskIdx ≤ 0 then
    (fb.setDivider (if c.config.divider > 1 then 0 else fb.nDividerCounter), none)
  else
    ((fb.setDivider (if c.config.divider > 1 then 0 else fb.nDividerCounter)).takeSample c.info).checkFlush c

def call (fb : TaskDiag) (c : Cycle) : TaskDiag × Option AdsWrite := (fb.pump c).collect c

end TaskDiag

/-! ### What the receiver makes of a frame -/

namespace PushDiagSample

def decoded (s : PushDiagSample) : DiagSample := ⟨s.cycleCount, s.execTimeUs, s.dcTime, s.flags⟩

theorem length_bytes (s : PushDiagSample) : s.bytes.length = pushSampleSize := by
  simp [bytes, pushSampleSize]

theorem sampleAt_bytes (s : PushDiagSample) (rest : List UInt8) :
    sampleAt (s.bytes ++ rest) 0 = s.decoded := by
  simp [sampleAt, bytes, decoded, readU32_start, readU32_behind, readI64_start, readI64_behind, byteAt_start,
    byteAt_behind]

end PushDiagSample

namespace PushDiagBatchHeader

theorem length_bytes (h : PushDiagBatchHeader) : h.bytes.length = pushBatchHeaderSize := by
  simp [bytes, h.taskName.property, pushBatchHeaderSize]

def decoded (h : PushDiagBatchHeader) (samples : List PushDiagSample) : TaskDiagBatch where
  taskPort := h.taskPort
  taskName := decodeTaskName h.taskName.val
  taskObjId := h.taskObjId
  windowMs := h.windowMs
  cycleCountStart := h.cycleCountStart
  cycleCountEnd := h.cycleCountEnd
  dcTimeStart := h.dcTimeStart
  dcTimeEnd := h.dcTimeEnd
  execTimeMinUs := h.execTimeMinUs
  execTimeMaxUs := h.execTimeMaxUs
  execTimeAvgUs := h.execTimeAvgUs
  cycleExceedCount := h.cycleExceedCount
  rtViolationCount := h.rtViolationCount
  samples := samples.map PushDiagSample.decoded

theorem decodeBatch_frame (h : PushDiagBatchHeader) (samples : List PushDiagSample)
    (version : h.version = pushWireVersion) (eventType : h.eventType = pushBatchEventType)
    (count : h.sampleCount.toNat = samples.length) (few : samples.length ≤ pushBatchMaxSamples) :
    decodeBatch (h.bytes ++ samples.flatMap PushDiagSample.bytes) =
      some (.taskDiagBatch (h.decoded samples)) := by
  have length : (h.bytes ++ samples.flatMap PushDiagSample.bytes).length =
      pushBatchHeaderSize + samples.length * pushSampleSize := by
    rw [List.length_append, h.length_bytes]
    simp [PushDiagSample.length_bytes]
  have body : (List.range samples.length).map (fun i => sampleAt
      (h.bytes ++ samples.flatMap PushDiagSample.bytes)
        (pushBatchHeaderSize + i * pushSampleSize)) =
      samples.map PushDiagSample.decoded := by
    rw [← map_range_records (sampleAt · 0) PushDiagSample.length_bytes PushDiagSample.sampleAt_bytes samples]
    apply List.map_congr_left
    intro i _
    rw [sampleAt_drop, ← List.drop_drop, ← h.length_bytes, List.drop_left]
  have countField : readU16 (h.bytes ++ samples.flatMap PushDiagSample.bytes) 0x0C = h.sampleCount := by
    simp [bytes, readU16_behind, readU16_start]
  have versionField : byteAt (h.bytes ++ samples.flatMap PushDiagSample.bytes) 0 = h.version := by
    simp [bytes, byteAt_start]
  have eventField : byteAt (h.bytes ++ samples.flatMap PushDiagSample.bytes) 1 = h.eventType := by
    simp [bytes, byteAt_behind, byteAt_start]
  -- the checks of the decoder, in its order
  rw [decodeBatch, if_neg (by omega), versionField, eventField, if_neg (by simp [version, eventType])]
  simp only [countField, count, body]
  rw [if_neg (by omega), if_neg (by omega)]
  simp [decoded, bytes, readU16_behind, readU16_start, readU32_behind, readU32_start, readI64_behind, readI64_start,
    extract_behind, extract_start h.taskName.property, length_leBytes]

end PushDiagBatchHeader

end TcOtel.Plc
