import Mathlib.Data.List.DropRight
import TcOtel.Ads.Reader
import TcOtel.Lib.Memory

/-!
# Push-diagnostic frames

The decoders of `diagnostics_push.rs` for the two kinds of frames the PLC pushes: the batch of
a task's cycles and the batch of an `FB_Metrics`. Both read at fixed offsets. A frame that is
too short or not consistent is no event.
-/

namespace TcOtel.Ads.Push

open Decoding Memory

/-! ### Constants -/

def igPushDiag : UInt32 := 0x4D424301
def ioPushBatch : UInt32 := 0
def ioPushMetricAgg : UInt32 := 2
def pushWireVersion : UInt8 := 2
def pushBatchEventType : UInt8 := 10
def pushMetricAggEventType : UInt8 := 21
def pushBatchHeaderSize : Nat := 80
def pushSampleSize : Nat := 24
def pushBatchMaxSamples : Nat := 1024
def pushMetricAggHeaderSize : Nat := 52
def pushMetricAggTraceSize : Nat := 24

def sampleFlagCycleExceed : UInt8 := 1
def sampleFlagRtViolation : UInt8 := 2
def sampleFlagOverflow : UInt8 := 8

def metricFlagHasTraceCtx : UInt8 := 1
def metricFlagHasSampleTs : UInt8 := 4
def metricFlagHasNamespace : UInt8 := 8
def metricFlagHasSampleTsDc : UInt8 := 16

def metricSampleTsSize : Nat := 2
def metricSampleTsDcSize : Nat := 8

/-! ### Reading at an offset -/

def byteAt (bytes : List UInt8) (off : Nat) : UInt8 := bytes.getD off 0

def readU16 (bytes : List UInt8) (off : Nat) : UInt16 := UInt16.ofNat (leNat (extract bytes off 2))

def readU32 (bytes : List UInt8) (off : Nat) : UInt32 := UInt32.ofNat (leNat (extract bytes off 4))

def readI64 (bytes : List UInt8) (off : Nat) : Int64 :=
  Int64.ofUInt64 (UInt64.ofNat (leNat (extract bytes off 8)))

def readF64 (bytes : List UInt8) (off : Nat) : F64 := ⟨UInt64.ofNat (leNat (extract bytes off 8))⟩

/-- `flags & bit != 0`. -/
def hasFlag (flags bit : UInt8) : Bool := flags &&& bit != 0

section Fields

/-! A field is read where it stands: what is in front of it is skipped, and its own bytes give
its value back. -/

variable {part rest : List UInt8} {off : Nat}

section

variable (behind : part.length ≤ off)
include behind

theorem byteAt_behind : byteAt (part ++ rest) off = byteAt rest (off - part.length) := by
  simp [byteAt, List.getElem?_append_right behind]

theorem readU16_behind : readU16 (part ++ rest) off = readU16 rest (off - part.length) := by
  rw [readU16, extract_behind behind, readU16]

theorem readU32_behind : readU32 (part ++ rest) off = readU32 rest (off - part.length) := by
  rw [readU32, extract_behind behind, readU32]

theorem readI64_behind : readI64 (part ++ rest) off = readI64 rest (off - part.length) := by
  rw [readI64, extract_behind behind, readI64]

end

theorem byteAt_start (v : UInt8) : byteAt (leBytes 1 v.toNat ++ rest) 0 = v := by
  have small : v.toNat % 256 = v.toNat := Nat.mod_eq_of_lt v.toNat_lt
  show UInt8.ofNat (v.toNat % 256) = v
  rw [small, UInt8.ofNat_toNat]

theorem readU16_start (v : UInt16) : readU16 (leBytes 2 v.toNat ++ rest) 0 = v := by
  rw [readU16, extract_start (length_leBytes 2 _), leNat_leBytes 2 _ v.toNat_lt, UInt16.ofNat_toNat]

theorem readU32_start (v : UInt32) : readU32 (leBytes 4 v.toNat ++ rest) 0 = v := by
  rw [readU32, extract_start (length_leBytes 4 _), leNat_leBytes 4 _ v.toNat_lt, UInt32.ofNat_toNat]

theorem readI64_start (v : Int64) : readI64 (leBytes 8 v.toUInt64.toNat ++ rest) 0 = v := by
  rw [readI64, extract_start (length_leBytes 8 _), leNat_leBytes 8 _ v.toUInt64.toNat_lt, UInt64.ofNat_toNat]

theorem readF64_start (v : F64) : readF64 (leBytes 8 v.bits.toNat ++ rest) 0 = v := by
  rw [readF64, extract_start (length_leBytes 8 _), leNat_leBytes 8 _ v.bits.toNat_lt, UInt64.ofNat_toNat]

end Fields

/-! ### Events -/

structure DiagSample where
  cycleCount : UInt32
  execTimeUs : UInt32
  dcTime : Int64
  flags : UInt8
deriving DecidableEq

structure TaskDiagBatch where
  taskPort : UInt16
  taskName : String
  taskObjId : UInt32
  windowMs : UInt16
  cycleCountStart : UInt32
  cycleCountEnd : UInt32
  dcTimeStart : Int64
  dcTimeEnd : Int64
  execTimeMinUs : UInt32
  execTimeMaxUs : UInt32
  execTimeAvgUs : UInt32
  cycleExceedCount : UInt32
  rtViolationCount : UInt32
  samples : List DiagSample
deriving DecidableEq

inductive MetricBodySchema where
  | bool | numeric | discrete | string | wstring | numericAggregated
deriving DecidableEq, Repr

def MetricBodySchema.fromByte (b : UInt8) : Option MetricBodySchema :=
  match b.toNat with
  | 1 => some .bool
  | 2 => some .numeric
  | 3 => some .discrete
  | 4 => some .string
  | 5 => some .wstring
  | 6 => some .numericAggregated
  | _ => none

inductive MetricAggregateSample where
  | bool (b : Bool)
  | numeric (f : F64)
  | discrete (bytes : List UInt8)
  | string (s : String)
  | wstring (s : String)
  | numericAggregated (statMask : UInt8) (values : List F64)
deriving DecidableEq

structure MetricAggregateBatch where
  metricId : UInt32
  taskIndex : UInt8
  flags : UInt8
  bodySchema : MetricBodySchema
  sampleSize : UInt32
  statMask : UInt8
  cycleCountStart : UInt32
  cycleCountEnd : UInt32
  dcTimeStart : Int64
  dcTimeEnd : Int64
  name : String
  unit : String
  scopeNamespace : String
  traceId : Option (Bytes 16)
  spanId : Option (Bytes 8)
  samples : List MetricAggregateSample
  sampleCycleOffsets : Option (List UInt16)
  sampleDcTimes : Option (List Int64)
deriving DecidableEq

/-- `DiagEvent`, the variants that are pushed. -/
inductive DiagEvent where
  | taskDiagBatch (batch : TaskDiagBatch)
  | metricAggregateBatch (batch : MetricAggregateBatch)
deriving DecidableEq

/-! ### Batches of a task -/

/-- The text in front of the zero bytes at the end. -/
def decodeTaskName (bytes : List UInt8) : String := fromUtf8Lossy (bytes.rdropWhile (· == 0))

def sampleAt (bytes : List UInt8) (off : Nat) : DiagSample where
  cycleCount := readU32 bytes off
  execTimeUs := readU32 bytes (off + 4)
  dcTime := readI64 bytes (off + 8)
  flags := byteAt bytes (off + 0x10)

theorem sampleAt_drop (bytes : List UInt8) (off : Nat) : sampleAt bytes off = sampleAt (bytes.drop off) 0 := by
  simp [sampleAt, readU32, readI64, byteAt, extract_drop]

def decodeBatch (bytes : List UInt8) : Option DiagEvent :=
  if bytes.length < pushBatchHeaderSize then none
  else if byteAt bytes 0 ≠ pushWireVersion ∨ byteAt bytes 1 ≠ pushBatchEventType then none
  else
    let sampleCount := (readU16 bytes 0x0C).toNat
    if sampleCount > pushBatchMaxSamples then none
    else if bytes.length < pushBatchHeaderSize + sampleCount * pushSampleSize then none
    else
      some (.taskDiagBatch {
        taskPort := readU16 bytes 8
        taskName := decodeTaskName (extract bytes 0x3C 20)
        taskObjId := readU32 bytes 4
        windowMs := readU16 bytes 0x0A
        cycleCountStart := readU32 bytes 0x10
        cycleCountEnd := readU32 bytes 0x14
        dcTimeStart := readI64 bytes 0x18
        dcTimeEnd := readI64 bytes 0x20
        execTimeMinUs := readU32 bytes 0x28
        execTimeMaxUs := readU32 bytes 0x2C
        execTimeAvgUs := readU32 bytes 0x30
        cycleExceedCount := readU32 bytes 0x34
        rtViolationCount := readU32 bytes 0x38
        samples := (List.range sampleCount).map fun i =>
          sampleAt bytes (pushBatchHeaderSize + i * pushSampleSize) })

/-! ### Batches of an `FB_Metrics` -/

def countOnes (b : UInt8) : Nat := ((List.range 8).filter fun i => b.toNat.testBit i).length

/-- The sample sizes that go with a schema. -/
def sizeAllowed (schema : MetricBodySchema) (statMask : UInt8) (sampleSize : Nat) : Bool :=
  match schema with
  | .bool => sampleSize == 1
  | .numeric => sampleSize == 8
  | .discrete | .string | .wstring => sampleSize != 0 && decide (sampleSize ≤ 65535)
  | .numericAggregated => countOnes statMask * 8 != 0 && sampleSize == countOnes statMask * 8

/-- `n` bytes from an offset on, and the offset behind them; nothing past the end. -/
def part? (bytes : List UInt8) (off n : Nat) : Option (List UInt8 × Nat) :=
  if bytes.length < off + n then none else some (extract bytes off n, off + n)

/-- `String::from_utf8` of the next `n` bytes. -/
def text? (bytes : List UInt8) (off n : Nat) : Option (String × Nat) := do
  let (raw, off) ← part? bytes off n
  let text ← fromUtf8 raw
  pure (text, off)

/-- The ids behind the header, if the flag announces them. -/
def traceContext? (bytes : List UInt8) (flags : UInt8) (off : Nat) :
    Option ((Option (Bytes 16) × Option (Bytes 8)) × Nat) :=
  if hasFlag flags metricFlagHasTraceCtx then do
    let (ids, off) ← part? bytes off pushMetricAggTraceSize
    pure ((Bytes.ofList? 16 (ids.take 16), Bytes.ofList? 8 (ids.drop 16)), off)
  else some ((none, none), off)

/-- The namespace behind its length byte, if the flag announces it. -/
def scopeNamespace? (bytes : List UInt8) (flags : UInt8) (off : Nat) : Option (String × Nat) :=
  if hasFlag flags metricFlagHasNamespace then do
    let (len, off) ← part? bytes off 1
    text? bytes off (byteAt len 0).toNat
  else some ("", off)

/-- How many bytes precede each sample; the two kinds of time stamps exclude each other. -/
def tsPrefix (flags : UInt8) : Option Nat :=
  if hasFlag flags metricFlagHasSampleTs then
    if hasFlag flags metricFlagHasSampleTsDc then none else some metricSampleTsSize
  else if hasFlag flags metricFlagHasSampleTsDc then some metricSampleTsDcSize
  else some 0

def decodeSample (schema : MetricBodySchema) (statMask : UInt8) (slot : List UInt8) : MetricAggregateSample :=
  match schema with
  | .bool => .bool (byteAt slot 0 != 0)
  | .numeric => .numeric (readF64 slot 0)
  | .discrete => .discrete slot
  | .string => .string (fromUtf8Lossy (slot.rdropWhile (· == 0)))
  | .wstring => .wstring (String.ofList (utf16Lossy ((utf16Units slot).rdropWhile (· == 0))))
  | .numericAggregated =>
    .numericAggregated statMask ((List.range (countOnes statMask)).map fun k => readF64 slot (k * 8))

def decodeMetricAggregate (bytes : List UInt8) : Option DiagEvent := do
  guard (pushMetricAggHeaderSize ≤ bytes.length)
  guard (byteAt bytes 0 = pushWireVersion ∧ byteAt bytes 1 = pushMetricAggEventType)
  let flags := byteAt bytes 2
  let bodySchema ← MetricBodySchema.fromByte (byteAt bytes 3)
  let sampleSize := readU32 bytes 0x04
  let sampleCount := (readU32 bytes 0x08).toNat
  let statMask := byteAt bytes 0x11
  guard (sizeAllowed bodySchema statMask sampleSize.toNat)
  let ((traceId, spanId), off) ← traceContext? bytes flags pushMetricAggHeaderSize
  let (name, off) ← text? bytes off (byteAt bytes 0x30).toNat
  let (unit, off) ← text? bytes off (byteAt bytes 0x31).toNat
  let (scopeNamespace, off) ← scopeNamespace? bytes flags off
  let ts ← tsPrefix flags
  let stride := sampleSize.toNat + ts
  let (body, off) ← part? bytes off (sampleCount * stride)
  -- a frame with anything behind its samples is not accepted
  guard (off = bytes.length)
  let slots := (List.range sampleCount).map fun i => extract body (i * stride) stride
  pure (.metricAggregateBatch {
    metricId := readU32 bytes 0x0C
    taskIndex := byteAt bytes 0x10
    flags := flags
    bodySchema := bodySchema
    sampleSize := sampleSize
    statMask := statMask
    cycleCountStart := readU32 bytes 0x14
    cycleCountEnd := readU32 bytes 0x18
    dcTimeStart := readI64 bytes 0x20
    dcTimeEnd := readI64 bytes 0x28
    name := name
    unit := unit
    scopeNamespace := scopeNamespace
    traceId := traceId
    spanId := spanId
    samples := slots.map fun slot => decodeSample bodySchema statMask (slot.drop ts)
    sampleCycleOffsets :=
      if hasFlag flags metricFlagHasSampleTs then some (slots.map fun slot => readU16 slot 0) else none
    sampleDcTimes :=
      if hasFlag flags metricFlagHasSampleTsDc then some (slots.map fun slot => readI64 slot 0) else none })

end TcOtel.Ads.Push
