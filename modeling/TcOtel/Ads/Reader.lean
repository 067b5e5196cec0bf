import TcOtel.Ads.Protocol
import TcOtel.Lib.Decoder
import TcOtel.Lib.Text

/-!
# `BytesReader`

The primitive readers of `parser.rs`: fixed-width integers, length-prefixed strings, the
two kinds of time stamps and typed argument values.
-/

namespace TcOtel.Ads

open Decoding Decoder

/-- What the parser takes from outside the buffer. `Utc::now` is asked at most once at a
read position, so that a function of the position covers every way the clock may run. -/
structure Env where
  chrono : Chrono
  now : Nat → DateTime

/-- A clock that stands at 1970, to evaluate the model with. -/
def Env.atEpoch : Env := ⟨.unlimited, fun _ => ⟨0, 0⟩⟩

abbrev Read (α : Type) := Decoder AdsError α

def maxStringLength : Nat := 65536

/-! ### Integers and strings -/

def readBytes (n : Nat) : Read (List UInt8) := do
  let left ← remaining
  if left < n then fail (.incompleteMessage n left)
  else slice n

def byteAt (bytes : List UInt8) (i : Nat) : Read UInt8 :=
  match bytes[i]? with
  | some b => pure b
  | none => panic

def readU8 : Read UInt8 := do
  let bytes ← readBytes 1
  byteAt bytes 0

/-- `n` bytes as a little-endian number, the argument of the `from_le_bytes` family. -/
def readLe (n : Nat) : Read Nat := do
  let bytes ← readBytes n
  pure (leNat bytes)

def readU16 : Read UInt16 := do
  let v ← readLe 2
  pure (UInt16.ofNat v)

def readI16 : Read Int16 := do
  let v ← readLe 2
  pure (Int16.ofUInt16 (UInt16.ofNat v))

def readU32 : Read UInt32 := do
  let v ← readLe 4
  pure (UInt32.ofNat v)

def readI32 : Read Int32 := do
  let v ← readLe 4
  pure (Int32.ofUInt32 (UInt32.ofNat v))

def readU64 : Read UInt64 := do
  let v ← readLe 8
  pure (UInt64.ofNat v)

def readI64 : Read Int64 := do
  let v ← readU64
  pure (Int64.ofUInt64 v)

def readF64 : Read F64 := do
  let v ← readU64
  pure ⟨v⟩

/-- `read_bytes(n)` followed by `copy_from_slice` into a `[u8; n]`, which panics when the
lengths differ. -/
def readArray (n : Nat) : Read (Bytes n) := do
  let bytes ← readBytes n
  if same : bytes.length = n then pure ⟨bytes, same⟩ else panic

def readString : Read String := do
  let len ← readU8
  failIf (len.toNat > maxStringLength)
    (.parseError s!"String length {len} exceeds maximum {maxStringLength}")
  let bytes ← readBytes len.toNat
  pure (fromUtf8Lossy bytes)

/-- `String::from_utf8` of the next `n` bytes, as the trace events use it. -/
def readUtf8 (n : Nat) (message : String) : Read String := do
  let bytes ← readBytes n
  orFail (.parseError message) (fromUtf8 bytes)

/-! ### Time stamps -/

/-- 100 ns intervals between 1601 and 1970. -/
def filetimeEpochDiff : Nat := 116444736000000000

/-- A FILETIME. One before 1970, such as the 0 of a clock that is not synchronised, is
replaced by the current time. -/
def readFiletime (env : Env) : Read DateTime := do
  let filetime ← readLe 8
  let here ← position
  if filetime < filetimeEpochDiff then pure (env.now here)
  else
    let unix100ns := filetime - filetimeEpochDiff
    orFail (.invalidTimestamp "Invalid timestamp")
      (env.chrono.fromTimestamp (unix100ns / 10000000) (unix100ns % 10000000 * 100))

def unixToDcEpochSecs : Int := 946684800

/-- Nanoseconds since the DC epoch; the current time when the DC clock is not running. -/
def readDcTaskTime (env : Env) : Read DateTime := do
  let dcNs ← readI64
  let here ← position
  if dcNs.toInt ≤ 0 then pure (env.now here)
  else
    orFail (.invalidTimestamp "Invalid DC timestamp")
      (env.chrono.fromTimestamp (unixToDcEpochSecs + dcNs.toInt / 1000000000)
        (dcNs.toInt % 1000000000).toNat)

/-! ### Argument values -/

def zeroPadded (width n : Nat) : String :=
  let digits := toString n
  String.ofList (List.replicate (width - digits.length) '0') ++ digits

def durationPart (n : Nat) (unit : String) : String :=
  if n > 0 then toString n ++ unit else ""

def formatTime (totalMs : Nat) : String :=
  let d := totalMs / 86400000
  let h := totalMs % 86400000 / 3600000
  let m := totalMs % 3600000 / 60000
  let s := totalMs % 60000 / 1000
  let ms := totalMs % 1000
  "T#" ++ durationPart d "d" ++ durationPart h "h" ++ durationPart m "m" ++
    (if s > 0 ∨ (d = 0 ∧ h = 0 ∧ m = 0 ∧ ms = 0) then toString s ++ "s" else "") ++
    durationPart ms "ms"

/-- An LTIME in units of 100 ns. The product wraps, as it does in a release build. -/
def formatLtime (ns100 : UInt64) : String :=
  let totalNs := (ns100 * 100).toNat
  let d := totalNs / 86400000000000
  let h := totalNs % 86400000000000 / 3600000000000
  let m := totalNs % 3600000000000 / 60000000000
  let s := totalNs % 60000000000 / 1000000000
  let ms := totalNs % 1000000000 / 1000000
  let us := totalNs % 1000000 / 1000
  let ns := totalNs % 1000
  let parts := "LTIME#" ++ durationPart d "d" ++ durationPart h "h" ++ durationPart m "m" ++
    durationPart s "s" ++ durationPart ms "ms" ++ durationPart us "us" ++ durationPart ns "ns"
  if parts = "LTIME#" then parts ++ "0s" else parts

def formatTimeOfDay (totalMs : Nat) : String :=
  let h := totalMs / 3600000
  let m := totalMs % 3600000 / 60000
  let s := totalMs % 60000 / 1000
  let ms := totalMs % 1000
  let clock := "TOD#" ++ zeroPadded 2 h ++ ":" ++ zeroPadded 2 m ++ ":" ++ zeroPadded 2 s
  if ms > 0 then clock ++ "." ++ zeroPadded 3 ms else clock

/-- `DateTime::from_timestamp(secs, 0).unwrap_or_default()`. -/
def dateOfSecs (env : Env) (secs : Nat) : DateTime :=
  (env.chrono.fromTimestamp secs 0).getD ⟨0, 0⟩

def formatDate (env : Env) (secs : Nat) : String :=
  "D#" ++ env.chrono.formatDate (dateOfSecs env secs)

def formatDateAndTime (env : Env) (secs : Nat) : String :=
  "DT#" ++ env.chrono.formatDateTime (dateOfSecs env secs)

/-- `chunks(2)` as UTF-16 units. -/
def utf16Units : List UInt8 → List UInt16
  | a :: b :: rest => UInt16.ofNat (leNat [a, b]) :: utf16Units rest
  | _ => []

/-- The cases of the value readers, several type ids sharing one. -/
inductive ArgType where
  | null | unsigned8 | unsigned16 | unsigned32 | real | lreal | sint | int | dint | string | bool
  | unsigned64 | signed64 | time | ltime | timeOfDay | date | dateAndTime | enum | wstring
  | unknown
deriving DecidableEq, Repr

def ArgType.ofId (valType : Int) : ArgType :=
  match valType with
  | 0 => .null
  | 1 | 9 => .unsigned8
  | 2 | 10 => .unsigned16
  | 3 | 11 => .unsigned32
  | 4 => .real
  | 5 => .lreal
  | 6 => .sint
  | 7 => .int
  | 8 => .dint
  | 12 => .string
  | 13 => .bool
  | 15 => .unsigned64
  | 17 => .signed64
  | 20000 => .time
  | 20001 => .ltime
  | 20002 => .date
  | 20003 => .dateAndTime
  | 20004 => .timeOfDay
  | 20005 => .enum
  | 20006 => .wstring
  | _ => .unknown

/-- The value of an enumeration, by its underlying type; other types read nothing. -/
def readEnum : ArgType → Read Value
  | .unsigned8 => do let v ← readU8; pure (.int v.toNat)
  | .unsigned16 => do let v ← readU16; pure (.int v.toNat)
  | .unsigned32 => do let v ← readU32; pure (.int v.toNat)
  | .unsigned64 => do let v ← readU64; pure (.int v.toNat)
  | _ => pure .null

/-- The body that `read_value` and `read_value_with_type` share. They differ in how an
enumeration writes its underlying type. -/
def readTyped (env : Env) (underlying : Read Int) : ArgType → Read Value
  | .null => pure .null
  | .unsigned8 => do let v ← readU8; pure (.int v.toNat)
  | .unsigned16 => do let v ← readU16; pure (.int v.toNat)
  | .unsigned32 => do let v ← readU32; pure (.int v.toNat)
  | .real => do let v ← readU32; pure (.ofF32 ⟨v⟩)
  | .lreal => do let v ← readF64; pure (.ofF64 v)
  | .sint => do let v ← readU8; pure (.int (Int8.ofUInt8 v).toInt)
  | .int => do let v ← readI16; pure (.int v.toInt)
  | .dint => do let v ← readI32; pure (.int v.toInt)
  | .string => do let s ← readString; pure (.string s)
  | .bool => do let v ← readU8; pure (.bool (v != 0))
  | .unsigned64 => do let v ← readU64; pure (.int v.toNat)
  | .signed64 => do let v ← readI64; pure (.int v.toInt)
  | .time => do let v ← readU32; pure (.string (formatTime v.toNat))
  | .ltime => do let v ← readU64; pure (.string (formatLtime v))
  | .timeOfDay => do let v ← readU32; pure (.string (formatTimeOfDay v.toNat))
  | .date => do let v ← readU32; pure (.string (formatDate env v.toNat))
  | .dateAndTime => do let v ← readU32; pure (.string (formatDateAndTime env v.toNat))
  | .enum => do
    let inner ← underlying
    readEnum (ArgType.ofId inner)
  | .wstring => do
    let count ← readU8
    let raw ← readBytes (count.toNat * 2)
    pure (.string (String.ofList (utf16Lossy (utf16Units raw))))
  | .unknown => pure .null

/-- An `INT16` type id as the `i32` the readers match on. -/
def readTypeId16 : Read Int := do
  let t ← readI16
  pure t.toInt

def readTypeId8 : Read Int := do
  let t ← readU8
  pure t.toNat

/-- The v1 value reader: the type id is an `INT16`. -/
def readValue (env : Env) : Read Value := do
  let valType ← readTypeId16
  readTyped env readTypeId16 (ArgType.ofId valType)

/-- The v2 value reader: the type is already known. -/
def readValueWithType (env : Env) (valType : Int) : Read Value :=
  readTyped env readTypeId8 (ArgType.ofId valType)

/-- v2 codes the custom types in one byte. -/
def remapV2TypeId (v2Type : Int) : Int :=
  match v2Type with
  | 100 => 20000
  | 101 => 20001
  | 102 => 20002
  | 103 => 20003
  | 104 => 20004
  | 105 => 20005
  | 106 => 20006
  | other => other

def readV2Value (env : Env) : Read Value := do
  let typeId ← readTypeId8
  readValueWithType env (remapV2TypeId typeId)

/-! ### The readers stay inside the buffer

Each reader moves forward, inside the buffer, and its value depends on the bytes it has
passed only. The two readers that index into a slice rely on the slice's length. -/

theorem readBytes_run (inside : pos ≤ data.length) : (readBytes n).run data pos =
      if pos + n ≤ data.length then .ok ((data.drop pos).take n) (pos + n)
      else .err (.incompleteMessage n (data.length - pos)) pos := by
  simp only [readBytes, remaining, bind_run]
  by_cases fits : pos + n ≤ data.length
  · rw [if_neg (by omega), if_pos fits]
    exact if_pos fits
  · rw [if_pos (by omega), if_neg fits]
    rfl

section

variable {n : Nat} {data bytes : List UInt8} {pos next : Nat} (ran : (readBytes n).run data pos = .ok bytes next)
include ran

theorem readBytes_ok : bytes = (data.drop pos).take n ∧ next = pos + n ∧ next ≤ data.length := by
  simp only [readBytes, remaining, slice, bind_run] at ran
  split at ran
  · cases ran
  · dsimp only at ran
    split at ran
    next fits =>
      cases ran
      exact ⟨rfl, rfl, fits⟩
    · cases ran

theorem readBytes_length : bytes.length = n := by
  obtain ⟨rfl, rfl, fits⟩ := readBytes_ok ran
  rw [List.length_take, List.length_drop]
  omega

end

instance (n : Nat) : Local (readBytes n) where
  within data pos inside := by
    rw [readBytes_run inside]
    split
    next fits => exact ⟨Nat.le_add_right pos n, fits⟩
    · exact ⟨Nat.le_refl pos, inside⟩
  stable data data' pos next bytes inside ran same := by
    obtain ⟨rfl, rfl, fits⟩ := readBytes_ok ran
    have longer : pos + n ≤ data'.length := by
      have lengths := congrArg List.length same
      simp only [List.length_take] at lengths
      omega
    rw [readBytes_run (by omega), if_pos longer, List.take_drop, List.take_drop, same]

instance : Local readU8 := by
  refine Local.bind_of inferInstance readBytes_length fun bytes one => ?_
  obtain ⟨b, rfl⟩ := List.length_eq_one_iff.mp one
  exact Local.pure b

instance (n : Nat) : Local (readArray n) := by
  refine Local.bind_of inferInstance readBytes_length fun bytes same => ?_
  rw [dif_pos same]
  exact Local.pure _

-- instances are found through these readers
attribute [reducible] readLe readU16 readI16 readU32 readI32 readU64 readI64 readF64 readString readUtf8 readFiletime
  readDcTaskTime readTypeId16 readTypeId8 readValue readValueWithType readV2Value


instance (t : ArgType) : Local (readEnum t) := by
  cases t <;> simp only [readEnum] <;> infer_instance

instance (env : Env) (underlying : Read Int) [Local underlying] (t : ArgType) :
    Local (readTyped env underlying t) := by
  cases t <;> simp only [readTyped] <;> infer_instance

/-! The readers of strings and values read the same wherever they stand. -/

instance (n : Nat) : Relative (readBytes n) := by unfold readBytes; infer_instance
instance (bytes : List UInt8) (i : Nat) : Relative (byteAt bytes i) := by
  unfold byteAt; split <;> infer_instance
instance : Relative readU8 := by unfold readU8; infer_instance

instance (t : ArgType) : Relative (readEnum t) := by
  cases t <;> simp only [readEnum] <;> infer_instance

instance (env : Env) (t : ArgType) : Relative (readTyped env readTypeId8 t) := by
  cases t <;> simp only [readTyped] <;> infer_instance

end TcOtel.Ads
