import TcOtel.Ads.Ams
import TcOtel.Core.Entries

/-!
# Scalars of the PLC

`client.rs`: a value of a symbol, decoded by the name of its IEC type, and its number as a metric.
-/

namespace TcOtel

/-! ### Conversions to `f64` -/

/-- `n as f64`: the nearest number, and of two that are as near the one with an even fraction. -/
def F64.nearest (n : Nat) : F64 :=
  if n < 2 ^ 53 then F64.ofNat n
  else
    let top := Nat.log2 n
    let unit := 2 ^ (top - 52)
    let below := n / unit
    let rest := n % unit
    let fraction := if unit < 2 * rest ∨ (unit = 2 * rest ∧ below % 2 = 1) then below + 1 else below
    -- a fraction that is rounded up to `2 ^ 53` carries into the exponent
    ⟨UInt64.ofNat ((top + 1023) * 2 ^ 52 + (fraction - 2 ^ 52))⟩

def F64.ofInt (i : Int) : F64 :=
  if i < 0 then ⟨UInt64.ofNat (2 ^ 63 + (F64.nearest i.natAbs).bits.toNat)⟩ else F64.nearest i.natAbs

/-- `f as f64` of any `f32`. A NaN comes out quiet, as the hardware has it. -/
def F32.widen (f : F32) : F64 :=
  if f.isFinite then f.toF64
  else
    let sign := f.bits.toNat / 2 ^ 31
    let mantissa := f.bits.toNat % 2 ^ 23
    let fraction := if mantissa = 0 then 0 else 2 ^ 51 + mantissa % 2 ^ 22 * 2 ^ 29
    ⟨UInt64.ofNat (sign * 2 ^ 63 + 2047 * 2 ^ 52 + fraction)⟩

namespace Client

open Ads Decoding Memory

/-! ### Values -/

inductive PlcValue where
  | bool (b : Bool)
  | i64 (v : Int64)
  | u64 (v : UInt64)
  | f64 (v : F64)
deriving DecidableEq

def PlcValue.asF64 : PlcValue → F64
  | .bool b => if b then F64.ofNat 1 else F64.ofNat 0
  | .i64 v => F64.ofInt v.toInt
  | .u64 v => F64.nearest v.toNat
  | .f64 v => v

def isWhitespace (c : Char) : Bool :=
  let n := c.toNat
  (0x09 ≤ n ∧ n ≤ 0x0D) ∨ n = 0x20 ∨ n = 0x85 ∨ n = 0xA0 ∨ n = 0x1680 ∨ (0x2000 ≤ n ∧ n ≤ 0x200A) ∨ n = 0x2028 ∨
    n = 0x2029 ∨ n = 0x202F ∨ n = 0x205F ∨ n = 0x3000

def normalizedType (typeName : String) : String :=
  String.ofList (((typeName.toList.dropWhile isWhitespace).rdropWhile isWhitespace).map Char.toUpper)

/-- A value that is read from that many bytes. -/
def whenBytes (width : Nat) (bytes : List UInt8) (value : PlcValue) : Option PlcValue :=
  if width ≤ bytes.length then some value else none

def decodeScalar (typeName : String) (bytes : List UInt8) : Option PlcValue :=
  match normalizedType typeName with
  | "BOOL" => whenBytes 1 bytes (.bool (Push.byteAt bytes 0 ≠ 0))
  | "SINT" => whenBytes 1 bytes (.i64 (Push.byteAt bytes 0).toInt8.toInt64)
  | "USINT" | "BYTE" => whenBytes 1 bytes (.u64 (Push.byteAt bytes 0).toUInt64)
  | "INT" => whenBytes 2 bytes (.i64 (Push.readU16 bytes 0).toInt16.toInt64)
  | "UINT" | "WORD" => whenBytes 2 bytes (.u64 (Push.readU16 bytes 0).toUInt64)
  | "DINT" => whenBytes 4 bytes (.i64 (Push.readU32 bytes 0).toInt32.toInt64)
  | "UDINT" | "DWORD" => whenBytes 4 bytes (.u64 (Push.readU32 bytes 0).toUInt64)
  | "LINT" => whenBytes 8 bytes (.i64 (Push.readI64 bytes 0))
  | "ULINT" | "LWORD" => whenBytes 8 bytes (.u64 (UInt64.ofNat (leNat (extract bytes 0 8))))
  | "REAL" => whenBytes 4 bytes (.f64 (F32.widen ⟨Push.readU32 bytes 0⟩))
  | "LREAL" => whenBytes 8 bytes (.f64 (Push.readF64 bytes 0))
  | _ => none

end Client

end TcOtel
