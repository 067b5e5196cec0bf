import Mathlib.Data.List.Basic
import Mathlib.Tactic

/-!
# Little-endian words and byte strings of a fixed length

`leNat` reads a byte list as a little-endian number and `leBytes n` writes the
`n` low bytes of one. The two are inverse below `256 ^ n`, which is all a
fixed-width field of a wire format needs.
-/

namespace Decoding

def leNat : List UInt8 → Nat
  | [] => 0
  | b :: bs => b.toNat + 256 * leNat bs

def leBytes : Nat → Nat → List UInt8
  | 0, _ => []
  | n + 1, v => UInt8.ofNat (v % 256) :: leBytes n (v / 256)

@[simp] theorem length_leBytes (n v : Nat) : (leBytes n v).length = n := by
  induction n generalizing v with
  | zero => rfl
  | succ n ih => simp [leBytes, ih]

theorem leBytes_mod (n v : Nat) : leBytes n (v % 256 ^ n) = leBytes n v := by
  induction n generalizing v with
  | zero => rfl
  | succ n ih =>
    have low : v % 256 ^ (n + 1) % 256 = v % 256 := Nat.mod_mod_of_dvd v (Dvd.intro_left (256 ^ n) rfl)
    have high : v % 256 ^ (n + 1) / 256 = v / 256 % 256 ^ n := by
      rw [Nat.pow_succ, Nat.mul_comm, Nat.mod_mul_right_div_self]
    rw [leBytes, leBytes, low, high, ih]

theorem leNat_leBytes (n v : Nat) (fits : v < 256 ^ n) : leNat (leBytes n v) = v := by
  induction n generalizing v with
  | zero =>
    simp only [Nat.pow_zero, Nat.lt_one_iff] at fits
    simp [leBytes, leNat, fits]
  | succ n ih =>
    have high : v / 256 < 256 ^ n := by
      rw [Nat.pow_succ] at fits
      exact Nat.div_lt_of_lt_mul (by rwa [Nat.mul_comm] at fits)
    have low : (UInt8.ofNat (v % 256)).toNat = v % 256 := by
      simp
    simp only [leBytes, leNat, low, ih _ high]
    exact Nat.mod_add_div v 256

/-- A byte string of known length, such as the `[u8; n]` of a wire identifier. -/
abbrev Bytes (n : Nat) := { bs : List UInt8 // bs.length = n }

def Bytes.zero (n : Nat) : Bytes n := ⟨List.replicate n 0, List.length_replicate⟩

/-! ### Hexadecimal text -/

def hexDigit (n : Nat) : Char :=
  if n < 10 then Char.ofNat (48 + n) else Char.ofNat (87 + n)

def hexEncode (bytes : List UInt8) : String :=
  String.ofList (bytes.flatMap fun b => [hexDigit (b.toNat / 16), hexDigit (b.toNat % 16)])

def hexValue (c : Char) : Option Nat :=
  if '0' ≤ c ∧ c ≤ '9' then some (c.toNat - 48)
  else if 'a' ≤ c ∧ c ≤ 'f' then some (c.toNat - 87)
  else if 'A' ≤ c ∧ c ≤ 'F' then some (c.toNat - 55)
  else none

def hexDecode : List Char → Option (List UInt8)
  | [] => some []
  | [_] => none
  | high :: low :: rest => do
    let h ← hexValue high
    let l ← hexValue low
    let bytes ← hexDecode rest
    pure (UInt8.ofNat (16 * h + l) :: bytes)

theorem hexValue_hexDigit (small : n < 16) : hexValue (hexDigit n) = some n := by
  have all : ∀ n < 16, hexValue (hexDigit n) = some n := by decide
  exact all n small

theorem hexDecode_hexEncode (bytes : List UInt8) : hexDecode (hexEncode bytes).toList = some bytes := by
  rw [hexEncode, String.toList_ofList]
  induction bytes with
  | nil => rfl
  | cons b bytes ih =>
    have small := b.toNat_lt
    have high : hexValue (hexDigit (b.toNat / 16)) = some (b.toNat / 16) := hexValue_hexDigit (by omega)
    have low : hexValue (hexDigit (b.toNat % 16)) = some (b.toNat % 16) := hexValue_hexDigit (by omega)
    have whole : UInt8.ofNat (16 * (b.toNat / 16) + b.toNat % 16) = b := by rw [Nat.div_add_mod, UInt8.ofNat_toNat]
    rw [List.flatMap_cons, List.cons_append, List.cons_append, List.nil_append, hexDecode, high, low, ih]
    exact congrArg (fun first => some (first :: bytes)) whole

def Bytes.ofList? (n : Nat) (bytes : List UInt8) : Option (Bytes n) :=
  if same : bytes.length = n then some ⟨bytes, same⟩ else none

theorem Bytes.ofList?_val (bytes : Bytes n) : Bytes.ofList? n bytes.val = some bytes := dif_pos bytes.property

end Decoding
