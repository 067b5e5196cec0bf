import TcOtel.Core.Models
import TcOtel.Lib.Json
import Mathlib

/-!
# JSON values as `serde_json` holds them

Attributes of records are `serde_json::Value`s, among them arrays and objects, which no decoder
produces but which a record can hold. A number is an integer of 64 bits or a finite float. Floats are
written by another crate, of which is used that it writes different floats differently and never like
an integer (`Zmij`).
-/

namespace TcOtel

open Rendering

/-- A `serde_json::Number`. What is negative is kept apart, and no float is infinite or NaN. -/
inductive Number where
  | posInt (n : UInt64)
  | negInt (n : Int64) (negative : n.toInt < 0)
  | float (f : F64) (finite : f.isFinite)
deriving DecidableEq, Repr

/-- A `serde_json::Value`. The fields of an object come in the order of their keys. -/
abbrev Json := Rendering.Json Number

abbrev Attributes := HashMap String Json

namespace F64

/-- `u64 as f64`, to the nearest float and of two to the even one. A fraction that is rounded up to the
next power of two carries into the exponent. -/
def ofU64 (n : UInt64) : F64 :=
  if n = 0 then ⟨0⟩
  else
    let top := Nat.log2 n.toNat
    let fraction :=
      if top ≤ 52 then n.toNat * 2 ^ (52 - top)
      else
        let unit := 2 ^ (top - 52)
        let rest := n.toNat % unit
        let up := unit < 2 * rest ∨ (2 * rest = unit ∧ n.toNat / unit % 2 = 1)
        n.toNat / unit + if up then 1 else 0
    ⟨UInt64.ofNat ((top + 1022) * 2 ^ 52 + fraction)⟩

example : F64.ofU64 1 = ⟨0x3FF0000000000000⟩ ∧ F64.ofU64 (2 ^ 64 - 1) = ⟨0x43F0000000000000⟩ := by
  decide +kernel

theorem isFinite_ofU64 (n : UInt64) : (ofU64 n).isFinite := by
  rw [ofU64]
  split
  case isTrue => decide
  case isFalse positive =>
    have nonzero : n.toNat ≠ 0 := fun zero => positive (UInt64.toNat_inj.mp zero)
    have top : Nat.log2 n.toNat < 64 := (Nat.log2_lt nonzero).mpr n.toNat_lt
    have less : n.toNat < 2 ^ (Nat.log2 n.toNat + 1) := Nat.lt_log2_self
    generalize Nat.log2 n.toNat = t at top less
    -- the fraction has at most 53 bits, or it was rounded up to the next power
    have fraction : (if t ≤ 52 then n.toNat * 2 ^ (52 - t) else n.toNat / 2 ^ (t - 52) +
        if 2 ^ (t - 52) < 2 * (n.toNat % 2 ^ (t - 52)) ∨
          (2 * (n.toNat % 2 ^ (t - 52)) = 2 ^ (t - 52) ∧ n.toNat / 2 ^ (t - 52) % 2 = 1) then 1 else 0) ≤ 2 ^ 53 := by
      split
      case isTrue small =>
        have scaled : n.toNat * 2 ^ (52 - t) ≤ 2 ^ (t + 1) * 2 ^ (52 - t) := Nat.mul_le_mul_right _ less.le
        rwa [← Nat.pow_add, show t + 1 + (52 - t) = 53 by omega] at scaled
      case isFalse large =>
        have quotient : n.toNat / 2 ^ (t - 52) < 2 ^ 53 := by
          apply Nat.div_lt_of_lt_mul
          rwa [← Nat.pow_add, show t - 52 + 53 = t + 1 by omega]
        split <;> omega
    simp only [isFinite, decide_eq_true_eq]
    rw [UInt64.toNat_ofNat']
    omega

end F64

namespace Number

def asI64 : Number → Option Int64
  | .posInt n => if n.toNat < 2 ^ 63 then some n.toInt64 else none
  | .negInt n _ => some n
  | .float _ _ => none

def asU64 : Number → Option UInt64
  | .posInt n => some n
  | .negInt _ _ => none
  | .float _ _ => none

def asF64 : Number → F64
  | .posInt n => F64.ofU64 n
  | .negInt n _ => ⟨2 ^ 63 + (F64.ofU64 (UInt64.ofNat n.toInt.natAbs)).bits⟩
  | .float f _ => f

def ofI64 (n : Int64) : Number :=
  if negative : n.toInt < 0 then .negInt n negative else .posInt n.toUInt64

def toInt? : Number → Option Int
  | .posInt n => some n.toNat
  | .negInt n _ => some n.toInt
  | .float _ _ => none

theorem toInt?_eq_none_iff {a : Number} : a.toInt? = none ↔ ∃ f finite, a = .float f finite := by
  cases a with
  | posInt n | negInt n negative => simp [toInt?]
  | float f finite => simpa [toInt?] using finite

theorem toInt?_injective {a b : Number} (first : a.toInt? = some i) (second : b.toInt? = some i) : a = b := by
  cases a with
  | posInt n =>
    cases b with
    | posInt m =>
      have same : (n.toNat : Int) = m.toNat := by
        rw [← Option.some.inj first] at second
        exact (Option.some.inj second).symm
      rw [UInt64.toNat_inj.mp (Int.ofNat_inj.mp same)]
    | negInt m negative =>
      simp only [toInt?, Option.some.injEq] at first second
      omega
    | float f finite => cases second
  | negInt n negative =>
    cases b with
    | posInt m =>
      simp only [toInt?, Option.some.injEq] at first second
      omega
    | negInt m less =>
      have same : n.toInt = m.toInt := by
        rw [← Option.some.inj first] at second
        exact (Option.some.inj second).symm
      cases Int64.toInt_inj.mp same
      rfl
    | float f finite => cases second
  | float f finite => cases first

end Number

/-- What is used of the `zmij` crate, which writes the shortest decimal that is read as the same float,
with a point or an exponent in it. -/
structure Zmij where
  format : F64 → List Char
  plain : ∀ f, f.isFinite → ∀ c ∈ format f, isNumeral c
  marked : ∀ f, f.isFinite → ∃ c ∈ format f, c = '.' ∨ c = 'e'
  injective : ∀ f g, f.isFinite → g.isFinite → format f = format g → f = g

namespace Zmij

def numberText (z : Zmij) : Number → List Char
  | .posInt n => n.toNat.repr.toList
  | .negInt n _ => n.toInt.repr.toList
  | .float f _ => z.format f

theorem numberText_of_toInt? (z : Zmij) (integer : a.toInt? = some i) : z.numberText a = i.repr.toList := by
  cases a with
  | posInt n | negInt n negative => rw [← Option.some.inj integer]; rfl
  | float f finite => cases integer

theorem mem_repr {i : Int} (member : c ∈ i.repr.toList) : c.isDigit ∨ c = '-' := by
  have digits {n : Nat} (listed : c ∈ n.repr.toList) : c.isDigit := by
    rw [Nat.repr_eq_ofList_toDigits, String.toList_ofList] at listed
    exact Nat.isDigit_of_mem_toDigits (by decide) (by decide) listed
  rw [Int.repr_eq_if] at member
  split at member
  · exact .inl (digits member)
  · rw [String.toList_append, List.mem_append] at member
    exact member.elim (fun sign => .inr (List.mem_singleton.mp sign)) fun listed => .inl (digits listed)

theorem repr_toList_ne_nil (i : Int) : i.repr.toList ≠ [] := by
  intro empty
  rw [String.toList_eq_nil_iff, Int.repr_eq_if] at empty
  split at empty
  · exact Nat.repr_ne_empty empty
  · exact Nat.repr_ne_empty (String.append_eq_empty_iff.mp empty).2

theorem numberText_integer_ne_float (z : Zmij) {a : Number} (integer : a.toInt? = some i)
    (finite : f.isFinite) : z.numberText a ≠ z.format f := by
  intro same
  obtain ⟨c, member, mark⟩ := z.marked f finite
  rw [← same, numberText_of_toInt? z integer] at member
  rcases mem_repr member with digit | rfl
  · rcases mark with rfl | rfl <;> exact absurd digit (by decide)
  · rcases mark with mark | mark <;> exact absurd mark (by decide)

def numerals (z : Zmij) : Numerals Number where
  text := z.numberText
  filled a empty := by
    cases integer : a.toInt? with
    | some i =>
      rw [numberText_of_toInt? z integer] at empty
      exact repr_toList_ne_nil i empty
    | none =>
      obtain ⟨f, finite, rfl⟩ := Number.toInt?_eq_none_iff.mp integer
      obtain ⟨c, member, -⟩ := z.marked f finite
      have none : z.format f = [] := empty
      rw [none] at member
      cases member
  plain a c member := by
    cases integer : a.toInt? with
    | some i =>
      rw [numberText_of_toInt? z integer] at member
      rcases mem_repr member with digit | rfl
      · simp [isNumeral, digit]
      · decide
    | none =>
      obtain ⟨f, finite, rfl⟩ := Number.toInt?_eq_none_iff.mp integer
      exact z.plain f finite c member
  injective a b same := by
    cases first : a.toInt? with
    | some i =>
      cases second : b.toInt? with
      | some j =>
        rw [numberText_of_toInt? z first, numberText_of_toInt? z second] at same
        rw [Int.repr_injective (String.toList_injective same)] at first
        exact Number.toInt?_injective first second
      | none =>
        obtain ⟨f, finite, rfl⟩ := Number.toInt?_eq_none_iff.mp second
        exact absurd same (numberText_integer_ne_float z first finite)
    | none =>
      obtain ⟨f, finite, rfl⟩ := Number.toInt?_eq_none_iff.mp first
      cases second : b.toInt? with
      | some j => exact absurd same.symm (numberText_integer_ne_float z second finite)
      | none =>
        obtain ⟨g, other, rfl⟩ := Number.toInt?_eq_none_iff.mp second
        cases z.injective f g finite other same
        rfl

/-- The bits in decimal with a point behind them, to evaluate the model with. -/
def bitwise : Zmij where
  format f := f.bits.toNat.repr.toList ++ ['.']
  plain f _ c member := by
    rcases List.mem_append.mp member with listed | point
    · rcases mem_repr (i := f.bits.toNat) listed with digit | rfl
      · simp [isNumeral, digit]
      · decide
    · rw [List.mem_singleton.mp point]
      decide
  marked f _ := ⟨'.', by simp, .inl rfl⟩
  injective f g _ _ same := by
    have texts := String.toList_injective (List.append_cancel_right same)
    exact congrArg F64.mk (UInt64.toNat_inj.mp (Nat.repr_injective texts))

end Zmij

def Json.toString (z : Zmij) (v : Json) : String := String.ofList (text z.numerals v)

/-! ### Values of the decoders -/

def Number.ofInt (i : Int) : Number :=
  if negative : i < 0 ∧ (Int64.ofInt i).toInt < 0 then .negInt (Int64.ofInt i) negative.2
  else .posInt (UInt64.ofNat i.toNat)

theorem Number.ofInt_cases (low : -2 ^ 63 ≤ i) :
    (i < 0 ∧ ∃ negative, Number.ofInt i = .negInt (Int64.ofInt i) negative) ∨
      (0 ≤ i ∧ Number.ofInt i = .posInt (UInt64.ofNat i.toNat)) := by
  rw [Number.ofInt]
  by_cases negative : i < 0
  · have whole : (Int64.ofInt i).toInt = i := Int64.toInt_ofInt_of_le low (by omega)
    have both : i < 0 ∧ (Int64.ofInt i).toInt < 0 := ⟨negative, by omega⟩
    rw [dif_pos both]
    exact .inl ⟨negative, both.2, rfl⟩
  · rw [dif_neg fun both => negative both.1]
    exact .inr ⟨by omega, rfl⟩

def Value.toJson : Value → Json
  | .null => .null
  | .bool b => .bool b
  | .int i => .number (Number.ofInt i)
  | .float f => if finite : f.isFinite then .number (.float f finite) else .null
  | .string s => .string s

/-! ### Records, for export -/

namespace Otlp

structure LogRecord where
  timestamp : DateTime
  body : Json
  severityNumber : Int32
  severityText : String
  traceId : String
  spanId : String
  resourceAttributes : Attributes
  scopeName : String
  scopeAttributes : Attributes
  logAttributes : Attributes

structure MetricRecord where
  name : String
  description : String
  unit : String
  kind : MetricKind
  timestamp : DateTime
  value : F64
  isMonotonic : Bool
  resourceAttributes : Attributes
  scopeName : String
  attributes : Attributes
  histogramBounds : List F64
  histogramCounts : List UInt64
  histogramCount : UInt64
  histogramSum : F64
  traceId : String
  spanId : String

structure TraceEventRecord where
  timestamp : DateTime
  name : String
  attributes : Attributes

structure TraceRecord where
  traceId : String
  spanId : String
  parentSpanId : String
  name : String
  kind : Int32
  startTime : DateTime
  endTime : DateTime
  statusCode : Int32
  statusMessage : String
  resourceAttributes : Attributes
  scopeName : String
  scopeAttributes : Attributes
  spanAttributes : Attributes
  events : List TraceEventRecord

end Otlp

end TcOtel
