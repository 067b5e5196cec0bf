import Mathlib.Data.List.Basic
import Mathlib.Data.List.Nodup
import Mathlib.Tactic

/-!
# Texts of numbers with units

A text that consists of numbers, each behind it a unit without digits, can be read in one way
only (`quantities_injective`). When the parts that are zero are left out, what is there still adds
up to the same (`total_positive`).
-/

namespace Quantities

def text (q : Nat × List Char) : List Char := Nat.toDigits 10 q.1 ++ q.2

/-- A text that cannot be taken for a part of a number. -/
structure IsUnit (u : List Char) : Prop where
  nonempty : u ≠ []
  noDigit : ∀ c ∈ u, c.isDigit = false

theorem append_inj_of_all {p : Char → Bool} {xs ys rest rest' : List Char}
    (all : ∀ c ∈ xs, p c = true) (all' : ∀ c ∈ ys, p c = true)
    (ends : ∀ c ∈ rest.head?, p c = false) (ends' : ∀ c ∈ rest'.head?, p c = false)
    (same : xs ++ rest = ys ++ rest') : xs = ys ∧ rest = rest' := by
  have run : ∀ {zs rest : List Char}, (∀ c ∈ zs, p c = true) → (∀ c ∈ rest.head?, p c = false) →
      (zs ++ rest).takeWhile p = zs := by
    intro zs rest all ends
    rw [List.takeWhile_append_of_pos all]
    cases rest with
    | nil => simp
    | cons c rest => simp [ends c rfl]
  have first : xs = ys := by
    rw [← run all ends, same, run all' ends']
  subst first
  exact ⟨rfl, List.append_cancel_left same⟩

theorem head?_digits (n : Nat) (rest : List Char) :
    ∀ c ∈ (Nat.toDigits 10 n ++ rest).head?, c.isDigit = true := by
  intro c first
  cases digits : Nat.toDigits 10 n with
  | nil => exact absurd digits Nat.toDigits_ne_nil
  | cons d others =>
    rw [digits] at first
    cases first
    exact Nat.isDigit_of_mem_toDigits (b := 10) (n := n) (by decide) (by decide)
      (by rw [digits]; exact List.mem_cons_self)

theorem head?_flatMap_text (qs : List (Nat × List Char)) :
    ∀ c ∈ (qs.flatMap text).head?, c.isDigit = true := by
  cases qs with
  | nil =>
    intro c first
    cases first
  | cons q qs =>
    rw [List.flatMap_cons, text, List.append_assoc]
    exact head?_digits q.1 _

theorem flatMap_text_eq_nil_iff {qs : List (Nat × List Char)} : qs.flatMap text = [] ↔ qs = [] := by
  cases qs with
  | nil => simp
  | cons q qs => simp [text, Nat.toDigits_ne_nil]

/-- The text determines the numbers and their units. -/
theorem quantities_injective {xs ys : List (Nat × List Char)} (units : ∀ q ∈ xs, IsUnit q.2)
    (units' : ∀ q ∈ ys, IsUnit q.2) (same : xs.flatMap text = ys.flatMap text) : xs = ys := by
  induction xs generalizing ys with
  | nil => exact (flatMap_text_eq_nil_iff.mp same.symm).symm
  | cons x xs ih =>
    cases ys with
    | nil => exact flatMap_text_eq_nil_iff.mp same
    | cons y ys =>
      have digits : ∀ n c, c ∈ Nat.toDigits 10 n → c.isDigit = true := fun n c member =>
        Nat.isDigit_of_mem_toDigits (by decide) (by decide) member
      have stops : ∀ {u rest : List Char}, IsUnit u → ∀ c ∈ (u ++ rest).head?, c.isDigit = false := by
        intro u rest unit c first
        cases u with
        | nil => exact absurd rfl unit.nonempty
        | cons d u =>
          cases first
          exact unit.noDigit c List.mem_cons_self
      have here := units x List.mem_cons_self
      have here' := units' y List.mem_cons_self
      simp only [List.flatMap_cons, text, List.append_assoc] at same
      obtain ⟨number, same⟩ := append_inj_of_all (digits x.1) (digits y.1) (stops here) (stops here') same
      -- the unit ends where the digits of the next number start
      obtain ⟨unit, same⟩ := append_inj_of_all (p := fun c => !c.isDigit)
        (fun c member => by rw [here.noDigit c member]; rfl)
        (fun c member => by rw [here'.noDigit c member]; rfl)
        (fun c first => by rw [head?_flatMap_text xs c first]; rfl)
        (fun c first => by rw [head?_flatMap_text ys c first]; rfl) same
      have value : x.1 = y.1 := by
        rw [← Nat.ofDigitChars_ten_toDigits (n := x.1), number, Nat.ofDigitChars_ten_toDigits]
      rw [Prod.ext value unit, ih (fun q member => units q (List.mem_cons_of_mem x member))
        (fun q member => units' q (List.mem_cons_of_mem y member)) same]

def positive (ns : List Nat) (units : List (List Char)) : List (Nat × List Char) :=
  (ns.zip units).filter fun q => 0 < q.1

theorem flatMap_positive (ns : List Nat) (units : List (List Char)) :
    (positive ns units).flatMap text = (ns.zip units).flatMap fun q => if 0 < q.1 then text q else [] := by
  rw [positive]
  induction ns.zip units with
  | nil => rfl
  | cons q qs ih =>
    rw [List.flatMap_cons, ← ih]
    by_cases nonzero : 0 < q.1 <;> simp [nonzero]

theorem unit_of_mem_positive (member : q ∈ positive ns units) : 0 < q.1 ∧ q.2 ∈ units := by
  obtain ⟨pair, nonzero⟩ := List.mem_filter.mp member
  exact ⟨of_decide_eq_true nonzero, (List.of_mem_zip pair).2⟩

/-- What the quantities add up to, with a value for each unit. -/
def total (value : List Char → Nat) (qs : List (Nat × List Char)) : Nat := (qs.map fun q => q.1 * value q.2).sum

theorem total_cons (value : List Char → Nat) (q : Nat × List Char) (qs : List (Nat × List Char)) :
    total value (q :: qs) = q.1 * value q.2 + total value qs := by
  rw [total, List.map_cons, List.sum_cons, total]

theorem total_positive (value : List Char → Nat) (ns : List Nat) (units : List (List Char)) :
    total value (positive ns units) = total value (ns.zip units) := by
  rw [positive]
  induction ns.zip units with
  | nil => rfl
  | cons q qs ih =>
    rw [total_cons, ← ih]
    by_cases nonzero : 0 < q.1
    · simp [nonzero, total_cons]
    · simp [Nat.eq_zero_of_not_pos nonzero]

end Quantities
