import Mathlib.Data.List.DropRight
import Mathlib.Data.List.OfFn
import Mathlib.Tactic

/-!
# Ring buffers

A ring of `n` cells keeps the last `n` values that were pushed. `head` is the cell that is
written next and `count` the number of cells in use, so that the oldest value stands `count`
cells before the head. What a ring holds (`contents`) is read from the oldest value on.
-/

namespace Rings

structure Ring (α : Type) (n : Nat) where
  cells : Fin n → α
  head : Fin n
  count : Nat
  count_le : count ≤ n

namespace Ring

variable {α : Type} {n : Nat}

def next (i : Fin n) : Fin n :=
  if inside : i.val + 1 < n then ⟨i.val + 1, inside⟩ else ⟨0, Nat.lt_of_le_of_lt (Nat.zero_le _) i.isLt⟩

/-- Write at the head. A ring that is full loses its oldest value. -/
def push (x : α) (r : Ring α n) : Ring α n where
  cells := Function.update r.cells r.head x
  head := next r.head
  count := if r.count < n then r.count + 1 else r.count
  count_le := by have := r.count_le; split <;> omega

/-- Forget the values. The cells keep what is in them. -/
def clear (r : Ring α n) : Ring α n where
  cells := r.cells
  head := ⟨0, Nat.lt_of_le_of_lt (Nat.zero_le _) r.head.isLt⟩
  count := 0
  count_le := Nat.zero_le _

def oldest (r : Ring α n) : Nat :=
  if r.count ≥ n then r.head
  else if r.count > r.head then n - (r.count - r.head)
  else r.head - r.count

def position (r : Ring α n) (i : Nat) : Nat :=
  if r.oldest + i ≥ n then r.oldest + i - n else r.oldest + i

theorem wrap_eq_mod (below : a < 2 * n) : (if a ≥ n then a - n else a) = a % n := by
  split
  case isTrue beyond => rw [Nat.mod_eq_sub_mod beyond, Nat.mod_eq_of_lt (by omega)]
  case isFalse inside => rw [Nat.mod_eq_of_lt (by omega)]

/-- The values in use are the `count` cells before the head, around the end of the ring. -/
theorem position_eq_mod (r : Ring α n) (used : i < r.count) :
    r.position i = (r.head + (n - r.count) + i) % n := by
  have := r.count_le
  have start : r.oldest = (r.head + (n - r.count)) % n := by
    rw [← wrap_eq_mod (by omega), oldest]
    split_ifs <;> omega
  have below : r.oldest < n := start ▸ Nat.mod_lt _ (by omega)
  rw [position, wrap_eq_mod (by omega), start, Nat.mod_add_mod]

theorem position_lt (r : Ring α n) (used : i < r.count) : r.position i < n := by
  rw [r.position_eq_mod used]
  exact Nat.mod_lt _ (Nat.lt_of_lt_of_le (Nat.zero_lt_of_lt used) r.count_le)

def contents (r : Ring α n) : List α :=
  List.ofFn fun i : Fin r.count => r.cells ⟨r.position i, r.position_lt i.isLt⟩

@[simp] theorem length_contents (r : Ring α n) : r.contents.length = r.count := List.length_ofFn

theorem get_contents (r : Ring α n) (used : i < r.count) :
    r.contents[i]? = some (r.cells ⟨r.position i, r.position_lt used⟩) := by
  simp [contents, used]

@[simp] theorem contents_clear (r : Ring α n) : r.clear.contents = [] := rfl

/-! ### A push drops at most the oldest value -/

theorem val_next (i : Fin n) : (next i).val = (i.val + 1) % n := by
  rw [next, ← wrap_eq_mod (by omega)]
  split_ifs <;> grind

def lost (r : Ring α n) : Nat := if r.count < n then 0 else 1

section

variable (r : Ring α n) (x : α)

theorem count_push : (r.push x).count + r.lost = r.count + 1 := by
  simp only [push, lost]
  split <;> omega

theorem position_push (used : i < (r.push x).count) :
    (r.push x).position i = (r.head + (n - r.count + (i + r.lost))) % n := by
  have counts := r.count_push x
  have := r.count_le
  have := (r.push x).count_le
  have head : (r.push x).head = next r.head := rfl
  have distance : r.head + 1 + (n - (r.push x).count) + i = r.head + (n - r.count + (i + r.lost)) := by
    omega
  rw [position_eq_mod _ used, head, val_next, Nat.add_assoc, Nat.mod_add_mod, ← Nat.add_assoc, distance]

theorem position_push_kept (kept : i + r.lost < r.count) :
    (r.push x).position i = r.position (i + r.lost) ∧ r.position (i + r.lost) ≠ r.head := by
  have counts := r.count_push x
  have whole := r.position_eq_mod kept
  rw [Nat.add_assoc] at whole
  refine ⟨by rw [r.position_push x (by omega), whole], ?_⟩
  -- from the head it is less than once around the ring to the cell
  have away : 0 < n - r.count + (i + r.lost) := by
    rw [lost]
    split <;> omega
  have := r.count_le
  rw [whole, ← wrap_eq_mod (by omega)]
  split <;> omega

theorem position_push_last (last : i + r.lost = r.count) : (r.push x).position i = r.head := by
  have counts := r.count_push x
  have around : n - r.count + (i + r.lost) = n := by
    have := r.count_le
    omega
  rw [r.position_push x (by omega), around, Nat.add_mod_right, Nat.mod_eq_of_lt r.head.isLt]

theorem contents_push : (r.push x).contents = (r.contents ++ [x]).rtake n := by
  have counts := r.count_push x
  have start : (r.contents ++ [x]).length - n = r.lost := by
    have := r.count_le
    simp only [List.length_append, List.length_singleton, length_contents, lost]
    split <;> omega
  rw [List.rtake, start]
  apply List.ext_getElem?
  intro i
  rw [List.getElem?_drop, Nat.add_comm r.lost i]
  rcases Nat.lt_trichotomy (i + r.lost) r.count with kept | last | outside
  · obtain ⟨same, other⟩ := r.position_push_kept x kept
    rw [get_contents _ (by omega), List.getElem?_append_left (by simpa using kept), get_contents _ kept]
    have cell : (⟨(r.push x).position i, (r.push x).position_lt (by omega)⟩ : Fin n) =
        ⟨r.position (i + r.lost), r.position_lt kept⟩ := Fin.ext same
    rw [cell]
    exact congrArg some (Function.update_of_ne (fun here => other (congrArg Fin.val here)) _ _)
  · have cell : (⟨(r.push x).position i, (r.push x).position_lt (by omega)⟩ : Fin n) = r.head :=
      Fin.ext (r.position_push_last x last)
    rw [get_contents _ (by omega), cell, last]
    simp [push]
  · rw [List.getElem?_eq_none (by rw [length_contents]; omega),
      List.getElem?_eq_none (by simp only [List.length_append, length_contents, List.length_singleton]; omega)]

end

end Ring

/-! ### Keeping the last values of a list -/

variable {α β : Type}

theorem map_rtake (f : α → β) (xs : List α) (n : Nat) : (xs.rtake n).map f = (xs.map f).rtake n := by
  simp [List.rtake]

theorem rtake_rtake_concat (xs : List α) (x : α) (n : Nat) :
    (xs.rtake n ++ [x]).rtake n = (xs ++ [x]).rtake n := by
  simp only [List.rtake]
  by_cases short : xs.length ≤ n
  · rw [Nat.sub_eq_zero_of_le short, List.drop_zero]
  · rw [← List.drop_append_of_le_length (by omega), List.drop_drop]
    congr 1
    simp only [List.length_drop, List.length_append]
    omega

theorem Ring.map_contents_push {r : Ring α n} {f : α → β} (same : r.contents.map f = xs.rtake n) (x : α) :
    (r.push x).contents.map f = (xs ++ [f x]).rtake n := by
  rw [contents_push, map_rtake, List.map_append, same]
  exact rtake_rtake_concat xs (f x) n

end Rings
