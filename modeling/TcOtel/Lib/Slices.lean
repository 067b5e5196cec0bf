import Mathlib.Data.List.DropRight
import TcOtel.Lib.Memory

/-!
# Computations that index and slice

A computation on byte strings may end early without a value, or stop at an index or a slice
that is out of bounds. `ofOption` has the computations that never do the latter: a computation
that is equal to one of them stays in bounds, on the input at hand, and the equation says what
it returns. `bind_eq_ofOption` splits such an equation at a bind.
-/

namespace Slicing

open Memory

/-- How a computation ends: with a value, early and without one, or at a slice out of bounds. -/
inductive Sliced (α : Type) where
  | done (a : α)
  | refused
  | outOfBounds (start stop length : Nat)
deriving DecidableEq

variable {α β σ : Type}

namespace Sliced

instance : Monad Sliced where
  pure := done
  bind x f :=
    match x with
    | done a => f a
    | refused => refused
    | outOfBounds start stop length => outOfBounds start stop length

@[simp] theorem done_bind (a : α) (f : α → Sliced β) : (done a >>= f) = f a := rfl

def refuseIf (c : Prop) [Decidable c] : Sliced Unit := if c then refused else done ()

def ofOption : Option α → Sliced α
  | some a => done a
  | none => refused

def index (bytes : List α) (i : Nat) : Sliced α :=
  match bytes[i]? with
  | some b => done b
  | none => outOfBounds i (i + 1) bytes.length

def slice (bytes : List α) (start stop : Nat) : Sliced (List α) :=
  if start ≤ stop ∧ stop ≤ bytes.length then done (extract bytes start (stop - start))
  else outOfBounds start stop bytes.length

def forRange (n : Nat) (step : Nat → σ → Sliced σ) (s : σ) : Sliced σ :=
  match n with
  | 0 => done s
  | n + 1 => forRange n step s >>= step n

theorem index_eq {bytes : List UInt8} (inside : i < bytes.length) : index bytes i = done (bytes.getD i 0) := by
  simp [index, List.getElem?_eq_getElem inside]

theorem slice_eq (inside : start + count ≤ bytes.length) :
    slice bytes start (start + count) = done (extract bytes start count) := by
  rw [slice, if_pos ⟨Nat.le_add_right start count, inside⟩, Nat.add_sub_cancel_left]

theorem refuseIf_eq {c d : Prop} [Decidable c] [Decidable d] (opposite : c ↔ ¬d) :
    refuseIf c = ofOption (guard d) := by
  by_cases holds : d <;> simp [refuseIf, ofOption, holds, opposite]

theorem bind_eq_ofOption (first : p = ofOption x) (rest : ∀ a, x = some a → f a = ofOption (g a)) :
    (p >>= f) = ofOption (x >>= g) := by
  subst first
  cases x with
  | none => rfl
  | some a => exact rest a rfl

/-- A loop whose rounds stay in bounds folds. -/
theorem forRange_eq (round : ∀ i < n, ∀ s, step i s = done (next s i)) (s : σ) :
    forRange n step s = done ((List.range n).foldl next s) := by
  induction n with
  | zero => rfl
  | succ n ih =>
    have before := ih fun i below => round i (Nat.lt_succ_of_lt below)
    rw [forRange, before, done_bind, round n (Nat.lt_succ_self n), List.range_succ, List.foldl_concat]

theorem foldl_push (f : Nat → α) (n : Nat) :
    (List.range n).foldl (fun values i => values ++ [f i]) [] = (List.range n).map f := by
  induction n with
  | zero => rfl
  | succ n ih => rw [List.range_succ, List.foldl_concat, ih, List.map_append, List.map_singleton]

end Sliced

/-! ### Machine words -/

def checkedAdd (a b : Nat) : Option Nat := if a + b < 2 ^ 64 then some (a + b) else none

def checkedMul (a b : Nat) : Option Nat := if a * b < 2 ^ 64 then some (a * b) else none

/-- `a + b` of a `usize`, which wraps in a release build. -/
def wrappingAdd (a b : Nat) : Nat := (a + b) % 2 ^ 64

theorem wrappingAdd_eq (small : a + b < 2 ^ 64) : wrappingAdd a b = a + b := Nat.mod_eq_of_lt small

/-! ### The last place -/

def rposition (p : α → Bool) : List α → Option Nat
  | [] => none
  | x :: xs =>
    match rposition p xs with
    | some i => some (i + 1)
    | none => if p x then some 0 else none

theorem rdropWhile_cons (q : α → Bool) (x : α) (xs : List α) : (x :: xs).rdropWhile q =
      if (xs.rdropWhile q).isEmpty then (if q x then [] else [x]) else x :: xs.rdropWhile q := by
  simp only [List.rdropWhile, List.reverse_cons, List.dropWhile_append, List.isEmpty_reverse]
  split
  · cases holds : q x <;> simp [holds]
  · simp

theorem lt_of_rposition (found : rposition p xs = some i) : i < xs.length := by
  induction xs generalizing i with
  | nil => cases found
  | cons x xs ih =>
    rw [rposition] at found
    split at found
    next j later =>
      obtain rfl := Option.some.inj found
      exact Nat.succ_lt_succ (ih later)
    · split at found
      · obtain rfl := Option.some.inj found
        exact Nat.zero_lt_succ _
      · cases found

theorem rdropWhile_eq_take (p : α → Bool) (xs : List α) :
    xs.rdropWhile (fun x => !p x) = xs.take (((rposition p xs).map (· + 1)).getD 0) := by
  induction xs with
  | nil => rfl
  | cons x xs ih =>
    rw [rdropWhile_cons, ih, rposition]
    cases later : rposition p xs with
    | none => cases p x <;> simp
    | some i =>
      have some_ : xs ≠ [] := by
        rintro rfl
        cases later
      simp [some_]

end Slicing
