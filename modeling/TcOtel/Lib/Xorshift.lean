import Mathlib.Data.BitVec
import Mathlib.Tactic

/-!
# Xorshift generators

A generator whose step is three times a word xor itself, shifted. Each of the three is linear
over the bits and has no kernel, so that a generator that does not start at zero never gets
there.
-/

namespace Xorshifts

variable {w : Nat}

/-- One step with the shifts `a` and `c` to the left and `b` to the right. -/
def next (a b c : Nat) (x : BitVec w) : BitVec w :=
  let y := x ^^^ (x <<< a)
  let z := y ^^^ (y >>> b)
  z ^^^ (z <<< c)

theorem eq_zero_of_xor_shiftLeft (positive : 0 < k) (zero : x ^^^ (x <<< k) = 0#w) : x = 0#w := by
  apply BitVec.eq_of_getLsbD_eq
  intro i
  -- from the low bits up: a bit is that of the shifted word, which is a lower one
  induction i using Nat.strong_induction_on with
  | _ i ih =>
    intro inside
    have bit := congrArg (·.getLsbD i) zero
    simp only [BitVec.getLsbD_xor, BitVec.getLsbD_shiftLeft] at bit
    by_cases low : i < k
    · simpa [low] using bit
    · have before := ih (i - k) (by omega) (by omega)
      simpa [before] using bit

theorem eq_zero_of_xor_ushiftRight (positive : 0 < k) (zero : x ^^^ (x >>> k) = 0#w) : x = 0#w := by
  -- from the high bits down, by the distance to the end of the word
  have all : ∀ distance i, w - i ≤ distance → x.getLsbD i = false := by
    intro distance
    induction distance with
    | zero => exact fun i behind => BitVec.getLsbD_of_ge _ _ (by omega)
    | succ distance ih =>
      intro i near
      have bit := congrArg (·.getLsbD i) zero
      simp only [BitVec.getLsbD_xor, BitVec.getLsbD_ushiftRight, BitVec.getLsbD_zero] at bit
      by_cases inside : i < w
      · rwa [ih (k + i) (by omega), Bool.xor_false] at bit
      · exact BitVec.getLsbD_of_ge _ _ (by omega)
  apply BitVec.eq_of_getLsbD_eq
  intro i _
  rw [all _ i (Nat.le_refl _), BitVec.getLsbD_zero]

theorem next_ne_zero (first : 0 < a) (second : 0 < b) (third : 0 < c)
    (start : x ≠ 0#w) : next a b c x ≠ 0#w := by
  intro zero
  have shifted := eq_zero_of_xor_shiftLeft third zero
  have mixed := eq_zero_of_xor_ushiftRight second shifted
  exact start (eq_zero_of_xor_shiftLeft first mixed)

theorem next_xor (a b c : Nat) (x y : BitVec w) : next a b c (x ^^^ y) = next a b c x ^^^ next a b c y := by
  simp only [next, BitVec.shiftLeft_xor_distrib, BitVec.ushiftRight_xor_distrib]
  ac_rfl

theorem next_injective (first : 0 < a) (second : 0 < b) (third : 0 < c) :
    Function.Injective (next a b c : BitVec w → BitVec w) := by
  intro x y same
  by_contra differ
  have apart : x ^^^ y ≠ 0#w := fun zero => differ (BitVec.xor_eq_zero_iff.mp zero)
  exact next_ne_zero first second third apart (by rw [next_xor, same, BitVec.xor_self])

end Xorshifts
