import Mathlib.Data.List.Basic
import Mathlib.Tactic

/-!
# Sliding windows

Times at which something was let through, the latest one at the end. A limiter that keeps only
those of the last `width` loses nothing it will ask for, since the clock does not run backwards
(`recent_recent`). If fewer than `limit` were in the window each time, no interval of that width
has more than `limit` (`Limited.length_filter_le`).
-/

namespace Rates

def recent (width now : Nat) (times : List Nat) : List Nat := times.filter fun t => now - t < width

theorem recent_append (width now : Nat) (times later : List Nat) :
    recent width now (times ++ later) = recent width now times ++ recent width now later :=
  List.filter_append ..

theorem recent_recent (ordered : now ≤ later) (times : List Nat) :
    recent width later (recent width now times) = recent width later times := by
  rw [recent, recent, List.filter_filter]
  apply List.filter_congr
  intro t _
  rw [Bool.and_eq_left_iff_imp]
  intro counts
  have inWindow := of_decide_eq_true counts
  exact decide_eq_true (by omega)

/-- Each time there were fewer than `limit` in the window before. -/
def Limited (width limit : Nat) (times : List Nat) : Prop :=
  ∀ before t, before ++ [t] <+: times → (recent width t before).length < limit

theorem Limited.nil (width limit : Nat) : Limited width limit [] := by
  intro before t here
  have empty := List.prefix_nil.mp here
  cases before <;> cases empty

theorem Limited.concat (limited : Limited width limit times)
    (fewer : (recent width t times).length < limit) : Limited width limit (times ++ [t]) := by
  intro before u here
  rcases List.prefix_concat_iff.mp here with whole | earlier
  · obtain ⟨rfl, rfl⟩ := List.append_inj' whole rfl |>.imp_right List.singleton_inj.mp
    exact fewer
  · exact limited before u earlier

theorem Limited.of_prefix (limited : Limited width limit times)
    (here : before <+: times) : Limited width limit before :=
  fun earlier t inside => limited earlier t (inside.trans here)

theorem Limited.length_filter_le (limited : Limited width limit times)
    (start : Nat) : (times.filter fun t => start ≤ t ∧ t < start + width).length ≤ limit := by
  induction times using List.reverseRecOn with
  | nil => exact Nat.zero_le _
  | append_singleton times t ih =>
    have before := ih (limited.of_prefix (List.prefix_append times [t]))
    rw [List.filter_append, List.length_append]
    by_cases inside : start ≤ t ∧ t < start + width
    · -- all that are in the interval with `t` were in its window
      have counted : (times.filter fun u => start ≤ u ∧ u < start + width).length ≤ (recent width t times).length := by
        apply (List.monotone_filter_right times _).length_le
        intro u member
        have bounds := of_decide_eq_true member
        exact decide_eq_true (by omega)
      have fewer := limited times t (List.prefix_refl _)
      rw [List.filter_cons_of_pos (by simpa using inside)]
      simp only [List.filter_nil, List.length_singleton]
      omega
    · rw [List.filter_cons_of_neg (by simpa using inside)]
      simpa using before

end Rates
