import Mathlib.Logic.Relation
import Mathlib.Tactic

/-!
# Loops with a budget

A loop is a step function that yields the next state or halts with a result. `run` is the
loop as it is executed, with a budget of rounds; `Ends` is what the loop means without one.
When some measure falls in every round the two agree (`run_eq_some_iff`), so that a proof
about a loop never has to mention the budget again.
-/

namespace Looping

variable {σ ρ : Type}

inductive Step (σ ρ : Type) where
  | next (state : σ)
  | halt (result : ρ)
deriving DecidableEq, Repr

def run (step : σ → Step σ ρ) : Nat → σ → Option ρ
  | 0, _ => none
  | n + 1, s =>
    match step s with
    | .next s' => run step n s'
    | .halt r => some r

def visited (step : σ → Step σ ρ) : Nat → σ → List σ
  | 0, _ => []
  | n + 1, s =>
    s :: match step s with
      | .next s' => visited step n s'
      | .halt _ => []

abbrev Reaches (step : σ → Step σ ρ) : σ → σ → Prop :=
  Relation.ReflTransGen fun s s' => step s = .next s'

def Ends (step : σ → Step σ ρ) (s : σ) (r : ρ) : Prop :=
  ∃ t, Reaches step s t ∧ step t = .halt r

structure Progress (step : σ → Step σ ρ) (inv : σ → Prop) (measure : σ → Nat) : Prop where
  preserves : ∀ {s s'}, inv s → step s = .next s' → inv s'
  decreases : ∀ {s s'}, inv s → step s = .next s' → measure s' < measure s

variable {step : σ → Step σ ρ} {s s' t : σ} {r r' : ρ}

/-! ### Reached states -/

/-- What holds at the start and is kept by every round holds in every state reached. -/
theorem Reaches.invariant (inv : σ → Prop) (preserves : ∀ {s s'}, inv s → step s = .next s' → inv s')
    (reached : Reaches step s t) (start : inv s) : inv t := by
  induction reached with
  | refl => exact start
  | tail _ moved ih => exact preserves ih moved

theorem Reaches.total (one : Reaches step s t) (two : Reaches step s u) :
    Reaches step t u ∨ Reaches step u t := by
  refine Relation.ReflTransGen.total_of_right_unique ?_ one two
  intro a b c toB toC
  rw [toB] at toC
  cases toC
  rfl

/-! ### What the loop means -/

theorem Ends.of_halt (halts : step s = .halt r) : Ends step s r := ⟨s, .refl, halts⟩

theorem Ends.next_iff (moved : step s = .next s') : Ends step s r ↔ Ends step s' r := by
  constructor
  · rintro ⟨t, reached, halts⟩
    rcases reached.cases_head with rfl | ⟨other, first, rest⟩
    · rw [moved] at halts
      cases halts
    · rw [moved] at first
      cases first
      exact ⟨t, rest, halts⟩
  · rintro ⟨t, reached, halts⟩
    exact ⟨t, reached.head moved, halts⟩

theorem Ends.reaches_iff (reached : Reaches step s t) : Ends step s r ↔ Ends step t r := by
  induction reached with
  | refl => rfl
  | tail _ moved ih => exact ih.trans (Ends.next_iff moved)

theorem Ends.halt_iff (halts : step s = .halt r) : Ends step s r' ↔ r' = r := by
  constructor
  · rintro ⟨t, reached, ended⟩
    rcases reached.cases_head with rfl | ⟨other, first, _⟩
    · rw [halts] at ended
      cases ended
      rfl
    · rw [halts] at first
      cases first
  · rintro rfl
    exact Ends.of_halt halts

theorem Ends.unique (one : Ends step s r) (two : Ends step s r') : r = r' := by
  obtain ⟨t, reached, halts⟩ := one
  exact ((Ends.halt_iff halts).mp ((Ends.reaches_iff reached).mp two)).symm

theorem Reaches.before_halt (reached : Reaches step s t) (final : Reaches step s u)
    (halts : step u = .halt r) : Reaches step t u := by
  have ended : Ends step t r := (Ends.reaches_iff reached).mp ⟨u, final, halts⟩
  induction reached with
  | refl => exact final
  | @tail v w _ moved ih =>
    have onward := ih ((Ends.next_iff moved).mpr ended)
    rcases onward.cases_head with rfl | ⟨other, first, rest⟩
    · rw [moved] at halts
      cases halts
    · rw [moved] at first
      cases first
      exact rest

/-! ### The budget -/

theorem run_ends (ran : run step n s = some r) : Ends step s r := by
  induction n generalizing s with
  | zero => cases ran
  | succ n ih =>
    simp only [run] at ran
    split at ran
    next s' moved => exact (Ends.next_iff moved).mpr (ih ran)
    next halts =>
      cases ran
      exact Ends.of_halt halts

section

variable {inv : σ → Prop} {measure : σ → Nat} (progress : Progress step inv measure)
include progress

theorem run_isSome (start : inv s) (budget : measure s < n) : ∃ r, run step n s = some r := by
  -- a round lowers the measure, so one unit of the budget pays for it
  induction n generalizing s with
  | zero => exact absurd budget (Nat.not_lt_zero _)
  | succ n ih =>
    simp only [run]
    split
    next s' moved =>
      have lower := progress.decreases start moved
      exact ih (progress.preserves start moved) (by omega)
    next r _ => exact ⟨r, rfl⟩

/-- With a budget above the measure, running the loop is what the loop means. -/
theorem run_eq_some_iff (start : inv s) (budget : measure s < n) : run step n s = some r ↔ Ends step s r := by
  refine ⟨run_ends, fun ended => ?_⟩
  obtain ⟨other, ran⟩ := run_isSome progress start budget
  rw [ran, (run_ends ran).unique ended]

theorem visited_length_le (n : Nat) (start : inv s) :
    ((visited step n s).filter fun t => decide (0 < measure t)).length ≤ measure s := by
  induction n generalizing s with
  | zero => exact Nat.zero_le _
  | succ n ih =>
    simp only [visited, List.filter_cons, decide_eq_true_eq]
    cases moved : step s with
    | next s' =>
      have rest := ih (progress.preserves start moved)
      have lower := progress.decreases start moved
      rw [if_pos (by omega)]
      exact Nat.le_trans (Nat.succ_le_succ rest) lower
    | halt r =>
      split
      next positive => exact positive
      · exact Nat.zero_le _

end

end Looping
