import Mathlib.Data.List.Basic
import Mathlib.Tactic

/-!
# Runs of an implementation against its specification

An implementation and a specification take the same inputs. A relation between their states
that every allowed input keeps holds along a run in which every input is allowed. When an input
that is not allowed makes the difference visible, the run is right at every point just when it
has no such input (`shows_iff_allowed`).
-/

namespace Refining

variable {σ α ι : Type}

/-- Every input is allowed in the state to which those before it lead. -/
def Allowed (spec : α → ι → α) (ok : α → ι → Prop) : α → List ι → Prop
  | _, [] => True
  | a, i :: is => ok a i ∧ Allowed spec ok (spec a i) is

instance (spec : α → ι → α) (ok : α → ι → Prop) [∀ a i, Decidable (ok a i)] (a : α) (is : List ι) :
    Decidable (Allowed spec ok a is) :=
  match is with
  | [] => .isTrue trivial
  | i :: is =>
    have := instDecidableAllowed spec ok (spec a i) is
    inferInstanceAs (Decidable (ok a i ∧ Allowed spec ok (spec a i) is))

theorem allowed_of_forall (always : ∀ a i, ok a i) (a : α) (inputs : List ι) : Allowed spec ok a inputs := by
  induction inputs generalizing a with
  | nil => trivial
  | cons i inputs ih => exact ⟨always a i, ih (spec a i)⟩

theorem allowed_append :
    Allowed spec ok a (first ++ second) ↔ Allowed spec ok a first ∧ Allowed spec ok (first.foldl spec a) second := by
  induction first generalizing a with
  | nil => simp [Allowed]
  | cons i first ih => rw [List.cons_append, Allowed, Allowed, ih, List.foldl_cons, and_assoc]

/-- At every point of a run. -/
def Throughout (P : List ι → Prop) (inputs : List ι) : Prop := ∀ before, before <+: inputs → P before

theorem throughout_cons : Throughout P (i :: is) ↔ P [] ∧ Throughout (fun before => P (i :: before)) is := by
  constructor
  · intro all
    exact ⟨all [] List.nil_prefix, fun before here => all _ ((List.prefix_cons_inj i).mpr here)⟩
  · rintro ⟨first, others⟩ before here
    cases before with
    | nil => exact first
    | cons j before =>
      obtain ⟨rfl, inRest⟩ := List.cons_prefix_cons.mp here
      exact others before inRest

section

variable {step : σ → ι → σ} {spec : α → ι → α} {rel shows : σ → α → Prop} {inside : α → Prop}
  {ok : α → ι → Prop}

section

variable (keeps : ∀ s a i, rel s a → inside (spec a i) → ok a i → rel (step s i) (spec a i))
include keeps

theorem throughout_of_allowed (sound : ∀ s a, rel s a → shows s a) (start : rel s a)
    (within : Throughout (fun before => inside (before.foldl spec a)) inputs)
    (allowed : Allowed spec ok a inputs) :
    Throughout (fun before => shows (before.foldl step s) (before.foldl spec a)) inputs := by
  induction inputs generalizing s a with
  | nil =>
    intro before here
    rw [List.prefix_nil.mp here]
    exact sound s a start
  | cons i is ih =>
    obtain ⟨-, later⟩ := throughout_cons.mp within
    have next := keeps s a i start (later [] List.nil_prefix) allowed.1
    exact throughout_cons.mpr ⟨sound s a start, ih next later allowed.2⟩

/-- A run is right at every point just when every input is allowed. -/
theorem shows_iff_allowed (breaks : ∀ s a i, rel s a → inside (spec a i) → ¬ok a i → ¬shows (step s i) (spec a i))
    (sound : ∀ s a, rel s a → shows s a) (start : rel s a)
    (within : Throughout (fun before => inside (before.foldl spec a)) inputs) :
    Throughout (fun before => shows (before.foldl step s) (before.foldl spec a)) inputs ↔
      Allowed spec ok a inputs := by
  constructor
  · intro right
    induction inputs generalizing s a with
    | nil => trivial
    | cons i is ih =>
      obtain ⟨-, later⟩ := throughout_cons.mp within
      obtain ⟨-, right⟩ := throughout_cons.mp right
      have inLimits := later [] List.nil_prefix
      -- the first input that is not allowed would be visible behind it
      have allowed : ok a i := by
        by_contra not
        exact breaks s a i start inLimits not (right [] List.nil_prefix)
      exact ⟨allowed, ih (keeps s a i start inLimits allowed) later right⟩
  · exact throughout_of_allowed keeps sound start within

end

end

/-- A property that one input keeps just when it is allowed holds at every point of a run just when
all inputs are allowed. -/
theorem throughout_iff_allowed {step : σ → ι → σ} {good : σ → Prop}
    (stays : ∀ s i, good s → (good (step s i) ↔ ok s i)) (start : good s) :
    Throughout (fun before => good (before.foldl step s)) inputs ↔ Allowed step ok s inputs := by
  induction inputs generalizing s with
  | nil =>
    refine iff_of_true (fun before here => ?_) trivial
    rw [List.prefix_nil.mp here]
    exact start
  | cons i is ih =>
    rw [throughout_cons, Allowed, ← stays s i start]
    constructor
    · rintro ⟨-, later⟩
      have next := later [] List.nil_prefix
      exact ⟨next, (ih next).mp later⟩
    · rintro ⟨next, allowed⟩
      exact ⟨start, (ih next).mpr allowed⟩

/-- A property that stays just when the input is allowed holds behind a run just when all inputs
were allowed. `inv` is what is known of every state on the way. -/
theorem holds_iff_allowed {step : σ → ι → σ} {inv good : σ → Prop} {ok : σ → ι → Prop}
    (keeps : ∀ s i, inv s → inv (step s i)) (stays : ∀ s i, inv s → (good (step s i) ↔ good s ∧ ok s i))
    {s : σ} (start : inv s) (inputs : List ι) :
    good (inputs.foldl step s) ↔ good s ∧ Allowed step ok s inputs := by
  induction inputs generalizing s with
  | nil => simp [Allowed]
  | cons i is ih => rw [List.foldl_cons, ih (keeps s i start), stays s i start, Allowed, and_assoc]

end Refining
