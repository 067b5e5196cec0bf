import TcOtel.Lib.Refinement

/-!
# Runs without the events of others

A component takes events, some of which come from others. Whether an event is foreign may depend on
the state that it meets, for one that only says "take the next of the queue". `purge` leaves the
foreign ones out.

The rules are those of unwinding: a relation that a foreign event on one side keeps, and an own
event on both, relates every run to the run without the foreign events (`run_purge`). So two runs
that agree on the own events show the same (`shows_eq_of_purge_eq`).
-/

namespace Unwinding

open Refining

variable {σ ε ω : Type}

def purge (step : σ → ε → σ) (foreign : σ → ε → Bool) : σ → List ε → List ε
  | _, [] => []
  | s, e :: es => if foreign s e then purge step foreign (step s e) es else e :: purge step foreign (step s e) es

section

variable {step : σ → ε → σ} {foreign : σ → ε → Bool} {ok : σ → ε → Prop} {rel : σ → σ → Prop}

/-- `t` is the state of the run that the foreign events are left out of. -/
theorem run_purge (skips : ∀ s t e, rel s t → foreign s e = true → ok s e → rel (step s e) t)
    (follows : ∀ s t e, rel s t → foreign s e = false → ok s e → rel (step s e) (step t e))
    (start : rel s t) (allowed : Allowed step ok s events) :
    rel (events.foldl step s) ((purge step foreign s events).foldl step t) := by
  induction events generalizing s t with
  | nil => exact start
  | cons e es ih =>
    obtain ⟨here, later⟩ := allowed
    cases is : foreign s e with
    | true =>
      rw [purge, is]
      exact ih (skips s t e start is here) later
    | false =>
      rw [purge, is]
      exact ih (follows s t e start is here) later

theorem shows_eq_of_purge_eq (shows : σ → ω)
    (skips : ∀ s t e, rel s t → foreign s e = true → ok s e → rel (step s e) t)
    (follows : ∀ s t e, rel s t → foreign s e = false → ok s e → rel (step s e) (step t e))
    (visible : ∀ s t, rel s t → shows s = shows t) (start : rel s s)
    (allowed : Allowed step ok s events) (allowedOthers : Allowed step ok s others)
    (agree : purge step foreign s events = purge step foreign s others) :
    shows (events.foldl step s) = shows (others.foldl step s) := by
  have first := visible _ _ (run_purge skips follows start allowed)
  have second := visible _ _ (run_purge skips follows start allowedOthers)
  rw [first, second, agree]

end

end Unwinding
