import TcOtel.Lib.Pool

/-!
# What is seen of a run

Some actions of the threads of a pool have an effect that can be seen: a value is written, a message is
sent. The history of a run is the list of these effects. A variable that is only written by such actions
holds what was written last (`read_run`), and what two kinds of actions do, of which every thread takes one
after the other, is balanced but for the threads that are in between (`length_history`).
-/

namespace Pools.System

variable {σ τ ι χ γ α β : Type} {sys : System σ τ ι χ γ} {p : Pool σ τ}

def seen (f : σ → τ → Option α) (p : Pool σ τ) : Event ι χ γ → Option α
  | .act i _ => p.threads[i]?.bind (f p.shared)
  | .start _ | .ambient _ => none

def history (sys : System σ τ ι χ γ) (f : σ → τ → Option α) : Pool σ τ → List (Event ι χ γ) → List α
  | _, [] => []
  | p, event :: later => (seen f p event).toList ++ sys.history f (sys.step p event) later

/-- An action is seen only when it is taken. -/
def Observes (sys : System σ τ ι χ γ) (f : σ → τ → Option α) : Prop :=
  ∀ i s t choice, sys.act i s t choice = none → f s t = none

variable {f : σ → τ → Option α}

theorem seen_act (present : p.threads[i]? = some t) :
    seen f p (.act i choice : Event ι χ γ) = f p.shared t := by
  simp [seen, present]

theorem seen_idle (observes : sys.Observes f)
    (idle : ∀ t, p.threads[i]? = some t → sys.act i p.shared t choice = none) :
    seen f p (.act i choice : Event ι χ γ) = none := by
  cases present : p.threads[i]? with
  | none => simp [seen, present]
  | some t => exact (seen_act present).trans (observes i p.shared t choice (idle t present))

/-- A part of the shared state that only visible actions write holds what was written last. -/
theorem read_run (observes : sys.Observes f) {read : σ → α}
    (acts : ∀ i s t choice s' t', sys.act i s t choice = some (s', t') → read s' = (f s t).getD (read s))
    (ambients : ∀ s event, read (sys.ambient s event) = read s) (schedule : List (Event ι χ γ)) :
    read (sys.run p schedule).shared = (sys.history f p schedule).getLast?.getD (read p.shared) := by
  induction schedule generalizing p with
  | nil => rfl
  | cons event schedule ih =>
    have next : read (sys.step p event).shared = (seen f p event).getD (read p.shared) := by
      cases event with
      | start input => rfl
      | ambient event => exact ambients p.shared event
      | act i choice =>
        rcases sys.act_or_idle p i choice with ⟨same, idle⟩ | ⟨t, s, t', present, acted, stepped⟩
        · rw [same, seen_idle observes idle]
          rfl
        · rw [stepped, seen_act present]
          exact acts i p.shared t choice s t' acted
    rw [run_cons, ih, next, history, List.getLast?_append]
    cases seen f p event <;> cases (sys.history f (sys.step p event) schedule).getLast? <;> rfl

/-- If every thread between two kinds of actions counts as one, what has been seen of the first kind is
what has been seen of the second, and the threads in between. -/
theorem length_history
    (observes : sys.Observes f) (observesOther : sys.Observes g) (starts : ∀ input, between (sys.fresh input) = 0)
    (acts : ∀ i s t choice s' t', sys.act i s t choice = some (s', t') →
      (f s t).toList.length + between t = (g s t).toList.length + between t') (schedule : List (Event ι χ γ)) :
    (sys.history f p schedule).length + weight between p.threads =
      (sys.history g p schedule).length + weight between (sys.run p schedule).threads := by
  induction schedule generalizing p with
  | nil => rfl
  | cons event schedule ih =>
    have next : (seen f p event).toList.length + weight between p.threads =
        (seen g p event).toList.length + weight between (sys.step p event).threads := by
      cases event with
      | start input =>
        change 0 + _ = 0 + weight between (p.threads ++ [sys.fresh input])
        rw [weight_start, starts input, Nat.add_zero]
      | ambient event => rfl
      | act i choice =>
        rcases sys.act_or_idle p i choice with ⟨same, idle⟩ | ⟨t, s, t', present, acted, stepped⟩
        · rw [same, seen_idle observes idle, seen_idle observesOther idle]
          rfl
        · have moved := weight_set between present t'
          have balance := acts i p.shared t choice s t' acted
          rw [stepped, seen_act present, seen_act present]
          change _ = _ + weight between (p.threads.set i t')
          omega
    have later := @ih (sys.step p event)
    rw [run_cons, history, history, List.length_append, List.length_append]
    omega

end Pools.System
