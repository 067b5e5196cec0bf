import Mathlib.Algebra.BigOperators.Group.Finset.Basic
import Mathlib.Algebra.BigOperators.Group.List.Basic
import Mathlib.Data.List.Basic
import Mathlib.Tactic

/-!
# Threads over a shared state

Threads start at any time and take their atomic actions in any order; events from outside change
the shared state between them. A schedule is the list of what happens, one after the other, so
that a statement for every schedule is one for every interleaving.

Most invariants of such a system say that a shared number is a sum over the threads. `weight` is
that sum, and `weight_set` says what one action does to it.
-/

namespace Pools

/-- The shared state and the threads, the one that started first at the front. -/
structure Pool (σ τ : Type) where
  shared : σ
  threads : List τ

/-- How a thread starts, what its next action does (`none` when it has none to take) and what an
event from outside does. A thread is known by its place in the pool. -/
structure System (σ τ ι χ γ : Type) where
  fresh : ι → τ
  act : Nat → σ → τ → χ → Option (σ × τ)
  ambient : σ → γ → σ

inductive Event (ι χ γ : Type) where
  | start (input : ι)
  | act (thread : Nat) (choice : χ)
  | ambient (event : γ)

variable {σ τ ι χ γ : Type}

namespace System

def step (sys : System σ τ ι χ γ) (p : Pool σ τ) : Event ι χ γ → Pool σ τ
  | .start input => ⟨p.shared, p.threads ++ [sys.fresh input]⟩
  | .act i choice =>
    match p.threads[i]? with
    | none => p
    | some t =>
      match sys.act i p.shared t choice with
      | none => p
      | some (s, t') => ⟨s, p.threads.set i t'⟩
  | .ambient event => ⟨sys.ambient p.shared event, p.threads⟩

def run (sys : System σ τ ι χ γ) (p : Pool σ τ) (schedule : List (Event ι χ γ)) : Pool σ τ :=
  schedule.foldl sys.step p

variable {sys : System σ τ ι χ γ} {p : Pool σ τ}

theorem run_append (schedule later : List (Event ι χ γ)) :
    sys.run p (schedule ++ later) = sys.run (sys.run p schedule) later :=
  List.foldl_append

theorem run_cons (event : Event ι χ γ) (later : List (Event ι χ γ)) :
    sys.run p (event :: later) = sys.run (sys.step p event) later := rfl

theorem step_act (present : p.threads[i]? = some t)
    (acted : sys.act i p.shared t choice = some (s, t')) : sys.step p (.act i choice) = ⟨s, p.threads.set i t'⟩ := by
  simp [step, present, acted]

theorem act_or_idle (sys : System σ τ ι χ γ) (p : Pool σ τ) (i : Nat) (choice : χ) :
    (sys.step p (.act i choice) = p ∧ ∀ t, p.threads[i]? = some t → sys.act i p.shared t choice = none) ∨
      ∃ t s t', p.threads[i]? = some t ∧ sys.act i p.shared t choice = some (s, t') ∧
        sys.step p (.act i choice) = ⟨s, p.threads.set i t'⟩ := by
  cases present : p.threads[i]? with
  | none => exact .inl ⟨by simp only [step, present], by rintro t ⟨⟩⟩
  | some t =>
    cases acted : sys.act i p.shared t choice with
    | none =>
      refine .inl ⟨by simp only [step, present, acted], ?_⟩
      rintro other ⟨rfl⟩
      exact acted
    | some result => exact .inr ⟨t, result.1, result.2, rfl, acted, step_act present acted⟩

theorem forall_mem_set {threads : List τ} {P : τ → Prop} (all : ∀ t ∈ threads, P t) (acted : P t') (i : Nat) :
    ∀ t ∈ threads.set i t', P t := by
  intro t member
  rcases List.mem_or_eq_of_mem_set member with before | rfl
  · exact all t before
  · exact acted

theorem run_invariant (inv : Pool σ τ → Prop)
    (starts : ∀ p input, inv p → inv ⟨p.shared, p.threads ++ [sys.fresh input]⟩)
    (acts : ∀ p i t choice s t', inv p → p.threads[i]? = some t → sys.act i p.shared t choice = some (s, t') →
      inv ⟨s, p.threads.set i t'⟩) (ambients : ∀ p event, inv p → inv ⟨sys.ambient p.shared event, p.threads⟩)
    (initially : inv p) (schedule : List (Event ι χ γ)) : inv (sys.run p schedule) := by
  induction schedule generalizing p with
  | nil => exact initially
  | cons event schedule ih =>
    apply ih
    cases event with
    | start input => exact starts p input initially
    | act i choice =>
      rcases sys.act_or_idle p i choice with ⟨same, -⟩ | ⟨t, s, t', present, acted, stepped⟩
      · rwa [same]
      · rw [stepped]
        exact acts p i t choice s t' initially present acted
    | ambient event => exact ambients p event initially

/-- A thread that has what its own actions keep, keeps it along every schedule. -/
theorem run_stable (sys : System σ τ ι χ γ) (keep : τ → Prop)
    (acts : ∀ i s t choice s' t', keep t → sys.act i s t choice = some (s', t') → keep t')
    {i : Nat} (present : p.threads[i]? = some t) (kept : keep t) (schedule : List (Event ι χ γ)) :
    ∃ t', (sys.run p schedule).threads[i]? = some t' ∧ keep t' := by
  refine run_invariant (fun p => ∃ t', p.threads[i]? = some t' ∧ keep t') ?_ ?_ ?_ ⟨t, present, kept⟩ schedule
  · rintro p input ⟨t', present, kept⟩
    have inside := (List.getElem?_eq_some_iff.mp present).1
    exact ⟨t', (List.getElem?_append_left inside).trans present, kept⟩
  · rintro p j u choice s u' ⟨t', present, kept⟩ acting acted
    by_cases own : j = i
    · subst own
      rw [acting] at present
      cases present
      refine ⟨u', ?_, acts j p.shared u choice s u' kept acted⟩
      exact List.getElem?_set_self (List.getElem?_eq_some_iff.mp acting).1
    · exact ⟨t', (List.getElem?_set_ne own).trans present, kept⟩
  · rintro p event ⟨t', present, kept⟩
    exact ⟨t', present, kept⟩

end System

/-! ### Sums over the threads -/

/-- The sum of a measure over all threads. -/
def weight (f : τ → Nat) (threads : List τ) : Nat := (threads.map f).sum

@[simp] theorem weight_nil (f : τ → Nat) : weight f [] = 0 := rfl

theorem weight_start (f : τ → Nat) (threads : List τ) (t : τ) :
    weight f (threads ++ [t]) = weight f threads + f t := by
  simp [weight]

variable {threads : List τ}

theorem weight_set (f : τ → Nat) (present : threads[i]? = some t) (t' : τ) :
    weight f (threads.set i t') + f t = weight f threads + f t' := by
  induction threads generalizing i with
  | nil => cases present
  | cons head threads ih =>
    cases i with
    | zero =>
      cases present
      simp only [weight, List.set_cons_zero, List.map_cons, List.sum_cons]
      omega
    | succ i =>
      have rest := ih (i := i) present
      simp only [weight, List.set_cons_succ, List.map_cons, List.sum_cons] at rest ⊢
      omega

theorem weight_le_weight (le : ∀ t ∈ threads, f t ≤ g t) : weight f threads ≤ weight g threads :=
  List.sum_le_sum le

theorem weight_congr (same : ∀ t ∈ threads, f t = g t) : weight f threads = weight g threads := by
  rw [weight, weight, List.map_congr_left same]

theorem weight_one (one : ∀ t ∈ threads, f t = 1) : weight f threads = threads.length := by
  rw [weight, List.map_congr_left one, List.map_const', List.sum_replicate, smul_eq_mul, Nat.mul_one]

theorem weight_toNat (p : τ → Bool) (threads : List τ) :
    weight (fun t => (p t).toNat) threads = threads.countP p := by
  induction threads with
  | nil => rfl
  | cons t threads ih =>
    rw [List.countP_cons, ← ih, weight, List.map_cons, Nat.add_comm]
    cases p t <;> rfl

theorem le_weight (f : τ → Nat) (member : t ∈ threads) : f t ≤ weight f threads :=
  List.le_sum_of_mem (List.mem_map_of_mem member)

/-- Sums over several measures are the sum of one. -/
theorem sum_weight {κ : Type} (keys : Finset κ) (f : κ → τ → Nat) (threads : List τ) :
    ∑ k ∈ keys, weight (f k) threads = weight (fun t => ∑ k ∈ keys, f k t) threads := by
  induction threads with
  | nil => simp
  | cons t threads ih =>
    simp only [weight, List.map_cons, List.sum_cons, Finset.sum_add_distrib] at ih ⊢
    rw [ih]

end Pools
