import TcOtel.Lib.Refinement

/-!
# Collecting records into batches

A loop collects records. It hands them on as a batch when there are enough of them, and on a tick of a
timer. Its variables change when it is given a new configuration; a change it cannot take ends the loop,
and the records collected so far are gone.

`conserved_iff`: nothing else is ever lost, doubled or out of order.
-/

namespace Batching

open Refining

/-- The records collected so far, and the batches handed on. Each batch goes with what the loop knew
about its destination. -/
structure Batcher (θ ρ : Type) where
  batch : List ρ
  flushed : List (θ × List ρ)

namespace Batcher

variable {θ ρ : Type}

def new : Batcher θ ρ := ⟨[], []⟩

def flush (b : Batcher θ ρ) (target : θ) : Batcher θ ρ :=
  if b.batch.isEmpty then b else ⟨[], b.flushed ++ [(target, b.batch)]⟩

def push (b : Batcher θ ρ) (target : θ) (size : Nat) (r : ρ) : Batcher θ ρ :=
  if size ≤ (b.batch ++ [r]).length then ⟨[], b.flushed ++ [(target, b.batch ++ [r])]⟩
  else ⟨b.batch ++ [r], b.flushed⟩

def records (b : Batcher θ ρ) : List ρ := b.flushed.flatMap (·.2) ++ b.batch

def NoneEmpty (b : Batcher θ ρ) : Prop := ∀ f ∈ b.flushed, f.2 ≠ []

theorem records_flush (b : Batcher θ ρ) (target : θ) : (b.flush target).records = b.records := by
  unfold flush
  split
  · rfl
  · simp [records]

theorem records_push (b : Batcher θ ρ) (target : θ) (size : Nat) (r : ρ) :
    (b.push target size r).records = b.records ++ [r] := by
  unfold push
  split <;> simp [records]

theorem NoneEmpty.flush {b : Batcher θ ρ} (noneEmpty : b.NoneEmpty) (target : θ) : (b.flush target).NoneEmpty := by
  unfold Batcher.flush
  split
  · exact noneEmpty
  next some =>
    intro f member
    rcases List.mem_append.mp member with before | new
    · exact noneEmpty f before
    · rw [List.mem_singleton.mp new]
      simpa using some

theorem NoneEmpty.push {b : Batcher θ ρ} (noneEmpty : b.NoneEmpty) (target : θ) (size : Nat) (r : ρ) :
    (b.push target size r).NoneEmpty := by
  unfold Batcher.push
  split
  · intro f member
    rcases List.mem_append.mp member with before | new
    · exact noneEmpty f before
    · rw [List.mem_singleton.mp new]
      exact List.append_ne_nil_of_right_ne_nil _ (List.cons_ne_nil _ _)
  · exact noneEmpty

end Batcher

/-- A loop with its variables `σ`: how many records are enough, where they go, what is made of an input,
and what a new configuration does. -/
structure Worker (σ θ ι ρ ε : Type) where
  size : σ → Nat
  target : σ → θ
  enrich : ι → ρ
  reload : σ → ε → Option σ

inductive Event (ι ε : Type) where
  | record (input : ι)
  | tick
  | reload (config : ε)

structure State (σ θ ι ρ : Type) where
  loop : Option σ
  batcher : Batcher θ ρ
  received : List ι

namespace Worker

variable {σ θ ι ρ ε : Type} (w : Worker σ θ ι ρ ε)

def start (loop : Option σ) : State σ θ ι ρ := ⟨loop, .new, []⟩

def turn (v : σ) (s : State σ θ ι ρ) : Event ι ε → State σ θ ι ρ
  | .record input =>
    ⟨s.loop, s.batcher.push (w.target v) (w.size v) (w.enrich input), s.received ++ [input]⟩
  | .tick => { s with batcher := s.batcher.flush (w.target v) }
  | .reload config =>
    match w.reload v config with
    | some v' => { s with loop := some v' }
    | none => ⟨none, { s.batcher with batch := [] }, s.received⟩

def step (s : State σ θ ι ρ) (event : Event ι ε) : State σ θ ι ρ :=
  match s.loop with
  | none => s
  | some v => w.turn v s event

def run (s : State σ θ ι ρ) (events : List (Event ι ε)) : State σ θ ι ρ := events.foldl w.step s

/-- The batches and the current one have what was received, and no batch was empty. -/
structure Conserved (s : State σ θ ι ρ) : Prop where
  records : s.batcher.records = s.received.map w.enrich
  noneEmpty : s.batcher.NoneEmpty

/-- The loop does not end here with records in its hands. -/
def Spares (s : State σ θ ι ρ) : Event ι ε → Prop
  | .record _ | .tick => True
  | .reload config => ∀ v, s.loop = some v → w.reload v config = none → s.batcher.batch = []

variable {w}

variable {s : State σ θ ι ρ}

theorem step_of_ended (ended : s.loop = none) (event : Event ι ε) : w.step s event = s := by
  rw [step, ended]

theorem step_of_running (running : s.loop = some v) (event : Event ι ε) :
    w.step s event = w.turn v s event := by
  rw [step, running]

theorem turn_of_reload (reloaded : w.reload v config = some v') :
    w.turn v s (.reload config) = { s with loop := some v' } := by
  rw [turn, reloaded]

theorem turn_of_end (ends : w.reload v config = none) :
    w.turn v s (.reload config) = ⟨none, { s.batcher with batch := [] }, s.received⟩ := by
  rw [turn, ends]

theorem spares_of_ended (ended : s.loop = none) (event : Event ι ε) : w.Spares s event := by
  cases event with
  | record | tick => trivial
  | reload config =>
    intro v same
    cases ended.symm.trans same

/-- One event is right just when it spares the records. -/
theorem Conserved.step_iff (conserved : w.Conserved s) (event : Event ι ε) :
    w.Conserved (w.step s event) ↔ w.Spares s event := by
  have whole := conserved.records
  cases running : s.loop with
  | none =>
    rw [step_of_ended running]
    exact iff_of_true conserved (spares_of_ended running event)
  | some v =>
    rw [step_of_running running]
    cases event with
    | record input =>
      refine iff_of_true ⟨?_, conserved.noneEmpty.push _ _ _⟩ trivial
      refine (Batcher.records_push ..).trans ?_
      rw [whole, turn, List.map_append]
      rfl
    | tick => exact iff_of_true ⟨(Batcher.records_flush ..).trans whole, conserved.noneEmpty.flush _⟩ trivial
    | reload config =>
      cases changed : w.reload v config with
      | some v' =>
        rw [turn_of_reload changed]
        refine iff_of_true ⟨whole, conserved.noneEmpty⟩ ?_
        intro other same ends
        cases running.symm.trans same
        cases changed.symm.trans ends
      | none =>
        rw [turn_of_end changed]
        constructor
        · rintro ⟨kept, -⟩ other - -
          have same := kept.trans whole.symm
          simp only [Batcher.records, List.append_nil] at same
          exact List.self_eq_append_right.mp same
        · intro spares
          refine ⟨?_, conserved.noneEmpty⟩
          rw [← whole, Batcher.records, Batcher.records, spares v running changed]

/-- At the end of a run nothing is lost, doubled or out of order just when the loop never ended with
records in its hands. -/
theorem conserved_iff (loop : Option σ) (events : List (Event ι ε)) :
    w.Conserved (w.run (start loop) events) ↔ Allowed w.step w.Spares (start loop) events := by
  -- a loop that still runs has lost nothing
  let inv (s : State σ θ ι ρ) : Prop := s.loop.isSome → w.Conserved s
  have keeps : ∀ s event, inv s → inv (w.step s event) := by
    intro s event holds runs
    cases running : s.loop with
    | none =>
      rw [step_of_ended running, running] at runs
      cases runs
    | some v =>
      have conserved := holds (by rw [running]; rfl)
      rw [conserved.step_iff]
      cases event with
      | record | tick => trivial
      | reload config =>
        intro other same ends
        cases running.symm.trans same
        rw [step_of_running running, turn_of_end ends] at runs
        cases runs
  have stays : ∀ s event, inv s → (w.Conserved (w.step s event) ↔ w.Conserved s ∧ w.Spares s event) := by
    intro s event holds
    cases running : s.loop with
    | none => rw [step_of_ended running, and_iff_left (spares_of_ended running event)]
    | some v =>
      have conserved := holds (by rw [running]; rfl)
      rw [conserved.step_iff, and_iff_right conserved]
  have begun : w.Conserved (start loop) := by
    refine ⟨rfl, ?_⟩
    intro f member
    cases member
  have all := holds_iff_allowed keeps stays (fun _ => begun) events
  exact all.trans (and_iff_right begun)

end Worker

end Batching
