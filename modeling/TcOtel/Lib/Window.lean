import Mathlib.Data.List.Basic
import Mathlib.Tactic

/-!
# Machines that collect and deliver

A machine takes items into a window and closes the window from time to time, by delivering a
frame or by dropping what it has. `collect` puts next to each frame the items that were taken
since the window before it was closed. What the machine keeps of its window is a relation
between its state and those items. An operation preserves the relation if it holds behind the
operation as well and every frame delivered meanwhile is right for its items; operations that
do so compose, and so does every run of them (`Preserves.of_mem_deliveries`).
-/

namespace Collecting

inductive Action (ω φ : Type) where
  | take (item : ω)
  | drop
  | deliver (frame : φ)
deriving DecidableEq

variable {σ ι ω φ : Type}

def collect : List ω → List (Action ω φ) → List (φ × List ω) × List ω
  | items, [] => ([], items)
  | items, .take item :: actions => collect (items ++ [item]) actions
  | _, .drop :: actions => collect [] actions
  | items, .deliver frame :: actions =>
    let later := collect [] actions
    ((frame, items) :: later.1, later.2)

theorem collect_append (items : List ω) (first second : List (Action ω φ)) : collect items (first ++ second) =
      ((collect items first).1 ++ (collect (collect items first).2 second).1,
        (collect (collect items first).2 second).2) := by
  induction first generalizing items with
  | nil => rfl
  | cons action first ih => cases action <;> simp [collect, ih]

def Action.map {ω' : Type} (π : ω → ω') : Action ω φ → Action ω' φ
  | .take item => .take (π item)
  | .drop => .drop
  | .deliver frame => .deliver frame

theorem collect_map {ω' : Type} (π : ω → ω') (items : List ω) (actions : List (Action ω φ)) :
    collect (items.map π) (actions.map (Action.map π)) =
      ((collect items actions).1.map (Prod.map id (List.map π)), (collect items actions).2.map π) := by
  induction actions generalizing items with
  | nil => rfl
  | cons action actions ih =>
    cases action with
    | take item => simpa [collect, Action.map] using ih (items ++ [item])
    | drop => simpa [collect, Action.map] using ih []
    | deliver frame => simpa [collect, Action.map, Prod.ext_iff] using ih []

abbrev Operation (σ ω φ : Type) := σ → σ × List (Action ω φ)

def andThen (f g : Operation σ ω φ) : Operation σ ω φ := fun s =>
  ((g (f s).1).1, (f s).2 ++ (g (f s).1).2)

def deliveries (operation : ι → Operation σ ω φ) : σ → List ω → List ι → List (φ × List ω)
  | _, _, [] => []
  | s, items, i :: is =>
    let done := collect items (operation i s).2
    done.1 ++ deliveries operation (operation i s).1 done.2 is

/-- A run of operations that take what others take, seen through a function. -/
theorem deliveries_map {ω' : Type} (π : ω → ω') {f : ι → Operation σ ω φ} {g : ι → Operation σ ω' φ}
    (same : ∀ i s, g i s = ((f i s).1, (f i s).2.map (Action.map π))) (s : σ) (items : List ω) (is : List ι) :
    deliveries g s (items.map π) is = (deliveries f s items is).map (Prod.map id (List.map π)) := by
  induction is generalizing s items with
  | nil => rfl
  | cons i is ih => simp [deliveries, same, collect_map, ih]

/-- The state behind a run, and the items of the window that is open then. -/
def after (operation : ι → Operation σ ω φ) : σ → List ω → List ι → σ × List ω
  | s, items, [] => (s, items)
  | s, items, i :: is => after operation (operation i s).1 (collect items (operation i s).2).2 is

/-- An operation keeps a relation between states and windows, and delivers what is right. -/
def Preserves (holds : σ → List ω → Prop) (right : φ → List ω → Prop) (f : Operation σ ω φ) : Prop :=
  ∀ s items, holds s items →
    (∀ frame window, (frame, window) ∈ (collect items (f s).2).1 → right frame window) ∧
      holds (f s).1 (collect items (f s).2).2

def PreservesAt (holds : σ → List ω → Prop) (right : φ → List ω → Prop) (f : Operation σ ω φ) (s : σ)
    (items : List ω) : Prop :=
  (∀ frame window, (frame, window) ∈ (collect items (f s).2).1 → right frame window) ∧
    holds (f s).1 (collect items (f s).2).2

section At

variable {holds : σ → List ω → Prop} {right : φ → List ω → Prop} {f : Operation σ ω φ} {s : σ} {items : List ω}

namespace PreservesAt

theorem of_silent (does : f s = (s₁, [])) (keeps : holds s₁ items) : PreservesAt holds right f s items := by
  rw [PreservesAt, does]
  exact ⟨fun _ _ member => absurd member List.not_mem_nil, keeps⟩

theorem of_take (does : f s = (s₁, [.take item])) (keeps : holds s₁ (items ++ [item])) :
    PreservesAt holds right f s items := by
  rw [PreservesAt, does]
  exact ⟨fun _ _ member => absurd member List.not_mem_nil, keeps⟩

theorem of_drop (does : f s = (s₁, [.drop])) (keeps : holds s₁ []) : PreservesAt holds right f s items := by
  rw [PreservesAt, does]
  exact ⟨fun _ _ member => absurd member List.not_mem_nil, keeps⟩

theorem of_deliver (does : f s = (s₁, [.deliver frame])) (delivers : right frame items)
    (keeps : holds s₁ []) : PreservesAt holds right f s items := by
  rw [PreservesAt, does]
  refine ⟨fun other window member => ?_, keeps⟩
  obtain ⟨rfl, rfl⟩ := Prod.mk.inj (List.mem_singleton.mp member)
  exact delivers

theorem congr (does : f s = g s) (keeps : PreservesAt holds right g s items) :
    PreservesAt holds right f s items := by
  rw [PreservesAt, does]
  exact keeps

theorem behind (does : f s = (s₁, []))
    (next : PreservesAt holds right g s₁ items) : PreservesAt holds right (Collecting.andThen f g) s items := by
  rw [PreservesAt, Collecting.andThen, does]
  exact next

theorem andThen (first : PreservesAt holds right f s items)
    (second : Preserves holds right g) : PreservesAt holds right (andThen f g) s items := by
  obtain ⟨rightFirst, middle⟩ := first
  obtain ⟨rightSecond, last⟩ := second (f s).1 _ middle
  simp only [PreservesAt, Collecting.andThen, collect_append]
  refine ⟨fun frame window member => ?_, last⟩
  rcases List.mem_append.mp member with early | late
  · exact rightFirst frame window early
  · exact rightSecond frame window late

end PreservesAt

end At

namespace Preserves

variable {holds : σ → List ω → Prop} {right : φ → List ω → Prop}

theorem of_at (each : ∀ s items, holds s items → PreservesAt holds right f s items) :
    Preserves holds right f := each

theorem of_silent {f : σ → σ} (keeps : ∀ s items, holds s items → holds (f s) items) :
    Preserves holds right fun s => (f s, []) := fun s items start =>
  ⟨fun _ _ member => absurd member List.not_mem_nil, keeps s items start⟩

theorem andThen (first : Preserves holds right f) (second : Preserves holds right g) :
    Preserves holds right (andThen f g) := fun s items start =>
  PreservesAt.andThen (first s items start) second

theorem of_mem_deliveries (keeps : ∀ i, Preserves holds right (operation i)) (start : holds s items)
    (member : (frame, window) ∈ deliveries operation s items inputs) : right frame window := by
  induction inputs generalizing s items with
  | nil => cases member
  | cons i is ih =>
    obtain ⟨delivered, next⟩ := keeps i s items start
    rcases List.mem_append.mp member with now | later
    · exact delivered frame window now
    · exact ih next later

end Preserves

end Collecting
