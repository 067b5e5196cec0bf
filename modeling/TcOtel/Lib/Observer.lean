import Mathlib.Data.List.Forall2
import Mathlib.Data.List.Infix

/-!
# What an observer sees of a shared system

A system takes inputs one at a time. An observer sees a view of its state and a log, and some of
the inputs are the observer's own. When every own input moves the view by a step that is
determined by the view alone, and the other inputs leave view and log as they are, then two runs
with like own inputs show the observer the same.
-/

namespace Observing

variable {σ ι ν ω : Type}

/-- The steps of a view for a list of inputs, with all that is written meanwhile. -/
inductive Run (step : ν → ι → ν → List ω → Prop) : ν → List ι → ν → List ω → Prop
  | nil (v : ν) : Run step v [] v []
  | cons {v v' v'' : ν} {i : ι} {is : List ι} {out outs : List ω} (first : step v i v' out)
      (rest : Run step v' is v'' outs) : Run step v (i :: is) v'' (out ++ outs)

theorem Run.concat (run : Run step v is v' outs) (last : step v' i v'' out) :
    Run step v (is ++ [i]) v'' (outs ++ out) := by
  induction run with
  | nil v =>
    have single := Run.cons last (Run.nil v'')
    rwa [List.append_nil] at single
  | cons first _ ih =>
    rw [List.append_assoc]
    exact .cons first (ih last)

/-- Runs over like inputs end in the same view and write the same, in a sense of sameness that
is kept when logs are put together. -/
theorem Run.alike {step : ν → ι → ν → List ω → Prop} {alike : ι → ι → Prop}
    {same : List ω → List ω → Prop} (nil : same [] [])
    (append : ∀ {a b c d}, same a b → same c d → same (a ++ c) (b ++ d))
    (determined : ∀ {v i j v₁ v₂ out₁ out₂}, alike i j → step v i v₁ out₁ → step v j v₂ out₂ →
      v₁ = v₂ ∧ same out₁ out₂)
    {is js : List ι} (inputs : List.Forall₂ alike is js) {v v₁ v₂ : ν} {outs₁ outs₂ : List ω}
    (run₁ : Run step v is v₁ outs₁) (run₂ : Run step v js v₂ outs₂) : v₁ = v₂ ∧ same outs₁ outs₂ := by
  induction inputs generalizing v outs₁ outs₂ with
  | nil =>
    cases run₁
    cases run₂
    exact ⟨rfl, nil⟩
  | cons head _ ih =>
    cases run₁ with
    | cons first₁ rest₁ =>
      cases run₂ with
      | cons first₂ rest₂ =>
        obtain ⟨rfl, sameFirst⟩ := determined head first₁ first₂
        obtain ⟨sameView, sameRest⟩ := ih rest₁ rest₂
        exact ⟨sameView, append sameFirst sameRest⟩

/-- An observer of a system: what it sees, which inputs are its own, and how these move what it
sees. -/
structure Observer (σ ι ν ω : Type) where
  view : σ → ν
  log : σ → List ω
  own : ι → Bool
  step : ν → ι → ν → List ω → Prop

/-- Serving an input is a step of the view when it is an own one, and goes unseen otherwise. -/
structure Observer.Unwinds (o : Observer σ ι ν ω) (serve : σ → ι → σ) (s : σ) (i : ι) : Prop where
  own : o.own i = true → ∃ out, o.step (o.view s) i (o.view (serve s i)) out ∧
    o.log (serve s i) = o.log s ++ out
  other : o.own i = false → o.view (serve s i) = o.view s ∧ o.log (serve s i) = o.log s

/-- What is seen of a whole run is a run of the view over the own inputs. -/
theorem Observer.run (o : Observer σ ι ν ω) (serve : σ → ι → σ) (s : σ) (is : List ι)
    (unwinds : ∀ done i, done ++ [i] <+: is → o.Unwinds serve (done.foldl serve s) i) :
    ∃ outs, Run o.step (o.view s) (is.filter o.own) (o.view (is.foldl serve s)) outs ∧
      o.log (is.foldl serve s) = o.log s ++ outs := by
  induction is using List.reverseRecOn with
  | nil => exact ⟨[], .nil _, (List.append_nil _).symm⟩
  | append_singleton is i ih =>
    obtain ⟨outs, run, log⟩ := ih fun done j before =>
      unwinds done j (before.trans (List.prefix_append is [i]))
    have last := unwinds is i List.prefix_rfl
    rw [List.foldl_append, List.foldl_cons, List.foldl_nil, List.filter_append]
    cases own : o.own i with
    | true =>
      obtain ⟨out, step, more⟩ := last.own own
      refine ⟨outs ++ out, ?_, ?_⟩
      · rw [List.filter_cons_of_pos own]
        exact run.concat step
      · rw [more, log, List.append_assoc]
    | false =>
      obtain ⟨sameView, sameLog⟩ := last.other own
      refine ⟨outs, ?_, ?_⟩
      · rw [List.filter_cons_of_neg (by rw [own]; decide), List.filter_nil, List.append_nil, sameView]
        exact run
      · rw [sameLog, log]

theorem forall_prefix_iff {P : List ι → ι → Prop} :
    (∀ done i, done ++ [i] <+: is → P done i) ↔ ∀ n : Fin is.length, P (is.take n) (is.get n) := by
  constructor
  · intro each n
    apply each
    have shorter : is.take n ++ [is.get n] = is.take (n + 1) :=
      (List.take_succ_eq_append_getElem n.isLt).symm
    rw [shorter]
    exact List.take_prefix _ is
  · rintro each done i ⟨rest, rfl⟩
    have now := each ⟨done.length, by simp⟩
    simpa using now

end Observing
