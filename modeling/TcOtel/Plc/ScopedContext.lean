import TcOtel.Plc.LogStatement

/-!
# `FB_ScopedContext`

`Begin` puts the context of an instance on the stack of the task and `End` takes it off. Whether
an instance is active is kept in the instance, and the stack in the task: an `End` out of order
cuts the stack and leaves those above active, and a `Begin` on a full stack makes an instance
active that is not on it. The stack is compared with the active instances in the order of their
`Begin`: it always is a part of them, and all of them if the calls are nested.
-/

namespace TcOtel.Plc

/-- An instance, which its context stands for. -/
abbrev ContextRef := Nat

inductive ContextCall where
  | begin (c : ContextRef)
  | endScope (c : ContextRef)
deriving DecidableEq

structure ScopedContexts where
  bActive : ContextRef → Bool
  /-- The first `nScopeContextCount` elements of `aScopedContext`; those behind are not read. -/
  aScopedContext : List ContextRef

namespace ScopedContexts

def initial : ScopedContexts := ⟨fun _ => false, []⟩

def begin (c : ContextRef) (s : ScopedContexts) : ScopedContexts :=
  if s.bActive c then s
  else
    { bActive := Function.update s.bActive c true
      aScopedContext :=
        if s.aScopedContext.length < nMaxScopedContext then s.aScopedContext ++ [c] else s.aScopedContext }

/-- The loop of `End`, from the top of the stack down. -/
def findDown (stack : List ContextRef) (c : ContextRef) : Nat → Option Nat
  | 0 => none
  | nIdx + 1 => if stack[nIdx]? = some c then some nIdx else findDown stack c nIdx

def remove (stack : List ContextRef) (c : ContextRef) : List ContextRef :=
  if stack.getLast? = some c then stack.dropLast
  else
    match findDown stack c stack.length with
    | some nIdx => stack.take nIdx
    | none => stack

def endScope (c : ContextRef) (s : ScopedContexts) : ScopedContexts :=
  if s.bActive c then
    { bActive := Function.update s.bActive c false, aScopedContext := remove s.aScopedContext c }
  else s

def apply (s : ScopedContexts) : ContextCall → ScopedContexts
  | .begin c => s.begin c
  | .endScope c => s.endScope c

def run (s : ScopedContexts) (calls : List ContextCall) : ScopedContexts := calls.foldl apply s

/-! ### The active instances -/

/-- The active instances in the order of their `Begin`, after a call. -/
def order (active : List ContextRef) : ContextCall → List ContextRef
  | .begin c => if c ∈ active then active else active ++ [c]
  | .endScope c => active.erase c

/-- Every `Begin` is of an instance that is not active and within the depth that there is room for,
and every `End` of the one begun last. -/
def Nested : List ContextRef → List ContextCall → Prop
  | _, [] => True
  | active, .begin c :: calls =>
    c ∉ active ∧ active.length < nMaxScopedContext ∧ Nested (order active (.begin c)) calls
  | active, .endScope c :: calls => active.getLast? = some c ∧ Nested (order active (.endScope c)) calls

structure Kept (s : ScopedContexts) (active : List ContextRef) : Prop where
  isActive : ∀ c, c ∈ active ↔ s.bActive c = true
  nodup : active.Nodup
  part : s.aScopedContext.Sublist active
  room : s.aScopedContext.length ≤ nMaxScopedContext

variable {s : ScopedContexts} {active stack : List ContextRef} {c : ContextRef}

theorem findDown_eq_some (found : findDown stack c n = some nIdx) : stack[nIdx]? = some c := by
  induction n with
  | zero => cases found
  | succ n ih =>
    rw [findDown] at found
    split at found
    next here =>
      cases found
      exact here
    · exact ih found

theorem findDown_eq_none (missing : findDown stack c n = none) : ∀ i < n, stack[i]? ≠ some c := by
  induction n with
  | zero =>
    intro i small
    cases small
  | succ n ih =>
    rw [findDown] at missing
    split at missing
    · cases missing
    next other =>
      intro i small
      rcases Nat.lt_succ_iff_lt_or_eq.mp small with less | rfl
      · exact ih missing i less
      · exact other

/-- `End` cuts the stack where it has the context, if it has it. -/
theorem remove_cases (stack : List ContextRef) (c : ContextRef) :
    (∃ nIdx, stack[nIdx]? = some c ∧ remove stack c = stack.take nIdx) ∨ c ∉ stack ∧ remove stack c = stack := by
  unfold remove
  split
  next top =>
    rw [List.getLast?_eq_getElem?] at top
    exact .inl ⟨stack.length - 1, top, List.dropLast_eq_take⟩
  · split
    next nIdx found => exact .inl ⟨nIdx, findDown_eq_some found, rfl⟩
    next missing =>
      refine .inr ⟨fun member => ?_, rfl⟩
      obtain ⟨i, small, here⟩ := List.getElem_of_mem member
      exact findDown_eq_none missing i small (List.getElem?_eq_some_iff.mpr ⟨small, here⟩)

theorem not_mem_remove (nodup : stack.Nodup) : c ∉ remove stack c := by
  rcases remove_cases stack c with ⟨nIdx, here, cut⟩ | ⟨absent, same⟩
  · obtain ⟨inside, here⟩ := List.getElem?_eq_some_iff.mp here
    rw [cut]
    intro member
    obtain ⟨i, small, before⟩ := List.getElem_of_mem member
    rw [List.length_take] at small
    rw [List.getElem_take] at before
    have same := (nodup.getElem_inj_iff).mp (before.trans here.symm)
    omega
  · rwa [same]

theorem remove_sublist (stack : List ContextRef) (c : ContextRef) : (remove stack c).Sublist stack := by
  rcases remove_cases stack c with ⟨nIdx, -, cut⟩ | ⟨-, same⟩
  · rw [cut]
    exact List.take_sublist ..
  · rw [same]

/-! ### Every run -/

theorem Kept.apply (kept : Kept s active) (call : ContextCall) : Kept (s.apply call) (order active call) := by
  cases call with
  | begin c =>
    rw [ScopedContexts.apply, ScopedContexts.begin, order]
    by_cases member : c ∈ active
    · rwa [if_pos ((kept.isActive c).mp member), if_pos member]
    · rw [if_neg (mt (kept.isActive c).mpr member), if_neg member]
      refine ⟨fun other => ?_, List.nodup_append.mpr ⟨kept.nodup, List.nodup_singleton c, ?_⟩, ?_, ?_⟩
      · by_cases same : other = c
        · simp [same]
        · simp [same, kept.isActive]
      · rintro a inside b only rfl
        exact member (List.mem_singleton.mp only ▸ inside)
      · split
        · exact kept.part.append (List.Sublist.refl [c])
        · exact kept.part.trans (List.sublist_append_left ..)
      · split
        next less => simpa using less
        · exact kept.room
  | endScope c =>
    rw [ScopedContexts.apply, ScopedContexts.endScope, order]
    by_cases member : c ∈ active
    · rw [if_pos ((kept.isActive c).mp member)]
      refine ⟨fun other => ?_, kept.nodup.erase c, ?_, (remove_sublist _ c).length_le.trans kept.room⟩
      · rw [kept.nodup.mem_erase_iff, kept.isActive]
        by_cases same : other = c
        · simp [same]
        · simp [same]
      · have absent : c ∉ remove s.aScopedContext c := not_mem_remove (kept.part.nodup kept.nodup)
        have erased := ((remove_sublist s.aScopedContext c).trans kept.part).erase c
        rwa [List.erase_of_not_mem absent] at erased
    · rwa [if_neg (mt (kept.isActive c).mpr member), List.erase_of_not_mem member]

theorem all_apply (kept : Kept s active) (all : s.aScopedContext = active)
    (nested : Nested active (call :: calls)) :
    (s.apply call).aScopedContext = order active call ∧ Nested (order active call) calls := by
  cases call with
  | begin c =>
    obtain ⟨absent, less, rest⟩ := nested
    refine ⟨?_, rest⟩
    rw [ScopedContexts.apply, ScopedContexts.begin, if_neg (mt (kept.isActive c).mpr absent), order, if_neg absent,
      all, if_pos less]
  | endScope c =>
    obtain ⟨top, rest⟩ := nested
    refine ⟨?_, rest⟩
    obtain ⟨below, rfl⟩ := List.getLast?_eq_some_iff.mp top
    have member : c ∈ below ++ [c] := List.mem_append_right _ (List.mem_singleton_self c)
    have absent : c ∉ below := fun inside =>
      (List.nodup_append.mp kept.nodup).2.2 c inside c (List.mem_singleton_self c) rfl
    rw [ScopedContexts.apply, ScopedContexts.endScope, if_pos ((kept.isActive c).mp member), all, remove, if_pos top,
      order, List.dropLast_concat, List.erase_append_right _ absent, List.erase_cons_head, List.append_nil]

theorem kept_run (kept : Kept s active) (calls : List ContextCall) :
    Kept (s.run calls) (calls.foldl order active) ∧ (s.aScopedContext = active → Nested active calls →
        (s.run calls).aScopedContext = calls.foldl order active) := by
  induction calls generalizing s active with
  | nil => exact ⟨kept, fun all _ => all⟩
  | cons call calls ih =>
    obtain ⟨after, whole⟩ := ih (kept.apply call)
    refine ⟨after, fun all nested => ?_⟩
    obtain ⟨allAfter, rest⟩ := all_apply kept all nested
    exact whole allAfter rest

/-- After any calls the stack is within its limit, has no instance twice, and has only active
instances, in the order of their `Begin`; it has all of them if the calls are nested. -/
theorem stack_of_calls (calls : List ContextCall) :
    (initial.run calls).aScopedContext.length ≤ nMaxScopedContext ∧ (initial.run calls).aScopedContext.Nodup ∧
      (initial.run calls).aScopedContext.Sublist (calls.foldl order []) ∧
      (∀ c, c ∈ calls.foldl order [] ↔ (initial.run calls).bActive c = true) ∧
      (Nested [] calls → (initial.run calls).aScopedContext = calls.foldl order []) := by
  have start : Kept initial [] := ⟨fun c => by simp [initial], List.nodup_nil, List.Sublist.refl [], Nat.zero_le _⟩
  obtain ⟨kept, whole⟩ := kept_run start calls
  exact ⟨kept.room, kept.part.nodup kept.nodup, kept.part, kept.isActive, whole rfl⟩

/-- Two machines, one inside the other. -/
example : Nested [] [.begin 1, .begin 2, .endScope 2, .endScope 1] := by
  simp [Nested, order, nMaxScopedContext]

end ScopedContexts

end TcOtel.Plc
