import Mathlib.Data.List.Sort
import Mathlib.Tactic

/-!
# Buckets

Items are put into buckets one after the other, each into the bucket of its key. The buckets stand in
the order in which their keys were first seen (`collect`) or in the order of the keys
(`collectSorted`). Either way there is one bucket for each key that occurs, and what is in it was put
there by the items of that key, in their order (`Collected`).
-/

namespace Bucketing

section Keys

variable {κ β α : Type} [DecidableEq κ]

/-- Change what is under a key, behind all other keys if there is nothing yet. -/
def upsert (key : κ) (change : Option β → β) : List (κ × β) → List (κ × β)
  | [] => [(key, change none)]
  | (k, b) :: rest => if k = key then (k, change (some b)) :: rest else (k, b) :: upsert key change rest

theorem keys_upsert (key : κ) (change : Option β → β) (buckets : List (κ × β)) :
    (upsert key change buckets).map Prod.fst =
      if key ∈ buckets.map Prod.fst then buckets.map Prod.fst else buckets.map Prod.fst ++ [key] := by
  induction buckets with
  | nil => simp [upsert]
  | cons bucket rest ih =>
    rw [upsert]
    split
    case isTrue same => simp [same]
    case isFalse other =>
      rw [List.map_cons, ih]
      by_cases present : key ∈ rest.map Prod.fst <;> simp [present, Ne.symm other]

theorem upsert_of_notMem {key : κ} {change : Option β → β} {buckets : List (κ × β)}
    (absent : key ∉ buckets.map Prod.fst) : upsert key change buckets = buckets ++ [(key, change none)] := by
  induction buckets with
  | nil => rfl
  | cons bucket buckets ih =>
    rw [List.map_cons, List.mem_cons, not_or] at absent
    rw [upsert, if_neg (Ne.symm absent.1), ih absent.2, List.cons_append]

theorem mem_keys_upsert {key k : κ} {change : Option β → β} {buckets : List (κ × β)} :
    k ∈ (upsert key change buckets).map Prod.fst ↔ k = key ∨ k ∈ buckets.map Prod.fst := by
  rw [keys_upsert]
  split
  case isTrue present =>
    refine ⟨.inr, fun member => member.elim (fun same => ?_) id⟩
    rwa [same]
  case isFalse => rw [List.mem_append, List.mem_singleton, or_comm]

theorem nodup_keys_upsert {key : κ} {change : Option β → β} {buckets : List (κ × β)}
    (distinct : (buckets.map Prod.fst).Nodup) : ((upsert key change buckets).map Prod.fst).Nodup := by
  rw [keys_upsert]
  split
  case isTrue => exact distinct
  case isFalse fresh => exact distinct.append (List.nodup_singleton key) (List.disjoint_singleton.mpr fresh)

theorem lookup_cons_ite (k l : κ) (b : β) (rest : List (κ × β)) :
    ((l, b) :: rest).lookup k = if k = l then some b else rest.lookup k := by
  rw [List.lookup_cons]
  by_cases same : k = l
  · rw [if_pos same, beq_iff_eq.mpr same]
  · rw [if_neg same, beq_false_of_ne same]

theorem lookup_upsert (key k : κ) (change : Option β → β) (buckets : List (κ × β)) :
    (upsert key change buckets).lookup k =
      if k = key then some (change (buckets.lookup key)) else buckets.lookup k := by
  induction buckets with
  | nil => rw [upsert, lookup_cons_ite, List.lookup_nil, List.lookup_nil]
  | cons bucket rest ih =>
    obtain ⟨l, b⟩ := bucket
    rw [upsert]
    split
    case isTrue same =>
      subst same
      simp only [lookup_cons_ite]
      split <;> rfl
    case isFalse other =>
      simp only [lookup_cons_ite, ih, if_neg (Ne.symm other)]
      by_cases found : k = l
      · rw [if_pos found, if_pos found, if_neg (found ▸ other)]
      · rw [if_neg found, if_neg found]

theorem lookup_eq_some_iff {buckets : List (κ × β)} (distinct : (buckets.map Prod.fst).Nodup) {k : κ} {b : β} :
    buckets.lookup k = some b ↔ (k, b) ∈ buckets := by
  induction buckets with
  | nil => simp
  | cons bucket rest ih =>
    obtain ⟨l, c⟩ := bucket
    obtain ⟨fresh, distinct⟩ := List.nodup_cons.mp distinct
    rw [lookup_cons_ite]
    by_cases same : k = l
    · subst same
      -- the keys are distinct: what is here is not found again behind
      have gone : (k, b) ∉ rest := fun member => fresh (List.mem_map.mpr ⟨_, member, rfl⟩)
      simp [gone, eq_comm]
    · rw [if_neg same, ih distinct]
      simp [same]

def fill (add : α → Option β → β) (xs : List α) : Option β := xs.foldl (fun b x => some (add x b)) none

@[simp] theorem fill_nil (add : α → Option β → β) : fill add [] = none := rfl

@[simp] theorem fill_append (add : α → Option β → β) (xs : List α) (x : α) :
    fill add (xs ++ [x]) = some (add x (fill add xs)) := by
  simp [fill]

theorem fill_eq_none_iff : fill add xs = none ↔ xs = [] := by
  cases xs using List.reverseRecOn <;> simp

/-- The buckets hold what the items made of them. -/
structure Collected (keyOf : α → κ) (add : α → Option β → β) (xs : List α) (buckets : List (κ × β)) : Prop where
  distinct : (buckets.map Prod.fst).Nodup
  mem_iff : ∀ {k b}, (k, b) ∈ buckets ↔ fill add (xs.filter fun x => keyOf x = k) = some b

variable {keyOf : α → κ} {add : α → Option β → β} {xs : List α} {buckets others : List (κ × β)}

theorem Collected.perm (collected : Collected keyOf add xs buckets) (same : others.Perm buckets) :
    Collected keyOf add xs others where
  distinct := (same.map Prod.fst).nodup_iff.mpr collected.distinct
  mem_iff := same.mem_iff.trans collected.mem_iff

theorem Collected.lookup (collected : Collected keyOf add xs buckets) (k : κ) :
    buckets.lookup k = fill add (xs.filter fun x => keyOf x = k) :=
  Option.ext fun _ => (lookup_eq_some_iff collected.distinct).trans collected.mem_iff

theorem Collected.upsert (before : Collected keyOf add xs buckets) (x : α) :
    Collected keyOf add (xs ++ [x]) (upsert (keyOf x) (add x) buckets) := by
  have distinct := @nodup_keys_upsert _ _ _ (keyOf x) (add x) _ before.distinct
  refine ⟨distinct, fun {k b} => ?_⟩
  rw [← lookup_eq_some_iff distinct, lookup_upsert, before.lookup, before.lookup]
  by_cases same : k = keyOf x
  · subst same
    simp
  · simp [same, Ne.symm same]

theorem Collected.mem_keys (collected : Collected keyOf add xs buckets) :
    k ∈ buckets.map Prod.fst ↔ ∃ x ∈ xs, keyOf x = k := by
  have present : k ∈ buckets.map Prod.fst ↔ fill add (xs.filter fun x => keyOf x = k) ≠ none := by
    simp [Option.ne_none_iff_exists', collected.mem_iff]
  simp [present, fill_eq_none_iff]

def collect (keyOf : α → κ) (add : α → Option β → β) (xs : List α) : List (κ × β) :=
  xs.foldl (fun buckets x => upsert (keyOf x) (add x) buckets) []

theorem collected_collect (keyOf : α → κ) (add : α → Option β → β) (xs : List α) :
    Collected keyOf add xs (collect keyOf add xs) := by
  induction xs using List.reverseRecOn with
  | nil => exact ⟨List.nodup_nil, by simp [collect]⟩
  | append_singleton xs x ih =>
    rw [collect, List.foldl_append]
    exact ih.upsert x

theorem fill_items {items : β → List α} (first : ∀ x, items (add x none) = [x])
    (later : ∀ x b, items (add x (some b)) = items b ++ [x]) {ys : List α} {b : β} (filled : fill add ys = some b) :
    items b = ys := by
  induction ys using List.reverseRecOn generalizing b with
  | nil => cases filled
  | append_singleton ys y ih =>
    rw [fill_append, Option.some.injEq] at filled
    subst filled
    -- the bucket was there before, or the item is the first of its key
    cases before : fill add ys with
    | some b => rw [later, ih before]
    | none =>
      cases ys using List.reverseRecOn with
      | nil => rw [first, List.nil_append]
      | append_singleton ys z => rw [fill_append] at before; cases before

end Keys

/-! ### Keys with an order -/

section Sorted

variable {κ β α : Type} [LinearOrder κ]

def upsertSorted (key : κ) (change : Option β → β) : List (κ × β) → List (κ × β)
  | [] => [(key, change none)]
  | (k, b) :: rest =>
    if key < k then (key, change none) :: (k, b) :: rest
    else if k = key then (k, change (some b)) :: rest
    else (k, b) :: upsertSorted key change rest

section

variable {key : κ} {change : Option β → β} {buckets : List (κ × β)}
  (sorted : (buckets.map Prod.fst).Pairwise (· < ·))
include sorted

theorem upsertSorted_perm : (upsertSorted key change buckets).Perm (upsert key change buckets) := by
  induction buckets with
  | nil => exact .refl _
  | cons bucket rest ih =>
    obtain ⟨k, b⟩ := bucket
    obtain ⟨least, sorted⟩ := List.pairwise_cons.mp sorted
    rw [upsertSorted]
    split
    case isTrue smaller =>
      have absent : key ∉ ((k, b) :: rest).map Prod.fst := by
        rw [List.map_cons, List.mem_cons, not_or]
        exact ⟨ne_of_lt smaller, fun member => lt_asymm smaller (least key member)⟩
      -- a key that is not there is put at the end by the one and here by the other
      rw [upsert_of_notMem absent]
      exact (List.perm_append_singleton _ _).symm
    case isFalse =>
      rw [upsert]
      split
      · exact .refl _
      · exact (ih sorted).cons _

theorem pairwise_upsertSorted : ((upsertSorted key change buckets).map Prod.fst).Pairwise (· < ·) := by
  induction buckets with
  | nil => simp [upsertSorted]
  | cons bucket rest ih =>
    obtain ⟨k, b⟩ := bucket
    obtain ⟨least, behind⟩ := List.pairwise_cons.mp sorted
    rw [upsertSorted]
    split
    case isTrue smaller =>
      refine List.pairwise_cons.mpr ⟨fun other member => ?_, sorted⟩
      rcases List.mem_cons.mp member with rfl | member
      · exact smaller
      · exact lt_trans smaller (least other member)
    case isFalse notSmaller =>
      split
      case isTrue => exact sorted
      case isFalse other =>
        refine List.pairwise_cons.mpr ⟨fun l member => ?_, ih behind⟩
        -- a key of the changed rest is the new one or one of the old
        have keys := ((upsertSorted_perm behind).map Prod.fst).mem_iff.mp member
        rcases mem_keys_upsert.mp keys with rfl | member
        · exact lt_of_le_of_ne (not_lt.mp notSmaller) other
        · exact least l member

end

variable {keyOf : α → κ} {add : α → Option β → β} {xs : List α} {buckets : List (κ × β)}

def collectSorted (keyOf : α → κ) (add : α → Option β → β) (xs : List α) : List (κ × β) :=
  xs.foldl (fun buckets x => upsertSorted (keyOf x) (add x) buckets) []

theorem pairwise_collectSorted (keyOf : α → κ) (add : α → Option β → β) (xs : List α) :
    ((collectSorted keyOf add xs).map Prod.fst).Pairwise (· < ·) := by
  induction xs using List.reverseRecOn with
  | nil => exact List.Pairwise.nil
  | append_singleton xs x ih =>
    rw [collectSorted, List.foldl_append]
    exact pairwise_upsertSorted ih

theorem collected_collectSorted (keyOf : α → κ) (add : α → Option β → β) (xs : List α) :
    Collected keyOf add xs (collectSorted keyOf add xs) := by
  induction xs using List.reverseRecOn with
  | nil => exact ⟨List.nodup_nil, by simp [collectSorted]⟩
  | append_singleton xs x ih =>
    rw [collectSorted, List.foldl_append]
    exact (ih.upsert x).perm (upsertSorted_perm (pairwise_collectSorted keyOf add xs))

end Sorted

/-! ### Divisions -/

section Divisions

variable {κ β α : Type}

/-- Every item is in one of the blocks, once, and the blocks keep the order. -/
structure Divides (blocks : List (List α)) (xs : List α) : Prop where
  once : blocks.flatten.Perm xs
  ordered : ∀ block ∈ blocks, block.Sublist xs

theorem Divides.flatMap {blocks : List β} {whole : β → List α} {parts : β → List (List α)} {xs : List α}
    (outer : Divides (blocks.map whole) xs) (inner : ∀ b ∈ blocks, Divides (parts b) (whole b)) :
    Divides (blocks.flatMap parts) xs where
  once := by
    have flattened : (blocks.flatMap parts).flatten = blocks.flatMap fun b => (parts b).flatten := by
      rw [List.flatMap_def, List.flatten_flatten, List.map_map]
      rfl
    rw [flattened]
    refine (List.Perm.flatMap_left blocks fun b member => (inner b member).once).trans ?_
    exact outer.once
  ordered block member := by
    obtain ⟨b, listed, part⟩ := List.mem_flatMap.mp member
    exact ((inner b listed).ordered block part).trans (outer.ordered _ (List.mem_map_of_mem listed))

variable [DecidableEq κ]

theorem flatMap_filter_perm {keyOf : α → κ} {keys : List κ} (distinct : keys.Nodup) (xs : List α) :
    (keys.flatMap fun k => xs.filter fun x => keyOf x = k).Perm (xs.filter fun x => keyOf x ∈ keys) := by
  induction keys with
  | nil => simp
  | cons k keys ih =>
    obtain ⟨fresh, distinct⟩ := List.nodup_cons.mp distinct
    -- split off the items of the first key
    have parts := List.filter_append_perm (fun x => keyOf x = k) (xs.filter fun x => keyOf x ∈ k :: keys)
    rw [List.filter_filter, List.filter_filter] at parts
    have here : (fun x => decide (keyOf x = k) && decide (keyOf x ∈ k :: keys)) = fun x => decide (keyOf x = k) := by
      funext x
      by_cases same : keyOf x = k <;> simp [same]
    have there : (fun x => (!decide (keyOf x = k)) && decide (keyOf x ∈ k :: keys)) =
        fun x => decide (keyOf x ∈ keys) := by
      funext x
      by_cases same : keyOf x = k <;> simp [same, fresh]
    rw [here, there] at parts
    exact ((ih distinct).append_left _).trans parts

variable {keyOf : α → κ} {add : α → Option β → β} {xs : List α} {buckets : List (κ × β)}

section

variable (collected : Collected keyOf add xs buckets) (items : β → List α) (first : ∀ x, items (add x none) = [x])
  (later : ∀ x b, items (add x (some b)) = items b ++ [x])
include collected first later

/-- Each bucket has the items of its key, and there is at least one. -/
theorem Collected.items_eq (member : bucket ∈ buckets) :
    items bucket.2 = (xs.filter fun x => keyOf x = bucket.1) ∧ items bucket.2 ≠ [] := by
  have filled := collected.mem_iff.mp member
  have held : items bucket.2 = xs.filter fun x => keyOf x = bucket.1 := fill_items first later filled
  refine ⟨held, fun empty => ?_⟩
  rw [fill_eq_none_iff.mpr (held.symm.trans empty)] at filled
  cases filled

theorem Collected.divides : Divides (buckets.map fun bucket => items bucket.2) xs := by
  have held (bucket : κ × β) (member : bucket ∈ buckets) :
      items bucket.2 = xs.filter fun x => keyOf x = bucket.1 :=
    (collected.items_eq items first later member).1
  constructor
  · have covered : (xs.filter fun x => keyOf x ∈ buckets.map Prod.fst) = xs := by
      rw [List.filter_eq_self]
      exact fun x member => decide_eq_true (collected.mem_keys.mpr ⟨x, member, rfl⟩)
    have perm := @flatMap_filter_perm κ α _ keyOf _ collected.distinct xs
    rw [covered, List.flatMap_map] at perm
    rw [← List.flatMap_def, List.flatMap_congr held]
    exact perm
  · intro block member
    obtain ⟨bucket, listed, rfl⟩ := List.mem_map.mp member
    rw [held bucket listed]
    exact List.filter_sublist

end

end Divisions

/-! ### Lists of results -/

theorem mapM_eq_some_iff {α β : Type} {f : α → Option β} {xs : List α} {ys : List β} :
    xs.mapM f = some ys ↔ List.Forall₂ (fun x y => f x = some y) xs ys := by
  induction xs generalizing ys with
  | nil => simp [eq_comm]
  | cons x xs ih =>
    simp only [List.mapM_cons, Option.bind_eq_bind, Option.bind_eq_some_iff, Option.pure_def, Option.some.injEq,
      List.forall₂_cons_left_iff, ← ih]
    constructor
    · rintro ⟨y, first, rest, others, rfl⟩
      exact ⟨y, rest, first, others, rfl⟩
    · rintro ⟨y, rest, first, others, rfl⟩
      exact ⟨y, first, rest, others, rfl⟩

theorem mapM_map_eq_some {α β γ : Type} {f : β → Option γ} {g : α → β} {h : α → γ} {xs : List α}
    (each : ∀ x ∈ xs, f (g x) = some (h x)) : (xs.map g).mapM f = some (xs.map h) := by
  rw [mapM_eq_some_iff, List.forall₂_map_left_iff, List.forall₂_map_right_iff, List.forall₂_same]
  exact each

theorem mapM_option_map {α β γ : Type} (f : α → Option β) (g : β → γ) (xs : List α) :
    (xs.mapM fun x => (f x).map g) = (xs.mapM f).map (List.map g) := by
  induction xs with
  | nil => rfl
  | cons x xs ih =>
    rw [List.mapM_cons, List.mapM_cons, ih]
    cases f x <;> cases xs.mapM f <;> rfl

theorem mapM_perm {α β : Type} (f : α → Option β) {xs ys : List α} (same : xs.Perm ys) :
    (xs.mapM f).map Multiset.ofList = (ys.mapM f).map Multiset.ofList := by
  induction same with
  | nil => rfl
  | cons x _ ih =>
    rename_i xs ys _
    rw [List.mapM_cons, List.mapM_cons]
    cases f x with
    | none => rfl
    | some y =>
      cases first : xs.mapM f <;> cases second : ys.mapM f <;> simp_all
  | swap x y xs =>
    simp only [List.mapM_cons]
    cases f x <;> cases f y <;> cases xs.mapM f <;> simp [List.Perm.swap]
  | trans _ _ first second => exact first.trans second

theorem map_of_mapM {α β γ : Type} {f : α → Option β} {xs : List α} {ys : List β} (results : xs.mapM f = some ys)
    (g : β → γ) (default : γ) : ys.map g = xs.map fun x => (f x).elim default g := by
  have each := mapM_eq_some_iff.mp results
  clear results
  induction each with
  | nil => rfl
  | cons first _ ih => rw [List.map_cons, List.map_cons, first, ih, Option.elim_some]

theorem exists_of_forall₂ (all : List.Forall₂ related xs ys) (member : x ∈ xs) : ∃ y ∈ ys, related x y := by
  induction all with
  | nil => cases member
  | cons first _ ih =>
    rcases List.mem_cons.mp member with rfl | member
    · exact ⟨_, List.mem_cons_self, first⟩
    · obtain ⟨y, listed, later⟩ := ih member
      exact ⟨y, List.mem_cons_of_mem _ listed, later⟩

theorem isSome_mapM_iff {α β : Type} {f : α → Option β} {xs : List α} :
    (xs.mapM f).isSome ↔ ∀ x ∈ xs, (f x).isSome := by
  induction xs with
  | nil => simp
  | cons x xs ih =>
    rw [List.forall_mem_cons, ← ih, List.mapM_cons]
    cases f x <;> cases xs.mapM f <;> simp

/-! ### Weights -/

/-- If nothing is heavier on one side and both sides weigh the same, nothing is lighter either. -/
theorem sum_map_eq_iff {α : Type} {s : Multiset α} {f g : α → Nat} (le : ∀ a ∈ s, f a ≤ g a) :
    (s.map f).sum ≤ (s.map g).sum ∧ ((s.map f).sum = (s.map g).sum ↔ ∀ a ∈ s, f a = g a) := by
  induction s using Multiset.induction with
  | empty => simp
  | cons a s ih =>
    obtain ⟨first, rest⟩ := Multiset.forall_mem_cons.mp le
    obtain ⟨less, same⟩ := ih rest
    rw [Multiset.map_cons, Multiset.map_cons, Multiset.sum_cons, Multiset.sum_cons, Multiset.forall_mem_cons, ← same]
    omega

end Bucketing
