import Mathlib.Data.Finset.Sort

/-!
# Orders of iteration

A hash map comes out in an order that depends on its hasher and on its past. An `Iteration` is any
such choice: every set of keys is listed, each key once.
-/

namespace Iterating

structure Iteration (κ : Type) where
  order : Finset κ → List κ
  lists : ∀ keys, (order keys : Multiset κ) = keys.val

variable {κ : Type}

namespace Iteration

theorem nodup (i : Iteration κ) (keys : Finset κ) : (i.order keys).Nodup := by
  rw [← Multiset.coe_nodup, i.lists]
  exact keys.nodup

@[simp] theorem mem_order (i : Iteration κ) : k ∈ i.order keys ↔ k ∈ keys := by
  rw [← Multiset.mem_coe, i.lists]
  rfl

@[simp] theorem order_empty (i : Iteration κ) : i.order ∅ = [] := by
  rw [List.eq_nil_iff_forall_not_mem]
  intro k
  rw [mem_order]
  exact Finset.notMem_empty k

@[simp] theorem order_singleton (i : Iteration κ) (k : κ) : i.order {k} = [k] :=
  Multiset.coe_eq_singleton.mp (i.lists {k})

theorem find?_key {α : Type} [DecidableEq κ] {key : α → κ} {entries : List α} (distinct : (entries.map key).Nodup)
    {a : α} (member : a ∈ entries) : entries.find? (fun other => key other = key a) = some a := by
  cases found : entries.find? fun other => key other = key a with
  | none => exact absurd (decide_eq_true rfl) (List.find?_eq_none.mp found a member)
  | some other =>
    have same := List.find?_some found
    rw [decide_eq_true_eq] at same
    rw [List.inj_on_of_nodup_map distinct (List.mem_of_find?_eq_some found) member same]

theorem order_entries_perm {α : Type} [DecidableEq κ] (i : Iteration κ) {key : α → κ} {entries : List α}
    (distinct : (entries.map key).Nodup) :
    ((i.order (entries.map key).toFinset).filterMap fun k => entries.find? fun a => key a = k).Perm entries := by
  have keys : (i.order (entries.map key).toFinset).Perm (entries.map key) := by
    rw [← Multiset.coe_eq_coe, i.lists, List.toFinset_val, distinct.dedup]
  have found : (entries.map key).filterMap (fun k => entries.find? fun a => key a = k) = entries := by
    rw [List.filterMap_map]
    exact (List.filterMap_congr fun a member => find?_key distinct member).trans List.filterMap_some
  exact (keys.filterMap _).trans (.of_eq found)

def sorted [LinearOrder κ] : Iteration κ where
  order keys := keys.sort (· ≤ ·)
  lists keys := Finset.sort_eq keys (· ≤ ·)

/-- Some order, for keys that have none of their own. -/
noncomputable def listing : Iteration κ where
  order := Finset.toList
  lists := Finset.coe_toList

end Iteration

end Iterating
