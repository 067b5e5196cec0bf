import Mathlib.Data.List.Basic
import Mathlib.Tactic

/-!
# Memory areas

An area is a list. `overwrite` copies into it at an offset and `extract` reads from it. A
record that is written piece by piece behind what is already there is written as a whole.
-/

namespace Memory

variable {α : Type}

def overwrite (area : List α) (offset : Nat) (src : List α) : List α :=
  area.take offset ++ (src ++ area.drop (offset + src.length))

def extract (area : List α) (offset count : Nat) : List α := (area.drop offset).take count

variable {area src : List α}

theorem length_overwrite (fits : offset + src.length ≤ area.length) :
    (overwrite area offset src).length = area.length := by
  simp only [overwrite, List.length_append, List.length_take, List.length_drop]
  omega

theorem take_overwrite (fits : offset ≤ area.length) :
    (overwrite area offset src).take (offset + src.length) = area.take offset ++ src := by
  have length : (area.take offset ++ src).length = offset + src.length := by
    rw [List.length_append, List.length_take, Nat.min_eq_left fits]
  rw [overwrite, ← List.append_assoc, ← length, List.take_left]

theorem overwrite_overwrite (fits : offset ≤ area.length) :
    overwrite (overwrite area offset first) (offset + first.length) second =
      overwrite area offset (first ++ second) := by
  have length : (area.take offset ++ first).length = offset + first.length := by
    rw [List.length_append, List.length_take, Nat.min_eq_left fits]
  have behind : (overwrite area offset first).drop (offset + first.length + second.length) =
      area.drop (offset + (first ++ second).length) := by
    rw [overwrite, ← List.append_assoc, ← List.drop_drop, ← length, List.drop_left, length,
      List.drop_drop, List.length_append, Nat.add_assoc]
  rw [overwrite, take_overwrite fits, behind, overwrite]
  simp

theorem overwrite_inside {area record new : List α} {offset inner : Nat} (fits : offset ≤ area.length)
    (inside : inner + new.length ≤ record.length) :
    overwrite (overwrite area offset record) (offset + inner) new =
      overwrite area offset (overwrite record inner new) := by
  have start : (area.take offset).length = offset := by
    rw [List.length_take, Nat.min_eq_left fits]
  have before : (overwrite area offset record).take (offset + inner) =
      area.take offset ++ record.take inner := by
    rw [overwrite, List.take_append, start, Nat.add_sub_cancel_left, List.take_of_length_le (by omega),
      List.take_append_of_le_length (by omega)]
  have behind : (overwrite area offset record).drop (offset + inner + new.length) =
      record.drop (inner + new.length) ++ area.drop (offset + record.length) := by
    rw [overwrite, Nat.add_assoc, List.drop_append, start, Nat.add_sub_cancel_left,
      List.drop_eq_nil_of_le (by omega), List.nil_append, List.drop_append_of_le_length inside]
  rw [overwrite, before, behind, overwrite, length_overwrite inside, overwrite]
  simp

theorem take_overwrite_inside (inside : offset + src.length ≤ used) (fits : used ≤ area.length) :
    (overwrite area offset src).take used = overwrite (area.take used) offset src := by
  obtain ⟨rest, rfl⟩ := Nat.exists_eq_add_of_le inside
  have start : (area.take offset).length = offset := by
    rw [List.length_take, Nat.min_eq_left (by omega)]
  have before : (area.take (offset + src.length + rest)).take offset = area.take offset := by
    rw [List.take_take, Nat.min_eq_left (by omega)]
  have behind : (area.take (offset + src.length + rest)).drop (offset + src.length) =
      (area.drop (offset + src.length)).take rest := by
    rw [List.drop_take, Nat.add_sub_cancel_left]
  rw [overwrite, overwrite, before, behind, Nat.add_assoc, List.take_append, start,
    Nat.add_sub_cancel_left, List.take_of_length_le (by omega), List.take_append,
    Nat.add_sub_cancel_left, List.take_of_length_le (Nat.le_add_right _ _)]

theorem overwrite_middle (same : new.length = old.length) :
    overwrite (before ++ (old ++ after)) before.length new = before ++ (new ++ after) := by
  rw [overwrite, List.take_left, same, ← List.drop_drop, List.drop_left, List.drop_left]

theorem extract_middle (before record after : List α) :
    extract (before ++ (record ++ after)) before.length record.length = record := by
  rw [extract, List.drop_left, List.take_left]

theorem extract_take (inside : offset + count ≤ used) :
    extract (area.take used) offset count = extract area offset count := by
  rw [extract, extract, List.drop_take, List.take_take, Nat.min_eq_left (by omega)]

/-! ### Reading the parts of a concatenation -/

theorem extract_start (length : part.length = count) : extract (part ++ rest) 0 count = part := by
  rw [extract, List.drop_zero, ← length, List.take_left]

theorem extract_behind (behind : part.length ≤ offset) :
    extract (part ++ rest) offset count = extract rest (offset - part.length) count := by
  rw [extract, List.drop_append, List.drop_eq_nil_of_le behind, List.nil_append, extract]

theorem extract_drop (area : List α) (start offset count : Nat) :
    extract (area.drop start) offset count = extract area (start + offset) count := by
  rw [extract, List.drop_drop, extract]

theorem extract_add (area : List α) (offset first second : Nat) :
    extract area offset (first + second) = extract area offset first ++ extract area (offset + first) second := by
  rw [extract, extract, extract, List.take_add, List.drop_drop]

theorem length_extract (inside : offset + count ≤ area.length) :
    (extract area offset count).length = count := by
  rw [extract, List.length_take, List.length_drop]
  omega

theorem extract_overwrite_before (fits : target ≤ area.length)
    (before : offset + count ≤ target) : extract (overwrite area target src) offset count = extract area offset count := by
  have start : (area.take target).length = target := by rw [List.length_take, Nat.min_eq_left fits]
  have within : extract ((overwrite area target src).take target) offset count =
      extract (overwrite area target src) offset count := extract_take before
  rw [← within, overwrite, List.take_append_of_le_length (by omega), List.take_of_length_le (by omega),
    extract_take before]

theorem extract_overwrite_from (fits : target ≤ area.length) :
    extract (overwrite area target src) target (src.length + count) =
      src ++ extract area (target + src.length) count := by
  have start : (area.take target).length = target := by rw [List.length_take, Nat.min_eq_left fits]
  rw [overwrite, extract_behind (by omega), start, Nat.sub_self, extract, List.drop_zero, List.take_append,
    List.take_of_length_le (Nat.le_add_right ..), Nat.add_sub_cancel_left, extract]

theorem map_range_records {β γ : Type} {encode : β → List α} {size : Nat} {value : β → γ} (read : List α → γ)
    (length : ∀ x, (encode x).length = size) (reads : ∀ x rest, read (encode x ++ rest) = value x)
    (items : List β) :
    (List.range items.length).map (fun i => read ((items.flatMap encode).drop (i * size))) =
      items.map value := by
  induction items with
  | nil => rfl
  | cons x items ih =>
    have later (i : Nat) : ((x :: items).flatMap encode).drop ((i + 1) * size) =
        (items.flatMap encode).drop (i * size) := by
      rw [List.flatMap_cons, Nat.succ_mul, Nat.add_comm, ← List.drop_drop, ← length x, List.drop_left]
    rw [List.length_cons, List.range_succ_eq_map, List.map_cons, List.map_map, List.map_cons, ← ih]
    congr 1
    · rw [Nat.zero_mul, List.drop_zero, List.flatMap_cons, reads]
    · exact List.map_congr_left fun i _ => congrArg read (later i)

theorem map_range_extract_flatten {parts : List (List α)} (length : ∀ part ∈ parts, part.length = size) :
    (List.range parts.length).map (fun i => extract parts.flatten (i * size) size) = parts := by
  induction parts with
  | nil => rfl
  | cons part parts ih =>
    have first : part.length = size := length part List.mem_cons_self
    have later (i : Nat) : extract (part :: parts).flatten ((i + 1) * size) size =
        extract parts.flatten (i * size) size := by
      rw [List.flatten_cons, extract_behind (by rw [Nat.succ_mul]; omega), first, Nat.succ_mul,
        Nat.add_sub_cancel]
    rw [List.length_cons, List.range_succ_eq_map, List.map_cons, List.map_map]
    congr 1
    · rw [Nat.zero_mul, List.flatten_cons, extract_start first]
    · refine Eq.trans (List.map_congr_left fun i _ => later i) (ih fun other inside => ?_)
      exact length other (List.mem_cons_of_mem part inside)

end Memory
