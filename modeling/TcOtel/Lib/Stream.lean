import Mathlib.Data.List.Basic
import Mathlib.Tactic

/-!
# Streams in segments

A stream arrives in segments, cut anywhere. `readExact` takes a number of elements from as many
segments as it needs. What it returns does not depend on the cuts (`readExact_append`).
-/

namespace Streaming

variable {α : Type}

/-- Take exactly so many elements; `none` when the stream ends before. -/
def readExact : List (List α) → Nat → Option (List α × List (List α))
  | segments, 0 => some ([], segments)
  | [], _ + 1 => none
  | segment :: segments, count =>
    if count ≤ segment.length then some (segment.take count, segment.drop count :: segments)
    else (readExact segments (count - segment.length)).map fun read => (segment ++ read.1, read.2)

@[simp] theorem readExact_zero (segments : List (List α)) : readExact segments 0 = some ([], segments) := by
  cases segments <;> rfl

theorem readExact_cons (segment : List α) (segments : List (List α)) (some : 0 < count) :
    readExact (segment :: segments) count =
      if count ≤ segment.length then .some (segment.take count, segment.drop count :: segments)
      else (readExact segments (count - segment.length)).map fun read => (segment ++ read.1, read.2) := by
  obtain ⟨n, rfl⟩ := Nat.exists_eq_succ_of_ne_zero (Nat.ne_of_gt some)
  rfl

theorem readExact_append (stream : segments.flatten = first ++ later) :
    ∃ rest, readExact segments first.length = some (first, rest) ∧ rest.flatten = later := by
  induction segments generalizing first with
  | nil =>
    obtain ⟨rfl, rfl⟩ := List.append_eq_nil_iff.mp stream.symm
    exact ⟨[], rfl, rfl⟩
  | cons segment segments ih =>
    rcases Nat.eq_zero_or_pos first.length with empty | some
    · rw [List.eq_nil_of_length_eq_zero empty] at stream ⊢
      exact ⟨segment :: segments, readExact_zero _, stream⟩
    rw [readExact_cons segment segments some]
    rw [List.flatten_cons] at stream
    split
    next inside =>
      -- the segment has it all
      have start : segment.take first.length = first := by
        have whole := congrArg (List.take first.length) stream
        rwa [List.take_append_of_le_length inside, List.take_left] at whole
      refine ⟨_, by rw [start], ?_⟩
      rw [List.flatten_cons, ← List.drop_append_of_le_length inside, stream, List.drop_left]
    next beyond =>
      -- the segment is the start of it, and the rest comes from the next ones
      obtain ⟨tail, rfl⟩ : ∃ tail, first = segment ++ tail := by
        have short : segment.length ≤ first.length := by omega
        refine ⟨first.drop segment.length, ?_⟩
        have start : first.take segment.length = segment := by
          have whole := congrArg (List.take segment.length) stream
          rw [List.take_left, List.take_append_of_le_length short] at whole
          exact whole.symm
        exact (List.take_append_drop segment.length first).symm.trans (by rw [start])
      rw [List.append_assoc, List.append_cancel_left_eq] at stream
      obtain ⟨rest, read, left⟩ := ih stream
      refine ⟨rest, ?_, left⟩
      rw [List.length_append, Nat.add_sub_cancel_left, read]
      rfl

theorem flatten_of_readExact
    (read : readExact segments count = some (bytes, rest)) : segments.flatten = bytes ++ rest.flatten ∧ bytes.length = count := by
  induction segments generalizing count bytes with
  | nil =>
    cases count with
    | zero =>
      cases read
      exact ⟨rfl, rfl⟩
    | succ n => cases read
  | cons segment segments ih =>
    rcases Nat.eq_zero_or_pos count with rfl | some
    · cases read
      exact ⟨rfl, rfl⟩
    rw [readExact_cons segment segments some] at read
    split at read
    next inside =>
      cases read
      rw [List.flatten_cons, List.flatten_cons, ← List.append_assoc, List.take_append_drop]
      exact ⟨rfl, List.length_take_of_le inside⟩
    next beyond =>
      obtain ⟨inner, readInner, same⟩ := Option.map_eq_some_iff.mp read
      cases same
      obtain ⟨stream, length⟩ := ih readInner
      rw [List.flatten_cons, stream, List.append_assoc, List.length_append]
      exact ⟨rfl, by omega⟩

end Streaming
