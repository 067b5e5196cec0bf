import TcOtel.Lib.Refinement
import TcOtel.Plc.ContextBuilder

/-!
# The context builder as an ordered map

A builder stands for a list of properties with different names. Adding a value of the same size
replaces the property in its place, one of another size moves it to the end. The builder keeps
to that list (`Keeps.apply`) with one exception: `_RemoveContext` gives the last record up
without its bytes, and whoever removes it, directly or by a value of another size, finds the
used part too long from then on (`Keeps.not_refines`).
-/

namespace TcOtel.Plc

open Decoding Memory Refining

/-! ### The map -/

inductive ContextOp where
  | add (p : Property)
  | remove (name : PlcString)
  | clear
deriving DecidableEq

namespace ContextOp

def update (props : List Property) : ContextOp → List Property
  | add p =>
    match props.find? fun q => q.name = p.name with
    | none => props ++ [p]
    | some q =>
      if q.value.bytes.length = p.value.bytes.length then
        props.map fun r => if r.name = p.name then p else r
      else props.filter (fun r => r.name ≠ p.name) ++ [p]
  | remove name => props.filter fun r => r.name ≠ name
  | clear => []

def apply (b : ContextBuilder) : ContextOp → ContextBuilder
  | add p => p.addTo b
  | remove name => b.remove name
  | clear => b.clear

/-- The call takes the last property away, for good or to put it back with another size. -/
def DropsLast (props : List Property) : ContextOp → Prop
  | add p => ∃ q ∈ props.getLast?, q.name = p.name ∧ q.value.bytes.length ≠ p.value.bytes.length
  | remove name => ∃ q ∈ props.getLast?, q.name = name
  | clear => False

theorem split_of_find {props : List Property} (found : props.find? (fun q => q.name = name) = some q) :
    ∃ done rest, props = done ++ q :: rest ∧ q.name = name := by
  obtain ⟨same, done, rest, split, -⟩ := List.find?_eq_some_iff_append.mp found
  exact ⟨done, rest, split, of_decide_eq_true same⟩

section

variable {done rest : List Property} {p q : Property} {name : PlcString}

section

variable (distinct : ((done ++ q :: rest).map Property.name).Nodup)
include distinct

theorem ne_of_distinct : (∀ r ∈ done, r.name ≠ q.name) ∧ ∀ r ∈ rest, r.name ≠ q.name := by
  rw [List.map_append, List.map_cons, List.nodup_append, List.nodup_cons] at distinct
  obtain ⟨-, ⟨fresh, -⟩, apart⟩ := distinct
  constructor
  · intro r member
    exact apart r.name (List.mem_map_of_mem member) q.name List.mem_cons_self
  · intro r member same
    exact fresh (same ▸ List.mem_map_of_mem member)

theorem filter_split : (done ++ q :: rest).filter (fun r => r.name ≠ q.name) = done ++ rest := by
  obtain ⟨before, behind⟩ := ne_of_distinct distinct
  have keep : done.filter (fun r => r.name ≠ q.name) = done :=
    List.filter_eq_self.mpr fun r member => decide_eq_true (before r member)
  have keep' : rest.filter (fun r => r.name ≠ q.name) = rest :=
    List.filter_eq_self.mpr fun r member => decide_eq_true (behind r member)
  rw [List.filter_append, List.filter_cons, keep, keep', if_neg (by simp)]

theorem find_split : (done ++ q :: rest).find? (fun r => r.name = q.name) = some q := by
  obtain ⟨before, -⟩ := ne_of_distinct distinct
  rw [List.find?_eq_some_iff_append]
  refine ⟨decide_eq_true rfl, done, rest, rfl, ?_⟩
  intro r member
  rw [Bool.not_eq_true', decide_eq_false_iff_not]
  exact before r member

theorem map_split (same : q.name = p.name) :
    ((done ++ q :: rest).map fun r => if r.name = p.name then p else r) = done ++ p :: rest := by
  obtain ⟨before, behind⟩ := ne_of_distinct distinct
  rw [same] at before behind
  have keep : ∀ props : List Property, (∀ r ∈ props, r.name ≠ p.name) →
      props.map (fun r => if r.name = p.name then p else r) = props := by
    intro props others
    rw [List.map_congr_left fun r member => if_neg (others r member), List.map_id']
  rw [List.map_append, List.map_cons, keep done before, keep rest behind, if_pos same]

end

end

variable {props : List Property}

section

variable (distinct : (props.map Property.name).Nodup)
include distinct

theorem update_add_cases (p : Property) :
    (∀ q ∈ props, q.name ≠ p.name) ∧ (add p).update props = props ++ [p] ∨
      ∃ done q rest, props = done ++ q :: rest ∧ q.name = p.name ∧
        (q.value.bytes.length = p.value.bytes.length ∧ (add p).update props = done ++ p :: rest ∨
          q.value.bytes.length ≠ p.value.bytes.length ∧ (add p).update props = done ++ rest ++ [p]) := by
  cases found : props.find? fun q => q.name = p.name with
  | none =>
    refine .inl ⟨?_, by rw [update, found]⟩
    intro q member same
    have absent := List.find?_eq_none.mp found q member
    exact absent (decide_eq_true same)
  | some q =>
    obtain ⟨done, rest, rfl, same⟩ := split_of_find found
    refine .inr ⟨done, q, rest, rfl, same, ?_⟩
    by_cases size : q.value.bytes.length = p.value.bytes.length
    · exact .inl ⟨size, by simp only [update, found, if_pos size, map_split distinct same]⟩
    · refine .inr ⟨size, ?_⟩
      simp only [update, found, if_neg size]
      rw [← same, filter_split distinct]

theorem update_remove_cases (name : PlcString) :
    (∀ q ∈ props, q.name ≠ name) ∧ (remove name).update props = props ∨
      ∃ done q rest, props = done ++ q :: rest ∧ q.name = name ∧
        (remove name).update props = done ++ rest := by
  cases found : props.find? fun q => q.name = name with
  | none =>
    have absent : ∀ q ∈ props, q.name ≠ name := by
      intro q member same
      exact List.find?_eq_none.mp found q member (decide_eq_true same)
    refine .inl ⟨absent, ?_⟩
    exact List.filter_eq_self.mpr fun q member => decide_eq_true (absent q member)
  | some q =>
    obtain ⟨done, rest, rfl, rfl⟩ := split_of_find found
    exact .inr ⟨done, q, rest, rfl, rfl, filter_split distinct⟩

theorem nodup_update (op : ContextOp) : ((op.update props).map Property.name).Nodup := by
  have others (name : PlcString) : ((props.filter fun r => r.name ≠ name).map Property.name).Nodup :=
    distinct.sublist (List.filter_sublist.map _)
  have fresh {left : List Property} {p : Property} (nodup : (left.map Property.name).Nodup)
      (new : ∀ q ∈ left, q.name ≠ p.name) : ((left ++ [p]).map Property.name).Nodup := by
    rw [List.map_append, List.map_singleton, ← List.concat_eq_append, List.nodup_concat]
    refine ⟨?_, nodup⟩
    simpa using new
  cases op with
  | add p =>
    rcases update_add_cases distinct p with ⟨new, eq⟩ | ⟨done, q, rest, rfl, same, ⟨-, eq⟩ | ⟨-, eq⟩⟩
    · rw [eq]
      exact fresh distinct new
    · rw [eq, List.map_append, List.map_cons, ← same, ← List.map_cons, ← List.map_append]
      exact distinct
    · rw [eq, ← filter_split distinct, same]
      exact fresh (others p.name) fun r member => by simpa using (List.mem_filter.mp member).2
  | remove name => exact others name
  | clear => exact List.nodup_nil

end

end ContextOp

open ContextOp

namespace ContextBuilder

variable {b : ContextBuilder} {p q : Property} {props done rest : List Property}

/-! ### Finding and replacing -/

theorem Holds.findContext_split (holds : Holds b (done ++ q :: rest))
    (before : ∀ r ∈ done, r.name ≠ q.name) : b.findContext q.name = done.length := by
  -- the loop goes over the indices, and names differ before this one
  have found : (List.range b.nContextCount).find? (fun nIdx => b.readName nIdx = q.name.bytes) =
      some done.length := by
    rw [List.find?_range_eq_some]
    refine ⟨decide_eq_true holds.readName_eq, List.mem_range.mpr holds.lt_count, fun i less => ?_⟩
    have there := holds.readName_at (k := i) (by rw [List.length_append]; omega)
    rw [there, List.getElem_append_left less, Bool.not_eq_true', decide_eq_false_iff_not]
    exact fun same => before _ (List.getElem_mem less) (PlcString.ext same)
  rw [findContext, found]
  rfl

theorem Holds.getDataLen_eq (holds : Holds b (done ++ q :: rest)) :
    b.getDataLen done.length = q.value.bytes.length := by
  rw [getDataLen, getOffsetToData, holds.getSize_eq, holds.nameLen_eq, q.length_encode]
  omega

theorem Holds.offset_take (holds : Holds b props) (inside : k < props.length) :
    b.offset k = ((props.take k).flatMap Property.encode).length := by
  have found := holds.offsets (props.take k) (props.drop k) (List.take_append_drop k props).symm
    (List.ne_nil_of_length_pos (by rw [List.length_drop]; omega))
  rwa [List.length_take, Nat.min_eq_left (Nat.le_of_lt inside)] at found

theorem offsets_of_take
    (each : ∀ k < props.length, b.offset k = ((props.take k).flatMap Property.encode).length) :
    ∀ done rest, props = done ++ rest → rest ≠ [] →
      b.offset done.length = (done.flatMap Property.encode).length := by
  rintro done rest rfl nonempty
  have positive := List.length_pos_of_ne_nil nonempty
  have found := each done.length (by rw [List.length_append]; omega)
  rwa [List.take_left] at found

theorem length_take_flatMap (props : List Property) (k : Nat) :
    ((props.take k).flatMap Property.encode).length = ((props.map fun p => p.encode.length).take k).sum := by
  rw [List.length_flatMap, List.map_take]

theorem Holds.replaceContext (holds : Holds b (done ++ q :: rest)) (same : q.name = p.name)
    (size : q.value.bytes.length = p.value.bytes.length) :
    Holds (b.replaceContext done.length p.value.type p.value.bytes) (done ++ p :: rest) := by
  have total := holds.bufferCount_eq
  have area := holds.size
  have fits := holds.fits
  -- the name stays, and the type and the value are written in one
  let front := done.flatMap Property.encode ++ q.name.prefixed
  let field := leBytes 2 p.value.type.code ++ p.value.bytes
  have behindName : b.offset done.length + b.nameLen done.length + 1 = front.length := by
    rw [holds.offset_eq, holds.nameLen_eq, List.length_append, PlcString.prefixed, List.length_cons,
      Nat.add_assoc]
  have inside : front.length + field.length ≤ b.nBufferCount := by
    rw [total]
    simp only [front, field, List.flatMap_append, List.flatMap_cons, List.length_append, Property.encode,
      length_leBytes]
    omega
  have both : overwrite (overwrite b.aBuffer front.length (leBytes 2 p.value.type.code))
      (front.length + (leBytes 2 p.value.type.code).length) p.value.bytes =
        overwrite b.aBuffer front.length field :=
    overwrite_overwrite (by omega)
  have written : b.replaceContext done.length p.value.type p.value.bytes =
      { b with aBuffer := overwrite b.aBuffer front.length field } := by
    rw [ContextBuilder.replaceContext, behindName]
    exact congrArg (fun area => { b with aBuffer := area }) both
  have used : b.used = front ++ ((leBytes 2 q.value.type.code ++ q.value.bytes) ++
      rest.flatMap Property.encode) := by
    rw [holds.used_split, Property.encode]
    simp [front]
  have sizes : (done ++ p :: rest).map (fun p => p.encode.length) =
      (done ++ q :: rest).map fun p => p.encode.length := by
    simp [same, size]
  rw [written]
  constructor
  · exact (length_overwrite (by omega)).trans area
  · exact holds.slots
  · exact fits
  · change (overwrite b.aBuffer front.length field).take b.nBufferCount = _
    rw [take_overwrite_inside inside (by omega)]
    change overwrite b.used front.length field = _
    rw [used, overwrite_middle (by simp [field, size])]
    simp [front, field, Property.encode, same]
  · change b.nContextCount = _
    rw [holds.count, List.length_append, List.length_append, List.length_cons, List.length_cons]
  · apply offsets_of_take
    intro k inside
    rw [List.length_append] at inside
    have before := holds.offset_take (k := k) (by rw [List.length_append]; exact inside)
    rw [length_take_flatMap, sizes, ← length_take_flatMap]
    exact before

/-! ### Removing -/

theorem foldl_set_getD (n : Nat) (start size : Nat) (offsets : List Nat) (j : Nat)
    (fits : start + n ≤ offsets.length) :
    ((List.range' start n).foldl (fun offsets i => offsets.set i (offsets.getD (i + 1) 0 - size))
      offsets).getD j 0 =
      if start ≤ j ∧ j < start + n then offsets.getD (j + 1) 0 - size else offsets.getD j 0 := by
  induction n generalizing start offsets with
  | zero => rw [List.range'_zero, List.foldl_nil, if_neg (by omega)]
  | succ n ih =>
    -- the loop goes up, so that a place is read before it is written
    rw [List.range'_succ, List.foldl_cons, ih _ _ (by rw [List.length_set]; omega)]
    have later : ∀ i v, i ≠ start → (offsets.set start v).getD i 0 = offsets.getD i 0 := by
      intro i v other
      rw [List.getD_eq_getElem?_getD, List.getElem?_set_ne (Ne.symm other), ← List.getD_eq_getElem?_getD]
    rcases Nat.lt_trichotomy j start with less | rfl | more
    · rw [if_neg (by omega), if_neg (by omega), later j _ (by omega)]
    · rw [if_neg (by omega), if_pos (by omega), List.getD_eq_getElem?_getD,
        List.getElem?_set_self (by omega), Option.getD_some]
    · rw [later (j + 1) _ (by omega), later j _ (by omega)]
      by_cases inside : j < start + (n + 1)
      · rw [if_pos (by omega), if_pos (by omega)]
      · rw [if_neg (by omega), if_neg (by omega)]

theorem length_foldl_set (places : List Nat) (value : List Nat → Nat → Nat) (offsets : List Nat) :
    (places.foldl (fun offsets i => offsets.set i (value offsets i)) offsets).length = offsets.length := by
  induction places generalizing offsets with
  | nil => rfl
  | cons i places ih => rw [List.foldl_cons, ih, List.length_set]

section

variable {r : Property} (holds : Holds b (done ++ q :: r :: rest))

include holds

theorem Holds.offset_next :
    b.offset (done.length + 1) = (done.flatMap Property.encode).length + q.encode.length := by
  have behind := holds.offsets (done ++ [q]) (r :: rest) (by simp) (List.cons_ne_nil r rest)
  rw [List.length_append, List.length_singleton] at behind
  rw [behind, List.flatMap_append, List.length_append, List.flatMap_singleton]

theorem Holds.bufferCount_split : b.nBufferCount = (done.flatMap Property.encode).length + q.encode.length +
      ((r :: rest).flatMap Property.encode).length := by
  rw [holds.bufferCount_eq, List.flatMap_append, List.flatMap_cons, List.length_append,
    List.length_append, Nat.add_assoc]

theorem Holds.extract_rest :
    extract b.aBuffer (b.offset (done.length + 1)) (b.nBufferCount - b.offset (done.length + 1)) =
      (r :: rest).flatMap Property.encode := by
  have total := holds.bufferCount_split
  have whole : b.used = (done.flatMap Property.encode ++ q.encode) ++
      ((r :: rest).flatMap Property.encode ++ []) := by
    rw [holds.used_split, List.append_nil, List.append_assoc]
  have inside : (done.flatMap Property.encode ++ q.encode).length +
      ((r :: rest).flatMap Property.encode).length ≤ b.nBufferCount := by
    rw [List.length_append, total]
  rw [holds.offset_next, show b.nBufferCount - ((done.flatMap Property.encode).length + q.encode.length) =
    ((r :: rest).flatMap Property.encode).length by omega, ← List.length_append, ← extract_take inside]
  change extract b.used _ _ = _
  rw [whole]
  exact extract_middle _ _ _

section

variable (before : ∀ o ∈ done, o.name ≠ q.name) (few : (done ++ q :: r :: rest).length ≤ 20)
include before few

theorem Holds.remove_eq : b.remove q.name =
      { aBuffer := overwrite b.aBuffer (done.flatMap Property.encode).length
          ((r :: rest).flatMap Property.encode)
        nBufferCount := (done.flatMap Property.encode).length + ((r :: rest).flatMap Property.encode).length
        aContext := (List.range' done.length (rest.length + 1)).foldl
          (fun offsets i => offsets.set i (offsets.getD (i + 1) 0 - q.encode.length)) b.aContext
        nContextCount := done.length + rest.length + 1 } := by
  have total := holds.bufferCount_split
  have count : b.nContextCount = done.length + rest.length + 2 := by
    rw [holds.count, List.length_append, List.length_cons, List.length_cons]
    omega
  have known : done.length ≠ notFound := by
    rw [List.length_append] at few
    rw [notFound]
    omega
  have offset := holds.offset_eq
  have next := holds.offset_next
  have size : b.offset (done.length + 1) - (done.flatMap Property.encode).length = q.encode.length := by omega
  have places : b.nContextCount - 1 - done.length = rest.length + 1 := by omega
  rw [remove, ContextBuilder.removeContext, holds.findContext_split before,
    if_pos ⟨by omega, known⟩]
  simp only [if_pos (show done.length + 1 < b.nContextCount by omega), holds.extract_rest, offset, size,
    places]
  rw [count, show b.nBufferCount - q.encode.length = (done.flatMap Property.encode).length +
    ((r :: rest).flatMap Property.encode).length by omega]
  rfl

/-- A record that others follow is removed with its bytes, and they move up. -/
theorem Holds.remove : Holds (b.remove q.name) (done ++ r :: rest) := by
  have total := holds.bufferCount_split
  have area := holds.size
  have fits := holds.fits
  have slots := holds.slots
  have length : (done ++ r :: rest).length = done.length + rest.length + 1 := by
    rw [List.length_append, List.length_cons]
    omega
  rw [List.length_append, List.length_cons, List.length_cons] at few
  have used : b.aBuffer.take (done.flatMap Property.encode).length = done.flatMap Property.encode := by
    have inUsed : (b.aBuffer.take b.nBufferCount).take (done.flatMap Property.encode).length =
        b.aBuffer.take (done.flatMap Property.encode).length := by
      rw [List.take_take, Nat.min_eq_left (by omega)]
    rw [← inUsed]
    change b.used.take _ = _
    rw [holds.used_split, List.take_left]
  rw [holds.remove_eq before (by simpa using few)]
  constructor
  · exact (length_overwrite (by omega)).trans area
  · exact (length_foldl_set _ _ _).trans slots
  · change _ + _ ≤ nBufferSize
    omega
  · change (overwrite _ _ _).take (_ + _) = _
    rw [take_overwrite (by omega), used, List.flatMap_append]
  · exact length.symm
  · apply offsets_of_take
    intro k inside
    rw [ContextBuilder.offset, foldl_set_getD _ _ _ _ _ (by omega)]
    split
    next moved =>
      -- an offset behind the record: that of the next one, less the size of the record
      obtain ⟨i, rfl⟩ := Nat.exists_eq_add_of_le moved.1
      have old := holds.offset_take (k := done.length + (i + 1))
        (by rw [List.length_append, List.length_cons, List.length_cons]; omega)
      change b.offset (done.length + i + 1) - _ = _
      rw [Nat.add_assoc, old, List.take_length_add_append, List.take_length_add_append, List.take_succ_cons]
      simp only [List.flatMap_append, List.flatMap_cons, List.length_append]
      omega
    next stays =>
      have old := holds.offset_take (k := k)
        (by rw [List.length_append]; omega)
      change b.offset k = _
      rw [old, List.take_append_of_le_length (by omega), List.take_append_of_le_length (by omega)]

end

end

theorem Holds.remove_absent (holds : Holds b props)
    (absent : ∀ q ∈ props, q.name ≠ name) : b.remove name = b := by
  rw [ContextBuilder.remove, ContextBuilder.removeContext, holds.findContext_eq absent,
    if_neg fun found => found.2 rfl]

/-- The last record is given up without its bytes. -/
theorem Holds.remove_last (holds : Holds b (done ++ [q])) (before : ∀ o ∈ done, o.name ≠ q.name)
    (few : (done ++ [q]).length ≤ 20) : b.remove q.name = { b with nContextCount := done.length } := by
  rw [List.length_append] at few
  have count : b.nContextCount = done.length + 1 := by
    rw [holds.count, List.length_append, List.length_singleton]
  have known : done.length ≠ notFound := by
    rw [notFound]
    omega
  rw [ContextBuilder.remove, ContextBuilder.removeContext, holds.findContext_split before,
    if_pos ⟨by omega, known⟩]
  simp [count]

theorem Holds.clear (holds : Holds b props) : Holds b.clear [] := by
  constructor
  · exact holds.size
  · exact holds.slots
  · exact Nat.zero_le _
  · exact List.take_zero
  · rfl
  · intro done rest split nonempty
    exact absurd (List.append_eq_nil_iff.mp split.symm).2 nonempty

/-! ### Adding again -/

section

variable (holds : Holds b (done ++ q :: rest)) (same : q.name = p.name)
  (before : ∀ o ∈ done, o.name ≠ q.name) (few : (done ++ q :: rest).length ≤ 20)

include holds same before few

theorem Holds.findContext_again : b.findContext p.name = done.length ∧ done.length ≠ notFound := by
  rw [List.length_append] at few
  rw [notFound, ← same]
  exact ⟨holds.findContext_split before, by omega⟩

theorem Holds.addTo_same (size : q.value.bytes.length = p.value.bytes.length) :
    p.addTo b = b.replaceContext done.length p.value.type p.value.bytes := by
  obtain ⟨found, known⟩ := holds.findContext_again same before few
  rw [p.addTo_eq, addValue, found, if_pos known, holds.getDataLen_eq, if_pos size]

theorem Holds.addTo_other (size : q.value.bytes.length ≠ p.value.bytes.length) :
    p.addTo b = (ContextBuilder.addContext p.name p.value.type p.value.bytes (b.remove q.name)).2 := by
  obtain ⟨found, known⟩ := holds.findContext_again same before few
  rw [p.addTo_eq, addValue, found, if_pos known, holds.getDataLen_eq, if_neg size,
    ContextBuilder.remove, same]

end

/-! ### The builder against the map -/

structure Within (props : List Property) : Prop where
  few : props.length ≤ 20
  room : (props.flatMap Property.encode).length ≤ nBufferSize

instance (props : List Property) : Decidable (Within props) :=
  decidable_of_iff (props.length ≤ 20 ∧ (props.flatMap Property.encode).length ≤ nBufferSize)
    ⟨fun both => ⟨both.1, both.2⟩, fun within => ⟨within.few, within.room⟩⟩

def readType (b : ContextBuilder) (nIdx : Nat) : Nat :=
  leNat (extract b.aBuffer (b.offset nIdx + (b.nameLen nIdx + 1)) 2)

def readValue (b : ContextBuilder) (nIdx : Nat) : List UInt8 :=
  extract b.aBuffer (b.offset nIdx + b.getOffsetToData nIdx) (b.getDataLen nIdx)

/-- What is read from the builder is what the map has: the properties in order, each behind the
ones before it without a gap, and no byte more. -/
structure Refines (b : ContextBuilder) (props : List Property) : Prop where
  count : b.nContextCount = props.length
  records : ∀ k p, props[k]? = some p →
    b.readName k = p.name.bytes ∧ b.readType k = p.value.type.code ∧ b.readValue k = p.value.bytes
  ranges : ∀ k p, props[k]? = some p →
    b.offset k = ((props.take k).map fun p => p.encode.length).sum ∧ b.getSize k = p.encode.length
  total : b.nBufferCount = (props.map fun p => p.encode.length).sum

theorem Holds.readType_eq (holds : Holds b (done ++ q :: rest)) :
    b.readType done.length = q.value.type.code := by
  have split : q.encode = q.name.prefixed ++ (leBytes 2 q.value.type.code ++ q.value.bytes) := rfl
  have read := holds.extract_eq split
  have small := q.value.type.code_lt
  rw [PlcString.prefixed, List.length_cons, length_leBytes] at read
  rw [readType, holds.nameLen_eq, read, leNat_leBytes 2 _ (by omega)]

theorem Holds.readValue_eq (holds : Holds b (done ++ q :: rest)) :
    b.readValue done.length = q.value.bytes := by
  have split : q.encode = (q.name.prefixed ++ leBytes 2 q.value.type.code) ++ (q.value.bytes ++ []) := by
    simp [Property.encode]
  have read := holds.extract_eq split
  rw [List.length_append, PlcString.prefixed, List.length_cons, length_leBytes] at read
  rw [readValue, getOffsetToData, holds.nameLen_eq, holds.getDataLen_eq, read]

theorem Holds.refines (holds : Holds b props) : Refines b props := by
  constructor
  · exact holds.count
  · intro k p here
    obtain ⟨split, length⟩ := holds.split_at here
    rw [← length]
    exact ⟨split.readName_eq, split.readType_eq, split.readValue_eq⟩
  · intro k p here
    obtain ⟨split, length⟩ := holds.split_at here
    have range := And.intro split.offset_eq split.getSize_eq
    rwa [length, List.length_flatMap] at range
  · rw [holds.bufferCount_eq, List.length_flatMap]

/-- The state of a builder that keeps to the map. -/
structure Keeps (b : ContextBuilder) (props : List Property) : Prop where
  holds : Holds b props
  distinct : (props.map Property.name).Nodup
  few : props.length ≤ 20

theorem Within.of_concat (within : Within (props ++ [p])) :
    props.length + 1 ≤ 20 ∧ (props.flatMap Property.encode).length + p.encode.length ≤ nBufferSize := by
  have count := within.few
  have room := within.room
  rw [List.length_append] at count
  rw [List.flatMap_append, List.length_append, List.flatMap_singleton] at room
  exact ⟨count, room⟩

theorem Keeps.initial : Keeps initial [] := ⟨Holds.initial, List.nodup_nil, Nat.zero_le _⟩

theorem Keeps.apply (keeps : Keeps b props) {op : ContextOp} (within : Within (op.update props))
    (safe : ¬op.DropsLast props) : Keeps (op.apply b) (op.update props) := by
  obtain ⟨holds, distinct, few⟩ := keeps
  refine ⟨?_, nodup_update distinct op, within.few⟩
  cases op with
  | add p =>
    rcases update_add_cases distinct p with ⟨new, eq⟩ |
      ⟨done, q, rest, rfl, same, ⟨size, eq⟩ | ⟨size, eq⟩⟩
    · rw [eq] at within ⊢
      exact holds.addTo new within.of_concat.1 within.of_concat.2
    · have before := (ne_of_distinct distinct).1
      rw [eq, apply, holds.addTo_same same before few size]
      exact holds.replaceContext same size
    · have before := (ne_of_distinct distinct).1
      rw [eq] at within ⊢
      rw [apply, holds.addTo_other same before few size]
      -- removed and added again: right unless it is the last one
      cases rest with
      | nil => exact absurd ⟨q, by simp, same, size⟩ safe
      | cons r rest => exact (holds.remove before few).addContext within.of_concat.1 within.of_concat.2
  | remove name =>
    rcases update_remove_cases distinct name with ⟨absent, eq⟩ | ⟨done, q, rest, rfl, rfl, eq⟩
    · rw [eq, ContextOp.apply, holds.remove_absent absent]
      exact holds
    · rw [eq]
      cases rest with
      | nil => exact absurd ⟨q, by simp, rfl⟩ safe
      | cons r rest => exact holds.remove (ne_of_distinct distinct).1 few
  | clear => exact holds.clear

theorem sum_length_encode (done : List Property) (q : Property) :
    ((done ++ [q]).map fun p => p.encode.length).sum =
      (done.map fun p => p.encode.length).sum + q.encode.length := by
  rw [List.map_append, List.sum_append, List.map_singleton, List.sum_singleton]

/-- What `_AddContext` does to a builder with free places: it writes the record behind the used
part, or nothing. -/
theorem addContext_cases (p : Property) (size : b.aBuffer.length = nBufferSize) (few : b.nContextCount < 20) :
    (ContextBuilder.addContext p.name p.value.type p.value.bytes b).2.nBufferCount =
        b.nBufferCount + p.encode.length ∨
      (ContextBuilder.addContext p.name p.value.type p.value.bytes b).2 = b := by
  have length := p.length_encode
  by_cases room : nBufferSize - b.nBufferCount ≥ p.name.bytes.length + 1 + 2 + p.value.bytes.length
  · left
    have written := write_eq (b := { b with
      aContext := b.aContext.set b.nContextCount b.nBufferCount
      nContextCount := b.nContextCount + 1 }) p size (by change b.nBufferCount + _ ≤ _; omega)
    rw [ContextBuilder.addContext, if_pos few, if_pos room]
    simp only [written]
    rfl
  · right
    rw [ContextBuilder.addContext, if_pos few, if_neg room]

/-- A call that takes the last record away leaves its bytes in the used part, or finds no room
for the new ones. -/
theorem Keeps.not_refines (keeps : Keeps b props) {op : ContextOp} (drops : op.DropsLast props) :
    ¬Refines (op.apply b) (op.update props) := by
  obtain ⟨holds, distinct, few⟩ := keeps
  have lastOf : ∀ q ∈ props.getLast?, ∃ done, props = done ++ [q] := by
    intro q last
    obtain ⟨nonempty, found⟩ := List.mem_getLast?_eq_getLast last
    exact ⟨props.dropLast, by rw [found, List.dropLast_append_getLast]⟩
  cases op with
  | add p =>
    obtain ⟨q, last, same, size⟩ := drops
    obtain ⟨done, rfl⟩ := lastOf q last
    have before := (ne_of_distinct distinct).1
    have old := holds.refines.total
    have positive := q.length_encode
    have update : (add p).update (done ++ [q]) = done ++ [p] := by
      have found := find_split distinct
      have others := filter_split distinct
      rw [same] at found others
      simp only [update, found, if_neg size, others, List.append_nil]
    rw [List.length_append] at few
    intro refines
    have count := refines.count
    have total := refines.total
    rw [update] at count total
    rw [ContextOp.apply, holds.addTo_other same before (by simpa using few) size,
      holds.remove_last before (by simpa using few)] at count total
    rw [sum_length_encode] at old total
    -- either there are the bytes of both values, or the property is missing
    rcases addContext_cases (b := { b with nContextCount := done.length }) p holds.size few with more | none
    · rw [more] at total
      dsimp only at total
      omega
    · rw [none, List.length_append, List.length_singleton] at count
      dsimp only at count
      omega
  | remove name =>
    obtain ⟨q, last, rfl⟩ := drops
    obtain ⟨done, rfl⟩ := lastOf q last
    have before := (ne_of_distinct distinct).1
    have old := holds.refines.total
    have positive := q.length_encode
    intro refines
    have total := refines.total
    rw [ContextOp.update, ContextOp.filter_split distinct, List.append_nil, ContextOp.apply,
      holds.remove_last before few] at total
    rw [sum_length_encode] at old
    dsimp only at total
    omega
  | clear => exact drops.elim

/-- After every call of a run that stays within the limits the builder is the map, if and only if
no call takes away the property that is last. -/
theorem refines_throughout_iff (ops : List ContextOp)
    (within : Throughout (fun before => Within (before.foldl update [])) ops) :
    Throughout (fun before => Refines (before.foldl apply initial)
        (before.foldl update [])) ops ↔
      Allowed update (fun props op => ¬op.DropsLast props) [] ops := by
  have keeps : ∀ (b : ContextBuilder) (props : List Property) (op : ContextOp), Keeps b props →
      Within (op.update props) → ¬op.DropsLast props → Keeps (op.apply b) (op.update props) :=
    fun _ _ _ keeps within safe => keeps.apply within safe
  have breaks : ∀ (b : ContextBuilder) (props : List Property) (op : ContextOp), Keeps b props →
      Within (op.update props) → ¬¬op.DropsLast props → ¬Refines (op.apply b) (op.update props) :=
    fun _ _ _ keeps _ drops => keeps.not_refines (not_not.mp drops)
  exact shows_iff_allowed keeps breaks (fun _ _ keeps => keeps.holds.refines) Keeps.initial within

end ContextBuilder

open ContextBuilder

/-- A property `a` of type `INT` is added and removed. -/
def addAndRemove : List ContextOp :=
  let name : PlcString := ⟨[97], by decide, by decide⟩
  [.add ⟨name, .int 5⟩, .remove name]

theorem within_addAndRemove :
    Throughout (fun before => ContextBuilder.Within (before.foldl update [])) addAndRemove := by
  simp only [addAndRemove, throughout_cons]
  refine ⟨by decide, by decide, ?_⟩
  intro before here
  rw [List.prefix_nil.mp here]
  decide

theorem refines_throughout_iff_addAndRemove :
    Throughout (fun before => ContextBuilder.Refines (before.foldl apply .initial)
        (before.foldl update [])) addAndRemove ↔
      Allowed update (fun props op => ¬op.DropsLast props) [] addAndRemove :=
  refines_throughout_iff addAndRemove within_addAndRemove

/-- The builder is empty again but for six bytes that belong to no property. -/
theorem addAndRemove_not_refines :
    Throughout (fun before => ContextBuilder.Within (before.foldl update [])) addAndRemove ∧
      addAndRemove.foldl update [] = [] ∧
      (addAndRemove.foldl apply initial).nBufferCount = 6 ∧
      ¬ContextBuilder.Refines (addAndRemove.foldl apply .initial)
        (addAndRemove.foldl update []) := by
  have stale : (addAndRemove.foldl apply initial).nBufferCount = 6 := by
    decide +kernel
  refine ⟨within_addAndRemove, by decide, stale, ?_⟩
  intro refines
  have total := refines.total
  exact absurd total (by decide)

end TcOtel.Plc
