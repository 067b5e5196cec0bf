import Mathlib.Data.String.Basic
import TcOtel.Lib.Buckets
import TcOtel.Lib.Json

/-!
# Records as JSON

A codec writes the values of a type as JSON and reads them, and reads what it has written
(`Codec.decode_encode`). A record is written as an object. When it is read, unknown fields are
ignored, a field that is there twice is an error, and one that is not there may have a default.
A record may also be read from an array of its fields.

`Fields` are the fields of a record, and are put together from single ones; so a codec for a record
is a list of its fields, and the law comes with it.
-/

namespace Coding

open Rendering Bucketing

variable {ν α β γ : Type}

/-! ### Objects -/

/-- The fields of an object, in the order of their keys. Of two values for one key it is the later
one. -/
def ordered (fields : List (String × β)) : List (String × β) :=
  collectSorted Prod.fst (fun field _ => field.2) fields

theorem pairwise_ordered (fields : List (String × β)) : ((ordered fields).map Prod.fst).Pairwise (· < ·) :=
  pairwise_collectSorted ..

theorem ordered_concat (fields : List (String × β)) (field : String × β) :
    ordered (fields ++ [field]) = upsertSorted field.1 (fun _ => field.2) (ordered fields) := by
  simp [ordered, collectSorted]

variable {fields : List (String × β)}

theorem ordered_perm (distinct : (fields.map Prod.fst).Nodup) : (ordered fields).Perm fields := by
  induction fields using List.reverseRecOn with
  | nil => exact .refl _
  | append_singleton fields field ih =>
    rw [List.map_append, List.nodup_append] at distinct
    obtain ⟨before, _, apart⟩ := distinct
    have kept := ih before
    have fresh : field.1 ∉ (ordered fields).map Prod.fst := by
      intro member
      have there := (kept.map Prod.fst).mem_iff.mp member
      exact apart _ there _ (List.mem_singleton_self _) rfl
    rw [ordered_concat]
    refine (upsertSorted_perm (pairwise_ordered fields)).trans ?_
    rw [upsert_of_notMem fresh]
    exact kept.append_right [field]

theorem eq_of_perm {xs ys : List (String × β)} (perm : xs.Perm ys) (first : (xs.map Prod.fst).Pairwise (· < ·))
    (second : (ys.map Prod.fst).Pairwise (· < ·)) : xs = ys := by
  rw [List.pairwise_map] at first second
  exact perm.eq_of_pairwise (fun _ _ _ _ less more => absurd less (lt_asymm more)) first second

theorem nodup_of_pairwise (sorted : (fields.map Prod.fst).Pairwise (· < ·)) : (fields.map Prod.fst).Nodup :=
  sorted.imp fun less => ne_of_lt less

theorem ordered_of_pairwise (sorted : (fields.map Prod.fst).Pairwise (· < ·)) : ordered fields = fields :=
  eq_of_perm (ordered_perm (nodup_of_pairwise sorted)) (pairwise_ordered fields) sorted

theorem ordered_map (change : String → β → γ) (fields : List (String × β)) :
    ordered (fields.map fun field => (field.1, change field.1 field.2)) =
      (ordered fields).map fun field => (field.1, change field.1 field.2) := by
  have insert : ∀ (key : String) (value : β) (entries : List (String × β)),
      upsertSorted key (fun _ => change key value) (entries.map fun field => (field.1, change field.1 field.2)) =
        (upsertSorted key (fun _ => value) entries).map fun field => (field.1, change field.1 field.2) := by
    intro key value entries
    induction entries with
    | nil => rfl
    | cons entry entries ih =>
      rw [List.map_cons, upsertSorted, upsertSorted]
      split
      · rfl
      split
      next same => rw [List.map_cons, same]
      · rw [ih, List.map_cons]
  induction fields using List.reverseRecOn with
  | nil => rfl
  | append_singleton fields field ih =>
    rw [List.map_append, List.map_singleton, ordered_concat, ih, insert, ordered_concat]

def Only (field : String × β) (fields : List (String × β)) : Prop :=
  fields.filter (fun other => other.1 = field.1) = [field]

theorem only_of_nodup (distinct : (fields.map Prod.fst).Nodup)
    (member : field ∈ fields) : Only field fields := by
  induction fields with
  | nil => cases member
  | cons other fields ih =>
    rw [List.map_cons, List.nodup_cons] at distinct
    rcases List.mem_cons.mp member with rfl | later
    · have none : fields.filter (fun other => other.1 = field.1) = [] := by
        rw [List.filter_eq_nil_iff]
        intro entry there same
        exact distinct.1 (of_decide_eq_true same ▸ List.mem_map_of_mem there)
      simp [Only, none]
    · have differ : ¬other.1 = field.1 := fun same => distinct.1 (same ▸ List.mem_map_of_mem later)
      rw [Only, List.filter_cons_of_neg (by simpa using differ)]
      exact ih distinct.2 later

theorem Only.perm (only : Only field fields) (perm : fields.Perm others) : Only field others := by
  have filtered := perm.filter fun other => decide (other.1 = field.1)
  rw [only] at filtered
  exact (List.perm_singleton.mp filtered.symm)

theorem only_ordered (distinct : (fields.map Prod.fst).Nodup)
    (member : field ∈ fields) : Only field (ordered fields) :=
  (only_of_nodup distinct member).perm (ordered_perm distinct).symm

/-! ### Maps -/

structure TextMap (β : Type) where
  entries : List (String × β)
  sorted : (entries.map Prod.fst).Pairwise (· < ·)
deriving DecidableEq

def TextMap.ofList (pairs : List (String × β)) : TextMap β := ⟨ordered pairs, pairwise_ordered pairs⟩

/-! ### Codecs -/

structure Codec (ν α : Type) where
  encode : α → Json ν
  decode : Json ν → Option α
  decode_encode : ∀ a, decode (encode a) = some a

namespace Codec

def bool : Codec ν Bool where
  encode := .bool
  decode
    | .bool b => some b
    | _ => none
  decode_encode _ := rfl

def string : Codec ν String where
  encode := .string
  decode
    | .string s => some s
    | _ => none
  decode_encode _ := rfl

def number (write : α → ν) (read : ν → Option α) (law : ∀ a, read (write a) = some a) : Codec ν α where
  encode a := .number (write a)
  decode
    | .number n => read n
    | _ => none
  decode_encode := law

def option (c : Codec ν α) (filled : ∀ a, c.encode a ≠ .null) : Codec ν (Option α) where
  encode
    | some a => c.encode a
    | none => .null
  decode
    | .null => some none
    | json => (c.decode json).map some
  decode_encode a := by
    cases a with
    | none => rfl
    | some a =>
      have value := c.decode_encode a
      have notNull := filled a
      dsimp only
      cases encoded : c.encode a with
      | null => exact absurd encoded notNull
      | _ =>
        rw [encoded] at value
        exact congrArg (Option.map some) value

def list (c : Codec ν α) : Codec ν (List α) where
  encode items := .array (items.map c.encode)
  decode
    | .array items => items.mapM c.decode
    | _ => none
  decode_encode items := by
    dsimp only
    induction items with
    | nil => rfl
    | cons item items ih => simp [c.decode_encode, ih]

def names (all : List α) (name : α → String) (listed : ∀ a, a ∈ all) (distinct : Function.Injective name) :
    Codec ν α where
  encode a := .string (name a)
  decode
    | .string s => all.find? fun a => name a = s
    | .object [(s, .null)] => all.find? fun a => name a = s
    | _ => none
  decode_encode a := by
    dsimp only
    cases found : all.find? fun other => name other = name a with
    | none => exact absurd (List.find?_eq_none.mp found a (listed a)) (by simp)
    | some other =>
      have same := List.find?_some found
      rw [distinct (of_decide_eq_true same)]

def map (c : Codec ν α) : Codec ν (TextMap α) where
  encode m := .object (m.entries.map fun entry => (entry.1, c.encode entry.2))
  decode
    | .object fields => (fields.mapM fun field => (c.decode field.2).map (field.1, ·)).map TextMap.ofList
    | _ => none
  decode_encode m := by
    have all : ∀ entries : List (String × α),
        (entries.map fun entry => (entry.1, c.encode entry.2)).mapM
          (fun field => (c.decode field.2).map (field.1, ·)) = some entries := by
      intro entries
      induction entries with
      | nil => rfl
      | cons entry entries ih => simp [c.decode_encode, ih]
    dsimp only
    rw [all, Option.map_some, TextMap.ofList]
    congr 1
    cases m with
    | mk entries sorted => simp [ordered_of_pairwise sorted]

end Codec

/-! ### Fields -/

/-- What stands for a field that is not there, in an object and at the end of an array. -/
structure Absent (α : Type) where
  inObject : Option α
  inArray : Option α

def Absent.error : Absent α := ⟨none, none⟩

/-- There is a default for it. -/
def Absent.default (a : α) : Absent α := ⟨some a, some a⟩

/-- An optional field without a default may be left out of an object, and not of an array. -/
def Absent.optional : Absent (Option α) := ⟨some none, none⟩

/-- Fields of a record. An object in which each of the fields is there once, as it is written, is
read. -/
structure Fields (ν α : Type) where
  names : List String
  write : α → List (String × Json ν)
  readObject : List (String × Json ν) → Option α
  readArray : List (Json ν) → Option (α × List (Json ν))
  keys_write : ∀ a, (write a).map Prod.fst = names
  readObject_write : ∀ a fields, (∀ field ∈ write a, Only field fields) → readObject fields = some a

namespace Fields

def field (name : String) (c : Codec ν α) (absent : Absent α) : Fields ν α where
  names := [name]
  write a := [(name, c.encode a)]
  readObject fields :=
    match fields.filter fun other => other.1 = name with
    | [] => absent.inObject
    | [(_, value)] => c.decode value
    | _ => none
  readArray
    | [] => absent.inArray.map (·, [])
    | value :: rest => (c.decode value).map (·, rest)
  keys_write _ := rfl
  readObject_write a fields only := by
    have one : fields.filter (fun other => other.1 = name) = [(name, c.encode a)] :=
      only _ (List.mem_singleton_self _)
    rw [one]
    exact c.decode_encode a

def and (first : Fields ν α) (second : Fields ν β) : Fields ν (α × β) where
  names := first.names ++ second.names
  write ab := first.write ab.1 ++ second.write ab.2
  readObject fields := do
    let a ← first.readObject fields
    let b ← second.readObject fields
    pure (a, b)
  readArray items := do
    let (a, rest) ← first.readArray items
    let (b, rest) ← second.readArray rest
    pure ((a, b), rest)
  keys_write ab := by rw [List.map_append, first.keys_write, second.keys_write]
  readObject_write ab fields only := by
    have one := first.readObject_write ab.1 fields fun field member =>
      only field (List.mem_append_left _ member)
    have other := second.readObject_write ab.2 fields fun field member =>
      only field (List.mem_append_right _ member)
    rw [one, other]
    rfl

def map (f : Fields ν α) (make : α → β) (parts : β → α) (law : ∀ b, make (parts b) = b) : Fields ν β where
  names := f.names
  write b := f.write (parts b)
  readObject fields := (f.readObject fields).map make
  readArray items := (f.readArray items).map fun (a, rest) => (make a, rest)
  keys_write b := f.keys_write (parts b)
  readObject_write b fields only := by
    rw [f.readObject_write (parts b) fields only, Option.map_some, law]

theorem nodup_keys (f : Fields ν α) (distinct : f.names.Nodup) (a : α) : ((f.write a).map Prod.fst).Nodup := by
  rw [f.keys_write]
  exact distinct

def read (f : Fields ν α) : Json ν → Option α
  | .object fields => f.readObject fields
  | .array items =>
    match f.readArray items with
    | some (a, []) => some a
    | _ => none
  | _ => none

def record (f : Fields ν α) (distinct : f.names.Nodup) : Codec ν α where
  encode a := .object (ordered (f.write a))
  decode := f.read
  decode_encode a :=
    f.readObject_write a _ fun _ member => only_ordered (f.nodup_keys distinct a) member

theorem record_ne_null (f : Fields ν α) (distinct : f.names.Nodup) (a : α) :
    (f.record distinct).encode a ≠ .null := by
  intro null
  cases null

/-! ### Tagged records -/

/-- A record with a tag in front, as its variant of an enumeration. -/
def tagged (f : Fields ν α) (tag variant : String) (a : α) : Json ν :=
  .object (ordered ((tag, .string variant) :: f.write a))

end Fields

def untag (tag : String) : Json ν → Option (String × Json ν)
  | .object fields =>
    match fields.filter fun other => other.1 = tag with
    | [(_, .string variant)] => some (variant, .object (fields.filter fun other => other.1 ≠ tag))
    | _ => none
  | .array (.string variant :: rest) => some (variant, .array rest)
  | _ => none

section

variable (f : Fields ν α) (distinct : f.names.Nodup) {tag : String} (apart : tag ∉ f.names) (variant : String)
  (a : α)
include distinct apart

theorem Fields.nodup_tagged : (((tag, Json.string variant) :: f.write a).map Prod.fst).Nodup := by
  rw [List.map_cons, List.nodup_cons, f.keys_write]
  exact ⟨apart, distinct⟩

theorem Fields.read_tagged :
    ∃ rest, untag tag (f.tagged tag variant a) = some (variant, rest) ∧ f.read rest = some a := by
  have keys := f.nodup_tagged distinct apart variant a
  have one : (ordered ((tag, .string variant) :: f.write a)).filter (fun other => other.1 = tag) =
      [(tag, .string variant)] := only_ordered keys List.mem_cons_self
  refine ⟨.object ((ordered ((tag, .string variant) :: f.write a)).filter fun other => other.1 ≠ tag),
    by simp only [Fields.tagged, untag, one], ?_⟩
  refine f.readObject_write a _ fun field member => ?_
  -- the fields have other keys than the tag, so that none of them is taken out with it
  have other : field.1 ≠ tag := by
    rintro rfl
    rw [← f.keys_write a] at apart
    exact apart (List.mem_map_of_mem member)
  have there := only_ordered keys (List.mem_cons_of_mem _ member)
  rw [Only] at there ⊢
  rw [List.filter_filter, ← there]
  congr 1
  funext entry
  by_cases same : entry.1 = field.1
  · simp [same, other]
  · simp [same]

end

/-! ### Values as they are -/

mutual

def canonical : Json ν → Json ν
  | .array items => .array (canonicalItems items)
  | .object fields => .object (ordered (canonicalFields fields))
  | .null => .null
  | .bool b => .bool b
  | .number n => .number n
  | .string s => .string s

def canonicalItems : List (Json ν) → List (Json ν)
  | [] => []
  | item :: items => canonical item :: canonicalItems items

def canonicalFields : List (String × Json ν) → List (String × Json ν)
  | [] => []
  | (key, value) :: fields => (key, canonical value) :: canonicalFields fields

end

theorem canonicalFields_eq_map (fields : List (String × Json ν)) :
    canonicalFields fields = fields.map fun field => (field.1, canonical field.2) := by
  induction fields with
  | nil => rfl
  | cons field fields ih => rw [canonicalFields, ih, List.map_cons]

theorem canonicalFields_ordered (fields : List (String × Json ν)) :
    canonicalFields (ordered fields) = ordered (canonicalFields fields) := by
  rw [canonicalFields_eq_map, canonicalFields_eq_map]
  exact (ordered_map (fun _ => canonical) fields).symm

theorem ordered_ordered (fields : List (String × β)) : ordered (ordered fields) = ordered fields :=
  ordered_of_pairwise (pairwise_ordered fields)

mutual

theorem canonical_canonical (json : Json ν) : canonical (canonical json) = canonical json := by
  cases json with
  | array items => rw [canonical, canonical, canonicalItems_canonicalItems items]
  | object fields =>
    rw [canonical, canonical, canonicalFields_ordered, ordered_ordered, canonicalFields_canonicalFields fields]
  | null | bool b | number n | string s => rfl

theorem canonicalItems_canonicalItems (items : List (Json ν)) :
    canonicalItems (canonicalItems items) = canonicalItems items := by
  cases items with
  | nil => rfl
  | cons item items =>
    rw [canonicalItems, canonicalItems, canonical_canonical item, canonicalItems_canonicalItems items]

theorem canonicalFields_canonicalFields (fields : List (String × Json ν)) :
    canonicalFields (canonicalFields fields) = canonicalFields fields := by
  cases fields with
  | nil => rfl
  | cons field fields =>
    obtain ⟨key, value⟩ := field
    rw [canonicalFields, canonicalFields, canonical_canonical value, canonicalFields_canonicalFields fields]

end

/-! ### Flattened records -/

structure Rest (ν : Type) (name : String) where
  fields : List (String × Json ν)
  sorted : (fields.map Prod.fst).Pairwise (· < ·)
  kept : canonicalFields fields = fields
  apart : name ∉ fields.map Prod.fst

/-- All other fields of an object. -/
def Rest.ofObject (name : String) (fields : List (String × Json ν)) : Rest ν name where
  fields := ordered (canonicalFields (fields.filter fun field => field.1 ≠ name))
  sorted := pairwise_ordered _
  kept := by rw [canonicalFields_ordered, canonicalFields_canonicalFields]
  apart := by
    intro member
    have collected := collected_collectSorted Prod.fst (fun (field : String × Json ν) _ => field.2)
      (canonicalFields (fields.filter fun field => field.1 ≠ name))
    obtain ⟨field, there, named⟩ := collected.mem_keys.mp member
    rw [canonicalFields_eq_map] at there
    obtain ⟨other, inside, rfl⟩ := List.mem_map.mp there
    have differs := (List.mem_filter.mp inside).2
    exact of_decide_eq_true differs named

theorem Rest.ofObject_ordered {name : String} (value : Json ν) (rest : Rest ν name) :
    Rest.ofObject name (ordered ((name, value) :: rest.fields)) = rest := by
  obtain ⟨fields, sorted, kept, apart⟩ := rest
  have distinct : (((name, value) :: fields).map Prod.fst).Nodup :=
    List.nodup_cons.mpr ⟨apart, nodup_of_pairwise sorted⟩
  have others : ((name, value) :: fields).filter (fun field => field.1 ≠ name) = fields := by
    rw [List.filter_cons_of_neg (by simp), List.filter_eq_self]
    intro field member
    exact decide_eq_true fun same => apart (same ▸ List.mem_map_of_mem member)
  have left : (ordered ((name, value) :: fields)).filter (fun field => field.1 ≠ name) = fields := by
    refine eq_of_perm ?_ ?_ sorted
    · have perm := (ordered_perm distinct).filter fun field => decide (field.1 ≠ name)
      rwa [others] at perm
    · exact (pairwise_ordered _).sublist (List.filter_sublist.map Prod.fst)
  have same : ordered (canonicalFields ((ordered ((name, value) :: fields)).filter fun field => field.1 ≠ name)) =
      fields := by rw [left, kept, ordered_of_pairwise sorted]
  simp only [ofObject, same]

/-- A record with one text that is known, and whatever else there is. -/
def flattened (name : String) : Codec ν (String × Rest ν name) where
  encode record := .object (ordered ((name, .string record.1) :: record.2.fields))
  decode
    | .object fields =>
      match fields.filter fun other => other.1 = name with
      | [(_, .string text)] => some (text, Rest.ofObject name fields)
      | _ => none
    | _ => none
  decode_encode record := by
    have distinct : (((name, .string record.1) :: record.2.fields).map Prod.fst).Nodup :=
      List.nodup_cons.mpr ⟨record.2.apart, nodup_of_pairwise record.2.sorted⟩
    have one : (ordered ((name, .string record.1) :: record.2.fields)).filter (fun other => other.1 = name) =
        [(name, .string record.1)] := only_ordered distinct List.mem_cons_self
    simp [one, Rest.ofObject_ordered]

/-! ### Looking into objects -/

def valueAt (name : String) : Json ν → Option (Json ν)
  | .object fields => (fields.find? fun field => field.1 = name).map Prod.snd
  | _ => none

def updateAt (name : String) (change : Json ν → Json ν) : Json ν → Json ν
  | .object fields => .object (fields.map fun field => (field.1, if field.1 = name then change field.2 else field.2))
  | json => json

theorem valueAt_of_only {field : String × Json ν} {fields : List (String × Json ν)} (only : Only field fields) :
    valueAt field.1 (.object fields) = some field.2 := by
  rw [valueAt, ← List.head?_filter, only]
  rfl

theorem updateAt_ordered (name : String) (change : Json ν → Json ν) (fields : List (String × Json ν)) :
    updateAt name change (.object (ordered fields)) =
      .object (ordered (fields.map fun field => (field.1, if field.1 = name then change field.2 else field.2))) :=
  congrArg Json.object (ordered_map (fun key value => if key = name then change value else value) fields).symm

theorem Fields.valueAt_tagged (f : Fields ν α) (distinct : f.names.Nodup) (apart : tag ∉ f.names)
    (variant : String) (a : α) : valueAt tag (f.tagged tag variant a) = some (.string variant) :=
  valueAt_of_only (only_ordered (f.nodup_tagged distinct apart variant a) List.mem_cons_self)

/-! ### Changing one field -/

/-- The fields of `a`, with one changed, are those of `b`. -/
def Fields.Updates (f : Fields ν α) (name : String) (change : Json ν → Json ν) (a b : α) : Prop :=
  (f.write a).map (fun field => (field.1, if field.1 = name then change field.2 else field.2)) = f.write b

namespace Fields.Updates

variable {f : Fields ν α} {g : Fields ν β} {name : String} {change : Json ν → Json ν} {a b : α}

theorem of_notMem (apart : name ∉ f.names) (a : α) : f.Updates name change a a := by
  have kept : ∀ field ∈ f.write a,
      (field.1, if field.1 = name then change field.2 else field.2) = field := by
    intro field member
    have other : field.1 ≠ name := by
      rintro rfl
      rw [← f.keys_write a] at apart
      exact apart (List.mem_map_of_mem member)
    rw [if_neg other]
  exact (List.map_congr_left kept).trans (List.map_id _)

theorem field (law : change (c.encode a) = c.encode b) :
    (Fields.field name c absent).Updates name change a b := by
  simp [Updates, Fields.field, law]

theorem and (first : f.Updates name change a b) (second : g.Updates name change x y) :
    (f.and g).Updates name change (a, x) (b, y) := by
  rw [Updates] at first second
  simp [Updates, Fields.and, first, second]

theorem behind (apart : name ∉ f.names) (later : g.Updates name change x y) :
    (f.and g).Updates name change (a, x) (a, y) :=
  (of_notMem apart a).and later

theorem ahead (apart : name ∉ g.names) (first : f.Updates name change a b) :
    (f.and g).Updates name change (a, x) (b, x) :=
  first.and (of_notMem apart x)

theorem record (updates : f.Updates name change a b) :
    updateAt name change ((f.record distinct).encode a) = (f.record distinct).encode b := by
  rw [Updates] at updates
  simp [Fields.record, updateAt_ordered, updates]

theorem tagged (apart : tag ≠ name) (updates : f.Updates name change a b) :
    updateAt name change (f.tagged tag variant a) = f.tagged tag variant b := by
  rw [Updates] at updates
  simp [Fields.tagged, updateAt_ordered, if_neg apart, updates]

end Fields.Updates

end Coding
