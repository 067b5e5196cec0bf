import TcOtel.Core.Json
import TcOtel.Export.TracesProto
import TcOtel.Lib.Buckets
import Mathlib

/-!
# What the protobuf encoders share

`proto_common.rs`: attribute values, resources, and the grouping of records by their resource. Records
are grouped by a text that is made of the attributes, the fingerprint, and equal fingerprints are of
equal attributes as long as no key holds the separator (`resourceFingerprint_injective`). An encoder
makes one block for each resource and within it one for each scope; `layout` is what it puts where.
-/

namespace TcOtel.Otlp

open Rendering Bucketing

/-! ### Attribute values -/

inductive AnyValue where
  | boolValue (b : Bool)
  | stringValue (s : String)
  | intValue (i : Int64)
  | doubleValue (f : F64)
  | arrayValue (values : List AnyValue)
  | kvlistValue (values : List (String × AnyValue))
deriving Repr

def numberToAnyValue (n : Number) : AnyValue :=
  match n.asI64 with
  | some i => .intValue i
  | none =>
    match n.asU64 with
    -- an integer beyond an `i64` wraps around
    | some u => .intValue u.toInt64
    | none => .doubleValue n.asF64

mutual

/-- Nothing for a `null`, which is left out of arrays and objects too. -/
def jsonToAnyValue : Json → Option AnyValue
  | .null => none
  | .bool b => some (.boolValue b)
  | .string s => some (.stringValue s)
  | .number n => some (numberToAnyValue n)
  | .array items => some (.arrayValue (itemsToAnyValues items))
  | .object fields => some (.kvlistValue (fieldsToKeyValues fields))

def itemsToAnyValues : List Json → List AnyValue
  | [] => []
  | v :: items =>
    match jsonToAnyValue v with
    | some av => av :: itemsToAnyValues items
    | none => itemsToAnyValues items

def fieldsToKeyValues : List (String × Json) → List (String × AnyValue)
  | [] => []
  | (k, v) :: fields =>
    match jsonToAnyValue v with
    | some av => (k, av) :: fieldsToKeyValues fields
    | none => fieldsToKeyValues fields

end

def buildAttributes (attrs : Attributes) : Multiset (String × AnyValue) :=
  attrs.entries.filterMap fun entry => (jsonToAnyValue entry.2).map fun av => (entry.1, av)

theorem filterMap_congr {α β : Type} {s : Multiset α} {f g : α → Option β} (same : ∀ a ∈ s, f a = g a) :
    s.filterMap f = s.filterMap g := by
  induction s using Quotient.inductionOn with
  | h l => exact congrArg _ (List.filterMap_congr same)

/-- A `Resource`. No attribute is counted as dropped, and there are no entities. -/
structure Resource where
  attributes : Multiset (String × AnyValue)

def buildResource (resourceAttrs : Attributes) : Resource where
  attributes := buildAttributes resourceAttrs

/-! ### Fingerprints -/

/-- U+001F, behind each entry of a fingerprint. -/
def unitSeparator : Char := Char.ofNat 0x1F

/-- The entries by key, as a `BTreeMap` has them. -/
def sortedEntries (attrs : Attributes) : List (String × Json) :=
  (attrs.keys.sort (· ≤ ·)).filterMap fun k => (attrs.lookup k).map fun v => (k, v)

def resourceFingerprint (z : Zmij) (attrs : Attributes) : String :=
  String.ofList (entriesText z.numerals unitSeparator (sortedEntries attrs))

theorem mem_sortedEntries : (k, v) ∈ sortedEntries attrs ↔ attrs.lookup k = some v := by
  simp only [sortedEntries, List.mem_filterMap, Finset.mem_sort, Option.map_eq_some_iff, Prod.mk.injEq]
  constructor
  · rintro ⟨k, -, v, found, rfl, rfl⟩
    exact found
  · intro found
    exact ⟨k, Finmap.mem_of_lookup_eq_some found, v, found, rfl, rfl⟩

/-- No key holds the separator. -/
def Separable (attrs : Attributes) : Prop := ∀ k ∈ attrs, unitSeparator ∉ k.toList

theorem resourceFingerprint_injective (z : Zmij) (separable : Separable attrs)
    (separableToo : Separable others) (same : resourceFingerprint z attrs = resourceFingerprint z others) :
    attrs = others := by
  have free {m : Attributes} (separable : Separable m) : ∀ entry ∈ sortedEntries m, unitSeparator ∉ entry.1.toList :=
    fun entry member => separable _ (Finmap.mem_of_lookup_eq_some (mem_sortedEntries.mp member))
  -- the text of a fingerprint gives back its entries
  have entries : sortedEntries attrs = sortedEntries others :=
    entriesText_injective (by decide) (free separable) (free separableToo) (String.ofList_injective same)
  refine Finmap.ext_lookup fun k => Option.ext fun v => ?_
  rw [← mem_sortedEntries, entries, mem_sortedEntries]

/-! ### Groups of records -/

section Groups

variable {ρ : Type}

def addToResource (resourceOf : ρ → Attributes) (record : ρ) (bucket : Option (Attributes × List ρ)) :
    Attributes × List ρ :=
  let (resource, records) := bucket.getD (resourceOf record, [])
  (resource, records ++ [record])

def groupRecordsByResource (z : Zmij) (records : List ρ) (resourceOf : ρ → Attributes) :
    List (Attributes × List ρ) :=
  if records.isEmpty then []
  else
    (collectSorted (fun r => resourceFingerprint z (resourceOf r)) (addToResource resourceOf) records).map Prod.snd

def addToScope (record : ρ) (bucket : Option (List ρ)) : List ρ := bucket.getD [] ++ [record]

/-- The loop over the records of one resource: a bucket for each scope, by the first record of it. -/
def scopeBuckets (keyOf : ρ → String) (bucket : List ρ) : List (String × List ρ) := collect keyOf addToScope bucket

variable {resourceOf : ρ → Attributes} {keyOf : ρ → String} {records bucket : List ρ}

theorem groupRecordsByResource_divides (z : Zmij) (records : List ρ) (resourceOf : ρ → Attributes) :
    Divides ((groupRecordsByResource z records resourceOf).map Prod.snd) records := by
  have collected := collected_collectSorted (fun r => resourceFingerprint z (resourceOf r))
    (addToResource resourceOf) records
  have divides := collected.divides Prod.snd (fun _ => rfl) fun _ _ => rfl
  rw [groupRecordsByResource]
  split
  case isTrue empty =>
    rw [List.isEmpty_iff.mp empty]
    exact ⟨.refl _, nofun⟩
  case isFalse =>
    rw [List.map_map]
    exact divides

theorem fill_addToResource (filled : fill (addToResource resourceOf) records = some (attrs, bucket)) :
    ∃ first ∈ records, resourceOf first = attrs := by
  induction records using List.reverseRecOn generalizing attrs bucket with
  | nil => cases filled
  | append_singleton before r ih =>
    rw [fill_append, Option.some.injEq] at filled
    -- a bucket keeps the resource it was opened with
    cases earlier : fill (addToResource resourceOf) before with
    | none =>
      rw [earlier] at filled
      exact ⟨r, by simp, congrArg Prod.fst filled⟩
    | some pair =>
      obtain ⟨first, member, resource⟩ := @ih pair.2 pair.1 earlier
      rw [earlier] at filled
      exact ⟨first, by simp [member], resource.trans (congrArg Prod.fst filled)⟩

theorem resource_of_mem_group (z : Zmij) (separable : ∀ r ∈ records, Separable (resourceOf r))
    (member : group ∈ groupRecordsByResource z records resourceOf)
    (listed : r ∈ group.2) : resourceOf r = group.1 := by
  rw [groupRecordsByResource] at member
  split at member
  · cases member
  · obtain ⟨⟨fingerprint, attrs, bucket⟩, stored, rfl⟩ := List.mem_map.mp member
    have collected := collected_collectSorted (fun r => resourceFingerprint z (resourceOf r))
      (addToResource resourceOf) records
    have held := (collected.items_eq Prod.snd (fun _ => rfl) (fun _ _ => rfl) stored).1
    -- the record and the first one of the bucket have the same fingerprint
    obtain ⟨first, here, rfl⟩ := fill_addToResource (collected.mem_iff.mp stored)
    obtain ⟨inFirst, keyFirst⟩ := List.mem_filter.mp here
    obtain ⟨inBatch, key⟩ := List.mem_filter.mp (held ▸ listed)
    rw [decide_eq_true_eq] at key keyFirst
    exact resourceFingerprint_injective z (separable r inBatch) (separable first inFirst) (key.trans keyFirst.symm)

theorem scopeBuckets_divides (keyOf : ρ → String) (bucket : List ρ) :
    Divides ((scopeBuckets keyOf bucket).map Prod.snd) bucket :=
  (collected_collect keyOf addToScope bucket).divides id (fun _ => rfl) fun _ _ => rfl

theorem mem_scopeBuckets (member : scope ∈ scopeBuckets keyOf bucket) :
    scope.2 ≠ [] ∧ ∀ r ∈ scope.2, keyOf r = scope.1 := by
  obtain ⟨held, filled⟩ :=
    (collected_collect keyOf addToScope bucket).items_eq id (fun _ => rfl) (fun _ _ => rfl) member
  refine ⟨filled, fun r listed => ?_⟩
  rw [show scope.2 = _ from held, List.mem_filter, decide_eq_true_eq] at listed
  exact listed.2

end Groups

/-! ### Blocks -/

structure InstrumentationScope where
  name : String
  version : String
  attributes : Multiset (String × AnyValue)

structure ScopeBlock (π : Type) where
  scope : InstrumentationScope
  records : List π

structure ResourceBlock (π : Type) where
  resource : Resource
  scopes : List (ScopeBlock π)

def defaultScopeName : String := "tc-otel"

def crateVersion : String := "0.1.2"

/-- The name under which the records of a scope are exported. -/
def effectiveScopeName (scopeName : String) : String := if scopeName.isEmpty then defaultScopeName else scopeName

section Blocks

variable {ρ π : Type}

/-- The outer loop of the encoders, which differ in how they find the scopes of a resource and in what
they write for a scope. There is no result if one of these panics. -/
def buildBlocks (z : Zmij) (resourceOf : ρ → Attributes) (scopesOf : List ρ → Option (List (String × List ρ)))
    (buildScope : String → List ρ → Option (ScopeBlock π)) (records : List ρ) : Option (List (ResourceBlock π)) :=
  (groupRecordsByResource z records resourceOf).mapM fun (resourceAttrs, bucket) => do
    let groups ← scopesOf bucket
    let scopes ← groups.mapM fun (scopeName, bucket) => buildScope scopeName bucket
    pure { resource := buildResource resourceAttrs, scopes }

def scopeBlocks (blocks : List (ResourceBlock π)) : List (Resource × ScopeBlock π) :=
  blocks.flatMap fun block => block.scopes.map fun scope => (block.resource, scope)

structure Block (ρ : Type) where
  resource : Attributes
  scope : String
  records : List ρ

def layout (z : Zmij) (resourceOf : ρ → Attributes) (keyOf : ρ → String) (records : List ρ) : List (Block ρ) :=
  (groupRecordsByResource z records resourceOf).flatMap fun (resource, bucket) =>
    (scopeBuckets keyOf bucket).map fun (scope, records) => { resource, scope, records }

variable {z : Zmij} {resourceOf : ρ → Attributes} {keyOf : ρ → String} {records : List ρ}

theorem layout_divides (z : Zmij) (resourceOf : ρ → Attributes) (keyOf : ρ → String) (records : List ρ) :
    Divides ((layout z resourceOf keyOf records).map Block.records) records := by
  rw [layout, List.map_flatMap]
  refine (groupRecordsByResource_divides z records resourceOf).flatMap fun group member => ?_
  rw [List.map_map]
  exact scopeBuckets_divides keyOf group.2

theorem mem_layout (separable : ∀ r ∈ records, Separable (resourceOf r))
    (member : block ∈ layout z resourceOf keyOf records) :
    block.records ≠ [] ∧ ∀ r ∈ block.records, resourceOf r = block.resource ∧ keyOf r = block.scope := by
  obtain ⟨group, grouped, inGroup⟩ := List.mem_flatMap.mp member
  obtain ⟨scope, inScope, rfl⟩ := List.mem_map.mp inGroup
  obtain ⟨filled, keys⟩ := mem_scopeBuckets inScope
  refine ⟨filled, fun r listed => ⟨?_, keys r listed⟩⟩
  have inBucket := ((scopeBuckets_divides keyOf group.2).ordered _ (List.mem_map_of_mem inScope)).mem listed
  exact resource_of_mem_group z separable grouped inBucket

section Results

variable {scopesOf : List ρ → Option (List (String × List ρ))} {buildScope : String → List ρ → Option (ScopeBlock π)}
  (byScope : ∀ bucket, scopesOf bucket = some (scopeBuckets keyOf bucket))

include byScope

/-- The scope blocks of a payload are those of the layout, in their order. -/
theorem forall₂_of_buildBlocks (built : buildBlocks z resourceOf scopesOf buildScope records = some blocks) :
    List.Forall₂ (fun block (written : Resource × ScopeBlock π) =>
        written.1 = buildResource block.resource ∧ buildScope block.scope block.records = some written.2)
      (layout z resourceOf keyOf records) (scopeBlocks blocks) := by
  refine List.rel_flatMap (mapM_eq_some_iff.mp built) ?_
  rintro ⟨resource, bucket⟩ block made
  simp only at made
  rw [byScope, Option.bind_eq_bind, Option.bind_some, Option.bind_eq_bind, Option.bind_eq_some_iff] at made
  obtain ⟨scopes, each, whole⟩ := made
  cases whole
  rw [List.forall₂_map_left_iff, List.forall₂_map_right_iff]
  exact (mapM_eq_some_iff.mp each).imp fun _ _ written => ⟨rfl, written⟩

theorem isSome_buildBlocks_iff : (buildBlocks z resourceOf scopesOf buildScope records).isSome ↔
    ∀ block ∈ layout z resourceOf keyOf records, (buildScope block.scope block.records).isSome := by
  rw [buildBlocks, isSome_mapM_iff, layout, List.forall_mem_flatMap]
  refine forall₂_congr ?_
  rintro ⟨resource, bucket⟩ -
  have made : ((scopeBuckets keyOf bucket).mapM fun (scopeName, bucket) => buildScope scopeName bucket).isSome ↔
      ∀ scope ∈ scopeBuckets keyOf bucket, (buildScope scope.1 scope.2).isSome := isSome_mapM_iff
  have wrapped {α β : Type} (o : Option α) (f : α → β) : (o.bind fun a => some (f a)).isSome = o.isSome := by
    cases o <;> rfl
  simp only [byScope, Option.bind_eq_bind, Option.bind_some, Option.pure_def, wrapped, made, List.forall_mem_map]

end Results

/-- Every record is written once, in a block with the attributes of its resource and under the name of
its scope, and the records of a block are in the order of the batch. -/
def Placed (resourceOf : ρ → Attributes) (scopeOf : ρ → String) (build : ρ → Option π) (records : List ρ)
    (payload : List (ResourceBlock π)) : Prop :=
  ∃ blocks : List (Block ρ), Divides (blocks.map Block.records) records ∧
    (∀ block ∈ blocks, ∀ r ∈ block.records, resourceOf r = block.resource ∧ scopeOf r = block.scope) ∧
    List.Forall₂ (fun block (written : Resource × ScopeBlock π) =>
        written.1 = buildResource block.resource ∧ written.2.scope.name = block.scope ∧
          block.records.mapM build = some written.2.records)
      blocks (scopeBlocks payload)

theorem Placed.isSome
    (placed : Placed resourceOf scopeOf build records payload) (member : r ∈ records) : (build r).isSome := by
  obtain ⟨blocks, divides, -, written⟩ := placed
  obtain ⟨part, inParts, inPart⟩ := List.mem_flatten.mp (divides.once.mem_iff.mpr member)
  obtain ⟨block, listed, rfl⟩ := List.mem_map.mp inParts
  obtain ⟨out, -, -, -, made⟩ := exists_of_forall₂ written listed
  exact isSome_mapM_iff.mp (made ▸ rfl) r inPart

/-- The encoders place a batch unless one of its records cannot be written at all. They write the records
of a scope one by one, under a name that is made of the key of the scope. -/
theorem exists_placed_iff (keyOf : ρ → String) (nameOf : String → String)
    {scopesOf : List ρ → Option (List (String × List ρ))} {buildScope : String → List ρ → Option (ScopeBlock π)}
    (byScope : ∀ bucket, scopesOf bucket = some (scopeBuckets keyOf bucket))
    (writes : ∀ key bucket, bucket ≠ [] → ∃ scope : InstrumentationScope, scope.name = nameOf key ∧
      buildScope key bucket = (bucket.mapM build).map fun records => { scope, records })
    (separable : ∀ r ∈ records, Separable (resourceOf r)) :
    (∃ payload, buildBlocks z resourceOf scopesOf buildScope records = some payload ∧
        Placed resourceOf (fun r => nameOf (keyOf r)) build records payload) ↔
      ∀ r ∈ records, (build r).isSome := by
  constructor
  · rintro ⟨payload, -, placed⟩ r member
    exact placed.isSome member
  · intro buildable
    have divides := layout_divides z resourceOf keyOf records
    have whole : (buildBlocks z resourceOf scopesOf buildScope records).isSome := by
      rw [isSome_buildBlocks_iff byScope]
      intro block listed
      obtain ⟨scope, -, written⟩ := writes block.scope block.records (mem_layout separable listed).1
      rw [written, Option.isSome_map, isSome_mapM_iff]
      exact fun r member => buildable r ((divides.ordered _ (List.mem_map_of_mem listed)).mem member)
    obtain ⟨payload, built⟩ := Option.isSome_iff_exists.mp whole
    -- the blocks keep their records and get the names that are exported
    refine ⟨payload, built, (layout z resourceOf keyOf records).map fun block =>
      { block with scope := nameOf block.scope }, ?_, ?_, ?_⟩
    · rw [List.map_map]
      exact divides
    · simp only [List.forall_mem_map]
      intro block listed r member
      obtain ⟨resource, key⟩ := (mem_layout separable listed).2 r member
      exact ⟨resource, congrArg nameOf key⟩
    · rw [List.forall₂_map_left_iff]
      have filled : ∀ block ∈ layout z resourceOf keyOf records, block.records ≠ [] :=
        fun block listed => (mem_layout separable listed).1
      refine (List.forall₂_and_left _ _ |>.mpr ⟨filled, forall₂_of_buildBlocks byScope built⟩).imp ?_
      rintro block written ⟨filled, resource, scope⟩
      obtain ⟨message, name, made⟩ := writes block.scope block.records filled
      rw [made, Option.map_eq_some_iff] at scope
      obtain ⟨out, each, whole⟩ := scope
      exact ⟨resource, by rw [← whole, name], by rw [← whole, each]⟩

end Blocks

end TcOtel.Otlp
