import TcOtel.Export.JsonPayload
import Mathlib

/-!
# JSON and protobuf payloads of one batch

What the two payloads of a batch have in common, and when it is all (`payloads_agree_iff`). They never
agree on the version of a scope, and for logs not on the observed time either, as the JSON payload has
neither. Beyond that they agree if and only if every record of the batch is of a kind that both encoders
treat alike: no value of an attribute is null, an array, an object or an integer beyond the range of an
`i64`, no time is before 1970, the body of a log is a text, ids are empty or of full length, and so on.
That is necessary in the whole batch, too: one payload cannot make up with one record for another. What
the JSON payload writes in a way of its own weighs something there (`weight`), and nothing in the protobuf
payload weighs more.
-/

namespace TcOtel.Otlp

open Rendering Bucketing Iterating Decoding
open TcOtel.Export (decodeFixedHex decodePairs decodeTraceIdHex decodeSpanIdHex datetimeToUnixNano)

/-! ### The records of a protobuf payload -/

section Blocks

variable {ρ π : Type} {z : Zmij} {resourceOf : ρ → Attributes} {keyOf : ρ → String} {records : List ρ}

def peers (z : Zmij) (resourceOf : ρ → Attributes) (keyOf : ρ → String) (records : List ρ) (r : ρ) : List ρ :=
  records.filter fun s =>
    resourceFingerprint z (resourceOf s) = resourceFingerprint z (resourceOf r) ∧ keyOf s = keyOf r

theorem records_eq_peers (member : block ∈ layout z resourceOf keyOf records)
    (listed : r ∈ block.records) : block.records = peers z resourceOf keyOf records r := by
  obtain ⟨group, grouped, inGroup⟩ := List.mem_flatMap.mp member
  obtain ⟨scope, inScope, rfl⟩ := List.mem_map.mp inGroup
  rw [groupRecordsByResource] at grouped
  split at grouped
  · cases grouped
  -- the records of a group are those with its fingerprint, and those of a scope are the ones with its key
  obtain ⟨⟨fingerprint, group⟩, stored, rfl⟩ := List.mem_map.mp grouped
  have collected := collected_collectSorted (fun r => resourceFingerprint z (resourceOf r))
    (addToResource resourceOf) records
  have outer : group.2 = _ := (collected.items_eq Prod.snd (fun _ => rfl) (fun _ _ => rfl) stored).1
  have inner : scope.2 = _ :=
    ((collected_collect keyOf addToScope group.2).items_eq id (fun _ => rfl) (fun _ _ => rfl) inScope).1
  have held : scope.2 =
      records.filter fun s => resourceFingerprint z (resourceOf s) = fingerprint ∧ keyOf s = scope.1 := by
    rw [inner, outer]
    simp [and_comm]
  have own : r ∈ scope.2 := listed
  rw [held] at own
  simp only [List.mem_filter, decide_eq_true_eq] at own
  obtain ⟨-, rfl, keys⟩ := own
  rw [peers, keys]
  exact held

variable {scopesOf : List ρ → Option (List (String × List ρ))} {buildScope : String → List ρ → Option (ScopeBlock π)}
  {build : ρ → Option π} {scopeOf : String → List ρ → InstrumentationScope}

def protoEntry (resource : Attributes) (scope : InstrumentationScope) (record : Option π) : Option (Entry π) :=
  record.map fun record => { resource := buildResource resource, scope, record }

theorem entries_buildBlocks (byScope : ∀ bucket, scopesOf bucket = some (scopeBuckets keyOf bucket))
    (writes : ∀ key bucket, bucket ≠ [] →
      buildScope key bucket = (bucket.mapM build).map fun records => { scope := scopeOf key bucket, records })
    (separable : ∀ r ∈ records, Separable (resourceOf r)) :
    (buildBlocks z resourceOf scopesOf buildScope records).map entries =
      (records.mapM fun r =>
        protoEntry (resourceOf r) (scopeOf (keyOf r) (peers z resourceOf keyOf records r)) (build r)).map
        Multiset.ofList := by
  have divides := layout_divides z resourceOf keyOf records
  rw [← mapM_perm _ divides.once]
  cases built : buildBlocks z resourceOf scopesOf buildScope records with
  | some blocks =>
    -- block by block, and record by record within a block
    have written := List.forall₂_and_left _ _ |>.mpr ⟨fun _ member => member, forall₂_of_buildBlocks byScope built⟩
    refine (congrArg (Option.map Multiset.ofList) (mapM_eq_some_iff.mpr (List.rel_flatMap written ?_))).symm
    rintro block ⟨resource, scope⟩ ⟨listed, resources, made⟩
    obtain ⟨filled, common⟩ := mem_layout separable listed
    rw [writes _ _ filled, Option.map_eq_some_iff] at made
    obtain ⟨out, each, whole⟩ := made
    cases whole
    rw [List.forall₂_map_right_iff]
    refine (List.forall₂_and_left _ _ |>.mpr ⟨fun _ member => member, mapM_eq_some_iff.mp each⟩).imp ?_
    rintro r record ⟨member, recordMade⟩
    obtain ⟨sameResource, sameKey⟩ := common r member
    have together := records_eq_peers listed member
    rw [recordMade, sameResource, sameKey, ← together, protoEntry, Option.map_some, ← resources]
  | none =>
    -- if every record could be written, so could every block
    have missing : ¬(((layout z resourceOf keyOf records).map Block.records).flatten.mapM fun r =>
        protoEntry (resourceOf r) (scopeOf (keyOf r) (peers z resourceOf keyOf records r)) (build r)).isSome := by
      rw [isSome_mapM_iff]
      intro every
      have whole := (@isSome_buildBlocks_iff _ _ z resourceOf _ records _ buildScope byScope).mpr fun block listed => by
        rw [writes _ _ (mem_layout separable listed).1, Option.isSome_map, isSome_mapM_iff]
        intro r member
        have inParts := List.mem_flatten.mpr ⟨_, List.mem_map_of_mem listed, member⟩
        simpa [protoEntry] using every r inParts
      rw [built] at whole
      cases whole
    rw [Option.not_isSome_iff_eq_none.mp missing]
    rfl

end Blocks

/-! ### Ids -/

/-- An id that is empty, or hexadecimal and of full length. -/
def IdAgrees (n : Nat) (s : String) : Prop := s = "" ∨ ∃ bytes, hexDecode s.toList = some bytes ∧ bytes.length = n

theorem hexValue_byte (digit : hexValue c = some v) :
    ∃ b : UInt8, String.utf8EncodeChar c = [b] ∧ hexValue (Char.ofNat b.toNat) = some v ∧ b ≠ 43 ∧
      isContinuation b = false := by
  have below {d : Char} (le : c ≤ d) : c.toNat ≤ d.toNat := UInt32.le_iff_toNat_le.mp (Char.le_def.mp le)
  -- all digits are ASCII, and for those it is a finite check
  have small : c.toNat < 128 := by
    rw [hexValue] at digit
    split_ifs at digit with decimal lower upper
    · exact Nat.lt_of_le_of_lt (below decimal.2) (by decide)
    · exact Nat.lt_of_le_of_lt (below lower.2) (by decide)
    · exact Nat.lt_of_le_of_lt (below upper.2) (by decide)
  have all : ∀ n < 128, (hexValue (Char.ofNat n)).isSome →
      String.utf8EncodeChar (Char.ofNat n) = [UInt8.ofNat n] ∧ Char.ofNat (UInt8.ofNat n).toNat = Char.ofNat n ∧
        UInt8.ofNat n ≠ 43 ∧ isContinuation (UInt8.ofNat n) = false := by
    decide +kernel
  rw [← Char.ofNat_toNat c] at digit ⊢
  obtain ⟨encoded, same, noSign, boundary⟩ := all c.toNat small (digit ▸ rfl)
  exact ⟨_, encoded, same ▸ digit, noSign, boundary⟩

variable {bytes : List UInt8}

/-- Every digit is one character and one byte. -/
theorem length_of_hexDecode (decoded : hexDecode cs = some bytes) :
    cs.length = 2 * bytes.length ∧ (cs.flatMap String.utf8EncodeChar).length = 2 * bytes.length := by
  fun_induction hexDecode cs generalizing bytes with
  | case1 => cases decoded; exact ⟨rfl, rfl⟩
  | case2 => cases decoded
  | case3 high low rest ih =>
    simp only [Option.bind_eq_bind, Option.bind_eq_some_iff, Option.pure_def, Option.some.injEq] at decoded
    obtain ⟨h, first, l, second, more, behind, rfl⟩ := decoded
    obtain ⟨hi, highEncoded, -⟩ := hexValue_byte first
    obtain ⟨lo, lowEncoded, -⟩ := hexValue_byte second
    have rest := ih behind
    simp only [List.flatMap_cons, highEncoded, lowEncoded, List.length_append, List.length_cons, List.length_nil]
    omega

theorem decodePairs_of_hexDecode (decoded : hexDecode cs = some bytes)
    (out : List UInt8) : decodePairs out (cs.flatMap String.utf8EncodeChar) = some (out ++ bytes) := by
  fun_induction hexDecode cs generalizing bytes out with
  | case1 => cases decoded; simp [decodePairs]
  | case2 => cases decoded
  | case3 high low rest ih =>
    simp only [Option.bind_eq_bind, Option.bind_eq_some_iff, Option.pure_def, Option.some.injEq] at decoded
    obtain ⟨h, first, l, second, more, behind, rfl⟩ := decoded
    obtain ⟨hi, highEncoded, highValue, noSign, boundary⟩ := hexValue_byte first
    obtain ⟨lo, lowEncoded, lowValue, -, -⟩ := hexValue_byte second
    -- the slice ends at the next digit, or at the end of the text
    have next : ((rest.flatMap String.utf8EncodeChar).head?.any isContinuation) = false := by
      cases rest with
      | nil => rfl
      | cons c rest =>
        cases rest with
        | nil => cases behind
        | cons d rest =>
          simp only [hexDecode, Option.bind_eq_bind, Option.bind_eq_some_iff] at behind
          obtain ⟨v, digit, -⟩ := behind
          obtain ⟨b, encoded, -, -, inner⟩ := hexValue_byte digit
          simp [encoded, inner]
    have pair : TcOtel.Export.fromStrRadix16 hi lo = some (UInt8.ofNat (16 * h + l)) := by
      simp [TcOtel.Export.fromStrRadix16, noSign, highValue, lowValue]
    rw [List.flatMap_cons, List.flatMap_cons, highEncoded, lowEncoded]
    simp only [List.singleton_append, decodePairs, boundary, next, Bool.or_self, Bool.false_eq_true, if_false, pair]
    rw [ih behind, List.append_assoc, List.singleton_append]

theorem length_of_decodePairs (decoded : decodePairs out bs = some bytes) :
    bytes = [] ∨ bytes.length = out.length + bs.length / 2 := by
  fun_induction decodePairs out bs generalizing bytes with
  | case1 => cases decoded
  | case2 out hi lo rest inside b byte ih =>
    rcases ih decoded with empty | length
    · exact .inl empty
    · right
      rw [length]
      simp only [List.length_append, List.length_cons, List.length_nil]
      omega
  | case3 => cases decoded; exact .inl rfl
  | case4 bs out short =>
    cases decoded
    right
    rcases bs with - | ⟨b, - | ⟨c, bs⟩⟩
    · simp
    · simp
    · exact (short b c bs rfl).elim

theorem decodeFixedHex_of_hexDecode (decoded : hexDecode s.toList = some bytes)
    (filled : bytes ≠ []) : decodeFixedHex s bytes.length = some bytes := by
  have length : (utf8Bytes s).length = bytes.length * 2 := by
    rw [utf8Bytes_eq_flatMap, (length_of_hexDecode decoded).2, Nat.mul_comm]
  have some : (utf8Bytes s).isEmpty = false := by
    rw [List.isEmpty_eq_false_iff_exists_mem]
    exact List.exists_mem_of_length_pos (by have := List.length_pos_of_ne_nil filled; omega)
  rw [decodeFixedHex]
  simp only [some, length, bne_self_eq_false, Bool.or_self, Bool.false_eq_true, if_false]
  rw [utf8Bytes_eq_flatMap, decodePairs_of_hexDecode decoded, List.nil_append]

/-- An id of another length is only in the JSON payload. -/
def idWeight (n : Nat) (bytes : List UInt8) : Nat := if bytes.length = 0 ∨ bytes.length = n then 0 else 1

theorem idWeight_proto (decoded : decodeFixedHex s n = some bytes) : idWeight n bytes = 0 := by
  rw [decodeFixedHex] at decoded
  simp only [Bool.or_eq_true, bne_iff_ne] at decoded
  split at decoded
  case isTrue => cases decoded; rfl
  case isFalse full =>
    -- the length was checked before the pairs are decoded
    rw [not_or, not_not] at full
    rcases length_of_decodePairs decoded with rfl | length
    · rfl
    · rw [full.2, List.length_nil, Nat.zero_add, Nat.mul_div_cancel _ (by decide)] at length
      exact if_pos (.inr length)

theorem idWeight_json (decoded : hexDecode s.toList = some bytes) : idWeight n bytes = 0 ↔ IdAgrees n s := by
  have length := (length_of_hexDecode decoded).1
  have weightless : idWeight n bytes = 0 ↔ bytes.length = 0 ∨ bytes.length = n := by
    rw [idWeight]
    split <;> simp_all
  rw [weightless, IdAgrees, decoded]
  refine or_congr ?_ (by simp)
  rw [← String.toList_eq_nil_iff, ← List.length_eq_zero_iff]
  omega

theorem IdAgrees.decoded (agrees : IdAgrees n s) :
    ∃ bytes, hexDecode s.toList = some bytes ∧ decodeFixedHex s n = some bytes := by
  rcases agrees with rfl | ⟨bytes, decoded, rfl⟩
  · exact ⟨[], rfl, rfl⟩
  · by_cases empty : bytes = []
    · subst empty
      have length := (length_of_hexDecode decoded).1
      -- no bytes, so there were no digits
      have none : s = "" := String.toList_eq_nil_iff.mp (List.length_eq_zero_iff.mp length)
      exact ⟨[], decoded, none ▸ rfl⟩
    · exact ⟨bytes, decoded, decodeFixedHex_of_hexDecode decoded empty⟩

/-! ### Attributes -/

/-- A value that both payloads have as it is. -/
def PlainValue : Json → Prop
  | .string _ => True
  | .bool _ => True
  | .number (.posInt n) => n.toNat < 2 ^ 63
  | .number _ => True
  | _ => False

def Plain (attrs : Attributes) : Prop := ∀ entry ∈ attrs.entries, PlainValue entry.2

/-- Other values are texts and floats in the JSON payload, and something else in the other. -/
def valueWeight : AnyValue → Nat
  | .stringValue _ => 1
  | .doubleValue _ => 1
  | _ => 0

theorem jsonToAnyValue_of_plain (z : Zmij) (plain : PlainValue v) :
    jsonToAnyValue v = some (otlpValue z v) := by
  cases v with
  | string s | bool b => rw [jsonToAnyValue, otlpValue]
  | null | array items | object fields => cases plain
  | number n =>
    rw [jsonToAnyValue, otlpValue, numberToAnyValue]
    cases n with
    | posInt n =>
      -- the integer fits, so both take the first branch
      have integer : (Number.posInt n).asI64 = some n.toInt64 := if_pos plain
      rw [integer]
    | negInt n negative => rfl
    | float f finite => rfl

theorem valueWeight_iff (z : Zmij) (v : Json) :
    (jsonToAnyValue v).elim 0 valueWeight ≤ valueWeight (otlpValue z v) ∧
      ((jsonToAnyValue v).elim 0 valueWeight = valueWeight (otlpValue z v) ↔ PlainValue v) := by
  by_cases plain : PlainValue v
  · rw [jsonToAnyValue_of_plain z plain]
    simp [plain]
  · cases v with
    | string s | bool b => exact absurd trivial plain
    | null | array items | object fields => simp [jsonToAnyValue, otlpValue, valueWeight, PlainValue]
    | number n =>
      cases n with
      | posInt n =>
        -- the JSON payload has a float here and the other one an integer
        have noInteger : (Number.posInt n).asI64 = none := if_neg plain
        simp [jsonToAnyValue, numberToAnyValue, otlpValue, noInteger, Number.asU64, valueWeight, plain]
      | negInt n negative | float f finite => exact absurd trivial plain

def attributesWeight (attributes : Multiset (String × AnyValue)) : Nat :=
  (attributes.map fun pair => valueWeight pair.2).sum

theorem attributesWeight_iff (z : Zmij) (attrs : Attributes) :
    attributesWeight (buildAttributes attrs) ≤ attributesWeight (otlpAttributes z attrs) ∧
      (attributesWeight (buildAttributes attrs) = attributesWeight (otlpAttributes z attrs) ↔ Plain attrs) := by
  have proto : attributesWeight (buildAttributes attrs) =
      (attrs.entries.map fun entry => (jsonToAnyValue entry.2).elim 0 valueWeight).sum := by
    rw [attributesWeight, buildAttributes]
    generalize attrs.entries = s
    induction s using Multiset.induction with
    | empty => rfl
    | cons entry s ih =>
      rw [Multiset.map_cons, Multiset.sum_cons, ← ih]
      cases found : jsonToAnyValue entry.2 <;> simp [found]
  have json : attributesWeight (otlpAttributes z attrs) =
      (attrs.entries.map fun entry => valueWeight (otlpValue z entry.2)).sum := by
    rw [attributesWeight, otlpAttributes, Multiset.map_map]
    rfl
  obtain ⟨le, same⟩ := sum_map_eq_iff fun entry (_ : entry ∈ attrs.entries) => (valueWeight_iff z entry.2).1
  rw [proto, json]
  refine ⟨le, same.trans (forall₂_congr fun entry _ => (valueWeight_iff z entry.2).2)⟩

theorem buildAttributes_of_plain (z : Zmij) (plain : Plain attrs) :
    buildAttributes attrs = otlpAttributes z attrs := by
  rw [otlpAttributes, ← Multiset.filterMap_eq_map]
  refine filterMap_congr fun entry member => ?_
  rw [jsonToAnyValue_of_plain z (plain entry member)]
  rfl

def fromPlain : AnyValue → Json
  | .stringValue s => .string s
  | .boolValue b => .bool b
  | .intValue i => .number (Number.ofI64 i)
  | .doubleValue f => jsonOfF64 f
  | _ => .null

theorem otlpValue_injective (z : Zmij) (plainV : PlainValue v) (plainW : PlainValue w)
    (same : otlpValue z v = otlpValue z w) : v = w := by
  have back {v : Json} (plain : PlainValue v) : fromPlain (otlpValue z v) = v := by
    cases v with
    | string s => rfl
    | bool b => rfl
    | null | array items | object fields => cases plain
    | number n =>
      rw [otlpValue]
      cases n with
      | posInt n =>
        have integer : (Number.posInt n).asI64 = some n.toInt64 := if_pos plain
        have nonneg : ¬n.toInt64.toInt < 0 := by
          have small : 2 * n.toBitVec.toNat < 2 ^ 64 := by
            have below : n.toBitVec.toNat < 2 ^ 63 := plain
            omega
          have whole : n.toInt64.toInt = n.toBitVec.toNat := BitVec.toInt_eq_toNat_of_lt small
          omega
        rw [integer]
        exact congrArg Rendering.Json.number (dif_neg nonneg)
      | negInt n negative => exact congrArg Rendering.Json.number (dif_pos negative)
      | float f finite => exact dif_pos finite
  rw [← back plainV, same, back plainW]

theorem otlpAttributes_injective (z : Zmij) (plain : Plain attrs) (plainToo : Plain others)
    (same : otlpAttributes z attrs = otlpAttributes z others) : attrs = others := by
  have included {a b : Attributes} (plainA : Plain a) (plainB : Plain b) (same : otlpAttributes z a = otlpAttributes z b)
      {k : String} {v : Json} (found : a.lookup k = some v) : b.lookup k = some v := by
    have member := Finmap.lookup_eq_some_iff.mp found
    have listed : (k, otlpValue z v) ∈ otlpAttributes z b := same ▸ Multiset.mem_map_of_mem _ member
    obtain ⟨⟨l, w⟩, other, equal⟩ := Multiset.mem_map.mp listed
    obtain ⟨rfl, values⟩ := Prod.mk.inj equal
    cases otlpValue_injective z (plainB _ other) (plainA _ member) values
    exact Finmap.lookup_eq_some_iff.mpr other
  refine Finmap.ext_lookup fun k => Option.ext fun v => ?_
  exact ⟨included plain plainToo same, included plainToo plain same.symm⟩

/-! ### Times, bodies and floats -/

/-- A time that is not before 1970, or out of the range of an `i64` of nanoseconds. -/
def Dated (ts : DateTime) : Prop := ¬(-2 ^ 63 ≤ ts.secs * 1000000000 + ts.nanos ∧ ts.secs * 1000000000 + ts.nanos < 0)
deriving Decidable

/-- A time before 1970 is cast to a `u64` in the JSON payload, and zero in the other. -/
def timeWeight (time : UInt64) : Nat := if time.toNat < 2 ^ 63 then 0 else 1

theorem timeUnixNano_of_dated (dated : Dated ts) : timeUnixNano ts = datetimeToUnixNano ts := by
  simp only [timeUnixNano, timestampNanosOpt, datetimeToUnixNano]
  generalize whole : ts.secs * 1000000000 + ts.nanos = nanos
  rw [Dated] at dated
  split
  case isFalse => rfl
  case isTrue within =>
    obtain ⟨n, rfl⟩ := Int.eq_ofNat_of_zero_le (show 0 ≤ nanos by omega)
    apply UInt64.toBitVec_inj.mp
    rfl

theorem timeWeight_proto (ts : DateTime) : timeWeight (datetimeToUnixNano ts) = 0 := by
  rw [timeWeight, if_pos]
  simp only [datetimeToUnixNano]
  split
  case isFalse => decide
  case isTrue within =>
    exact Nat.lt_of_le_of_lt (Nat.mod_le _ _) (by omega)

theorem timeWeight_json (ts : DateTime) : timeWeight (timeUnixNano ts) = 0 ↔ Dated ts := by
  constructor
  · intro weightless
    by_contra before
    rw [Dated, not_not] at before
    -- a negative number of nanoseconds wraps to the upper half of the range
    have cast (nanos : Int) : (Int64.ofInt nanos).toUInt64.toNat = (nanos % 2 ^ 64).toNat :=
      @BitVec.toNat_ofInt 64 nanos
    have large : ¬(timeUnixNano ts).toNat < 2 ^ 63 := by
      simp only [timeUnixNano, timestampNanosOpt]
      rw [if_pos ⟨before.1, by omega⟩, Option.getD_some, cast]
      omega
    rw [timeWeight, if_neg large] at weightless
    cases weightless
  · intro dated
    rw [timeUnixNano_of_dated dated, timeWeight_proto]

/-- A body that is not a text is an empty one in the JSON payload only. -/
def bodyWeight : Option AnyValue → Nat
  | some (.stringValue s) => if s = "" then 1 else 0
  | _ => 0

theorem toString_ne_empty (z : Zmij) (v : Json) : Json.toString z v ≠ "" := by
  intro empty
  obtain ⟨c, rest, written, -⟩ := kindOf_text z.numerals v
  rw [Json.toString, written] at empty
  have chars := congrArg String.toList empty
  rw [String.toList_ofList] at chars
  cases chars

theorem bodyWeight_iff (z : Zmij) (body : Json) :
    bodyWeight (buildBody z body) ≤ bodyWeight (some (.stringValue (bodyText body))) ∧
      (bodyWeight (buildBody z body) = bodyWeight (some (.stringValue (bodyText body))) ↔ ∃ s, body = .string s) := by
  have filled := toString_ne_empty z body
  cases body with
  | string s => exact ⟨Nat.le_refl _, iff_of_true rfl ⟨s, rfl⟩⟩
  | _ => simp_all [buildBody, bodyText, bodyWeight]

def floatWeight (value : Option F64) : Nat := if value.isSome then 0 else 1

theorem floatWeight_readable (f : F64) : floatWeight (readable f) = 0 ↔ f.isFinite := by
  rw [readable]
  split <;> simp_all [floatWeight]

/-! ### Agreement -/

section Agreement

variable {ρ π : Type}

/-- Both payloads denote the same records, but for what is forgotten of them. -/
def Agree (z : Zmij) (read : Json → Option (List (ResourceBlock π))) (forget : Entry π → Entry π) (json : String)
    (proto : Option (List (ResourceBlock π))) : Prop :=
  ∃ jsonData protoData, Denotes z read json jsonData ∧ proto.map entries = some protoData ∧
    jsonData.map forget = protoData.map forget

/-- The same of what is read and what is written for the records. -/
def AgreeOn (jsonOf protoOf : ρ → Option (Entry π)) (forget : Entry π → Entry π) (records : List ρ) : Prop :=
  ∃ js ps, records.mapM jsonOf = some js ∧ records.mapM protoOf = some ps ∧ (js.map forget).Perm (ps.map forget)

variable {z : Zmij} {read : Json → Option (List (ResourceBlock π))} {forget : Entry π → Entry π} {json : String}
  {proto : Option (List (ResourceBlock π))} {jsonOf protoOf : ρ → Option (Entry π)} {records : List ρ}

theorem agree_iff_agreeOn (denotes : ∀ data, Denotes z read json data ↔
      (records.mapM jsonOf).map Multiset.ofList = some data)
    (written : proto.map entries = (records.mapM protoOf).map Multiset.ofList) :
    Agree z read forget json proto ↔ AgreeOn jsonOf protoOf forget records := by
  simp only [Agree, denotes, written, Option.map_eq_some_iff]
  constructor
  · rintro ⟨-, -, ⟨js, readAs, rfl⟩, ⟨ps, writtenAs, rfl⟩, same⟩
    exact ⟨js, ps, readAs, writtenAs, Multiset.coe_eq_coe.mp same⟩
  · rintro ⟨js, ps, readAs, writtenAs, same⟩
    exact ⟨js, ps, ⟨js, readAs, rfl⟩, ⟨ps, writtenAs, rfl⟩, Multiset.coe_eq_coe.mpr same⟩

theorem agreeOn_of_pointwise (each : ∀ r ∈ records, ∃ j p, jsonOf r = some j ∧ protoOf r = some p ∧
    forget j = forget p) : AgreeOn jsonOf protoOf forget records := by
  induction records with
  | nil => exact ⟨[], [], rfl, rfl, .refl _⟩
  | cons r records ih =>
    obtain ⟨⟨j, p, readAs, writtenAs, same⟩, rest⟩ := List.forall_mem_cons.mp each
    obtain ⟨js, ps, readAll, writtenAll, perm⟩ := ih rest
    refine ⟨j :: js, p :: ps, by simp [readAs, readAll], by simp [writtenAs, writtenAll], ?_⟩
    simpa [same] using perm

/-- If no record weighs more as it is written than as it is read, in payloads that agree none weighs less. -/
theorem AgreeOn.forall_of_weighs {P : ρ → Prop} (agree : AgreeOn jsonOf protoOf forget records) (weight : Entry π → Nat)
    (blind : ∀ entry, weight (forget entry) = weight entry)
    (weighs : ∀ {r j p}, jsonOf r = some j → protoOf r = some p → weight p ≤ weight j ∧ (weight p = weight j → P r)) :
    ∀ r ∈ records, P r := by
  intro r member
  obtain ⟨js, ps, readAs, writtenAs, same⟩ := agree
  have jsonSome {r : ρ} (member : r ∈ records) := exists_of_forall₂ (mapM_eq_some_iff.mp readAs) member
  have protoSome {r : ρ} (member : r ∈ records) := exists_of_forall₂ (mapM_eq_some_iff.mp writtenAs) member
  -- what is forgotten does not weigh, so both payloads weigh the same
  have sums : (js.map weight).sum = (ps.map weight).sum := by
    have weighed := (same.map weight).sum_eq
    simpa [Function.comp_def, blind] using weighed
  rw [map_of_mapM readAs weight 0, map_of_mapM writtenAs weight 0] at sums
  have total := @sum_map_eq_iff _ (records : Multiset ρ) (fun r => (protoOf r).elim 0 weight)
    (fun r => (jsonOf r).elim 0 weight) fun r listed => by
      obtain ⟨j, -, readAs⟩ := jsonSome listed
      obtain ⟨p, -, writtenAs⟩ := protoSome listed
      rw [readAs, writtenAs]
      exact (weighs readAs writtenAs).1
  have equal := total.2.mp (by simpa using sums.symm) r member
  obtain ⟨j, -, readAs⟩ := jsonSome member
  obtain ⟨p, -, writtenAs⟩ := protoSome member
  rw [readAs, writtenAs] at equal
  exact (weighs readAs writtenAs).2 equal

/-- The version of a scope is in the protobuf payload only. -/
def Entry.unversioned (entry : Entry π) : Entry π := { entry with scope := { entry.scope with version := "" } }

/-- As the version is in one payload only, records that agree on it are none. -/
theorem agreeOn_id_iff {resourceOf : ρ → Attributes} {jsonScopeOf protoScopeOf : ρ → InstrumentationScope}
    {jsonRecord protoRecord : ρ → Option π} (noVersion : ∀ r, (jsonScopeOf r).version = "")
    (version : ∀ r, (protoScopeOf r).version = crateVersion) :
    AgreeOn (fun r => jsonEntry z (resourceOf r) (jsonScopeOf r) (jsonRecord r))
      (fun r => protoEntry (resourceOf r) (protoScopeOf r) (protoRecord r)) id records ↔ records = [] := by
  constructor
  · rintro ⟨js, ps, json, proto, same⟩
    rw [List.map_id, List.map_id] at same
    by_contra filled
    obtain ⟨r, member⟩ := List.exists_mem_of_ne_nil records filled
    obtain ⟨j, listed, readAs⟩ := exists_of_forall₂ (mapM_eq_some_iff.mp json) member
    obtain ⟨s, -, writtenAs⟩ := exists_of_forall₂ (mapM_eq_some_iff.mp proto).flip (same.mem_iff.mp listed)
    -- an entry that is in both would have two versions
    obtain ⟨_, -, rfl⟩ := Option.map_eq_some_iff.mp readAs
    obtain ⟨_, -, equal⟩ := Option.map_eq_some_iff.mp writtenAs
    have versions := (congrArg (·.scope.version) equal).symm.trans (version s)
    exact absurd ((noVersion r).symm.trans versions) (by decide)
  · rintro rfl
    exact ⟨[], [], rfl, rfl, .refl _⟩

end Agreement

/-! ### Logs -/

structure LogRecord.Agrees (r : LogRecord) : Prop where
  resource : Plain r.resourceAttributes
  plain : Plain r.logAttributes
  dated : Dated r.timestamp
  body : ∃ s, r.body = .string s
  traceId : IdAgrees 16 r.traceId
  spanId : IdAgrees 8 r.spanId

/-- The records that share a resource and a scope: what each of them has for the attributes of the scope is
in the JSON payload what the first one has in the other. -/
def ScopesAgree (z : Zmij) (records : List LogRecord) : Prop :=
  ∀ r ∈ records, ∀ first ∈ (peers z LogRecord.resourceAttributes LogRecord.effectiveScope records r).head?,
    otlpAttributes z r.scopeAttributes = buildAttributes first.scopeAttributes

/-- The observed time is in the protobuf payload only, too. -/
def Entry.unobserved (entry : Entry ProtoLogRecord) : Entry ProtoLogRecord :=
  { entry.unversioned with record := { entry.record with observedTimeUnixNano := 0 } }

def logWeight (entry : Entry ProtoLogRecord) : Nat :=
  attributesWeight entry.resource.attributes + attributesWeight entry.record.attributes +
    timeWeight entry.record.timeUnixNano + bodyWeight entry.record.body + idWeight 16 entry.record.traceId +
    idWeight 8 entry.record.spanId

def protoLogEntry (z : Zmij) (records : List LogRecord) (r : LogRecord) : Option (Entry ProtoLogRecord) :=
  protoEntry r.resourceAttributes
    (logScope r.effectiveScope (peers z LogRecord.resourceAttributes LogRecord.effectiveScope records r))
    (buildLogRecord z r)

section Logs

variable {z : Zmij} {records : List LogRecord} {r : LogRecord} {j p : Entry ProtoLogRecord}

theorem logWeight_iff (readAs : jsonLogEntry z r = some j) (writtenAs : protoLogEntry z records r = some p) :
    logWeight p ≤ logWeight j ∧ (logWeight p = logWeight j → r.Agrees) := by
  simp only [jsonLogEntry, jsonEntry, jsonLog, protoLogEntry, protoEntry, buildLogRecord, Option.map_eq_some_iff,
    Option.bind_eq_bind, Option.bind_eq_some_iff, Option.pure_def, Option.some.injEq] at readAs writtenAs
  obtain ⟨-, ⟨traceId, jsonTrace, spanId, jsonSpan, rfl⟩, rfl⟩ := readAs
  obtain ⟨-, ⟨traceId, protoTrace, spanId, protoSpan, rfl⟩, rfl⟩ := writtenAs
  -- part by part the one weighs at most what the other does
  have resource := attributesWeight_iff z r.resourceAttributes
  have plain := attributesWeight_iff z r.logAttributes
  have body := bodyWeight_iff z r.body
  have noTime := timeWeight_proto r.timestamp
  have noTrace := idWeight_proto protoTrace
  have noSpan := idWeight_proto protoSpan
  simp only [logWeight, buildResource]
  refine ⟨by omega, fun same => ?_⟩
  exact {
    resource := resource.2.mp (by omega)
    plain := plain.2.mp (by omega)
    dated := (timeWeight_json r.timestamp).mp (by omega)
    body := body.2.mp (by omega)
    traceId := (idWeight_json jsonTrace).mp (by omega)
    spanId := (idWeight_json jsonSpan).mp (by omega) }

theorem LogRecord.Agrees.entry_eq (agrees : r.Agrees) (scope : otlpAttributes z r.scopeAttributes =
      (logScope r.effectiveScope (peers z LogRecord.resourceAttributes LogRecord.effectiveScope records r)).attributes) :
    ∃ j p, jsonLogEntry z r = some j ∧ protoLogEntry z records r = some p ∧ j.unobserved = p.unobserved := by
  obtain ⟨traceId, jsonTrace, protoTrace⟩ := agrees.traceId.decoded
  obtain ⟨spanId, jsonSpan, protoSpan⟩ := agrees.spanId.decoded
  obtain ⟨text, body⟩ := agrees.body
  refine ⟨_, _, by simp only [jsonLogEntry, jsonLog, jsonTrace, jsonSpan]; rfl,
    by simp only [protoLogEntry, buildLogRecord, decodeTraceIdHex, decodeSpanIdHex, protoTrace, protoSpan]; rfl,
    ?_⟩
  simp only [buildResource, buildAttributes_of_plain z agrees.resource, buildAttributes_of_plain z agrees.plain,
    timeUnixNano_of_dated agrees.dated, body, scope]
  rfl

/-- The first record of a scope is found under the scope of any of its records. -/
theorem logScope_attributes_of_scopesAgree (scopes : ScopesAgree z records) (member : r ∈ records) :
    otlpAttributes z r.scopeAttributes =
      (logScope r.effectiveScope (peers z LogRecord.resourceAttributes LogRecord.effectiveScope records r)).attributes := by
  have own : r ∈ peers z LogRecord.resourceAttributes LogRecord.effectiveScope records r := by
    simp [peers, member]
  rw [logScope]
  cases found : (peers z LogRecord.resourceAttributes LogRecord.effectiveScope records r).head? with
  | none => rw [List.head?_eq_none_iff.mp found] at own; cases own
  | some first => exact scopes r member first found

theorem logs_agreeOn_iff : AgreeOn (jsonLogEntry z) (protoLogEntry z records) Entry.unobserved records ↔
    (∀ r ∈ records, r.Agrees) ∧ ScopesAgree z records := by
  constructor
  · intro agree
    have agrees := agree.forall_of_weighs logWeight (fun _ => rfl) logWeight_iff
    refine ⟨agrees, fun r member first isFirst => ?_⟩
    obtain ⟨js, ps, json, proto, same⟩ := agree
    obtain ⟨j, listed, readAs⟩ := exists_of_forall₂ (mapM_eq_some_iff.mp json) member
    -- what is read for the record is written for some record, which has the same resource and scope
    obtain ⟨p, listedToo, equal⟩ := List.mem_map.mp (same.mem_iff.mp (List.mem_map_of_mem listed))
    obtain ⟨s, memberToo, writtenAs⟩ := exists_of_forall₂ (mapM_eq_some_iff.mp proto).flip listedToo
    obtain ⟨_, -, rfl⟩ := Option.map_eq_some_iff.mp readAs
    obtain ⟨_, -, rfl⟩ := Option.map_eq_some_iff.mp writtenAs
    have resources : buildAttributes s.resourceAttributes = otlpAttributes z r.resourceAttributes :=
      congrArg (fun entry => entry.resource.attributes) equal
    have names : s.effectiveScope = r.effectiveScope := congrArg (fun entry => entry.scope.name) equal
    have scopes := congrArg (fun entry => entry.scope.attributes) equal
    rw [buildAttributes_of_plain z (agrees s memberToo).resource] at resources
    have sameResource := otlpAttributes_injective z (agrees s memberToo).resource (agrees r member).resource resources
    have together : peers z LogRecord.resourceAttributes LogRecord.effectiveScope records s =
        peers z LogRecord.resourceAttributes LogRecord.effectiveScope records r := by
      rw [peers, peers, sameResource, names]
    simp only [logScope, together, Option.mem_def.mp isFirst] at scopes
    exact scopes.symm
  · rintro ⟨agrees, scopes⟩
    exact agreeOn_of_pointwise fun r member =>
      (agrees r member).entry_eq (logScope_attributes_of_scopesAgree scopes member)

end Logs

/-! ### Metrics -/

/-- What a metric needs to be the same in both payloads beyond its resource, attributes and time: a
histogram has no exemplar in the JSON payload, where the bounds and the sum have to be numbers. -/
def MetricRecord.DataAgrees (r : MetricRecord) : Prop :=
  match r.kind with
  | .histogram =>
    r.histogramSum.isFinite ∧ (∀ bound ∈ r.histogramBounds, bound.isFinite) ∧
      decodeTraceIdHex r.traceId = some [] ∧ decodeSpanIdHex r.spanId = some []
  | _ => r.value.isFinite ∧ IdAgrees 16 r.traceId ∧ IdAgrees 8 r.spanId

structure MetricRecord.Agrees (r : MetricRecord) : Prop where
  resource : Plain r.resourceAttributes
  plain : Plain r.attributes
  dated : Dated r.timestamp
  data : r.DataAgrees

def exemplarWeight (exemplar : Exemplar) : Nat :=
  timeWeight exemplar.timeUnixNano + idWeight 16 exemplar.traceId + idWeight 8 exemplar.spanId +
    floatWeight exemplar.value

def numberPointWeight (point : NumberDataPoint) : Nat :=
  attributesWeight point.attributes + timeWeight point.timeUnixNano + floatWeight point.value +
    (point.exemplars.map exemplarWeight).sum

/-- Of a histogram it is the absence of exemplars that is only in the JSON payload. -/
def histogramPointWeight (point : HistogramDataPoint) : Nat :=
  attributesWeight point.attributes + timeWeight point.timeUnixNano + floatWeight point.sum +
    if point.exemplars.isEmpty then 1 else 0

def dataWeight : MetricData → Nat
  | .gauge dataPoints => (dataPoints.map numberPointWeight).sum
  | .sum dataPoints _ _ => (dataPoints.map numberPointWeight).sum
  | .histogram dataPoints _ => (dataPoints.map histogramPointWeight).sum

def metricWeight (entry : Entry Metric) : Nat :=
  attributesWeight entry.resource.attributes + dataWeight entry.record.data

def protoMetricEntry (r : MetricRecord) : Option (Entry Metric) :=
  protoEntry r.resourceAttributes (bareScope r.effectiveScope) (buildMetric r)

section Metrics

variable {z : Zmij} {r : MetricRecord}

theorem exemplarWeight_json (readAs : jsonExemplars r = some exemplars)
    (weightless : (exemplars.map exemplarWeight).sum = 0) : IdAgrees 16 r.traceId ∧ IdAgrees 8 r.spanId := by
  rw [jsonExemplars] at readAs
  split at readAs
  case isTrue empty =>
    rw [Bool.and_eq_true, String.isEmpty_iff, String.isEmpty_iff] at empty
    exact ⟨.inl empty.1, .inl empty.2⟩
  case isFalse =>
    simp only [Option.bind_eq_bind, Option.bind_eq_some_iff, Option.pure_def, Option.some.injEq] at readAs
    obtain ⟨spanId, span, traceId, trace, rfl⟩ := readAs
    simp only [List.map_cons, List.sum_cons, exemplarWeight] at weightless
    exact ⟨(idWeight_json trace).mp (by omega), (idWeight_json span).mp (by omega)⟩

theorem exemplarWeight_proto (writtenAs : buildExemplars r (datetimeToUnixNano r.timestamp) = some exemplars) :
    (exemplars.map exemplarWeight).sum = 0 := by
  rw [buildExemplars] at writtenAs
  split at writtenAs
  case isTrue => cases writtenAs; rfl
  case isFalse =>
    simp only [Option.bind_eq_bind, Option.bind_eq_some_iff] at writtenAs
    obtain ⟨traceId, trace, spanId, span, whole⟩ := writtenAs
    split at whole
    · cases whole
      rfl
    · cases whole
      simp [exemplarWeight, timeWeight_proto, idWeight_proto trace, idWeight_proto span, floatWeight]

theorem buildExemplars_of_agrees (dated : Dated r.timestamp) (finite : r.value.isFinite) (trace : IdAgrees 16 r.traceId)
    (span : IdAgrees 8 r.spanId) : ∃ exemplars, jsonExemplars r = some exemplars ∧
      buildExemplars r (datetimeToUnixNano r.timestamp) = some exemplars := by
  rw [jsonExemplars, buildExemplars]
  split
  case isTrue => exact ⟨[], rfl, rfl⟩
  case isFalse context =>
    obtain ⟨traceId, jsonTrace, protoTrace⟩ := trace.decoded
    obtain ⟨spanId, jsonSpan, protoSpan⟩ := span.decoded
    -- one of the ids has digits, and so it has bytes
    have some : ¬(traceId.isEmpty && spanId.isEmpty) = true := by
      rw [Bool.and_eq_true, List.isEmpty_iff, List.isEmpty_iff]
      rintro ⟨rfl, rfl⟩
      have noTrace := (length_of_hexDecode jsonTrace).1
      have noSpan := (length_of_hexDecode jsonSpan).1
      rw [List.length_nil, List.length_eq_zero_iff, String.toList_eq_nil_iff] at noTrace noSpan
      exact context (by rw [noTrace, noSpan]; rfl)
    refine ⟨_, by simp only [jsonTrace, jsonSpan]; rfl, ?_⟩
    simp only [decodeTraceIdHex, decodeSpanIdHex, protoTrace, protoSpan, Option.bind_eq_bind, Option.bind_some,
      if_neg some, timeUnixNano_of_dated dated, readable, finite]
    rfl

theorem buildExemplars_eq_nil_iff : buildExemplars r ts = some [] ↔
    decodeTraceIdHex r.traceId = some [] ∧ decodeSpanIdHex r.spanId = some [] := by
  rw [buildExemplars]
  split
  case isTrue empty =>
    rw [Bool.and_eq_true, String.isEmpty_iff, String.isEmpty_iff] at empty
    rw [empty.1, empty.2]
    exact iff_of_true rfl ⟨rfl, rfl⟩
  case isFalse =>
    cases decodeTraceIdHex r.traceId <;> cases decodeSpanIdHex r.spanId <;> simp

theorem numberPointWeight_iff (readAs : jsonNumberPoint z r = some j)
    (writtenAs : buildNumberDataPoint r = some p) : numberPointWeight p ≤ numberPointWeight j ∧
      (numberPointWeight p = numberPointWeight j →
        Plain r.attributes ∧ Dated r.timestamp ∧ r.value.isFinite ∧ IdAgrees 16 r.traceId ∧ IdAgrees 8 r.spanId) := by
  simp only [jsonNumberPoint, buildNumberDataPoint, Option.bind_eq_bind, Option.bind_eq_some_iff, Option.pure_def,
    Option.some.injEq] at readAs writtenAs
  obtain ⟨readExemplars, json, rfl⟩ := readAs
  obtain ⟨exemplars, proto, rfl⟩ := writtenAs
  have plain := attributesWeight_iff z r.attributes
  have noTime := timeWeight_proto r.timestamp
  have noExemplar := exemplarWeight_proto proto
  have noFloat : floatWeight (some r.value) = 0 := rfl
  simp only [numberPointWeight]
  refine ⟨by omega, fun same => ?_⟩
  have ids := exemplarWeight_json json (by omega)
  exact ⟨plain.2.mp (by omega), (timeWeight_json r.timestamp).mp (by omega),
    (floatWeight_readable r.value).mp (by omega), ids⟩

theorem histogramPointWeight_iff (readAs : jsonHistogramPoint z r = some j)
    (writtenAs : buildHistogramDataPoint r = some p) : histogramPointWeight p ≤ histogramPointWeight j ∧
      (histogramPointWeight p = histogramPointWeight j →
        Plain r.attributes ∧ Dated r.timestamp ∧ r.histogramSum.isFinite ∧
          (∀ bound ∈ r.histogramBounds, bound.isFinite) ∧
          decodeTraceIdHex r.traceId = some [] ∧ decodeSpanIdHex r.spanId = some []) := by
  simp only [jsonHistogramPoint, buildHistogramDataPoint, Option.bind_eq_bind, Option.bind_eq_some_iff, Option.pure_def,
    Option.some.injEq] at readAs writtenAs
  obtain ⟨bounds, json, rfl⟩ := readAs
  obtain ⟨exemplars, proto, rfl⟩ := writtenAs
  have plain := attributesWeight_iff z r.attributes
  have noTime := timeWeight_proto r.timestamp
  have noFloat : floatWeight (some r.histogramSum) = 0 := rfl
  simp only [histogramPointWeight, List.isEmpty_nil, if_true]
  refine ⟨by split <;> omega, fun same => ?_⟩
  -- a histogram with an exemplar weighs less than it is read as
  have none : exemplars = [] := by
    by_contra filled
    rw [if_neg (by simpa using filled)] at same
    omega
  subst none
  rw [List.isEmpty_nil, if_pos rfl] at same
  have finite : ∀ bound ∈ r.histogramBounds, bound.isFinite := by
    intro bound member
    have whole : (r.histogramBounds.mapM readable).isSome := json ▸ rfl
    -- the list was read, so each of its bounds was
    have readOne := isSome_mapM_iff.mp whole bound member
    rw [readable] at readOne
    split at readOne
    case isTrue finite => exact finite
    case isFalse => cases readOne
  exact ⟨plain.2.mp (by omega), (timeWeight_json r.timestamp).mp (by omega),
    (floatWeight_readable r.histogramSum).mp (by omega), finite, buildExemplars_eq_nil_iff.mp proto⟩

theorem numberPoint_of_agrees (plain : Plain r.attributes) (dated : Dated r.timestamp) (finite : r.value.isFinite)
    (trace : IdAgrees 16 r.traceId) (span : IdAgrees 8 r.spanId) :
    ∃ point, jsonNumberPoint z r = some point ∧ buildNumberDataPoint r = some point := by
  obtain ⟨exemplars, json, proto⟩ := buildExemplars_of_agrees dated finite trace span
  refine ⟨_, by rw [jsonNumberPoint, json]; rfl, ?_⟩
  simp only [buildNumberDataPoint, proto, buildAttributes_of_plain z plain, timeUnixNano_of_dated dated, readable,
    finite]
  rfl

theorem histogramPoint_of_agrees (plain : Plain r.attributes) (dated : Dated r.timestamp)
    (finite : r.histogramSum.isFinite) (bounds : ∀ bound ∈ r.histogramBounds, bound.isFinite)
    (ids : decodeTraceIdHex r.traceId = some [] ∧ decodeSpanIdHex r.spanId = some []) :
    ∃ point, jsonHistogramPoint z r = some point ∧ buildHistogramDataPoint r = some point := by
  have readBounds : r.histogramBounds.mapM readable = some r.histogramBounds := by
    have each := @mapM_map_eq_some _ _ _ readable id id r.histogramBounds fun bound member => if_pos (bounds bound member)
    rwa [List.map_id] at each
  refine ⟨_, by rw [jsonHistogramPoint, readBounds]; rfl, ?_⟩
  simp only [buildHistogramDataPoint, buildExemplars_eq_nil_iff.mpr ids, buildAttributes_of_plain z plain,
    timeUnixNano_of_dated dated, readable, finite]
  rfl

theorem dataWeight_iff (readAs : jsonMetric z r = some j) (writtenAs : buildMetric r = some p) :
    dataWeight p.data ≤ dataWeight j.data ∧
      (dataWeight p.data = dataWeight j.data → Plain r.attributes ∧ Dated r.timestamp ∧ r.DataAgrees) := by
  rw [jsonMetric] at readAs
  rw [buildMetric] at writtenAs
  cases kind : r.kind with
  | histogram =>
    simp only [kind, Option.bind_eq_bind, Option.bind_eq_some_iff, Option.pure_def, Option.some.injEq] at readAs writtenAs
    obtain ⟨jsonPoint, json, _, rfl, rfl⟩ := readAs
    obtain ⟨protoPoint, proto, _, rfl, rfl⟩ := writtenAs
    simpa [dataWeight, MetricRecord.DataAgrees, kind] using histogramPointWeight_iff json proto
  | gauge | sum =>
    simp only [kind, Option.bind_eq_bind, Option.bind_eq_some_iff, Option.pure_def, Option.some.injEq] at readAs writtenAs
    obtain ⟨jsonPoint, json, _, rfl, rfl⟩ := readAs
    obtain ⟨protoPoint, proto, _, rfl, rfl⟩ := writtenAs
    simpa [dataWeight, MetricRecord.DataAgrees, kind] using numberPointWeight_iff json proto

theorem metricWeight_iff (readAs : jsonMetricEntry z r = some j) (writtenAs : protoMetricEntry r = some p) :
    metricWeight p ≤ metricWeight j ∧ (metricWeight p = metricWeight j → r.Agrees) := by
  obtain ⟨jsonRecord, json, rfl⟩ := Option.map_eq_some_iff.mp readAs
  obtain ⟨protoRecord, proto, rfl⟩ := Option.map_eq_some_iff.mp writtenAs
  have resource := attributesWeight_iff z r.resourceAttributes
  have data := dataWeight_iff json proto
  simp only [metricWeight, buildResource]
  refine ⟨by omega, fun same => ?_⟩
  obtain ⟨plain, dated, agrees⟩ := data.2 (by omega)
  exact { resource := resource.2.mp (by omega), plain, dated, data := agrees }

theorem MetricRecord.Agrees.metric_eq (agrees : r.Agrees) :
    ∃ metric, jsonMetric z r = some metric ∧ buildMetric r = some metric := by
  have data := agrees.data
  rw [MetricRecord.DataAgrees] at data
  cases kind : r.kind with
  | histogram =>
    rw [kind] at data
    obtain ⟨point, json, proto⟩ := @histogramPoint_of_agrees z r agrees.plain agrees.dated data.1 data.2.1 data.2.2
    exact ⟨_, by rw [jsonMetric, kind]; simp only [json]; rfl, by rw [buildMetric, kind]; simp only [proto]; rfl⟩
  | gauge | sum =>
    rw [kind] at data
    obtain ⟨finite, trace, span⟩ := data
    obtain ⟨point, json, proto⟩ := @numberPoint_of_agrees z r agrees.plain agrees.dated finite trace span
    exact ⟨_, by rw [jsonMetric, kind]; simp only [json]; rfl, by rw [buildMetric, kind]; simp only [proto]; rfl⟩

theorem metrics_agreeOn_iff :
    AgreeOn (jsonMetricEntry z) protoMetricEntry Entry.unversioned records ↔ ∀ r ∈ records, r.Agrees := by
  refine ⟨fun agree => agree.forall_of_weighs metricWeight (fun _ => rfl) metricWeight_iff, fun agrees => ?_⟩
  refine agreeOn_of_pointwise fun r member => ?_
  obtain ⟨metric, json, proto⟩ := @MetricRecord.Agrees.metric_eq z r (agrees r member)
  refine ⟨_, _, by rw [jsonMetricEntry, json]; rfl, by rw [protoMetricEntry, proto]; rfl, ?_⟩
  simp [Entry.unversioned, buildResource, buildAttributes_of_plain z (agrees r member).resource, jsonScope, bareScope]

end Metrics

/-! ### Traces -/

structure TraceEventRecord.Agrees (ev : TraceEventRecord) : Prop where
  plain : Plain ev.attributes
  dated : Dated ev.timestamp

/-- A span that is the same in both payloads. The attributes of its scope are in the JSON payload only. -/
structure TraceRecord.Agrees (r : TraceRecord) : Prop where
  resource : Plain r.resourceAttributes
  scope : r.scopeAttributes = ∅
  plain : Plain r.spanAttributes
  started : Dated r.startTime
  ended : Dated r.endTime
  events : ∀ ev ∈ r.events, ev.Agrees
  traceId : IdAgrees 16 r.traceId
  spanId : IdAgrees 8 r.spanId
  parentSpanId : IdAgrees 8 r.parentSpanId

def eventWeight (event : SpanEvent) : Nat := attributesWeight event.attributes + timeWeight event.timeUnixNano

def traceWeight (entry : Entry Span) : Nat :=
  attributesWeight entry.resource.attributes + entry.scope.attributes.card + attributesWeight entry.record.attributes +
    timeWeight entry.record.startTimeUnixNano + timeWeight entry.record.endTimeUnixNano +
    (entry.record.events.map eventWeight).sum + idWeight 16 entry.record.traceId + idWeight 8 entry.record.spanId +
    idWeight 8 entry.record.parentSpanId

def protoTraceEntry (r : TraceRecord) : Option (Entry Span) :=
  protoEntry r.resourceAttributes (bareScope r.effectiveScope) (buildSpan r)

section Traces

variable {z : Zmij} {r : TraceRecord}

theorem eventWeight_iff (z : Zmij) (ev : TraceEventRecord) :
    eventWeight (buildEvent ev) ≤ eventWeight (jsonEvent z ev) ∧
      (eventWeight (buildEvent ev) = eventWeight (jsonEvent z ev) ↔ ev.Agrees) := by
  have plain := attributesWeight_iff z ev.attributes
  have noTime := timeWeight_proto ev.timestamp
  have dated := timeWeight_json ev.timestamp
  simp only [eventWeight, buildEvent, jsonEvent]
  refine ⟨by omega, fun same => ⟨plain.2.mp (by omega), dated.mp (by omega)⟩, fun agrees => ?_⟩
  rw [plain.2.mpr agrees.plain, noTime, dated.mpr agrees.dated]

theorem buildEvent_of_agrees (agrees : ev.Agrees) : buildEvent ev = jsonEvent z ev := by
  rw [buildEvent, jsonEvent, buildAttributes_of_plain z agrees.plain, timeUnixNano_of_dated agrees.dated]

theorem eventsWeight_iff (z : Zmij) (events : List TraceEventRecord) :
    ((events.map buildEvent).map eventWeight).sum ≤ ((events.map (jsonEvent z)).map eventWeight).sum ∧
      (((events.map buildEvent).map eventWeight).sum = ((events.map (jsonEvent z)).map eventWeight).sum ↔
        ∀ ev ∈ events, ev.Agrees) := by
  have total := @sum_map_eq_iff _ (events : Multiset TraceEventRecord) (fun ev => eventWeight (buildEvent ev))
    (fun ev => eventWeight (jsonEvent z ev)) fun ev _ => (eventWeight_iff z ev).1
  simp only [eventWeight_iff] at total
  rw [List.map_map, List.map_map]
  exact total

theorem card_otlpAttributes_eq_zero_iff : (otlpAttributes z attrs).card = 0 ↔ attrs = ∅ := by
  rw [otlpAttributes, Multiset.card_map, Multiset.card_eq_zero]
  exact ⟨fun empty => Finmap.ext empty, fun empty => empty ▸ rfl⟩

theorem traceWeight_iff (readAs : jsonTraceEntry z r = some j) (writtenAs : protoTraceEntry r = some p) :
    traceWeight p ≤ traceWeight j ∧ (traceWeight p = traceWeight j → r.Agrees) := by
  simp only [jsonTraceEntry, jsonEntry, jsonSpan, protoTraceEntry, protoEntry, buildSpan, Option.map_eq_some_iff,
    Option.bind_eq_bind, Option.bind_eq_some_iff, Option.pure_def, Option.some.injEq] at readAs writtenAs
  obtain ⟨-, ⟨traceId, jsonTrace, spanId, jsonSpan, parentSpanId, jsonParent, rfl⟩, rfl⟩ := readAs
  obtain ⟨-, ⟨traceId, protoTrace, spanId, protoSpan, parentSpanId, protoParent, rfl⟩, rfl⟩ := writtenAs
  have resource := attributesWeight_iff z r.resourceAttributes
  have plain := attributesWeight_iff z r.spanAttributes
  have events := eventsWeight_iff z r.events
  have noStart := timeWeight_proto r.startTime
  have noEnd := timeWeight_proto r.endTime
  have noTrace := idWeight_proto protoTrace
  have noSpan := idWeight_proto protoSpan
  have noParent := idWeight_proto protoParent
  simp only [traceWeight, buildResource, bareScope, jsonScope, Multiset.card_zero]
  refine ⟨by omega, fun same => ?_⟩
  exact {
    resource := resource.2.mp (by omega)
    scope := (@card_otlpAttributes_eq_zero_iff z _).mp (by omega)
    plain := plain.2.mp (by omega)
    started := (timeWeight_json r.startTime).mp (by omega)
    ended := (timeWeight_json r.endTime).mp (by omega)
    events := events.2.mp (by omega)
    traceId := (idWeight_json jsonTrace).mp (by omega)
    spanId := (idWeight_json jsonSpan).mp (by omega)
    parentSpanId := (idWeight_json jsonParent).mp (by omega) }

theorem TraceRecord.Agrees.span_eq (agrees : r.Agrees) : ∃ span, jsonSpan z r = some span ∧ buildSpan r = some span := by
  obtain ⟨traceId, jsonTrace, protoTrace⟩ := agrees.traceId.decoded
  obtain ⟨spanId, jsonSpanId, protoSpanId⟩ := agrees.spanId.decoded
  obtain ⟨parentSpanId, jsonParent, protoParent⟩ := agrees.parentSpanId.decoded
  -- events are compared in their order
  have events : r.events.map buildEvent = r.events.map (jsonEvent z) :=
    List.map_congr_left fun ev member => buildEvent_of_agrees (agrees.events ev member)
  refine ⟨_, by simp only [jsonSpan, jsonTrace, jsonSpanId, jsonParent]; rfl, ?_⟩
  simp only [buildSpan, decodeTraceIdHex, decodeSpanIdHex, protoTrace, protoSpanId, protoParent, events,
    buildAttributes_of_plain z agrees.plain, timeUnixNano_of_dated agrees.started, timeUnixNano_of_dated agrees.ended]
  rfl

theorem traces_agreeOn_iff :
    AgreeOn (jsonTraceEntry z) protoTraceEntry Entry.unversioned records ↔ ∀ r ∈ records, r.Agrees := by
  refine ⟨fun agree => agree.forall_of_weighs traceWeight (fun _ => rfl) traceWeight_iff, fun agrees => ?_⟩
  refine agreeOn_of_pointwise fun r member => ?_
  obtain ⟨span, json, proto⟩ := @TraceRecord.Agrees.span_eq z r (agrees r member)
  have noAttributes := Multiset.card_eq_zero.mp ((@card_otlpAttributes_eq_zero_iff z _).mpr (agrees r member).scope)
  refine ⟨_, _, by rw [jsonTraceEntry, json]; rfl, by rw [protoTraceEntry, proto]; rfl, ?_⟩
  simp [Entry.unversioned, buildResource, buildAttributes_of_plain z (agrees r member).resource, jsonScope, bareScope,
    noAttributes]

end Traces

/-! ### The payloads of a batch -/

section Payloads

variable (z : Zmij) (i : Iteration String)

theorem logs_agree_iff_agreeOn (separable : ∀ r ∈ records, Separable r.resourceAttributes)
    (forget : Entry ProtoLogRecord → Entry ProtoLogRecord) :
    Agree z logsRead forget (buildOtelPayload z i records) (buildLogsRequest z records) ↔
      AgreeOn (jsonLogEntry z) (protoLogEntry z records) forget records := by
  refine agree_iff_agreeOn (fun data => denotes_logs_iff z i) ?_
  rw [buildLogsRequest_eq]
  exact entries_buildBlocks (fun _ => rfl) (fun key bucket filled => buildScopeLogs_eq z key filled) separable

theorem metrics_agree_iff_agreeOn
    (separable : ∀ r ∈ records, Separable r.resourceAttributes) (forget : Entry Metric → Entry Metric) :
    Agree z metricsRead forget (buildOtelMetricsPayload z i records) (buildMetricsRequest z records) ↔
      AgreeOn (jsonMetricEntry z) protoMetricEntry forget records := by
  refine agree_iff_agreeOn (fun data => denotes_metrics_iff z i) ?_
  rw [buildMetricsRequest_eq]
  exact entries_buildBlocks (fun _ => rfl) (fun key bucket _ => buildScopeMetrics_eq key bucket) separable

theorem traces_agree_iff_agreeOn (separable : ∀ r ∈ records, Separable r.resourceAttributes)
    (forget : Entry Span → Entry Span) :
    Agree z tracesRead forget (buildOtelTracesPayload z i records) (buildTracesRequest z records) ↔
      AgreeOn (jsonTraceEntry z) protoTraceEntry forget records := by
  refine agree_iff_agreeOn (fun data => denotes_traces_iff z i) ?_
  rw [buildTracesRequest_eq]
  exact entries_buildBlocks groupRecordsByScope_eq (fun key bucket _ => buildScopeSpans_eq key bucket) separable

end Payloads

theorem plain_empty : Plain ∅ := fun _ member => absurd member (Multiset.notMem_zero _)

/-- A log record with an attribute that is null, which is a text in the JSON payload. -/
def sampleNull : LogRecord := { sampleLog "" "" with logAttributes := Finmap.singleton "result" .null }

end TcOtel.Otlp
