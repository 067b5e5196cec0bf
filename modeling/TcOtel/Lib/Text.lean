import Mathlib.Data.List.Basic
import Mathlib.Tactic

/-!
# Text on the wire: UTF-8 and UTF-16

A string is its UTF-8 byte list (`utf8Bytes`). `fromUtf8` is the strict decoder,
`fromUtf8Lossy` the one that never fails: valid input is taken as it stands, and
otherwise every maximal prefix of a well-formed sequence that cannot be completed
becomes one replacement character, as the Unicode standard recommends.
-/

namespace Decoding

def utf8Bytes (s : String) : List UInt8 := s.toByteArray.data.toList

def fromUtf8 (bs : List UInt8) : Option String := String.fromUTF8? ⟨bs.toArray⟩

@[simp] theorem fromUtf8_utf8Bytes (s : String) : fromUtf8 (utf8Bytes s) = some s := by
  have same : (⟨(utf8Bytes s).toArray⟩ : ByteArray) = s.toByteArray := by
    simp [utf8Bytes]
  simp only [fromUtf8, same, String.fromUTF8?, s.isValidUTF8]
  rfl

theorem utf8Bytes_of_fromUtf8 (bs : List UInt8) (s : String) (decoded : fromUtf8 bs = some s) :
    utf8Bytes s = bs := by
  simp only [fromUtf8, String.fromUTF8?] at decoded
  split at decoded
  · cases decoded
    simp [utf8Bytes, String.fromUTF8]
  · cases decoded

def replacementChar : Char := Char.ofNat 0xFFFD

def isContinuation (b : UInt8) : Bool := decide (0x80 ≤ b) && decide (b ≤ 0xBF)

/-- Second bytes allowed after a three-byte lead: neither overlong nor a surrogate. -/
def secondOfThree (lead b : UInt8) : Bool :=
  if lead = 0xE0 then decide (0xA0 ≤ b) && decide (b ≤ 0xBF)
  else if lead = 0xED then decide (0x80 ≤ b) && decide (b ≤ 0x9F)
  else isContinuation b

/-- Second bytes allowed after a four-byte lead: neither overlong nor past U+10FFFF. -/
def secondOfFour (lead b : UInt8) : Bool :=
  if lead = 0xF0 then decide (0x90 ≤ b) && decide (b ≤ 0xBF)
  else if lead = 0xF4 then decide (0x80 ≤ b) && decide (b ≤ 0x8F)
  else isContinuation b

def low6 (b : UInt8) : Nat := b.toNat % 64

/-- The character a non-empty byte list starts with and its length, or `none` and the
length of the ill-formed prefix to replace. -/
def nextChunk : List UInt8 → Option Char × Nat
  | [] => (none, 0)
  | b₀ :: rest =>
    if b₀ < 0x80 then (some (Char.ofNat b₀.toNat), 1)
    else if 0xC2 ≤ b₀ ∧ b₀ ≤ 0xDF then
      match rest with
      | b₁ :: _ =>
        if isContinuation b₁ then (some (Char.ofNat (b₀.toNat % 32 * 64 + low6 b₁)), 2) else (none, 1)
      | [] => (none, 1)
    else if 0xE0 ≤ b₀ ∧ b₀ ≤ 0xEF then
      match rest with
      | b₁ :: b₂ :: _ =>
        if secondOfThree b₀ b₁ then
          if isContinuation b₂ then
            (some (Char.ofNat ((b₀.toNat % 16 * 64 + low6 b₁) * 64 + low6 b₂)), 3)
          else (none, 2)
        else (none, 1)
      | [b₁] => (none, if secondOfThree b₀ b₁ then 2 else 1)
      | [] => (none, 1)
    else if 0xF0 ≤ b₀ ∧ b₀ ≤ 0xF4 then
      match rest with
      | b₁ :: b₂ :: b₃ :: _ =>
        if secondOfFour b₀ b₁ then
          if isContinuation b₂ then
            if isContinuation b₃ then
              (some (Char.ofNat
                (((b₀.toNat % 8 * 64 + low6 b₁) * 64 + low6 b₂) * 64 + low6 b₃)), 4)
            else (none, 3)
          else (none, 2)
        else (none, 1)
      | [b₁, b₂] =>
        (none, if secondOfFour b₀ b₁ then (if isContinuation b₂ then 3 else 2) else 1)
      | [b₁] => (none, if secondOfFour b₀ b₁ then 2 else 1)
      | [] => (none, 1)
    else (none, 1)

/-- Lossy decoding, one chunk a round; a list of `n` bytes has at most `n` chunks. -/
def lossyChars : Nat → List UInt8 → List Char
  | 0, _ => []
  | _ + 1, [] => []
  | n + 1, b :: bs =>
    let chunk := nextChunk (b :: bs)
    chunk.1.getD replacementChar :: lossyChars n ((b :: bs).drop chunk.2)

/-- UTF-8 decoding that replaces what is ill-formed. -/
def fromUtf8Lossy (bs : List UInt8) : String :=
  match fromUtf8 bs with
  | some s => s
  | none => String.ofList (lossyChars bs.length bs)

@[simp] theorem fromUtf8Lossy_utf8Bytes (s : String) : fromUtf8Lossy (utf8Bytes s) = s := by
  simp [fromUtf8Lossy]

/-! ### Zero bytes

A zero byte decodes to a zero character, and nothing else does, in valid input or not. -/

theorem char_ofNat_eq_nul (valid : v.isValidChar) : Char.ofNat v = '\x00' ↔ v = 0 := by
  constructor
  · intro same
    have value : (Char.ofNat v).toNat = v := by
      rw [Char.ofNat, dif_pos valid]
      rfl
    rw [← value, same]
    rfl
  · rintro rfl
    rfl

theorem byte_ofNat_eq_zero (small : v < 256) : 0 = UInt8.ofNat v ↔ v = 0 := by
  rw [UInt8.ext_iff, UInt8.toNat_ofNat', Nat.mod_eq_of_lt small]
  exact eq_comm

theorem nul_mem_utf8EncodeChar (c : Char) : 0 ∈ String.utf8EncodeChar c ↔ c = '\x00' := by
  have value : c = '\x00' ↔ c.val.toNat = 0 := by
    rw [← Char.toNat_inj]
    rfl
  rw [value, String.utf8EncodeChar.eq_1]
  -- a byte of a longer encoding has its top bit set
  split
  · simp (disch := omega) only [List.mem_singleton, byte_ofNat_eq_zero]
  split
  · simp (disch := omega) only [List.mem_cons, List.not_mem_nil, or_false, byte_ofNat_eq_zero]
    omega
  split
  · simp (disch := omega) only [List.mem_cons, List.not_mem_nil, or_false, byte_ofNat_eq_zero]
    omega
  · simp (disch := omega) only [List.mem_cons, List.not_mem_nil, or_false, byte_ofNat_eq_zero]
    omega

theorem utf8Bytes_eq_flatMap (s : String) : utf8Bytes s = s.toList.flatMap String.utf8EncodeChar := by
  rw [utf8Bytes, ← String.utf8Encode_toList, List.utf8Encode]
  simp

theorem nul_mem_utf8Bytes (s : String) : 0 ∈ utf8Bytes s ↔ '\x00' ∈ s.toList := by
  rw [utf8Bytes_eq_flatMap, List.mem_flatMap]
  simp only [nul_mem_utf8EncodeChar]
  simp

theorem isContinuation_bounds (is : isContinuation b = true) : 128 ≤ b.toNat ∧ b.toNat ≤ 191 := by
  simpa [isContinuation, UInt8.le_iff_toNat_le] using is

theorem second_bounds {lead b first second low high : UInt8} (apart : first ≠ second) (lower : 128 ≤ low.toNat)
    (upper : high.toNat ≤ 191) (is : (if lead = first then decide (low ≤ b) && decide (b ≤ 0xBF)
      else if lead = second then decide (0x80 ≤ b) && decide (b ≤ high) else isContinuation b) = true) :
    128 ≤ b.toNat ∧ b.toNat ≤ 191 ∧ (lead.toNat = first.toNat → low.toNat ≤ b.toNat) ∧
      (lead.toNat = second.toNat → b.toNat ≤ high.toNat) := by
  simp only [UInt8.toNat_inj]
  split at is
  next here =>
    simp [here, apart, UInt8.le_iff_toNat_le] at is ⊢
    omega
  split at is
  next there =>
    simp [there, Ne.symm apart, UInt8.le_iff_toNat_le] at is ⊢
    omega
  next other there =>
    have bounds := isContinuation_bounds is
    simp [other, there, bounds]

theorem secondOfThree_bounds {lead b : UInt8} (is : secondOfThree lead b = true) :
    128 ≤ b.toNat ∧ b.toNat ≤ 191 ∧ (lead.toNat = 224 → 160 ≤ b.toNat) ∧ (lead.toNat = 237 → b.toNat ≤ 159) :=
  second_bounds (by decide) (by decide) (by decide) is

theorem secondOfFour_bounds {lead b : UInt8} (is : secondOfFour lead b = true) :
    128 ≤ b.toNat ∧ b.toNat ≤ 191 ∧ (lead.toNat = 240 → 144 ≤ b.toNat) ∧ (lead.toNat = 244 → b.toNat ≤ 143) :=
  second_bounds (by decide) (by decide) (by decide) is

/-- A chunk is not empty, and it has a zero byte exactly when it stands for that character. -/
def GoodChunk (bytes : List UInt8) (chunk : Option Char × Nat) : Prop :=
  0 < chunk.2 ∧ (0 ∈ bytes.take chunk.2 ↔ chunk.1.getD replacementChar = '\x00')

theorem goodChunk_none (positive : 0 < n)
    (high : ∀ b ∈ bytes.take n, 128 ≤ b.toNat) : GoodChunk bytes (none, n) := by
  have clean : 0 ∉ bytes.take n := fun member => absurd (high 0 member) (by decide)
  have replaced : replacementChar ≠ '\x00' := by decide
  exact ⟨positive, iff_of_false clean replaced⟩

theorem goodChunk_some (positive : 0 < n) (high : ∀ b ∈ bytes.take n, 128 ≤ b.toNat) (nonzero : v ≠ 0)
    (valid : v < 0xD800 ∨ 0xDFFF < v ∧ v < 0x110000) : GoodChunk bytes (some (Char.ofNat v), n) := by
  have clean : 0 ∉ bytes.take n := fun member => absurd (high 0 member) (by decide)
  exact ⟨positive, iff_of_false clean fun same => nonzero ((char_ofNat_eq_nul valid).mp same)⟩

section Chunks

variable {b₀ b₁ b₂ b₃ : UInt8} {rest : List UInt8}

/-! What is replaced is a byte above ASCII and the continuations behind it that fit. -/

theorem goodChunk_replace_one (lead : ¬b₀.toNat < 128) : GoodChunk (b₀ :: rest) (none, 1) :=
  goodChunk_none (by decide) (by simp; omega)

theorem goodChunk_replace_two (lead : ¬b₀.toNat < 128) (second : 128 ≤ b₁.toNat) :
    GoodChunk (b₀ :: b₁ :: rest) (none, 2) :=
  goodChunk_none (by decide) (by simp; omega)

theorem goodChunk_replace_three (lead : ¬b₀.toNat < 128) (second : 128 ≤ b₁.toNat) (third : 128 ≤ b₂.toNat) :
    GoodChunk (b₀ :: b₁ :: b₂ :: rest) (none, 3) :=
  goodChunk_none (by decide) (by simp; omega)

theorem goodChunk_two (lead : 0xC2 ≤ b₀.toNat ∧ b₀.toNat ≤ 0xDF) (second : isContinuation b₁ = true) :
    GoodChunk (b₀ :: b₁ :: rest) (some (Char.ofNat (b₀.toNat % 32 * 64 + low6 b₁)), 2) := by
  have bounds := isContinuation_bounds second
  apply goodChunk_some (by decide)
  · simp
    omega
  · simp only [low6]
    omega
  · simp only [low6]
    omega

theorem goodChunk_three (lead : 0xE0 ≤ b₀.toNat ∧ b₀.toNat ≤ 0xEF) (second : secondOfThree b₀ b₁ = true)
    (third : isContinuation b₂ = true) :
    GoodChunk (b₀ :: b₁ :: b₂ :: rest) (some (Char.ofNat ((b₀.toNat % 16 * 64 + low6 b₁) * 64 + low6 b₂)), 3) := by
  have bounds := secondOfThree_bounds second
  have bounds' := isContinuation_bounds third
  apply goodChunk_some (by decide)
  · simp
    omega
  · simp only [low6]
    omega
  · simp only [low6]
    omega

theorem goodChunk_four (lead : 0xF0 ≤ b₀.toNat ∧ b₀.toNat ≤ 0xF4) (second : secondOfFour b₀ b₁ = true)
    (third : isContinuation b₂ = true) (fourth : isContinuation b₃ = true) :
    GoodChunk (b₀ :: b₁ :: b₂ :: b₃ :: rest)
      (some (Char.ofNat (((b₀.toNat % 8 * 64 + low6 b₁) * 64 + low6 b₂) * 64 + low6 b₃)), 4) := by
  have bounds := secondOfFour_bounds second
  have bounds' := isContinuation_bounds third
  have bounds'' := isContinuation_bounds fourth
  apply goodChunk_some (by decide)
  · simp
    omega
  · simp only [low6]
    omega
  · simp only [low6]
    omega

end Chunks

theorem goodChunk_nextChunk (b : UInt8) (bs : List UInt8) : GoodChunk (b :: bs) (nextChunk (b :: bs)) := by
  unfold nextChunk
  simp only [UInt8.lt_iff_toNat_lt, UInt8.toNat_ofNat]
  split
  next ascii =>
    refine ⟨Nat.one_pos, ?_⟩
    have valid : b.toNat.isValidChar := .inl (by omega)
    simp [char_ofNat_eq_nul valid, UInt8.ext_iff, eq_comm]
  next wide =>
    split
    -- a lead of two bytes
    next lead =>
      split
      next b₁ rest =>
        split
        next second => exact goodChunk_two lead second
        · exact goodChunk_replace_one wide
      · exact goodChunk_replace_one wide
    split
    -- a lead of three bytes
    next lead =>
      split
      next b₁ b₂ rest =>
        split
        next second =>
          split
          next third => exact goodChunk_three lead second third
          · exact goodChunk_replace_two wide (secondOfThree_bounds second).1
        · exact goodChunk_replace_one wide
      next b₁ =>
        split
        next second => exact goodChunk_replace_two wide (secondOfThree_bounds second).1
        · exact goodChunk_replace_one wide
      · exact goodChunk_replace_one wide
    split
    -- a lead of four bytes
    next lead =>
      split
      next b₁ b₂ b₃ rest =>
        split
        next second =>
          split
          next third =>
            split
            next fourth => exact goodChunk_four lead second third fourth
            · exact goodChunk_replace_three wide (secondOfFour_bounds second).1 (isContinuation_bounds third).1
          · exact goodChunk_replace_two wide (secondOfFour_bounds second).1
        · exact goodChunk_replace_one wide
      next b₁ b₂ =>
        split
        next second =>
          split
          next third =>
            exact goodChunk_replace_three wide (secondOfFour_bounds second).1 (isContinuation_bounds third).1
          · exact goodChunk_replace_two wide (secondOfFour_bounds second).1
        · exact goodChunk_replace_one wide
      next b₁ =>
        split
        next second => exact goodChunk_replace_two wide (secondOfFour_bounds second).1
        · exact goodChunk_replace_one wide
      · exact goodChunk_replace_one wide
    · exact goodChunk_replace_one wide

theorem nul_mem_lossyChars (n : Nat) (bs : List UInt8) (enough : bs.length ≤ n) :
    '\x00' ∈ lossyChars n bs ↔ 0 ∈ bs := by
  induction n generalizing bs with
  | zero =>
    rw [List.length_eq_zero_iff.mp (Nat.le_zero.mp enough)]
    simp [lossyChars]
  | succ n ih =>
    cases bs with
    | nil => simp [lossyChars]
    | cons b bs =>
      obtain ⟨positive, chunk⟩ := goodChunk_nextChunk b bs
      have shorter : ((b :: bs).drop (nextChunk (b :: bs)).2).length ≤ n := by
        rw [List.length_drop]
        omega
      have split := List.take_append_drop (nextChunk (b :: bs)).2 (b :: bs)
      rw [lossyChars, List.mem_cons, ih _ shorter, eq_comm, ← chunk, ← List.mem_append, split]

theorem nul_mem_fromUtf8Lossy (bs : List UInt8) : '\x00' ∈ (fromUtf8Lossy bs).toList ↔ 0 ∈ bs := by
  unfold fromUtf8Lossy
  split
  next s decoded => rw [← nul_mem_utf8Bytes, utf8Bytes_of_fromUtf8 bs s decoded]
  · rw [String.toList_ofList, nul_mem_lossyChars _ _ (Nat.le_refl _)]

/-! ### UTF-16 -/

def utf16Lossy : List UInt16 → List Char
  | [] => []
  | [u] => [if 0xD800 ≤ u ∧ u ≤ 0xDFFF then replacementChar else Char.ofNat u.toNat]
  | u :: v :: rest =>
    if 0xD800 ≤ u ∧ u ≤ 0xDBFF then
      if 0xDC00 ≤ v ∧ v ≤ 0xDFFF then
        Char.ofNat (0x10000 + (u.toNat - 0xD800) * 1024 + (v.toNat - 0xDC00)) :: utf16Lossy rest
      else replacementChar :: utf16Lossy (v :: rest)
    else if 0xDC00 ≤ u ∧ u ≤ 0xDFFF then replacementChar :: utf16Lossy (v :: rest)
    else Char.ofNat u.toNat :: utf16Lossy (v :: rest)

def utf16Encode (c : Char) : List UInt16 :=
  if c.toNat < 0x10000 then [UInt16.ofNat c.toNat]
  else
    [UInt16.ofNat (0xD800 + (c.toNat - 0x10000) / 1024),
      UInt16.ofNat (0xDC00 + (c.toNat - 0x10000) % 1024)]

private theorem char_bounds (c : Char) : c.toNat < 0xD800 ∨ (0xDFFF < c.toNat ∧ c.toNat < 0x110000) :=
  c.valid

private theorem utf16Lossy_encode_append (c : Char) (rest : List UInt16) :
    utf16Lossy (utf16Encode c ++ rest) = c :: utf16Lossy rest := by
  have bounds := char_bounds c
  by_cases basic : c.toNat < 0x10000
  · -- one unit, which is no surrogate
    have unit : (UInt16.ofNat c.toNat).toNat = c.toNat := by
      exact Nat.mod_eq_of_lt basic
    rw [utf16Encode, if_pos basic, List.singleton_append]
    cases rest with
    | nil =>
      have plain : ¬(0xD800 ≤ UInt16.ofNat c.toNat ∧ UInt16.ofNat c.toNat ≤ 0xDFFF) := by
        simp only [UInt16.le_iff_toNat_le, UInt16.toNat_ofNat]
        omega
      simp [utf16Lossy, if_neg plain, unit]
    | cons v rest =>
      rw [utf16Lossy, if_neg, if_neg, unit, Char.ofNat_toNat]
      · simp only [UInt16.le_iff_toNat_le, UInt16.toNat_ofNat]
        omega
      · simp only [UInt16.le_iff_toNat_le, UInt16.toNat_ofNat]
        omega
  · -- a surrogate pair
    have high : (UInt16.ofNat (0xD800 + (c.toNat - 0x10000) / 1024)).toNat =
        0xD800 + (c.toNat - 0x10000) / 1024 := by
      rw [UInt16.toNat_ofNat']
      exact Nat.mod_eq_of_lt (by omega)
    have low : (UInt16.ofNat (0xDC00 + (c.toNat - 0x10000) % 1024)).toNat =
        0xDC00 + (c.toNat - 0x10000) % 1024 := by
      rw [UInt16.toNat_ofNat']
      exact Nat.mod_eq_of_lt (by omega)
    have joined : 0x10000 + (0xD800 + (c.toNat - 0x10000) / 1024 - 0xD800) * 1024 +
        (0xDC00 + (c.toNat - 0x10000) % 1024 - 0xDC00) = c.toNat := by omega
    rw [utf16Encode, if_neg basic]
    simp only [List.cons_append, List.nil_append]
    rw [utf16Lossy, if_pos, if_pos, high, low, joined, Char.ofNat_toNat]
    · simp only [UInt16.le_iff_toNat_le, UInt16.toNat_ofNat]
      omega
    · simp only [UInt16.le_iff_toNat_le, UInt16.toNat_ofNat]
      omega

theorem utf16Lossy_flatMap_utf16Encode (cs : List Char) : utf16Lossy (cs.flatMap utf16Encode) = cs := by
  induction cs with
  | nil => rfl
  | cons c cs ih => rw [List.flatMap_cons, utf16Lossy_encode_append, ih]

end Decoding
