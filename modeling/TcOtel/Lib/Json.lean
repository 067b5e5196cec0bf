import TcOtel.Lib.Bytes
import Mathlib.Data.List.Basic
import Mathlib.Tactic

/-!
# JSON values and their compact text

Numbers are a parameter, with a way to write them (`Numerals`). The text of a value is the value's
alone (`text_injective`), and it is so even behind some other text and an equals sign
(`split_unique`): an equals sign is only ever inside a string of a text, and no text can be read
from the inside of a string of another.
-/

namespace Rendering

open Decoding

inductive Json (ν : Type) where
  | null
  | bool (b : Bool)
  | number (n : ν)
  | string (s : String)
  | array (items : List (Json ν))
  | object (fields : List (String × Json ν))
deriving Repr

variable {ν : Type}

/-! ### Strings -/

def quote : Char := Char.ofNat 34

def backslash : Char := Char.ofNat 92

/-- The characters that are written as a backslash and one other character, which is given too. -/
def shortEscapes : List (Char × Char) :=
  [(quote, quote), (backslash, backslash), (Char.ofNat 8, 'b'), (Char.ofNat 9, 't'), (Char.ofNat 10, 'n'),
    (Char.ofNat 12, 'f'), (Char.ofNat 13, 'r')]

def escape (c : Char) : List Char :=
  match shortEscapes.lookup c with
  | some short => [backslash, short]
  | none =>
    if c.toNat < 32 then [backslash, 'u', '0', '0', hexDigit (c.toNat / 16), hexDigit (c.toNat % 16)]
    else [c]

def stringText (s : String) : List Char := quote :: (s.toList.flatMap escape ++ [quote])

/-- The character that a part of a string begins with, and what is behind it. -/
def unescape : List Char → Option (Char × List Char)
  | [] => none
  | c :: rest =>
    if c = backslash then
      match rest with
      -- no short escape is written with a `u`, so this form is tried first
      | 'u' :: '0' :: '0' :: high :: low :: rest => do
        let h ← hexValue high
        let l ← hexValue low
        pure (Char.ofNat (16 * h + l), rest)
      | short :: rest => ((shortEscapes.find? fun pair => pair.2 = short).map Prod.fst).map fun c => (c, rest)
      | [] => none
    else some (c, rest)

theorem escape_cases (c : Char) : (∃ short, (c, short) ∈ shortEscapes ∧ escape c = [backslash, short]) ∨
    (c.toNat < 32 ∧ escape c = [backslash, 'u', '0', '0', hexDigit (c.toNat / 16), hexDigit (c.toNat % 16)]) ∨
    (c ≠ quote ∧ c ≠ backslash ∧ 32 ≤ c.toNat ∧ escape c = [c]) := by
  rw [escape]
  cases found : shortEscapes.lookup c with
  | some short =>
    -- the table has the pair that is looked up
    obtain ⟨before, behind, table, -⟩ := List.lookup_eq_some_iff.mp found
    exact .inl ⟨short, by simp [table], rfl⟩
  | none =>
    have other := List.lookup_eq_none_iff.mp found
    have noQuote : c ≠ quote := by
      intro same
      have := other (quote, quote) (by simp [shortEscapes])
      simp [same] at this
    have noBackslash : c ≠ backslash := by
      intro same
      have := other (backslash, backslash) (by simp [shortEscapes])
      simp [same] at this
    by_cases control : c.toNat < 32
    · simp [control]
    · simp [noQuote, noBackslash, Nat.le_of_not_lt control]

theorem unescape_escape (c : Char) (rest : List Char) : unescape (escape c ++ rest) = some (c, rest) := by
  rcases escape_cases c with ⟨short, listed, written⟩ | ⟨control, written⟩ | ⟨-, noBackslash, -, written⟩
  · rw [written]
    simp only [shortEscapes, List.mem_cons, List.not_mem_nil, or_false] at listed
    rcases listed with ⟨rfl, rfl⟩ | ⟨rfl, rfl⟩ | ⟨rfl, rfl⟩ | ⟨rfl, rfl⟩ | ⟨rfl, rfl⟩ | ⟨rfl, rfl⟩ | ⟨rfl, rfl⟩ <;> rfl
  · have high : c.toNat / 16 < 16 := by omega
    have low : c.toNat % 16 < 16 := Nat.mod_lt _ (by decide)
    have whole : Char.ofNat (16 * (c.toNat / 16) + c.toNat % 16) = c := by
      rw [Nat.div_add_mod, Char.ofNat_toNat]
    simp [written, unescape, hexValue_hexDigit high, hexValue_hexDigit low, whole]
  · simp [written, unescape, noBackslash]

/-- A string ends at the first quote that is not escaped. -/
theorem escaped_append_inj {a b r s : List Char}
    (same : a.flatMap escape ++ quote :: r = b.flatMap escape ++ quote :: s) : a = b ∧ r = s := by
  -- no character is written with a quote in front, so the shorter string cannot have ended
  have closed (c : Char) (x y : List Char) : escape c ++ x ≠ quote :: y := by
    intro equal
    rcases escape_cases c with ⟨short, -, written⟩ | ⟨-, written⟩ | ⟨noQuote, -, -, written⟩
    all_goals rw [written, List.cons_append, List.cons.injEq] at equal
    · exact absurd equal.1 (by decide)
    · exact absurd equal.1 (by decide)
    · exact noQuote equal.1
  induction a generalizing b with
  | nil =>
    cases b with
    | nil => exact ⟨rfl, (List.cons.inj same).2⟩
    | cons d b =>
      rw [List.flatMap_cons, List.append_assoc] at same
      exact absurd same.symm (closed d _ _)
  | cons c a ih =>
    cases b with
    | nil =>
      rw [List.flatMap_cons, List.append_assoc] at same
      exact absurd same (closed c _ _)
    | cons d b =>
      rw [List.flatMap_cons, List.flatMap_cons, List.append_assoc, List.append_assoc] at same
      -- both sides are read one character further
      have read := congrArg unescape same
      rw [unescape_escape, unescape_escape, Option.some.injEq, Prod.mk.injEq] at read
      obtain ⟨first, rest⟩ := read
      obtain ⟨behind, ends⟩ := ih rest
      exact ⟨by rw [first, behind], ends⟩

theorem stringText_append_inj (same : stringText a ++ r = stringText b ++ s) : a = b ∧ r = s := by
  simp only [stringText, List.cons_append, List.append_assoc, List.cons.injEq, true_and] at same
  obtain ⟨chars, ends⟩ := escaped_append_inj same
  exact ⟨String.toList_injective chars, ends⟩

/-! ### Numbers -/

/-- The characters that numbers are written with. -/
def isNumeral (c : Char) : Bool := c.isDigit || ['-', '+', '.', 'e', 'E'].contains c

structure Numerals (ν : Type) where
  text : ν → List Char
  filled : ∀ n, text n ≠ []
  plain : ∀ n, ∀ c ∈ text n, isNumeral c
  injective : Function.Injective text

/-- What can stand behind a number: the text's end, or a character of another kind. -/
def Ends (r : List Char) : Prop := ∀ c ∈ r.head?, isNumeral c = false

theorem Numerals.append_inj (num : Numerals ν) (afterN : Ends r) (afterM : Ends s)
    (same : num.text n ++ r = num.text m ++ s) : n = m ∧ r = s := by
  -- a number is all there is up to the first character of another kind
  have taken (k : ν) {x : List Char} (after : Ends x) : (num.text k ++ x).takeWhile isNumeral = num.text k := by
    rw [List.takeWhile_append_of_pos (num.plain k)]
    cases x with
    | nil => simp
    | cons c x => simp [after c rfl]
  have texts : num.text n = num.text m := by
    rw [← taken n afterN, ← taken m afterM, same]
  rw [texts] at same
  exact ⟨num.injective texts, List.append_cancel_left same⟩

/-! ### Values -/

mutual

def text (num : Numerals ν) : Json ν → List Char
  | .null => ['n', 'u', 'l', 'l']
  | .bool true => ['t', 'r', 'u', 'e']
  | .bool false => ['f', 'a', 'l', 's', 'e']
  | .number n => num.text n
  | .string s => stringText s
  | .array [] => ['[', ']']
  | .array (v :: vs) => '[' :: (text num v ++ itemsText num vs)
  | .object [] => ['{', '}']
  | .object ((k, v) :: fs) => '{' :: (stringText k ++ ':' :: (text num v ++ fieldsText num fs))

def itemsText (num : Numerals ν) : List (Json ν) → List Char
  | [] => [']']
  | v :: vs => ',' :: (text num v ++ itemsText num vs)

def fieldsText (num : Numerals ν) : List (String × Json ν) → List Char
  | [] => ['}']
  | (k, v) :: fs => ',' :: (stringText k ++ ':' :: (text num v ++ fieldsText num fs))

end

variable {num : Numerals ν}

theorem ends_itemsText (vs : List (Json ν)) (r : List Char) : Ends (itemsText num vs ++ r) := by
  cases vs <;> simp [Ends, itemsText] <;> decide

theorem ends_fieldsText (fs : List (String × Json ν)) (r : List Char) : Ends (fieldsText num fs ++ r) := by
  rcases fs with - | ⟨⟨k, v⟩, fs⟩ <;> simp [Ends, fieldsText] <;> decide

/-- The kinds of values, which can be told by the first character of a text. -/
inductive Kind where
  | null | bool (b : Bool) | number | string | array | object
deriving DecidableEq

def Json.kind : Json ν → Kind
  | .null => .null
  | .bool b => .bool b
  | .number _ => .number
  | .string _ => .string
  | .array _ => .array
  | .object _ => .object

/-- A closing bracket begins no value. -/
def kindOf (c : Char) : Option Kind :=
  if isNumeral c then some .number
  else if c = quote then some .string
  else if c = 'n' then some .null
  else if c = 't' then some (.bool true)
  else if c = 'f' then some (.bool false)
  else if c = '[' then some .array
  else if c = '{' then some .object
  else none

theorem kindOf_text (num : Numerals ν) (v : Json ν) : ∃ c rest, text num v = c :: rest ∧ kindOf c = some v.kind := by
  cases v with
  | number n =>
    cases written : num.text n with
    | nil => exact absurd written (num.filled n)
    | cons c rest =>
      have numeral := num.plain n c (by simp [written])
      exact ⟨c, rest, by rw [text, written], by simp [kindOf, numeral, Json.kind]⟩
  | null => exact ⟨_, _, by rw [text], rfl⟩
  | bool b => cases b <;> exact ⟨_, _, by rw [text], rfl⟩
  | string s => exact ⟨_, _, by rw [text, stringText], rfl⟩
  | array items => cases items <;> exact ⟨_, _, by rw [text], rfl⟩
  | object fields => rcases fields with - | ⟨⟨k, v⟩, fs⟩ <;> exact ⟨_, _, by rw [text], rfl⟩

theorem kind_eq_of_text (same : text num v ++ r = text num w ++ s) : v.kind = w.kind := by
  obtain ⟨c, x, first, kindV⟩ := kindOf_text num v
  obtain ⟨d, y, second, kindW⟩ := kindOf_text num w
  rw [first, second, List.cons_append, List.cons_append, List.cons.injEq] at same
  rw [same.1, kindW] at kindV
  exact (Option.some.inj kindV).symm

theorem text_ne_closing (v : Json ν) (closing : kindOf c = none) (r s : List Char) :
    text num v ++ r ≠ c :: s := by
  intro same
  obtain ⟨d, x, first, kind⟩ := kindOf_text num v
  rw [first, List.cons_append, List.cons.injEq] at same
  rw [same.1, closing] at kind
  cases kind

mutual

/-- The text of a value says where it ends and which value it is of. -/
theorem text_append_inj (v w : Json ν) (afterV : Ends r) (afterW : Ends s)
    (same : text num v ++ r = text num w ++ s) : v = w ∧ r = s := by
  -- the first character tells the kind, so only values of one kind are compared
  have kinds := kind_eq_of_text same
  match v, w, kinds with
  | .null, .null, _ => exact ⟨rfl, List.append_cancel_left same⟩
  | .bool b, .bool _, rfl => exact ⟨rfl, List.append_cancel_left same⟩
  | .number n, .number m, _ =>
    rw [text, text] at same
    obtain ⟨rfl, rest⟩ := num.append_inj afterV afterW same
    exact ⟨rfl, rest⟩
  | .string a, .string b, _ =>
    rw [text, text] at same
    obtain ⟨rfl, rest⟩ := stringText_append_inj same
    exact ⟨rfl, rest⟩
  | .array [], .array [], _ => exact ⟨rfl, List.append_cancel_left same⟩
  | .array [], .array (w :: ws), _ =>
    simp only [text, List.cons_append, List.append_assoc, List.cons.injEq, true_and] at same
    -- one array ends where the other has an item
    exact absurd same.symm (text_ne_closing w (by decide) _ _)
  | .array (v :: vs), .array [], _ =>
    simp only [text, List.cons_append, List.append_assoc, List.cons.injEq, true_and] at same
    exact absurd same (text_ne_closing v (by decide) _ _)
  | .array (v :: vs), .array (w :: ws), _ =>
    simp only [text, List.cons_append, List.append_assoc, List.cons.injEq, true_and] at same
    obtain ⟨rfl, behind⟩ := text_append_inj v w (ends_itemsText vs r) (ends_itemsText ws s) same
    obtain ⟨rfl, rest⟩ := itemsText_append_inj vs ws behind
    exact ⟨rfl, rest⟩
  | .object [], .object [], _ => exact ⟨rfl, List.append_cancel_left same⟩
  | .object [], .object ((k, w) :: fs), _ =>
    simp only [text, stringText, List.cons_append, List.cons.injEq, true_and] at same
    exact absurd same.1 (by decide)
  | .object ((k, v) :: fs), .object [], _ =>
    simp only [text, stringText, List.cons_append, List.cons.injEq, true_and] at same
    exact absurd same.1 (by decide)
  | .object ((k, v) :: fs), .object ((l, w) :: gs), _ =>
    simp only [text, List.cons_append, List.append_assoc, List.cons.injEq, true_and] at same
    obtain ⟨rfl, behindKey⟩ := stringText_append_inj same
    obtain ⟨rfl, behind⟩ :=
      text_append_inj v w (ends_fieldsText fs r) (ends_fieldsText gs s) (List.cons.inj behindKey).2
    obtain ⟨rfl, rest⟩ := fieldsText_append_inj fs gs behind
    exact ⟨rfl, rest⟩

theorem itemsText_append_inj (vs ws : List (Json ν))
    (same : itemsText num vs ++ r = itemsText num ws ++ s) : vs = ws ∧ r = s := by
  match vs, ws with
  | [], [] => exact ⟨rfl, List.append_cancel_left same⟩
  | [], w :: ws | w :: ws, [] =>
    simp only [itemsText, List.cons_append, List.cons.injEq] at same
    exact absurd same.1 (by decide)
  | v :: vs, w :: ws =>
    simp only [itemsText, List.cons_append, List.append_assoc, List.cons.injEq, true_and] at same
    obtain ⟨rfl, behind⟩ := text_append_inj v w (ends_itemsText vs r) (ends_itemsText ws s) same
    obtain ⟨rfl, rest⟩ := itemsText_append_inj vs ws behind
    exact ⟨rfl, rest⟩

theorem fieldsText_append_inj (fs gs : List (String × Json ν))
    (same : fieldsText num fs ++ r = fieldsText num gs ++ s) : fs = gs ∧ r = s := by
  match fs, gs with
  | [], [] => exact ⟨rfl, List.append_cancel_left same⟩
  | [], (k, w) :: gs | (k, w) :: gs, [] =>
    simp only [fieldsText, List.cons_append, List.cons.injEq] at same
    exact absurd same.1 (by decide)
  | (k, v) :: fs, (l, w) :: gs =>
    simp only [fieldsText, List.cons_append, List.append_assoc, List.cons.injEq, true_and] at same
    obtain ⟨rfl, behindKey⟩ := stringText_append_inj same
    obtain ⟨rfl, behind⟩ :=
      text_append_inj v w (ends_fieldsText fs r) (ends_fieldsText gs s) (List.cons.inj behindKey).2
    obtain ⟨rfl, rest⟩ := fieldsText_append_inj fs gs behind
    exact ⟨rfl, rest⟩

end

theorem text_injective (num : Numerals ν) : Function.Injective (text num) := by
  intro v w same
  have atEnd : Ends [] := by simp [Ends]
  exact (text_append_inj v w atEnd atEnd (congrArg (· ++ []) same)).1

/-! ### Texts behind an equals sign -/

theorem escape_printable (member : d ∈ escape c) : 32 ≤ d.toNat := by
  rcases escape_cases c with ⟨short, listed, written⟩ | ⟨control, written⟩ | ⟨-, -, printable, written⟩
  · have all : ∀ pair ∈ shortEscapes, 32 ≤ pair.2.toNat := by decide
    rw [written, List.mem_cons, List.mem_singleton] at member
    rcases member with rfl | rfl
    · decide
    · exact all _ listed
  · have digits : ∀ n < 16, 32 ≤ (hexDigit n).toNat := by decide
    have high := digits (c.toNat / 16) (by omega)
    have low := digits (c.toNat % 16) (Nat.mod_lt _ (by decide))
    simp only [written, List.mem_cons, List.not_mem_nil, or_false] at member
    rcases member with rfl | rfl | rfl | rfl | rfl | rfl
    all_goals first | assumption | decide
  · rw [written, List.mem_singleton] at member
    rw [member]
    exact printable

theorem stringText_printable (member : d ∈ stringText s) : 32 ≤ d.toNat := by
  simp only [stringText, List.mem_cons, List.mem_append, List.mem_flatMap, List.not_mem_nil, or_false] at member
  rcases member with rfl | ⟨c, -, written⟩ | rfl
  · decide
  · exact escape_printable written
  · decide

theorem printable_of_isNumeral (numeral : isNumeral c) : 32 ≤ c.toNat := by
  simp only [isNumeral, Bool.or_eq_true, Char.isDigit_iff_toNat, List.contains_iff_mem, List.mem_cons,
    List.not_mem_nil, or_false] at numeral
  rcases numeral with ⟨low, -⟩ | rfl | rfl | rfl | rfl | rfl
  · exact Nat.le_trans (by decide) low
  all_goals decide

/-- Where the reader of a text stands: outside of strings, within one, or behind a backslash. -/
inductive Scan where
  | outside | inside | escaped
deriving DecidableEq

/-- One character. Outside of strings there is neither a backslash nor an equals sign, and no equals
sign is escaped. -/
def Scan.step : Scan → Char → Option Scan
  | .outside, c => if c = quote then some .inside else if c = backslash ∨ c = '=' then none else some .outside
  | .inside, c => if c = quote then some .outside else if c = backslash then some .escaped else some .inside
  | .escaped, c => if c = '=' then none else some .inside

def scan (s : Scan) (chars : List Char) : Option Scan := chars.foldlM Scan.step s

@[simp] theorem scan_nil (s : Scan) : scan s [] = some s := rfl

@[simp] theorem scan_cons (s : Scan) (c : Char) (rest : List Char) :
    scan s (c :: rest) = (s.step c).bind fun s => scan s rest := List.foldlM_cons

theorem scan_append (s : Scan) (x y : List Char) : scan s (x ++ y) = (scan s x).bind fun s => scan s y :=
  List.foldlM_append

theorem scan_escape (c : Char) : scan .inside (escape c) = some .inside := by
  rcases escape_cases c with ⟨short, listed, written⟩ | ⟨control, written⟩ | ⟨noQuote, noBackslash, -, written⟩
  · have all : ∀ pair ∈ shortEscapes, scan .inside [backslash, pair.2] = some .inside := by decide
    rw [written]
    exact all _ listed
  · have all : ∀ n < 32, scan .inside [backslash, 'u', '0', '0', hexDigit (n / 16), hexDigit (n % 16)] =
        some .inside := by decide
    rw [written]
    exact all _ control
  · simp [written, Scan.step, noQuote, noBackslash]

theorem scan_stringText (s : String) : scan .outside (stringText s) = some .outside := by
  -- what is escaped never leaves the string
  have within (chars : List Char) : scan .inside (chars.flatMap escape) = some .inside := by
    induction chars with
    | nil => rfl
    | cons c chars ih => rw [List.flatMap_cons, scan_append, scan_escape, Option.bind_some, ih]
  rw [stringText, scan_cons]
  simp only [Scan.step, if_true, Option.bind_some]
  rw [scan_append, within]
  rfl

/-- A part of a text between two strings of it, or with whole strings in it. -/
structure Readable (chars : List Char) : Prop where
  scanned : scan .outside chars = some .outside
  printable : ∀ c ∈ chars, 32 ≤ c.toNat

theorem Readable.append (first : Readable x) (second : Readable y) : Readable (x ++ y) where
  scanned := by rw [scan_append, first.scanned, Option.bind_some, second.scanned]
  printable c member := (List.mem_append.mp member).elim (first.printable c) (second.printable c)

theorem Readable.cons (first : Readable [c]) (second : Readable y) : Readable (c :: y) :=
  first.append second

/-- A character that stands for itself outside of strings. -/
def isOrdinary (c : Char) : Bool := c ≠ quote ∧ c ≠ backslash ∧ c ≠ '=' ∧ 32 ≤ c.toNat

theorem readable_of_ordinary (ordinary : chars.all isOrdinary) : Readable chars := by
  induction chars with
  | nil => exact ⟨rfl, nofun⟩
  | cons c chars ih =>
    rw [List.all_cons, Bool.and_eq_true] at ordinary
    obtain ⟨noQuote, noBackslash, noEquals, printable⟩ := of_decide_eq_true ordinary.1
    have first : Readable [c] := {
      scanned := by simp [Scan.step, noQuote, noBackslash, noEquals]
      printable := fun d member => by rwa [List.mem_singleton.mp member] }
    exact first.cons (ih ordinary.2)

theorem readable_stringText (s : String) : Readable (stringText s) where
  scanned := scan_stringText s
  printable _ := stringText_printable

theorem readable_of_numerals (numerals : ∀ c ∈ chars, isNumeral c) : Readable chars := by
  refine readable_of_ordinary (List.all_eq_true.mpr fun c member => decide_eq_true ?_)
  have numeral := numerals c member
  refine ⟨?_, ?_, ?_, printable_of_isNumeral numeral⟩ <;> rintro rfl <;> exact absurd numeral (by decide)

theorem readable_colon (behind : Readable x) : Readable (':' :: x) :=
  (readable_of_ordinary (by decide)).cons behind

theorem readable_comma (behind : Readable x) : Readable (',' :: x) :=
  (readable_of_ordinary (by decide)).cons behind

mutual

theorem readable_text (num : Numerals ν) (v : Json ν) : Readable (text num v) := by
  match v with
  | .null => rw [text]; exact readable_of_ordinary (by decide)
  | .bool true => rw [text]; exact readable_of_ordinary (by decide)
  | .bool false => rw [text]; exact readable_of_ordinary (by decide)
  | .number n => rw [text]; exact readable_of_numerals (num.plain n)
  | .string s => rw [text]; exact readable_stringText s
  | .array [] => rw [text]; exact readable_of_ordinary (by decide)
  | .array (v :: vs) =>
    rw [text]
    exact Readable.cons (readable_of_ordinary (by decide)) ((readable_text num v).append (readable_itemsText num vs))
  | .object [] => rw [text]; exact readable_of_ordinary (by decide)
  | .object ((k, v) :: fs) =>
    rw [text]
    exact Readable.cons (readable_of_ordinary (by decide)) ((readable_stringText k).append
      (readable_colon ((readable_text num v).append (readable_fieldsText num fs))))

theorem readable_itemsText (num : Numerals ν) (vs : List (Json ν)) : Readable (itemsText num vs) := by
  match vs with
  | [] => rw [itemsText]; exact readable_of_ordinary (by decide)
  | v :: vs =>
    rw [itemsText]
    exact readable_comma ((readable_text num v).append (readable_itemsText num vs))

theorem readable_fieldsText (num : Numerals ν) (fs : List (String × Json ν)) : Readable (fieldsText num fs) := by
  match fs with
  | [] => rw [fieldsText]; exact readable_of_ordinary (by decide)
  | (k, v) :: fs =>
    rw [fieldsText]
    exact readable_comma ((readable_stringText k).append
      (readable_colon ((readable_text num v).append (readable_fieldsText num fs))))

end

/-- Of two readers, one within a string and one outside, neither of which ever fails, one stays within
and one outside. -/
theorem scan_complement (within : scan .inside chars = some p) (without : scan .outside chars = some q) :
    (p = .inside ∧ q = .outside) ∨ (p = .outside ∧ q = .inside) := by
  -- both directions at once, since a quote swaps the two
  suffices both : ∀ p q, scan .inside chars = some p → scan .outside chars = some q →
      (p = .inside ∧ q = .outside) ∨ (p = .outside ∧ q = .inside) from both p q within without
  clear within without p q
  induction chars with
  | nil =>
    intro p q within without
    exact .inl ⟨(Option.some.inj within).symm, (Option.some.inj without).symm⟩
  | cons c chars ih =>
    intro p q within without
    by_cases isQuote : c = quote
    · simp only [isQuote] at within without
      exact (ih q p without within).elim (fun h => .inr h.symm) fun h => .inl h.symm
    · by_cases refused : c = backslash ∨ c = '='
      · simp [Scan.step, isQuote, refused] at without
      · have noBackslash : c ≠ backslash := fun same => refused (.inl same)
        simp only [scan_cons, Scan.step, if_neg isQuote, if_neg refused, if_neg noBackslash]
          at within without
        exact ih p q within without

/-- No text of a value goes on, behind one of its equals signs, with the text of a value. -/
theorem text_ne_equals (num : Numerals ν) (v w : Json ν) (x : List Char) : text num v ≠ x ++ '=' :: text num w := by
  intro same
  have whole := (readable_text num v).scanned
  have part := (readable_text num w).scanned
  rw [same, scan_append] at whole
  obtain ⟨s, -, behind⟩ := Option.bind_eq_some_iff.mp whole
  cases s with
  | outside => simp [Scan.step, show ¬('=' = quote) by decide] at behind
  | escaped => simp [Scan.step] at behind
  | inside =>
    have within : scan .inside (text num w) = some .outside := behind
    rcases scan_complement within part with ⟨ends, -⟩ | ⟨-, ends⟩ <;> cases ends

/-- Where the key ends is not told by the first equals sign, nor by the last one, but it is determined. -/
theorem split_unique (same : k ++ '=' :: text num v = l ++ '=' :: text num w) : k = l ∧ v = w := by
  have values {x : List Char} {v w : Json ν} (shifted : '=' :: text num v = x ++ '=' :: text num w) :
      x = [] ∧ v = w := by
    cases x with
    | nil => exact ⟨rfl, text_injective num (List.cons.inj shifted).2⟩
    | cons c x => exact absurd (List.cons.inj shifted).2 (text_ne_equals num v w x)
  rcases List.append_eq_append_iff.mp same with ⟨x, keys, shifted⟩ | ⟨x, keys, shifted⟩
  · obtain ⟨rfl, rfl⟩ := values shifted
    exact ⟨by simp [keys], rfl⟩
  · obtain ⟨rfl, rfl⟩ := values shifted
    exact ⟨by simp [keys], rfl⟩

/-! ### Lists of entries -/

def entriesText (num : Numerals ν) (separator : Char) (entries : List (String × Json ν)) : List Char :=
  entries.flatMap fun (k, v) => k.toList ++ '=' :: text num v ++ [separator]

theorem separated_append_inj (freeA : separator ∉ a) (freeB : separator ∉ b)
    (same : a ++ separator :: r = b ++ separator :: s) : a = b ∧ r = s := by
  rcases List.append_eq_append_iff.mp same with ⟨x, rfl, shifted⟩ | ⟨x, rfl, shifted⟩
  all_goals
    cases x with
    | nil => simp_all
    | cons c x =>
      obtain ⟨rfl, -⟩ := List.cons.inj shifted
      simp at freeA freeB

/-- A control character that is in no key separates the entries. -/
theorem entriesText_injective (control : separator.toNat < 32)
    (freeX : ∀ entry ∈ xs, separator ∉ entry.1.toList) (freeY : ∀ entry ∈ ys, separator ∉ entry.1.toList)
    (same : entriesText num separator xs = entriesText num separator ys) : xs = ys := by
  have free {entry : String × Json ν} (key : separator ∉ entry.1.toList) :
      separator ∉ entry.1.toList ++ '=' :: text num entry.2 := by
    have noText : separator ∉ '=' :: text num entry.2 := by
      intro member
      rcases List.mem_cons.mp member with isEquals | member
      · rw [isEquals] at control
        exact absurd control (by decide)
      · exact absurd ((readable_text num entry.2).printable _ member) (Nat.not_le_of_lt control)
    rw [List.mem_append, not_or]
    exact ⟨key, noText⟩
  induction xs generalizing ys with
  | nil =>
    cases ys with
    | nil => rfl
    | cons y ys => simp [entriesText] at same
  | cons x xs ih =>
    cases ys with
    | nil => simp [entriesText] at same
    | cons y ys =>
      obtain ⟨keyX, restX⟩ := List.forall_mem_cons.mp freeX
      obtain ⟨keyY, restY⟩ := List.forall_mem_cons.mp freeY
      simp only [entriesText, List.flatMap_cons, List.append_assoc _ [separator]] at same
      obtain ⟨first, behind⟩ := separated_append_inj (free keyX) (free keyY) same
      obtain ⟨keys, values⟩ := split_unique first
      rw [Prod.ext (String.toList_injective keys) values, ih restX restY behind]

end Rendering
