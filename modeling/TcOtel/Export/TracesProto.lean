import TcOtel.Core.Models
import TcOtel.Lib.Bytes
import TcOtel.Lib.Text

/-!
# OTLP spans

`build_span` of `traces_proto.rs` with what it uses of `proto_common.rs`. The ids of a record are
decoded from their hexadecimal texts, and the attributes come out in the order of a `HashMap`,
that is in any order. An id that was encoded from bytes is decoded to them (`decodeFixedHex_hexEncode`).
-/

namespace TcOtel.Export

open Decoding

/-! ### Attributes -/

inductive AnyValue where
  | boolValue (b : Bool)
  | stringValue (s : String)
  | intValue (i : Int64)
  | doubleValue (f : F64)
deriving DecidableEq, Repr

/-- A number is an `i64` or a `u64`; the second is cast to the first. -/
def jsonToAnyValue : Value → Option AnyValue
  | .null => none
  | .bool b => some (.boolValue b)
  | .string s => some (.stringValue s)
  | .int i => some (.intValue (Int64.ofInt i))
  | .float f => some (.doubleValue f)

def buildAttributes (attrs : HashMap String Value) : Multiset (String × AnyValue) :=
  attrs.entries.filterMap fun entry => (jsonToAnyValue entry.2).map fun av => (entry.1, av)

/-! ### Ids and times -/

/-- `u8::from_str_radix` of two characters, the first of which may be a sign. -/
def fromStrRadix16 (hi lo : UInt8) : Option UInt8 :=
  let digit (b : UInt8) := hexValue (Char.ofNat b.toNat)
  if hi = 43 then (digit lo).map UInt8.ofNat
  else do
    let h ← digit hi
    let l ← digit lo
    pure (UInt8.ofNat (16 * h + l))

/-- The loop of `decode_fixed_hex` from some pair on. There is no result if it panics: a slice of
a text has to start and to end between two characters. -/
def decodePairs (out : List UInt8) : List UInt8 → Option (List UInt8)
  | hi :: lo :: rest =>
    if isContinuation hi || rest.head?.any isContinuation then none
    else
      match fromStrRadix16 hi lo with
      | some b => decodePairs (out ++ [b]) rest
      | none => some []
  | _ => some out

def decodeFixedHex (s : String) (expectedBytes : Nat) : Option (List UInt8) :=
  let bytes := utf8Bytes s
  if bytes.isEmpty || bytes.length != expectedBytes * 2 then some [] else decodePairs [] bytes

def decodeTraceIdHex (s : String) : Option (List UInt8) := decodeFixedHex s 16

def decodeSpanIdHex (s : String) : Option (List UInt8) := decodeFixedHex s 8

/-- Nanoseconds since 1970, and zero for what an `i64` of them does not reach. -/
def datetimeToUnixNano (ts : DateTime) : UInt64 :=
  let nanos := ts.secs * 1000000000 + ts.nanos
  if -2 ^ 63 ≤ nanos ∧ nanos < 2 ^ 63 then UInt64.ofNat nanos.toNat else 0

/-! ### Spans -/

/-- `span::Event`. The counts of what was dropped are zero throughout and are left out. -/
structure Event where
  timeUnixNano : UInt64
  name : String
  attributes : Multiset (String × AnyValue)
deriving DecidableEq

structure Status where
  message : String
  code : Int32
deriving DecidableEq

structure Span where
  traceId : List UInt8
  spanId : List UInt8
  parentSpanId : List UInt8
  name : String
  kind : Int32
  startTimeUnixNano : UInt64
  endTimeUnixNano : UInt64
  attributes : Multiset (String × AnyValue)
  events : List Event
  status : Status
deriving DecidableEq

def buildEvent (ev : TraceEventRecord) : Event where
  timeUnixNano := datetimeToUnixNano ev.timestamp
  name := ev.name
  attributes := buildAttributes ev.attributes

def buildSpan (record : TraceRecord) : Option Span := do
  let traceId ← decodeTraceIdHex record.traceId
  let spanId ← decodeSpanIdHex record.spanId
  let parentSpanId ← decodeSpanIdHex record.parentSpanId
  pure {
    traceId, spanId, parentSpanId
    name := record.name
    kind := record.kind
    startTimeUnixNano := datetimeToUnixNano record.startTime
    endTimeUnixNano := datetimeToUnixNano record.endTime
    attributes := buildAttributes record.spanAttributes
    events := record.events.map buildEvent
    status := { message := record.statusMessage, code := record.statusCode } }

/-! ### Ids that were encoded from bytes -/

def hexByte (n : Nat) : UInt8 := if n < 10 then UInt8.ofNat (48 + n) else UInt8.ofNat (87 + n)

theorem utf8EncodeChar_hexDigit (small : n < 16) : String.utf8EncodeChar (hexDigit n) = [hexByte n] := by
  revert n
  decide

theorem utf8Bytes_hexEncode (bytes : List UInt8) :
    utf8Bytes (hexEncode bytes) = bytes.flatMap fun b => [hexByte (b.toNat / 16), hexByte (b.toNat % 16)] := by
  rw [utf8Bytes_eq_flatMap, hexEncode, String.toList_ofList, List.flatMap_assoc]
  congr 1
  funext b
  have high : b.toNat / 16 < 16 := Nat.div_lt_of_lt_mul b.toNat_lt
  have low : b.toNat % 16 < 16 := Nat.mod_lt _ (by decide)
  simp only [List.flatMap_cons, utf8EncodeChar_hexDigit high, utf8EncodeChar_hexDigit low]
  rfl

theorem digit_hexByte (small : n < 16) :
    hexValue (Char.ofNat (hexByte n).toNat) = some n ∧ hexByte n ≠ 43 ∧ isContinuation (hexByte n) = false := by
  revert n
  decide

theorem fromStrRadix16_hexByte (b : UInt8) :
    fromStrRadix16 (hexByte (b.toNat / 16)) (hexByte (b.toNat % 16)) = some b := by
  obtain ⟨high, noSign, -⟩ := digit_hexByte (Nat.div_lt_of_lt_mul b.toNat_lt : b.toNat / 16 < 16)
  obtain ⟨low, -, -⟩ := digit_hexByte (Nat.mod_lt b.toNat (by decide) : b.toNat % 16 < 16)
  rw [fromStrRadix16, if_neg noSign]
  simp only [high, low, Option.bind_eq_bind, Option.bind_some, Option.pure_def, Nat.div_add_mod, UInt8.ofNat_toNat]

theorem decodePairs_hexBytes (bytes out : List UInt8) :
    decodePairs out (bytes.flatMap fun b => [hexByte (b.toNat / 16), hexByte (b.toNat % 16)]) =
      some (out ++ bytes) := by
  induction bytes generalizing out with
  | nil => simp [decodePairs]
  | cons b bytes ih =>
    have boundary (c : UInt8) : isContinuation (hexByte (c.toNat / 16)) = false :=
      (digit_hexByte (Nat.div_lt_of_lt_mul c.toNat_lt : c.toNat / 16 < 16)).2.2
    -- the slice ends at the next pair, or at the end of the text
    have next : ((bytes.flatMap fun b => [hexByte (b.toNat / 16), hexByte (b.toNat % 16)]).head?.any
        isContinuation) = false := by
      cases bytes with
      | nil => rfl
      | cons c bytes => exact boundary c
    rw [List.flatMap_cons]
    simp only [List.cons_append, List.nil_append, decodePairs, boundary, next, Bool.or_self, Bool.false_eq_true,
      if_false, fromStrRadix16_hexByte, ih]
    rw [List.append_assoc, List.singleton_append]

theorem decodeFixedHex_hexEncode (positive : 0 < n) (bytes : Bytes n) :
    decodeFixedHex (hexEncode bytes.val) n = some bytes.val := by
  have length : (utf8Bytes (hexEncode bytes.val)).length = n * 2 := by
    rw [utf8Bytes_hexEncode]
    simp [bytes.property]
  have filled : (utf8Bytes (hexEncode bytes.val)).isEmpty = false := by
    rw [List.isEmpty_eq_false_iff_exists_mem]
    exact List.exists_mem_of_length_pos (by omega)
  rw [decodeFixedHex]
  simp only [filled, length, bne_self_eq_false, Bool.or_self, Bool.false_eq_true, if_false]
  rw [utf8Bytes_hexEncode, decodePairs_hexBytes, List.nil_append]

@[simp] theorem decodeTraceIdHex_hexEncode (id : Bytes 16) : decodeTraceIdHex (hexEncode id.val) = some id.val :=
  decodeFixedHex_hexEncode (by decide) id

@[simp] theorem decodeSpanIdHex_hexEncode (id : Bytes 8) : decodeSpanIdHex (hexEncode id.val) = some id.val :=
  decodeFixedHex_hexEncode (by decide) id

@[simp] theorem decodeSpanIdHex_empty : decodeSpanIdHex "" = some [] := by decide

end TcOtel.Export
