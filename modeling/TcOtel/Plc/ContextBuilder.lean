import Mathlib.Data.List.TakeWhile
import TcOtel.Core.Models
import TcOtel.Lib.Bytes
import TcOtel.Lib.Memory

/-!
# `FB_ContextBuilder`

The PLC keeps context properties in a buffer of 1024 bytes, one record behind the other: the
name behind its length, the type as an `INT`, the bytes of the value. An array has the offsets
of the records, of which there are at most 20.
-/

namespace TcOtel.Plc

open Decoding Memory

/-! ### Names and values -/

/-- A `T_MaxString`, up to the zero byte that ends it. -/
@[ext]
structure PlcString where
  bytes : List UInt8
  noNul : 0 ∉ bytes
  length_le : bytes.length ≤ 255
deriving DecidableEq

def PlcString.empty : PlcString := ⟨[], by decide, by decide⟩

def PlcString.prefixed (s : PlcString) : List UInt8 := UInt8.ofNat s.bytes.length :: s.bytes

theorem PlcString.length_prefixed_le (s : PlcString) : s.prefixed.length ≤ 256 :=
  Nat.succ_le_succ s.length_le

inductive EArgType where
  | byte | word | dword | real | lreal | sint | int | dint | usint | uint | udint | string | bool
  | ularge | large | lword
deriving DecidableEq, Repr

/-- Their numbers, to which the readers of the service refer. -/
def EArgType.code : EArgType → Nat
  | byte => 1
  | word => 2
  | dword => 3
  | real => 4
  | lreal => 5
  | sint => 6
  | int => 7
  | dint => 8
  | usint => 9
  | uint => 10
  | udint => 11
  | string => 12
  | bool => 13
  | ularge => 15
  | large => 17
  | lword => 19

theorem EArgType.code_lt (t : EArgType) : t.code < 20 := by
  cases t <;> decide

/-! ### The builder -/

def nBufferSize : Nat := 1024

def notFound : Nat := 0xFFFF

structure ContextBuilder where
  aBuffer : List UInt8
  nBufferCount : Nat
  aContext : List Nat
  nContextCount : Nat
deriving DecidableEq

namespace ContextBuilder

def initial : ContextBuilder := ⟨List.replicate nBufferSize 0, 0, List.replicate 20 0, 0⟩

abbrev Action := ContextBuilder → Bool × ContextBuilder

def andThen (first second : Action) : Action := fun b =>
  match first b with
  | (true, b') => second b'
  | (false, b') => (false, b')

def copy (src : List UInt8) : Action := fun b =>
  if nBufferSize - b.nBufferCount ≥ src.length then
    (true, { b with
      aBuffer := overwrite b.aBuffer b.nBufferCount src
      nBufferCount := b.nBufferCount + src.length })
  else (false, b)

def writeByte (value : UInt8) : Action := copy [value]

def writeInt (value : Nat) : Action := copy (leBytes 2 value)

/-- `_AddContext`. A name is never longer than 255 bytes, so that the branch for longer ones is
never taken. -/
def addContext (name : PlcString) (type : EArgType) (value : List UInt8) : Action := fun b =>
  if b.nContextCount < 20 then
    if nBufferSize - b.nBufferCount ≥ name.bytes.length + 1 + 2 + value.length then
      let opened : ContextBuilder :=
        { b with
          aContext := b.aContext.set b.nContextCount b.nBufferCount
          nContextCount := b.nContextCount + 1 }
      let write := andThen (writeByte (UInt8.ofNat name.bytes.length)) (andThen (copy name.bytes)
        (andThen (writeInt type.code) (copy value)))
      match write opened with
      | (true, b') => (true, b')
      | (false, b') =>
        -- rollback
        (false, { b' with
          nContextCount := b'.nContextCount - 1
          nBufferCount := b'.aContext.getD (b'.nContextCount - 1) 0 })
    else (false, b)
  else (false, b)

/-! ### Reading -/

def offset (b : ContextBuilder) (nIdx : Nat) : Nat := b.aContext.getD nIdx 0

def nameLen (b : ContextBuilder) (nIdx : Nat) : Nat := (b.aBuffer.getD (b.offset nIdx) 0).toNat

def getSize (b : ContextBuilder) (nIdx : Nat) : Nat :=
  if nIdx < b.nContextCount then
    if nIdx + 1 < b.nContextCount then b.offset (nIdx + 1) - b.offset nIdx
    else b.nBufferCount - b.offset nIdx
  else 0

def getOffsetToData (b : ContextBuilder) (nIdx : Nat) : Nat := b.nameLen nIdx + 1 + 2

def getDataLen (b : ContextBuilder) (nIdx : Nat) : Nat := b.getSize nIdx - b.getOffsetToData nIdx

def readName (b : ContextBuilder) (nIdx : Nat) : List UInt8 :=
  if nIdx < b.nContextCount then
    (extract b.aBuffer (b.offset nIdx + 1) (b.nameLen nIdx)).takeWhile (· ≠ 0)
  else []

def findContext (b : ContextBuilder) (name : PlcString) : Nat :=
  ((List.range b.nContextCount).find? fun nIdx => b.readName nIdx = name.bytes).getD notFound

/-! ### Changing -/

/-- `_RemoveContext`. The last record is given up without its bytes. -/
def removeContext (name : PlcString) : Action := fun b =>
  if b.nContextCount > 0 ∧ b.findContext name ≠ notFound then
    let nIdx := b.findContext name
    if nIdx + 1 < b.nContextCount then
      let next := b.offset (nIdx + 1)
      let nBufferOff := next - b.offset nIdx
      (true, {
        aBuffer := overwrite b.aBuffer (b.offset nIdx) (extract b.aBuffer next (b.nBufferCount - next))
        nBufferCount := b.nBufferCount - nBufferOff
        aContext := (List.range' nIdx (b.nContextCount - 1 - nIdx)).foldl
          (fun offsets i => offsets.set i (offsets.getD (i + 1) 0 - nBufferOff)) b.aContext
        nContextCount := b.nContextCount - 1 })
    else (true, { b with nContextCount := b.nContextCount - 1 })
  else (false, b)

/-- `_ReplaceContext`, for a value of the same length. -/
def replaceContext (nIdx : Nat) (type : EArgType) (value : List UInt8) (b : ContextBuilder) :
    ContextBuilder :=
  let behindName := b.offset nIdx + b.nameLen nIdx + 1
  { b with aBuffer := overwrite (overwrite b.aBuffer behindName (leBytes 2 type.code)) (behindName + 2) value }

def addValue (name : PlcString) (type : EArgType) (value : List UInt8) (b : ContextBuilder) :
    ContextBuilder :=
  let nIdx := b.findContext name
  if nIdx ≠ notFound then
    if b.getDataLen nIdx = value.length then b.replaceContext nIdx type value
    else (addContext name type value (removeContext name b).2).2
  else (addContext name type value b).2

def addBool (name : PlcString) (v : Bool) := addValue name .bool [if v then 1 else 0]
def addByte (name : PlcString) (v : UInt8) := addValue name .byte (leBytes 1 v.toNat)
def addWord (name : PlcString) (v : UInt16) := addValue name .word (leBytes 2 v.toNat)
def addDWord (name : PlcString) (v : UInt32) := addValue name .dword (leBytes 4 v.toNat)
def addLWord (name : PlcString) (v : UInt64) := addValue name .lword (leBytes 8 v.toNat)
def addSInt (name : PlcString) (v : Int8) := addValue name .sint (leBytes 1 v.toUInt8.toNat)
def addInt (name : PlcString) (v : Int16) := addValue name .int (leBytes 2 v.toUInt16.toNat)
def addDInt (name : PlcString) (v : Int32) := addValue name .dint (leBytes 4 v.toUInt32.toNat)
def addLInt (name : PlcString) (v : Int64) := addValue name .large (leBytes 8 v.toUInt64.toNat)
def addUSInt (name : PlcString) (v : UInt8) := addValue name .usint (leBytes 1 v.toNat)
def addUInt (name : PlcString) (v : UInt16) := addValue name .uint (leBytes 2 v.toNat)
def addUDInt (name : PlcString) (v : UInt32) := addValue name .udint (leBytes 4 v.toNat)
def addULInt (name : PlcString) (v : UInt64) := addValue name .ularge (leBytes 8 v.toNat)
def addReal (name : PlcString) (v : F32) := addValue name .real (leBytes 4 v.bits.toNat)
def addLReal (name : PlcString) (v : F64) := addValue name .lreal (leBytes 8 v.bits.toNat)
def addString (name : PlcString) (v : PlcString) := addValue name .string v.prefixed

def clear (b : ContextBuilder) : ContextBuilder := { b with nBufferCount := 0, nContextCount := 0 }

def remove (name : PlcString) (b : ContextBuilder) : ContextBuilder := (removeContext name b).2

end ContextBuilder

/-! ### Properties -/

inductive PlcValue where
  | bool (v : Bool)
  | byte (v : UInt8) | word (v : UInt16) | dword (v : UInt32) | lword (v : UInt64)
  | sint (v : Int8) | int (v : Int16) | dint (v : Int32) | lint (v : Int64)
  | usint (v : UInt8) | uint (v : UInt16) | udint (v : UInt32) | ulint (v : UInt64)
  | real (v : F32) | lreal (v : F64)
  | string (v : PlcString)
deriving DecidableEq

namespace PlcValue

def type : PlcValue → EArgType
  | bool _ => .bool
  | byte _ => .byte
  | word _ => .word
  | dword _ => .dword
  | lword _ => .lword
  | sint _ => .sint
  | int _ => .int
  | dint _ => .dint
  | lint _ => .large
  | usint _ => .usint
  | uint _ => .uint
  | udint _ => .udint
  | ulint _ => .ularge
  | real _ => .real
  | lreal _ => .lreal
  | string _ => .string

def bytes : PlcValue → List UInt8
  | bool v => [if v then 1 else 0]
  | byte v | usint v => leBytes 1 v.toNat
  | word v | uint v => leBytes 2 v.toNat
  | dword v | udint v => leBytes 4 v.toNat
  | lword v | ulint v => leBytes 8 v.toNat
  | sint v => leBytes 1 v.toUInt8.toNat
  | int v => leBytes 2 v.toUInt16.toNat
  | dint v => leBytes 4 v.toUInt32.toNat
  | lint v => leBytes 8 v.toUInt64.toNat
  | real v => leBytes 4 v.bits.toNat
  | lreal v => leBytes 8 v.bits.toNat
  | string v => v.prefixed

theorem length_bytes_le (v : PlcValue) : v.bytes.length ≤ 256 := by
  cases v with
  | string v => exact v.length_prefixed_le
  | _ => simp [bytes]

end PlcValue

structure Property where
  name : PlcString
  value : PlcValue
deriving DecidableEq

namespace Property

def addTo (b : ContextBuilder) (p : Property) : ContextBuilder :=
  match p.value with
  | .bool v => b.addBool p.name v
  | .byte v => b.addByte p.name v
  | .word v => b.addWord p.name v
  | .dword v => b.addDWord p.name v
  | .lword v => b.addLWord p.name v
  | .sint v => b.addSInt p.name v
  | .int v => b.addInt p.name v
  | .dint v => b.addDInt p.name v
  | .lint v => b.addLInt p.name v
  | .usint v => b.addUSInt p.name v
  | .uint v => b.addUInt p.name v
  | .udint v => b.addUDInt p.name v
  | .ulint v => b.addULInt p.name v
  | .real v => b.addReal p.name v
  | .lreal v => b.addLReal p.name v
  | .string v => b.addString p.name v

def encode (p : Property) : List UInt8 :=
  p.name.prefixed ++ (leBytes 2 p.value.type.code ++ p.value.bytes)

theorem addTo_eq (b : ContextBuilder) (p : Property) :
    p.addTo b = b.addValue p.name p.value.type p.value.bytes := by
  obtain ⟨name, value⟩ := p
  cases value <;> rfl

@[simp] theorem length_encode (p : Property) :
    p.encode.length = p.name.bytes.length + 1 + 2 + p.value.bytes.length := by
  simp [encode, PlcString.prefixed]
  omega

end Property

/-! ### What a builder holds -/

namespace ContextBuilder

variable {b : ContextBuilder} {src : List UInt8} {p : Property} {props done rest : List Property}

def used (b : ContextBuilder) : List UInt8 := b.aBuffer.take b.nBufferCount

def append (src : List UInt8) (b : ContextBuilder) : ContextBuilder :=
  { b with
    aBuffer := overwrite b.aBuffer b.nBufferCount src
    nBufferCount := b.nBufferCount + src.length }

/-- The records of these properties, in order and without gaps. -/
structure Holds (b : ContextBuilder) (props : List Property) : Prop where
  size : b.aBuffer.length = nBufferSize
  slots : b.aContext.length = 20
  fits : b.nBufferCount ≤ nBufferSize
  used : b.used = props.flatMap Property.encode
  count : b.nContextCount = props.length
  offsets : ∀ done rest, props = done ++ rest → rest ≠ [] →
    b.offset done.length = (done.flatMap Property.encode).length

theorem copy_eq (room : b.nBufferCount + src.length ≤ nBufferSize) : copy src b = (true, b.append src) := by
  rw [copy, if_pos (by omega)]
  rfl

theorem andThen_copy (room : b.nBufferCount + src.length ≤ nBufferSize) (next : Action) :
    andThen (copy src) next b = next (b.append src) := by
  simp [andThen, copy_eq room]

@[simp] theorem append_nBufferCount : (b.append src).nBufferCount = b.nBufferCount + src.length := rfl

theorem append_append (fits : b.nBufferCount ≤ b.aBuffer.length) :
    (b.append src).append more = b.append (src ++ more) := by
  simp [append, overwrite_overwrite fits, Nat.add_assoc]

theorem Holds.initial : Holds initial [] := by
  constructor
  · simp [ContextBuilder.initial]
  · simp [ContextBuilder.initial]
  · exact Nat.zero_le _
  · rfl
  · rfl
  · intro done rest split nonempty
    have both := List.append_eq_nil_iff.mp split.symm
    exact absurd both.2 nonempty

theorem Holds.bufferCount_eq (holds : Holds b props) :
    b.nBufferCount = (props.flatMap Property.encode).length := by
  rw [← holds.used, ContextBuilder.used, List.length_take, holds.size, Nat.min_eq_left holds.fits]

section

variable (holds : Holds b (done ++ p :: rest))
include holds

theorem Holds.offset_eq : b.offset done.length = (done.flatMap Property.encode).length :=
  holds.offsets done (p :: rest) rfl (List.cons_ne_nil p rest)

theorem Holds.lt_count : done.length < b.nContextCount := by
  rw [holds.count, List.length_append, List.length_cons]
  omega

theorem Holds.getSize_eq : b.getSize done.length = p.encode.length := by
  rw [getSize, if_pos holds.lt_count, holds.offset_eq]
  cases rest with
  | nil =>
    -- the last record goes to the end of the used part
    have last : ¬done.length + 1 < b.nContextCount := by
      rw [holds.count, List.length_append, List.length_singleton]
      omega
    rw [if_neg last, holds.bufferCount_eq]
    simp
  | cons next rest =>
    have more : done.length + 1 < b.nContextCount := by
      rw [holds.count, List.length_append, List.length_cons, List.length_cons]
      omega
    have behind : b.offset (done.length + 1) = ((done ++ [p]).flatMap Property.encode).length := by
      have found := holds.offsets (done ++ [p]) (next :: rest) (by simp) (List.cons_ne_nil _ _)
      rwa [List.length_append, List.length_singleton] at found
    rw [if_pos more, behind]
    simp

theorem Holds.used_split :
    b.used = done.flatMap Property.encode ++ (p.encode ++ rest.flatMap Property.encode) := by
  rw [holds.used, List.flatMap_append, List.flatMap_cons]

theorem Holds.extract_eq (split : p.encode = before ++ (field ++ after)) :
    extract b.aBuffer (b.offset done.length + before.length) field.length = field := by
  have whole : b.used = (done.flatMap Property.encode ++ before) ++
      (field ++ (after ++ rest.flatMap Property.encode)) := by
    rw [holds.used_split, split]
    simp
  have inside : b.offset done.length + before.length + field.length ≤ b.nBufferCount := by
    have length := congrArg List.length whole
    rw [holds.used, ← holds.bufferCount_eq] at length
    simp only [List.length_append] at length
    rw [holds.offset_eq]
    omega
  rw [← extract_take inside]
  change extract b.used _ _ = _
  rw [whole, holds.offset_eq, ← List.length_append]
  exact extract_middle _ field _

theorem Holds.record_eq : extract b.aBuffer (b.offset done.length) (b.getSize done.length) = p.encode := by
  rw [holds.getSize_eq]
  have whole : p.encode = [] ++ (p.encode ++ []) := by simp
  exact holds.extract_eq whole

theorem Holds.nameLen_eq : b.nameLen done.length = p.name.bytes.length := by
  have first : p.encode = [] ++ ([UInt8.ofNat p.name.bytes.length] ++
      (p.name.bytes ++ (leBytes 2 p.value.type.code ++ p.value.bytes))) := rfl
  have read := holds.extract_eq first
  have byte : b.aBuffer.getD (b.offset done.length) 0 = UInt8.ofNat p.name.bytes.length := by
    rw [List.length_nil, Nat.add_zero, List.length_singleton, extract] at read
    have first := congrArg List.head? read
    rw [List.head?_take, if_neg (by decide), List.head?_drop] at first
    rw [List.getD_eq_getElem?_getD, first]
    rfl
  rw [nameLen, byte, UInt8.toNat_ofNat']
  have short := p.name.length_le
  omega

theorem Holds.readName_eq : b.readName done.length = p.name.bytes := by
  have split : p.encode = [UInt8.ofNat p.name.bytes.length] ++
      (p.name.bytes ++ (leBytes 2 p.value.type.code ++ p.value.bytes)) := rfl
  have read := holds.extract_eq split
  rw [List.length_singleton] at read
  rw [readName, if_pos holds.lt_count, holds.nameLen_eq, read]
  apply List.takeWhile_eq_self_iff.mpr
  intro byte member
  simp only [decide_eq_true_eq]
  rintro rfl
  exact p.name.noNul member

end

theorem Holds.split_at (holds : Holds b props) (here : props[k]? = some p) :
    Holds b (props.take k ++ p :: props.drop (k + 1)) ∧ (props.take k).length = k := by
  obtain ⟨inside, found⟩ := List.getElem?_eq_some_iff.mp here
  refine ⟨?_, by rw [List.length_take, Nat.min_eq_left (Nat.le_of_lt inside)]⟩
  rwa [← found, ← List.drop_eq_getElem_cons inside, List.take_append_drop]

theorem Holds.readName_at (holds : Holds b props) (inside : k < props.length) : b.readName k = props[k].name.bytes := by
  obtain ⟨split, length⟩ := holds.split_at (List.getElem?_eq_getElem inside)
  have read := split.readName_eq
  rwa [length] at read

theorem Holds.findContext_eq (holds : Holds b props)
    (fresh : ∀ p ∈ props, p.name ≠ name) : b.findContext name = notFound := by
  have none : (List.range b.nContextCount).find? (fun nIdx => b.readName nIdx = name.bytes) = none := by
    rw [List.find?_range_eq_none, holds.count]
    intro i inside
    rw [holds.readName_at inside, Bool.not_eq_true', decide_eq_false_iff_not]
    exact fun same => fresh _ (List.getElem_mem inside) (PlcString.ext same)
  rw [findContext, none]
  rfl

theorem write_eq (p : Property) (size : b.aBuffer.length = nBufferSize)
    (room : b.nBufferCount + p.encode.length ≤ nBufferSize) :
    andThen (writeByte (UInt8.ofNat p.name.bytes.length)) (andThen (copy p.name.bytes)
      (andThen (writeInt p.value.type.code) (copy p.value.bytes))) b = (true, b.append p.encode) := by
  rw [p.length_encode] at room
  have pieces : p.encode = (([UInt8.ofNat p.name.bytes.length] ++ p.name.bytes) ++
      leBytes 2 p.value.type.code) ++ p.value.bytes := by
    simp [Property.encode, PlcString.prefixed]
  have fits : b.nBufferCount ≤ b.aBuffer.length := by omega
  rw [writeByte, andThen_copy (by simp; omega), andThen_copy (by simp; omega), writeInt,
    andThen_copy (by simp; omega), copy_eq (by simp; omega), append_append fits, append_append fits,
    append_append fits, pieces]

theorem Holds.addContext (holds : Holds b props) (few : props.length < 20)
    (room : (props.flatMap Property.encode).length + p.encode.length ≤ nBufferSize) :
    Holds (addContext p.name p.value.type p.value.bytes b).2 (props ++ [p]) := by
  have start := holds.bufferCount_eq
  have size := holds.size
  have slots := holds.slots
  rw [← start] at room
  have inArea : b.nBufferCount + p.encode.length ≤ b.aBuffer.length := by omega
  have written : (ContextBuilder.addContext p.name p.value.type p.value.bytes b).2 =
      append p.encode { b with
        aContext := b.aContext.set b.nContextCount b.nBufferCount
        nContextCount := b.nContextCount + 1 } := by
    have length := p.length_encode
    rw [ContextBuilder.addContext, if_pos (by rw [holds.count]; exact few), if_pos (by omega)]
    simp only [write_eq p (b := { b with
      aContext := b.aContext.set b.nContextCount b.nBufferCount
      nContextCount := b.nContextCount + 1 }) size room]
  rw [written]
  constructor
  · exact (length_overwrite inArea).trans size
  · exact (List.length_set).trans slots
  · exact room
  · have bytes : b.used ++ p.encode = (props ++ [p]).flatMap Property.encode := by
      rw [holds.used, List.flatMap_append, List.flatMap_cons, List.flatMap_nil, List.append_nil]
    exact (take_overwrite (Nat.le_trans (Nat.le_add_right _ _) inArea)).trans bytes
  · change b.nContextCount + 1 = _
    rw [holds.count, List.length_append, List.length_singleton]
  · intro done rest split nonempty
    change (b.aContext.set b.nContextCount b.nBufferCount).getD done.length 0 = _
    have total := congrArg List.length split
    have positive := List.length_pos_of_ne_nil nonempty
    simp only [List.length_append, List.length_singleton] at total
    rw [List.getD_eq_getElem?_getD, holds.count]
    by_cases last : props.length = done.length
    · -- the new record is where the used part ended
      obtain ⟨rfl, -⟩ := List.append_inj split last
      rw [List.getElem?_set_self (by omega), Option.getD_some, start]
    · rw [List.getElem?_set_ne last]
      obtain ⟨before, rfl⟩ : ∃ before, props = done ++ before := by
        have shorter : done.length ≤ props.length := by omega
        exact (List.prefix_of_prefix_length_le ⟨rest, split.symm⟩ ⟨[p], rfl⟩ shorter).imp
          fun before same => same.symm
      apply holds.offsets done before rfl
      rintro rfl
      rw [List.append_nil] at last
      exact last rfl

theorem Holds.addTo (holds : Holds b props) (fresh : ∀ q ∈ props, q.name ≠ p.name) (few : props.length < 20)
    (room : (props.flatMap Property.encode).length + p.encode.length ≤ nBufferSize) :
    Holds (p.addTo b) (props ++ [p]) := by
  rw [p.addTo_eq, addValue, holds.findContext_eq fresh]
  exact holds.addContext few room

/-- The properties fit a builder, and no two have the same name. -/
structure Fits (props : List Property) : Prop where
  distinct : (props.map Property.name).Nodup
  few : props.length ≤ 20
  room : (props.flatMap Property.encode).length ≤ nBufferSize

instance (props : List Property) : Decidable (Fits props) :=
  decidable_of_iff ((props.map Property.name).Nodup ∧ props.length ≤ 20 ∧
    (props.flatMap Property.encode).length ≤ nBufferSize)
    ⟨fun all => ⟨all.1, all.2.1, all.2.2⟩, fun fits => ⟨fits.distinct, fits.few, fits.room⟩⟩

def ofProperties (props : List Property) : ContextBuilder := props.foldl Property.addTo initial

theorem holds_ofProperties (fits : Fits props) : Holds (ofProperties props) props := by
  induction props using List.reverseRecOn with
  | nil => exact Holds.initial
  | append_singleton props p ih =>
    obtain ⟨distinct, few, room⟩ := fits
    rw [List.map_append, List.nodup_append] at distinct
    rw [List.length_append, List.length_singleton] at few
    rw [List.flatMap_append, List.length_append, List.flatMap_cons, List.flatMap_nil,
      List.append_nil] at room
    have before : Holds (ofProperties props) props := ih ⟨distinct.1, by omega, by omega⟩
    rw [ofProperties, List.foldl_append]
    apply before.addTo _ (by omega) room
    intro q member same
    exact distinct.2.2 q.name (List.mem_map_of_mem member) p.name (by simp) same

end ContextBuilder

end TcOtel.Plc
