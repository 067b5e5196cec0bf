import TcOtel.Plc.ContextBuilder

/-!
# `FB_LogEntry`

A log entry is written into the free part of the log buffer. Its length and the numbers of
arguments and context records are not known before the end: `End` fills them into the
header, and only then counts the entry among the bytes to send.

Every method is a sequence of copies, and a copy for which there is room extends what was
written (`Writing.extend`). So an entry that finds enough room is the concatenation of what
its methods write.
-/

namespace TcOtel.Plc

open Decoding Memory

/-! ### The log buffer -/

structure LogBuffer where
  aBuffer : List UInt8
  nBufferCount : Nat
deriving DecidableEq

namespace LogBuffer

def bufferFree (b : LogBuffer) : Nat := b.aBuffer.length - b.nBufferCount

def dataAdded (nNewData : Nat) (b : LogBuffer) : LogBuffer :=
  { b with nBufferCount := b.nBufferCount + nNewData }

def used (b : LogBuffer) : List UInt8 := b.aBuffer.take b.nBufferCount

end LogBuffer

/-! ### Arguments -/

/-- A `WSTRING(255)`, up to the zero that ends it. -/
structure PlcWString where
  units : List UInt16
  noNul : 0 ∉ units
  length_le : units.length ≤ 255
deriving DecidableEq

inductive CustomType where
  | time | ltime | date | dateAndTime | timeOfDay | enum | wstring
deriving DecidableEq, Repr

def CustomType.code : CustomType → Nat
  | time => 20000
  | ltime => 20001
  | date => 20002
  | dateAndTime => 20003
  | timeOfDay => 20004
  | enum => 20005
  | wstring => 20006

def CustomType.codeV2 : CustomType → Nat
  | time => 100
  | ltime => 101
  | date => 102
  | dateAndTime => 103
  | timeOfDay => 104
  | enum => 105
  | wstring => 106

inductive EnumValue where
  | one (v : UInt8)
  | two (v : UInt16)
  | four (v : UInt32)
  | eight (v : UInt64)
  | other
deriving DecidableEq

inductive AnyArg where
  | basic (v : PlcValue)
  | wstring (v : PlcWString)
  | time (v : UInt32)
  | date (v : UInt32)
  | dateAndTime (v : UInt32)
  | timeOfDay (v : UInt32)
  | enum (v : EnumValue)
  | ltime (v : UInt64)
  | unhandled
deriving DecidableEq

/-- A `T_Arg`. `AddTArg` writes the values of the elementary types only. -/
inductive TArg where
  | value (v : PlcValue)
  | other (eType : UInt16)
deriving DecidableEq

inductive EScope where
  | eLog | eLogger | eScoped | eTask
deriving DecidableEq, Repr

def EScope.code : EScope → UInt8
  | eLog => 0
  | eLogger => 1
  | eScoped => 2
  | eTask => 3

/-- `ARGTYPE_UNKNOWN`. -/
def unknownType : Nat := 0

structure LogEntryHeaderV2 where
  nType : UInt8
  nEntryLength : UInt16
  nLevel : UInt8
  nTsPlc : Int64
  nTsClock : Int64
  nTaskIndex : UInt8
  nCycleCount : UInt32
  nArgCount : UInt8
  nContextCount : UInt8
deriving DecidableEq

def LogEntryHeaderV2.bytes (h : LogEntryHeaderV2) : List UInt8 :=
  [[h.nType], leBytes 2 h.nEntryLength.toNat, [h.nLevel], leBytes 8 h.nTsPlc.toUInt64.toNat,
    leBytes 8 h.nTsClock.toUInt64.toNat, [h.nTaskIndex], leBytes 4 h.nCycleCount.toNat,
    [h.nArgCount], [h.nContextCount]].flatten

theorem LogEntryHeaderV2.length_bytes (h : LogEntryHeaderV2) : h.bytes.length = 27 := by
  simp [bytes]

structure TaskInfo where
  nTaskIndex : Int32
  cycleCount : UInt32
  systemTime : Int64
  actualDcTime : Int64
  dcTaskTime : Int64
deriving DecidableEq

def TArg.code : TArg → Nat
  | value v => v.type.code
  | other eType => eType.toNat

/-! ### The methods -/

structure LogEntry where
  /-- An offset in the log buffer. -/
  pBuffer : Nat
  nBufferCount : Nat
  nBufferRemaining : Nat
  bError : Bool
  nEntryStart : Nat
  nEntryLenOffset : Nat
  nArgCountOffset : Nat
  nCtxCountOffset : Nat
  nArgCount : UInt8
  nContextCount : UInt8
  bV2 : Bool
deriving DecidableEq

structure Writing where
  entry : LogEntry
  buffer : LogBuffer
deriving DecidableEq

namespace Writing

def setError (w : Writing) : Writing := { w with entry := { w.entry with bError := true } }

def copy (src : List UInt8) (w : Writing) : Writing :=
  if w.entry.bError = false ∧ w.entry.nBufferRemaining ≥ src.length then
    { entry := { w.entry with
        nBufferCount := w.entry.nBufferCount + src.length
        nBufferRemaining := w.entry.nBufferRemaining - src.length }
      buffer := { w.buffer with
        aBuffer := overwrite w.buffer.aBuffer (w.entry.pBuffer + w.entry.nBufferCount) src } }
  else w.setError

def reset (w : Writing) : Writing :=
  { w with entry := { w.entry with
      pBuffer := w.buffer.nBufferCount
      nBufferCount := 0
      nBufferRemaining := w.buffer.bufferFree
      bError := false } }

def writeByte (nValue : UInt8) : Writing → Writing := copy [nValue]

def writeInt (nValue : Nat) : Writing → Writing := copy (leBytes 2 nValue)

/-- `_WriteString`. The pointer is never null here, and the string never too long. -/
def writeString (s : PlcString) (w : Writing) : Writing :=
  (w.writeByte (UInt8.ofNat s.bytes.length)).copy s.bytes

def writeWString (s : PlcWString) (w : Writing) : Writing :=
  (w.writeByte (UInt8.ofNat s.units.length)).copy (s.units.flatMap fun u => leBytes 2 u.toNat)

def writeBasic (writeId : Nat → Writing → Writing) (v : PlcValue) (w : Writing) : Writing :=
  match v with
  | .string s => (writeId v.type.code w).writeString s
  | _ => (writeId v.type.code w).copy v.bytes

def writeEnum (writeId : Nat → Writing → Writing) (v : EnumValue) (w : Writing) : Writing :=
  match v with
  | .one v => (writeId EArgType.byte.code w).copy (leBytes 1 v.toNat)
  | .two v => (writeId EArgType.word.code w).copy (leBytes 2 v.toNat)
  | .four v => (writeId EArgType.dword.code w).copy (leBytes 4 v.toNat)
  | .eight v => (writeId EArgType.lword.code w).copy (leBytes 8 v.toNat)
  | .other => writeId unknownType w

/-- The `CASE` of `AddAnyArg`, which v1 and v2 have in common up to how they write type ids. -/
def writeAny (writeId : Nat → Writing → Writing) (code : CustomType → Nat) (stArg : AnyArg) (w : Writing) :
    Writing :=
  match stArg with
  | .basic v => writeBasic writeId v w
  | .wstring v => (writeId (code .wstring) w).writeWString v
  | .time v => (writeId (code .time) w).copy (leBytes 4 v.toNat)
  | .date v => (writeId (code .date) w).copy (leBytes 4 v.toNat)
  | .dateAndTime v => (writeId (code .dateAndTime) w).copy (leBytes 4 v.toNat)
  | .timeOfDay v => (writeId (code .timeOfDay) w).copy (leBytes 4 v.toNat)
  | .enum v => writeEnum writeId v (writeId (code .enum) w)
  | .ltime v => (writeId (code .ltime) w).copy (leBytes 8 v.toNat)
  | .unhandled => w.setError

def writeAnyV2 : AnyArg → Writing → Writing :=
  writeAny (fun id => writeByte (UInt8.ofNat id)) CustomType.codeV2

/-- v1 writes it as an `INT`. Where v2 has the size 8 of an enumeration v1 has 5, which is the
size of none, so that one of 8 bytes is written as unknown. -/
def writeAnyV1 (stArg : AnyArg) (w : Writing) : Writing :=
  match stArg with
  | .enum (.eight _) => writeAny writeInt CustomType.code (.enum .other) w
  | _ => writeAny writeInt CustomType.code stArg w

/-- `AddAnyArg`; there is no argument when its pointer is null. -/
def addAnyArg (nArgNo : UInt8) (stArg : Option AnyArg) (w : Writing) : Writing :=
  if w.entry.bError then w
  else
    match stArg with
    | none => w
    | some stArg =>
      if w.entry.bV2 then
        let written := writeAnyV2 stArg w
        { written with entry := { written.entry with nArgCount := written.entry.nArgCount + 1 } }
      else writeAnyV1 stArg ((w.writeByte 1).writeByte nArgNo)

/-- `AddTArg`; there is no argument when its type is unknown or its pointer null. It writes the
layout of v1, with the type twice, and counts nothing, whatever the version of the entry. -/
def addTArg (nArgNo : UInt8) (stArg : Option TArg) (w : Writing) : Writing :=
  if w.entry.bError then w
  else
    match stArg with
    | none => w
    | some stArg =>
      let typed := (((w.writeByte 1).writeByte nArgNo).writeInt stArg.code).copy (leBytes 2 stArg.code)
      match stArg with
      | .value (.string s) => typed.writeString s
      | .value v => typed.copy v.bytes
      | .other _ => typed

def addContext (eScope : EScope) (pBuffer : List UInt8) (w : Writing) : Writing :=
  if w.entry.bV2 then
    let written := (w.writeByte eScope.code).copy pBuffer
    { written with entry := { written.entry with nContextCount := written.entry.nContextCount + 1 } }
  else ((w.writeByte 2).writeByte eScope.code).copy pBuffer

/-- `StartV2`; a null pointer stands for the default logger. -/
def startV2 (task : TaskInfo) (pLogger : Option PlcString) (pMessage : PlcString) (eLogLevel : LogLevel)
    (nTimeStampPlc nTimeStampClock : Int64) (w : Writing) : Writing :=
  let nTimeStampPlc := if nTimeStampPlc = 0 then task.systemTime else nTimeStampPlc
  let nTimeStampClock :=
    if nTimeStampClock = 0 then
      if task.actualDcTime = 0 then task.dcTaskTime else task.actualDcTime
    else nTimeStampClock
  let stHeader : LogEntryHeaderV2 :=
    { nType := 2
      -- the length and the counts are filled in by `End`
      nEntryLength := 0
      nLevel := eLogLevel.asU8
      nTsPlc := nTimeStampPlc
      nTsClock := nTimeStampClock
      nTaskIndex := task.nTaskIndex.toUInt32.toUInt8
      nCycleCount := task.cycleCount
      nArgCount := 0
      nContextCount := 0 }
  let opened : Writing :=
    { w with entry := { w.entry with
        nEntryStart := w.entry.nBufferCount
        nEntryLenOffset := w.entry.nBufferCount + 1
        nArgCountOffset := w.entry.nBufferCount + 25
        nCtxCountOffset := w.entry.nBufferCount + 26 } }
  let named := (opened.copy stHeader.bytes).writeString pMessage
  let written :=
    match pLogger with
    | some logger => named.writeString logger
    | none => named.writeByte 0
  { written with entry := { written.entry with nArgCount := 0, nContextCount := 0, bV2 := true } }

def poke (offset : Nat) (value : List UInt8) (w : Writing) : Writing :=
  { w with buffer := { w.buffer with
      aBuffer := overwrite w.buffer.aBuffer (w.entry.pBuffer + offset) value } }

def finish (w : Writing) : Writing :=
  if w.entry.bError then w
  else if w.buffer.nBufferCount ≠ w.entry.pBuffer then w.setError
  else if w.buffer.bufferFree < w.entry.nBufferCount then w.setError
  else if w.entry.bV2 then
    let nEntryLength := UInt16.ofNat (w.entry.nBufferCount - w.entry.nEntryStart - 3)
    let filled := ((w.poke w.entry.nEntryLenOffset (leBytes 2 nEntryLength.toNat)).poke
      w.entry.nArgCountOffset [w.entry.nArgCount]).poke w.entry.nCtxCountOffset [w.entry.nContextCount]
    { entry := { filled.entry with bV2 := false }
      buffer := filled.buffer.dataAdded filled.entry.nBufferCount }
  else
    -- v1 has a terminator, and counts the entry whether there was room for it or not
    let written := w.writeByte 255
    { written with buffer := written.buffer.dataAdded written.entry.nBufferCount }

/-! ### Extending an entry -/

/-- The entry after copies for which there is room, some of them arguments or context records. -/
def extend (src : List UInt8) (args contexts : Nat) (w : Writing) : Writing :=
  { entry := { w.entry with
      nBufferCount := w.entry.nBufferCount + src.length
      nBufferRemaining := w.entry.nBufferRemaining - src.length
      nArgCount := w.entry.nArgCount + UInt8.ofNat args
      nContextCount := w.entry.nContextCount + UInt8.ofNat contexts }
    buffer := { w.buffer with
      aBuffer := overwrite w.buffer.aBuffer (w.entry.pBuffer + w.entry.nBufferCount) src } }

/-- No error so far, and the room that is left lies in the buffer. -/
structure Ready (w : Writing) : Prop where
  noError : w.entry.bError = false
  inside : w.entry.pBuffer + w.entry.nBufferCount + w.entry.nBufferRemaining ≤ w.buffer.aBuffer.length

/-- Given the room, the method adds these bytes and counts. -/
def Writes (m : Writing → Writing) (bytes : List UInt8) (args contexts : Nat) : Prop :=
  ∀ w, w.Ready → bytes.length ≤ w.entry.nBufferRemaining → m w = w.extend bytes args contexts

section

variable {w : Writing} {xs ys : List UInt8} {a a' c c' : Nat}

@[simp] theorem extend_nBufferRemaining :
    (w.extend xs a c).entry.nBufferRemaining = w.entry.nBufferRemaining - xs.length := rfl

theorem Ready.extend (ready : w.Ready) (room : xs.length ≤ w.entry.nBufferRemaining) :
    (w.extend xs a c).Ready := by
  have inside := ready.inside
  constructor
  · exact ready.noError
  · change w.entry.pBuffer + (w.entry.nBufferCount + xs.length) +
      (w.entry.nBufferRemaining - xs.length) ≤ (overwrite _ _ xs).length
    rw [length_overwrite (by omega)]
    omega

theorem extend_extend
    (inside : w.entry.pBuffer + w.entry.nBufferCount + w.entry.nBufferRemaining ≤ w.buffer.aBuffer.length) :
    (w.extend xs a c).extend ys a' c' = w.extend (xs ++ ys) (a + a') (c + c') := by
  have fits : w.entry.pBuffer + w.entry.nBufferCount ≤ w.buffer.aBuffer.length := by omega
  simp [Writing.extend, ← Nat.add_assoc, overwrite_overwrite fits, Nat.sub_sub, UInt8.add_assoc]

end

namespace Writes

variable {m m' : Writing → Writing} {xs ys : List UInt8} {a a' c c' : Nat}

theorem copy (src : List UInt8) : Writes (Writing.copy src) src 0 0 := by
  intro w ready room
  rw [Writing.copy, if_pos ⟨ready.noError, room⟩]
  simp [extend]

theorem comp (first : Writes m xs a c) (second : Writes m' ys a' c') :
    Writes (fun w => m' (m w)) (xs ++ ys) (a + a') (c + c') := by
  intro w ready room
  rw [List.length_append] at room
  have half : xs.length ≤ w.entry.nBufferRemaining := by omega
  change m' (m w) = _
  rw [first w ready half, second _ (ready.extend half), extend_extend ready.inside]
  rw [extend_nBufferRemaining]
  omega

theorem writeByte (b : UInt8) : Writes (Writing.writeByte b) [b] 0 0 := copy [b]

theorem writeString (s : PlcString) : Writes (Writing.writeString s) s.prefixed 0 0 :=
  (writeByte _).comp (copy s.bytes)

end Writes

end Writing

/-! ### Arguments in v2 -/

def PlcWString.prefixed (s : PlcWString) : List UInt8 :=
  UInt8.ofNat s.units.length :: s.units.flatMap fun u => leBytes 2 u.toNat

namespace EnumValue

def code : EnumValue → Nat
  | one _ => EArgType.byte.code
  | two _ => EArgType.word.code
  | four _ => EArgType.dword.code
  | eight _ => EArgType.lword.code
  | other => unknownType

def bytes : EnumValue → List UInt8
  | one v => leBytes 1 v.toNat
  | two v => leBytes 2 v.toNat
  | four v => leBytes 4 v.toNat
  | eight v => leBytes 8 v.toNat
  | other => []

theorem code_lt (v : EnumValue) : v.code < 256 := by
  cases v <;> simp [code, EArgType.code, unknownType]

end EnumValue

namespace AnyArg

def codeV2 : AnyArg → Nat
  | basic v => v.type.code
  | wstring _ => CustomType.wstring.codeV2
  | time _ => CustomType.time.codeV2
  | date _ => CustomType.date.codeV2
  | dateAndTime _ => CustomType.dateAndTime.codeV2
  | timeOfDay _ => CustomType.timeOfDay.codeV2
  | enum _ => CustomType.enum.codeV2
  | ltime _ => CustomType.ltime.codeV2
  | unhandled => unknownType

def bytesV2 : AnyArg → List UInt8
  | basic v => v.bytes
  | wstring v => v.prefixed
  | time v | date v | dateAndTime v | timeOfDay v => leBytes 4 v.toNat
  | enum v => UInt8.ofNat v.code :: v.bytes
  | ltime v => leBytes 8 v.toNat
  | unhandled => []

def encodeV2 (arg : AnyArg) : List UInt8 := UInt8.ofNat arg.codeV2 :: arg.bytesV2

theorem codeV2_lt (arg : AnyArg) : arg.codeV2 < 256 := by
  cases arg with
  | basic v => exact Nat.lt_trans v.type.code_lt (by decide)
  | _ => simp [codeV2, CustomType.codeV2, unknownType]

theorem length_encodeV2_le (arg : AnyArg) : arg.encodeV2.length ≤ 512 := by
  cases arg with
  | basic v =>
    have value := v.length_bytes_le
    simp only [encodeV2, bytesV2, List.length_cons]
    omega
  | wstring v =>
    have units := v.length_le
    simp [encodeV2, bytesV2, PlcWString.prefixed]
    omega
  | enum v => cases v <;> simp [encodeV2, bytesV2, EnumValue.bytes]
  | _ => simp [encodeV2, bytesV2]

end AnyArg

namespace TArg

def bytes : TArg → List UInt8
  | value v => v.bytes
  | other _ => []

def encode (arg : TArg) (nArgNo : UInt8) : List UInt8 :=
  1 :: nArgNo :: (leBytes 2 arg.code ++ (leBytes 2 arg.code ++ arg.bytes))

theorem length_encode_le (arg : TArg) (nArgNo : UInt8) : (arg.encode nArgNo).length ≤ 512 := by
  cases arg with
  | value v =>
    have value := v.length_bytes_le
    simp only [encode, bytes, List.length_cons, List.length_append, length_leBytes]
    omega
  | other eType => simp [encode, bytes]

end TArg

namespace Writing

variable {w : Writing}

theorem Writes.writeAnyV2 (handled : arg ≠ .unhandled) :
    Writes (Writing.writeAnyV2 arg) arg.encodeV2 0 0 := by
  -- a type id, then the value
  have typed : ∀ (code : Nat) (src : List UInt8),
      Writes (fun w => (w.writeByte (UInt8.ofNat code)).copy src) (UInt8.ofNat code :: src) 0 0 :=
    fun code src => (Writes.writeByte _).comp (Writes.copy src)
  cases arg with
  | basic v =>
    cases v with
    | string s => exact (Writes.writeByte _).comp (Writes.writeString s)
    | _ => exact typed _ _
  | wstring v => exact (Writes.writeByte _).comp (typed _ _)
  | time v | date v | dateAndTime v | timeOfDay v | ltime v => exact typed _ _
  | enum v =>
    cases v with
    | other => exact (Writes.writeByte _).comp (Writes.writeByte _)
    | one v | two v | four v | eight v => exact (Writes.writeByte _).comp (typed _ _)
  | unhandled => exact absurd rfl handled

theorem addAnyArg_eq (handled : arg ≠ .unhandled) (nArgNo : UInt8) (ready : w.Ready)
    (v2 : w.entry.bV2 = true) (room : arg.encodeV2.length ≤ w.entry.nBufferRemaining) :
    w.addAnyArg nArgNo (some arg) = w.extend arg.encodeV2 1 0 := by
  have written := Writes.writeAnyV2 handled w ready room
  rw [addAnyArg, if_neg (by rw [ready.noError]; decide)]
  simp only [v2, written]
  simp [extend]

theorem addAnyArg_none (nArgNo : UInt8) : w.addAnyArg nArgNo none = w := by
  rw [addAnyArg]
  split <;> rfl

theorem addTArg_none (nArgNo : UInt8) : w.addTArg nArgNo none = w := by
  rw [addTArg]
  split <;> rfl

theorem addTArg_eq (arg : TArg) (nArgNo : UInt8) (ready : w.Ready)
    (room : (arg.encode nArgNo).length ≤ w.entry.nBufferRemaining) :
    w.addTArg nArgNo (some arg) = w.extend (arg.encode nArgNo) 0 0 := by
  have typed : Writes
      (fun w => (((w.writeByte 1).writeByte nArgNo).writeInt arg.code).copy (leBytes 2 arg.code))
      (1 :: nArgNo :: (leBytes 2 arg.code ++ leBytes 2 arg.code)) 0 0 :=
    (Writes.writeByte 1).comp ((Writes.writeByte nArgNo).comp ((Writes.copy _).comp (Writes.copy _)))
  have split : arg.encode nArgNo =
      (1 :: nArgNo :: (leBytes 2 arg.code ++ leBytes 2 arg.code)) ++ arg.bytes := by
    simp [TArg.encode]
  rw [addTArg, if_neg (by rw [ready.noError]; decide)]
  rw [split] at room ⊢
  cases arg with
  | value v =>
    cases v with
    | string s => exact typed.comp (Writes.writeString s) w ready room
    | _ => exact typed.comp (Writes.copy _) w ready room
  | other eType =>
    exact typed w ready room

theorem addContext_eq (eScope : EScope) (record : List UInt8) (ready : w.Ready)
    (v2 : w.entry.bV2 = true) (room : record.length + 1 ≤ w.entry.nBufferRemaining) :
    w.addContext eScope record = w.extend (eScope.code :: record) 0 1 := by
  have written : Writes (fun w => (w.writeByte eScope.code).copy record) (eScope.code :: record) 0 0 :=
    (Writes.writeByte _).comp (Writes.copy record)
  have here := written w ready room
  simp only [addContext, v2] at here ⊢
  rw [here]
  simp [extend]

theorem foldl_extend {ι : Type} {m : Writing → ι → Writing} {encode : ι → List UInt8} {a c : ι → Nat}
    (items : List ι) (one : ∀ item ∈ items, ∀ w : Writing, w.Ready → w.entry.bV2 = true →
      (encode item).length ≤ w.entry.nBufferRemaining → m w item = w.extend (encode item) (a item) (c item))
    (ready : w.Ready) (v2 : w.entry.bV2 = true) (xs : List UInt8) (args contexts : Nat)
    (room : (xs ++ items.flatMap encode).length ≤ w.entry.nBufferRemaining) :
    items.foldl m (w.extend xs args contexts) =
      w.extend (xs ++ items.flatMap encode) (args + (items.map a).sum) (contexts + (items.map c).sum) := by
  induction items generalizing xs args contexts with
  | nil => simp
  | cons item items ih =>
    simp only [List.flatMap_cons, List.length_append] at room
    have here : xs.length ≤ w.entry.nBufferRemaining := by omega
    have first : (encode item).length ≤ (w.extend xs args contexts).entry.nBufferRemaining := by
      rw [extend_nBufferRemaining]
      omega
    rw [List.foldl_cons, one item List.mem_cons_self _ (ready.extend here) v2 first, extend_extend ready.inside,
      ih fun other member => one other (List.mem_cons_of_mem item member)]
    · simp [Nat.add_assoc]
    · simp only [List.length_append]
      omega

/-! ### Beginning and end -/

/-- An entry without bytes yet, at the end of what the buffer holds. -/
def opened (w : Writing) : Writing :=
  { w with entry := { w.entry with
      pBuffer := w.buffer.nBufferCount
      nBufferCount := 0
      nBufferRemaining := w.buffer.bufferFree
      bError := false
      nEntryStart := 0
      nEntryLenOffset := 1
      nArgCountOffset := 25
      nCtxCountOffset := 26
      nArgCount := 0
      nContextCount := 0
      bV2 := true } }

section

variable {record : List UInt8} {args contexts : Nat}

@[simp] theorem opened_nEntryLenOffset : (w.opened.extend record args contexts).entry.nEntryLenOffset = 1 := rfl

@[simp] theorem opened_nArgCountOffset : (w.opened.extend record args contexts).entry.nArgCountOffset = 25 := rfl

@[simp] theorem opened_nCtxCountOffset : (w.opened.extend record args contexts).entry.nCtxCountOffset = 26 := rfl

end

theorem ready_opened (fits : w.buffer.nBufferCount ≤ w.buffer.aBuffer.length) : w.opened.Ready := by
  constructor
  · rfl
  · change w.buffer.nBufferCount + 0 + (w.buffer.aBuffer.length - w.buffer.nBufferCount) ≤
      w.buffer.aBuffer.length
    omega

/-- The header that `StartV2` writes when it is given no times. -/
def headerOf (task : TaskInfo) (eLogLevel : LogLevel) : LogEntryHeaderV2 where
  nType := 2
  nEntryLength := 0
  nLevel := eLogLevel.asU8
  nTsPlc := task.systemTime
  nTsClock := if task.actualDcTime = 0 then task.dcTaskTime else task.actualDcTime
  nTaskIndex := task.nTaskIndex.toUInt32.toUInt8
  nCycleCount := task.cycleCount
  nArgCount := 0
  nContextCount := 0

theorem startV2_reset (task : TaskInfo) (logger message : PlcString) (eLogLevel : LogLevel)
    (fits : w.buffer.nBufferCount ≤ w.buffer.aBuffer.length)
    (room : ((headerOf task eLogLevel).bytes ++ (message.prefixed ++ logger.prefixed)).length ≤
      w.buffer.bufferFree) : w.reset.startV2 task (some logger) message eLogLevel 0 0 =
      w.opened.extend ((headerOf task eLogLevel).bytes ++ (message.prefixed ++ logger.prefixed)) 0 0 := by
  have texts : Writes (fun w => (w.writeString message).writeString logger)
      (message.prefixed ++ logger.prefixed) 0 0 :=
    (Writes.writeString message).comp (Writes.writeString logger)
  have whole := (Writes.copy (headerOf task eLogLevel).bytes).comp texts
  -- the counters are set at the end, which the copies do not touch
  have start : ({ w.reset with entry := { w.reset.entry with
      nEntryStart := 0, nEntryLenOffset := 1, nArgCountOffset := 25, nCtxCountOffset := 26 } } :
        Writing).Ready := by
    have ready := ready_opened fits
    exact ⟨rfl, ready.inside⟩
  have written := whole _ start room
  exact congrArg (fun w : Writing =>
    { w with entry := { w.entry with nArgCount := 0, nContextCount := 0, bV2 := true } }) written

/-! The offsets that `StartV2` keeps are those of the fields that `End` fills in. -/

section

variable (h : LogEntryHeaderV2) (rest : List UInt8)

theorem overwrite_nEntryLength (v : UInt16) :
    overwrite (h.bytes ++ rest) 1 (leBytes 2 v.toNat) = { h with nEntryLength := v }.bytes ++ rest := rfl

theorem overwrite_nArgCount (v : UInt8) :
    overwrite (h.bytes ++ rest) 25 [v] = { h with nArgCount := v }.bytes ++ rest := rfl

end

theorem poke_opened (fits : w.buffer.nBufferCount ≤ w.buffer.aBuffer.length)
    (inside : offset + value.length ≤ record.length) :
    (w.opened.extend record args contexts).poke offset value =
      w.opened.extend (overwrite record offset value) args contexts := by
  simp [poke, extend, opened, overwrite_inside fits inside, length_overwrite inside]

theorem used_opened (fits : w.buffer.nBufferCount ≤ w.buffer.aBuffer.length) :
    ((w.opened.extend record args contexts).buffer.dataAdded
      (w.opened.extend record args contexts).entry.nBufferCount).used = w.buffer.used ++ record := by
  change (overwrite w.buffer.aBuffer w.buffer.nBufferCount record).take
    (w.buffer.nBufferCount + (0 + record.length)) = _
  rw [Nat.zero_add]
  exact take_overwrite fits

def filledHeader (h : LogEntryHeaderV2) (rest : List UInt8) (args contexts : Nat) : LogEntryHeaderV2 :=
  { h with
    nEntryLength := UInt16.ofNat ((h.bytes ++ rest).length - 3)
    nArgCount := UInt8.ofNat args
    nContextCount := UInt8.ofNat contexts }

def counted (w : Writing) : Writing where
  entry := { w.entry with bV2 := false }
  buffer := w.buffer.dataAdded w.entry.nBufferCount

section

variable (h : LogEntryHeaderV2) (rest : List UInt8) (args contexts : Nat)
  (fits : w.buffer.nBufferCount ≤ w.buffer.aBuffer.length) (room : (h.bytes ++ rest).length ≤ w.buffer.bufferFree)
include fits room

theorem finish_opened : (w.opened.extend (h.bytes ++ rest) args contexts).finish =
      (w.opened.extend ((filledHeader h rest args contexts).bytes ++ rest) args contexts).counted := by
  have inHeader : ∀ (h : LogEntryHeaderV2) (offset : Nat) (value : List UInt8),
      offset + value.length ≤ 27 → offset + value.length ≤ (h.bytes ++ rest).length := by
    intro h offset value inside
    rw [List.length_append, h.length_bytes]
    omega
  have free : ¬(w.opened.extend (h.bytes ++ rest) args contexts).buffer.bufferFree <
      (w.opened.extend (h.bytes ++ rest) args contexts).entry.nBufferCount := by
    change ¬(overwrite w.buffer.aBuffer w.buffer.nBufferCount (h.bytes ++ rest)).length -
      w.buffer.nBufferCount < 0 + (h.bytes ++ rest).length
    rw [LogBuffer.bufferFree] at room
    rw [length_overwrite (by omega)]
    omega
  rw [finish, if_neg (by simp [extend, opened]), if_neg (by simp [extend, opened]), if_neg free]
  simp only [opened_nEntryLenOffset, opened_nArgCountOffset, opened_nCtxCountOffset]
  rw [poke_opened fits (inHeader h 1 _ (by simp)), overwrite_nEntryLength,
    poke_opened fits (inHeader _ 25 _ (by simp)), overwrite_nArgCount, poke_opened fits (inHeader _ 26 _ (by simp))]
  have length : (w.opened.extend (h.bytes ++ rest) args contexts).entry.nBufferCount -
      (w.opened.extend (h.bytes ++ rest) args contexts).entry.nEntryStart - 3 =
        (h.bytes ++ rest).length - 3 := by
    change 0 + (h.bytes ++ rest).length - 0 - 3 = _
    rw [Nat.zero_add, Nat.sub_zero]
  have arguments : (w.opened.extend (h.bytes ++ rest) args contexts).entry.nArgCount =
      UInt8.ofNat args := UInt8.zero_add _
  have records : (w.opened.extend (h.bytes ++ rest) args contexts).entry.nContextCount =
      UInt8.ofNat contexts := UInt8.zero_add _
  rw [length, arguments, records]
  rfl

/-- An entry that found enough room is sent with its length and its counts. -/
theorem finish_extend : (w.opened.extend (h.bytes ++ rest) args contexts).finish.buffer.used =
      w.buffer.used ++ ((filledHeader h rest args contexts).bytes ++ rest) := by
  rw [finish_opened h rest args contexts fits room]
  exact used_opened fits

end

end Writing

end TcOtel.Plc
