import TcOtel.Ads.Safety
import TcOtel.Ads.Wire

/-!
# `parse_all` inverts the wire format

Every decoder reads exactly the bytes of a well-formed message and returns what the message
says (`decodeMessage_encode`). From there it is an induction over the messages: each brings
the loop from the start of its bytes to their end (`reaches_encodeAll`), wherever they stand
in a buffer.
-/

namespace TcOtel.Ads

open Decoding Decoder Looping

/-! ### Primitive readers -/

theorem decodes_readBytes (length : bytes.length = n) : Decodes (readBytes n) bytes bytes := by
  intro before after
  have fits : before.length + n ≤ (before ++ (bytes ++ after)).length := by
    simp only [List.length_append]
    omega
  rw [readBytes_run (by omega), if_pos fits, List.drop_left, ← length, List.take_left]

theorem decodes_readU8 (b : UInt8) : Decodes readU8 [b] b := by
  have read : Decodes (readBytes 1) [b] [b] := decodes_readBytes rfl
  exact read.last (.pure b)

theorem decodes_readArray (bytes : Bytes n) : Decodes (readArray n) bytes.val bytes := by
  refine (decodes_readBytes bytes.property).last ?_
  rw [dif_pos bytes.property]
  exact .pure bytes

theorem decodes_readLe (fits : v < 256 ^ n) : Decodes (readLe n) (leBytes n v) v := by
  refine (decodes_readBytes (length_leBytes n v)).last ?_
  rw [leNat_leBytes n v fits]
  exact .pure v

theorem decodes_word {α : Type} {g : Nat → α} {a : α} (fits : v < 256 ^ n) (back : g v = a) :
    Decodes (do let v ← readLe n; pure (g v)) (leBytes n v) a := by
  subst back
  exact (decodes_readLe fits).last (.pure (g v))

theorem decodes_readU16 (v : UInt16) : Decodes readU16 (leBytes 2 v.toNat) v :=
  decodes_word v.toNat_lt UInt16.ofNat_toNat

theorem decodes_readU32 (v : UInt32) : Decodes readU32 (leBytes 4 v.toNat) v :=
  decodes_word v.toNat_lt UInt32.ofNat_toNat

theorem decodes_readU64 (v : UInt64) : Decodes readU64 (leBytes 8 v.toNat) v :=
  decodes_word v.toNat_lt UInt64.ofNat_toNat

theorem decodes_readI16 (v : Int16) : Decodes readI16 (leBytes 2 v.toUInt16.toNat) v :=
  decodes_word v.toUInt16.toNat_lt (congrArg Int16.ofUInt16 UInt16.ofNat_toNat)

theorem decodes_readI32 (v : Int32) : Decodes readI32 (leBytes 4 v.toUInt32.toNat) v :=
  decodes_word v.toUInt32.toNat_lt (congrArg Int32.ofUInt32 UInt32.ofNat_toNat)

theorem decodes_readI64 (v : Int64) : Decodes readI64 (encodeI64 v) v :=
  (decodes_readU64 v.toUInt64).last (.pure v)

theorem decodes_readF64 (f : F64) : Decodes readF64 (encodeF64 f) f :=
  (decodes_readU64 f.bits).last (.pure f)

/-! ### Texts and times -/

theorem toNat_ofNat_length (t : WireText limit) (small : limit ≤ 255) :
    (UInt8.ofNat t.length).toNat = t.length := by
  have fits : t.length ≤ limit := t.fits
  exact Nat.mod_eq_of_lt (by omega)

/-- The length of a text passes the check for its limit. -/
theorem decodes_lengthCheck (t : WireText limit) (small : limit ≤ 255) (e : AdsError) :
    Decodes (failIf ((UInt8.ofNat t.length).toNat > limit) e) [] () := by
  rw [toNat_ofNat_length t small]
  exact .failIf (Nat.not_lt.mpr t.fits)

theorem byte_le_maxStringLength (b : UInt8) : ¬b.toNat > maxStringLength :=
  Nat.lt_asymm (Nat.lt_trans b.toNat_lt (by decide))

theorem decodes_readString (t : WireText 255) : Decodes readString t.encode t.text := by
  have length := toNat_ofNat_length t (Nat.le_refl _)
  refine (decodes_readU8 _).bind (.silent (.failIf (byte_le_maxStringLength _)) ?_)
  refine (decodes_readBytes length.symm).last ?_
  rw [fromUtf8Lossy_utf8Bytes]
  exact .pure t.text

theorem decodes_readUtf8 (t : WireText limit) (small : limit ≤ 255) (message : String) :
    Decodes (readUtf8 (UInt8.ofNat t.length).toNat message) (utf8Bytes t.text) t.text := by
  rw [toNat_ofNat_length t small]
  refine (decodes_readBytes rfl).last ?_
  exact .orFail (fromUtf8_utf8Bytes t.text)

section

variable (env : Env)

theorem decodes_readFiletime (t : FileTime) : Decodes (readFiletime env) t.encode t.instant := by
  have since := t.sinceUnixEpoch
  have width := t.ticks.toNat_lt
  refine (decodes_readLe (n := 8) width).last (.position fun here => ?_)
  rw [if_neg (by omega)]
  refine .orFail (env.chrono.fromTimestamp_inRange _ _ ?_ ?_ ?_) <;> omega

theorem decodes_readDcTaskTime (t : DcTime) : Decodes (readDcTaskTime env) (encodeI64 t.ns) t.instant := by
  have positive := t.positive
  have width : t.ns.toInt < 2 ^ 63 := t.ns.toInt_lt
  refine (decodes_readI64 t.ns).last (.position fun here => ?_)
  rw [if_neg (by omega)]
  have since : unixToDcEpochSecs = 946684800 := rfl
  refine .orFail (env.chrono.fromTimestamp_inRange _ _ ?_ ?_ ?_) <;> omega

/-! ### Argument values -/

theorem leBytes_one (v : UInt8) : leBytes 1 v.toNat = [v] := by
  have small : v.toNat % 256 = v.toNat := Nat.mod_eq_of_lt v.toNat_lt
  rw [leBytes, leBytes, small, UInt8.ofNat_toNat]

theorem decodes_readByte (v : UInt8) : Decodes readU8 (leBytes 1 v.toNat) v := by
  rw [leBytes_one]
  exact decodes_readU8 v

theorem decodes_readEnum (v : WireUnsigned) :
    Decodes (readEnum (ArgType.ofId v.typeId)) v.encode (.int v.toNat) := by
  cases v with
  | byte v | usint v => exact (decodes_readByte v).last (.pure _)
  | word v | uint v => exact (decodes_readU16 v).last (.pure _)
  | dword v | udint v => exact (decodes_readU32 v).last (.pure _)
  | ularge v => exact (decodes_readU64 v).last (.pure _)

theorem decodes_readTyped_unsigned (underlying : Read Int) (v : WireUnsigned) :
    Decodes (readTyped env underlying (ArgType.ofId v.typeId)) v.encode (.int v.toNat) := by
  have same : readTyped env underlying (ArgType.ofId v.typeId) = readEnum (ArgType.ofId v.typeId) := by
    cases v <;> rfl
  rw [same]
  exact decodes_readEnum v

theorem utf16Units_append (units : List UInt16) (rest : List UInt8) :
    utf16Units ((units.flatMap fun u => leBytes 2 u.toNat) ++ rest) = units ++ utf16Units rest := by
  induction units with
  | nil => rfl
  | cons u units ih =>
    have value : leNat (leBytes 2 u.toNat) = u.toNat := leNat_leBytes 2 u.toNat u.toNat_lt
    obtain ⟨low, high, pair⟩ : ∃ low high, leBytes 2 u.toNat = [low, high] := ⟨_, _, rfl⟩
    rw [pair] at value
    rw [List.flatMap_cons, pair, List.append_assoc, List.cons_append, List.cons_append, List.nil_append, utf16Units,
      value, ih, UInt16.ofNat_toNat, List.cons_append]

theorem utf16Units_flatMap (units : List UInt16) :
    utf16Units (units.flatMap fun u => leBytes 2 u.toNat) = units := by
  have whole := utf16Units_append units []
  rw [List.append_nil] at whole
  exact whole.trans (List.append_nil units)

theorem decodes_wstring (underlying : Read Int) (t : WideText) :
    Decodes (readTyped env underlying .wstring) t.encode (.string t.text) := by
  have fits : t.units.length ≤ 255 := t.fits
  have count : (UInt8.ofNat t.units.length).toNat = t.units.length := by
    exact Nat.mod_eq_of_lt (by omega)
  have size : (t.units.flatMap fun u => leBytes 2 u.toNat).length =
      (UInt8.ofNat t.units.length).toNat * 2 := by
    simp [count]
  have text : String.ofList (utf16Lossy (utf16Units (t.units.flatMap fun u => leBytes 2 u.toNat))) =
      t.text := by
    rw [utf16Units_flatMap, WideText.units, utf16Lossy_flatMap_utf16Encode, String.ofList_toList]
  refine (decodes_readU8 _).bind ((decodes_readBytes size).last ?_)
  rw [text]
  exact .pure _

/-- Both value readers decode every value, given how each of them reads the type id of an
enumeration. -/
theorem decodes_readTyped {underlying : Read Int} {idWidth : Nat}
    (readsId : ∀ v : WireUnsigned, Decodes underlying (leBytes idWidth v.typeId) v.typeId) (v : WireValue) :
    Decodes (readTyped env underlying (ArgType.ofId v.typeId)) (v.payload idWidth) (v.value env) := by
  cases v with
  | null => exact .pure _
  | unsigned v => exact decodes_readTyped_unsigned env underlying v
  | real f => exact (decodes_readU32 f.bits).last (.pure _)
  | lreal f => exact (decodes_readF64 f).last (.pure _)
  | sint v => exact (decodes_readByte v.toUInt8).last (.pure _)
  | int v => exact (decodes_readI16 v).last (.pure _)
  | dint v => exact (decodes_readI32 v).last (.pure _)
  | string t => exact (decodes_readString t).last (.pure _)
  | bool b => cases b <;> exact (decodes_readU8 _).last (.pure _)
  | large v => exact (decodes_readI64 v).last (.pure _)
  | time v | date v | dateAndTime v | timeOfDay v =>
    exact (decodes_readU32 v).last (.pure _)
  | ltime v fits => exact (decodes_readU64 v).last (.pure _)
  | enum v => exact (readsId v).bind (decodes_readEnum v)
  | wstring t => exact decodes_wstring env underlying t

theorem typeId_lt (v : WireUnsigned) : v.typeId < 256 := by
  cases v <;> simp [WireUnsigned.typeId]

theorem decodes_readTypeId16 (n : Nat) (small : n < 32768) : Decodes readTypeId16 (leBytes 2 n) n := by
  have word := decodes_readI16 (Int16.ofNat n)
  have bits : (Int16.ofNat n).toUInt16.toNat = n := by
    exact Nat.mod_eq_of_lt (by omega)
  rw [bits] at word
  refine word.last ?_
  rw [Int16.toInt_ofNat_of_lt small]
  exact .pure _

theorem decodes_readTypeId8 (n : Nat) (small : n < 256) : Decodes readTypeId8 (leBytes 1 n) n := by
  have byte : (UInt8.ofNat n).toNat = n := by
    exact Nat.mod_eq_of_lt small
  have read := decodes_readByte (UInt8.ofNat n)
  rw [byte] at read
  refine read.last ?_
  rw [byte]
  exact .pure _

theorem decodes_readValue (v : WireValue) : Decodes (readValue env) v.encodeV1 (v.value env) := by
  have small : v.typeId < 32768 := by
    cases v with
    | unsigned v => exact Nat.lt_trans (typeId_lt v) (by decide)
    | _ => simp [WireValue.typeId]
  refine (decodes_readTypeId16 v.typeId small).bind (decodes_readTyped env ?_ v)
  exact fun u => decodes_readTypeId16 u.typeId (Nat.lt_trans (typeId_lt u) (by decide))

theorem remapV2TypeId_typeIdV2 (v : WireValue) : remapV2TypeId v.typeIdV2 = v.typeId := by
  cases v with
  | unsigned v => cases v <;> rfl
  | _ => rfl

theorem decodes_readV2Value (v : WireValue) : Decodes (readV2Value env) v.encodeV2 (v.value env) := by
  have small : v.typeIdV2 < 256 := by
    cases v with
    | unsigned v => cases v <;> simp [WireValue.typeIdV2, WireValue.typeId, WireUnsigned.typeId]
    | _ => simp [WireValue.typeIdV2, WireValue.typeId]
  refine (decodes_readTypeId8 v.typeIdV2 small).bind ?_
  rw [remapV2TypeId_typeIdV2]
  exact decodes_readTyped env (fun u => decodes_readTypeId8 u.typeId (typeId_lt u)) v

theorem readTyped_of_ne_enum (one two : Read Int) (other : type ≠ .enum) :
    readTyped env one type = readTyped env two type := by
  cases type with
  | enum => exact absurd rfl other
  | _ => rfl

theorem remapV2TypeId_byte : ∀ n < 256, n ≠ 105 →
    remapV2TypeId (n : Nat) = (remapV2TypeId (n : Nat)).toNat ∧ (remapV2TypeId (n : Nat)).toNat < 32768 ∧
      ArgType.ofId (remapV2TypeId (n : Nat)) ≠ .enum := by
  decide +kernel

theorem run_behind {α : Type} (p : Read α) [Relative p] (before type data : List UInt8) :
    p.run (before ++ (type ++ data)) (before.length + type.length) =
      (p.run data 0).shift (before.length + type.length) := by
  have moved := Relative.run_append (p := p) (before ++ type) data 0
  rwa [List.append_assoc, List.length_append, Nat.add_zero] at moved

theorem toNat_ofNat_le (small : n ≤ 255) : (UInt8.ofNat n).toNat = n := by
  exact Nat.mod_eq_of_lt (by omega)

def addArgument (found : Nat × Arguments) (v : Value) : Nat × Arguments :=
  (found.1 + 1, found.2.insert (found.1 + 1) v)

theorem foldl_addArgument (values : List Value) (found : Nat × Arguments) : values.foldl addArgument found =
      (found.1 + values.length, found.2.insertAll (values.mapIdx fun i v => (found.1 + i + 1, v))) := by
  induction values generalizing found with
  | nil => rfl
  | cons v values ih =>
    have shift : ∀ i, found.1 + 1 + i = found.1 + (i + 1) := by omega
    rw [List.foldl_cons, ih]
    simp [addArgument, HashMap.insertAll, shift]

theorem decodes_readArguments {ι : Type} {env : Env} {encode : ι → List UInt8} {value : ι → Value}
    (items : List ι) (each : ∀ item ∈ items, Decodes (readV2Value env) (encode item) (value item))
    (limit : items.length ≤ maxArguments) :
    Decodes (iterate items.length (readArgument env) (0, ∅)) (items.flatMap encode)
      (items.length, HashMap.ofList ((items.map value).mapIdx fun i v => (i + 1, v))) := by
  have total := foldl_addArgument (items.map value) (0, ∅)
  simp only [Nat.zero_add, List.length_map, List.foldl_map] at total
  refine .iterate total fun before item after split => ?_
  have few : (before.foldl (fun found item => addArgument found (value item)) (0, ∅)).2.len ≤ before.length := by
    rw [← List.foldl_map, foldl_addArgument]
    refine Nat.le_trans (HashMap.len_insertAll_le _ _) ?_
    simp
  have shorter : before.length < items.length := by
    rw [split, List.length_append, List.length_cons]
    omega
  have read := each item (by simp [split])
  exact .silent (.failIf (by omega)) (read.last (.pure _))

def addProperty (env : Env) (scope : UInt8) (found : Nat × Context) (p : WireProperty) : Nat × Context :=
  (found.1 + 1, found.2.insert (contextKey scope p.name.text) (p.value.value env))

theorem foldl_addProperty (scope : UInt8) (properties : List WireProperty)
    (found : Nat × Context) : properties.foldl (addProperty env scope) found =
      (found.1 + properties.length, found.2.insertAll
        (properties.map fun p => (contextKey scope p.name.text, p.value.value env))) := by
  induction properties generalizing found with
  | nil => rfl
  | cons p properties ih =>
    rw [List.foldl_cons, ih]
    simp only [addProperty, HashMap.insertAll, List.map_cons, List.foldl_cons, List.length_cons]
    rw [Nat.add_assoc, Nat.add_comm 1]

def addGroup (env : Env) (found : Nat × Context) (g : WireGroup) : Nat × Context :=
  g.properties.foldl (addProperty env g.scope) found

theorem foldl_addGroup (groups : List WireGroup) (found : Nat × Context) : groups.foldl (addGroup env) found =
      (found.1 + propertyCount groups, found.2.insertAll (groups.flatMap (WireGroup.pairs env))) := by
  induction groups generalizing found with
  | nil => rfl
  | cons g groups ih =>
    rw [List.foldl_cons, ih, addGroup, foldl_addProperty]
    simp [propertyCount, HashMap.insertAll_append, WireGroup.pairs, Nat.add_assoc]

theorem decodes_readGroup (g : WireGroup) (found : Nat × Context)
    (room : found.1 < maxContextVars) : Decodes (readGroup env found) g.encode (addGroup env found g) := by
  refine .silent (.failIf (by omega)) ?_
  refine (decodes_readU8 g.scope).bind ((decodes_readU8 _).bind ?_)
  rw [toNat_ofNat_le g.properties_le]
  refine .iterate rfl fun before p after split => ?_
  exact (decodes_readString p.name).bind ((decodes_readV2Value env p.value).last (.pure _))

theorem decodes_groups (groups : List WireGroup)
    (opens : ∀ before g after, groups = before ++ g :: after → propertyCount before < maxContextVars) :
    Decodes (iterate groups.length (readGroup env) (0, ∅)) (groups.flatMap WireGroup.encode)
      (propertyCount groups, HashMap.ofList (groups.flatMap (WireGroup.pairs env))) := by
  have total := foldl_addGroup env groups (0, ∅)
  rw [Nat.zero_add] at total
  refine .iterate total fun before g after split => ?_
  refine decodes_readGroup env g _ ?_
  rw [foldl_addGroup, Nat.zero_add]
  exact opens before g after split

theorem decodes_readLogBody (traceId : Bytes 16) (spanId : Bytes 8) (m : WireLog) :
    Decodes (readLogBody env traceId spanId) m.encode (m.entry env traceId spanId) := by
  have arguments := decodes_readArguments m.arguments (fun v _ => decodes_readV2Value env v) m.arguments_le
  have groups := decodes_groups env m.groups m.opens
  have few : m.arguments.length ≤ 255 := Nat.le_trans m.arguments_le (by decide)
  rw [← toNat_ofNat_le few] at arguments
  rw [← toNat_ofNat_le m.groups_le] at groups
  refine (decodes_readU8 _).field (.silent (.orFail (LogLevel.fromU8_asU8 m.level)) ?_)
  refine (decodes_readFiletime env m.plcTime).field ?_
  refine (decodes_readDcTaskTime env m.clockTime).field ?_
  refine (decodes_readU8 m.taskIndex).field ?_
  refine (decodes_readU32 m.taskCycleCounter).field ?_
  refine (decodes_readU8 _).field ((decodes_readU8 _).field ?_)
  refine (decodes_readString m.text).field ((decodes_readString m.logger).field ?_)
  refine arguments.field (groups.field ?_)
  exact .pure _

theorem decodes_framed {α : Type} {body : Read α} {bytes : List UInt8} {a : α}
    (reads : Decodes body bytes a) (small : bytes.length < 65536) :
    Decodes (framed body) (encodeFrame bytes) a := by
  have width : (UInt16.ofNat bytes.length).toNat = bytes.length := by
    exact Nat.mod_eq_of_lt small
  have length := decodes_readU16 (UInt16.ofNat bytes.length)
  rw [width] at length
  intro before after
  have one := length before (bytes ++ after)
  have two := reads (before ++ leBytes 2 bytes.length) after
  simp only [List.append_assoc, List.length_append, length_leBytes] at one two
  simp only [framed, encodeFrame, List.append_assoc]
  rw [bind_ok one]
  change ((body >>= fun value => seek (before.length + 2 + (UInt16.ofNat bytes.length).toNat) >>=
    fun _ => pure value).run _ (before.length + 2)) = _
  rw [bind_ok two, width]
  simp only [List.length_append, Nat.add_assoc]
  rfl

theorem decodes_v2 (m : WireV2) : Decodes (parseV2FromReader env) m.encode
      (m.body.entry env (Bytes.zero 16) (Bytes.zero 8)) := by
  have body := decodes_framed (decodes_readLogBody env (Bytes.zero 16) (Bytes.zero 8) m.body) m.frame_lt
  exact (decodes_readU8 2).bind (.silent (.failIf (by decide)) body)

theorem decodes_traced (m : WireTraced) :
    Decodes (parseV2TracedFromReader env) m.encode (m.body.entry env m.traceId m.spanId) := by
  have body : Decodes (readTracedBody env) m.bodyBytes (m.body.entry env m.traceId m.spanId) := by
    refine (decodes_readArray m.traceId).field ((decodes_readArray m.spanId).field ?_)
    have log := decodes_readLogBody env m.traceId m.spanId m.body
    rwa [← List.append_nil m.body.encode] at log
  have small : m.bodyBytes.length < 65536 := by
    have limit := m.frame_lt
    simp only [WireTraced.bodyBytes, List.flatten_cons, List.flatten_nil, List.length_append,
      m.traceId.property, m.spanId.property, List.length_nil]
    omega
  exact (decodes_readU8 9).bind (.silent (.failIf (by decide)) (decodes_framed body small))

/-! ### v1 entries -/

theorem len_foldl_addTo (items : List WireItem) (found : Arguments × Context) :
    (items.foldl (WireItem.addTo env) found).1.len ≤ found.1.len + items.countP (·.isArgument) ∧
    (items.foldl (WireItem.addTo env) found).2.len ≤ found.2.len + items.countP (!·.isArgument) := by
  induction items generalizing found with
  | nil => exact ⟨Nat.le_refl _, Nat.le_refl _⟩
  | cons item items ih =>
    obtain ⟨arguments, properties⟩ := ih (WireItem.addTo env found item)
    rw [List.foldl_cons]
    cases item with
    | argument index value =>
      have inserted := HashMap.len_insert_le found.1 index.toNat (value.value env)
      simp only [WireItem.addTo] at arguments properties
      simp only [WireItem.addTo, WireItem.isArgument_argument, List.countP_cons, if_true]
      omega
    | property scope name value =>
      have inserted := HashMap.len_insert_le found.2 (contextKey scope name.text) (value.value env)
      simp only [WireItem.addTo] at arguments properties
      simp only [WireItem.addTo, WireItem.isArgument_property, List.countP_cons, if_true, Bool.not_false]
      omega

theorem decodes_v1Item (item : WireItem) (found : Arguments × Context)
    (arguments : item.isArgument = true → found.1.len < maxArguments)
    (properties : item.isArgument = false → found.2.len < maxContextVars) :
    Decodes (v1Round env found) item.encode (.again (item.addTo env found)) := by
  refine .remaining fun left enough => ?_
  cases item with
  | argument index value =>
    have room := arguments rfl
    rw [if_neg (by simp only [WireItem.encode, List.length_cons] at enough; omega)]
    refine (decodes_readU8 1).bind ?_
    refine .silent (.failIf (by omega)) ?_
    exact (decodes_readU8 index).bind ((decodes_readValue env value).last (.pure _))
  | property scope name value =>
    have room := properties rfl
    rw [if_neg (by simp only [WireItem.encode, List.length_cons] at enough; omega)]
    refine (decodes_readU8 2).bind ?_
    refine .silent (.failIf (by omega)) ?_
    refine (decodes_readU8 scope).bind ((decodes_readString name).bind ?_)
    exact (decodes_readValue env value).last (.pure _)

theorem decodes_v1End (found : Arguments × Context) : Decodes (v1Round env found) [255] (.done found) := by
  refine .remaining fun left enough => ?_
  rw [if_neg (by simp only [List.length_singleton] at enough; omega)]
  refine (decodes_readU8 255).last ?_
  exact .pure _

theorem decodes_v1Items (m : WireV1) :
    Decodes (loopOpen (v1Round env) (∅, ∅)) (m.items.flatMap WireItem.encode ++ [255])
      (m.items.foldl (WireItem.addTo env) (∅, ∅)) := by
  refine .loopOpen m.items (∅, ∅) ?_ ?_ (decodes_v1End env _)
  · intro item _
    cases item <;> simp [WireItem.encode]
  · intro before item after split
    -- the items before this one leave room for it
    obtain ⟨arguments, properties⟩ := len_foldl_addTo env before (∅, ∅)
    have limits := And.intro m.arguments_le m.properties_le
    rw [split, List.countP_append, List.countP_append, List.countP_cons, List.countP_cons] at limits
    refine decodes_v1Item env item _ (fun isArgument => ?_) (fun isProperty => ?_)
    · simp only [isArgument, if_true, HashMap.len_empty] at limits arguments
      omega
    · simp only [isProperty, Bool.not_false, if_true, HashMap.len_empty]
        at limits properties
      omega

theorem decodes_v1 (m : WireV1) : Decodes (parseV1FromReader env) m.encode (m.entry env) := by
  have level : LogLevel.fromU8 (UInt16.ofNat m.level.asU8.toNat).toUInt8 = some m.level := by
    cases m.level <;> rfl
  have levelWord : Decodes readU16 (leBytes 2 m.level.asU8.toNat)
      (UInt16.ofNat m.level.asU8.toNat) := by
    have word := decodes_readU16 (UInt16.ofNat m.level.asU8.toNat)
    have width : (UInt16.ofNat m.level.asU8.toNat).toNat = m.level.asU8.toNat := by
      cases m.level <;> rfl
    rwa [width] at word
  refine (decodes_readU8 1).field (.silent (.orFail rfl) ?_)
  refine (decodes_readString m.text).field ((decodes_readString m.logger).field ?_)
  refine levelWord.field (.silent (.orFail level) ?_)
  refine (decodes_readFiletime env m.plcTime).field ?_
  refine (decodes_readDcTaskTime env m.clockTime).field ?_
  refine (decodes_readI32 m.taskIndex).field ((decodes_readString m.taskName).field ?_)
  refine (decodes_readU32 m.taskCycleCounter).field ((decodes_readString m.appName).field ?_)
  refine (decodes_readString m.projectName).field ((decodes_readU32 m.onlineChangeCount).field ?_)
  exact (decodes_v1Items env m).field (.pure _)

/-! ### Registrations and metrics -/

theorem decodes_registration (m : WireRegistration) :
    Decodes parseRegistrationFromReader m.encode m.registration := by
  refine (decodes_readU8 3).field (.silent (.failIf (by decide)) ?_)
  refine (decodes_readU8 m.taskIndex).field ((decodes_readString m.taskName).field ?_)
  refine (decodes_readString m.appName).field ((decodes_readString m.projectName).field ?_)
  refine (decodes_readU32 m.onlineChangeCount).field ((decodes_readU16 m.appPort).field ?_)
  exact .pure _

theorem foldl_concat {α : Type} (items found : List α) :
    items.foldl (fun found a => found ++ [a]) found = found ++ items := by
  induction items generalizing found with
  | nil => rw [List.foldl_nil, List.append_nil]
  | cons a items ih => rw [List.foldl_cons, ih, List.append_assoc, List.singleton_append]

theorem decodes_list {α : Type} {item : Read α} {encode : α → List UInt8}
    (reads : ∀ a, Decodes item (encode a) a) (items : List α) :
    Decodes (iterate items.length (fun found => do let a ← item; pure (found ++ [a])) [])
      (items.flatMap encode) items := by
  exact .iterate (foldl_concat items []) fun before a after _ => (reads a).last (.pure _)

theorem decodes_readHistogram (h : WireHistogram) :
    Decodes readHistogram h.encode ⟨h.bounds, h.counts, h.count, h.sum⟩ := by
  have limit : h.bounds.length ≤ 100 := h.bounds_le
  have count := toNat_ofNat_le (Nat.le_trans limit (by decide))
  have bounds := decodes_list decodes_readF64 h.bounds
  have counts := decodes_list decodes_readU64 h.counts
  rw [h.counts_eq] at counts
  rw [← count] at bounds counts
  have few : ¬ (UInt8.ofNat h.bounds.length).toNat > maxHistogramBuckets := by
    rw [maxHistogramBuckets]
    omega
  refine (decodes_readU8 _).field (.silent (.failIf few) ?_)
  refine bounds.field (counts.field ?_)
  exact (decodes_readU64 h.count).field ((decodes_readF64 h.sum).field (.pure _))

theorem decodes_readHistogramPart (k : WireMetricKind) :
    Decodes (readHistogramPart k.kind) k.encode k.part := by
  cases k with
  | gauge | sum => exact .pure _
  | histogram h => exact decodes_readHistogram h

def addAttribute (env : Env) (found : Context) (p : WireProperty) : Context :=
  found.insert p.name.text (p.value.value env)

theorem decodes_attributes (attributes : List WireProperty) :
    Decodes (iterate attributes.length (readMetricAttribute env) ∅) (attributes.flatMap WireProperty.encode)
      (HashMap.ofList (attributes.map fun p => (p.name.text, p.value.value env))) := by
  have whole : attributes.foldl (addAttribute env) ∅ =
      HashMap.ofList (attributes.map fun p => (p.name.text, p.value.value env)) := by
    rw [HashMap.ofList, HashMap.insertAll, List.foldl_map]
    rfl
  refine .iterate whole fun before p after _ => ?_
  exact (decodes_readString p.name).bind ((decodes_readV2Value env p.value).last (.pure _))

theorem decodes_readMetricBody (m : WireMetricBody) :
    Decodes (readMetricBody env) m.encode (m.metric env) := by
  have limit : m.attributes.length ≤ 32 := m.attributes_le
  have count := toNat_ofNat_le (Nat.le_trans limit (by decide))
  have attributes := decodes_attributes env m.attributes
  rw [← count] at attributes
  have few : ¬ (UInt8.ofNat m.attributes.length).toNat > maxMetricAttributes := by
    rw [maxMetricAttributes]
    omega
  refine (decodes_readU8 _).field
    (.silent (.orFail (MetricKind.fromU8_asU8 m.kind.kind)) ?_)
  refine (decodes_readFiletime env m.time).field ((decodes_readU8 m.taskIndex).field ?_)
  refine (decodes_readU32 m.taskCycleCounter).field ((decodes_readU8 _).field ?_)
  refine (decodes_readU8 m.flags).field (.silent (.failIf few) ?_)
  refine (decodes_readString m.name).field ((decodes_readString m.description).field ?_)
  refine (decodes_readString m.unit).field ((decodes_readF64 m.value).field ?_)
  refine (decodes_readHistogramPart m.kind).field (attributes.field ?_)
  exact .pure _

theorem decodes_metric (m : WireMetric) :
    Decodes (parseMetricFromReader env) m.encode (m.body.metric env) := by
  have body := decodes_framed (decodes_readMetricBody env m.body) m.frame_lt
  exact (decodes_readU8 4).bind (.silent (.failIf (by decide)) body)

/-! ### Trace events -/

theorem decodes_readShortText (t : WireText 127) (what : String) :
    Decodes (readShortText what) t.encode t.text := by
  refine (decodes_readU8 _).bind (.silent (decodes_lengthCheck t (by decide) _) ?_)
  exact decodes_readUtf8 t (by decide) _

theorem decodes_readFlagged {flags mask : UInt8} {t : Option (WireText 127)}
    (flag : flags &&& mask ≠ 0 ↔ t.isSome) (what : String) :
    Decodes (readFlagged flags mask (readShortText what)) (encodeOptional t) (t.map WireText.text) := by
  unfold readFlagged
  cases t with
  | none =>
    rw [if_neg fun set => Bool.false_ne_true (flag.mp set)]
    exact .pure _
  | some t =>
    rw [if_pos (flag.mpr rfl)]
    exact (decodes_readShortText t what).last (.pure _)

theorem decodes_spanBegin (m : WireSpanBegin) :
    Decodes parseV2TraceEventFromReader m.encode (.spanBegin m.event) := by
  refine (decodes_readU8 5).field ((decodes_readU8 m.localId).field ?_)
  refine (decodes_readU8 m.taskIndex).field ((decodes_readU8 m.flags).field ?_)
  refine (decodes_readI64 m.dcTime).field ((decodes_readArray m.parentSpanId).field ?_)
  refine (decodes_readU8 m.kind).field ((decodes_readU8 _).field ?_)
  refine (decodes_readBytes m.reserved.property).field ?_
  refine .silent (decodes_lengthCheck m.name (by decide) _) ?_
  refine (decodes_readArray m.traceId).field ((decodes_readArray m.spanId).field ?_)
  refine (decodes_readUtf8 m.name (by decide) _).field ?_
  refine (decodes_readFlagged m.traceparent_flag _).field ?_
  exact (decodes_readFlagged m.namespace_flag _).field (.pure _)

theorem decodes_spanHeader (kind : ∀ localId, readTracePayload eventType localId taskIndex flags dcTime =
      readSpanIdRest localId >>= payload)
    (reads : Decodes (payload spanId) rest.flatten b) :
    Decodes parseV2TraceEventFromReader
      (encodeSpanHeader eventType spanId taskIndex flags dcTime ++ rest).flatten b := by
  obtain ⟨bytes, size⟩ := spanId
  obtain ⟨first, others, rfl⟩ := List.exists_cons_of_length_eq_add_one size
  have seven : others.length = 7 := by simpa using size
  refine (decodes_readU8 eventType).field ((decodes_readU8 first).field ?_)
  refine (decodes_readU8 taskIndex).field ((decodes_readU8 flags).field ?_)
  refine (decodes_readI64 dcTime).field ?_
  rw [kind]
  exact .field ((decodes_readArray ⟨others, seven⟩).last (.pure _)) reads

theorem decodes_readAttrValue (v : WireAttrValue) :
    Decodes (readAttrValue v.typeId v.encode.length) v.encode v.value := by
  cases v with
  | i64 n => exact (decodes_readI64 n).last (.pure _)
  | f64 f => exact (decodes_readF64 f).last (.pure _)
  | bool b => cases b <;> exact (decodes_readU8 _).last (.pure _)
  | string t =>
    have text := decodes_readUtf8 t (by decide) "SPAN_ATTR: invalid UTF-8 in string value"
    rw [toNat_ofNat_length t (by decide)] at text
    exact text.last (.pure _)

theorem length_encode_attrValue (v : WireAttrValue) : v.encode.length ≤ 127 := by
  cases v with
  | string t => exact t.fits
  | i64 n => simp [WireAttrValue.encode, encodeI64]
  | f64 f => simp [WireAttrValue.encode, encodeF64]
  | bool b => simp [WireAttrValue.encode]

theorem decodes_spanAttr (m : WireSpanAttr) :
    Decodes parseV2TraceEventFromReader m.encode (.spanAttr m.event) := by
  have valueFits := length_encode_attrValue m.value
  have valueLength := toNat_ofNat_le (Nat.le_trans valueFits (by decide))
  have value := decodes_readAttrValue m.value
  rw [← valueLength] at value
  refine decodes_spanHeader (fun _ => rfl) ?_
  refine (decodes_readU8 _).field ((decodes_readU8 _).field ((decodes_readU8 _).field ?_))
  refine (decodes_readU8 m.reserved).field (.silent (decodes_lengthCheck m.key (by decide) _) ?_)
  refine .silent (.failIf (by omega)) ?_
  exact (decodes_readUtf8 m.key (by decide) _).field (value.field (.pure _))

theorem decodes_readPointAttrValue (v : WirePointValue) :
    Decodes (readPointAttrValue v.typeId) v.encode v.value := by
  cases v with
  | i64 n => exact (decodes_readI64 n).last (.pure _)
  | bool b => cases b <;> exact (decodes_readU8 _).last (.pure _)

theorem decodes_pointAttrs (attrs : List WirePointAttr) :
    Decodes (iterate attrs.length readPointAttr []) (attrs.flatMap WirePointAttr.encode)
      (attrs.map fun a => (a.key.text, a.value.value)) := by
  have whole := foldl_concat (attrs.map fun a => (a.key.text, a.value.value)) []
  rw [List.foldl_map] at whole
  refine .iterate whole fun before a after _ => ?_
  refine (decodes_readU8 _).field ((decodes_readU8 _).field ((decodes_readU8 _).field ?_))
  refine (decodes_readU8 a.reserved).field (.silent (decodes_lengthCheck a.key (by decide) _) ?_)
  refine (decodes_readUtf8 a.key (by decide) _).field ?_
  exact (decodes_readPointAttrValue a.value).field (.pure _)

theorem decodes_spanPoint (m : WireSpanPoint) :
    Decodes parseV2TraceEventFromReader m.encode (.spanEvent m.event) := by
  have limit := m.attrs_le
  have count := toNat_ofNat_le (Nat.le_trans limit (by decide))
  have attrs := decodes_pointAttrs m.attrs
  rw [← count] at attrs
  refine decodes_spanHeader (fun _ => rfl) ?_
  refine (decodes_readU8 _).field ((decodes_readU8 _).field ((decodes_readU16 m.reserved).field ?_))
  refine .silent (decodes_lengthCheck m.name (by decide) _) (.silent (.failIf (by omega)) ?_)
  exact (decodes_readUtf8 m.name (by decide) _).field (attrs.field (.pure _))

theorem decodes_spanEnd (m : WireSpanEnd) :
    Decodes parseV2TraceEventFromReader m.encode (.spanEnd m.event) := by
  refine decodes_spanHeader (fun _ => rfl) ?_
  refine (decodes_readU8 m.status).field ((decodes_readU8 _).field ((decodes_readU16 m.reserved).field ?_))
  refine .silent (decodes_lengthCheck m.text (by decide) _) ?_
  exact (decodes_readUtf8 m.text (by decide) _).field (.pure _)

/-! ### Whole buffers -/

def WireMessage.kind : WireMessage → MessageType
  | v1 _ => .v1
  | v2 _ => .v2
  | traced _ => .traced
  | registration _ => .registration
  | metric _ => .metric
  | spanBegin _ | spanAttr _ | spanEvent _ | spanEnd _ => .traceEvent

theorem decodeMessage_encode (m : WireMessage) :
    Decodes (decodeMessage env m.kind) m.encode (m.message env) := by
  cases m with
  | v1 m => exact (decodes_v1 env m).last (.pure _)
  | v2 m => exact (decodes_v2 env m).last (.pure _)
  | traced m => exact (decodes_traced env m).last (.pure _)
  | registration m => exact (decodes_registration m).last (.pure _)
  | metric m => exact (decodes_metric env m).last (.pure _)
  | spanBegin m => exact (decodes_spanBegin m).last (.pure _)
  | spanAttr m => exact (decodes_spanAttr m).last (.pure _)
  | spanEvent m => exact (decodes_spanPoint m).last (.pure _)
  | spanEnd m => exact (decodes_spanEnd m).last (.pure _)

theorem typeAt_encode (before after : List UInt8) (m : WireMessage) :
    typeAt (before ++ (m.encode ++ after)) before.length = some m.kind := by
  rw [typeAt, List.getElem?_append_right (Nat.le_refl _), Nat.sub_self]
  cases m <;> rfl

theorem parseStep_encode (before after : List UInt8) (m : WireMessage) (acc : ParseResult) :
    parseStep env (before ++ (m.encode ++ after)) ⟨acc, before.length⟩ =
      .next ⟨acc.push (m.message env), (before ++ m.encode).length⟩ := by
  rw [parseStep_eq, typeAt_encode]
  simp [decodeMessage_encode env m before after]

def MessageAt (env : Env) (data : List UInt8) (pos : Nat) (message : Message) : Prop :=
  ∃ kind next, typeAt data pos = some kind ∧ (decodeMessage env kind).run data pos = .ok message next

theorem messageAt_encode_iff (before after : List UInt8) (m : WireMessage) (message : Message) :
    MessageAt env (before ++ (m.encode ++ after)) before.length message ↔ message = m.message env := by
  have decoded := decodeMessage_encode env m before after
  constructor
  · rintro ⟨kind, next, type, ran⟩
    rw [typeAt_encode] at type
    cases type
    rw [decoded] at ran
    cases ran
    rfl
  · rintro rfl
    exact ⟨_, _, typeAt_encode before after m, decoded⟩

theorem reaches_encodeAll (messages : List WireMessage) (before after : List UInt8) (acc : ParseResult) :
    Reaches (parseStep env (before ++ (encodeAll messages ++ after))) ⟨acc, before.length⟩
      ⟨(messages.map (WireMessage.message env)).foldl ParseResult.push acc,
        (before ++ encodeAll messages).length⟩ := by
  induction messages generalizing before acc with
  | nil =>
    simp only [encodeAll, List.flatMap_nil, List.append_nil]
    exact .refl
  | cons m messages ih =>
    have first := parseStep_encode env before (encodeAll messages ++ after) m acc
    have rest := ih (before ++ m.encode) (acc.push (m.message env))
    simp only [encodeAll, List.flatMap_cons, List.append_assoc] at first rest ⊢
    exact rest.head first

end

theorem foldl_push_empty (messages : List Message) :
    messages.foldl ParseResult.push .empty = ParseResult.ofMessages messages := by
  induction messages using List.reverseRecOn with
  | nil => rfl
  | append_singleton messages m ih =>
    rw [List.foldl_append, ih, ParseResult.ofMessages_concat]
    rfl

theorem parseStep_end (past : data.length ≤ c.pos) : parseStep env data c = breakWith c.acc := by
  rw [parseStep_eq, typeAt, List.getElem?_eq_none past]
  rfl

/-- The loop over what a list of well-formed messages encodes to collects these messages. -/
theorem parses_encodeAll (env : Env) (messages : List WireMessage) :
    Parses env (encodeAll messages) .start (.ok (.ofMessages (messages.map (WireMessage.message env)))) := by
  have reached := reaches_encodeAll env messages [] [] .empty
  rw [List.append_nil, foldl_push_empty] at reached
  exact ⟨_, reached, parseStep_end (Nat.le_refl _)⟩

theorem opens_of_propertyCount_lt
    (few : propertyCount groups < maxContextVars) (before : List WireGroup) (g : WireGroup)
    (after : List WireGroup) (split : groups = before ++ g :: after) :
    propertyCount before < maxContextVars := by
  rw [split, propertyCount, List.map_append, List.sum_append] at few
  exact Nat.lt_of_le_of_lt (Nat.le_add_right _ _) few

def sampleLog : WireLog where
  level := .warn
  plcTime := ⟨133000000000000000, by decide⟩
  clockTime := ⟨700000000000000000, by decide⟩
  taskIndex := 1
  taskCycleCounter := 42
  text := ⟨"Axis \x7b0\x7d late", by decide +kernel⟩
  logger := ⟨"motion", by decide +kernel⟩
  arguments := [.unsigned (.usint 7)]
  groups := [⟨2, [⟨⟨"axis", by decide +kernel⟩, .bool true⟩], by decide⟩]
  arguments_le := by decide
  groups_le := by decide
  opens := opens_of_propertyCount_lt (by decide)

def sampleSpanEnd : WireSpanEnd where
  spanId := Bytes.zero 8
  taskIndex := 1
  flags := 0
  dcTime := 1
  status := 1
  reserved := 0
  text := ⟨"", by decide +kernel⟩

def sampleV2 : WireMessage := .v2 ⟨sampleLog, by decide +kernel⟩

end TcOtel.Ads
