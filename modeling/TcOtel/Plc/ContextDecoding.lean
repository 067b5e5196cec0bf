import TcOtel.Ads.Framing
import TcOtel.Ads.RoundTrip
import TcOtel.Plc.LogStatement

/-!
# What the service decodes of the context of a PLC

For each context property `FB_LogEntry.AddContext` writes the scope and the record of the
builder: the name behind its length, the type as an `INT`, the value. The decoder expects a
scope, a number of properties, and for each of them the name behind its length, the type in
one byte, the value. So it takes the length of the first name for a number of properties, and
the first character of that name for the length of a name.

The decoder reads all that stands before the context as it was written (`after_head`), and
an entry without properties is decoded as it should be. With an ordinary name the name that
is decoded reaches over the type of the property into its zero high byte, so that a key
appears that no property has (`hasNulKey_of_readProperty`).
-/

namespace TcOtel.Plc

open Decoding Decoder Looping Ads

/-! ### Values -/

namespace PlcValue

def json : PlcValue → Value
  | bool v => .bool v
  | byte v | usint v => .int v.toNat
  | word v | uint v => .int v.toNat
  | dword v | udint v => .int v.toNat
  | lword v | ulint v => .int v.toNat
  | sint v => .int v.toInt
  | int v => .int v.toInt
  | dint v => .int v.toInt
  | lint v => .int v.toInt
  | real v => .ofF32 v
  | lreal v => .ofF64 v
  | string v => .string (fromUtf8Lossy v.bytes)

end PlcValue

namespace AnyArg

def json (env : Env) : AnyArg → Value
  | basic v => v.json
  | wstring v => .string (String.ofList (utf16Lossy v.units))
  | time v => .string (formatTime v.toNat)
  | date v => .string (formatDate env v.toNat)
  | dateAndTime v => .string (formatDateAndTime env v.toNat)
  | timeOfDay v => .string (formatTimeOfDay v.toNat)
  | enum (.one v) => .int v.toNat
  | enum (.two v) => .int v.toNat
  | enum (.four v) => .int v.toNat
  | enum (.eight v) => .int v.toNat
  | enum .other => .null
  | ltime v => .string (formatLtime v)
  | unhandled => .null

/-- The service knows the type of the argument. It does not know `LWORD`, in which an
enumeration of 8 bytes is written, too. -/
def readable : AnyArg → Bool
  | basic (.lword _) | enum (.eight _) | unhandled => false
  | _ => true

end AnyArg

theorem decodes_prefixed (s : PlcString) : Decodes readString s.prefixed (fromUtf8Lossy s.bytes) := by
  apply (decodes_readU8 _).bind
  apply Decodes.silent (Decodes.failIf (byte_le_maxStringLength _))
  exact (decodes_readBytes (toNat_ofNat_le s.length_le).symm).last (Decodes.pure _)

theorem decodes_value (env : Env) (underlying : Read Int) (v : PlcValue) (known : v.type ≠ .lword) :
    Decodes (readTyped env underlying (ArgType.ofId v.type.code)) v.bytes v.json := by
  cases v with
  | bool v => cases v <;> exact (decodes_readU8 _).last (.pure _)
  | byte v | usint v => exact (decodes_readByte v).last (.pure _)
  | word v | uint v => exact (decodes_readU16 v).last (.pure _)
  | dword v | udint v => exact (decodes_readU32 v).last (.pure _)
  | lword v => exact absurd rfl known
  | ulint v => exact (decodes_readU64 v).last (.pure _)
  | sint v => exact (decodes_readByte v.toUInt8).last (.pure _)
  | int v => exact (decodes_readI16 v).last (.pure _)
  | dint v => exact (decodes_readI32 v).last (.pure _)
  | lint v => exact (decodes_readI64 v).last (.pure _)
  | real v => exact (decodes_readU32 v.bits).last (.pure _)
  | lreal v => exact (decodes_readF64 v).last (.pure _)
  | string v => exact (decodes_prefixed v).last (.pure _)

theorem decodes_typeId {id : Nat} (small : id < 256) : Decodes readTypeId8 [UInt8.ofNat id] id := by
  have byte : leBytes 1 id = [UInt8.ofNat id] := by
    rw [leBytes, leBytes, Nat.mod_eq_of_lt small]
  rw [← byte]
  exact decodes_readTypeId8 id small

theorem decodes_typed {env : Env} (arg : AnyArg) (type : ArgType.ofId (remapV2TypeId arg.codeV2) = t)
    (value : Decodes (readTyped env readTypeId8 t) arg.bytesV2 v) :
    Decodes (readV2Value env) arg.encodeV2 v := by
  apply (decodes_typeId arg.codeV2_lt).bind
  rw [readValueWithType, type]
  exact value

theorem decodes_enum {env : Env} (v : EnumValue)
    (value : Decodes (readEnum (ArgType.ofId v.code)) v.bytes j) :
    Decodes (readTyped env readTypeId8 .enum) (AnyArg.enum v).bytesV2 j :=
  (decodes_typeId v.code_lt).bind value

theorem decodes_wideString (env : Env) (underlying : Read Int) (s : PlcWString) :
    Decodes (readTyped env underlying .wstring) s.prefixed (.string (String.ofList (utf16Lossy s.units))) := by
  have count := toNat_ofNat_le s.length_le
  have size : (s.units.flatMap fun u => leBytes 2 u.toNat).length =
      (UInt8.ofNat s.units.length).toNat * 2 := by
    simp [count]
  apply (decodes_readU8 _).bind
  apply (decodes_readBytes size).last
  rw [utf16Units_flatMap]
  exact .pure _

theorem decodes_encodeV2 (env : Env) {arg : AnyArg} (readable : arg.readable = true) :
    Decodes (readV2Value env) arg.encodeV2 (arg.json env) := by
  cases arg with
  | basic v =>
    have known : v.type ≠ .lword := by
      cases v with
      | lword v => cases readable
      | _ => exact EArgType.noConfusion
    exact decodes_typed _ (by cases v <;> rfl) (decodes_value env readTypeId8 v known)
  | wstring v => exact decodes_typed _ rfl (decodes_wideString env readTypeId8 v)
  | time v | date v | dateAndTime v | timeOfDay v =>
    exact decodes_typed _ rfl ((decodes_readU32 v).last (.pure _))
  | ltime v => exact decodes_typed _ rfl ((decodes_readU64 v).last (.pure _))
  | enum v =>
    apply decodes_typed _ rfl
    cases v with
    | one v => exact decodes_enum (.one v) ((decodes_readByte v).last (.pure _))
    | two v => exact decodes_enum (.two v) ((decodes_readU16 v).last (.pure _))
    | four v => exact decodes_enum (.four v) ((decodes_readU32 v).last (.pure _))
    | eight v => cases readable
    | other => exact decodes_enum .other (.pure _)
  | unhandled => cases readable

/-! ### Times

A time is always read, as the current one if the clock of the PLC does not run. -/

theorem reads_readFiletime (env : Env) (t : Int64) :
    Reads (readFiletime env) (leBytes 8 t.toUInt64.toNat) fun _ => True := by
  have width : t.toUInt64.toNat < 2 ^ 64 := t.toUInt64.toNat_lt
  apply Reads.last (decodes_readLe (n := 8) width).reads
  rintro ticks rfl data pos
  rw [bind_ok (show position.run data pos = .ok pos pos from rfl)]
  split
  next early => exact ⟨_, trivial, rfl⟩
  next known =>
    dsimp only
    rw [env.chrono.fromTimestamp_inRange _ _ (by omega) (by omega) (by omega)]
    exact ⟨_, trivial, rfl⟩

theorem reads_readDcTaskTime (env : Env) (t : Int64) :
    Reads (readDcTaskTime env) (leBytes 8 t.toUInt64.toNat) fun _ => True := by
  have width : t.toInt < 2 ^ 63 := t.toInt_lt
  have since : unixToDcEpochSecs = 946684800 := rfl
  apply Reads.last (decodes_readI64 t).reads
  rintro ns rfl data pos
  rw [bind_ok (show position.run data pos = .ok pos pos from rfl)]
  split
  next stopped => exact ⟨_, trivial, rfl⟩
  next running =>
    rw [env.chrono.fromTimestamp_inRange _ _ (by omega) (by omega) (by omega)]
    exact ⟨_, trivial, rfl⟩

/-! ### Up to the context -/

def groupsOf (env : Env) (count : Nat) (entry : Context → AdsLogEntry) : Read AdsLogEntry := do
  let found ← iterate count (readGroup env) (0, ∅)
  pure (entry found.2)

def argumentsOf (env : Env) (args contexts : Nat) (entry : Arguments → Context → AdsLogEntry) :
    Read AdsLogEntry := do
  let found ← iterate args (readArgument env) (0, ∅)
  groupsOf env contexts (entry found.2)

def startOf (info : TaskInfo) (level : LogLevel) (args contexts : Nat) (message logger : PlcString) :
    List UInt8 :=
  let header := Writing.headerOf info level
  [[header.nLevel], leBytes 8 header.nTsPlc.toUInt64.toNat, leBytes 8 header.nTsClock.toUInt64.toNat,
    [header.nTaskIndex], leBytes 4 header.nCycleCount.toNat, [UInt8.ofNat args],
    [UInt8.ofNat contexts], message.prefixed, logger.prefixed].flatten

theorem after_start (env : Env) (traceId : Bytes 16) (spanId : Bytes 8) (info : TaskInfo)
    (level : LogLevel) (message logger : PlcString) (few : args ≤ 255) (small : contexts ≤ 255) :
    After (readLogBody env traceId spanId) (startOf info level args contexts message logger) fun q =>
      ∃ entry : Arguments → Context → AdsLogEntry,
        (∀ arguments context, (entry arguments context).arguments = arguments ∧
          (entry arguments context).context = context) ∧ q = argumentsOf env args contexts entry := by
  apply After.decoded (decodes_readU8 _)
  apply After.silent (.orFail (LogLevel.fromU8_asU8 level))
  apply After.field (reads_readFiletime env _)
  intro plcTimestamp _
  apply After.field (reads_readDcTaskTime env _)
  intro clockTimestamp _
  apply After.decoded (decodes_readU8 _)
  apply After.decoded (decodes_readU32 _)
  apply After.decoded (decodes_readU8 _)
  apply After.decoded (decodes_readU8 _)
  apply After.decoded (decodes_prefixed message)
  apply After.decoded (decodes_prefixed logger)
  rw [toNat_ofNat_le few, toNat_ofNat_le small]
  exact After.here ⟨fun arguments context => _, fun _ _ => ⟨rfl, rfl⟩, rfl⟩

/-- What stands before the context records. -/
def LogCall.head (call : LogCall) (info : TaskInfo) : List UInt8 :=
  let header := Writing.headerOf info call.level
  [[header.nLevel], leBytes 8 header.nTsPlc.toUInt64.toNat, leBytes 8 header.nTsClock.toUInt64.toNat,
    [header.nTaskIndex], leBytes 4 header.nCycleCount.toNat, [UInt8.ofNat call.arguments.length],
    [UInt8.ofNat call.properties.length], call.message.prefixed, call.logger.prefixed,
    call.arguments.flatMap AnyArg.encodeV2].flatten

theorem LogCall.head_eq (call : LogCall) (info : TaskInfo) :
    call.head info = startOf info call.level call.arguments.length call.properties.length call.message
      call.logger ++ call.arguments.flatMap AnyArg.encodeV2 := by
  simp [head, startOf]

theorem LogCall.body_eq (call : LogCall) (info : TaskInfo) :
    call.body info = call.head info ++ call.properties.flatMap contextRecord := by
  simp [body, head]

theorem after_head (env : Env) (call : LogCall) (info : TaskInfo)
    (readable : ∀ arg ∈ call.arguments, arg.readable = true) (few : call.arguments.length ≤ maxArguments)
    (small : call.properties.length ≤ 255) :
    After (readLogBody env (Bytes.zero 16) (Bytes.zero 8)) (call.head info) fun q =>
      ∃ entry : Context → AdsLogEntry, (∀ context, (entry context).context = context) ∧
        q = groupsOf env call.properties.length entry := by
  have arguments := decodes_readArguments call.arguments
    (fun arg member => decodes_encodeV2 env (readable arg member)) few
  rw [call.head_eq info]
  apply After.append (after_start env _ _ info call.level call.message call.logger
    (Nat.le_trans few (by decide)) small)
  rintro _ ⟨entry, fields, rfl⟩ before after
  exact ⟨_, ⟨entry _, fun context => (fields _ context).2, rfl⟩, bind_ok (arguments before after) _⟩

/-! ### A buffer with one entry -/

def entryOf (body : List UInt8) : List UInt8 := 2 :: (leBytes 2 body.length ++ body)

theorem frameEnd_entryOf (small : body.length < 65536) :
    frameEnd (entryOf body) 0 = (entryOf body).length := by
  have width : leNat (leBytes 2 body.length) = body.length := leNat_leBytes 2 _ small
  have field : ((entryOf body).drop 1).take 2 = leBytes 2 body.length := rfl
  rw [frameEnd, Nat.zero_add, field, width, UInt16.toNat_ofNat', Nat.mod_eq_of_lt small]
  simp [entryOf]
  omega

def parsedEntry : Outcome AdsError AdsLogEntry → Parsed
  | .ok entry _ => .ok (.ofMessages [.log entry])
  | .err e _ => .err e
  | .panic => .panic

theorem parseAll_entryOf (env : Env) (small : body.length < 65536) : parseAll env (entryOf body) =
      some (parsedEntry ((readLogBody env (Bytes.zero 16) (Bytes.zero 8)).run (entryOf body) 3)) := by
  have length : (entryOf body).length = body.length + 3 := by
    simp [entryOf]
    omega
  have size : (entryOf body).length ≤ maxMessageSize := by
    rw [length, maxMessageSize]
    omega
  have found : typeAt (entryOf body) 0 = some .v2 := rfl
  have step := parseStep_eq env (entryOf body) .start
  simp only [Cursor.start, found, decodeMessage_framed rfl found, Nat.zero_add,
    if_pos (show 3 ≤ (entryOf body).length by omega), frameEnd_entryOf small] at step
  rw [parseAll_eq_some_iff size]
  cases outcome : (readLogBody env (Bytes.zero 16) (Bytes.zero 8)).run (entryOf body) 3 with
  | ok entry stop =>
    simp only [bind_ok outcome, pure_run, atFrameEnd] at step
    apply (Ends.next_iff step).mpr
    exact Ends.of_halt (parseStep_end (Nat.le_refl _))
  | err e failedAt =>
    have absent : canSkip (entryOf body) 0 = false := by
      rw [canSkip, frameEnd_entryOf small, List.getElem?_eq_none (Nat.le_refl _)]
      simp
    simp only [bind_run, outcome, atFrameEnd, afterError_v2, absent] at step
    exact Ends.of_halt step
  | panic =>
    simp only [bind_run, outcome, atFrameEnd] at step
    exact Ends.of_halt step

/-! ### Keys with a zero character -/

/-- Some key of the context has a zero character, which no name of a property has. -/
def HasNulKey (context : Context) : Prop := ∃ key ∈ context, '\x00' ∈ key.toList

theorem HasNulKey.insert (has : HasNulKey context) (key : String) (value : Value) :
    HasNulKey (context.insert key value) := by
  obtain ⟨other, member, nul⟩ := has
  exact ⟨other, Finmap.mem_insert.mpr (.inr member), nul⟩

theorem nul_mem_contextKey (nul : '\x00' ∈ name.toList) : '\x00' ∈ (contextKey scope name).toList := by
  simp only [contextKey, String.toList_append, List.mem_append]
  exact .inr nul

section

variable {env : Env} {scope : UInt8} {found found' : Nat × Context} {data : List UInt8} {pos next : Nat}

theorem HasNulKey.readProperty (has : HasNulKey found.2)
    (ran : (readProperty env scope found).run data pos = .ok found' next) : HasNulKey found'.2 := by
  obtain ⟨name, mid, first, rest⟩ := bind_eq_ok ran
  obtain ⟨value, last, second, done⟩ := bind_eq_ok rest
  cases done
  exact has.insert _ _

theorem HasNulKey.readGroup (has : HasNulKey found.2)
    (ran : (readGroup env found).run data pos = .ok found' next) : HasNulKey found'.2 := by
  obtain ⟨-, mid, -, rest⟩ := bind_eq_ok ran
  obtain ⟨scope, mid, -, rest⟩ := bind_eq_ok rest
  obtain ⟨count, mid, -, rest⟩ := bind_eq_ok rest
  exact iterate_invariant (fun found => HasNulKey found.2) (fun has => has.readProperty) has rest

theorem drop_of_readU8 (ran : readU8.run data pos = .ok b next) : data.drop pos = b :: data.drop next := by
  have moved := readU8_ok ran
  obtain ⟨bytes, mid, first, -⟩ := bind_eq_ok ran
  have bounds := readBytes_ok first
  have inside : pos < data.length := by omega
  rw [readU8_run inside] at ran
  cases ran
  exact List.drop_eq_getElem_cons inside

theorem nul_of_readString
    (here : data.drop pos = len :: (tail ++ low :: 0 :: more)) (long : tail.length + 2 ≤ len.toNat)
    (ran : readString.run data pos = .ok name next) : '\x00' ∈ name.toList := by
  obtain ⟨b, mid, first, rest⟩ := bind_eq_ok ran
  obtain ⟨_, mid', checked, rest⟩ := bind_eq_ok rest
  obtain ⟨bytes, last, second, done⟩ := bind_eq_ok rest
  have stayed : mid' = mid := Spans.failIf _ _ data mid mid' () checked
  obtain ⟨rfl, behind⟩ := List.cons.inj ((drop_of_readU8 first).symm.trans here)
  cases done
  rw [nul_mem_fromUtf8Lossy, (readBytes_ok second).1, stayed, behind]
  -- the bytes that are taken go over the name, the low byte of the type and the high one
  rw [List.take_append, List.mem_append]
  obtain ⟨more', enough⟩ := Nat.exists_eq_add_of_le long
  have left : b.toNat - tail.length = more' + 2 := by omega
  simp [left]

theorem hasNulKey_of_readProperty
    (here : data.drop pos = len :: (tail ++ low :: 0 :: more)) (long : tail.length + 2 ≤ len.toNat)
    (ran : (readProperty env scope found).run data pos = .ok found' next) : HasNulKey found'.2 := by
  obtain ⟨name, mid, first, rest⟩ := bind_eq_ok ran
  obtain ⟨value, last, second, done⟩ := bind_eq_ok rest
  cases done
  exact ⟨_, Finmap.mem_insert.mpr (.inl rfl), nul_mem_contextKey (nul_of_readString here long first)⟩

/-- The first byte of the name is a larger number than the name has bytes. All names of up to
31 bytes that start with a printable character are such names, and all of up to 64 bytes that
start with a letter. -/
def PlcString.Ordinary (s : PlcString) : Prop := s.bytes.length < (s.bytes.headD 0).toNat
deriving Decidable

/-- The record of a property with an ordinary name: its length, then a byte that is taken for
the length of a name, then bytes of which one that it covers is zero. -/
theorem encode_ordinary {p : Property} (ordinary : p.name.Ordinary) :
    ∃ len low tail, p.encode = UInt8.ofNat p.name.bytes.length :: len :: (tail ++ low :: 0 :: p.value.bytes) ∧
      0 < p.name.bytes.length ∧ tail.length + 2 ≤ len.toNat := by
  have high : leBytes 2 p.value.type.code = [UInt8.ofNat (p.value.type.code % 256), 0] := by
    have small := p.value.type.code_lt
    rw [leBytes, leBytes, leBytes, Nat.div_eq_of_lt (by omega)]
    rfl
  simp only [Property.encode, PlcString.prefixed, high]
  rw [PlcString.Ordinary] at ordinary
  cases name : p.name.bytes with
  | nil =>
    rw [name] at ordinary
    cases ordinary
  | cons len tail =>
    rw [name, List.headD_cons, List.length_cons] at ordinary
    exact ⟨len, _, tail, rfl, Nat.succ_pos _, ordinary⟩

theorem hasNulKey_of_readGroup {p : Property} (ordinary : p.name.Ordinary)
    (here : data.drop pos = scope :: (p.encode ++ more))
    (ran : (readGroup env found).run data pos = .ok found' next) : HasNulKey found'.2 := by
  obtain ⟨len, low, tail, record, positive, long⟩ := encode_ordinary ordinary
  obtain ⟨_, mid, checked, rest⟩ := bind_eq_ok ran
  obtain ⟨scope', mid', first, rest⟩ := bind_eq_ok rest
  obtain ⟨count, mid'', second, rest⟩ := bind_eq_ok rest
  have stayed : mid = pos := Spans.failIf _ _ data pos mid () checked
  rw [record, ← stayed, drop_of_readU8 first, drop_of_readU8 second] at here
  simp only [List.cons_append, List.append_assoc, List.cons.injEq] at here
  obtain ⟨rfl, rfl, behind⟩ := here
  -- the length of the name is taken for a number of properties, of which there is at least one
  rw [toNat_ofNat_le p.name.length_le] at rest
  obtain ⟨count, positive⟩ := Nat.exists_eq_succ_of_ne_zero (Nat.pos_iff_ne_zero.mp positive)
  rw [positive] at rest
  obtain ⟨one, last, property, others⟩ := bind_eq_ok rest
  have has := hasNulKey_of_readProperty behind long property
  exact iterate_invariant (fun found => HasNulKey found.2) (fun has => has.readProperty) has others

/-- So an entry whose first property has an ordinary name gets such a key, if it is decoded. -/
theorem hasNulKey_of_groups {entry : Context → AdsLogEntry} {p : Property}
    (ordinary : p.name.Ordinary) (context : ∀ context, (entry context).context = context)
    (here : data.drop pos = scope :: (p.encode ++ more))
    (ran : (groupsOf env (count + 1) entry).run data pos = .ok decoded next) : HasNulKey decoded.context := by
  obtain ⟨found, last, groups, done⟩ := bind_eq_ok ran
  obtain ⟨one, mid, first, others⟩ := bind_eq_ok groups
  cases done
  rw [context]
  have has := hasNulKey_of_readGroup ordinary here first
  exact iterate_invariant (fun found => HasNulKey found.2) (fun has => has.readGroup) has others

end

/-! ### What is decoded of a log statement -/

/-- The properties of the call as the service should have them. -/
def LogCall.context (call : LogCall) : Context :=
  .ofList (call.properties.map fun p =>
    (contextKey p.1.code (fromUtf8Lossy p.2.name.bytes), p.2.value.json))

theorem not_hasNulKey_context (call : LogCall) : ¬HasNulKey call.context := by
  rintro ⟨key, member, nul⟩
  rw [LogCall.context, HashMap.ofList, HashMap.mem_insertAll] at member
  rcases member with absent | ⟨pair, member, rfl⟩
  · cases absent
  · obtain ⟨p, -, rfl⟩ := List.mem_map.mp member
    have clean : '\x00' ∉ (toString p.1.code).toList := by cases p.1 <;> decide +kernel
    simp only [contextKey, String.toList_append, List.mem_append] at nul
    rcases nul with ((nul | nul) | nul) | nul
    · exact absurd nul (by decide +kernel)
    · exact clean nul
    · exact absurd nul (by decide +kernel)
    · exact p.2.name.noNul ((nul_mem_fromUtf8Lossy _).mp nul)

/-- The entry that the statement adds to the log buffer is decoded to one with exactly the
properties of the call. -/
def DecodesContext (env : Env) (call : LogCall) (task : Task) (s : Logging) : Prop :=
  ∃ result entry,
    parseAll env ((call.perform task s).buffer.used.drop s.buffer.nBufferCount) = some (.ok result) ∧
      result.entries = [entry] ∧ entry.context = call.context

/-- What is decoded of an entry, by what its context records are decoded to. -/
theorem decoded_iff (env : Env) (call : LogCall) (info : TaskInfo)
    (readable : ∀ arg ∈ call.arguments, arg.readable = true) (few : call.arguments.length ≤ maxArguments)
    (limit : call.properties.length ≤ maxContextVars) (ordinary : ∀ p ∈ call.properties.head?, p.2.name.Ordinary) :
    (∃ result entry, parseAll env (call.encode info) = some (.ok result) ∧
      result.entries = [entry] ∧ entry.context = call.context) ↔ call.properties = [] := by
  have small := call.length_body_lt info few
  have parsed := parseAll_entryOf env small
  -- the decoder comes to the context records, behind the head
  obtain ⟨q, ⟨entry, context, rfl⟩, same⟩ := after_head env call info readable few
    (Nat.le_trans limit (by decide)) (2 :: leBytes 2 (call.body info).length)
    (call.properties.flatMap contextRecord)
  have whole : (2 :: leBytes 2 (call.body info).length) ++ (call.head info ++
      call.properties.flatMap contextRecord) = entryOf (call.body info) := by
    rw [← call.body_eq info]
    rfl
  have start : (2 :: leBytes 2 (call.body info).length).length = 3 := by
    rw [List.length_cons, length_leBytes]
  rw [whole, start] at same
  have records : (entryOf (call.body info)).drop (3 + (call.head info).length) =
      call.properties.flatMap contextRecord := by
    rw [← whole, ← start, ← List.length_append, ← List.append_assoc, List.drop_left]
  rw [show call.encode info = entryOf (call.body info) from rfl, parsed, same]
  cases properties : call.properties with
  | nil =>
    have none : (entry ∅).context = call.context := by
      rw [context, LogCall.context, properties]
      rfl
    exact iff_of_true ⟨_, entry ∅, rfl, rfl, none⟩ rfl
  | cons p rest =>
    apply iff_of_false _ (List.cons_ne_nil p rest)
    rintro ⟨result, decoded, ran, only, exactly⟩
    rw [properties] at records ordinary
    cases outcome : (groupsOf env (rest.length + 1) entry).run (entryOf (call.body info))
        (3 + (call.head info).length) with
    | ok one stop =>
      rw [List.length_cons, outcome] at ran
      cases ran
      cases only
      have has := hasNulKey_of_groups (ordinary p rfl) context records outcome
      rw [exactly] at has
      exact not_hasNulKey_context call has
    | _ =>
      rw [List.length_cons, outcome] at ran
      cases ran

/-- A statement that is not suppressed and finds room in the log buffer is decoded with its
properties if it has none. With any property it is not, if the first one has an ordinary name. -/
theorem decodesContext_iff (env : Env) (call : LogCall) (task : Task) (s : Logging)
    (active : isLogLevelActive task call.level = true)
    (fits : s.buffer.nBufferCount ≤ s.buffer.aBuffer.length)
    (room : (call.encode task.info).length ≤ s.buffer.bufferFree)
    (readable : ∀ arg ∈ call.arguments, arg.readable = true)
    (few : call.arguments.length ≤ maxArguments) (limit : call.properties.length ≤ maxContextVars)
    (ordinary : ∀ p ∈ call.properties.head?, p.2.name.Ordinary) :
    DecodesContext env call task s ↔ call.properties = [] := by
  rw [DecodesContext, call.perform_added task s active fits room]
  exact decoded_iff env call task.info readable few limit ordinary

def sampleTask : Task where
  info := ⟨1, 42, 133000000000000000, 700000000000000000, 0⟩
  bConnected := true
  eMaxLogLevel := 3
  taskContext := none
  scopedContext := []

/-- An error, in a task whose context has the one property `x`, an `INT`. -/
def oneProperty : LogCall where
  message := ⟨[108, 97, 116, 101], by decide, by decide⟩
  logger := sGlobalLogger
  level := .error
  arguments := [.basic (.usint 7)]
  taskContext := [⟨⟨[120], by decide, by decide⟩, .int 5⟩]
  scopedContexts := []
  logContext := []
  handled := by decide
  scoped_le := by decide
  task_fits := by decide
  scoped_fits := by decide
  log_fits := by decide

theorem decodesContext_iff_oneProperty :
    DecodesContext .atEpoch oneProperty sampleTask (.initial 1024) ↔ oneProperty.properties = [] :=
  decodesContext_iff .atEpoch oneProperty sampleTask (.initial 1024) (by decide) (Nat.zero_le _)
    (by decide +kernel) (by decide) (by decide) (by decide) (by decide)

/-- The service takes `x` for the length of a name and finds the entry incomplete. -/
theorem oneProperty_not_decodesContext : isLogLevelActive sampleTask oneProperty.level = true ∧
      (oneProperty.encode sampleTask.info).length ≤ (Logging.initial 1024).buffer.bufferFree ∧
      oneProperty.properties.length ≤ maxContextVars ∧
      ¬DecodesContext .atEpoch oneProperty sampleTask (.initial 1024) := by
  have failed : parseAll .atEpoch (oneProperty.encode sampleTask.info) =
      some (.err (.incompleteMessage 120 4)) := by
    decide +kernel
  have added := oneProperty.perform_added sampleTask (.initial 1024) (by decide) (Nat.zero_le _)
    (by decide +kernel)
  have unread : ¬DecodesContext .atEpoch oneProperty sampleTask (.initial 1024) := by
    rintro ⟨result, entry, parsed, -⟩
    rw [added, failed] at parsed
    cases parsed
  exact ⟨by decide, by decide +kernel, by decide, unread⟩

end TcOtel.Plc
