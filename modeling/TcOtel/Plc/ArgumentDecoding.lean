import TcOtel.Lib.Quantity
import TcOtel.Plc.ContextDecoding

/-!
# What the service decodes of the arguments of a PLC

`AddAnyArg` writes an argument of a v2 entry as the decoder expects it, and counts it.
`AddTArg` writes the layout of v1 and counts nothing, so that the decoder reads fewer arguments
than were given. Of the arguments that `AddAnyArg` writes the decoder does not know the type
`LWORD`, and it takes an `LTIME` for a number of 100 ns where the PLC counts nanoseconds.

The decoder reads the arguments in order and never changes one that it has read
(`lookup_of_iterate`). So the first argument that is not kept stays wrong, whatever the decoder
makes of the bytes behind it.
-/

namespace TcOtel.Plc

open Decoding Decoder Ads Quantities

/-! ### Durations -/

/-- The text of an `LTIME`, which the PLC counts in nanoseconds. -/
def ltimeText (totalNs : Nat) : String :=
  let d := totalNs / 86400000000000
  let h := totalNs % 86400000000000 / 3600000000000
  let m := totalNs % 3600000000000 / 60000000000
  let s := totalNs % 60000000000 / 1000000000
  let ms := totalNs % 1000000000 / 1000000
  let us := totalNs % 1000000 / 1000
  let ns := totalNs % 1000
  let parts := "LTIME#" ++ durationPart d "d" ++ durationPart h "h" ++ durationPart m "m" ++
    durationPart s "s" ++ durationPart ms "ms" ++ durationPart us "us" ++ durationPart ns "ns"
  if parts = "LTIME#" then parts ++ "0s" else parts

theorem formatLtime_eq (v : UInt64) : formatLtime v = ltimeText (v * 100).toNat := rfl

def ltimeParts (totalNs : Nat) : List Nat :=
  [totalNs / 86400000000000, totalNs % 86400000000000 / 3600000000000,
    totalNs % 3600000000000 / 60000000000, totalNs % 60000000000 / 1000000000,
    totalNs % 1000000000 / 1000000, totalNs % 1000000 / 1000, totalNs % 1000]

def ltimeUnits : List (List Char) := [['d'], ['h'], ['m'], ['s'], ['m', 's'], ['u', 's'], ['n', 's']]

theorem isUnit_of_mem_ltimeUnits (member : u ∈ ltimeUnits) : IsUnit u := by
  have each : ∀ u ∈ ltimeUnits, u ≠ [] ∧ ∀ c ∈ u, c.isDigit = false := by simp [ltimeUnits]
  exact ⟨(each u member).1, (each u member).2⟩

theorem toList_durationPart (n : Nat) (unit : String) :
    (durationPart n unit).toList = if 0 < n then text (n, unit.toList) else [] := by
  rw [durationPart]
  split
  · rw [String.toList_append, Nat.toString_eq_repr, Nat.toList_repr]
    rfl
  · rfl

def ltimeQuantities (totalNs : Nat) : List (Nat × List Char) :=
  if positive (ltimeParts totalNs) ltimeUnits = [] then [(0, ['s'])]
  else positive (ltimeParts totalNs) ltimeUnits

/-- The length of a unit in nanoseconds. -/
def unitNs (unit : List Char) : Nat :=
  if unit = ['d'] then 86400000000000
  else if unit = ['h'] then 3600000000000
  else if unit = ['m'] then 60000000000
  else if unit = ['s'] then 1000000000
  else if unit = ['m', 's'] then 1000000
  else if unit = ['u', 's'] then 1000
  else 1

theorem total_ltimeQuantities (totalNs : Nat) : total unitNs (ltimeQuantities totalNs) = totalNs := by
  obtain ⟨day, hour, minute, second, milli, micro, nano⟩ : unitNs ['d'] = 86400000000000 ∧
      unitNs ['h'] = 3600000000000 ∧ unitNs ['m'] = 60000000000 ∧ unitNs ['s'] = 1000000000 ∧
      unitNs ['m', 's'] = 1000000 ∧ unitNs ['u', 's'] = 1000 ∧ unitNs ['n', 's'] = 1 := by decide
  have none : total unitNs [] = 0 := rfl
  have parts : total unitNs (positive (ltimeParts totalNs) ltimeUnits) = totalNs := by
    rw [total_positive, ltimeParts, ltimeUnits]
    simp only [List.zip_cons_cons, List.zip_nil_left, total_cons, day, hour, minute, second, milli, micro, nano]
    omega
  rw [ltimeQuantities]
  split
  next empty =>
    rw [empty, none] at parts
    rw [total_cons, none, Nat.zero_mul]
    exact parts
  next => exact parts

theorem positive_ltimeParts (nonzero : totalNs ≠ 0) :
    positive (ltimeParts totalNs) ltimeUnits = ltimeQuantities totalNs := by
  have whole := total_ltimeQuantities totalNs
  rw [ltimeQuantities] at whole ⊢
  split at whole
  · rw [total_cons, Nat.zero_mul] at whole
    exact absurd whole.symm nonzero
  next some => rw [if_neg some]

theorem toList_durationParts (label : String) (nonzero : totalNs ≠ 0) :
    (label ++ durationPart (totalNs / 86400000000000) "d" ++
      durationPart (totalNs % 86400000000000 / 3600000000000) "h" ++
      durationPart (totalNs % 3600000000000 / 60000000000) "m" ++
      durationPart (totalNs % 60000000000 / 1000000000) "s" ++
      durationPart (totalNs % 1000000000 / 1000000) "ms" ++
      durationPart (totalNs % 1000000 / 1000) "us" ++ durationPart (totalNs % 1000) "ns").toList =
      label.toList ++ (ltimeQuantities totalNs).flatMap text := by
  rw [← positive_ltimeParts nonzero]
  simp only [String.toList_append, toList_durationPart, flatMap_positive, List.append_assoc]
  rw [List.flatMap_def, ltimeParts, ltimeUnits]
  simp only [List.zip_cons_cons, List.zip_nil_left, List.map_cons, List.map_nil, List.flatten_cons,
    List.flatten_nil, List.append_nil]
  rfl

theorem ltimeQuantities_zero : ltimeQuantities 0 = [(0, ['s'])] := by decide

theorem toList_ltimeText (totalNs : Nat) :
    (ltimeText totalNs).toList = "LTIME#".toList ++ (ltimeQuantities totalNs).flatMap text := by
  unfold ltimeText
  by_cases nonzero : totalNs = 0
  · subst nonzero
    simp [durationPart, ltimeQuantities_zero, text]
  · have parts := toList_durationParts "LTIME#" nonzero
    dsimp only
    split
    next empty =>
      -- no quantities add up to zero
      rw [empty, List.self_eq_append_right, flatMap_text_eq_nil_iff] at parts
      have whole := total_ltimeQuantities totalNs
      rw [parts] at whole
      exact absurd whole.symm nonzero
    next => exact parts

theorem toList_formatTime (totalMs : Nat) :
    (formatTime totalMs).toList = "T#".toList ++ (ltimeQuantities (totalMs * 1000000)).flatMap text := by
  by_cases nonzero : totalMs = 0
  · subst nonzero
    simp [formatTime, durationPart, ltimeQuantities_zero, text]
  · have scaled : ∀ a b, totalMs * 1000000 % (a * 1000000) / (b * 1000000) = totalMs % a / b := by
      intro a b
      rw [Nat.mul_mod_mul_right, Nat.mul_div_mul_right _ _ (by decide)]
    have fraction : totalMs * 1000000 % 1000000 / 1000 = 0 ∧ totalMs * 1000000 % 1000 = 0 := by omega
    have days : totalMs * 1000000 / 86400000000000 = totalMs / 86400000 := by omega
    -- the seconds are written for zero only, or if there are some
    have seconds : (totalMs % 60000 / 1000 > 0 ∨ (totalMs / 86400000 = 0 ∧ totalMs % 86400000 / 3600000 = 0 ∧
        totalMs % 3600000 / 60000 = 0 ∧ totalMs % 1000 = 0)) ↔ totalMs % 60000 / 1000 > 0 := by omega
    rw [← toList_durationParts "T#" (by omega), days, scaled 86400000 3600000, scaled 3600000 60000, scaled 60000 1000,
      scaled 1000 1, Nat.div_one, fraction.1, fraction.2]
    simp only [formatTime, seconds, durationPart, gt_iff_lt, Nat.lt_irrefl, if_false, String.append_empty]

/-- The text consists of a label and of quantities which add up to so many nanoseconds. -/
def AddsUpTo (label durationText : String) (ns : Nat) : Prop :=
  ∃ qs : List (Nat × List Char), (∀ q ∈ qs, q.2 ∈ ltimeUnits) ∧
    durationText.toList = label.toList ++ qs.flatMap text ∧ total unitNs qs = ns

theorem addsUpTo_quantities (written : durationText.toList = label.toList ++ (ltimeQuantities ns).flatMap text) :
    AddsUpTo label durationText ns := by
  refine ⟨ltimeQuantities ns, fun q member => ?_, written, total_ltimeQuantities ns⟩
  rw [ltimeQuantities] at member
  split at member
  · rw [List.mem_singleton.mp member]
    decide
  · exact (unit_of_mem_positive member).2

theorem AddsUpTo.unique (one : AddsUpTo label durationText a) (two : AddsUpTo label durationText b) : a = b := by
  obtain ⟨qs, units, written, rfl⟩ := one
  obtain ⟨qs', units', written', rfl⟩ := two
  rw [quantities_injective (fun q member => isUnit_of_mem_ltimeUnits (units q member))
    (fun q member => isUnit_of_mem_ltimeUnits (units' q member)) (List.append_cancel_left (written.symm.trans written'))]

theorem ltimeText_injective (same : ltimeText a = ltimeText b) : a = b := by
  have adds := addsUpTo_quantities (toList_ltimeText a)
  rw [same] at adds
  exact adds.unique (addsUpTo_quantities (toList_ltimeText b))

theorem eq_zero_of_hundredfold (coprime : m.Coprime 99) (small : n < m) (same : n * 100 % m = n) : n = 0 := by
  have congruent : n ≡ n * 100 [MOD m] := by
    rw [Nat.ModEq, same, Nat.mod_eq_of_lt small]
  have divides := (Nat.modEq_iff_dvd' (Nat.le_mul_of_pos_right n (by decide))).mp congruent
  rw [show n * 100 - n = n * 99 by omega] at divides
  exact Nat.eq_zero_of_dvd_of_lt (coprime.dvd_of_dvd_mul_right divides) small

/-- An `LTIME` is a hundred times as long for the service, so that only zero is kept. -/
theorem formatLtime_eq_ltimeText_iff (v : UInt64) : formatLtime v = ltimeText v.toNat ↔ v = 0 := by
  constructor
  · intro same
    have scaled := ltimeText_injective ((formatLtime_eq v).symm.trans same)
    apply UInt64.toNat_inj.mp
    exact eq_zero_of_hundredfold (by norm_num) v.toNat_lt ((UInt64.toNat_mul v 100).symm.trans scaled)
  · rintro rfl
    rfl

/-! ### Durations as the readers write them -/

/-- The raw value of a `TIME`, which counts milliseconds, or of an `LTIME`, which for the readers counts 100 ns. -/
inductive RawDuration where
  | time (ms : UInt32)
  | ltime (ns100 : UInt64)

namespace RawDuration

def typeId : RawDuration → Nat
  | time _ => 20000
  | ltime _ => 20001

def encode : RawDuration → List UInt8
  | time ms => leBytes 4 ms.toNat
  | ltime ns100 => leBytes 8 ns100.toNat

def label : RawDuration → String
  | time _ => "T#"
  | ltime _ => "LTIME#"

def ns : RawDuration → Nat
  | time ms => ms.toNat * 1000000
  | ltime ns100 => ns100.toNat * 100

def written : RawDuration → String
  | time ms => formatTime ms.toNat
  | ltime ns100 => formatLtime ns100

/-- Both value readers produce one text, and its parts add up to the duration. -/
def ReadExactly (raw : RawDuration) : Prop :=
  ∀ env, ∃ durationText, Decodes (readValue env) (leBytes 2 raw.typeId ++ raw.encode) (.string durationText) ∧
    Decodes (readValueWithType env raw.typeId) raw.encode (.string durationText) ∧
    AddsUpTo raw.label durationText raw.ns

theorem addsUpTo_written (raw : RawDuration) : AddsUpTo raw.label raw.written (raw.ns % 2 ^ 64) := by
  cases raw with
  | time ms =>
    have small := ms.toNat_lt
    rw [Nat.mod_eq_of_lt (by simp only [ns]; omega)]
    exact addsUpTo_quantities (toList_formatTime ms.toNat)
  | ltime ns100 =>
    have wrapped : (ns100 * 100).toNat = (ltime ns100).ns % 2 ^ 64 := UInt64.toNat_mul ns100 100
    rw [← wrapped]
    exact addsUpTo_quantities (toList_ltimeText _)

theorem decodes_written (env : Env) (underlying : Read Int) (raw : RawDuration) :
    Decodes (readTyped env underlying (ArgType.ofId raw.typeId)) raw.encode (.string raw.written) := by
  cases raw with
  | time ms => exact (decodes_readU32 ms).last (Decodes.pure _)
  | ltime ns100 => exact (decodes_readU64 ns100).last (Decodes.pure _)

theorem ReadExactly.mod_eq {raw : RawDuration} (exactly : raw.ReadExactly) : raw.ns % 2 ^ 64 = raw.ns := by
  obtain ⟨durationText, -, typed, adds⟩ := exactly .atEpoch
  have same := (typed [] []).symm.trans (decodes_written .atEpoch readTypeId8 raw [] [])
  cases same
  exact raw.addsUpTo_written.unique adds

/-- The text is exact as long as the nanoseconds fit into a `u64`, which they always do for a `TIME`. -/
theorem readExactly_iff (raw : RawDuration) : raw.ReadExactly ↔ raw.ns < 2 ^ 64 := by
  constructor
  · intro exactly
    rw [← exactly.mod_eq]
    exact Nat.mod_lt _ (by decide)
  · intro small env
    have adds := raw.addsUpTo_written
    rw [Nat.mod_eq_of_lt small] at adds
    have typeIds : raw.typeId < 32768 := by cases raw <;> simp [typeId]
    exact ⟨raw.written, (decodes_readTypeId16 _ typeIds).bind (raw.decodes_written env _), raw.decodes_written env _, adds⟩

/-- The first `LTIME` that is too long is read as 84 ns. -/
theorem not_readExactly_long : ¬(ltime 184467440737095517).ReadExactly := by
  intro exactly
  exact absurd exactly.mod_eq (by decide)

end RawDuration

/-! ### Values that are kept -/

/-- The value that is given to the entry, where JSON has one for it. It has no number for a
float that is not finite. -/
def AnyArg.given (env : Env) : AnyArg → Option Value
  | basic (.real v) => if v.isFinite then some (.float v.toF64) else none
  | basic (.lreal v) => if v.isFinite then some (.float v) else none
  | ltime v => some (.string (ltimeText v.toNat))
  | enum .other | unhandled => none
  | arg => some (arg.json env)

def Argument.given (env : Env) : Argument → Option Value
  | any arg => arg.given env
  | tArg (.value v) => (AnyArg.basic v).given env
  | tArg (.other _) => none

/-- The arguments whose value the service decodes. -/
def AnyArg.Kept : AnyArg → Prop
  | basic (.lword _) | enum (.eight _) | enum .other | unhandled => False
  | basic (.real v) => v.isFinite = true
  | basic (.lreal v) => v.isFinite = true
  | ltime v => v = 0
  | _ => True

def Argument.Kept : Argument → Prop
  | any arg => arg.Kept
  | tArg _ => False

theorem AnyArg.Kept.readable {arg : AnyArg} (kept : arg.Kept) : arg.readable = true := by
  cases arg with
  | basic v =>
    cases v with
    | lword v => exact kept.elim
    | _ => rfl
  | enum v =>
    cases v with
    | eight v => exact kept.elim
    | _ => rfl
  | unhandled => exact kept.elim
  | _ => rfl

section

variable (env : Env) {arg : AnyArg}

/-- The JSON value that the service makes of an argument it knows is the one that was given
just for those that are kept. -/
theorem AnyArg.given_json_iff (readable : arg.readable = true) :
    arg.given env = some (arg.json env) ↔ arg.Kept := by
  cases arg with
  | basic v =>
    cases v with
    | lword v => cases readable
    | real v =>
      change (if v.isFinite then some _ else none) = some (Value.ofF32 v) ↔ v.isFinite = true
      cases finite : v.isFinite <;> simp [Value.ofF32, finite]
    | lreal v =>
      change (if v.isFinite then some _ else none) = some (Value.ofF64 v) ↔ v.isFinite = true
      cases finite : v.isFinite <;> simp [Value.ofF64, finite]
    | _ => exact iff_of_true rfl trivial
  | enum v =>
    cases v with
    | eight v => cases readable
    | other => exact iff_of_false nofun not_false
    | _ => exact iff_of_true rfl trivial
  | ltime v =>
    change some (Value.string (ltimeText v.toNat)) = some (.string (formatLtime v)) ↔ v = 0
    rw [Option.some.injEq, Value.string.injEq, eq_comm, formatLtime_eq_ltimeText_iff]
  | unhandled => cases readable
  | _ => exact iff_of_true rfl trivial

theorem AnyArg.Kept.decodes (kept : arg.Kept) : Decodes (readV2Value env) arg.encodeV2 (arg.json env) :=
  decodes_encodeV2 env kept.readable

/-- Of an argument whose type it does not know the service reads the type, and makes null of it. -/
theorem AnyArg.decodes_unreadable (handled : arg ≠ .unhandled) (unknown : arg.readable = false) :
    ∃ bytes rest, arg.encodeV2 = bytes ++ rest ∧ Decodes (readV2Value env) bytes .null ∧
      arg.given env ≠ some .null := by
  cases arg with
  | basic v =>
    cases v with
    | lword v =>
      refine ⟨[19], leBytes 8 v.toNat, rfl, ?_, nofun⟩
      exact (decodes_typeId (show 19 < 256 by decide)).last (Decodes.pure _)
    | _ => cases unknown
  | enum v =>
    cases v with
    | eight v =>
      refine ⟨[105, 19], leBytes 8 v.toNat, rfl, ?_, nofun⟩
      have inner : Decodes (readTyped env readTypeId8 .enum) [19] .null :=
        (decodes_typeId (show 19 < 256 by decide)).last (Decodes.pure _)
      exact (decodes_typeId (show 105 < 256 by decide)).bind inner
    | _ => cases unknown
  | unhandled => exact absurd rfl handled
  | _ => cases unknown

/-- Whatever follows it, an argument that is not kept is read as another value. -/
theorem AnyArg.kept_of_read (handled : arg ≠ .unhandled) 
    (ran : (readV2Value env).run (before ++ (arg.encodeV2 ++ after)) before.length = .ok v next)
    (same : arg.given env = some v) : arg.Kept := by
  cases readable : arg.readable with
  | true =>
    rw [decodes_encodeV2 env readable before after] at ran
    cases ran
    exact (given_json_iff env readable).mp same
  | false =>
    obtain ⟨bytes, rest, split, null, other⟩ := decodes_unreadable env handled readable
    rw [split, List.append_assoc, null before (rest ++ after)] at ran
    cases ran
    exact absurd same other

end

/-! ### The loop over the arguments -/

variable {found found' : Nat × Arguments}

theorem readArgument_ok (ran : (readArgument env found).run data pos = .ok found' next) :
    ∃ v, (readV2Value env).run data pos = .ok v next ∧
      found' = (found.1 + 1, found.2.insert (found.1 + 1) v) := by
  obtain ⟨_, mid, checked, rest⟩ := bind_eq_ok ran
  obtain ⟨v, last, read, done⟩ := bind_eq_ok rest
  have stayed : mid = pos := Spans.failIf _ _ data pos mid () checked
  cases done
  exact ⟨v, stayed ▸ read, rfl⟩

theorem lookup_of_iterate (ran : (iterate n (readArgument env) found).run data pos = .ok found' next)
    (outside : k ≤ found.1 ∨ found.1 + n < k) : found'.2.lookup k = found.2.lookup k := by
  induction n generalizing found pos with
  | zero =>
    cases ran
    rfl
  | succ n ih =>
    obtain ⟨one, mid, first, rest⟩ := bind_eq_ok ran
    obtain ⟨v, -, rfl⟩ := readArgument_ok first
    have later : k ≤ found.1 + 1 ∨ found.1 + 1 + n < k := by omega
    rw [ih rest later, Finmap.lookup_insert_of_ne _ (by omega)]

/-- Arguments that are found as they were given are all kept. The induction carries that the
decoder stands at the next argument, which it does as long as the ones before it are kept. -/
theorem kept_of_iterate {env : Env} {args : List AnyArg} (handled : ∀ arg ∈ args, arg ≠ .unhandled) 
    (ran : (iterate args.length (readArgument env) found).run
      (before ++ (args.flatMap AnyArg.encodeV2 ++ after)) before.length = .ok found' next)
    (given : ∀ k arg, args[k]? = some arg →
      ∃ v, arg.given env = some v ∧ found'.2.lookup (found.1 + k + 1) = some v) :
    ∀ arg ∈ args, arg.Kept := by
  induction args generalizing found before with
  | nil => exact fun arg member => absurd member List.not_mem_nil
  | cons arg args ih =>
    obtain ⟨here, handled⟩ := List.forall_mem_cons.mp handled
    obtain ⟨one, mid, first, rest⟩ := bind_eq_ok ran
    obtain ⟨v, read, rfl⟩ := readArgument_ok first
    rw [List.flatMap_cons, List.append_assoc] at read
    -- the later rounds leave the first value as it was read
    have kept : arg.Kept := by
      obtain ⟨w, same, lookup⟩ := given 0 arg rfl
      rw [lookup_of_iterate rest (.inl (Nat.le_refl _)), Finmap.lookup_insert] at lookup
      cases lookup
      exact AnyArg.kept_of_read env here read same
    have reached : mid = (before ++ arg.encodeV2).length := by
      rw [kept.decodes env before _] at read
      rw [List.length_append]
      exact (Outcome.ok.inj read).2.symm
    have others : ∀ arg ∈ args, arg.Kept := by
      rw [reached, List.flatMap_cons, List.append_assoc, ← List.append_assoc before] at rest
      apply ih handled rest
      intro k other here
      have shown := given (k + 1) other here
      rwa [show found.1 + (k + 1) + 1 = found.1 + 1 + k + 1 by omega] at shown
    exact List.forall_mem_cons.mpr ⟨kept, others⟩

theorem Argument.all_any_or (arguments : List Argument) :
    (∃ args : List AnyArg, arguments = args.map Argument.any ∧ (arguments.map counted).sum = args.length) ∨
      (arguments.map counted).sum < arguments.length ∧ ∃ arg ∈ arguments, ¬arg.Kept := by
  induction arguments with
  | nil => exact .inl ⟨[], rfl, rfl⟩
  | cons arg arguments ih =>
    have step : ((arg :: arguments).map counted).sum = arg.counted + (arguments.map counted).sum :=
      List.sum_cons
    have below : (arguments.map counted).sum ≤ arguments.length := by
      rcases ih with ⟨args, rfl, count⟩ | ⟨less, -⟩
      · rw [count, List.length_map]
      · exact Nat.le_of_lt less
    rw [step, List.length_cons]
    cases arg with
    | any arg =>
      rcases ih with ⟨args, rfl, count⟩ | ⟨less, other, member, lost⟩
      · exact .inl ⟨arg :: args, rfl, by rw [count, counted, List.length_cons, Nat.add_comm]⟩
      · refine .inr ⟨?_, other, List.mem_cons_of_mem _ member, lost⟩
        rw [counted]
        omega
    | tArg arg =>
      refine .inr ⟨?_, .tArg arg, List.mem_cons_self, id⟩
      rw [counted]
      omega

/-! ### What is decoded of a log statement -/

/-- The decoder accepts the context records in place of the groups that it expects. -/
def ContextRead (env : Env) (properties : List (EScope × Property)) : Prop :=
  ∃ found next, (iterate properties.length (readGroup env) (0, ∅)).run
    (properties.flatMap contextRecord) 0 = .ok found next

/-- The entry that the statement adds to the log buffer is decoded to one whose arguments are
the values that were given, in the order of the calls. -/
def DecodesArguments (env : Env) (st : LogStatement) (task : Task) (s : Logging) : Prop :=
  ∃ result entry,
    parseAll env ((st.perform task s).buffer.used.drop s.buffer.nBufferCount) = some (.ok result) ∧
      result.entries = [entry] ∧
      ∀ k arg, st.arguments[k]? = some arg →
        ∃ v, arg.given env = some v ∧ entry.arguments.lookup (k + 1) = some v

namespace LogStatement

theorem length_properties_le (st : LogStatement) : st.properties.length ≤ 120 := by
  have task := st.task_fits.few
  have log := st.fits_logContext.few
  have scopes : (st.scopedContexts.flatMap fun props => props.map (EScope.eScoped, ·)).length ≤
      st.scopedContexts.length * 20 := by
    rw [List.length_flatMap]
    have total := List.sum_le_card_nsmul
      (st.scopedContexts.map fun props => (props.map (EScope.eScoped, ·)).length) 20 (by
        intro n member
        obtain ⟨props, inside, rfl⟩ := List.mem_map.mp member
        rw [List.length_map]
        exact (st.scoped_fits props inside).few)
    simpa using total
  have nested : st.scopedContexts.length ≤ 4 := st.scoped_le
  simp only [properties, List.length_append, List.length_map]
  simp only [List.length_flatMap] at scopes ⊢
  omega

theorem body_eq (st : LogStatement) (info : TaskInfo) :
    st.body info = startOf info st.level (st.arguments.map Argument.counted).sum st.properties.length
      st.message st.effectiveLogger ++
        (st.arguments.flatMap Argument.encode ++ st.properties.flatMap contextRecord) := by
  simp [body, startOf]

end LogStatement

section

variable {env : Env} {args contexts : Nat} {entry : Arguments → Context → AdsLogEntry}
  {data : List UInt8} {pos mid next : Nat}

theorem argumentsOf_ok (ran : (argumentsOf env args contexts entry).run data pos = .ok e next) :
    ∃ found mid groups, (iterate args (readArgument env) (0, ∅)).run data pos = .ok found mid ∧
      (iterate contexts (readGroup env) (0, ∅)).run data mid = .ok groups next ∧
        e = entry found.2 groups.2 := by
  obtain ⟨found, mid, first, rest⟩ := bind_eq_ok ran
  obtain ⟨groups, last, second, done⟩ := bind_eq_ok rest
  cases done
  exact ⟨found, mid, groups, first, second, rfl⟩

theorem argumentsOf_run (first : (iterate args (readArgument env) (0, ∅)).run data pos = .ok found mid)
    (second : (iterate contexts (readGroup env) (0, ∅)).run data mid = .ok groups next) :
    (argumentsOf env args contexts entry).run data pos = .ok (entry found.2 groups.2) next := by
  rw [argumentsOf, bind_ok first, groupsOf, bind_ok second, pure_run]

end

theorem lookup_numbered (values : List Value) (here : values[k]? = some v) :
    (HashMap.ofList (values.mapIdx fun i v => (i + 1, v))).lookup (k + 1) = some v := by
  induction values using List.reverseRecOn with
  | nil => cases here
  | append_singleton values w ih =>
    rw [List.mapIdx_concat, HashMap.ofList, HashMap.insertAll_append]
    change (Finmap.insert (values.length + 1) w (HashMap.ofList _)).lookup (k + 1) = some v
    rcases Nat.lt_trichotomy k values.length with less | rfl | more
    · rw [Finmap.lookup_insert_of_ne _ (by omega)]
      rw [List.getElem?_append_left less] at here
      exact ih here
    · rw [List.getElem?_concat_length] at here
      rw [Finmap.lookup_insert, here]
    · rw [List.getElem?_eq_none (by rw [List.length_append, List.length_singleton]; omega)] at here
      cases here

/-- What is decoded of an entry is what the decoder of the arguments and the groups makes of
what stands behind the start. -/
theorem LogStatement.parseAll_encode (env : Env) (st : LogStatement) (info : TaskInfo)
    (few : st.arguments.length ≤ maxArguments) :
    ∃ (front : List UInt8) (entry : Arguments → Context → AdsLogEntry),
      (∀ arguments context, (entry arguments context).arguments = arguments ∧
        (entry arguments context).context = context) ∧ parseAll env (st.encode info) = some (parsedEntry
        ((argumentsOf env (st.arguments.map Argument.counted).sum st.properties.length entry).run
          (front ++ (st.arguments.flatMap Argument.encode ++ st.properties.flatMap contextRecord))
          front.length)) := by
  have counted : (st.arguments.map Argument.counted).sum ≤ 255 := by
    rcases Argument.all_any_or st.arguments with ⟨args, all, count⟩ | ⟨less, -⟩
    · rw [all, List.length_map] at few
      rw [count]
      exact Nat.le_trans few (by decide)
    · exact Nat.le_trans (Nat.le_of_lt less) (Nat.le_trans few (by decide))
  obtain ⟨q, ⟨entry, fields, rfl⟩, same⟩ := after_start env (Bytes.zero 16) (Bytes.zero 8) info st.level
    st.message st.effectiveLogger counted (Nat.le_trans st.length_properties_le (by decide))
    (2 :: leBytes 2 (st.body info).length)
    (st.arguments.flatMap Argument.encode ++ st.properties.flatMap contextRecord)
  have whole : (2 :: leBytes 2 (st.body info).length) ++ st.body info = entryOf (st.body info) := rfl
  have start : (2 :: leBytes 2 (st.body info).length).length = 3 := by
    rw [List.length_cons, length_leBytes]
  refine ⟨(2 :: leBytes 2 (st.body info).length) ++ startOf info st.level
    (st.arguments.map Argument.counted).sum st.properties.length st.message st.effectiveLogger,
    entry, fields, ?_⟩
  rw [List.append_assoc, List.length_append, ← same, ← st.body_eq info, whole, start]
  exact parseAll_entryOf env (st.length_body_lt info few)

theorem parsedEntry_ok (ran : some (parsedEntry outcome) = some (.ok result))
    (only : result.entries = [entry]) : ∃ next, outcome = .ok entry next := by
  cases outcome with
  | ok one next =>
    cases ran
    cases only
    exact ⟨next, rfl⟩
  | err e next | panic => cases ran

theorem decodedArguments_iff (env : Env) (st : LogStatement) (info : TaskInfo)
    (few : st.arguments.length ≤ maxArguments) :
    (∃ result entry, parseAll env (st.encode info) = some (.ok result) ∧ result.entries = [entry] ∧
      ∀ k arg, st.arguments[k]? = some arg →
        ∃ v, arg.given env = some v ∧ entry.arguments.lookup (k + 1) = some v) ↔
      (∀ arg ∈ st.arguments, arg.Kept) ∧ ContextRead env st.properties := by
  obtain ⟨front, entry, fields, parsed⟩ := st.parseAll_encode env info few
  rw [parsed]
  rcases Argument.all_any_or st.arguments with ⟨args, all, count⟩ | ⟨less, lost, member, notKept⟩
  · have handled : ∀ arg ∈ args, arg ≠ .unhandled := by
      rintro arg member rfl
      have isArgument : Argument.any .unhandled ∈ st.arguments := by
        rw [all]
        exact List.mem_map_of_mem member
      cases LogStatement.isHandled_of_mem isArgument
    have bytes : (args.map Argument.any).flatMap Argument.encode = args.flatMap AnyArg.encodeV2 := by
      rw [List.flatMap_map]
      rfl
    rw [all, List.length_map] at few
    rw [count, all, bytes, List.forall_mem_map]
    have records : (∃ groups next, (iterate st.properties.length (readGroup env) (0, ∅)).run
          (front ++ (args.flatMap AnyArg.encodeV2 ++ st.properties.flatMap contextRecord))
          (front.length + (args.flatMap AnyArg.encodeV2).length) = .ok groups next) ↔
        ContextRead env st.properties := by
      rw [← List.append_assoc, ← List.length_append]
      exact Relative.ok_iff _ _ _
    constructor
    · rintro ⟨result, decoded, ran, only, given⟩
      obtain ⟨next, outcome⟩ := parsedEntry_ok ran only
      obtain ⟨found, mid, groups, first, second, rfl⟩ := argumentsOf_ok outcome
      rw [(fields _ _).1] at given
      have kept : ∀ arg ∈ args, arg.Kept := by
        apply kept_of_iterate handled first
        intro k arg here
        rw [Nat.zero_add]
        exact given k (.any arg) (by rw [List.getElem?_map, here]; rfl)
      have arguments := decodes_readArguments args (fun arg member => (kept arg member).decodes env) few
        front (st.properties.flatMap contextRecord)
      rw [first] at arguments
      cases arguments
      exact ⟨kept, records.mp ⟨groups, next, second⟩⟩
    · rintro ⟨kept, context⟩
      have arguments := decodes_readArguments args (fun arg member => (kept arg member).decodes env) few
        front (st.properties.flatMap contextRecord)
      obtain ⟨groups, next, second⟩ := records.mpr context
      rw [argumentsOf_run arguments second]
      refine ⟨_, _, rfl, rfl, ?_⟩
      intro k arg here
      rw [List.getElem?_map, Option.map_eq_some_iff] at here
      obtain ⟨one, here, rfl⟩ := here
      have known : one.Kept := kept one (List.mem_of_getElem? here)
      refine ⟨one.json env, (AnyArg.given_json_iff env known.readable).mpr known, ?_⟩
      rw [(fields _ _).1]
      exact lookup_numbered _ (by rw [List.getElem?_map, here]; rfl)
  · apply iff_of_false
    · rintro ⟨result, decoded, ran, only, given⟩
      obtain ⟨next, outcome⟩ := parsedEntry_ok ran only
      obtain ⟨found, mid, groups, first, second, rfl⟩ := argumentsOf_ok outcome
      -- the last argument has a number that the loop does not come to
      have inside : st.arguments.length - 1 < st.arguments.length := by omega
      obtain ⟨v, -, lookup⟩ := given _ _ (List.getElem?_eq_getElem inside)
      rw [(fields _ _).1, lookup_of_iterate first (.inr (by omega))] at lookup
      cases lookup
    · exact fun holds => notKept (holds.1 lost member)

/-- A statement with at most 32 arguments that is not suppressed and finds room in the log
buffer is decoded with its arguments just when they are all kept and the decoder accepts the
context records. -/
theorem decodesArguments_iff (env : Env) (st : LogStatement) (task : Task) (s : Logging)
    (active : isLogLevelActive task st.level = true) (fits : s.buffer.nBufferCount ≤ s.buffer.aBuffer.length)
    (room : (st.encode task.info).length ≤ s.buffer.bufferFree) (few : st.arguments.length ≤ maxArguments) :
    DecodesArguments env st task s ↔ (∀ arg ∈ st.arguments, arg.Kept) ∧ ContextRead env st.properties := by
  rw [DecodesArguments, st.perform_added task s active fits room]
  exact decodedArguments_iff env st task.info few

/-- An error with an `INT` that is given once as an `ANY` and once as a `T_Arg`. -/
def mixedArguments : LogStatement where
  message := oneProperty.message
  logger := sGlobalLogger
  level := .error
  calls := [.withAnyArg (some (.basic (.int 5))), .withTArg (some (.value (.int 5)))]
  taskContext := []
  scopedContexts := []
  handled := by simp +contextual
  scoped_le := oneProperty.scoped_le
  task_fits := oneProperty.log_fits
  scoped_fits := oneProperty.scoped_fits
  log_fits := by simp

theorem decodesArguments_iff_mixed : DecodesArguments .atEpoch mixedArguments sampleTask (.initial 1024) ↔
      (∀ arg ∈ mixedArguments.arguments, arg.Kept) ∧ ContextRead .atEpoch mixedArguments.properties :=
  decodesArguments_iff .atEpoch mixedArguments sampleTask (.initial 1024) (by decide) (Nat.zero_le _)
    (by decide +kernel) (by decide)

def secondArguments : Parsed → List (Option Value)
  | .ok result => result.entries.map (·.arguments.lookup 2)
  | _ => []

/-- The entry is decoded, with one argument of the two. -/
theorem mixedArguments_not_decodesArguments : isLogLevelActive sampleTask mixedArguments.level = true ∧
      (mixedArguments.encode sampleTask.info).length ≤ (Logging.initial 1024).buffer.bufferFree ∧
      mixedArguments.arguments.length = 2 ∧
      ¬DecodesArguments .atEpoch mixedArguments sampleTask (.initial 1024) := by
  have added := mixedArguments.perform_added sampleTask (.initial 1024) (by decide) (Nat.zero_le _)
    (by decide +kernel)
  have lost : ¬DecodesArguments .atEpoch mixedArguments sampleTask (.initial 1024) := by
    rintro ⟨result, entry, parsed, only, given⟩
    have one : (parseAll .atEpoch (mixedArguments.encode sampleTask.info)).map secondArguments = some [none] := by
      decide +kernel
    obtain ⟨v, -, lookup⟩ := given 1 (.tArg (.value (.int 5))) rfl
    rw [added] at parsed
    rw [parsed] at one
    simp [secondArguments, only, lookup] at one
  exact ⟨by decide, by decide +kernel, by decide, lost⟩

end TcOtel.Plc
