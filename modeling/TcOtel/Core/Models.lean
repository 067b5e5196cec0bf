import Mathlib.Data.Finmap
import Mathlib.Tactic

/-!
# Shared data model

The enumerations of `tc-otel-core`, JSON values as `serde_json` holds them, and time
stamps. Floats are kept as their IEEE bit patterns: the pipeline never computes with
them, it only moves them and asks whether they are finite.
-/

namespace TcOtel

/-! ### Maps -/

/-- A `HashMap`. Two are equal when they hold the same pairs, in whatever order they
were inserted. -/
abbrev HashMap (κ ν : Type) := Finmap fun _ : κ => ν

def HashMap.len {κ ν : Type} (m : HashMap κ ν) : Nat := m.keys.card

variable {κ ν : Type}

@[simp] theorem HashMap.len_empty : HashMap.len (∅ : HashMap κ ν) = 0 := rfl

theorem HashMap.len_insert_le [DecidableEq κ] (m : HashMap κ ν) (k : κ) (v : ν) :
    HashMap.len (m.insert k v) ≤ m.len + 1 := by
  have included : (m.insert k v).keys ⊆ insert k m.keys := by
    intro other member
    simp only [Finmap.mem_keys, Finmap.mem_insert, Finset.mem_insert] at member ⊢
    exact member
  exact Nat.le_trans (Finset.card_le_card included) (Finset.card_insert_le k m.keys)

def HashMap.retain {κ ν : Type} (keep : κ → ν → Bool) (m : HashMap κ ν) : HashMap κ ν where
  entries := m.entries.filter fun entry => keep entry.1 entry.2
  nodupKeys := by
    have nodup := Multiset.nodup_keys.mpr m.nodupKeys
    exact Multiset.nodup_keys.mp (Multiset.nodup_of_le (Multiset.map_le_map (Multiset.filter_le _ _)) nodup)

theorem HashMap.lookup_of_retain [DecidableEq κ] {keep : κ → ν → Bool}
    (found : (HashMap.retain keep m).lookup k = some v) : m.lookup k = some v := by
  have member := Finmap.lookup_eq_some_iff.mp found
  exact Finmap.lookup_eq_some_iff.mpr (Multiset.mem_of_mem_filter member)

theorem HashMap.lookup_insert_eq [DecidableEq κ] (m : HashMap κ ν) (k other : κ) (v : ν) :
    (m.insert k v).lookup other = if other = k then some v else m.lookup other := by
  split
  next same => rw [same, Finmap.lookup_insert]
  next differs => rw [Finmap.lookup_insert_of_ne _ differs]

theorem HashMap.lookup_insert_cases [DecidableEq κ] {m : HashMap κ ν} (found : (m.insert k v).lookup other = some w) :
    other = k ∧ v = w ∨ m.lookup other = some w := by
  rw [lookup_insert_eq] at found
  split at found
  next same => exact .inl ⟨same, Option.some.inj found⟩
  next => exact .inr found

def HashMap.insertAll {κ ν : Type} [DecidableEq κ] (m : HashMap κ ν) (pairs : List (κ × ν)) : HashMap κ ν :=
  pairs.foldl (fun m pair => m.insert pair.1 pair.2) m

/-- The map that holds these pairs; of two values for one key the later one. -/
def HashMap.ofList {κ ν : Type} [DecidableEq κ] (pairs : List (κ × ν)) : HashMap κ ν :=
  HashMap.insertAll ∅ pairs

theorem HashMap.insertAll_append [DecidableEq κ] (m : HashMap κ ν) (xs ys : List (κ × ν)) :
    HashMap.insertAll m (xs ++ ys) = HashMap.insertAll (HashMap.insertAll m xs) ys :=
  List.foldl_append

theorem HashMap.mem_insertAll [DecidableEq κ] {m : HashMap κ ν}
    : k ∈ HashMap.insertAll m pairs ↔ k ∈ m ∨ ∃ pair ∈ pairs, pair.1 = k := by
  induction pairs generalizing m with
  | nil => simp [insertAll]
  | cons pair pairs ih =>
    have rest := ih (m := m.insert pair.1 pair.2)
    simp only [insertAll, List.foldl_cons] at rest ⊢
    rw [rest, Finmap.mem_insert]
    simp only [List.mem_cons, exists_eq_or_imp]
    tauto

theorem HashMap.len_insertAll_le [DecidableEq κ] (m : HashMap κ ν)
    (pairs : List (κ × ν)) : HashMap.len (HashMap.insertAll m pairs) ≤ m.len + pairs.length := by
  induction pairs generalizing m with
  | nil => exact Nat.le_refl _
  | cons pair pairs ih =>
    have first := HashMap.len_insert_le m pair.1 pair.2
    have rest := ih (m.insert pair.1 pair.2)
    simp only [insertAll, List.foldl_cons, List.length_cons] at rest ⊢
    omega

/-- The value that the last of the pairs with this key has. -/
def HashMap.lastValue {κ ν : Type} [DecidableEq κ] (k : κ) (pairs : List (κ × ν)) : Option ν :=
  ((pairs.filter fun pair => pair.1 = k).getLast?).map Prod.snd

theorem HashMap.lastValue_nil [DecidableEq κ] (k : κ) : HashMap.lastValue k ([] : List (κ × ν)) = none := rfl

theorem HashMap.lastValue_append [DecidableEq κ] (k : κ) (first second : List (κ × ν)) :
    HashMap.lastValue k (first ++ second) = (HashMap.lastValue k second).or (HashMap.lastValue k first) := by
  simp [lastValue, Option.map_or]

theorem HashMap.lastValue_cons [DecidableEq κ] (k key : κ) (value : ν) (rest : List (κ × ν)) :
    HashMap.lastValue k ((key, value) :: rest) = (HashMap.lastValue k rest).or (if k = key then some value else none) := by
  have single : HashMap.lastValue k [(key, value)] = if k = key then some value else none := by
    by_cases same : k = key
    · simp [lastValue, same]
    · simp [lastValue, same, Ne.symm same]
  rw [← single]
  exact lastValue_append k [(key, value)] rest

theorem HashMap.lookup_insertAll [DecidableEq κ] (m : HashMap κ ν) (k : κ) (pairs : List (κ × ν)) :
    (HashMap.insertAll m pairs).lookup k = (HashMap.lastValue k pairs).or (m.lookup k) := by
  induction pairs using List.reverseRecOn with
  | nil => rfl
  | append_singleton pairs pair ih =>
    rw [insertAll_append]
    change ((HashMap.insertAll m pairs).insert pair.1 pair.2).lookup k = _
    by_cases same : pair.1 = k
    · subst same
      simp [lastValue]
    · rw [Finmap.lookup_insert_of_ne _ (Ne.symm same), ih]
      simp [lastValue, same]

/-- The same keys with other values, `into_iter().map(..).collect()`. -/
def HashMap.mapValues {κ ν ω : Type} [DecidableEq κ] (f : ν → ω) (m : HashMap κ ν) : HashMap κ ω where
  entries := m.entries.map fun pair => ⟨pair.1, f pair.2⟩
  nodupKeys := by
    obtain ⟨entries, nodup⟩ := m
    induction entries using Quotient.inductionOn with
    | h pairs => exact List.NodupKeys.map₂ (fun _ => f) pairs nodup

theorem HashMap.lookup_mapValues {κ ν ω : Type} [DecidableEq κ] (f : ν → ω) (m : HashMap κ ν) (k : κ) :
    (m.mapValues f).lookup k = (m.lookup k).map f := by
  induction m using Finmap.induction_on with
  | H s =>
    have mapped : HashMap.mapValues f s.toFinmap =
        AList.toFinmap ⟨s.entries.map (Sigma.map id fun _ => f),
          List.NodupKeys.map₂ (fun _ => f) s.entries s.nodupKeys⟩ := rfl
    rw [mapped]
    exact List.dlookup_map₂ k

/-! ### Floats -/

structure F64 where
  bits : UInt64
deriving DecidableEq, Repr

structure F32 where
  bits : UInt32
deriving DecidableEq, Repr

def F64.isFinite (f : F64) : Bool := decide (f.bits.toNat / 2 ^ 52 % 2 ^ 11 ≠ 2 ^ 11 - 1)

def F32.isFinite (f : F32) : Bool := decide (f.bits.toNat / 2 ^ 23 % 2 ^ 8 ≠ 2 ^ 8 - 1)

/-- The exact widening `f32 as f64` of a finite value. A subnormal `f32` is normal as
an `f64`, so that its leading bit becomes the implicit one. -/
def F32.toF64 (f : F32) : F64 :=
  let sign := f.bits.toNat / 2 ^ 31
  let exponent := f.bits.toNat / 2 ^ 23 % 2 ^ 8
  let mantissa := f.bits.toNat % 2 ^ 23
  let magnitude :=
    if exponent = 0 then
      if mantissa = 0 then 0
      else
        let top := Nat.log2 mantissa
        (top + 874) * 2 ^ 52 + (mantissa - 2 ^ top) * 2 ^ (52 - top)
    else (exponent + 896) * 2 ^ 52 + mantissa * 2 ^ 29
  ⟨UInt64.ofNat (sign * 2 ^ 63 + magnitude)⟩

/-! ### JSON values -/

/-- The JSON values the decoders produce. An integer is one number whatever width it
came from; a float never equals an integer. -/
inductive Value where
  | null
  | bool (b : Bool)
  | int (i : Int)
  | float (f : F64)
  | string (s : String)
deriving DecidableEq, Repr

/-- `json!` of an `f64`: JSON has no number for what is not finite. -/
def Value.ofF64 (f : F64) : Value := if f.isFinite then .float f else .null

def Value.ofF32 (f : F32) : Value := if f.isFinite then .float f.toF64 else .null

/-! ### Time -/

/-- A `DateTime<Utc>`: seconds since 1970 and nanoseconds within the second. -/
structure DateTime where
  secs : Int
  nanos : Nat
deriving DecidableEq, Repr

/-- What is used of the `chrono` crate. It accepts every second within 262 000 years of
the common era, so at least those below. -/
structure Chrono where
  fromTimestamp : Int → Nat → Option DateTime
  formatDate : DateTime → String
  formatDateTime : DateTime → String
  fromTimestamp_inRange : ∀ secs nanos, -8200000000000 ≤ secs → secs ≤ 8200000000000 →
    nanos < 1000000000 → fromTimestamp secs nanos = some ⟨secs, nanos⟩

/-- A calendar without limits that prints bare seconds, to evaluate the model with. -/
def Chrono.unlimited : Chrono where
  fromTimestamp secs nanos := some ⟨secs, nanos⟩
  formatDate t := toString t.secs
  formatDateTime t := toString t.secs
  fromTimestamp_inRange _ _ _ _ _ := rfl

/-! ### Enumerations -/

inductive LogLevel where
  | trace | debug | info | warn | error | fatal
deriving DecidableEq, Repr

def LogLevel.fromU8 (val : UInt8) : Option LogLevel :=
  match val.toNat with
  | 0 => some .trace
  | 1 => some .debug
  | 2 => some .info
  | 3 => some .warn
  | 4 => some .error
  | 5 => some .fatal
  | _ => none

def LogLevel.asU8 : LogLevel → UInt8
  | .trace => 0
  | .debug => 1
  | .info => 2
  | .warn => 3
  | .error => 4
  | .fatal => 5

@[simp] theorem LogLevel.fromU8_asU8 (level : LogLevel) : LogLevel.fromU8 level.asU8 = some level := by
  cases level <;> rfl

inductive MetricKind where
  | gauge | sum | histogram
deriving DecidableEq, Repr

def MetricKind.fromU8 (val : UInt8) : Option MetricKind :=
  match val.toNat with
  | 0 => some .gauge
  | 1 => some .sum
  | 2 => some .histogram
  | _ => none

def MetricKind.asU8 : MetricKind → UInt8
  | .gauge => 0
  | .sum => 1
  | .histogram => 2

@[simp] theorem MetricKind.fromU8_asU8 (kind : MetricKind) : MetricKind.fromU8 kind.asU8 = some kind := by
  cases kind <;> rfl

inductive SpanKind where
  | internal | server | client | producer | consumer
deriving DecidableEq, Repr

def SpanKind.fromU8 (val : UInt8) : Option SpanKind :=
  match val.toNat with
  | 0 => some .internal
  | 1 => some .server
  | 2 => some .client
  | 3 => some .producer
  | 4 => some .consumer
  | _ => none

def SpanKind.asU8 : SpanKind → UInt8
  | .internal => 0
  | .server => 1
  | .client => 2
  | .producer => 3
  | .consumer => 4

def SpanKind.toOtelKind : SpanKind → Int32
  | .internal => 1
  | .server => 2
  | .client => 3
  | .producer => 4
  | .consumer => 5

theorem SpanKind.fromU8_eq_some_iff : SpanKind.fromU8 val = some kind ↔ kind.asU8 = val := by
  constructor
  · intro known
    unfold fromU8 at known
    split at known <;> cases known
    all_goals
      next number => exact UInt8.toNat_inj.mp number.symm
  · rintro rfl
    cases kind <;> rfl

inductive SpanStatusCode where
  | unset | ok | error
deriving DecidableEq, Repr

def SpanStatusCode.asI32 : SpanStatusCode → Int32
  | .unset => 0
  | .ok => 1
  | .error => 2

def SpanStatusCode.toOtelStatus : SpanStatusCode → Int32
  | .unset => 0
  | .ok => 1
  | .error => 2

/-! ### Resources -/

/-- `service.instance.id`, from as much of the identity as is known. -/
def buildServiceInstanceId (appName amsNetId : String) (appPort : UInt16) : Option String :=
  match !appName.isEmpty, !amsNetId.isEmpty, appPort != 0 with
  | true, true, true => some s!"{appName}@{amsNetId}:{appPort}"
  | true, true, false => some s!"{appName}@{amsNetId}"
  | true, false, _ => some appName
  | false, true, true => some s!"{amsNetId}:{appPort}"
  | false, true, false => some amsNetId
  | false, false, _ => none

def insertWhen (populated : Bool) (key : String) (value : Value) (resource : HashMap String Value) :
    HashMap String Value :=
  if populated then resource.insert key value else resource

/-- The resource attributes that logs, metrics and spans share. -/
def buildOtelResource (projectName appName hostname amsNetId : String)
    (appPort amsSourcePort : UInt16) : HashMap String Value :=
  let named := insertWhen (!projectName.isEmpty) "service.name" (.string projectName) ∅
  let identified :=
    match buildServiceInstanceId appName amsNetId appPort with
    | some instanceId => named.insert "service.instance.id" (.string instanceId)
    | none => named
  let hosted := insertWhen (!hostname.isEmpty) "host.name" (.string hostname) identified
  let located := insertWhen (!amsNetId.isEmpty) "plc.ams_net_id" (.string amsNetId) hosted
  let withPort := insertWhen (appPort > 0) "plc.ams_app_port" (.int appPort.toNat) located
  insertWhen (amsSourcePort > 0) "plc.ams_source_port" (.int amsSourcePort.toNat) withPort

/-! ### Records -/

structure TraceEventRecord where
  timestamp : DateTime
  name : String
  attributes : HashMap String Value
deriving DecidableEq

structure TraceRecord where
  traceId : String
  spanId : String
  parentSpanId : String
  name : String
  kind : Int32
  startTime : DateTime
  endTime : DateTime
  statusCode : Int32
  statusMessage : String
  resourceAttributes : HashMap String Value
  scopeName : String
  scopeAttributes : HashMap String Value
  spanAttributes : HashMap String Value
  events : List TraceEventRecord
deriving DecidableEq

end TcOtel
