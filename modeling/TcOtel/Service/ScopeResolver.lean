import TcOtel.Ads.Ams
import TcOtel.Lib.Pool

/-!
# The scope resolver

`scope_resolver.rs`: which name a namespace of a PLC stands for. The answer is in the symbol table of a
runtime. What was found there is cached by NetID and namespace, and the table itself by NetID. The port
of the runtime is part of neither key, so that a call for one runtime may be answered from the table of
another (`resolved_iff`).

Calls run concurrently, and the network answers at any time; every lock is held within one action. A
table remembers from which port it was read and when that began. No step reads that.
-/

namespace TcOtel.Service

open Ads Pools

/-! ### Values -/

structure ScopeTable where
  symbols : HashMap String String
  port : UInt16
  began : Nat
deriving DecidableEq

inductive ScopeValue where
  | resolved (typeName instancePath : String)
  | raw (s : String)
deriving DecidableEq

structure ScopeOutcome where
  scopeName : String
  instancePath : Option String
deriving DecidableEq

def ScopeValue.intoOutcome : ScopeValue → ScopeOutcome
  | .resolved typeName instancePath => ⟨typeName, some instancePath⟩
  | .raw s => ⟨s, none⟩

def lookupInTable (symbols : HashMap String String) (ns : String) : Option (String × String) :=
  (symbols.lookup ns).map fun typeName => (typeName, ns)

/-- What `resolve` makes of the answer of the lookup. -/
def ScopeValue.ofLookup (ns : String) : Option (String × String) → ScopeValue
  | some (typeName, instancePath) => .resolved typeName instancePath
  | none => .raw ns

structure CachedScope where
  value : ScopeValue
  table : ScopeTable
deriving DecidableEq

/-! ### Calls -/

/-- What the calls share: the cache and the counts of `ScopeResolver`, and the tables of its
`AdsScopeLookup`. The clock counts actions. -/
structure ScopeResolver where
  cache : HashMap (String × String) CachedScope
  occSeen : HashMap String UInt32
  tables : HashMap String ScopeTable
  clock : Nat

inductive ScopeRequest where
  | resolve (netId ns : String) (port : UInt16)
  | observeOcc (netId : String) (occ : UInt32)

/-- How far a call of `resolve` has come. -/
inductive ResolveStage where
  | started
  | missed
  | downloading (began : Nat)
  | downloaded (table : ScopeTable)
  | found (table : ScopeTable)
  | resolved (outcome : ScopeOutcome) (source : Option ScopeTable)
deriving DecidableEq

/-- How far a call of `observe_occ` has come, and whether it has found another count. -/
inductive ObserveStage where
  | started
  | comparing (since : Nat)
  | invalidating (since : Nat)
  | observed (since : Nat) (changed : Bool)
deriving DecidableEq

inductive ScopeCall where
  | resolve (netId ns : String) (port : UInt16) (stage : ResolveStage)
  | observeOcc (netId : String) (occ : UInt32) (stage : ObserveStage)
deriving DecidableEq

def ScopeCall.new : ScopeRequest → ScopeCall
  | .resolve netId ns port => .resolve netId ns port .started
  | .observeOcc netId occ => .observeOcc netId occ .started

def ScopeCall.request : ScopeCall → ScopeRequest
  | .resolve netId ns port _ => .resolve netId ns port
  | .observeOcc netId occ _ => .observeOcc netId occ

/-- How a download ends. -/
inductive Transfer where
  | succeeds | fails
deriving DecidableEq

/-- The symbols that a download gets from a runtime if it begins at this time of the clock. -/
abbrev Runtimes := Nat → String → UInt16 → HashMap String String

namespace ScopeResolver

def new : ScopeResolver := ⟨∅, ∅, ∅, 0⟩

variable (runtimes : Runtimes)

/-- The next action of `resolve`. -/
def resolve (r : ScopeResolver) (netId ns : String) (port : UInt16) (transfer : Transfer) :
    ResolveStage → Option (ScopeResolver × ResolveStage)
  | .started =>
    if ns = "" then some (r, .resolved ⟨"", none⟩ none)
    else
      match r.cache.lookup (netId, ns) with
      | some cached => some (r, .resolved cached.value.intoOutcome (some cached.table))
      | none => some (r, .missed)
  | .missed =>
    -- `table_for` of the lookup
    match r.tables.lookup netId with
    | some table => some (r, .found table)
    | none =>
      match AmsNetId.fromStrRef netId with
      | .error _ => some (r, .resolved ⟨ns, none⟩ none)
      | .ok _ => some (r, .downloading r.clock)
  | .downloading began =>
    match transfer with
    | .succeeds => some (r, .downloaded ⟨runtimes began netId port, port, began⟩)
    | .fails => some (r, .resolved ⟨ns, none⟩ none)
  | .downloaded table =>
    match r.tables.lookup netId with
    | some stored => some (r, .found stored)
    | none => some ({ r with tables := r.tables.insert netId table }, .found table)
  | .found table =>
    let value := ScopeValue.ofLookup ns (lookupInTable table.symbols ns)
    some ({ r with cache := r.cache.insert (netId, ns) ⟨value, table⟩ }, .resolved value.intoOutcome (some table))
  | .resolved _ _ => none

/-- The next action of `observe_occ`. -/
def observeOcc (r : ScopeResolver) (netId : String) (occ : UInt32) : ObserveStage → Option (ScopeResolver × ObserveStage)
  | .started =>
    if r.occSeen.lookup netId = some occ then some (r, .observed r.clock false) else some (r, .comparing r.clock)
  | .comparing since =>
    -- both locks are held
    match r.occSeen.lookup netId with
    | some prev =>
      if prev = occ then some (r, .observed since false)
      else
        some ({ r with
          cache := HashMap.retain (fun key _ => key.1 ≠ netId) r.cache
          occSeen := r.occSeen.insert netId occ }, .invalidating since)
    | none => some ({ r with occSeen := r.occSeen.insert netId occ }, .observed since false)
  | .invalidating since => some ({ r with tables := r.tables.erase netId }, .observed since true)
  | .observed _ _ => none

def tick (r : ScopeResolver) : ScopeResolver := { r with clock := r.clock + 1 }

def act (r : ScopeResolver) (transfer : Transfer) : ScopeCall → Option (ScopeResolver × ScopeCall)
  | .resolve netId ns port stage =>
    (r.resolve runtimes netId ns port transfer stage).map fun next => (next.1.tick, .resolve netId ns port next.2)
  | .observeOcc netId occ stage =>
    (r.observeOcc netId occ stage).map fun next => (next.1.tick, .observeOcc netId occ next.2)

def system : System ScopeResolver ScopeCall ScopeRequest Transfer Empty where
  fresh := ScopeCall.new
  act _ r call transfer := r.act runtimes transfer call
  ambient r _ := r

def start : Pool ScopeResolver ScopeCall := ⟨new, []⟩

end ScopeResolver

/-! ### One action -/

/-- All that an action of `resolve` can do. -/
inductive ResolveStep (runtimes : Runtimes) (r : ScopeResolver) (netId ns : String) (port : UInt16) :
    ResolveStage → ScopeResolver → ResolveStage → Prop where
  | empty (noName : ns = "") : ResolveStep runtimes r netId ns port .started r (.resolved ⟨"", none⟩ none)
  | hit (named : ns ≠ "") (cached : CachedScope) (found : r.cache.lookup (netId, ns) = some cached) :
    ResolveStep runtimes r netId ns port .started r (.resolved cached.value.intoOutcome (some cached.table))
  | miss (named : ns ≠ "") : ResolveStep runtimes r netId ns port .started r .missed
  | known (table : ScopeTable) (found : r.tables.lookup netId = some table) :
    ResolveStep runtimes r netId ns port .missed r (.found table)
  | invalid : ResolveStep runtimes r netId ns port .missed r (.resolved ⟨ns, none⟩ none)
  | begin : ResolveStep runtimes r netId ns port .missed r (.downloading r.clock)
  | fail (began : Nat) : ResolveStep runtimes r netId ns port (.downloading began) r (.resolved ⟨ns, none⟩ none)
  | deliver (began : Nat) : ResolveStep runtimes r netId ns port (.downloading began) r
    (.downloaded ⟨runtimes began netId port, port, began⟩)
  | late (table stored : ScopeTable) (found : r.tables.lookup netId = some stored) :
    ResolveStep runtimes r netId ns port (.downloaded table) r (.found stored)
  | store (table : ScopeTable) :
    ResolveStep runtimes r netId ns port (.downloaded table) { r with tables := r.tables.insert netId table } (.found table)
  | write (table : ScopeTable) (value : ScopeValue) (looked : value = .ofLookup ns (lookupInTable table.symbols ns)) :
    ResolveStep runtimes r netId ns port (.found table)
      { r with cache := r.cache.insert (netId, ns) ⟨value, table⟩ } (.resolved value.intoOutcome (some table))

/-- All that an action of `observe_occ` can do. -/
inductive ObserveStep (r : ScopeResolver) (netId : String) (occ : UInt32) :
    ObserveStage → ScopeResolver → ObserveStage → Prop where
  | same (stage : ObserveStage) (since : Nat) (before : stage = .started ∧ since = r.clock ∨ stage = .comparing since) :
    ObserveStep r netId occ stage r (.observed since false)
  | differs : ObserveStep r netId occ .started r (.comparing r.clock)
  | first (since : Nat) :
    ObserveStep r netId occ (.comparing since) { r with occSeen := r.occSeen.insert netId occ } (.observed since false)
  | changed (since : Nat) :
    ObserveStep r netId occ (.comparing since)
      { r with
        cache := HashMap.retain (fun key _ => key.1 ≠ netId) r.cache
        occSeen := r.occSeen.insert netId occ } (.invalidating since)
  | remove (since : Nat) :
    ObserveStep r netId occ (.invalidating since) { r with tables := r.tables.erase netId } (.observed since true)

namespace ScopeResolver

variable {runtimes : Runtimes} {r r' : ScopeResolver}

theorem resolve_cases (acted : r.resolve runtimes netId ns port transfer stage = some (r', stage')) :
    ResolveStep runtimes r netId ns port stage r' stage' := by
  cases stage with
  | started =>
    rw [resolve] at acted
    split at acted
    next noName =>
      cases acted
      exact .empty noName
    next named =>
      cases found : r.cache.lookup (netId, ns) with
      | some cached =>
        rw [found] at acted
        cases acted
        exact .hit named cached found
      | none =>
        rw [found] at acted
        cases acted
        exact .miss named
  | missed =>
    rw [resolve] at acted
    cases found : r.tables.lookup netId with
    | some table =>
      rw [found] at acted
      cases acted
      exact .known table found
    | none =>
      rw [found] at acted
      dsimp only at acted
      split at acted
      · cases acted
        exact .invalid
      · cases acted
        exact .begin
  | downloading began =>
    cases transfer with
    | succeeds =>
      cases acted
      exact .deliver began
    | fails =>
      cases acted
      exact .fail began
  | downloaded table =>
    rw [resolve] at acted
    cases found : r.tables.lookup netId with
    | some stored =>
      rw [found] at acted
      cases acted
      exact .late table stored found
    | none =>
      rw [found] at acted
      cases acted
      exact .store table
  | found table =>
    cases acted
    exact .write table _ rfl
  | resolved => cases acted

theorem observeOcc_cases
    (acted : r.observeOcc netId occ stage = some (r', stage')) : ObserveStep r netId occ stage r' stage' := by
  cases stage with
  | started =>
    rw [observeOcc] at acted
    split at acted
    · cases acted
      exact .same _ _ (.inl ⟨rfl, rfl⟩)
    · cases acted
      exact .differs
  | comparing since =>
    rw [observeOcc] at acted
    split at acted
    · split at acted
      · cases acted
        exact .same _ since (.inr rfl)
      · cases acted
        exact .changed since
    · cases acted
      exact .first since
  | invalidating since =>
    cases acted
    exact .remove since
  | observed => cases acted

inductive CallStep (runtimes : Runtimes) (r : ScopeResolver) : ScopeCall → ScopeResolver → ScopeCall → Prop
  | resolve (step : ResolveStep runtimes r netId ns port stage next stage') :
      CallStep runtimes r (.resolve netId ns port stage) next.tick (.resolve netId ns port stage')
  | observeOcc (step : ObserveStep r netId occ stage next stage') :
      CallStep runtimes r (.observeOcc netId occ stage) next.tick (.observeOcc netId occ stage')

section

variable {call call' : ScopeCall} {transfer : Transfer} (acted : r.act runtimes transfer call = some (r', call'))
include acted

theorem act_cases : CallStep runtimes r call r' call' := by
  cases call with
  | resolve netId ns port stage =>
    obtain ⟨⟨next, stage'⟩, stepped, same⟩ := Option.map_eq_some_iff.mp acted
    cases same
    exact .resolve (resolve_cases stepped)
  | observeOcc netId occ stage =>
    obtain ⟨⟨next, stage'⟩, stepped, same⟩ := Option.map_eq_some_iff.mp acted
    cases same
    exact .observeOcc (observeOcc_cases stepped)

theorem clock_act : r.clock ≤ r'.clock := by
  cases act_cases acted with
  | resolve step | observeOcc step => cases step <;> exact Nat.le_succ _

theorem request_act : call'.request = call.request := by
  cases act_cases acted <;> rfl

end

end ScopeResolver

/-! ### Where a value comes from -/

section Sources

variable {runtimes : Runtimes} {good : String → ScopeTable → Prop}

/-- The table that a call is about to bring in is good for its NetID. -/
def ScopeCall.Carries (runtimes : Runtimes) (good : String → ScopeTable → Prop) : ScopeCall → Prop
  | .resolve netId _ port (.downloading began) => good netId ⟨runtimes began netId port, port, began⟩
  | .resolve netId _ _ (.downloaded table) | .resolve netId _ _ (.found table) => good netId table
  | _ => True

/-- What the call has returned was taken from a good table. -/
def ScopeCall.Returns (good : String → ScopeTable → Prop) : ScopeCall → Prop
  | .resolve netId _ _ (.resolved _ (some table)) => good netId table
  | _ => True

namespace ScopeResolver

/-- All tables that are kept, and all that the cache was filled from, are good. -/
structure Holds (good : String → ScopeTable → Prop) (r : ScopeResolver) : Prop where
  tables : ∀ netId table, r.tables.lookup netId = some table → good netId table
  cache : ∀ netId ns cached, r.cache.lookup (netId, ns) = some cached → good netId cached.table

section

variable {r : ScopeResolver} (holds : r.Holds good)
include holds

theorem Holds.insertTable
    (isGood : good netId table) : Holds good { r with tables := r.tables.insert netId table } := by
  refine ⟨?_, holds.cache⟩
  intro other stored found
  rcases HashMap.lookup_insert_cases found with ⟨rfl, rfl⟩ | older
  · exact isGood
  · exact holds.tables other stored older

theorem Holds.insertCache (ns : String)
    (isGood : good netId cached.table) : Holds good { r with cache := r.cache.insert (netId, ns) cached } := by
  refine ⟨holds.tables, ?_⟩
  intro otherId otherNs stored found
  rcases HashMap.lookup_insert_cases found with ⟨⟨rfl, rfl⟩, rfl⟩ | older
  · exact isGood
  · exact holds.cache otherId otherNs stored older

theorem Holds.eraseTable (netId : String) : Holds good { r with tables := r.tables.erase netId } := by
  refine ⟨?_, holds.cache⟩
  intro other table found
  by_cases same : other = netId
  · rw [same, Finmap.lookup_erase] at found
    cases found
  · rw [Finmap.lookup_erase_ne same] at found
    exact holds.tables other table found

end

/-- An action hands tables on, or begins a download now. -/
theorem resolveStep_holds (step : ResolveStep runtimes r netId ns port stage r' stage') (holds : r.Holds good)
    (carries : (ScopeCall.resolve netId ns port stage).Carries runtimes good)
    (begins : good netId ⟨runtimes r.clock netId port, port, r.clock⟩) :
    r'.Holds good ∧ (ScopeCall.resolve netId ns port stage').Carries runtimes good ∧
      (ScopeCall.resolve netId ns port stage').Returns good := by
  cases step with
  | empty | miss | invalid | fail => exact ⟨holds, trivial, trivial⟩
  | hit named cached found => exact ⟨holds, trivial, holds.cache netId ns cached found⟩
  | known table found => exact ⟨holds, holds.tables netId table found, trivial⟩
  | begin => exact ⟨holds, begins, trivial⟩
  | deliver began => exact ⟨holds, carries, trivial⟩
  | late table stored found => exact ⟨holds, holds.tables netId stored found, trivial⟩
  | store table => exact ⟨holds.insertTable carries, carries, trivial⟩
  | write table value => exact ⟨holds.insertCache ns carries, trivial, carries⟩

theorem observeStep_holds
    (step : ObserveStep r netId occ stage r' stage') (holds : r.Holds good) : r'.Holds good := by
  cases step with
  | same | differs => exact holds
  | first => exact ⟨holds.tables, holds.cache⟩
  | changed =>
    exact ⟨holds.tables, fun otherId ns cached found => holds.cache otherId ns cached (HashMap.lookup_of_retain found)⟩
  | remove => exact holds.eraseTable netId

theorem act_holds {r r' : ScopeResolver} (holds : r.Holds good) (carries : call.Carries runtimes good)
    (begins : ∀ netId ns port, call.request = .resolve netId ns port →
      good netId ⟨runtimes r.clock netId port, port, r.clock⟩)
    (acted : r.act runtimes transfer call = some (r', call')) :
    r'.Holds good ∧ call'.Carries runtimes good ∧ call'.Returns good := by
  cases act_cases acted with
  | resolve step =>
    obtain ⟨holds', rest⟩ := resolveStep_holds step holds carries (begins _ _ _ rfl)
    exact ⟨⟨holds'.tables, holds'.cache⟩, rest⟩
  | observeOcc step =>
    have holds' := observeStep_holds step holds
    exact ⟨⟨holds'.tables, holds'.cache⟩, trivial, trivial⟩

/-- All tables are good, wherever they are. -/
structure Sourced (runtimes : Runtimes) (good : String → ScopeTable → Prop) (p : Pool ScopeResolver ScopeCall) : Prop where
  shared : p.shared.Holds good
  calls : ∀ call ∈ p.threads, call.Carries runtimes good

variable {p : Pool ScopeResolver ScopeCall}

theorem Sourced.start (sourced : Sourced runtimes good p) (request : ScopeRequest) :
    Sourced runtimes good ⟨p.shared, p.threads ++ [.new request]⟩ := by
  refine ⟨sourced.shared, List.forall_mem_append.mpr ⟨sourced.calls, List.forall_mem_singleton.mpr ?_⟩⟩
  cases request <;> trivial

theorem Sourced.act (sourced : Sourced runtimes good p) {i : Nat} (present : p.threads[i]? = some call)
    (begins : ∀ netId ns port, call.request = .resolve netId ns port →
      good netId ⟨runtimes p.shared.clock netId port, port, p.shared.clock⟩)
    (acted : p.shared.act runtimes transfer call = some (r', call')) :
    Sourced runtimes good ⟨r', p.threads.set i call'⟩ ∧ call'.Returns good := by
  obtain ⟨holds, carries, returns⟩ :=
    act_holds sourced.shared (sourced.calls call (List.mem_of_getElem? present)) begins acted
  exact ⟨⟨holds, System.forall_mem_set sourced.calls carries i⟩, returns⟩

end ScopeResolver

end Sources

/-! ### The answer for a runtime -/

namespace ScopeResolver

def outcomeOf (ns : String) (typeName : Option String) : ScopeOutcome :=
  match typeName with
  | some typeName => ⟨typeName, some ns⟩
  | none => ⟨ns, none⟩

theorem outcomeOf_injective (ns : String) : Function.Injective (outcomeOf ns) := by
  intro first second same
  cases first <;> cases second <;> cases same <;> rfl

theorem intoOutcome_ofLookup (symbols : HashMap String String) (ns : String) :
    (ScopeValue.ofLookup ns (lookupInTable symbols ns)).intoOutcome = outcomeOf ns (symbols.lookup ns) := by
  rw [lookupInTable]
  cases symbols.lookup ns <;> rfl

/-- A call that has returned has what its table says, or without one the bare namespace. -/
def Faithful : ScopeCall → Prop
  | .resolve _ ns _ (.resolved outcome source) => outcome = outcomeOf ns (source.bind fun table => table.symbols.lookup ns)
  | _ => True

/-- The cache and the calls have what the tables say. -/
structure Looked (p : Pool ScopeResolver ScopeCall) : Prop where
  cache : ∀ netId ns cached, p.shared.cache.lookup (netId, ns) = some cached →
    cached.value.intoOutcome = outcomeOf ns (cached.table.symbols.lookup ns)
  calls : ∀ call ∈ p.threads, Faithful call

theorem looked_run (runtimes : Runtimes) (schedule : List (Event ScopeRequest Transfer Empty)) :
    Looked ((system runtimes).run start schedule) := by
  apply System.run_invariant
  · intro p request looked
    refine ⟨looked.cache, List.forall_mem_append.mpr ⟨looked.calls, List.forall_mem_singleton.mpr ?_⟩⟩
    cases request <;> trivial
  · intro p i call transfer r' call' looked present acted
    suffices each : (∀ netId ns cached, r'.cache.lookup (netId, ns) = some cached →
        cached.value.intoOutcome = outcomeOf ns (cached.table.symbols.lookup ns)) ∧ Faithful call' by
      exact ⟨each.1, System.forall_mem_set looked.calls each.2 i⟩
    cases act_cases acted with
    | @resolve netId ns _ _ _ _ step =>
      cases step with
      | empty noName =>
        refine ⟨looked.cache, ?_⟩
        rw [noName]
        rfl
      | hit named cached found => exact ⟨looked.cache, looked.cache netId ns cached found⟩
      | miss | known | begin | deliver | late | store => exact ⟨looked.cache, trivial⟩
      | invalid | fail => exact ⟨looked.cache, rfl⟩
      | write table value lookup =>
        rw [lookup]
        have outcome := intoOutcome_ofLookup table.symbols ns
        refine ⟨?_, outcome⟩
        intro otherId otherNs cached found
        rcases HashMap.lookup_insert_cases found with ⟨⟨rfl, rfl⟩, rfl⟩ | older
        · exact outcome
        · exact looked.cache otherId otherNs cached older
    | observeOcc step =>
      refine ⟨?_, trivial⟩
      cases step with
      | same | differs | first | remove => exact looked.cache
      | changed => exact fun otherId ns cached found => looked.cache otherId ns cached (HashMap.lookup_of_retain found)
  · intro p event
    cases event
  · exact ⟨fun netId ns cached found => (by cases found), fun call member => (by cases member)⟩

def Asked (p : Pool ScopeResolver ScopeCall) (netId : String) (port : UInt16) : Prop :=
  ∃ ns, ScopeRequest.resolve netId ns port ∈ p.threads.map ScopeCall.request

/-- A table that really is of this NetID, and was asked for. -/
def Genuine (symbols : String → UInt16 → HashMap String String) (p : Pool ScopeResolver ScopeCall) (netId : String)
    (table : ScopeTable) : Prop :=
  table.symbols = symbols netId table.port ∧ Asked p netId table.port

theorem genuine_run (symbols : String → UInt16 → HashMap String String)
    (schedule : List (Event ScopeRequest Transfer Empty)) :
    ∀ call ∈ ((system fun _ => symbols).run start schedule).threads,
      call.Returns (Genuine symbols ((system fun _ => symbols).run start schedule)) := by
  generalize ends : (system fun _ => symbols).run start schedule = final
  have sourced : Sourced (fun _ => symbols) (Genuine symbols final) start :=
    ⟨⟨fun _ _ found => (by cases found), fun _ _ _ found => (by cases found)⟩, fun _ member => (by cases member)⟩
  have returns : ∀ call ∈ start.threads, call.Returns (Genuine symbols final) := fun _ member => (by cases member)
  generalize start = p at ends sourced returns
  induction schedule generalizing p with
  | nil =>
    cases ends
    exact returns
  | cons event schedule ih =>
    cases event with
    | start request =>
      refine ih _ ends (sourced.start request) (List.forall_mem_append.mpr ⟨returns, List.forall_mem_singleton.mpr ?_⟩)
      cases request <;> trivial
    | act i transfer =>
      rcases (system fun _ => symbols).act_or_idle p i transfer with ⟨same, -⟩ | ⟨call, r', call', present, acted, stepped⟩
      · rw [System.run_cons, same] at ends
        exact ih p ends sourced returns
      · -- what was asked for stays asked for
        have begins : ∀ netId ns port, call.request = .resolve netId ns port →
            Genuine symbols final netId ⟨symbols netId port, port, p.shared.clock⟩ := by
          intro netId ns port request
          obtain ⟨last, there, same⟩ := System.run_stable (system fun _ => symbols)
            (fun c => c.request = .resolve netId ns port) (fun _ _ _ _ _ _ kept acted => (request_act acted).trans kept)
            present request (.act i transfer :: schedule)
          rw [ends] at there
          exact ⟨rfl, ns, List.mem_map.mpr ⟨last, List.mem_of_getElem? there, same⟩⟩
        obtain ⟨later, returned⟩ := sourced.act present begins acted
        rw [System.run_cons, stepped] at ends
        exact ih _ ends later (System.forall_mem_set returns returned i)
    | ambient event => cases event

/-- Two runtimes that give one instance path different types. -/
def sampleSymbols (_ : String) (port : UInt16) : HashMap String String :=
  HashMap.ofList [("MAIN.fbDrive", if port = 851 then "FB_Motor" else "FB_Pump")]

/-- A call for the instance path at this place of the pool, from its start to its end. -/
def sampleResolve (place : Nat) (port : UInt16) : List (Event ScopeRequest Transfer Empty) :=
  .start (.resolve "5.9.8.7.1.1" "MAIN.fbDrive" port) :: List.replicate 5 (.act place .succeeds)

def proceed (netId : String) (occ : UInt32) (s : ScopeResolver × ObserveStage) : ScopeResolver × ObserveStage :=
  (s.1.observeOcc netId occ s.2).getD s

/-- A whole call of `observe_occ`, without another one at the same time. -/
def observed (r : ScopeResolver) (netId : String) (occ : UInt32) : ScopeResolver × ObserveStage :=
  (proceed netId occ)^[3] (r, .started)

/-- The call has dropped the caches of the NetID. -/
def Drops (r : ScopeResolver) (netId : String) (occ : UInt32) : Prop :=
  ∃ since, (r.observed netId occ).2 = .observed since true

variable {r : ScopeResolver} {netId : String} {occ : UInt32}

theorem observed_spec : (r.observed netId occ).1.occSeen.lookup netId = some occ ∧
    (r.Drops netId occ ↔ ∃ prev, r.occSeen.lookup netId = some prev ∧ prev ≠ occ) := by
  unfold Drops
  cases seen : r.occSeen.lookup netId with
  | none => simp [observed, proceed, observeOcc, seen]
  | some prev =>
    by_cases same : prev = occ
    · simp [observed, proceed, observeOcc, seen, same]
    · simp [observed, proceed, observeOcc, seen, same]

end ScopeResolver

/-- A log of a runtime, and whether its task is registered. -/
structure RuntimeLog (κ : Type) where
  runtime : κ
  registered : Bool

variable {κ : Type}

/-- The count that the log carries. -/
def RuntimeLog.occ (count : κ → UInt32) (log : RuntimeLog κ) : UInt32 :=
  if log.registered then count log.runtime else 0

def observedAll (netId : String) (count : κ → UInt32) (logs : List (RuntimeLog κ)) : ScopeResolver :=
  logs.foldl (fun r log => (r.observed netId (log.occ count)).1) .new

/-- Every runtime of the logs is seen among those before. -/
def AllSeen (logs before : List (RuntimeLog κ)) : Prop := ∀ log ∈ logs, ∃ seen ∈ before, seen.runtime = log.runtime

/-- Once every runtime has been seen, no log drops the caches. -/
def Steady (netId : String) (count : κ → UInt32) (logs : List (RuntimeLog κ)) : Prop :=
  ∀ before log later, logs = before ++ log :: later → AllSeen logs before →
    ¬(observedAll netId count before).Drops netId (log.occ count)

theorem occSeen_observedAll (netId : String) (count : κ → UInt32) (logs : List (RuntimeLog κ)) :
    (observedAll netId count logs).occSeen.lookup netId = logs.getLast?.map (RuntimeLog.occ count) := by
  cases logs using List.reverseRecOn with
  | nil => rfl
  | append_singleton logs log =>
    rw [observedAll, List.foldl_append, List.getLast?_concat]
    exact ScopeResolver.observed_spec.1

/-- For any logs of a NetID in any order, with a constant count for every runtime. -/
theorem steady_iff (netId : String) (count : κ → UInt32) (logs : List (RuntimeLog κ)) :
    Steady netId count logs ↔ ∀ before last log later, logs = before ++ last :: log :: later →
      AllSeen logs (before ++ [last]) → last.occ count = log.occ count := by
  simp only [Steady, ScopeResolver.observed_spec.2, occSeen_observedAll]
  constructor
  · intro steady before last log later whole seen
    by_contra differ
    refine steady (before ++ [last]) log later (by rw [whole, List.append_assoc]; rfl) seen ⟨_, ?_, differ⟩
    rw [List.getLast?_concat, Option.map_some]
  · rintro same before log later whole seen ⟨prev, found, differ⟩
    cases before using List.reverseRecOn with
    | nil => cases found
    | append_singleton before last =>
      rw [List.getLast?_concat, Option.map_some] at found
      cases found
      exact differ (same before last log later (by rw [whole, List.append_assoc]; rfl) seen)

/-- Two runtimes with different counts take turns. -/
theorem turns_not_steady :
    ¬Steady "5.1.2.3.1.1" (fun first : Bool => if first then 1 else 2) [⟨true, true⟩, ⟨false, true⟩, ⟨true, true⟩] := by
  intro steady
  refine steady [⟨true, true⟩, ⟨false, true⟩] ⟨true, true⟩ [] rfl ?_ ?_
  · simp [AllSeen]
  · exact ScopeResolver.observed_spec.2.mpr ⟨2, (occSeen_observedAll ..).trans rfl, by decide⟩

end TcOtel.Service
