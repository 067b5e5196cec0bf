import TcOtel.Service.ScopeResolver

/-!
# Scopes after an online change

When the count of online changes of a PLC is another one, `observe_occ` empties the cache of the PLC and
then drops its symbol table. A call of `resolve` that is on its way at that time may still bring in a
table from before: a download that ends later fills the empty slot, and so does the cache, also in
between the two. From then on every call is answered from the old table, and no later event of the same
count changes that.

`fresh_iff` says that this is all that can go wrong: if no table from before the call is in the cache or
on its way when `observe_occ` returns, then no later call is ever answered from one.
-/

namespace TcOtel.Service

open Pools

/-- The NetID of a table that the call is about to bring in, and when its download began. -/
def ScopeCall.underway : ScopeCall → Option (String × Nat)
  | .resolve netId _ _ (.downloading began) => some (netId, began)
  | .resolve netId _ _ (.downloaded table) | .resolve netId _ _ (.found table) => some (netId, table.began)
  | _ => none

def ScopeCall.begunAt : ScopeCall → Option Nat
  | .observeOcc _ _ (.comparing since) | .observeOcc _ _ (.invalidating since) | .observeOcc _ _ (.observed since _) =>
    some since
  | _ => none

/-- The call is past the check that its namespace is not empty. -/
def ScopeCall.Named : ScopeCall → Prop
  | .resolve _ _ _ .started | .resolve _ _ _ (.resolved _ _) | .observeOcc _ _ _ => True
  | .resolve _ ns _ _ => ns ≠ ""

namespace ScopeResolver

/-- No table of this NetID from before this time is in the cache or underway. -/
structure FreshSince (netId : String) (since : Nat) (p : Pool ScopeResolver ScopeCall) : Prop where
  cache : ∀ ns cached, p.shared.cache.lookup (netId, ns) = some cached → since ≤ cached.table.began
  calls : ∀ call ∈ p.threads, ∀ began, call.underway = some (netId, began) → since ≤ began

/-- A table of this NetID is not from before this time. -/
def NotBefore (netId : String) (since : Nat) (otherId : String) (table : ScopeTable) : Prop :=
  otherId = netId → since ≤ table.began

section Freshness

variable {runtimes : Runtimes} {netId : String} {since : Nat} {p : Pool ScopeResolver ScopeCall}

theorem carries_notBefore_iff (call : ScopeCall) :
    call.Carries runtimes (NotBefore netId since) ↔ ∀ began, call.underway = some (netId, began) → since ≤ began := by
  cases call with
  | observeOcc => exact ⟨fun _ _ none => (nomatch none), fun _ => trivial⟩
  | resolve otherId ns port stage =>
    cases stage with
    | started | missed | resolved => exact ⟨fun _ _ none => (nomatch none), fun _ => trivial⟩
    | downloading began =>
      constructor
      · intro carries other underway
        cases underway
        exact carries rfl
      · intro fresh same
        subst same
        exact fresh began rfl
    | downloaded table | found table =>
      constructor
      · intro carries other underway
        cases underway
        exact carries rfl
      · intro fresh same
        subst same
        exact fresh table.began rfl

theorem FreshSince.sourced (fresh : FreshSince netId since p) (noTable : p.shared.tables.lookup netId = none) :
    Sourced runtimes (NotBefore netId since) p where
  shared := by
    constructor
    · rintro otherId table found rfl
      cases noTable.symm.trans found
    · rintro otherId ns cached found rfl
      exact fresh.cache ns cached found
  calls call member := (carries_notBefore_iff call).mpr (fresh.calls call member)

/-! ### What a run keeps -/

/-- No call has begun later than now, and an empty namespace is never looked up. -/
structure Orderly (p : Pool ScopeResolver ScopeCall) : Prop where
  since : ∀ call ∈ p.threads, ∀ since, call.begunAt = some since → since ≤ p.shared.clock
  calls : ∀ call ∈ p.threads, call.Named
  cache : ∀ netId cached, p.shared.cache.lookup (netId, "") ≠ some cached

/-- What an action of a call that is in order does: the clock goes on, the call stays in order, and nothing
is put into the cache for the empty namespace. -/
theorem Orderly.act {i : Nat} (orderly : Orderly p)
    (present : p.threads[i]? = some call) (acted : p.shared.act runtimes transfer call = some (r', call')) :
    r'.clock = p.shared.clock + 1 ∧ (∀ since, call'.begunAt = some since → since ≤ r'.clock) ∧ call'.Named ∧
      ∀ netId cached, r'.cache.lookup (netId, "") ≠ some cached := by
  have named := orderly.calls call (List.mem_of_getElem? present)
  have begun := orderly.since call (List.mem_of_getElem? present)
  cases act_cases acted with
  -- only the write into the cache matters, and it is under a namespace that was looked up
  | @resolve netId ns _ _ _ _ step =>
    cases step with
    | empty | hit => exact ⟨rfl, fun _ none => (nomatch none), trivial, orderly.cache⟩
    | miss isNamed => exact ⟨rfl, fun _ none => (nomatch none), isNamed, orderly.cache⟩
    | known | begin | deliver | late | store => exact ⟨rfl, fun _ none => (nomatch none), named, orderly.cache⟩
    | invalid | fail => exact ⟨rfl, fun _ none => (nomatch none), trivial, orderly.cache⟩
    | write table value =>
      refine ⟨rfl, fun _ none => (nomatch none), trivial, ?_⟩
      intro otherId cached found
      have apart : (otherId, "") ≠ (netId, ns) := fun same => named (congrArg Prod.snd same).symm
      rw [tick, Finmap.lookup_insert_of_ne _ apart] at found
      exact orderly.cache otherId cached found
  -- the call begins now, or it has begun before
  | observeOcc step =>
    cases step with
    | same stage since before =>
      refine ⟨rfl, ?_, trivial, orderly.cache⟩
      intro other has
      cases has
      rcases before with ⟨rfl, rfl⟩ | rfl
      · exact Nat.le_succ _
      · exact Nat.le_succ_of_le (begun since rfl)
    | differs =>
      refine ⟨rfl, ?_, trivial, orderly.cache⟩
      intro other has
      cases has
      exact Nat.le_succ _
    | first since | remove since =>
      refine ⟨rfl, ?_, trivial, orderly.cache⟩
      intro other has
      cases has
      exact Nat.le_succ_of_le (begun since rfl)
    | changed since =>
      refine ⟨rfl, ?_, trivial, fun otherId cached found => orderly.cache otherId cached (HashMap.lookup_of_retain found)⟩
      intro other has
      cases has
      exact Nat.le_succ_of_le (begun since rfl)

theorem orderly_run (schedule : List (Event ScopeRequest Transfer Empty)) :
    Orderly ((system runtimes).run start schedule) := by
  apply System.run_invariant
  · intro p request orderly
    refine ⟨?_, ?_, orderly.cache⟩
    · intro call member since begun
      rcases List.mem_append.mp member with before | new
      · exact orderly.since call before since begun
      · rw [List.mem_singleton.mp new] at begun
        cases request <;> cases begun
    · refine List.forall_mem_append.mpr ⟨orderly.calls, List.forall_mem_singleton.mpr ?_⟩
      cases request <;> trivial
  · intro p i call transfer r' call' orderly present acted
    obtain ⟨clock, since', named', cache'⟩ := orderly.act present acted
    refine ⟨System.forall_mem_set ?_ since' i, System.forall_mem_set orderly.calls named' i, cache'⟩
    intro other member since has
    exact (orderly.since other member since has).trans (by rw [clock]; exact Nat.le_succ _)
  · intro p event
    cases event
  · refine ⟨?_, ?_, ?_⟩
    · intro call member
      cases member
    · intro call member
      cases member
    · intro otherId cached found
      cases found

/-- Once all is fresh, all stays fresh, and calls that start later are answered from fresh tables. -/
theorem returns_run (sourced : Sourced runtimes (NotBefore netId since) p) (past : since ≤ p.shared.clock)
    (later : List (Event ScopeRequest Transfer Empty)) :
    ∀ j call, ((system runtimes).run p later).threads[j]? = some call → p.threads.length ≤ j →
      call.Returns (NotBefore netId since) := by
  let first := p.threads.length
  suffices all : Sourced runtimes (NotBefore netId since) ((system runtimes).run p later) ∧
      since ≤ ((system runtimes).run p later).shared.clock ∧
      ∀ j call, ((system runtimes).run p later).threads[j]? = some call → first ≤ j → call.Returns (NotBefore netId since) from
    all.2.2
  apply System.run_invariant fun q => Sourced runtimes (NotBefore netId since) q ∧ since ≤ q.shared.clock ∧
    ∀ j call, q.threads[j]? = some call → first ≤ j → call.Returns (NotBefore netId since)
  · rintro q request ⟨sourced, past, returns⟩
    refine ⟨sourced.start request, past, ?_⟩
    intro j call there young
    rw [List.getElem?_append] at there
    split at there
    · exact returns j call there young
    · rw [List.mem_singleton.mp (List.mem_of_getElem? there)]
      cases request <;> trivial
  · rintro q i call transfer r' call' ⟨sourced, past, returns⟩ present acted
    obtain ⟨sourced', returned⟩ := sourced.act present (fun _ _ _ _ _ => past) acted
    refine ⟨sourced', past.trans (clock_act acted), ?_⟩
    intro j other there young
    -- the call that acts, or one that has its answer already
    by_cases own : i = j
    · subst own
      rw [List.getElem?_set_self (List.getElem?_eq_some_iff.mp present).1] at there
      cases there
      exact returned
    · rw [List.getElem?_set_ne own] at there
      exact returns j other there young
  · intro q event
    cases event
  · refine ⟨sourced, past, ?_⟩
    intro j call there young
    have inside := (List.getElem?_eq_some_iff.mp there).1
    exact absurd young (by omega)

/-! ### How an old table comes back -/

theorem returns_cached (named : ns ≠ "") (found : p.shared.cache.lookup (netId, ns) = some cached) :
    ((system runtimes).run p [.start (.resolve netId ns 0), .act p.threads.length .succeeds]).threads[p.threads.length]? =
      some (.resolve netId ns 0 (.resolved cached.value.intoOutcome (some cached.table))) := by
  have acted : p.shared.act runtimes .succeeds (.resolve netId ns 0 .started) =
      some (p.shared.tick, .resolve netId ns 0 (.resolved cached.value.intoOutcome (some cached.table))) := by
    rw [act, resolve, if_neg named, found]
    rfl
  have present : (p.threads ++ [ScopeCall.resolve netId ns 0 .started])[p.threads.length]? =
      some (.resolve netId ns 0 .started) := List.getElem?_concat_length
  have stepped : (system runtimes).step ⟨p.shared, p.threads ++ [.resolve netId ns 0 .started]⟩
      (.act p.threads.length .succeeds) = ⟨p.shared.tick, _⟩ := System.step_act present acted
  have ran : (system runtimes).run p [.start (.resolve netId ns 0), .act p.threads.length .succeeds] =
      (system runtimes).step ⟨p.shared, p.threads ++ [.resolve netId ns 0 .started]⟩ (.act p.threads.length .succeeds) := rfl
  rw [ran, stepped]
  exact List.getElem?_set_self (by simp)

/-- Some calls that are there act, and then a new one is answered from this table. -/
def Reappears (runtimes : Runtimes) (netId : String) (began : Nat) (p : Pool ScopeResolver ScopeCall) : Prop :=
  ∃ later j ns port outcome table, ((system runtimes).run p later).threads[j]? =
    some (.resolve netId ns port (.resolved outcome (some table))) ∧ p.threads.length ≤ j ∧ table.began = began

theorem Reappears.of_cache (cached : CachedScope) (named : ns ≠ "")
    (found : p.shared.cache.lookup (netId, ns) = some cached) : Reappears runtimes netId cached.table.began p :=
  ⟨_, _, _, _, _, _, returns_cached named found, le_rfl, rfl⟩

theorem Reappears.of_act (transfer : Transfer)
    (present : p.threads[i]? = some call) (acted : p.shared.act runtimes transfer call = some (r', call'))
    (reappears : Reappears runtimes netId began ⟨r', p.threads.set i call'⟩) : Reappears runtimes netId began p := by
  obtain ⟨later, j, ns, port, outcome, table, there, young, same⟩ := reappears
  refine ⟨.act i transfer :: later, j, ns, port, outcome, table, ?_, ?_, same⟩
  · rw [System.run_cons, System.step_act present acted]
    exact there
  · rw [List.length_set] at young
    exact young

section

variable {i : Nat} {ns : String} {port : UInt16}

theorem Reappears.of_found (named : ns ≠ "")
    (present : p.threads[i]? = some (.resolve netId ns port (.found table))) :
    Reappears runtimes netId table.began p := by
  refine .of_act .succeeds present rfl ?_
  exact .of_cache ⟨_, table⟩ named (Finmap.lookup_insert _)

theorem Reappears.of_downloaded (table : ScopeTable) (named : ns ≠ "")
    (noTable : p.shared.tables.lookup netId = none)
    (present : p.threads[i]? = some (.resolve netId ns port (.downloaded table))) :
    Reappears runtimes netId table.began p := by
  have acted : p.shared.act runtimes .succeeds (.resolve netId ns port (.downloaded table)) =
      some (tick { p.shared with tables := p.shared.tables.insert netId table }, .resolve netId ns port (.found table)) := by
    rw [act, resolve, noTable]
    rfl
  refine .of_act .succeeds present acted ?_
  exact .of_found named (List.getElem?_set_self (List.getElem?_eq_some_iff.mp present).1)

theorem Reappears.of_downloading (named : ns ≠ "") (noTable : p.shared.tables.lookup netId = none)
    (present : p.threads[i]? = some (.resolve netId ns port (.downloading began))) :
    Reappears runtimes netId began p := by
  refine .of_act .succeeds present rfl ?_
  exact .of_downloaded ⟨_, port, began⟩ named noTable
    (List.getElem?_set_self (List.getElem?_eq_some_iff.mp present).1)

end

/-- A table that is underway does come back, if the slot is empty. -/
theorem Reappears.of_underway (member : call ∈ p.threads) (named : call.Named)
    (noTable : p.shared.tables.lookup netId = none) (underway : call.underway = some (netId, began)) :
    Reappears runtimes netId began p := by
  obtain ⟨i, present⟩ := List.mem_iff_getElem?.mp member
  cases call with
  | observeOcc => cases underway
  | resolve otherId ns port stage =>
    cases stage with
    | started | missed | resolved => cases underway
    | downloading =>
      cases underway
      exact .of_downloading named noTable present
    | downloaded table =>
      cases underway
      exact .of_downloaded table named noTable present
    | found table =>
      cases underway
      exact .of_found named present

/-- `observe_occ` with another count returns by this action. Later calls are never answered from a
table whose download began before it just when no such table is then in the cache or underway. -/
theorem fresh_iff (runtimes : Runtimes) (schedule : List (Event ScopeRequest Transfer Empty)) (i : Nat)
    (transfer : Transfer) (netId : String) (occ : UInt32) (since : Nat)
    (returning : ((system runtimes).run start schedule).threads[i]? = some (.observeOcc netId occ (.invalidating since))) :
    (∀ later j ns port outcome table,
        ((system runtimes).run start (schedule ++ .act i transfer :: later)).threads[j]? =
          some (.resolve netId ns port (.resolved outcome (some table))) →
        ((system runtimes).run start (schedule ++ [.act i transfer])).threads.length ≤ j → since ≤ table.began) ↔
      FreshSince netId since ((system runtimes).run start (schedule ++ [.act i transfer])) := by
  have orderly := @orderly_run runtimes (schedule ++ [.act i transfer])
  have begun := (@orderly_run runtimes schedule).since _ (List.mem_of_getElem? returning) since rfl
  have split (later : List (Event ScopeRequest Transfer Empty)) :
      (system runtimes).run start (schedule ++ .act i transfer :: later) =
        (system runtimes).run ((system runtimes).run start (schedule ++ [.act i transfer])) later := by
    rw [← System.run_append, List.append_assoc]
    rfl
  have after : (system runtimes).run start (schedule ++ [.act i transfer]) = _ :=
    (System.run_append schedule [.act i transfer]).trans ((system runtimes).step_act returning rfl)
  have noTable : ((system runtimes).run start (schedule ++ [.act i transfer])).shared.tables.lookup netId = none := by
    rw [after]
    exact Finmap.lookup_erase netId _
  have past : since ≤ ((system runtimes).run start (schedule ++ [.act i transfer])).shared.clock := by
    rw [after]
    exact Nat.le_succ_of_le begun
  generalize (system runtimes).run start (schedule ++ [.act i transfer]) = p at orderly split noTable past
  simp only [split]
  constructor
  · intro never
    -- what is in the cache or underway could be led to the answer of a new call
    have notBack : ∀ began, Reappears runtimes netId began p → since ≤ began := by
      rintro began ⟨later, j, ns, port, outcome, table, there, young, rfl⟩
      exact never later j ns port outcome table there young
    constructor
    · intro ns cached found
      have named : ns ≠ "" := by
        rintro rfl
        exact orderly.cache netId cached found
      exact notBack _ (.of_cache cached named found)
    · intro call member began underway
      exact notBack _ (.of_underway member (orderly.calls call member) noTable underway)
  · intro fresh later j ns port outcome table there young
    exact returns_run (fresh.sourced noTable) past later j _ there young rfl

/-! ### A download that ends late -/

/-- The instance path has another type from this time on. -/
def sampleOnline : Runtimes := fun time _ _ =>
  HashMap.ofList [("MAIN.fbDrive", if time < 4 then "FB_Motor" else "FB_Pump")]

/-- A count is seen, a download begins, and then another count is seen. -/
def sampleChange : List (Event ScopeRequest Transfer Empty) :=
  [.start (.observeOcc "5.9.8.7.1.1" 1), .act 0 .succeeds, .act 0 .succeeds,
    .start (.resolve "5.9.8.7.1.1" "MAIN.fbDrive" 851), .act 1 .succeeds, .act 1 .succeeds,
    .start (.observeOcc "5.9.8.7.1.1" 2), .act 2 .succeeds, .act 2 .succeeds]

/-- The same without the download. -/
def sampleQuiet : List (Event ScopeRequest Transfer Empty) :=
  [.start (.observeOcc "5.9.8.7.1.1" 1), .act 0 .succeeds, .act 0 .succeeds,
    .start (.observeOcc "5.9.8.7.1.1" 2), .act 1 .succeeds, .act 1 .succeeds]

/-- Without a call underway the later ones get the new type. -/
theorem fresh_iff_sample : (∀ later j ns port outcome table,
        ((system sampleOnline).run start (sampleQuiet ++ .act 1 .succeeds :: later)).threads[j]? =
          some (.resolve "5.9.8.7.1.1" ns port (.resolved outcome (some table))) →
        ((system sampleOnline).run start (sampleQuiet ++ [.act 1 .succeeds])).threads.length ≤ j → 2 ≤ table.began) ↔
      FreshSince "5.9.8.7.1.1" 2 ((system sampleOnline).run start (sampleQuiet ++ [.act 1 .succeeds])) :=
  fresh_iff sampleOnline sampleQuiet 1 .succeeds "5.9.8.7.1.1" 2 2 (by decide +kernel)

/-- The old table comes back after the change, and a later call is answered from it. -/
theorem sampleChange_stale :
    ((system sampleOnline).run start sampleChange).threads[2]? = some (.observeOcc "5.9.8.7.1.1" 2 (.invalidating 4)) ∧
    ((system sampleOnline).run start (sampleChange ++ [.act 2 .succeeds])).threads.length = 3 ∧
    ((system sampleOnline).run start (sampleChange ++ [.act 2 .succeeds, .act 1 .succeeds, .act 1 .succeeds, .act 1 .succeeds,
      .start (.resolve "5.9.8.7.1.1" "MAIN.fbDrive" 851), .act 3 .succeeds])).threads[3]? =
        some (.resolve "5.9.8.7.1.1" "MAIN.fbDrive" 851
          (.resolved ⟨"FB_Motor", some "MAIN.fbDrive"⟩ (some ⟨sampleOnline 0 "5.9.8.7.1.1" 851, 851, 3⟩))) := by
  decide +kernel

end Freshness

end ScopeResolver

end TcOtel.Service
