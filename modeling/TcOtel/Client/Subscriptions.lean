import TcOtel.Client.Notify
import TcOtel.Lib.Iteration
import TcOtel.Lib.Refinement

/-!
# Calls of the notifier

`subscribe`, `unsubscribe` and `reconcile` of `notify.rs` over any backend. A session keeps what the
backend has answered so far, so that a run of calls is a run over these answers: whatever the calls
are, the two maps of the notifier are what the answers make of them (`Follows`).

The maps are inverse to each other, and have just the handles that the backend has granted and not
deleted, as long as each answer fits (`consistent_throughout_iff`).
-/

namespace TcOtel.Client

open Iterating Refining

/-! ### Backends -/

/-- The calls of `NotificationBackend` that change what the PLC sends. -/
structure NotificationBackend (β : Type) where
  subscribe : β → NotifAttrs → SymbolMeta → Except ClientError UInt32 × β
  unsubscribe : β → UInt32 → Except ClientError Unit × β

inductive Answer where
  | subscribed (handle : UInt32) (sub : Subscription)
  | notSubscribed
  | deleted (handle : UInt32)
  | notDeleted (handle : UInt32)

/-- A notifier, its backend, and the backend's answers up to now. -/
structure Session (β : Type) where
  notifier : Notifier
  backend : β
  answers : List Answer

/-- `unsubscribe` up to the call of the backend. The symbol is removed whatever handle it leads to. -/
def Notifier.unregister (n : Notifier) (handle : UInt32) : Notifier :=
  match n.subs.lookup handle with
  | none => n
  | some sub => ⟨n.subs.erase handle, n.bySymbol.erase sub.metricDef.symbol⟩

namespace Session

variable {β : Type}

def new (backend : β) : Session β := ⟨.new, backend, []⟩

def subscribe (B : NotificationBackend β) (s : Session β) (d : CustomMetricDef) (symbol : SymbolMeta) :
    Session β × Except ClientError UInt32 :=
  match NotifAttrs.fromDef d symbol.size with
  | .error e => (s, .error e)
  | .ok attrs =>
    match B.subscribe s.backend attrs symbol with
    | (.error e, backend) => (⟨s.notifier, backend, s.answers ++ [.notSubscribed]⟩, .error e)
    | (.ok handle, backend) =>
      (⟨s.notifier.register handle ⟨d, symbol, attrs⟩, backend, s.answers ++ [.subscribed handle ⟨d, symbol, attrs⟩]⟩,
        .ok handle)

def unsubscribe (B : NotificationBackend β) (s : Session β) (handle : UInt32) :
    Session β × Except ClientError Unit :=
  match B.unsubscribe s.backend handle with
  | (.error e, backend) => (⟨s.notifier.unregister handle, backend, s.answers ++ [.notDeleted handle]⟩, .error e)
  | (.ok _, backend) => (⟨s.notifier.unregister handle, backend, s.answers ++ [.deleted handle]⟩, .ok ())

end Session

/-! ### Reconciling -/

structure ReconcileReport where
  added : List String
  removed : List String
  changed : List String
deriving DecidableEq

/-- `desired_map`: of two definitions for one symbol the later one. -/
def desiredMap : List (CustomMetricDef × SymbolMeta) → HashMap String Subscription →
    Except ClientError (HashMap String Subscription)
  | [], m => .ok m
  | (d, symbol) :: later, m =>
    match NotifAttrs.fromDef d symbol.size with
    | .error e => .error e
    | .ok attrs => desiredMap later (m.insert d.symbol ⟨d, symbol, attrs⟩)

def Notifier.current (n : Notifier) (sym : String) : Option (UInt32 × NotifAttrs) := do
  let handle ← n.bySymbol.lookup sym
  let sub ← n.subs.lookup handle
  return (handle, sub.attrs)

def Notifier.currentSymbols (n : Notifier) : Finset String :=
  n.bySymbol.keys.filter fun sym => (n.current sym).isSome

/-- What the first pass of `reconcile` works on next to the notifier. -/
structure Diff where
  desired : HashMap String Subscription
  report : ReconcileReport
  changedSyms : Finset String

namespace Session

variable {β : Type}

def firstPass (B : NotificationBackend β) (current : String → Option (UInt32 × NotifAttrs)) :
    List String → Session β → Diff → Session β × Except ClientError Diff
  | [], s, diff => (s, .ok diff)
  | sym :: later, s, diff =>
    match current sym with
    | none => firstPass B current later s diff
    | some (handle, oldAttrs) =>
      match diff.desired.lookup sym with
      | none =>
        match s.unsubscribe B handle with
        | (s', .error e) => (s', .error e)
        | (s', .ok _) =>
          firstPass B current later s'
            { diff with report := { diff.report with removed := diff.report.removed ++ [sym] } }
      | some wanted =>
        if wanted.attrs ≠ oldAttrs then
          match s.unsubscribe B handle with
          | (s', .error e) => (s', .error e)
          | (s', .ok _) => firstPass B current later s' { diff with changedSyms := insert sym diff.changedSyms }
        else firstPass B current later s { diff with desired := diff.desired.erase sym }

def secondPass (B : NotificationBackend β) (desired : HashMap String Subscription) (changedSyms : Finset String) :
    List String → Session β → ReconcileReport → Session β × Except ClientError ReconcileReport
  | [], s, report => (s, .ok report)
  | sym :: later, s, report =>
    match desired.lookup sym with
    | none => secondPass B desired changedSyms later s report
    | some wanted =>
      match s.subscribe B wanted.metricDef wanted.symbol with
      | (s', .error e) => (s', .error e)
      | (s', .ok _) =>
        secondPass B desired changedSyms later s'
          (if sym ∈ changedSyms then { report with changed := report.changed ++ [sym] }
          else { report with added := report.added ++ [sym] })

/-- `reconcile`, with the orders in which the two passes go through their maps. -/
def reconcile (B : NotificationBackend β) (first second : Iteration String) (s : Session β)
    (desired : List (CustomMetricDef × SymbolMeta)) : Session β × Except ClientError ReconcileReport :=
  match desiredMap desired ∅ with
  | .error e => (s, .error e)
  | .ok bySymbol =>
    match firstPass B s.notifier.current (first.order s.notifier.currentSymbols) s ⟨bySymbol, ⟨[], [], []⟩, ∅⟩ with
    | (s', .error e) => (s', .error e)
    | (s', .ok diff) => secondPass B diff.desired diff.changedSyms (second.order diff.desired.keys) s' diff.report

end Session

inductive Call where
  | subscribe (d : CustomMetricDef) (symbol : SymbolMeta)
  | unsubscribe (handle : UInt32)
  | reconcile (first second : Iteration String) (desired : List (CustomMetricDef × SymbolMeta))

/-- An error goes to the caller, who only logs it. -/
def Session.call {β : Type} (B : NotificationBackend β) (s : Session β) : Call → Session β
  | .subscribe d symbol => (s.subscribe B d symbol).1
  | .unsubscribe handle => (s.unsubscribe B handle).1
  | .reconcile first second desired => (s.reconcile B first second desired).1

def Session.run {β : Type} (B : NotificationBackend β) (s : Session β) (calls : List Call) : Session β :=
  calls.foldl (Session.call B) s

/-! ### What the answers make of the maps -/

/-- What an answer does to the maps. They are changed for a deletion that fails as well. -/
def Notifier.learn (n : Notifier) : Answer → Notifier
  | .subscribed handle sub => n.register handle sub
  | .notSubscribed => n
  | .deleted handle | .notDeleted handle => n.unregister handle

/-- The later session comes from the earlier one by answers of the backend. -/
def Follows {β : Type} (s s' : Session β) : Prop :=
  ∃ answers, s'.answers = s.answers ++ answers ∧ s'.notifier = answers.foldl Notifier.learn s.notifier

section

variable {β : Type} {B : NotificationBackend β} {s s' s'' : Session β}

theorem Follows.refl (s : Session β) : Follows s s := ⟨[], (List.append_nil _).symm, rfl⟩

theorem Follows.trans (first : Follows s s') (second : Follows s' s'') : Follows s s'' := by
  obtain ⟨early, answers, notifier⟩ := first
  obtain ⟨late, answers', notifier'⟩ := second
  refine ⟨early ++ late, ?_, ?_⟩
  · rw [answers', answers, List.append_assoc]
  · rw [notifier', notifier, List.foldl_append]

theorem follows_subscribe (d : CustomMetricDef) (symbol : SymbolMeta) : Follows s (s.subscribe B d symbol).1 := by
  unfold Session.subscribe
  split
  · exact .refl s
  · split
    · exact ⟨[_], rfl, rfl⟩
    · exact ⟨[_], rfl, rfl⟩

theorem follows_unsubscribe (handle : UInt32) : Follows s (s.unsubscribe B handle).1 := by
  unfold Session.unsubscribe
  split
  · exact ⟨[_], rfl, rfl⟩
  · exact ⟨[_], rfl, rfl⟩

theorem follows_firstPass (syms : List String) (s : Session β)
    (diff : Diff) : Follows s (s.firstPass B current syms diff).1 := by
  induction syms generalizing s diff with
  | nil => exact .refl s
  | cons sym later ih =>
    rw [Session.firstPass]
    split
    · exact ih s diff
    next handle oldAttrs known =>
      have next := follows_unsubscribe (B := B) (s := s) handle
      split
      · split
        all_goals
          next answered =>
          rw [answered] at next
          first | exact next | exact next.trans (ih _ _)
      · split
        · split
          all_goals
            next answered =>
            rw [answered] at next
            first | exact next | exact next.trans (ih _ _)
        · exact ih s _

theorem follows_secondPass (syms : List String)
    (s : Session β) (report : ReconcileReport) : Follows s (s.secondPass B desired changedSyms syms report).1 := by
  induction syms generalizing s report with
  | nil => exact .refl s
  | cons sym later ih =>
    rw [Session.secondPass]
    split
    · exact ih s report
    next wanted _ =>
      have next := follows_subscribe (B := B) (s := s) wanted.metricDef wanted.symbol
      split
      all_goals
        next answered =>
        rw [answered] at next
        first | exact next | exact next.trans (ih _ _)

theorem follows_reconcile (first second : Iteration String) (desired : List (CustomMetricDef × SymbolMeta)) :
    Follows s (s.reconcile B first second desired).1 := by
  unfold Session.reconcile
  split
  · exact .refl s
  next bySymbol _ =>
    have removed := @follows_firstPass β B s.notifier.current (first.order s.notifier.currentSymbols) s
      ⟨bySymbol, ⟨[], [], []⟩, ∅⟩
    split
    all_goals
      next passed =>
      rw [passed] at removed
      first | exact removed | exact removed.trans (follows_secondPass _ _ _)

theorem follows_call (c : Call) : Follows s (s.call B c) := by
  cases c with
  | subscribe d symbol => exact follows_subscribe d symbol
  | unsubscribe handle => exact follows_unsubscribe handle
  | reconcile first second desired => exact follows_reconcile first second desired

theorem follows_run (s : Session β) (calls : List Call) : Follows s (s.run B calls) := by
  induction calls generalizing s with
  | nil => exact .refl s
  | cons c calls ih => exact (follows_call c).trans (ih (s.call B c))

end

/-! ### Maps that are inverse to each other -/

structure Notifier.Linked (n : Notifier) : Prop where
  toSymbol : ∀ handle sub, n.subs.lookup handle = some sub → n.bySymbol.lookup sub.metricDef.symbol = some handle
  toHandle : ∀ sym handle, n.bySymbol.lookup sym = some handle →
    ∃ sub, n.subs.lookup handle = some sub ∧ sub.metricDef.symbol = sym

namespace Notifier

variable {n : Notifier} {handle : UInt32} {sub : Subscription}

theorem Linked.new : Linked .new where
  toSymbol _ _ found := by cases found
  toHandle _ _ found := by cases found

theorem lookup_subs_register (n : Notifier) (handle other : UInt32) (sub : Subscription) :
    (n.register handle sub).subs.lookup other = if other = handle then some sub else n.subs.lookup other :=
  HashMap.lookup_insert_eq _ _ _ _

theorem lookup_bySymbol_register (n : Notifier) (handle : UInt32) (sub : Subscription) (sym : String) :
    (n.register handle sub).bySymbol.lookup sym =
      if sym = sub.metricDef.symbol then some handle else n.bySymbol.lookup sym :=
  HashMap.lookup_insert_eq _ _ _ _

/-- The handle is new and so is the symbol, or they belong together already. -/
def Fits (n : Notifier) (handle : UInt32) (sub : Subscription) : Prop :=
  n.bySymbol.lookup sub.metricDef.symbol = none ∧ n.subs.lookup handle = none ∨
    n.bySymbol.lookup sub.metricDef.symbol = some handle
deriving Decidable

/-- The same with both directions at once: a symbol leads to a handle just when the handle is for it. -/
def symbolOf (n : Notifier) (handle : UInt32) : Option String := (n.subs.lookup handle).map (·.metricDef.symbol)

theorem linked_iff : n.Linked ↔ ∀ handle sym, n.bySymbol.lookup sym = some handle ↔ n.symbolOf handle = some sym := by
  simp only [symbolOf, Option.map_eq_some_iff]
  constructor
  · rintro linked handle sym
    refine ⟨linked.toHandle sym handle, ?_⟩
    rintro ⟨sub, held, rfl⟩
    exact linked.toSymbol handle sub held
  · intro inverse
    exact ⟨fun handle sub held => (inverse handle _).mpr ⟨sub, held, rfl⟩, fun sym handle => (inverse handle sym).mp⟩

theorem symbolOf_register (n : Notifier) (handle other : UInt32) (sub : Subscription) :
    (n.register handle sub).symbolOf other = if other = handle then some sub.metricDef.symbol else n.symbolOf other := by
  rw [symbolOf, lookup_subs_register]
  split <;> rfl

theorem Linked.register_iff (linked : n.Linked) : (n.register handle sub).Linked ↔ n.Fits handle sub := by
  rw [linked_iff] at linked ⊢
  have unheld : n.subs.lookup handle = none ↔ n.symbolOf handle = none := by simp [symbolOf]
  simp only [lookup_bySymbol_register, symbolOf_register, Fits, unheld]
  constructor
  · intro after
    cases symbolled : n.bySymbol.lookup sub.metricDef.symbol with
    | none =>
      refine .inl ⟨rfl, Option.eq_none_iff_forall_ne_some.mpr fun old held => ?_⟩
      -- the symbol that had this handle still leads to it
      have back := (linked handle old).mpr held
      have both := after handle old
      by_cases same : old = sub.metricDef.symbol
      · rw [← same, back] at symbolled
        cases symbolled
      · simp [same, back, Ne.symm same] at both
    | some old =>
      -- the handle that the symbol had is still there
      have both := after old sub.metricDef.symbol
      by_cases same : old = handle
      · exact .inr (same ▸ rfl)
      · simp [same, Ne.symm same, (linked old _).mp symbolled] at both
  · intro fits other sym
    by_cases named : sym = sub.metricDef.symbol <;> by_cases own : other = handle
    · simp [named, own]
    · rw [if_pos named, if_neg own, ← linked, named]
      rcases fits with ⟨fresh, -⟩ | itsOwn
      · simp [fresh, Ne.symm own]
      · rw [itsOwn]
    · rw [if_neg named, if_pos own, own, linked]
      rcases fits with ⟨-, fresh⟩ | itsOwn
      · simp [fresh, Ne.symm named]
      · rw [(linked handle _).mp itsOwn]
    · rw [if_neg named, if_neg own, linked]

theorem unregister_of_lookup (found : n.subs.lookup handle = some sub) :
    n.unregister handle = ⟨n.subs.erase handle, n.bySymbol.erase sub.metricDef.symbol⟩ := by
  rw [unregister, found]

theorem unregister_of_none (absent : n.subs.lookup handle = none) : n.unregister handle = n := by
  rw [unregister, absent]

theorem Linked.unregister (linked : n.Linked) (handle : UInt32) : (n.unregister handle).Linked := by
  cases held : n.subs.lookup handle with
  | none =>
    rw [unregister_of_none held]
    exact linked
  | some sub =>
    rw [unregister_of_lookup held]
    rw [linked_iff] at linked ⊢
    have own : n.symbolOf handle = some sub.metricDef.symbol := by rw [symbolOf, held, Option.map_some]
    intro other sym
    by_cases named : sym = sub.metricDef.symbol <;> by_cases same : other = handle
    · rw [named, same, Finmap.lookup_erase, symbolOf, Finmap.lookup_erase]
      simp
    · rw [named, Finmap.lookup_erase, symbolOf, Finmap.lookup_erase_ne same, ← symbolOf, ← linked, (linked handle _).mpr own]
      simp [Ne.symm same]
    · rw [same, Finmap.lookup_erase_ne named, linked, own, symbolOf, Finmap.lookup_erase]
      simp [Ne.symm named]
    · rw [Finmap.lookup_erase_ne named, symbolOf, Finmap.lookup_erase_ne same, ← symbolOf, linked]

theorem keys_register (n : Notifier) (handle : UInt32) (sub : Subscription) :
    (n.register handle sub).subs.keys = insert handle n.subs.keys := by
  ext other
  simp [register, Finmap.mem_keys]

theorem keys_unregister (n : Notifier) (handle : UInt32) : (n.unregister handle).subs.keys = n.subs.keys.erase handle := by
  cases held : n.subs.lookup handle with
  | none =>
    rw [unregister_of_none held, Finset.erase_eq_of_notMem]
    exact Finmap.lookup_eq_none.mp held
  | some sub =>
    rw [unregister_of_lookup held]
    exact Finmap.keys_erase ..

end Notifier

/-! ### The notifier next to the backend -/

structure Ledger where
  notifier : Notifier
  granted : Finset UInt32

namespace Ledger

def new : Ledger := ⟨.new, ∅⟩

def step (l : Ledger) (a : Answer) : Ledger where
  notifier := l.notifier.learn a
  granted :=
    match a with
    | .subscribed handle _ => insert handle l.granted
    | .deleted handle => l.granted.erase handle
    | .notSubscribed | .notDeleted _ => l.granted

theorem notifier_foldl (l : Ledger) (answers : List Answer) :
    (answers.foldl step l).notifier = answers.foldl Notifier.learn l.notifier := by
  induction answers generalizing l with
  | nil => rfl
  | cons a answers ih => exact ih (l.step a)

/-- The maps are inverse to each other and have the handles that the backend knows. -/
structure Consistent (l : Ledger) : Prop where
  linked : l.notifier.Linked
  handles : l.notifier.subs.keys = l.granted

/-- A new handle comes for a symbol that has none, and what is to be deleted is deleted. -/
def Fits (l : Ledger) : Answer → Prop
  | .subscribed handle sub => l.notifier.Fits handle sub
  | .notDeleted handle => l.notifier.subs.lookup handle = none
  | .notSubscribed | .deleted _ => True

theorem Consistent.new : Consistent .new := ⟨.new, rfl⟩

/-- One answer keeps the maps consistent just when it fits. -/
theorem Consistent.step_iff {l : Ledger} (consistent : l.Consistent) (a : Answer) :
    (l.step a).Consistent ↔ l.Fits a := by
  cases a with
  | subscribed handle sub =>
    constructor
    · intro after
      exact consistent.linked.register_iff.mp after.linked
    · intro fits
      refine ⟨consistent.linked.register_iff.mpr fits, ?_⟩
      exact (Notifier.keys_register _ _ _).trans (congrArg (insert handle) consistent.handles)
  | notSubscribed => exact iff_of_true consistent trivial
  | deleted handle =>
    refine iff_of_true ⟨consistent.linked.unregister handle, ?_⟩ trivial
    exact (Notifier.keys_unregister _ _).trans (congrArg (Finset.erase · handle) consistent.handles)
  | notDeleted handle =>
    constructor
    · intro after
      have keys := after.handles
      change (l.notifier.unregister handle).subs.keys = l.granted at keys
      rw [Notifier.keys_unregister, ← consistent.handles, Finset.erase_eq_self] at keys
      exact Finmap.lookup_eq_none.mpr keys
    · intro absent
      have same : l.step (.notDeleted handle) = l := by
        rw [step, Notifier.learn, Notifier.unregister_of_none absent]
      rw [same]
      exact consistent

end Ledger

/-- After any calls, over any backend: the maps are what the answers make of them, and they are
consistent at every answer just when every answer fits. -/
theorem consistent_throughout_iff {β : Type} (B : NotificationBackend β) (backend : β) (calls : List Call) :
    ((Session.new backend).run B calls).notifier =
        (((Session.new backend).run B calls).answers.foldl Ledger.step .new).notifier ∧
      (Throughout (fun before => (before.foldl Ledger.step .new).Consistent) ((Session.new backend).run B calls).answers ↔
        Allowed Ledger.step Ledger.Fits .new ((Session.new backend).run B calls).answers) := by
  constructor
  · obtain ⟨answers, recorded, learned⟩ := follows_run (B := B) (Session.new backend) calls
    rw [Ledger.notifier_foldl, recorded]
    exact learned
  · exact throughout_iff_allowed (fun l a consistent => consistent.step_iff a) .new

end TcOtel.Client
