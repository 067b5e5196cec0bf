import TcOtel.Client.Subscriptions
import Mathlib.Data.String.Basic

/-!
# What `reconcile` reaches

`reconcile` compares the attributes of a subscription only. Over maps that are inverse to each
other, with handles that are new, a call that returns leaves the desired subscription at every
symbol, but for those whose attributes were the desired ones already: these stay what they were
(`live_reconcile`). A second call with the same list then has nothing to do.
-/

namespace TcOtel.Client

open Iterating Refining

namespace Notifier

variable {n : Notifier} {sym other : String} {handle : UInt32} {sub : Subscription}

def entry (n : Notifier) (sym : String) : Option (UInt32 × Subscription) :=
  (n.bySymbol.lookup sym).bind fun handle => (n.subs.lookup handle).map fun sub => (handle, sub)

def live (n : Notifier) (sym : String) : Option Subscription := (n.entry sym).map Prod.snd

theorem current_eq_entry (n : Notifier) (sym : String) :
    n.current sym = (n.entry sym).map fun found => (found.1, found.2.attrs) := by
  rw [current, entry]
  cases n.bySymbol.lookup sym with
  | none => rfl
  | some handle => cases found : n.subs.lookup handle <;> simp [found]

theorem live_of_entry (found : n.entry sym = some e) : n.live sym = some e.2 := congrArg (Option.map Prod.snd) found

theorem entry_eq_some_iff : n.entry sym = some (handle, sub) ↔
    n.bySymbol.lookup sym = some handle ∧ n.subs.lookup handle = some sub := by
  simp only [entry, Option.bind_eq_some_iff, Option.map_eq_some_iff]
  grind

theorem Linked.entry_eq_none_iff (linked : n.Linked) : n.entry sym = none ↔ n.bySymbol.lookup sym = none := by
  constructor
  · intro absent
    cases named : n.bySymbol.lookup sym with
    | none => rfl
    | some handle =>
      obtain ⟨sub, held, -⟩ := linked.toHandle sym handle named
      rw [entry_eq_some_iff.mpr ⟨named, held⟩] at absent
      cases absent
  · intro absent
    rw [entry, absent, Option.bind_none]

theorem Linked.symbol_of_entry (linked : n.Linked) (found : n.entry sym = some (handle, sub)) :
    sub.metricDef.symbol = sym := by
  obtain ⟨named, held⟩ := entry_eq_some_iff.mp found
  obtain ⟨same, there, symbolled⟩ := linked.toHandle sym handle named
  rw [held] at there
  cases there
  exact symbolled

theorem Linked.entry_unregister (linked : n.Linked) (found : n.entry sym = some (handle, sub)) (other : String) :
    (n.unregister handle).entry other = if other = sym then none else n.entry other := by
  have symbolled := linked.symbol_of_entry found
  have held := (entry_eq_some_iff.mp found).2
  rw [unregister_of_lookup held, entry, symbolled]
  split
  next same => rw [same, Finmap.lookup_erase, Option.bind_none]
  next differs =>
    rw [Finmap.lookup_erase_ne differs]
    -- the other symbol has another handle
    apply Option.bind_congr
    intro h named
    rw [Finmap.lookup_erase_ne]
    rintro rfl
    obtain ⟨_, there, itsSymbol⟩ := linked.toHandle other h named
    rw [held] at there
    cases there
    exact differs (itsSymbol.symm.trans symbolled)

theorem Linked.entry_register (linked : n.Linked) (fresh : n.subs.lookup handle = none) (other : String) :
    (n.register handle sub).entry other = if other = sub.metricDef.symbol then some (handle, sub) else n.entry other := by
  rw [entry, lookup_bySymbol_register]
  split
  next => rw [Option.bind_some, lookup_subs_register, if_pos rfl, Option.map_some]
  next differs =>
    apply Option.bind_congr
    intro h named
    rw [lookup_subs_register, if_neg]
    rintro rfl
    obtain ⟨_, there, -⟩ := linked.toHandle other h named
    rw [fresh] at there
    cases there

end Notifier

/-! ### The desired map -/

/-- Every entry is what `subscribe` makes of its definition. -/
def Wanted (desired : HashMap String Subscription) : Prop :=
  ∀ sym wanted, desired.lookup sym = some wanted →
    wanted.metricDef.symbol = sym ∧ NotifAttrs.fromDef wanted.metricDef wanted.symbol.size = .ok wanted.attrs

theorem Wanted.desiredMap (wanted : Wanted m) (built : desiredMap desired m = .ok m') : Wanted m' := by
  induction desired generalizing m with
  | nil =>
    cases built
    exact wanted
  | cons entry later ih =>
    obtain ⟨d, symbol⟩ := entry
    rw [Client.desiredMap] at built
    split at built
    · cases built
    next attrs known =>
      apply ih _ built
      intro sym sub found
      rcases HashMap.lookup_insert_cases found with ⟨rfl, rfl⟩ | older
      · exact ⟨rfl, known⟩
      · exact wanted sym sub older

theorem Wanted.of_desiredMap (built : Client.desiredMap desired ∅ = .ok m) : Wanted m :=
  Wanted.desiredMap (fun _ _ found => by cases found) built

/-! ### The two passes -/

/-- A subscription that stays as it is: its attributes are the desired ones. -/
def kept : Option Subscription → Option Subscription → Bool
  | some old, some wanted => wanted.attrs = old.attrs
  | _, _ => false

theorem kept_iff :
    kept held wanted = true ↔ ∃ old new, held = some old ∧ wanted = some new ∧ new.attrs = old.attrs := by
  cases held <;> cases wanted <;> simp [kept]

/-- The backend grants a handle that no subscription has. -/
def Notifier.Fresh (n : Notifier) : Answer → Prop
  | .subscribed handle _ => n.subs.lookup handle = none
  | .notSubscribed | .deleted _ | .notDeleted _ => True

namespace Session

variable {β : Type} {B : NotificationBackend β} {s s' : Session β}

theorem unsubscribe_ok (deleted : s.unsubscribe B handle = (s', .ok u)) :
    s'.notifier = s.notifier.unregister handle ∧ s'.answers = s.answers ++ [.deleted handle] := by
  unfold unsubscribe at deleted
  split at deleted
  · cases deleted
  · cases deleted
    exact ⟨rfl, rfl⟩

theorem subscribe_ok (subscribed : s.subscribe B d symbol = (s', .ok handle)) :
    ∃ attrs, NotifAttrs.fromDef d symbol.size = .ok attrs ∧
      s'.notifier = s.notifier.register handle ⟨d, symbol, attrs⟩ ∧
      s'.answers = s.answers ++ [.subscribed handle ⟨d, symbol, attrs⟩] := by
  unfold subscribe at subscribed
  split at subscribed
  · cases subscribed
  next attrs known =>
    split at subscribed
    · cases subscribed
    · cases subscribed
      exact ⟨attrs, known, rfl, rfl⟩

/-- What the first pass has reached behind some symbols of the snapshot. -/
structure Passed (syms : List String) (before after : Notifier) (desired desired' : HashMap String Subscription) :
    Prop where
  linked : after.Linked
  entry : ∀ sym, after.entry sym =
    if sym ∈ syms ∧ kept (before.live sym) (desired.lookup sym) = false then none else before.entry sym
  desired : ∀ sym, desired'.lookup sym =
    if sym ∈ syms ∧ kept (before.live sym) (desired.lookup sym) = true then none else desired.lookup sym

section

variable {sym : String} {syms : List String} {n n₁ n' : Notifier} {handle : UInt32} {old : Subscription}
  {desired desired₁ desired' : HashMap String Subscription}

theorem Passed.cons (new : sym ∉ syms)
    (entry : ∀ other, n₁.entry other =
      if other = sym ∧ kept (n.live sym) (desired.lookup sym) = false then none else n.entry other)
    (lookup : ∀ other, desired₁.lookup other =
      if other = sym ∧ kept (n.live sym) (desired.lookup sym) = true then none else desired.lookup other)
    (rest : Passed syms n₁ n' desired₁ desired') : Passed (sym :: syms) n n' desired desired' := by
  -- a symbol is this one, which is in no later round, or one that is as it was
  refine ⟨rest.linked, fun other => ?_, fun other => ?_⟩
  · rw [rest.entry, Notifier.live, entry, lookup]
    rcases eq_or_ne other sym with rfl | same
    · simp [new]
    · simp [same, Notifier.live]
  · rw [rest.desired, Notifier.live, entry, lookup]
    rcases eq_or_ne other sym with rfl | same
    · simp [new]
    · simp [same, Notifier.live]

theorem Passed.dropped (linked : n.Linked) (new : sym ∉ syms)
    (found : n.entry sym = some (handle, old)) (drop : kept (some old) (desired.lookup sym) = false)
    (gone : n₁ = n.unregister handle) (rest : Passed syms n₁ n' desired desired') :
    Passed (sym :: syms) n n' desired desired' := by
  have live := Notifier.live_of_entry found
  refine Passed.cons new ?_ ?_ rest
  · simp [gone, linked.entry_unregister found, live, drop]
  · simp [live, drop]

theorem Passed.stays (new : sym ∉ syms) (found : n.entry sym = some (handle, old))
    (keep : kept (some old) (desired.lookup sym) = true) (rest : Passed syms n n' (desired.erase sym) desired') :
    Passed (sym :: syms) n n' desired desired' := by
  have live := Notifier.live_of_entry found
  refine Passed.cons new ?_ ?_ rest
  · simp [live, keep]
  · intro other
    rcases eq_or_ne other sym with rfl | same
    · simp [live, keep]
    · simp [same]

/-- The first pass, as far as the snapshot still is what the maps have. -/
theorem passed_firstPass
    (linked : s.notifier.Linked) (nodup : syms.Nodup) (snapshot : ∀ sym ∈ syms, current sym = s.notifier.current sym)
    (returned : s.firstPass B current syms diff = (s', .ok diff')) :
    Passed syms s.notifier s'.notifier diff.desired diff'.desired := by
  induction syms generalizing s diff with
  | nil =>
    cases returned
    exact ⟨linked, fun _ => by simp, fun _ => by simp⟩
  | cons sym later ih =>
    obtain ⟨new, nodup⟩ := List.nodup_cons.mp nodup
    obtain ⟨here, there⟩ := List.forall_mem_cons.mp snapshot
    rw [firstPass] at returned
    split at returned
    next absent =>
      -- only a symbol with an entry is in the snapshot
      have noEntry : s.notifier.entry sym = none := by
        rw [absent, Notifier.current_eq_entry] at here
        exact Option.map_eq_none_iff.mp here.symm
      refine Passed.cons new ?_ ?_ (ih linked nodup there returned)
      · intro other
        split
        next both => rw [both.1, noEntry]
        next => rfl
      · intro other
        rw [Notifier.live, noEntry]
        simp [kept]
    next handle oldAttrs known =>
      obtain ⟨⟨h, old⟩, found, same⟩ : ∃ e, s.notifier.entry sym = some e ∧ (e.1, e.2.attrs) = (handle, oldAttrs) := by
        rw [known, Notifier.current_eq_entry] at here
        exact Option.map_eq_some_iff.mp here.symm
      obtain ⟨rfl, rfl⟩ := Prod.mk.inj same
      -- a symbol that goes leaves the entries of the others, and so their snapshots
      have dropped {s₁ : Session β} {u : Unit} {diff₁ : Diff} (deleted : s.unsubscribe B h = (s₁, .ok u))
          (drop : kept (some old) (diff.desired.lookup sym) = false)
          (returned : s₁.firstPass B current later diff₁ = (s', .ok diff')) (same : diff₁.desired = diff.desired) :
          Passed (sym :: later) s.notifier s'.notifier diff.desired diff'.desired := by
        have gone := (unsubscribe_ok deleted).1
        have snapshot₁ : ∀ other ∈ later, current other = s₁.notifier.current other := by
          intro other member
          have differs : other ≠ sym := fun equal => new (equal ▸ member)
          rw [there other member, gone, Notifier.current_eq_entry, Notifier.current_eq_entry,
            linked.entry_unregister found, if_neg differs]
        have rest := ih (gone ▸ linked.unregister h) nodup snapshot₁ returned
        exact Passed.dropped linked new found drop gone (same ▸ rest)
      split at returned
      next unwanted =>
        split at returned
        · cases returned
        next deleted => exact dropped deleted (by rw [unwanted]; rfl) returned rfl
      next wanted desired =>
        split at returned
        next changed =>
          split at returned
          · cases returned
          next deleted => exact dropped deleted (by rw [desired]; exact decide_eq_false changed) returned rfl
        next unchanged =>
          have keep : kept (some old) (diff.desired.lookup sym) = true := by
            rw [desired]
            exact decide_eq_true (not_not.mp unchanged)
          exact Passed.stays new found keep (ih linked nodup there returned)

theorem Passed.whole (passed : Passed syms n n' desired desired') (all : ∀ sym, sym ∈ syms ↔ (n.entry sym).isSome) (sym : String) :
    n'.entry sym = (if kept (n.live sym) (desired.lookup sym) = true then n.entry sym else none) ∧
      desired'.lookup sym = if kept (n.live sym) (desired.lookup sym) = true then none else desired.lookup sym := by
  simp only [passed.entry, passed.desired, all]
  cases found : n.entry sym with
  | none => simp [Notifier.live, found, kept]
  | some e => cases kept (n.live sym) (desired.lookup sym) <;> simp

theorem live_secondPass (linked : s.notifier.Linked) (nodup : syms.Nodup)
    (absent : ∀ sym ∈ syms, s.notifier.entry sym = none) (wanted : Wanted desired)
    (fresh : ∀ answers, s'.answers = s.answers ++ answers → Allowed Notifier.learn Notifier.Fresh s.notifier answers)
    (returned : s.secondPass B desired changedSyms syms report = (s', .ok report')) :
    s'.notifier.Linked ∧ ∀ sym, s'.notifier.live sym =
      if sym ∈ syms ∧ (desired.lookup sym).isSome then desired.lookup sym else s.notifier.live sym := by
  induction syms generalizing s report with
  | nil =>
    cases returned
    exact ⟨linked, fun _ => by simp⟩
  | cons sym later ih =>
    obtain ⟨new, nodup⟩ := List.nodup_cons.mp nodup
    obtain ⟨here, others⟩ := List.forall_mem_cons.mp absent
    rw [secondPass] at returned
    split at returned
    next unwanted =>
      obtain ⟨linked', live⟩ := ih linked nodup others fresh returned
      refine ⟨linked', fun other => ?_⟩
      rw [live]
      by_cases same : other = sym
      · rw [same, unwanted]
        simp
      · simp [same]
    next sub desired_sym =>
      split at returned
      · cases returned
      next s₁ handle subscribed =>
        obtain ⟨attrs, known, registered, answered⟩ := subscribe_ok subscribed
        obtain ⟨symbolled, itsAttrs⟩ := wanted sym sub desired_sym
        rw [itsAttrs] at known
        cases known
        -- the pass ends with the answer to this call before those to the others
        have follow := @follows_secondPass β B desired changedSyms later s₁
          (if sym ∈ changedSyms then { report with changed := report.changed ++ [sym] }
          else { report with added := report.added ++ [sym] })
        rw [returned] at follow
        obtain ⟨rest, laterAnswers, -⟩ := follow
        rw [answered, List.append_assoc] at laterAnswers
        have unused : s.notifier.subs.lookup handle = none := (fresh _ laterAnswers).1
        have noSymbol : s.notifier.bySymbol.lookup sub.metricDef.symbol = none := by
          rw [symbolled]
          exact linked.entry_eq_none_iff.mp here
        have linked₁ : s₁.notifier.Linked := by
          rw [registered]
          exact linked.register_iff.mpr (.inl ⟨noSymbol, unused⟩)
        have entry₁ : ∀ other, s₁.notifier.entry other = if other = sym then some (handle, sub) else s.notifier.entry other := by
          intro other
          rw [registered, linked.entry_register unused]
          rw [show (Subscription.mk sub.metricDef sub.symbol sub.attrs).metricDef.symbol = sym from symbolled]
        obtain ⟨linked', live⟩ := ih linked₁ nodup
          (fun other member => by
            have differs : other ≠ sym := fun same => new (same ▸ member)
            rw [entry₁, if_neg differs]
            exact others other member)
          (fun answers later => by
            have all := fresh (.subscribed handle ⟨sub.metricDef, sub.symbol, sub.attrs⟩ :: answers)
              (by rw [later, answered, List.append_assoc]; rfl)
            rw [registered]
            exact all.2)
          returned
        refine ⟨linked', fun other => ?_⟩
        rw [live, Notifier.live, entry₁]
        by_cases same : other = sym
        · subst same
          rw [desired_sym]
          simp [new]
        · simp [same, Notifier.live]

end

/-! ### Whole calls -/

theorem mem_snapshot_iff (i : Iteration String) (n : Notifier) (sym : String) :
    sym ∈ i.order n.currentSymbols ↔ (n.entry sym).isSome := by
  rw [Iteration.mem_order, Notifier.currentSymbols, Finset.mem_filter, Notifier.current_eq_entry, Option.isSome_map,
    Finmap.mem_keys, ← Finmap.lookup_isSome]
  refine and_iff_right_of_imp fun found => ?_
  rw [Notifier.entry] at found
  cases named : n.bySymbol.lookup sym <;> simp_all

/-- Behind a call that returns, every symbol has its desired subscription, or the one it had. -/
theorem live_reconcile (linked : s.notifier.Linked) (built : desiredMap desired ∅ = .ok wanted)
    (fresh : ∀ answers, s'.answers = s.answers ++ answers → Allowed Notifier.learn Notifier.Fresh s.notifier answers)
    (returned : s.reconcile B first second desired = (s', .ok report)) :
    s'.notifier.Linked ∧ ∀ sym, s'.notifier.live sym =
      if kept (s.notifier.live sym) (wanted.lookup sym) = true then s.notifier.live sym else wanted.lookup sym := by
  unfold reconcile at returned
  rw [built] at returned
  dsimp only at returned
  split at returned
  · cases returned
  next s₁ diff removed =>
    have passed := passed_firstPass linked (first.nodup _) (fun _ _ => rfl) removed
    have entry₁ sym := (passed.whole (mem_snapshot_iff first _) sym).1
    have desired₁ sym : diff.desired.lookup sym = _ := (passed.whole (mem_snapshot_iff first _) sym).2
    -- what is left to subscribe to has no entry
    have absent : ∀ sym ∈ second.order diff.desired.keys, s₁.notifier.entry sym = none := by
      intro sym member
      rw [Iteration.mem_order, Finmap.mem_keys, ← Finmap.lookup_isSome, desired₁] at member
      rw [entry₁]
      split at member
      · cases member
      next changed => rw [if_neg changed]
    have wantedLeft : Wanted diff.desired := by
      intro sym sub found
      rw [desired₁] at found
      split at found
      · cases found
      · exact Wanted.of_desiredMap built sym sub found
    have laterFresh : ∀ answers, s'.answers = s₁.answers ++ answers →
        Allowed Notifier.learn Notifier.Fresh s₁.notifier answers := by
      intro answers later
      have follow := @follows_firstPass β B s.notifier.current (first.order s.notifier.currentSymbols) s
        ⟨wanted, ⟨[], [], []⟩, ∅⟩
      rw [removed] at follow
      obtain ⟨earlier, answered, learned⟩ := follow
      have all := fresh (earlier ++ answers) (by rw [later, answered, List.append_assoc])
      rw [learned]
      exact (allowed_append.mp all).2
    obtain ⟨linked', live⟩ := live_secondPass passed.linked (second.nodup _) absent wantedLeft laterFresh returned
    refine ⟨linked', fun sym => ?_⟩
    have listed : sym ∈ second.order diff.desired.keys ↔ (diff.desired.lookup sym).isSome := by
      rw [Iteration.mem_order, Finmap.mem_keys, Finmap.lookup_isSome]
    rw [live]
    by_cases stays : kept (s.notifier.live sym) (wanted.lookup sym) = true
    · have live₁ : s₁.notifier.live sym = s.notifier.live sym := by
        rw [Notifier.live, entry₁, if_pos stays]
        rfl
      simp [desired₁, live₁, stays]
    · have live₁ : s₁.notifier.live sym = none := by
        rw [Notifier.live, entry₁, if_neg stays]
        rfl
      simp only [listed, desired₁, live₁, stays]
      cases wanted.lookup sym <;> rfl

theorem firstPass_of_kept {current : String → Option (UInt32 × NotifAttrs)} {diff : Diff}
    (nodup : syms.Nodup) (snapshot : ∀ sym ∈ syms, current sym = s.notifier.current sym)
    (stays : ∀ sym ∈ syms, kept (s.notifier.live sym) (diff.desired.lookup sym) = true) :
    ∃ diff', s.firstPass B current syms diff = (s, .ok diff') := by
  induction syms generalizing diff with
  | nil => exact ⟨diff, rfl⟩
  | cons sym later ih =>
    obtain ⟨new, nodup⟩ := List.nodup_cons.mp nodup
    obtain ⟨current_sym, snapshot⟩ := List.forall_mem_cons.mp snapshot
    obtain ⟨here, stays⟩ := List.forall_mem_cons.mp stays
    have rest : ∃ diff', s.firstPass B current later { diff with desired := diff.desired.erase sym } = (s, .ok diff') := by
      apply ih nodup snapshot
      intro other member
      have differs : other ≠ sym := fun same => new (same ▸ member)
      rw [Finmap.lookup_erase_ne differs]
      exact stays other member
    obtain ⟨old, wanted, held, desired, sameAttrs⟩ := kept_iff.mp here
    obtain ⟨e, found, rfl⟩ := Option.map_eq_some_iff.mp held
    rw [firstPass, current_sym, Notifier.current_eq_entry, found, desired]
    simp only [Option.map_some]
    rw [if_neg (not_not.mpr sameAttrs)]
    exact rest

/-- When every symbol has the desired attributes, a call asks nothing of the backend. -/
theorem reconcile_of_sameAttrs (linked : s.notifier.Linked) (built : desiredMap desired ∅ = .ok wanted)
    (same : ∀ sym, (s.notifier.live sym).map Subscription.attrs = (wanted.lookup sym).map Subscription.attrs) :
    (s.reconcile B first second desired).1 = s := by
  have stays : ∀ sym e, s.notifier.entry sym = some e → kept (s.notifier.live sym) (wanted.lookup sym) = true := by
    intro sym e found
    have live := Notifier.live_of_entry found
    have attrs := same sym
    rw [live] at attrs
    obtain ⟨new, desired, sameAttrs⟩ := Option.map_eq_some_iff.mp attrs.symm
    exact kept_iff.mpr ⟨e.2, new, live, desired, sameAttrs⟩
  obtain ⟨diff, removed⟩ := @firstPass_of_kept β B s (first.order s.notifier.currentSymbols) s.notifier.current
    ⟨wanted, ⟨[], [], []⟩, ∅⟩ (first.nodup _) (fun _ _ => rfl) (fun sym member => by
      obtain ⟨e, found⟩ := Option.isSome_iff_exists.mp ((mem_snapshot_iff first _ sym).mp member)
      exact stays sym e found)
  have passed := passed_firstPass linked (first.nodup _) (fun _ _ => rfl) removed
  -- everything desired is there, so that nothing is left for the second pass
  have nothing : diff.desired = ∅ := by
    apply Finmap.ext_lookup
    intro sym
    rw [(passed.whole (mem_snapshot_iff first _) sym).2, Finmap.lookup_empty]
    cases found : s.notifier.entry sym with
    | none =>
      have attrs := same sym
      rw [Notifier.live, found] at attrs
      simp [Option.map_eq_none_iff.mp attrs.symm]
    | some e => rw [if_pos (stays sym e found)]
  have empty : second.order diff.desired.keys = [] := by
    rw [nothing, Finmap.keys_empty, Iteration.order_empty]
  unfold reconcile
  rw [built]
  dsimp only
  rw [removed]
  dsimp only
  rw [empty]
  rfl

end Session

/-- The notifier has the desired subscription at every symbol, and no others. -/
def Notifier.Matches (n : Notifier) (wanted : HashMap String Subscription) : Prop :=
  n.Linked ∧ ∀ sym, n.live sym = wanted.lookup sym

/-- A call that returns leaves just what is desired, and nothing to do for a second one, when and only
when no subscription with the desired attributes had another definition or another symbol table
entry. -/
theorem reconciles_iff {β : Type} (B : NotificationBackend β) (first second : Iteration String) (s s' : Session β)
    (desired : List (CustomMetricDef × SymbolMeta)) (wanted : HashMap String Subscription) (report : ReconcileReport)
    (linked : s.notifier.Linked) (built : desiredMap desired ∅ = .ok wanted)
    (returned : s.reconcile B first second desired = (s', .ok report))
    (fresh : Allowed Notifier.learn Notifier.Fresh s.notifier (s'.answers.drop s.answers.length)) :
    (s'.notifier.Matches wanted ∧ ∀ f g, (s'.reconcile B f g desired).1.answers = s'.answers) ↔
      ∀ sym old new, s.notifier.live sym = some old → wanted.lookup sym = some new → new.attrs = old.attrs → old = new := by
  obtain ⟨linked', live⟩ := Session.live_reconcile linked built
    (fun answers later => by rw [later, List.drop_left] at fresh; exact fresh) returned
  have attrs : ∀ sym, (s'.notifier.live sym).map Subscription.attrs = (wanted.lookup sym).map Subscription.attrs := by
    intro sym
    rw [live]
    split
    next stays =>
      obtain ⟨old, new, found, desired, sameAttrs⟩ := kept_iff.mp stays
      rw [found, desired]
      exact congrArg some sameAttrs.symm
    next => rfl
  constructor
  · rintro ⟨⟨-, right⟩, -⟩ sym old new found desired same
    have here := right sym
    rw [live, if_pos (kept_iff.mpr ⟨old, new, found, desired, same⟩), found, desired] at here
    exact Option.some.inj here
  · intro agree
    refine ⟨⟨linked', fun sym => ?_⟩, fun f g => ?_⟩
    · rw [live]
      split
      next stays =>
        obtain ⟨old, new, found, desired, sameAttrs⟩ := kept_iff.mp stays
        rw [found, desired, agree sym old new found desired sameAttrs]
      next => rfl
    · rw [Session.reconcile_of_sameAttrs linked' built attrs]

/-! ### A definition that changes -/

/-- A backend that grants one handle after the other and deletes them all. -/
def sampleBackend : NotificationBackend Nat where
  subscribe granted _ _ := (.ok (UInt32.ofNat granted), granted + 1)
  unsubscribe granted _ := (.ok (), granted)

def sampleMetric (metricName : String) : CustomMetricDef :=
  ⟨"GVL.a", metricName, "", "", .gauge, false, .notification, some "5.9.8.7.1.1", none, none,
    some ⟨0, 10000, 5000, .onChange⟩⟩

def sampleSymbol : SymbolMeta := ⟨1, "BOOL", 0x4040, 0⟩

def sampleSub (metricName : String) : Subscription :=
  ⟨sampleMetric metricName, sampleSymbol, ⟨1, .onChange, 5000, 10⟩⟩

def sampleSession : Session Nat :=
  (Session.new 7).run sampleBackend [.subscribe (sampleMetric "plc.a") sampleSymbol]

theorem sampleSession_linked : sampleSession.notifier.Linked :=
  Notifier.Linked.new.register_iff.mpr (.inl ⟨rfl, rfl⟩)

theorem desiredMap_sample (metricName : String) : desiredMap [(sampleMetric metricName, sampleSymbol)] ∅ =
      .ok ((∅ : HashMap String Subscription).insert "GVL.a" (sampleSub metricName)) := rfl

theorem sampleSession_reconcile (first second : Iteration String) (metricName : String) :
    ∃ report, sampleSession.reconcile sampleBackend first second [(sampleMetric metricName, sampleSymbol)] =
      (sampleSession, .ok report) := by
  have one : sampleSession.notifier.currentSymbols = {"GVL.a"} := by decide
  have entry : sampleSession.notifier.current "GVL.a" = some (7, (sampleSub metricName).attrs) := rfl
  have none : ((∅ : HashMap String Subscription).insert "GVL.a" (sampleSub metricName)).erase "GVL.a" = ∅ := by
    apply Finmap.ext_lookup
    intro sym
    by_cases same : sym = "GVL.a"
    · rw [same, Finmap.lookup_erase, Finmap.lookup_empty]
    · rw [Finmap.lookup_erase_ne same, Finmap.lookup_insert_of_ne _ same]
  refine ⟨⟨[], [], []⟩, ?_⟩
  simp [Session.reconcile, desiredMap_sample, one, Session.firstPass, entry, none, Session.secondPass]

theorem reconciles_iff_sample :
    ∃ s' wanted report, sampleSession.reconcile sampleBackend .sorted .sorted [(sampleMetric "plc.a", sampleSymbol)] =
        (s', .ok report) ∧ desiredMap [(sampleMetric "plc.a", sampleSymbol)] ∅ = .ok wanted ∧
      (s'.notifier.Matches wanted ∧
        ∀ f g, (s'.reconcile sampleBackend f g [(sampleMetric "plc.a", sampleSymbol)]).1.answers = s'.answers) := by
  obtain ⟨report, returned⟩ := sampleSession_reconcile .sorted .sorted "plc.a"
  refine ⟨sampleSession, _, report, returned, desiredMap_sample "plc.a", ?_⟩
  apply (reconciles_iff sampleBackend .sorted .sorted sampleSession sampleSession _ _ report sampleSession_linked
    (desiredMap_sample "plc.a") returned trivial).mpr
  rintro sym old new held desired -
  rcases HashMap.lookup_insert_cases desired with ⟨rfl, rfl⟩ | older
  · exact (Option.some.inj held).symm
  · cases older

/-- The name of the metric is not compared, so that a renamed metric keeps its old name. -/
theorem renamed_not_matched :
    ∃ s' wanted report, sampleSession.reconcile sampleBackend .sorted .sorted [(sampleMetric "plc.b", sampleSymbol)] =
        (s', .ok report) ∧ desiredMap [(sampleMetric "plc.b", sampleSymbol)] ∅ = .ok wanted ∧
      ¬s'.notifier.Matches wanted := by
  obtain ⟨report, returned⟩ := sampleSession_reconcile .sorted .sorted "plc.b"
  refine ⟨sampleSession, _, report, returned, desiredMap_sample "plc.b", ?_⟩
  rintro ⟨-, same⟩
  have names := congrArg (Option.map (·.metricDef.metricName)) (same "GVL.a")
  revert names
  decide

end TcOtel.Client
