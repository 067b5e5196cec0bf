import TcOtel.Service.SpanDispatcher

/-!
# The two maps of the dispatcher

Every call comes down to a few changes: spans are closed or changed in place, and SPAN_BEGIN
then opens one. `serve_served` says so once; what a run keeps is shown for each change.
`WellKeyed` holds in every run. That the two maps are inverse to each other is more, and is lost
when two PLCs have pending spans with the same id, since the index has one place for both.
-/

namespace TcOtel.Service

open Decoding Ads

namespace SpanDispatcher

variable {cfg : Config} {tick : Tick} {d : SpanDispatcher} {key k : SpanKey} {id : Bytes 8}
  {p : PendingSpan}

/-! ### The changes a call is made of -/

def closeSpan (key : SpanKey) (sent : Sent) (d : SpanDispatcher) : SpanDispatcher where
  pending := d.pending.erase key
  pendingBySpanId := d.pendingBySpanId.erase key.spanId
  orphanCounter := d.orphanCounter
  traceTx := d.traceTx ++ [sent]

def putSpan (key : SpanKey) (p : PendingSpan) (d : SpanDispatcher) : SpanDispatcher :=
  { d with pending := d.pending.insert key p }

def timedOut (cfg : Config) (tick : Tick) (p : PendingSpan) : Sent :=
  ⟨p, p.toRecord cfg (tick.utc p.key) .error (timeoutMessage cfg), tick.room p.key⟩

def ended (cfg : Config) (tick : Tick) (ev : SpanEnd) (p : PendingSpan) : Sent :=
  ⟨p, p.toRecord cfg (dcTimeToDatetime cfg.chrono tick.now ev.dcTime) (statusCode ev.status) ev.message,
    tick.room p.key⟩

def flushAll (cfg : Config) (tick : Tick) (keys : List SpanKey) (d : SpanDispatcher) : SpanDispatcher :=
  keys.foldl (flush cfg tick) d

def evicted (cfg : Config) (tick : Tick) (d : SpanDispatcher) : Option SpanKey :=
  if d.pendingCount ≥ cfg.maxPending then d.oldestKey tick else none

@[simp] theorem countOrphan_pending (lineage : Lineage) : (d.countOrphan lineage).pending = d.pending := by
  unfold countOrphan
  split <;> rfl

@[simp] theorem countOrphan_pendingBySpanId (lineage : Lineage) :
    (d.countOrphan lineage).pendingBySpanId = d.pendingBySpanId := by
  unfold countOrphan
  split <;> rfl

@[simp] theorem countOrphan_traceTx (lineage : Lineage) : (d.countOrphan lineage).traceTx = d.traceTx := by
  unfold countOrphan
  split <;> rfl

@[simp] theorem countOrphan_pendingCount (lineage : Lineage) :
    (d.countOrphan lineage).pendingCount = d.pendingCount := by
  rw [pendingCount, countOrphan_pending, pendingCount]

@[simp] theorem newSpan_key (netId : AmsNetId) (port : UInt16) (ev : SpanBegin) (lineage : Lineage) :
    (newSpan cfg tick netId port ev lineage).key = ⟨netId, ev.spanId⟩ := rfl

/-- SPAN_BEGIN flushes the evicted span and the one it replaces, and opens its own. -/
theorem onBegin_eq (netId : AmsNetId) (port : UInt16) (ev : SpanBegin) : d.onBegin cfg tick netId port ev =
      openSpan (newSpan cfg tick netId port ev (d.resolveParent ev))
        (flushAll cfg tick ((evicted cfg tick d).toList ++ [⟨netId, ev.spanId⟩])
          (d.countOrphan (d.resolveParent ev))) := by
  have room : makeRoom cfg tick (d.countOrphan (d.resolveParent ev)) =
      flushAll cfg tick (evicted cfg tick d).toList (d.countOrphan (d.resolveParent ev)) := by
    -- the counter does not matter for who is evicted
    have same : oldestKey tick (d.countOrphan (d.resolveParent ev)) = d.oldestKey tick := by
      simp [oldestKey, iter]
    simp only [makeRoom, evicted, countOrphan_pendingCount]
    by_cases full : d.pendingCount ≥ cfg.maxPending
    · rw [if_pos full, if_pos full, evictOldest, same]
      cases d.oldestKey tick <;> rfl
    · rw [if_neg full, if_neg full]
      rfl
  simp [onBegin, room, flushAll]

/-! ### What always holds of the maps -/

/-- A span is held under its own key, and an index entry leads to a pending span with its id. -/
structure WellKeyed (d : SpanDispatcher) : Prop where
  key_eq : ∀ {k p}, d.pending.lookup k = some p → p.key = k
  pointed : ∀ {id k}, d.pendingBySpanId.lookup id = some k → k ∈ d.pending ∧ k.spanId = id

theorem mem_of_lookup (found : d.pending.lookup k = some p) : k ∈ d.pending := by
  apply AList.lookup_isSome.mp
  rw [found]
  rfl

theorem lookup_of_mem (member : k ∈ d.pending) : ∃ p, d.pending.lookup k = some p :=
  Option.isSome_iff_exists.mp (AList.lookup_isSome.mpr member)

theorem mem_iter_iff : (key, p) ∈ d.iter tick ↔ d.pending.lookup key = some p := by
  rw [iter, List.mem_filterMap]
  constructor
  · rintro ⟨k, -, found⟩
    obtain ⟨q, present, same⟩ := Option.map_eq_some_iff.mp found
    cases same
    exact present
  · intro found
    refine ⟨key, (tick.order.perm _).mem_iff.mpr (AList.mem_keys.mp (mem_of_lookup found)), ?_⟩
    rw [found]
    rfl

theorem WellKeyed.spanId_eq (wellKeyed : WellKeyed d) (found : d.pending.lookup k = some p) :
    p.spanId = k.spanId := by
  rw [← wellKeyed.key_eq found]
  rfl

theorem WellKeyed.lookup_of_indexed (wellKeyed : WellKeyed d)
    (indexed : d.pendingBySpanId.lookup id = some key) : ∃ p, d.pending.lookup key = some p :=
  lookup_of_mem (wellKeyed.pointed indexed).1

theorem flush_of_notMem (absent : key ∉ d.pending) : d.flush cfg tick key = d := by
  simp [flush, AList.lookup_eq_none.mpr absent]

theorem WellKeyed.flush_eq (wellKeyed : WellKeyed d) (found : d.pending.lookup key = some p) :
    d.flush cfg tick key = d.closeSpan key (timedOut cfg tick p) := by
  simp only [flush, found, wellKeyed.spanId_eq found]
  rfl

theorem WellKeyed.onEnd_eq (wellKeyed : WellKeyed d) (indexed : d.pendingBySpanId.lookup ev.spanId = some key)
    (found : d.pending.lookup key = some p) :
    d.onEnd cfg tick ev = d.closeSpan key (ended cfg tick ev p) := by
  have sameId := (wellKeyed.pointed indexed).2
  simp only [onEnd, indexed, found, closeSpan, sameId]
  rfl

theorem onEnd_of_none (absent : d.pendingBySpanId.lookup ev.spanId = none) : d.onEnd cfg tick ev = d := by
  simp [onEnd, absent]

variable {f : PendingSpan → PendingSpan}

theorem modify_eq (indexed : d.pendingBySpanId.lookup id = some key)
    (found : d.pending.lookup key = some p) : d.modify id f = d.putSpan key (f p) := by
  simp only [modify, indexed, found]
  rfl

theorem modify_of_none (absent : d.pendingBySpanId.lookup id = none) : d.modify id f = d := by
  simp [modify, absent]

/-! ### All that a call can do -/

/-- Two values of one span: only attributes and events may differ. -/
def SameOpening (p q : PendingSpan) : Prop := { q with attrs := p.attrs, events := p.events } = p

theorem SameOpening.refl (p : PendingSpan) : SameOpening p p := rfl

theorem SameOpening.trans (one : SameOpening p q) (two : SameOpening q r) : SameOpening p r := by
  rw [← two] at one
  exact one

theorem SameOpening.key_eq (same : SameOpening p q) : q.key = p.key := by
  rw [← same]
  rfl

/-- A change of the dispatcher other than a new span. -/
inductive Change (tick : Tick) (d : SpanDispatcher) : SpanDispatcher → Prop
  | counted (lineage : Lineage) : Change tick d (d.countOrphan lineage)
  | closed {key : SpanKey} {sent : Sent} (found : d.pending.lookup key = some sent.span)
      (accepted : sent.accepted = tick.room key) : Change tick d (d.closeSpan key sent)
  | changed {key : SpanKey} {p q : PendingSpan} (found : d.pending.lookup key = some p)
      (same : SameOpening p q) : Change tick d (d.putSpan key q)

abbrev Changes (tick : Tick) : SpanDispatcher → SpanDispatcher → Prop :=
  Relation.ReflTransGen (Change tick)

/-- The effect of a call: some changes, and a new span when it is a SPAN_BEGIN. -/
inductive Served (cfg : Config) (d : SpanDispatcher) (call : Call) : SpanDispatcher → Prop
  | kept {d' : SpanDispatcher} (noBegin : call.beginKey? = none) (changes : Changes call.tick d d') :
      Served cfg d call d'
  | begun {netId : AmsNetId} {port : UInt16} {ev : SpanBegin} {mid : SpanDispatcher}
      (isBegin : call.request = .event netId port (.spanBegin ev))
      (changes : Changes call.tick d mid) (fresh : ⟨netId, ev.spanId⟩ ∉ mid.pending) :
      Served cfg d call
        (mid.openSpan (newSpan cfg call.tick netId port ev (d.resolveParent ev)))

theorem mem_flush_iff : k ∈ (d.flush cfg tick key).pending ↔ k ∈ d.pending ∧ k ≠ key := by
  cases found : d.pending.lookup key with
  | none =>
    have absent := AList.lookup_eq_none.mp found
    rw [flush_of_notMem absent]
    constructor
    · intro present
      refine ⟨present, ?_⟩
      rintro rfl
      exact absent present
    · exact fun both => both.1
  | some p =>
    simp only [flush, found]
    exact AList.mem_erase.trans and_comm

theorem mem_flushAll_iff (keys : List SpanKey) :
    k ∈ (flushAll cfg tick keys d).pending ↔ k ∈ d.pending ∧ k ∉ keys := by
  induction keys generalizing d with
  | nil => simp [flushAll]
  | cons key keys ih =>
    have rest := ih (d := d.flush cfg tick key)
    rw [mem_flush_iff] at rest
    simp only [flushAll, List.foldl_cons, List.mem_cons, not_or] at rest ⊢
    rw [rest, and_assoc]

theorem lookup_flushAll_of_notMem (kept : k ∉ keys) :
    (flushAll cfg tick keys d).pending.lookup k = d.pending.lookup k := by
  induction keys generalizing d with
  | nil => rfl
  | cons key keys ih =>
    rw [List.mem_cons, not_or] at kept
    have once : (d.flush cfg tick key).pending.lookup k = d.pending.lookup k := by
      unfold flush
      split
      · rfl
      · exact AList.lookup_erase_ne kept.1
    exact (ih kept.2).trans once

theorem request_of_beginKey {call : Call} (begins : call.beginKey? = some key) :
    ∃ netId port ev, call.request = .event netId port (.spanBegin ev) ∧ key = ⟨netId, ev.spanId⟩ := by
  unfold Call.beginKey? at begins
  split at begins
  next netId port ev isBegin => exact ⟨netId, port, ev, isBegin, (Option.some.inj begins).symm⟩
  next => cases begins

section

variable (wellKeyed : WellKeyed d)

include wellKeyed

theorem WellKeyed.closeSpan (key : SpanKey) (sent : Sent) : WellKeyed (d.closeSpan key sent) := by
  constructor
  · intro k p found
    by_cases same : k = key
    · subst same
      rw [SpanDispatcher.closeSpan, AList.lookup_erase] at found
      cases found
    · rw [SpanDispatcher.closeSpan, AList.lookup_erase_ne same] at found
      exact wellKeyed.key_eq found
  · intro id k found
    by_cases same : id = key.spanId
    · subst same
      rw [SpanDispatcher.closeSpan, Finmap.lookup_erase] at found
      cases found
    · rw [SpanDispatcher.closeSpan, Finmap.lookup_erase_ne same] at found
      obtain ⟨member, sameId⟩ := wellKeyed.pointed found
      refine ⟨AList.mem_erase.mpr ⟨?_, member⟩, sameId⟩
      -- a span with another id is another span
      rintro rfl
      exact same sameId.symm

theorem WellKeyed.putSpan (sameKey : p.key = key) : WellKeyed (d.putSpan key p) := by
  constructor
  · intro k q found
    by_cases same : k = key
    · subst same
      rw [SpanDispatcher.putSpan, AList.lookup_insert] at found
      cases found
      exact sameKey
    · rw [SpanDispatcher.putSpan, AList.lookup_insert_ne same] at found
      exact wellKeyed.key_eq found
  · intro id k found
    obtain ⟨present, sameId⟩ := wellKeyed.pointed found
    exact ⟨(AList.mem_insert _).mpr (.inr present), sameId⟩

theorem WellKeyed.openSpan (p : PendingSpan) : WellKeyed (d.openSpan p) := by
  constructor
  · intro k q found
    by_cases same : k = p.key
    · subst same
      rw [SpanDispatcher.openSpan, AList.lookup_insert] at found
      cases found
      rfl
    · rw [SpanDispatcher.openSpan, AList.lookup_insert_ne same] at found
      exact wellKeyed.key_eq found
  · intro id k found
    simp only [SpanDispatcher.openSpan, AList.mem_insert]
    rcases HashMap.lookup_insert_cases found with ⟨rfl, rfl⟩ | older
    · exact ⟨.inl rfl, rfl⟩
    · obtain ⟨present, sameId⟩ := wellKeyed.pointed older
      exact ⟨.inr present, sameId⟩

theorem WellKeyed.change (change : Change tick d d') : WellKeyed d' := by
  cases change with
  | counted lineage =>
    constructor
    · intro k p found
      rw [countOrphan_pending] at found
      exact wellKeyed.key_eq found
    · intro id k found
      rw [countOrphan_pendingBySpanId] at found
      rw [countOrphan_pending]
      exact wellKeyed.pointed found
  | closed found accepted => exact wellKeyed.closeSpan _ _
  | changed found same => exact wellKeyed.putSpan (same.key_eq.trans (wellKeyed.key_eq found))

theorem WellKeyed.changes (changes : Changes tick d d') : WellKeyed d' := by
  induction changes with
  | refl => exact wellKeyed
  | tail _ change ih => exact ih.change change

theorem WellKeyed.flush_changes (key : SpanKey) : Changes tick d (d.flush cfg tick key) := by
  by_cases member : key ∈ d.pending
  · obtain ⟨p, found⟩ := lookup_of_mem member
    rw [wellKeyed.flush_eq found]
    apply Relation.ReflTransGen.single
    apply Change.closed found
    rw [timedOut, wellKeyed.key_eq found]
  · rw [flush_of_notMem member]

theorem WellKeyed.flushAll_changes (keys : List SpanKey) : Changes tick d (flushAll cfg tick keys d) := by
  induction keys generalizing d with
  | nil => exact .refl
  | cons key keys ih =>
    have first : Changes tick d (d.flush cfg tick key) := wellKeyed.flush_changes key
    exact first.trans (ih (wellKeyed.changes first))

theorem WellKeyed.modify_changes (id : Bytes 8) (same : ∀ p, SameOpening p (f p)) :
    Changes tick d (d.modify id f) := by
  cases indexed : d.pendingBySpanId.lookup id with
  | none => rw [modify_of_none indexed]
  | some key =>
    obtain ⟨p, found⟩ := wellKeyed.lookup_of_indexed indexed
    rw [modify_eq indexed found]
    exact .single (.changed found (same p))

theorem WellKeyed.onEnd_changes (ev : SpanEnd) : Changes tick d (d.onEnd cfg tick ev) := by
  cases indexed : d.pendingBySpanId.lookup ev.spanId with
  | none => rw [onEnd_of_none indexed]
  | some key =>
    obtain ⟨p, found⟩ := wellKeyed.lookup_of_indexed indexed
    rw [wellKeyed.onEnd_eq indexed found]
    apply Relation.ReflTransGen.single
    apply Change.closed found
    rw [ended, wellKeyed.key_eq found]

theorem WellKeyed.serve_changes {call : Call} (noBegin : call.beginKey? = none) :
    Changes call.tick d (d.serve cfg call) := by
  obtain ⟨tick, request⟩ := call
  cases request with
  | sweep => exact wellKeyed.flushAll_changes _
  | event netId port ev =>
    cases ev with
    | spanBegin ev => cases noBegin
    | spanAttr ev | spanEvent ev => exact wellKeyed.modify_changes ev.spanId fun _ => rfl
    | spanEnd ev => exact wellKeyed.onEnd_changes ev

theorem WellKeyed.serve_served (call : Call) : Served cfg d call (d.serve cfg call) := by
  cases begins : call.beginKey? with
  | none => exact .kept begins (wellKeyed.serve_changes begins)
  | some key =>
    obtain ⟨netId, port, ev, isBegin, -⟩ := request_of_beginKey begins
    have counted : Changes call.tick d (d.countOrphan (d.resolveParent ev)) := .single (.counted _)
    rw [serve, isBegin]
    change Served cfg d call (d.onBegin cfg call.tick netId port ev)
    rw [onBegin_eq]
    apply Served.begun isBegin
    · exact counted.trans ((wellKeyed.changes counted).flushAll_changes _)
    · -- the last span that was flushed is the one with the new key
      rw [mem_flushAll_iff]
      simp

theorem WellKeyed.serve (call : Call) : WellKeyed (d.serve cfg call) := by
  have served : Served cfg d call (d.serve cfg call) := wellKeyed.serve_served call
  generalize d.serve cfg call = d' at served ⊢
  cases served with
  | kept noBegin changes => exact wellKeyed.changes changes
  | begun isBegin changes fresh => exact (wellKeyed.changes changes).openSpan _

end

theorem WellKeyed.new : WellKeyed .new := by
  constructor
  · intro k p found
    cases found
  · intro id k found
    cases found

end SpanDispatcher

open SpanDispatcher

theorem serveAll_concat (cfg : Config) (calls : List Call) (call : Call) :
    serveAll cfg (calls ++ [call]) = (serveAll cfg calls).serve cfg call := by
  simp [serveAll]

theorem wellKeyed_serveAll (cfg : Config) (calls : List Call) : WellKeyed (serveAll cfg calls) := by
  induction calls using List.reverseRecOn with
  | nil => exact WellKeyed.new
  | append_singleton calls call ih =>
    rw [serveAll_concat]
    exact ih.serve call

/-- What holds at first and is kept by every effect of a call holds after every run. -/
theorem serveAll_rule {P : List Call → SpanDispatcher → Prop} (cfg : Config) (first : P [] .new)
    (step : ∀ {calls call d d'}, WellKeyed d → Served cfg d call d' → P calls d → P (calls ++ [call]) d')
    (calls : List Call) : P calls (serveAll cfg calls) := by
  induction calls using List.reverseRecOn with
  | nil => exact first
  | append_singleton calls call ih =>
    rw [serveAll_concat]
    exact step (wellKeyed_serveAll cfg calls) ((wellKeyed_serveAll cfg calls).serve_served call) ih

/-! ### Inverse maps -/

/-- Every pending key is found under its span id, and every index entry leads to a pending key
that has its span id. -/
structure MapsInverse (d : SpanDispatcher) : Prop where
  indexed : ∀ key, key ∈ d.pending → d.pendingBySpanId.lookup key.spanId = some key
  pointed : ∀ id key, d.pendingBySpanId.lookup id = some key → key ∈ d.pending ∧ key.spanId = id

/-- A SPAN_BEGIN with the id of a span that is pending for another PLC and is not just being
evicted. -/
def Clashes (cfg : Config) (d : SpanDispatcher) (call : Call) : Prop :=
  match call.request with
  | .event netId _ (.spanBegin ev) =>
    ∃ key ∈ d.pending, key.spanId = ev.spanId ∧ key.amsNetId ≠ netId ∧
      evicted cfg call.tick d ≠ some key
  | _ => False

/-- The half of `MapsInverse` that can be lost. -/
def AllIndexed (d : SpanDispatcher) : Prop :=
  ∀ key, key ∈ d.pending → d.pendingBySpanId.lookup key.spanId = some key

section

variable {cfg : Config} {tick : Tick} {d d' : SpanDispatcher} {key k : SpanKey}

theorem mapsInverse_iff_allIndexed (wellKeyed : WellKeyed d) : MapsInverse d ↔ AllIndexed d := by
  constructor
  · exact fun inverse => inverse.indexed
  · exact fun indexed => ⟨indexed, fun _ _ => wellKeyed.pointed⟩

theorem AllIndexed.closeSpan (indexed : AllIndexed d) (member : key ∈ d.pending) (sent : Sent) :
    AllIndexed (d.closeSpan key sent) := by
  intro k present
  obtain ⟨other, present⟩ := AList.mem_erase.mp present
  have entry := indexed k present
  -- the entry of another span is not the one that is removed
  have apart : k.spanId ≠ key.spanId := by
    intro same
    rw [same, indexed key member] at entry
    cases entry
    exact other rfl
  rwa [SpanDispatcher.closeSpan, Finmap.lookup_erase_ne apart]

theorem AllIndexed.changes (indexed : AllIndexed d) (changes : Changes tick d d') : AllIndexed d' := by
  induction changes with
  | refl => exact indexed
  | tail _ change ih =>
    cases change with
    | counted lineage =>
      rwa [AllIndexed, countOrphan_pending, countOrphan_pendingBySpanId]
    | closed found accepted => exact ih.closeSpan (mem_of_lookup found) _
    | changed found same =>
      intro k present
      rcases (AList.mem_insert _).mp present with rfl | present
      · exact ih k (mem_of_lookup found)
      · exact ih k present

theorem AllIndexed.openSpan_iff (indexed : AllIndexed d) (p : PendingSpan) :
    AllIndexed (d.openSpan p) ↔ ∀ k ∈ d.pending, k.spanId = p.spanId → k = p.key := by
  constructor
  · intro after k present sameId
    have entry := after k ((AList.mem_insert _).mpr (.inr present))
    rw [SpanDispatcher.openSpan, sameId, Finmap.lookup_insert] at entry
    cases entry
    rfl
  · intro alone k present
    rcases (AList.mem_insert _).mp present with rfl | present
    · exact Finmap.lookup_insert _
    · by_cases same : k.spanId = p.spanId
      · rw [alone k present same]
        exact Finmap.lookup_insert _
      · rw [SpanDispatcher.openSpan, Finmap.lookup_insert_of_ne _ same]
        exact indexed k present

/-- SPAN_BEGIN keeps all spans indexed exactly when it does not clash. -/
theorem AllIndexed.onBegin_iff (indexed : AllIndexed d) (wellKeyed : WellKeyed d) (netId : AmsNetId)
    (port : UInt16) (ev : SpanBegin) : AllIndexed (d.onBegin cfg tick netId port ev) ↔
      ¬Clashes cfg d ⟨tick, .event netId port (.spanBegin ev)⟩ := by
  have counted : Changes tick d (d.countOrphan (d.resolveParent ev)) := .single (.counted _)
  have flushed : Changes tick d (flushAll cfg tick ((evicted cfg tick d).toList ++ [⟨netId, ev.spanId⟩])
      (d.countOrphan (d.resolveParent ev))) :=
    counted.trans ((wellKeyed.changes counted).flushAll_changes _)
  rw [onBegin_eq, (indexed.changes flushed).openSpan_iff]
  simp only [mem_flushAll_iff, countOrphan_pending, List.mem_append, List.mem_singleton, Option.mem_toList, not_or]
  constructor
  · rintro alone ⟨k, present, sameId, foreign, kept⟩
    have other : k ≠ ⟨netId, ev.spanId⟩ := fun same => foreign (by rw [same])
    exact other (alone k ⟨present, kept, other⟩ sameId)
  · rintro noClash k ⟨present, kept, other⟩ sameId
    refine absurd ⟨k, present, sameId, ?_, kept⟩ noClash
    -- a span of the same PLC with that id is the one that was flushed
    intro sameNet
    exact other (by cases k; cases sameNet; cases sameId; rfl)

/-- One call keeps the maps inverse exactly when it does not clash. -/
theorem MapsInverse.serve_iff (inverse : MapsInverse d) (wellKeyed : WellKeyed d) (call : Call) :
    MapsInverse (d.serve cfg call) ↔ ¬Clashes cfg d call := by
  have indexed : AllIndexed d := inverse.indexed
  rw [mapsInverse_iff_allIndexed (wellKeyed.serve call)]
  cases begins : call.beginKey? with
  | none =>
    have noClash : ¬Clashes cfg d call := by
      unfold Clashes
      split
      next isBegin =>
        rw [Call.beginKey?, isBegin] at begins
        cases begins
      next => exact id
    exact iff_of_true (indexed.changes (wellKeyed.serve_changes begins)) noClash
  | some key =>
    obtain ⟨tick, request⟩ := call
    obtain ⟨netId, port, ev, rfl, -⟩ := request_of_beginKey begins
    exact indexed.onBegin_iff wellKeyed netId port ev

end

theorem MapsInverse.new : MapsInverse .new := by
  constructor
  · intro key present
    cases present
  · intro id key found
    cases found

/-- Along a run without clashes: each call keeps what the ones before it have kept. -/
theorem mapsInverse_serveAll (cfg : Config) (calls : List Call)
    (noClash : ∀ done call, done ++ [call] <+: calls → ¬Clashes cfg (serveAll cfg done) call) :
    MapsInverse (serveAll cfg calls) := by
  induction calls using List.reverseRecOn with
  | nil => exact MapsInverse.new
  | append_singleton calls call ih =>
    have start := ih fun done other before =>
      noClash done other (before.trans (List.prefix_append calls [call]))
    rw [serveAll_concat]
    apply (start.serve_iff (wellKeyed_serveAll cfg calls) call).mpr
    exact noClash calls call List.prefix_rfl

/-- In every run: the maps are inverse in all its states exactly when no SPAN_BEGIN clashes. -/
theorem mapsInverse_iff (cfg : Config) (calls : List Call) :
    (∀ done, done <+: calls → MapsInverse (serveAll cfg done)) ↔
      ∀ done call, done ++ [call] <+: calls → ¬Clashes cfg (serveAll cfg done) call := by
  constructor
  · intro always done call before
    have start := always done ((List.prefix_append done [call]).trans before)
    have next := always (done ++ [call]) before
    rw [serveAll_concat] at next
    exact (start.serve_iff (wellKeyed_serveAll cfg done) call).mp next
  · intro noClash done before
    apply mapsInverse_serveAll
    exact fun first call inside => noClash first call (inside.trans before)

/-! ### Two PLCs with one span id -/

def sampleConfig : Config := ⟨.unlimited, 1000000000, 10, "tc-otel", "host"⟩

def plc (n : UInt8) : AmsNetId := ⟨[n, 0, 0, 0, 1, 1], rfl⟩

/-- A root span whose id ends in the given number. -/
def rootSpan (n : UInt8) (name : String) : SpanBegin where
  localId := 0
  taskIndex := 1
  flags := 0
  dcTime := 1
  parentSpanId := Bytes.zero 8
  kind := 0
  name := name
  traceparent := none
  traceId := Bytes.zero 16
  spanId := ⟨[0, 0, 0, 0, 0, 0, 0, n], rfl⟩
  scopeNamespace := ""

def beginAt (instant : Nat) (netId : AmsNetId) (ev : SpanBegin) : Call :=
  ⟨.atInstant instant, .event netId 350 (.spanBegin ev)⟩

def sameSpanId : List Call := [beginAt 1 (plc 1) (rootSpan 7 "a"), beginAt 2 (plc 2) (rootSpan 7 "b")]

theorem sameSpanId_not_mapsInverse : ¬MapsInverse (serveAll sampleConfig sameSpanId) := by
  intro inverse
  have first := inverse.indexed ⟨plc 1, (rootSpan 7 "a").spanId⟩ (by decide +kernel)
  exact absurd first (by decide +kernel)

end TcOtel.Service
