import TcOtel.Service.SpanIndex

/-!
# Spans and their records

A span leaves `pending` in the same step in which its record is sent, whichever way it ends.
So for every key the spans sent so far, followed by the pending one, are the spans that its
SPAN_BEGINs have opened: one for each, in order.
-/

namespace TcOtel.Service

open Decoding Ads SpanDispatcher

def SpanDispatcher.received (d : SpanDispatcher) : List Sent := d.traceTx.filter Sent.accepted

/-- The spans of a key: those sent so far, then the pending one. -/
def SpanDispatcher.spansFor (key : SpanKey) (d : SpanDispatcher) : List PendingSpan :=
  (d.traceTx.map Sent.span).filter (fun p => p.key = key) ++ (d.pending.lookup key).toList

def SpanDispatcher.tally (d : SpanDispatcher) : Nat := d.traceTx.length + d.pendingCount

def Call.isBegin (call : Call) : Bool := call.beginKey?.isSome

def beginsFor (key : SpanKey) (calls : List Call) : List Call :=
  calls.filter fun call => call.beginKey? = some key

/-- The span is the one that the SPAN_BEGIN has opened, with some attributes and events. -/
def OpenedBy (cfg : Config) (call : Call) (p : PendingSpan) : Prop :=
  ∃ netId port ev lineage, call.request = .event netId port (.spanBegin ev) ∧
    SameOpening (newSpan cfg call.tick netId port ev lineage) p

section

variable {cfg : Config} {tick : Tick} {d d' mid : SpanDispatcher} {key : SpanKey}

theorem OpenedBy.same (opened : OpenedBy cfg call p) (same : SameOpening p q) : OpenedBy cfg call q := by
  obtain ⟨netId, port, ev, lineage, isBegin, first⟩ := opened
  exact ⟨netId, port, ev, lineage, isBegin, first.trans same⟩

theorem forall₂_comp {α β γ : Type} {r : α → β → Prop} {s : β → γ → Prop} {t : α → γ → Prop}
    {as : List α} {bs : List β} {cs : List γ} (one : List.Forall₂ r as bs)
    (two : List.Forall₂ s bs cs) (compose : ∀ {a b c}, r a b → s b c → t a c) : List.Forall₂ t as cs := by
  induction one generalizing cs with
  | nil =>
    cases two
    exact .nil
  | cons head tail ih =>
    cases two with
    | cons head' tail' => exact .cons (compose head head') (ih tail')

/-! ### What one change does -/

theorem spansFor_closeSpan (wellKeyed : WellKeyed d) (found : d.pending.lookup k = some sent.span) :
    (d.closeSpan k sent).spansFor key = d.spansFor key := by
  have spanKey := wellKeyed.key_eq found
  simp only [spansFor, closeSpan]
  by_cases same : key = k
  · subst same
    rw [found]
    simp [spanKey]
  · have other : ¬sent.span.key = key := fun equal => same (equal.symm.trans spanKey)
    rw [AList.lookup_erase_ne same]
    simp [other]

theorem spansFor_putSpan (found : d.pending.lookup k = some p) (same : SameOpening p q) :
    List.Forall₂ SameOpening (d.spansFor key) ((d.putSpan k q).spansFor key) := by
  simp only [putSpan]
  apply List.rel_append
  · exact List.forall₂_same.mpr fun p _ => .refl p
  · by_cases equal : key = k
    · subst equal
      rw [AList.lookup_insert, found]
      exact .cons same .nil
    · rw [AList.lookup_insert_ne equal]
      exact List.forall₂_same.mpr fun p _ => .refl p

theorem spansFor_changes (key : SpanKey) (wellKeyed : WellKeyed d) (changes : Changes tick d d') :
    List.Forall₂ SameOpening (d.spansFor key) (d'.spansFor key) := by
  induction changes with
  | refl => exact List.forall₂_same.mpr fun p _ => .refl p
  | tail before change ih =>
    refine forall₂_comp ih ?_ SameOpening.trans
    cases change with
    | counted lineage =>
      simp only [spansFor, countOrphan_traceTx, countOrphan_pending]
      exact List.forall₂_same.mpr fun p _ => .refl p
    | closed found accepted =>
      rw [spansFor_closeSpan (wellKeyed.changes before) found]
      exact List.forall₂_same.mpr fun p _ => .refl p
    | changed found same => exact spansFor_putSpan found same

theorem spansFor_openSpan (fresh : p.key ∉ d.pending) : (d.openSpan p).spansFor key =
      d.spansFor key ++ if p.key = key then [p] else [] := by
  simp only [spansFor, openSpan]
  by_cases same : p.key = key
  · subst same
    rw [AList.lookup_eq_none.mpr fresh]
    simp
  · rw [AList.lookup_insert_ne (Ne.symm same)]
    simp [same]

theorem tally_changes (changes : Changes tick d d') : d'.tally = d.tally := by
  induction changes with
  | refl => rfl
  | tail _ change ih =>
    rw [← ih]
    cases change with
    | counted lineage => rw [tally, countOrphan_traceTx, countOrphan_pendingCount, tally]
    | closed found accepted =>
      -- one record more, one pending span less
      have member := mem_of_lookup found
      have shorter := List.length_erase_of_mem (AList.mem_keys.mp member)
      have nonempty := List.length_pos_of_mem (AList.mem_keys.mp member)
      simp only [tally, pendingCount, closeSpan, AList.keys_erase, List.length_append,
        List.length_singleton]
      omega
    | changed found same =>
      have member := mem_of_lookup found
      have shorter := List.length_erase_of_mem (AList.mem_keys.mp member)
      have nonempty := List.length_pos_of_mem (AList.mem_keys.mp member)
      simp only [tally, pendingCount, putSpan, AList.keys_insert, List.length_cons]
      omega

theorem tally_openSpan (fresh : p.key ∉ d.pending) : (d.openSpan p).tally = d.tally + 1 := by
  have absent : p.key ∉ d.pending.keys := fun member => fresh (AList.mem_keys.mpr member)
  simp only [tally, pendingCount, openSpan, AList.keys_insert, List.erase_of_not_mem absent,
    List.length_cons]
  omega

theorem accepted_changes (room : ∀ key, tick.room key = true)
    (all : ∀ sent ∈ d.traceTx, sent.accepted = true) (changes : Changes tick d d') :
    ∀ sent ∈ d'.traceTx, sent.accepted = true := by
  induction changes with
  | refl => exact all
  | tail _ change ih =>
    cases change with
    | counted lineage => rwa [countOrphan_traceTx]
    | closed found accepted =>
      intro sent member
      rcases List.mem_append.mp member with old | new
      · exact ih sent old
      · rw [List.mem_singleton.mp new, accepted, room]
    | changed found same => exact ih

end

/-! ### What a run does -/

theorem tally_serveAll (cfg : Config) (calls : List Call) :
    (serveAll cfg calls).tally = (calls.filter Call.isBegin).length := by
  refine @serveAll_rule (fun calls d => d.tally = (calls.filter Call.isBegin).length) cfg rfl ?_ calls
  intro calls call d d' wellKeyed served ih
  rw [List.filter_append, List.length_append, ← ih]
  cases served with
  | kept noBegin changes =>
    rw [tally_changes changes]
    simp [Call.isBegin, noBegin]
  | begun isBegin changes fresh =>
    rw [tally_openSpan fresh, tally_changes changes]
    simp [Call.isBegin, Call.beginKey?, isBegin]

theorem spansFor_serveAll (cfg : Config) (calls : List Call) (key : SpanKey) :
    List.Forall₂ (OpenedBy cfg) (beginsFor key calls) ((serveAll cfg calls).spansFor key) := by
  refine @serveAll_rule (fun calls d => List.Forall₂ (OpenedBy cfg) (beginsFor key calls) (d.spansFor key)) cfg .nil
    ?_ calls
  intro calls call d d' wellKeyed served ih
  rw [beginsFor, List.filter_append]
  cases served with
  | kept noBegin changes =>
    have same := spansFor_changes key wellKeyed changes
    have none : [call].filter (fun call => call.beginKey? = some key) = [] := by simp [noBegin]
    rw [none, List.append_nil]
    exact forall₂_comp ih same OpenedBy.same
  | @begun netId port ev mid isBegin changes fresh =>
    have same := spansFor_changes key wellKeyed changes
    have before := forall₂_comp ih same OpenedBy.same
    rw [spansFor_openSpan fresh]
    apply List.rel_append before
    -- the new span goes to the list of its own key
    by_cases own : (⟨netId, ev.spanId⟩ : SpanKey) = key
    · have opened : OpenedBy cfg call (newSpan cfg call.tick netId port ev (d.resolveParent ev)) :=
        ⟨netId, port, ev, _, isBegin, .refl _⟩
      simp only [List.filter_cons, Call.beginKey?, isBegin, own, newSpan_key]
      exact .cons opened .nil
    · simp [Call.beginKey?, isBegin, own]

theorem accepted_serveAll (cfg : Config) (calls : List Call)
    (room : ∀ call ∈ calls, ∀ key, call.tick.room key = true) :
    ∀ sent ∈ (serveAll cfg calls).traceTx, sent.accepted = true := by
  induction calls using List.reverseRecOn with
  | nil => exact fun sent member => by cases member
  | append_singleton calls call ih =>
    have served : Served cfg (serveAll cfg calls) call ((serveAll cfg calls).serve cfg call) :=
      (wellKeyed_serveAll cfg calls).serve_served call
    have before := ih fun other member => room other (List.mem_append_left _ member)
    have now := room call (List.mem_append_right _ (List.mem_singleton_self call))
    rw [serveAll_concat]
    generalize (serveAll cfg calls).serve cfg call = d' at served ⊢
    cases served with
    | kept noBegin changes => exact accepted_changes now before changes
    | @begun _ _ _ mid isBegin changes fresh =>
      have others : ∀ sent ∈ mid.traceTx, sent.accepted = true := accepted_changes now before changes
      exact others

/-- When the channel never fills, records and pending spans are together as many as SPAN_BEGINs.
For every key they are in step: its SPAN_BEGINs have, each in turn, opened the span of one
record, and the last one may have opened the span that is pending. -/
theorem spans_conserved (cfg : Config) (calls : List Call)
    (room : ∀ call ∈ calls, ∀ key, call.tick.room key = true) :
    (serveAll cfg calls).received.length + (serveAll cfg calls).pendingCount =
        (calls.filter Call.isBegin).length ∧ ∀ key, List.Forall₂ (OpenedBy cfg) (beginsFor key calls)
        (((serveAll cfg calls).received.map Sent.span).filter (fun p => p.key = key) ++
          ((serveAll cfg calls).pending.lookup key).toList) := by
  have all : (serveAll cfg calls).received = (serveAll cfg calls).traceTx :=
    List.filter_eq_self.mpr (accepted_serveAll cfg calls room)
  rw [all]
  exact ⟨tally_serveAll cfg calls, spansFor_serveAll cfg calls⟩

theorem spans_conserved_sameSpanId : (∀ call ∈ sameSpanId, ∀ key, call.tick.room key = true) ∧
      (serveAll sampleConfig sameSpanId).received.length +
        (serveAll sampleConfig sameSpanId).pendingCount = (sameSpanId.filter Call.isBegin).length := by
  have room : ∀ call ∈ sameSpanId, ∀ key, call.tick.room key = true := by
    intro call member key
    simp only [sameSpanId, List.mem_cons, List.not_mem_nil, or_false] at member
    rcases member with rfl | rfl <;> rfl
  exact ⟨room, (spans_conserved sampleConfig sameSpanId room).1⟩

end TcOtel.Service
