import Mathlib.Logic.Function.Basic
import TcOtel.Lib.Observer
import TcOtel.Service.SpanLife

/-!
# One PLC among others

Taken alone, a PLC has a dispatcher of its own: a map from span ids to its pending spans
(`PlcView`). The shared dispatcher behaves like that for it as long as no other PLC has a span
with one of its ids pending (`Separate`): the records of the PLC then depend on its own events
and the sweeps only. The index by span id is the one place where the PLCs meet, and the calls
that meet there are the ones `Crosses` lists.
-/

namespace TcOtel.Service

open Decoding Ads SpanDispatcher Observing

/-! ### A PLC alone -/

/-- The calls that matter to a PLC: its own events and the sweep. -/
def Call.concerns (netId : AmsNetId) (call : Call) : Bool :=
  match call.request with
  | .event sender _ _ => sender = netId
  | .sweep => true

/-- The surroundings of two calls are the same for this PLC; the channel and the order of the
map may differ. -/
structure Tick.Alike (netId : AmsNetId) (tick tick' : Tick) : Prop where
  instant : tick.instant = tick'.instant
  now : tick.now = tick'.now
  utc : ∀ id, tick.utc ⟨netId, id⟩ = tick'.utc ⟨netId, id⟩
  registry : ∀ port task, tick.registry ⟨netId.display, port, task⟩ =
    tick'.registry ⟨netId.display, port, task⟩

def Call.Alike (netId : AmsNetId) (call call' : Call) : Prop :=
  call.request = call'.request ∧ call.tick.Alike netId call'.tick

/-- Two runs with the same events of this PLC, and the same sweeps, at the same times. -/
def Agree (netId : AmsNetId) (calls calls' : List Call) : Prop :=
  List.Forall₂ (Call.Alike netId) (calls.filter (Call.concerns netId))
    (calls'.filter (Call.concerns netId))

/-- The pending spans of one PLC. -/
abbrev PlcView := Bytes 8 → Option PendingSpan

namespace PlcView

variable {cfg : Config} {netId : AmsNetId} {v v₁ v₂ : PlcView} {out₁ out₂ : List TraceRecord}

/-- The parent of a span is one of the PLC's own spans. -/
def lineage (v : PlcView) (ev : SpanBegin) : Lineage :=
  match ev.traceparent with
  | some tp =>
    match parseW3cTraceparent tp with
    | some (tid, sid) => ⟨tid, some sid, none, false⟩
    | none => ⟨ev.traceId, none, none, false⟩
  | none =>
    if ev.parentSpanId ≠ Bytes.zero 8 then
      match v ev.parentSpanId with
      | some parent => ⟨parent.traceId, some ev.parentSpanId, none, false⟩
      | none => ⟨ev.traceId, none, some s!"parent_span_id_{ev.parentSpanId.val}_not_found", true⟩
    else ⟨ev.traceId, none, none, false⟩

def timeoutRecord (cfg : Config) (tick : Tick) (netId : AmsNetId) (id : Bytes 8) (p : PendingSpan) :
    TraceRecord :=
  p.toRecord cfg (tick.utc ⟨netId, id⟩) .error (timeoutMessage cfg)

def endRecord (cfg : Config) (tick : Tick) (ev : SpanEnd) (p : PendingSpan) : TraceRecord :=
  p.toRecord cfg (dcTimeToDatetime cfg.chrono tick.now ev.dcTime) (statusCode ev.status) ev.message

/-- What a call does to the spans of the PLC, and the records it emits for them. A sweep may take
the spans in any order. -/
inductive Step (cfg : Config) (netId : AmsNetId) (v : PlcView) :
    Call → PlcView → List TraceRecord → Prop
  | begun {tick : Tick} {port : UInt16} {ev : SpanBegin} :
      Step cfg netId v ⟨tick, .event netId port (.spanBegin ev)⟩
        (Function.update v ev.spanId (some (newSpan cfg tick netId port ev (v.lineage ev))))
        ((v ev.spanId).toList.map (timeoutRecord cfg tick netId ev.spanId))
  | attr {tick : Tick} {port : UInt16} {ev : SpanAttr} :
      Step cfg netId v ⟨tick, .event netId port (.spanAttr ev)⟩
        (Function.update v ev.spanId ((v ev.spanId).map fun p =>
          { p with attrs := p.attrs.insert ev.key ev.value })) []
  | point {tick : Tick} {port : UInt16} {ev : SpanPoint} :
      Step cfg netId v ⟨tick, .event netId port (.spanEvent ev)⟩
        (Function.update v ev.spanId ((v ev.spanId).map fun p =>
          { p with events := p.events ++ [heldEvent cfg tick ev] })) []
  | ended {tick : Tick} {port : UInt16} {ev : SpanEnd} :
      Step cfg netId v ⟨tick, .event netId port (.spanEnd ev)⟩ (Function.update v ev.spanId none)
        ((v ev.spanId).toList.map (endRecord cfg tick ev))
  | swept {tick : Tick} {ids : List (Bytes 8)} (nodup : ids.Nodup)
      (late : ∀ id, id ∈ ids ↔ ∃ p, v id = some p ∧ p.deadline ≤ tick.instant) :
      Step cfg netId v ⟨tick, .sweep⟩ (fun id => if id ∈ ids then none else v id)
        (ids.filterMap fun id => (v id).map (timeoutRecord cfg tick netId id))

theorem timeoutRecord_alike (alike : tick.Alike netId tick') (id : Bytes 8) :
    timeoutRecord cfg tick netId id = timeoutRecord cfg tick' netId id := by
  funext p
  simp [timeoutRecord, alike.utc]

theorem newSpan_alike (alike : tick.Alike netId tick') (port : UInt16) (ev : SpanBegin) (lineage : Lineage) :
    newSpan cfg tick netId port ev lineage = newSpan cfg tick' netId port ev lineage := by
  simp [newSpan, alike.instant, alike.now, alike.registry]

/-- The view determines what a call does, apart from the order of a sweep. -/
theorem Step.determined (alike : call.Alike netId call')
    (one : Step cfg netId v call v₁ out₁) (two : Step cfg netId v call' v₂ out₂) :
    v₁ = v₂ ∧ out₁.Perm out₂ ∧ (call.request ≠ .sweep → out₁ = out₂) := by
  obtain ⟨tick, request⟩ := call
  obtain ⟨tick', request'⟩ := call'
  obtain ⟨same, alike⟩ := alike
  simp only at same alike
  subst same
  cases one with
  | begun =>
    cases two
    rw [newSpan_alike alike, timeoutRecord_alike alike]
    exact ⟨rfl, .refl _, fun _ => rfl⟩
  | attr =>
    cases two
    exact ⟨rfl, .refl _, fun _ => rfl⟩
  | point =>
    cases two
    have held : ∀ ev, heldEvent cfg tick ev = heldEvent cfg tick' ev := by
      intro ev
      rw [heldEvent, heldEvent, alike.now]
    rw [held]
    exact ⟨rfl, .refl _, fun _ => rfl⟩
  | ended =>
    cases two
    have records : ∀ ev, endRecord cfg tick ev = endRecord cfg tick' ev := by
      intro ev
      funext p
      simp [endRecord, alike.now]
    rw [records]
    exact ⟨rfl, .refl _, fun _ => rfl⟩
  | @swept _ ids nodup late =>
    cases two with
    | @swept _ ids' nodup' late' =>
      have members : ∀ id, id ∈ ids ↔ id ∈ ids' := by
        intro id
        rw [late id, late' id, alike.instant]
      refine ⟨?_, ?_, fun isEvent => absurd rfl isEvent⟩
      · funext id
        simp [members id]
      · simp only [timeoutRecord_alike alike]
        exact ((List.perm_ext_iff_of_nodup nodup nodup').mpr members).filterMap _

end PlcView

/-! ### The shared dispatcher, seen by one PLC -/

def SpanDispatcher.view (netId : AmsNetId) (d : SpanDispatcher) : PlcView :=
  fun id => d.pending.lookup ⟨netId, id⟩

/-- The records emitted for the spans of a PLC, in order. -/
def SpanDispatcher.recordsFor (netId : AmsNetId) (d : SpanDispatcher) : List TraceRecord :=
  (d.traceTx.filter fun sent => sent.span.amsNetId = netId).map Sent.record

/-- The pending spans of this PLC are all in the index, and no other PLC has one of their ids. -/
structure Separate (netId : AmsNetId) (d : SpanDispatcher) : Prop where
  indexed : ∀ {id}, ⟨netId, id⟩ ∈ d.pending → d.pendingBySpanId.lookup id = some ⟨netId, id⟩
  alone : ∀ {key id}, ⟨netId, id⟩ ∈ d.pending → key ∈ d.pending → key.spanId = id → key = ⟨netId, id⟩

section

variable {cfg : Config} {tick : Tick} {netId : AmsNetId} {d d' : SpanDispatcher} {key : SpanKey}
  {id : Bytes 8} {p : PendingSpan} {sent : Sent}

theorem SpanKey.eq_mk (sameNet : key.amsNetId = netId) (sameId : key.spanId = id) : key = ⟨netId, id⟩ := by
  cases key
  cases sameNet
  cases sameId
  rfl

theorem view_closeSpan_own : (d.closeSpan ⟨netId, id⟩ sent).view netId =
    Function.update (d.view netId) id none := by
  funext other
  by_cases same : other = id
  · subst same
    rw [Function.update_self]
    exact AList.lookup_erase _ _
  · rw [Function.update_of_ne same]
    exact AList.lookup_erase_ne fun equal => same (congrArg SpanKey.spanId equal)

theorem view_closeSpan_other (foreign : key.amsNetId ≠ netId) :
    (d.closeSpan key sent).view netId = d.view netId := by
  funext id
  apply AList.lookup_erase_ne
  rintro rfl
  exact foreign rfl

theorem view_putSpan_own : (d.putSpan ⟨netId, id⟩ p).view netId =
    Function.update (d.view netId) id (some p) := by
  funext other
  by_cases same : other = id
  · subst same
    rw [Function.update_self]
    exact AList.lookup_insert _
  · rw [Function.update_of_ne same]
    exact AList.lookup_insert_ne fun equal => same (congrArg SpanKey.spanId equal)

theorem view_putSpan_other (foreign : key.amsNetId ≠ netId) :
    (d.putSpan key p).view netId = d.view netId := by
  funext id
  apply AList.lookup_insert_ne
  rintro rfl
  exact foreign rfl

theorem recordsFor_closeSpan_own (ofPlc : sent.span.amsNetId = netId) :
    (d.closeSpan key sent).recordsFor netId = d.recordsFor netId ++ [sent.record] := by
  simp [recordsFor, closeSpan, ofPlc]

theorem recordsFor_closeSpan_other (foreign : sent.span.amsNetId ≠ netId) :
    (d.closeSpan key sent).recordsFor netId = d.recordsFor netId := by
  simp [recordsFor, closeSpan, foreign]

/-! ### Flushing -/

section

variable (wellKeyed : WellKeyed d)
include wellKeyed

theorem SpanDispatcher.WellKeyed.amsNetId_eq (found : d.pending.lookup key = some p) : p.amsNetId = key.amsNetId :=
  congrArg SpanKey.amsNetId (wellKeyed.key_eq found)

end

theorem traceTx_flushAll (wellKeyed : WellKeyed d) (nodup : keys.Nodup) :
    (flushAll cfg tick keys d).traceTx =
      d.traceTx ++ keys.filterMap fun key => (d.pending.lookup key).map (timedOut cfg tick) := by
  induction keys generalizing d with
  | nil => exact (List.append_nil _).symm
  | cons key keys ih =>
    obtain ⟨fresh, nodup⟩ := List.nodup_cons.mp nodup
    have next : WellKeyed (d.flush cfg tick key) := wellKeyed.changes (wellKeyed.flush_changes key)
    -- the spans that come later are not the one that is flushed first
    have later : ∀ k ∈ keys, (d.flush cfg tick key).pending.lookup k = d.pending.lookup k := by
      intro k member
      apply @lookup_flushAll_of_notMem cfg tick d k [key]
      rw [List.mem_singleton]
      rintro rfl
      exact fresh member
    change (flushAll cfg tick keys (d.flush cfg tick key)).traceTx = _
    rw [ih next nodup, List.filterMap_congr fun k member => by rw [later k member], List.filterMap_cons]
    cases found : d.pending.lookup key with
    | none => rw [flush_of_notMem (AList.lookup_eq_none.mp found), Option.map_none]
    | some p =>
      rw [wellKeyed.flush_eq found, Option.map_some, List.append_cons]
      rfl

def ownIds (netId : AmsNetId) (keys : List SpanKey) : List (Bytes 8) :=
  keys.filterMap fun key => if key.amsNetId = netId then some key.spanId else none

theorem mem_ownIds : id ∈ ownIds netId keys ↔ ⟨netId, id⟩ ∈ keys := by
  simp only [ownIds, List.mem_filterMap, Option.ite_none_right_eq_some, Option.some.injEq]
  constructor
  · rintro ⟨key, member, sameNet, sameId⟩
    rwa [← SpanKey.eq_mk sameNet sameId]
  · exact fun member => ⟨_, member, rfl, rfl⟩

theorem nodup_ownIds (nodup : keys.Nodup) : (ownIds netId keys).Nodup := by
  apply nodup.filterMap
  intro key key' id found found'
  simp only [Option.mem_def, Option.ite_none_right_eq_some, Option.some.injEq] at found found'
  rw [SpanKey.eq_mk found.1 found.2, SpanKey.eq_mk found'.1 found'.2]

theorem view_flushAll (keys : List SpanKey) : (flushAll cfg tick keys d).view netId =
    fun id => if id ∈ ownIds netId keys then none else d.view netId id := by
  funext id
  by_cases flushed : ⟨netId, id⟩ ∈ keys
  · rw [if_pos (mem_ownIds.mpr flushed)]
    apply AList.lookup_eq_none.mpr
    rw [mem_flushAll_iff]
    exact fun both => both.2 flushed
  · rw [if_neg fun member => flushed (mem_ownIds.mp member)]
    exact lookup_flushAll_of_notMem flushed

theorem recordsFor_flushAll (wellKeyed : WellKeyed d) (nodup : keys.Nodup) :
    (flushAll cfg tick keys d).recordsFor netId = d.recordsFor netId ++
      (ownIds netId keys).filterMap fun id =>
        (d.view netId id).map (PlcView.timeoutRecord cfg tick netId id) := by
  rw [recordsFor, traceTx_flushAll wellKeyed nodup, List.filter_append, List.map_append, List.filter_filterMap,
    List.map_filterMap, ownIds, List.filterMap_filterMap]
  refine congrArg _ (List.filterMap_congr fun key _ => ?_)
  obtain ⟨sender, id⟩ := key
  cases found : d.pending.lookup ⟨sender, id⟩ with
  | none =>
    by_cases own : sender = netId
    · subst own
      simp [view, found]
    · simp [own]
  | some p =>
    have net : p.amsNetId = sender := wellKeyed.amsNetId_eq found
    by_cases own : sender = netId
    · subst own
      simp [view, found, timedOut, PlcView.timeoutRecord, net, wellKeyed.key_eq found]
    · simp [own, net, timedOut]

theorem nodup_expired : (d.expired tick).Nodup := by
  have keys : (tick.order.arrange d.pending.keys).Nodup :=
    (tick.order.perm _).nodup_iff.mpr d.pending.keys_nodup
  have iterated : ((d.iter tick).map Prod.fst).Nodup := by
    rw [iter, List.map_filterMap]
    apply keys.filterMap
    intro key key' k found found'
    simp only [Option.map_map, Option.mem_def, Option.map_eq_some_iff] at found found'
    obtain ⟨_, -, same⟩ := found
    obtain ⟨_, -, same'⟩ := found'
    exact same.trans same'.symm
  exact iterated.sublist (List.filter_sublist.map _)

/-! ### Events -/

theorem Separate.view_eq_none (separate : Separate netId d)
    (other : d.pendingBySpanId.lookup id ≠ some ⟨netId, id⟩) : d.view netId id = none := by
  apply AList.lookup_eq_none.mpr
  intro member
  exact other (separate.indexed member)

/-- The index leads to the PLC's own span, or the PLC has none with this id. -/
theorem Separate.index_cases (separate : Separate netId d) (wellKeyed : WellKeyed d) (id : Bytes 8) :
    (∃ p, d.pendingBySpanId.lookup id = some ⟨netId, id⟩ ∧ d.pending.lookup ⟨netId, id⟩ = some p) ∨
    (d.view netId id = none ∧ (d.pendingBySpanId.lookup id = none ∨
      ∃ key p, d.pendingBySpanId.lookup id = some key ∧ d.pending.lookup key = some p ∧ key.amsNetId ≠ netId)) := by
  by_cases own : d.pendingBySpanId.lookup id = some ⟨netId, id⟩
  · obtain ⟨p, found⟩ := wellKeyed.lookup_of_indexed own
    exact .inl ⟨p, own, found⟩
  · refine .inr ⟨separate.view_eq_none own, ?_⟩
    cases entry : d.pendingBySpanId.lookup id with
    | none => exact .inl rfl
    | some key =>
      obtain ⟨p, found⟩ := wellKeyed.lookup_of_indexed entry
      refine .inr ⟨key, p, rfl, found, fun sameNet => own ?_⟩
      rw [entry, SpanKey.eq_mk sameNet (wellKeyed.pointed entry).2]

theorem update_absent {v : PlcView} (absent : v id = none) : Function.update v id none = v :=
  Function.update_eq_self_iff.mpr absent.symm

theorem view_modify (separate : Separate netId d) (wellKeyed : WellKeyed d) (id : Bytes 8)
    (f : PendingSpan → PendingSpan) :
    (d.modify id f).view netId = Function.update (d.view netId) id ((d.view netId id).map f) := by
  rcases separate.index_cases wellKeyed id with ⟨p, entry, found⟩ | ⟨absent, entry | ⟨key, p, entry, found, foreign⟩⟩
  · have seen : d.view netId id = some p := found
    rw [modify_eq entry found, view_putSpan_own, seen]
    rfl
  · rw [modify_of_none entry, absent]
    exact (update_absent absent).symm
  · rw [modify_eq entry found, view_putSpan_other foreign, absent]
    exact (update_absent absent).symm

theorem traceTx_modify (id : Bytes 8) (f : PendingSpan → PendingSpan) : (d.modify id f).traceTx = d.traceTx := by
  unfold SpanDispatcher.modify
  split
  · split <;> rfl
  · rfl

theorem recordsFor_modify (id : Bytes 8) (f : PendingSpan → PendingSpan) :
    (d.modify id f).recordsFor netId = d.recordsFor netId := by
  rw [recordsFor, traceTx_modify, recordsFor]

theorem onEnd_seen (cfg : Config) (tick : Tick) (separate : Separate netId d) (wellKeyed : WellKeyed d)
    (ev : SpanEnd) : (d.onEnd cfg tick ev).view netId = Function.update (d.view netId) ev.spanId none ∧
      (d.onEnd cfg tick ev).recordsFor netId = d.recordsFor netId ++
        (d.view netId ev.spanId).toList.map (PlcView.endRecord cfg tick ev) := by
  rcases separate.index_cases wellKeyed ev.spanId with
    ⟨p, entry, found⟩ | ⟨absent, entry | ⟨key, p, entry, found, foreign⟩⟩
  · have seen : d.view netId ev.spanId = some p := found
    have ofPlc : (ended cfg tick ev p).span.amsNetId = netId := wellKeyed.amsNetId_eq found
    rw [wellKeyed.onEnd_eq entry found, recordsFor_closeSpan_own ofPlc, seen]
    exact ⟨view_closeSpan_own, rfl⟩
  · rw [onEnd_of_none entry, absent]
    exact ⟨(update_absent absent).symm, (List.append_nil _).symm⟩
  · have others : (ended cfg tick ev p).span.amsNetId ≠ netId := by
      change p.amsNetId ≠ netId
      rwa [wellKeyed.amsNetId_eq found]
    rw [wellKeyed.onEnd_eq entry found, view_closeSpan_other foreign, recordsFor_closeSpan_other others, absent]
    exact ⟨(update_absent absent).symm, (List.append_nil _).symm⟩

/-- SPAN_BEGIN finds the parent that the PLC has, unless the index leads to another PLC. -/
theorem resolveParent_eq (separate : Separate netId d) (wellKeyed : WellKeyed d)
    (ownParent : ev.traceparent = none → ev.parentSpanId ≠ Bytes.zero 8 →
      ∀ key, d.pendingBySpanId.lookup ev.parentSpanId = some key → key.amsNetId = netId) :
    d.resolveParent ev = (d.view netId).lineage ev := by
  unfold resolveParent PlcView.lineage
  cases external : ev.traceparent with
  | some tp => rfl
  | none =>
    by_cases root : ev.parentSpanId = Bytes.zero 8
    · rw [if_neg (not_not.mpr root), if_neg (not_not.mpr root)]
    · rw [if_pos root, if_pos root]
      rcases separate.index_cases wellKeyed ev.parentSpanId with
        ⟨p, entry, found⟩ | ⟨absent, entry | ⟨key, p, entry, found, foreign⟩⟩
      · have seen : d.view netId ev.parentSpanId = some p := found
        simp [entry, found, seen]
      · simp only [entry, absent]
      · exact absurd (ownParent external root key entry) foreign

theorem onBegin_eq_of_room (room : d.pendingCount < cfg.maxPending) (sender : AmsNetId) (port : UInt16)
    (ev : SpanBegin) : d.onBegin cfg tick sender port ev =
      openSpan (newSpan cfg tick sender port ev (d.resolveParent ev))
        (flushAll cfg tick [⟨sender, ev.spanId⟩] (d.countOrphan (d.resolveParent ev))) := by
  have nobody : evicted cfg tick d = none := if_neg (Nat.not_le.mpr room)
  rw [onBegin_eq, nobody]
  rfl

@[simp] theorem view_countOrphan (lineage : Lineage) : (d.countOrphan lineage).view netId = d.view netId := by
  unfold SpanDispatcher.view
  rw [countOrphan_pending]

@[simp] theorem recordsFor_countOrphan (lineage : Lineage) :
    (d.countOrphan lineage).recordsFor netId = d.recordsFor netId := by
  simp [recordsFor]

theorem onBegin_own (tick : Tick) (wellKeyed : WellKeyed d) (room : d.pendingCount < cfg.maxPending)
    (port : UInt16) (ev : SpanBegin) :
    (d.onBegin cfg tick netId port ev).view netId = Function.update (d.view netId) ev.spanId
        (some (newSpan cfg tick netId port ev (d.resolveParent ev))) ∧
      (d.onBegin cfg tick netId port ev).recordsFor netId = d.recordsFor netId ++
        (d.view netId ev.spanId).toList.map (PlcView.timeoutRecord cfg tick netId ev.spanId) := by
  have counted : WellKeyed (d.countOrphan (d.resolveParent ev)) :=
    wellKeyed.change (.counted _ : Change tick d _)
  rw [onBegin_eq_of_room room]
  constructor
  · refine view_putSpan_own.trans ?_
    rw [view_flushAll, view_countOrphan]
    funext id
    change Function.update _ ev.spanId _ id = _
    by_cases same : id = ev.spanId <;> simp [same, ownIds]
  · refine (recordsFor_flushAll counted (List.nodup_singleton _)).trans ?_
    simp only [recordsFor_countOrphan, view_countOrphan, ownIds, List.filterMap_cons, List.filterMap_nil, if_true]
    cases d.view netId ev.spanId <;> rfl

theorem onBegin_other (wellKeyed : WellKeyed d) (room : d.pendingCount < cfg.maxPending)
    (foreign : sender ≠ netId) (port : UInt16) (ev : SpanBegin) :
    (d.onBegin cfg tick sender port ev).view netId = d.view netId ∧
      (d.onBegin cfg tick sender port ev).recordsFor netId = d.recordsFor netId := by
  have counted : WellKeyed (d.countOrphan (d.resolveParent ev)) :=
    wellKeyed.change (.counted _ : Change tick d _)
  rw [onBegin_eq_of_room room]
  constructor
  · refine (view_putSpan_other foreign).trans ?_
    simp [view_flushAll, ownIds, foreign]
  · refine (recordsFor_flushAll counted (List.nodup_singleton _)).trans ?_
    simp [ownIds, foreign]

/-! ### Calls that stay apart -/

section

variable (separate : Separate netId d)
include separate

theorem Separate.closeSpan (member : key ∈ d.pending) (sent : Sent) :
    Separate netId (d.closeSpan key sent) := by
  constructor
  · intro id present
    obtain ⟨other, present⟩ := AList.mem_erase.mp present
    have apart : id ≠ key.spanId := fun same => other (separate.alone present member same.symm).symm
    refine (Finmap.lookup_erase_ne apart).trans ?_
    exact separate.indexed present
  · intro k id present present' sameId
    exact separate.alone (AList.mem_erase.mp present).2 (AList.mem_erase.mp present').2 sameId

theorem Separate.putSpan (member : key ∈ d.pending) (p : PendingSpan) : Separate netId (d.putSpan key p) := by
  have same : ∀ {k}, k ∈ (d.putSpan key p).pending → k ∈ d.pending := by
    intro k present
    rcases (AList.mem_insert _).mp present with rfl | present
    · exact member
    · exact present
  exact ⟨fun present => separate.indexed (same present),
    fun present present' => separate.alone (same present) (same present')⟩

theorem Separate.changes (changes : Changes tick d d') : Separate netId d' := by
  induction changes with
  | refl => exact separate
  | tail _ change ih =>
    cases change with
    | counted lineage =>
      constructor
      · rw [countOrphan_pending, countOrphan_pendingBySpanId]
        exact ih.indexed
      · rw [countOrphan_pending]
        exact ih.alone
    | closed found accepted => exact ih.closeSpan (mem_of_lookup found) _
    | changed found same => exact ih.putSpan (mem_of_lookup found) _

/-- A new span keeps the PLC apart when no span of another PLC has its id, one of the two PLCs
being this one. -/
theorem Separate.openSpan (apart : ∀ k ∈ d.pending, k.spanId = p.spanId → p.amsNetId = netId ∨ k.amsNetId = netId →
      k = p.key) : Separate netId (d.openSpan p) := by
  constructor
  · intro id present
    by_cases sameId : id = p.spanId
    · have own : ⟨netId, id⟩ = p.key := by
        rcases (AList.mem_insert _).mp present with new | old
        · exact new
        · exact apart _ old sameId (.inr rfl)
      rw [own, sameId]
      exact Finmap.lookup_insert _
    · rcases (AList.mem_insert _).mp present with new | old
      · exact absurd (congrArg SpanKey.spanId new) sameId
      · exact (Finmap.lookup_insert_of_ne _ sameId).trans (separate.indexed old)
  · intro key id present present' sameId
    rcases (AList.mem_insert _).mp present with new | old
    · rcases (AList.mem_insert _).mp present' with new' | old'
      · rw [new, new']
      · have net : p.amsNetId = netId := (congrArg SpanKey.amsNetId new).symm
        have idEq : p.spanId = id := (congrArg SpanKey.spanId new).symm
        rw [new]
        exact apart key old' (sameId.trans idEq.symm) (.inl net)
    · rcases (AList.mem_insert _).mp present' with new' | old'
      · have idEq : p.spanId = id := (congrArg SpanKey.spanId new').symm.trans sameId
        rw [new']
        exact (apart _ old idEq.symm (.inr rfl)).symm
      · exact separate.alone old old' sameId

end

end

/-- A call by which another PLC gets between this one and its spans, or this one takes another
PLC's span for the parent of its own. -/
def Crosses (netId : AmsNetId) (d : SpanDispatcher) (call : Call) : Prop :=
  match call.request with
  | .event sender _ (.spanBegin ev) =>
    -- the id is pending for another PLC
    (∃ key ∈ d.pending.keys, key.spanId = ev.spanId ∧ key.amsNetId ≠ sender ∧
      (sender = netId ∨ key.amsNetId = netId)) ∨
    -- the parent is another PLC's
    (sender = netId ∧ ev.traceparent = none ∧ ev.parentSpanId ≠ Bytes.zero 8 ∧
      ∃ key ∈ d.pendingBySpanId.lookup ev.parentSpanId, key.amsNetId ≠ netId)
  | .event sender _ (.spanAttr ev) => sender ≠ netId ∧ ⟨netId, ev.spanId⟩ ∈ d.pending.keys
  | .event sender _ (.spanEvent ev) => sender ≠ netId ∧ ⟨netId, ev.spanId⟩ ∈ d.pending.keys
  | .event sender _ (.spanEnd ev) => sender ≠ netId ∧ ⟨netId, ev.spanId⟩ ∈ d.pending.keys
  | .sweep => False

instance (netId : AmsNetId) (d : SpanDispatcher) (call : Call) : Decidable (Crosses netId d call) :=
  match call with
  | ⟨_, .event _ _ (.spanBegin _)⟩ => inferInstanceAs (Decidable (_ ∨ _))
  | ⟨_, .event _ _ (.spanAttr _)⟩ => inferInstanceAs (Decidable (_ ∧ _))
  | ⟨_, .event _ _ (.spanEvent _)⟩ => inferInstanceAs (Decidable (_ ∧ _))
  | ⟨_, .event _ _ (.spanEnd _)⟩ => inferInstanceAs (Decidable (_ ∧ _))
  | ⟨_, .sweep⟩ => inferInstanceAs (Decidable False)

section

variable {cfg : Config} {netId : AmsNetId} {d : SpanDispatcher} {call : Call}

theorem mem_of_changes (changes : Changes tick d d') (present : key ∈ d'.pending) : key ∈ d.pending := by
  induction changes with
  | refl => exact present
  | tail _ change ih =>
    apply ih
    cases change with
    | counted lineage => rwa [countOrphan_pending] at present
    | closed found accepted => exact (AList.mem_erase.mp present).2
    | changed found same =>
      rcases (AList.mem_insert _).mp present with rfl | old
      · exact mem_of_lookup found
      · exact old

theorem Separate.serve (separate : Separate netId d) (wellKeyed : WellKeyed d)
    (apart : ¬Crosses netId d call) : Separate netId (d.serve cfg call) := by
  have served : Served cfg d call (d.serve cfg call) := wellKeyed.serve_served call
  generalize d.serve cfg call = d' at served ⊢
  cases served with
  | kept noBegin changes => exact separate.changes changes
  | @begun sender port ev mid isBegin changes fresh =>
    apply (separate.changes changes).openSpan
    intro k present sameId between
    by_cases sameNet : k.amsNetId = sender
    · exact SpanKey.eq_mk sameNet sameId
    · refine absurd ?_ apart
      have pending := AList.mem_keys.mp (mem_of_changes changes present)
      unfold Crosses
      rw [isBegin]
      exact .inl ⟨k, pending, sameId, sameNet, between⟩

/-! ### The refinement -/

/-- A PLC as an observer of the dispatcher. -/
def plcObserver (cfg : Config) (netId : AmsNetId) : Observer SpanDispatcher Call PlcView TraceRecord where
  view := SpanDispatcher.view netId
  log := recordsFor netId
  own := Call.concerns netId
  step := PlcView.Step cfg netId

section

variable (wellKeyed : WellKeyed d) (separate : Separate netId d)
  (room : call.isBegin = true → d.pendingCount < cfg.maxPending) (apart : ¬Crosses netId d call)
include wellKeyed separate room apart

theorem serve_own (own : call.concerns netId = true) :
    ∃ out, PlcView.Step cfg netId (d.view netId) call ((d.serve cfg call).view netId) out ∧
      (d.serve cfg call).recordsFor netId = d.recordsFor netId ++ out := by
  obtain ⟨tick, request⟩ := call
  cases request with
  | sweep =>
    refine ⟨_, ?_, recordsFor_flushAll wellKeyed nodup_expired⟩
    change PlcView.Step cfg netId _ _ ((flushAll cfg tick (d.expired tick) d).view netId) _
    rw [view_flushAll]
    exact .swept (nodup_ownIds nodup_expired) fun id => mem_ownIds.trans mem_expired_iff
  | event sender port ev =>
    obtain rfl : sender = netId := of_decide_eq_true own
    cases ev with
    | spanBegin ev =>
      have ownParent : ev.traceparent = none → ev.parentSpanId ≠ Bytes.zero 8 → ∀ key,
          d.pendingBySpanId.lookup ev.parentSpanId = some key → key.amsNetId = sender := by
        intro external named key entry
        by_contra foreign
        exact apart (.inr ⟨rfl, external, named, key, entry, foreign⟩)
      obtain ⟨seen, records⟩ := onBegin_own tick wellKeyed (room rfl) port ev
      rw [resolveParent_eq separate wellKeyed ownParent] at seen
      refine ⟨_, ?_, records⟩
      change PlcView.Step cfg sender _ _ ((d.onBegin cfg tick sender port ev).view sender) _
      rw [seen]
      exact .begun
    | spanAttr ev =>
      refine ⟨[], ?_, (recordsFor_modify _ _).trans (List.append_nil _).symm⟩
      change PlcView.Step cfg sender _ _ ((d.onAttr ev).view sender) _
      rw [onAttr, view_modify separate wellKeyed]
      exact .attr
    | spanEvent ev =>
      refine ⟨[], ?_, (recordsFor_modify _ _).trans (List.append_nil _).symm⟩
      change PlcView.Step cfg sender _ _ ((d.onEventEv cfg tick ev).view sender) _
      rw [onEventEv, view_modify separate wellKeyed]
      exact .point
    | spanEnd ev =>
      obtain ⟨seen, records⟩ := onEnd_seen cfg tick separate wellKeyed ev
      refine ⟨_, ?_, records⟩
      change PlcView.Step cfg sender _ _ ((d.onEnd cfg tick ev).view sender) _
      rw [seen]
      exact .ended

theorem serve_other (other : call.concerns netId = false) : (d.serve cfg call).view netId = d.view netId ∧
      (d.serve cfg call).recordsFor netId = d.recordsFor netId := by
  obtain ⟨tick, request⟩ := call
  cases request with
  | sweep => cases other
  | event sender port ev =>
    have foreign : sender ≠ netId := of_decide_eq_false other
    -- the PLC has no span with an id that another one sends something for
    have absent : ∀ {id}, ¬(sender ≠ netId ∧ ⟨netId, id⟩ ∈ d.pending.keys) → d.view netId id = none := by
      intro id unnamed
      apply AList.lookup_eq_none.mpr
      exact fun member => unnamed ⟨foreign, AList.mem_keys.mp member⟩
    have unmodified : ∀ {id} (f : PendingSpan → PendingSpan), d.view netId id = none →
        (d.modify id f).view netId = d.view netId := by
      intro id f none
      rw [view_modify separate wellKeyed, none]
      exact update_absent none
    cases ev with
    | spanBegin ev => exact onBegin_other wellKeyed (room rfl) foreign port ev
    | spanAttr ev | spanEvent ev => exact ⟨unmodified _ (absent apart), recordsFor_modify _ _⟩
    | spanEnd ev =>
      have none := absent apart
      obtain ⟨seen, records⟩ := onEnd_seen cfg tick separate wellKeyed ev
      rw [none] at records
      exact ⟨seen.trans (update_absent none), records.trans (List.append_nil _)⟩

end

end

/-! ### Runs -/

/-- The limit is not reached: no SPAN_BEGIN has to evict a span. -/
def NeverFull (cfg : Config) (calls : List Call) : Prop :=
  ∀ done call, done ++ [call] <+: calls → call.isBegin = true →
    (serveAll cfg done).pendingCount < cfg.maxPending

/-- No call crosses between this PLC and the others. -/
def NeverCrosses (cfg : Config) (netId : AmsNetId) (calls : List Call) : Prop :=
  ∀ done call, done ++ [call] <+: calls → ¬Crosses netId (serveAll cfg done) call

instance (cfg : Config) (calls : List Call) : Decidable (NeverFull cfg calls) :=
  decidable_of_iff _ forall_prefix_iff.symm

instance (cfg : Config) (netId : AmsNetId) (calls : List Call) : Decidable (NeverCrosses cfg netId calls) :=
  decidable_of_iff _ forall_prefix_iff.symm

section

variable {cfg : Config} {netId : AmsNetId} {calls : List Call}

theorem separate_serveAll (apart : NeverCrosses cfg netId calls) : Separate netId (serveAll cfg calls) := by
  induction calls using List.reverseRecOn with
  | nil =>
    constructor
    · intro id present
      cases present
    · intro key id present
      cases present
  | append_singleton calls call ih =>
    have before := ih fun done other inside =>
      apart done other (inside.trans (List.prefix_append calls [call]))
    rw [serveAll_concat]
    exact before.serve (wellKeyed_serveAll cfg calls) (apart calls call List.prefix_rfl)

/-- What a PLC sees of a run is a run of its own. -/
theorem plc_run (room : NeverFull cfg calls) (apart : NeverCrosses cfg netId calls) :
    Run (PlcView.Step cfg netId) (fun _ => none) (calls.filter (Call.concerns netId))
      ((serveAll cfg calls).view netId) ((serveAll cfg calls).recordsFor netId) := by
  have unwinds : ∀ done call, done ++ [call] <+: calls →
      (plcObserver cfg netId).Unwinds (SpanDispatcher.serve cfg) (serveAll cfg done) call := by
    intro done call inside
    have wellKeyed := wellKeyed_serveAll cfg done
    have separate : Separate netId (serveAll cfg done) := separate_serveAll fun first other before =>
      apart first other (before.trans ((List.prefix_append done [call]).trans inside))
    have notFull := room done call inside
    have notCrossing := apart done call inside
    exact ⟨serve_own wellKeyed separate notFull notCrossing,
      serve_other wellKeyed separate notFull notCrossing⟩
  obtain ⟨outs, run, log⟩ := (plcObserver cfg netId).run (SpanDispatcher.serve cfg) .new calls unwinds
  have records : (serveAll cfg calls).recordsFor netId = outs := log
  rw [records]
  exact run

theorem Agree.of_filter_eq (same : calls.filter (Call.concerns netId) =
    calls'.filter (Call.concerns netId)) : Agree netId calls calls' := by
  rw [Agree, same]
  apply List.forall₂_same.mpr
  intro call _
  exact ⟨rfl, rfl, rfl, fun _ => rfl, fun _ _ => rfl⟩

end

/-- A span of the first PLC from its SPAN_BEGIN to its SPAN_END. -/
def undisturbed : List Call := [beginAt 1 (plc 1) (rootSpan 7 "a"), sampleLast]

/-- The same, while the second PLC sends `ev`. -/
def disturbedBy (ev : TraceWireEvent) : List Call :=
  [beginAt 1 (plc 1) (rootSpan 7 "a"), ⟨.atInstant 3, .event (plc 2) 350 ev⟩, sampleLast]

/-- A SPAN_END for the id 7. -/
def strayEnd : SpanEnd := ⟨(rootSpan 7 "a").spanId, 1, 0, 5, 2, "stopped"⟩

section

variable {cfg : Config} {tick : Tick} {d : SpanDispatcher}

theorem keys_flush (key : SpanKey) : (d.flush cfg tick key).pending.keys = d.pending.keys.erase key := by
  unfold flush
  split
  next absent => rw [List.erase_of_not_mem (AList.lookup_eq_none.mp absent)]
  next => exact AList.keys_erase ..

theorem pendingCount_makeRoom_lt (bounded : d.pendingCount ≤ max cfg.maxPending 1) :
    (d.makeRoom cfg tick).pendingCount < max cfg.maxPending 1 := by
  unfold makeRoom evictOldest
  split
  · split
    next key oldest =>
      obtain ⟨entry, least, rfl⟩ := Option.map_eq_some_iff.mp oldest
      have pending := AList.mem_keys.mp (mem_of_lookup (mem_iter_iff.mp (List.argmin_mem least)))
      rw [pendingCount, keys_flush]
      exact (List.length_erase_add_one pending).trans_le bounded
    next none =>
      -- only a dispatcher without a span has none to evict
      have empty : d.pending.keys = [] := List.eq_nil_iff_forall_not_mem.mpr fun key member => by
        obtain ⟨p, found⟩ := lookup_of_mem (AList.mem_keys.mpr member)
        have listed : d.iter tick = [] := List.argmin_eq_none.mp (Option.map_eq_none_iff.mp none)
        exact List.not_mem_nil (listed ▸ mem_iter_iff.mpr found)
      rw [pendingCount, empty]
      exact lt_max_of_lt_right Nat.one_pos
  next room => exact lt_max_of_lt_left (not_le.mp room)

end

end TcOtel.Service
