import TcOtel.Service.SpanRecords

/-!
# From SPAN_BEGIN to SPAN_END

A span that is neither evicted nor swept gathers the attributes and events that are sent for
its id, whatever else happens in between, and its record shows them. The argument follows the
entry of the span in `pending` from call to call (`lookup_serve`).
-/

namespace TcOtel.Service

open Decoding Ads SpanDispatcher

/-! ### What is sent for a span -/

def Call.beginId? (call : Call) : Option (Bytes 8) := call.beginKey?.map SpanKey.spanId

def Call.endId? (call : Call) : Option (Bytes 8) :=
  match call.request with
  | .event _ _ (.spanEnd ev) => some ev.spanId
  | _ => none

def Call.attr? (id : Bytes 8) (call : Call) : Option (String × AttrValue) :=
  match call.request with
  | .event _ _ (.spanAttr ev) => if ev.spanId = id then some (ev.key, ev.value) else none
  | _ => none

def Call.point? (id : Bytes 8) (call : Call) : Option SpanPoint :=
  match call.request with
  | .event _ _ (.spanEvent ev) => if ev.spanId = id then some ev else none
  | _ => none

def attrsFor (id : Bytes 8) (calls : List Call) : List (String × AttrValue) :=
  calls.filterMap (Call.attr? id)

def pointsFor (id : Bytes 8) (calls : List Call) : List SpanPoint := calls.filterMap (Call.point? id)

def heldEvent (cfg : Config) (tick : Tick) (ev : SpanPoint) : SpanEvent :=
  ⟨dcTimeToDatetime cfg.chrono tick.now ev.dcTime, ev.name, ev.attrs⟩

def PendingSpan.absorb (cfg : Config) (p : PendingSpan) (call : Call) : PendingSpan :=
  { p with
    attrs := HashMap.insertAll p.attrs (call.attr? p.spanId).toList
    events := p.events ++ (call.point? p.spanId).toList.map (heldEvent cfg call.tick) }

section

variable {cfg : Config} {tick : Tick} {d : SpanDispatcher} {key : SpanKey} {p : PendingSpan} {call : Call}

theorem absorb_of_none (noAttr : call.attr? p.spanId = none) (noPoint : call.point? p.spanId = none) :
    p.absorb cfg call = p := by
  simp only [PendingSpan.absorb, noAttr, noPoint, Option.toList_none, List.map_nil, List.append_nil]
  rfl

theorem absorb_same (p : PendingSpan) (call : Call) : SameOpening p (p.absorb cfg call) := rfl

theorem absorbAll_same (cfg : Config) (p : PendingSpan) (calls : List Call) :
    SameOpening p (calls.foldl (PendingSpan.absorb cfg) p) := by
  induction calls generalizing p with
  | nil => exact .refl p
  | cons call calls ih => exact (absorb_same p call).trans (ih (p.absorb cfg call))

theorem absorbAll_attrs (p : PendingSpan) (calls : List Call) :
    (calls.foldl (PendingSpan.absorb cfg) p).attrs = HashMap.insertAll p.attrs (attrsFor p.spanId calls) := by
  induction calls generalizing p with
  | nil => rfl
  | cons call calls ih =>
    rw [List.foldl_cons, ih]
    change HashMap.insertAll (HashMap.insertAll p.attrs (call.attr? p.spanId).toList)
      (attrsFor p.spanId calls) = _
    simp only [attrsFor, List.filterMap_cons]
    cases call.attr? p.spanId <;> rfl

theorem absorbAll_events (p : PendingSpan) (calls : List Call) :
    (calls.foldl (PendingSpan.absorb cfg) p).events = p.events ++ calls.flatMap fun call =>
        (call.point? p.spanId).toList.map (heldEvent cfg call.tick) := by
  induction calls generalizing p with
  | nil => simp
  | cons call calls ih =>
    rw [List.foldl_cons, ih, List.flatMap_cons, ← List.append_assoc]
    rfl

/-! ### One call -/

theorem mem_expired_iff : key ∈ d.expired tick ↔
    ∃ p, d.pending.lookup key = some p ∧ p.deadline ≤ tick.instant := by
  rw [expired, List.mem_map]
  constructor
  · rintro ⟨⟨k, p⟩, member, rfl⟩
    obtain ⟨listed, late⟩ := List.mem_filter.mp member
    exact ⟨p, mem_iter_iff.mp listed, of_decide_eq_true late⟩
  · rintro ⟨p, found, late⟩
    exact ⟨(key, p), List.mem_filter.mpr ⟨mem_iter_iff.mpr found, decide_eq_true late⟩, rfl⟩

theorem lookup_modify_own (indexed : AllIndexed d) (found : d.pending.lookup key = some p) :
    (d.modify key.spanId f).pending.lookup key = some (f p) := by
  rw [modify_eq (indexed key (mem_of_lookup found)) found]
  exact AList.lookup_insert _

theorem lookup_modify_other {id : Bytes 8} (wellKeyed : WellKeyed d)
    (other : id ≠ key.spanId) : (d.modify id f).pending.lookup key = d.pending.lookup key := by
  cases entry : d.pendingBySpanId.lookup id with
  | none => rw [modify_of_none entry]
  | some k =>
    obtain ⟨q, present⟩ := wellKeyed.lookup_of_indexed entry
    rw [modify_eq entry present]
    apply AList.lookup_insert_ne
    rintro rfl
    exact other (wellKeyed.pointed entry).2.symm

theorem lookup_onEnd_other (wellKeyed : WellKeyed d) (other : ev.spanId ≠ key.spanId) :
    (d.onEnd cfg tick ev).pending.lookup key = d.pending.lookup key := by
  cases entry : d.pendingBySpanId.lookup ev.spanId with
  | none => rw [onEnd_of_none entry]
  | some k =>
    obtain ⟨q, present⟩ := wellKeyed.lookup_of_indexed entry
    rw [wellKeyed.onEnd_eq entry present]
    apply AList.lookup_erase_ne
    rintro rfl
    exact other (wellKeyed.pointed entry).2.symm

theorem lookup_onBegin_other (port : UInt16)
    (other : key ≠ ⟨netId, ev.spanId⟩) (notEvicted : evicted cfg tick d ≠ some key) :
    (d.onBegin cfg tick netId port ev).pending.lookup key = d.pending.lookup key := by
  have kept : key ∉ (evicted cfg tick d).toList ++ [⟨netId, ev.spanId⟩] := by
    rw [List.mem_append, not_or, Option.mem_toList, List.mem_singleton]
    exact ⟨notEvicted, other⟩
  rw [onBegin_eq]
  refine (AList.lookup_insert_ne other).trans ?_
  rw [lookup_flushAll_of_notMem kept, countOrphan_pending]

/-- A span stays pending and absorbs the call, unless the call begins or ends its id, evicts it
or comes after its deadline. -/
theorem lookup_serve (wellKeyed : WellKeyed d) (indexed : AllIndexed d)
    (found : d.pending.lookup key = some p) (notBegun : call.beginId? ≠ some key.spanId)
    (notEnded : call.endId? ≠ some key.spanId)
    (notEvicted : call.isBegin = true → evicted cfg call.tick d ≠ some key)
    (alive : call.request = .sweep → call.tick.instant < p.deadline) :
    (d.serve cfg call).pending.lookup key = some (p.absorb cfg call) := by
  have sameId := wellKeyed.spanId_eq found
  obtain ⟨tick, request⟩ := call
  cases request with
  | sweep =>
    rw [absorb_of_none rfl rfl]
    have kept : key ∉ d.expired tick := by
      intro swept
      obtain ⟨q, present, late⟩ := mem_expired_iff.mp swept
      rw [found] at present
      cases present
      have early := alive rfl
      simp only at early
      omega
    exact (lookup_flushAll_of_notMem kept).trans found
  | event netId port ev =>
    cases ev with
    | spanBegin ev =>
      rw [absorb_of_none rfl rfl]
      have other : key ≠ ⟨netId, ev.spanId⟩ := by
        rintro rfl
        exact notBegun rfl
      exact (lookup_onBegin_other port other (notEvicted rfl)).trans found
    | spanAttr ev =>
      change (d.onAttr ev).pending.lookup key = _
      by_cases own : ev.spanId = key.spanId
      · rw [onAttr, own, lookup_modify_own indexed found]
        simp [PendingSpan.absorb, Call.attr?, Call.point?, own, sameId, HashMap.insertAll]
      · have noAttr : Call.attr? p.spanId ⟨tick, .event netId port (.spanAttr ev)⟩ = none := by
          simp [Call.attr?, sameId, own]
        rw [absorb_of_none noAttr rfl, onAttr, lookup_modify_other wellKeyed own, found]
    | spanEvent ev =>
      change (d.onEventEv cfg tick ev).pending.lookup key = _
      by_cases own : ev.spanId = key.spanId
      · rw [onEventEv, own, lookup_modify_own indexed found]
        simp [PendingSpan.absorb, Call.attr?, Call.point?, own, sameId, HashMap.insertAll, heldEvent]
      · have noPoint : Call.point? p.spanId ⟨tick, .event netId port (.spanEvent ev)⟩ = none := by
          simp [Call.point?, sameId, own]
        rw [absorb_of_none rfl noPoint, onEventEv, lookup_modify_other wellKeyed own, found]
    | spanEnd ev =>
      rw [absorb_of_none rfl rfl]
      have other : ev.spanId ≠ key.spanId := by
        intro same
        apply notEnded
        simp [Call.endId?, same]
      exact (lookup_onEnd_other wellKeyed other).trans found

end

/-! ### Span ids that are used once -/

/-- No two spans have the same id. -/
def UniqueIds (calls : List Call) : Prop := (calls.filterMap Call.beginId?).Nodup

theorem UniqueIds.of_initial (unique : UniqueIds calls) (before : done <+: calls) : UniqueIds done :=
  List.Nodup.sublist (before.sublist.filterMap _) unique

theorem begun_of_pending
    (member : key ∈ (serveAll cfg calls).pending) : ∃ call ∈ calls, call.beginKey? = some key := by
  obtain ⟨p, found⟩ := lookup_of_mem member
  have lengths := (spansFor_serveAll cfg calls key).length_eq
  have nonempty : beginsFor key calls ≠ [] := by
    intro empty
    rw [empty] at lengths
    simp [spansFor, found] at lengths
  obtain ⟨call, chosen⟩ := List.exists_mem_of_ne_nil _ nonempty
  obtain ⟨member, isBegin⟩ := List.mem_filter.mp chosen
  exact ⟨call, member, of_decide_eq_true isBegin⟩

theorem beginId_of_beginKey {call : Call} (isBegin : call.beginKey? = some key) :
    call.beginId? = some key.spanId := by
  rw [Call.beginId?, isBegin, Option.map_some]

theorem UniqueIds.allIndexed {cfg : Config} (unique : UniqueIds calls) : AllIndexed (serveAll cfg calls) := by
  refine (mapsInverse_serveAll cfg calls ?_).indexed
  intro done call before clash
  unfold Clashes at clash
  split at clash
  next netId port ev isBegin =>
    obtain ⟨key, member, sameId, -⟩ := clash
    obtain ⟨earlier, done, begun⟩ := begun_of_pending member
    -- the id of the pending span has been used before
    have twice := unique.of_initial before
    rw [UniqueIds, List.filterMap_append, List.nodup_append] at twice
    refine twice.2.2 _ (List.mem_filterMap.mpr ⟨earlier, done, beginId_of_beginKey begun⟩) ev.spanId ?_
      sameId
    simp [Call.beginId?, Call.beginKey?, isBegin]
  · exact clash

theorem UniqueIds.beginsFor_length {calls : List Call} (unique : UniqueIds calls) (key : SpanKey) :
    (beginsFor key calls).length ≤ 1 := by
  have once := List.nodup_iff_count_le_one.mp unique key.spanId
  rw [List.count_filterMap] at once
  refine le_trans ?_ once
  rw [beginsFor, ← List.countP_eq_length_filter]
  apply List.countP_mono_left
  intro call _ isBegin
  exact beq_iff_eq.mpr (beginId_of_beginKey (of_decide_eq_true isBegin))

theorem UniqueIds.filter_traceTx (unique : UniqueIds calls) (member : sent ∈ (serveAll cfg calls).traceTx)
    (spanKey : sent.span.key = key) :
    (serveAll cfg calls).traceTx.filter (fun sent => sent.span.key = key) = [sent] := by
  have lengths := (spansFor_serveAll cfg calls key).length_eq
  have atMostOne := unique.beginsFor_length key
  have chosen : sent ∈ (serveAll cfg calls).traceTx.filter (fun sent => sent.span.key = key) :=
    List.mem_filter.mpr ⟨member, decide_eq_true spanKey⟩
  have short : ((serveAll cfg calls).traceTx.filter (fun sent => sent.span.key = key)).length ≤ 1 := by
    simp only [spansFor, List.filter_map, List.length_append, List.length_map] at lengths
    have same : ((fun p : PendingSpan => decide (p.key = key)) ∘ Sent.span) =
        fun sent : Sent => decide (sent.span.key = key) := rfl
    rw [same] at lengths
    omega
  obtain ⟨only, isOnly⟩ := List.length_eq_one_iff.mp
    (Nat.le_antisymm short (List.length_pos_of_mem chosen))
  rw [isOnly, List.mem_singleton] at chosen
  rw [isOnly, chosen]

/-! ### Exact dates -/

/-- A DC time that the dispatcher represents: later than 2000, and within an `i64` when it is
counted from 1970. -/
def DcInRange (dcNanos : Int64) : Prop :=
  0 < dcNanos.toInt ∧ dcNanos.toInt + 946684800000000000 < 2 ^ 63
deriving Decidable

def dcDate (dcNanos : Int64) : DateTime :=
  ⟨946684800 + dcNanos.toInt / 1000000000, (dcNanos.toInt % 1000000000).toNat⟩

theorem dcTimeToDatetime_eq (chrono : Chrono) (now : DateTime)
    (inRange : DcInRange dcNanos) : dcTimeToDatetime chrono now dcNanos = dcDate dcNanos := by
  obtain ⟨positive, small⟩ := inRange
  have running : ¬dcNanos ≤ 0 := by
    rw [Int64.le_iff_toInt_le]
    simpa using positive
  have sum : (dcNanos + dcEpochOffsetNs).toInt = dcNanos.toInt + 946684800000000000 := by
    rw [Int64.toInt_add]
    exact Int.bmod_eq_of_le (by simp [dcEpochOffsetNs]; omega) (by simp [dcEpochOffsetNs]; omega)
  have billion : (1000000000 : Int64).toInt = 1000000000 := by decide
  have secs : ((dcNanos + dcEpochOffsetNs) / 1000000000).toInt =
      946684800 + dcNanos.toInt / 1000000000 := by
    rw [Int64.toInt_div, billion, Int.tdiv_eq_ediv_of_nonneg (by omega)]
    rw [Int.bmod_eq_of_le (by omega) (by omega)]
    omega
  have rest : ((dcNanos + dcEpochOffsetNs) % 1000000000).toInt = dcNanos.toInt % 1000000000 := by
    rw [Int64.toInt_mod, billion, Int.tmod_eq_emod_of_nonneg (by omega)]
    omega
  have nanos : ((dcNanos + dcEpochOffsetNs) % 1000000000).toUInt64.toUInt32.toNat =
      (dcNanos.toInt % 1000000000).toNat := by
    have nonneg : (0 : Int64) ≤ (dcNanos + dcEpochOffsetNs) % 1000000000 := by
      rw [Int64.le_iff_toInt_le, rest]
      exact Int.emod_nonneg _ (by decide)
    have clamped : ((dcNanos + dcEpochOffsetNs) % 1000000000).toNatClampNeg =
        (dcNanos.toInt % 1000000000).toNat := by
      rw [Int64.toNatClampNeg, rest]
    rw [UInt64.toNat_toUInt32, Int64.toNat_toUInt64_of_le nonneg]
    omega
  simp only [dcTimeToDatetime, if_neg running, secs, nanos]
  rw [chrono.fromTimestamp_inRange _ _ (by omega) (by omega) (by omega)]
  rfl

/-! ### A whole life -/

/-- No pending span has the id that a new span names as its parent. -/
def ParentUnknown (d : SpanDispatcher) (ev : SpanBegin) : Prop :=
  ev.traceparent = none ∧ ev.parentSpanId ≠ Bytes.zero 8 ∧
    ∀ key ∈ d.pending.keys, key.spanId ≠ ev.parentSpanId
deriving Decidable

/-- The marker of a span whose parent is unknown, as an attribute. -/
def orphanMarker (d : SpanDispatcher) (ev : SpanBegin) (key : String) : Option Value :=
  if key = "TCOTEL.orphan_reason" ∧ ParentUnknown d ev then
    some (.string s!"parent_span_id_{ev.parentSpanId.val}_not_found")
  else none

/-- A run in which a span is begun by `first` and ended in time by `last`, the first SPAN_END
for it, without being evicted in between. -/
structure Completed (cfg : Config) (before : List Call) (first : Call) (middle : List Call)
    (last : Call) (after : List Call) (netId : AmsNetId) (b : SpanBegin) (e : SpanEnd) : Prop where
  uniqueIds : UniqueIds (before ++ first :: (middle ++ last :: after))
  clock : ((before ++ first :: (middle ++ last :: after)).map fun call => call.tick.instant).Pairwise
    (· ≤ ·)
  begins : ∃ port, first.request = .event netId port (.spanBegin b)
  ends : ∃ sender port, last.request = .event sender port (.spanEnd e)
  sameSpan : e.spanId = b.spanId
  notEarlier : ∀ call ∈ middle, call.endId? ≠ some b.spanId
  inTime : last.tick.instant < first.tick.instant + cfg.spanTtl
  notEvicted : ∀ done call, done ++ [call] <+: middle → call.isBegin = true →
    evicted cfg call.tick (serveAll cfg (before ++ first :: done)) ≠ some ⟨netId, b.spanId⟩

/-- The record shows the SPAN_BEGIN, the SPAN_END and all that was sent in between. -/
structure RecordOf (d : SpanDispatcher) (middle : List Call) (b : SpanBegin) (e : SpanEnd)
    (r : TraceRecord) : Prop where
  name : r.name = b.name
  kind : r.kind = Int32.ofNat b.kind.toNat
  startTime : r.startTime = dcDate b.dcTime
  endTime : r.endTime = dcDate e.dcTime
  statusCode : r.statusCode = Int32.ofNat e.status.toNat
  statusMessage : r.statusMessage = e.message
  attributes : ∀ key, r.spanAttributes.lookup key =
    ((HashMap.lastValue key (attrsFor b.spanId middle)).map AttrValue.toJson).or (orphanMarker d b key)
  events : r.events = (pointsFor b.spanId middle).map fun ev =>
    ⟨dcDate ev.dcTime, ev.name, .ofList (ev.attrs.map toJsonPair)⟩

section

variable {d : SpanDispatcher} (wellKeyed : WellKeyed d) (indexed : AllIndexed d) (ev : SpanBegin)
include wellKeyed indexed

theorem orphanReason_resolveParent : (d.resolveParent ev).orphanReason =
      if ParentUnknown d ev then some s!"parent_span_id_{ev.parentSpanId.val}_not_found" else none := by
  unfold resolveParent
  cases external : ev.traceparent with
  | some tp =>
    have known : ¬ParentUnknown d ev := fun unknown => by
      rw [unknown.1] at external
      cases external
    rw [if_neg known]
    simp only
    cases parseW3cTraceparent tp <;> rfl
  | none =>
    by_cases root : ev.parentSpanId = Bytes.zero 8
    · have known : ¬ParentUnknown d ev := fun unknown => unknown.2.1 root
      rw [if_neg known]
      simp [root]
    · cases entry : d.pendingBySpanId.lookup ev.parentSpanId with
      | some key =>
        -- the parent is pending
        obtain ⟨member, sameId⟩ := wellKeyed.pointed entry
        obtain ⟨parent, found⟩ := lookup_of_mem member
        have known : ¬ParentUnknown d ev := fun unknown =>
          unknown.2.2 key (AList.mem_keys.mp member) sameId
        rw [if_neg known]
        simp [root, found]
      | none =>
        have unknown : ParentUnknown d ev := by
          refine ⟨external, root, fun key member sameId => ?_⟩
          have present := indexed key (AList.mem_keys.mpr member)
          rw [sameId, entry] at present
          cases present
        rw [if_pos unknown]
        simp [root]

theorem lookup_orphanAttrs (key : String) :
    ((orphanAttrs (d.resolveParent ev).orphanReason).lookup key).map AttrValue.toJson =
      orphanMarker d ev key := by
  rw [orphanReason_resolveParent wellKeyed indexed, orphanMarker]
  by_cases unknown : ParentUnknown d ev
  · rw [if_pos unknown, orphanAttrs]
    by_cases same : key = "TCOTEL.orphan_reason"
    · rw [if_pos ⟨same, unknown⟩, same]
      rfl
    · rw [if_neg fun both => same both.1, Finmap.lookup_insert_of_ne _ same]
      rfl
  · rw [if_neg unknown, if_neg fun both => unknown both.2]
    rfl

end

theorem heldEvents_toRecord {cfg : Config} {id : Bytes 8} (calls : List Call)
    (inRange : ∀ ev ∈ pointsFor id calls, DcInRange ev.dcTime) :
    (calls.flatMap fun call => (call.point? id).toList.map (heldEvent cfg call.tick)).map SpanEvent.toRecord =
      (pointsFor id calls).map fun ev =>
        ⟨dcDate ev.dcTime, ev.name, .ofList (ev.attrs.map toJsonPair)⟩ := by
  induction calls with
  | nil => rfl
  | cons call calls ih =>
    rw [pointsFor, List.filterMap_cons] at inRange ⊢
    rw [List.flatMap_cons, List.map_append]
    cases sent : call.point? id with
    | none =>
      rw [sent] at inRange
      exact ih inRange
    | some ev =>
      simp only [sent, List.forall_mem_cons] at inRange
      rw [ih inRange.2]
      have date : dcTimeToDatetime cfg.chrono call.tick.now ev.dcTime = dcDate ev.dcTime :=
        dcTimeToDatetime_eq _ _ inRange.1
      simp only [Option.toList_some, List.map_cons, heldEvent, date]
      rfl

theorem asI32_statusCode (known : status.toNat ≤ 2) :
    (statusCode status).asI32 = Int32.ofNat status.toNat := by
  have three : status.toNat = 0 ∨ status.toNat = 1 ∨ status.toNat = 2 := by omega
  rcases three with code | code | code <;> simp only [statusCode, code] <;> rfl

theorem traceTx_grows (cfg : Config) (calls more : List Call) :
    (serveAll cfg calls).traceTx <+: (serveAll cfg (calls ++ more)).traceTx := by
  have grows : ∀ {tick d d'}, Changes tick d d' → d.traceTx <+: d'.traceTx := by
    intro tick d d' changes
    induction changes with
    | refl => exact List.prefix_rfl
    | tail _ change ih =>
      apply ih.trans
      cases change with
      | counted lineage => rw [countOrphan_traceTx]
      | closed found accepted => exact List.prefix_append _ _
      | changed found same => exact List.prefix_rfl
  induction more using List.reverseRecOn with
  | nil => rw [List.append_nil]
  | append_singleton more call ih =>
    have served : Served cfg (serveAll cfg (calls ++ more)) call _ :=
      (wellKeyed_serveAll cfg (calls ++ more)).serve_served call
    rw [← List.append_assoc, serveAll_concat]
    apply ih.trans
    generalize (serveAll cfg (calls ++ more)).serve cfg call = d' at served ⊢
    cases served with
    | kept noBegin changes => exact grows changes
    | @begun _ _ _ mid isBegin changes fresh =>
      have longer : _ <+: mid.traceTx := grows changes
      exact longer

section

variable {cfg : Config} {before middle after : List Call} {first last : Call} {netId : AmsNetId}
  {b : SpanBegin} {e : SpanEnd}

section

variable (life : Completed cfg before first middle last after netId b e)
include life

theorem Completed.notBegun (member : call ∈ middle) : call.beginId? ≠ some b.spanId := by
  obtain ⟨port, begins⟩ := life.begins
  have own : first.beginId? = some b.spanId := by simp [Call.beginId?, Call.beginKey?, begins]
  have unique := life.uniqueIds
  rw [UniqueIds, List.filterMap_append, List.filterMap_cons, own, List.nodup_append] at unique
  intro again
  apply (List.nodup_cons.mp unique.2.1).1
  exact List.mem_filterMap.mpr ⟨call, List.mem_append_left _ member, again⟩

theorem Completed.instant_lt
    (member : call ∈ middle) : call.tick.instant < first.tick.instant + cfg.spanTtl := by
  have ordered := List.pairwise_map.mp life.clock
  have rest := (List.pairwise_cons.mp (List.pairwise_append.mp ordered).2.1).2
  have earlier := (List.pairwise_append.mp rest).2.2 call member last List.mem_cons_self
  exact Nat.lt_of_le_of_lt earlier life.inTime

/-- After each call of its life: the span as it was begun, with all it has absorbed. -/
theorem Completed.lookup (begins : first.request = .event netId port (.spanBegin b))
    (inside : done <+: middle) : (serveAll cfg (before ++ first :: done)).pending.lookup ⟨netId, b.spanId⟩ =
      some (done.foldl (PendingSpan.absorb cfg)
        (newSpan cfg first.tick netId port b ((serveAll cfg before).resolveParent b))) := by
  induction done using List.reverseRecOn with
  | nil =>
    rw [serveAll_concat, serve, begins]
    exact AList.lookup_insert _
  | append_singleton done call ih =>
    have earlier := (List.prefix_append done [call]).trans inside
    have member : call ∈ middle := inside.subset (by simp)
    have found := ih earlier
    have state : before ++ first :: (done ++ [call]) = (before ++ first :: done) ++ [call] := by simp
    have shorter : before ++ first :: done <+: before ++ first :: (middle ++ last :: after) := by
      apply (List.prefix_append_right_inj before).mpr
      apply List.cons_prefix_cons.mpr
      exact ⟨rfl, earlier.trans (List.prefix_append middle _)⟩
    rw [state, serveAll_concat, List.foldl_append]
    apply lookup_serve (wellKeyed_serveAll cfg _) (life.uniqueIds.of_initial shorter).allIndexed found
    · exact life.notBegun member
    · exact life.notEarlier call member
    · exact life.notEvicted done call inside
    · intro _
      -- the deadline is the one that SPAN_BEGIN has set
      have same := absorbAll_same cfg (newSpan cfg first.tick netId port b
        ((serveAll cfg before).resolveParent b)) done
      have deadline := congrArg PendingSpan.deadline same
      exact Nat.lt_of_lt_of_eq (life.instant_lt member) deadline.symm

end

theorem recordOf_ended (wellKeyed : WellKeyed d) (indexed : AllIndexed d)
    (tick : Tick) (port : UInt16) (start : DcInRange b.dcTime)
    (finish : DcInRange e.dcTime) (points : ∀ ev ∈ pointsFor b.spanId middle, DcInRange ev.dcTime)
    (status : e.status.toNat ≤ 2) :
    RecordOf d middle b e (ended cfg tick' e (middle.foldl (PendingSpan.absorb cfg)
      (newSpan cfg tick netId port b (d.resolveParent b)))).record := by
  generalize opened : newSpan cfg tick netId port b (d.resolveParent b) = p
  have same := absorbAll_same cfg p middle
  constructor
  · exact (congrArg PendingSpan.name same).trans (by rw [← opened]; rfl)
  · have kind := (congrArg PendingSpan.kind same).trans (by rw [← opened]; rfl : p.kind = b.kind)
    exact congrArg (fun k : UInt8 => Int32.ofNat k.toNat) kind
  · have date : p.startTime = dcDate b.dcTime := by
      rw [← opened]
      exact dcTimeToDatetime_eq _ _ start
    exact (congrArg PendingSpan.startTime same).trans date
  · exact dcTimeToDatetime_eq _ _ finish
  · exact asI32_statusCode status
  · rfl
  · intro key
    have attrs : p.attrs = orphanAttrs (d.resolveParent b).orphanReason := by rw [← opened]; rfl
    have sameId : p.spanId = b.spanId := by rw [← opened]; rfl
    change ((middle.foldl (PendingSpan.absorb cfg) p).attrs.mapValues AttrValue.toJson).lookup key = _
    rw [HashMap.lookup_mapValues, absorbAll_attrs, HashMap.lookup_insertAll, attrs, sameId, Option.map_or,
      lookup_orphanAttrs wellKeyed indexed]
  · have events : p.events = [] := by rw [← opened]; rfl
    have sameId : p.spanId = b.spanId := by rw [← opened]; rfl
    change (middle.foldl (PendingSpan.absorb cfg) p).events.map SpanEvent.toRecord = _
    rw [absorbAll_events, events, sameId, List.nil_append, heldEvents_toRecord middle points]

/-- A span that is ended in time and not evicted yields one record, and that record shows its
SPAN_BEGIN, its SPAN_END and what was sent for it in between. -/
theorem completed_recorded (life : Completed cfg before first middle last after netId b e)
    (start : DcInRange b.dcTime) (finish : DcInRange e.dcTime)
    (points : ∀ ev ∈ pointsFor b.spanId middle, DcInRange ev.dcTime) (status : e.status.toNat ≤ 2) :
    ∃ sent, (serveAll cfg (before ++ first :: (middle ++ last :: after))).traceTx.filter
          (fun sent => sent.span.key = ⟨netId, b.spanId⟩) = [sent] ∧
      sent.accepted = last.tick.room ⟨netId, b.spanId⟩ ∧
      RecordOf (serveAll cfg before) middle b e sent.record := by
  obtain ⟨port, begins⟩ := life.begins
  obtain ⟨sender, senderPort, ends⟩ := life.ends
  have unique := life.uniqueIds
  have found := life.lookup begins List.prefix_rfl
  have wellKeyed := wellKeyed_serveAll cfg (before ++ first :: middle)
  have indexed : AllIndexed (serveAll cfg (before ++ first :: middle)) := by
    apply UniqueIds.allIndexed
    apply unique.of_initial
    simp
  have indexedBefore : AllIndexed (serveAll cfg before) := by
    apply UniqueIds.allIndexed
    exact unique.of_initial (List.prefix_append before _)
  generalize opened : middle.foldl (PendingSpan.absorb cfg)
    (newSpan cfg first.tick netId port b ((serveAll cfg before).resolveParent b)) = p at found
  have spanKey := wellKeyed.key_eq found
  refine ⟨ended cfg last.tick e p, ?_, ?_, ?_⟩
  · have closes : (serveAll cfg (before ++ first :: middle)).serve cfg last =
        (serveAll cfg (before ++ first :: middle)).closeSpan ⟨netId, b.spanId⟩
          (ended cfg last.tick e p) := by
      rw [serve, ends]
      apply wellKeyed.onEnd_eq _ found
      rw [life.sameSpan]
      exact indexed _ (mem_of_lookup found)
    have state : before ++ first :: (middle ++ last :: after) =
        ((before ++ first :: middle) ++ [last]) ++ after := by simp
    have member : ended cfg last.tick e p ∈
        (serveAll cfg (before ++ first :: (middle ++ last :: after))).traceTx := by
      rw [state]
      apply (traceTx_grows cfg _ after).subset
      rw [serveAll_concat, closes]
      exact List.mem_append_right _ (List.mem_singleton_self _)
    exact unique.filter_traceTx member spanKey
  · simp [ended, spanKey]
  · rw [← opened]
    exact recordOf_ended (wellKeyed_serveAll cfg before) indexedBefore _ port start finish points status

end

/-! ### A life with another PLC's span beside it -/

def otherBegin : Call := beginAt 1 (plc 2) (rootSpan 8 "other")

def sampleAttr : SpanAttr := ⟨(rootSpan 7 "a").spanId, 1, 0, 1, "part", .i64 5⟩

def sampleEnd : SpanEnd := ⟨(rootSpan 7 "a").spanId, 1, 0, 9, 1, "done"⟩

def sampleMiddle : List Call :=
  [⟨.atInstant 3, .event (plc 1) 350 (.spanAttr sampleAttr)⟩, ⟨.atInstant 4, .sweep⟩]

def sampleLast : Call := ⟨.atInstant 5, .event (plc 1) 350 (.spanEnd sampleEnd)⟩

theorem completed_sample : Completed sampleConfig [otherBegin] (beginAt 2 (plc 1) (rootSpan 7 "a"))
    sampleMiddle sampleLast [] (plc 1) (rootSpan 7 "a") sampleEnd where
  uniqueIds := by
    unfold UniqueIds
    decide
  clock := by decide
  begins := ⟨350, rfl⟩
  ends := ⟨plc 1, 350, rfl⟩
  sameSpan := rfl
  notEarlier := by decide
  inTime := by decide
  notEvicted done call inside isBegin := by
    have member : call ∈ sampleMiddle := inside.subset (by simp)
    have none : ∀ other ∈ sampleMiddle, other.isBegin = false := by decide
    rw [none call member] at isBegin
    cases isBegin

theorem completed_recorded_sample :
    ∃ sent, (serveAll sampleConfig ([otherBegin] ++ beginAt 2 (plc 1) (rootSpan 7 "a") ::
          (sampleMiddle ++ sampleLast :: []))).traceTx.filter
          (fun sent => sent.span.key = ⟨plc 1, (rootSpan 7 "a").spanId⟩) = [sent] ∧ sent.accepted = true ∧
      RecordOf (serveAll sampleConfig [otherBegin]) sampleMiddle (rootSpan 7 "a") sampleEnd sent.record :=
  completed_recorded completed_sample (by decide) (by decide) (by decide) (by decide)

end TcOtel.Service
