import TcOtel.Service.BridgeRequests

/-!
# Building up a target in one step

`rebuild_target` with PLCs that answer: the loop over the definitions as a function of the answers.
Whatever the schedule of the tasks of a target was, once it is ready it has what this function gives
for the same answers.
-/

namespace TcOtel.Service

open Ads Client

/-! ### What is asked of a PLC -/

/-- What the PLCs answer while a configuration is put into effect. -/
structure Plcs where
  /-- The symbol table of a runtime, if it can be read. -/
  tree : AmsNetId → UInt16 → Option SymbolTree
  /-- The handle for a subscription. It may depend on the answers to the requests before. -/
  grant : List Answer → AmsNetId → UInt16 → Subscription → Option UInt32

structure Registration where
  netId : AmsNetId
  port : UInt16
  handle : UInt32
  sub : Subscription
deriving DecidableEq

structure Setup where
  notifier : Notifier
  pollTasks : List CustomMetricDef
  answers : List Answer
  registered : List Registration

namespace Setup

def new : Setup := ⟨.new, [], [], []⟩

def subscribe (plcs : Plcs) (tgt : TargetDescriptor) (s : Setup) (sub : Subscription) : Setup :=
  match plcs.grant s.answers tgt.amsNetId tgt.amsPort sub with
  | none => { s with answers := s.answers ++ [.notSubscribed] }
  | some handle =>
    { s with
      notifier := s.notifier.register handle sub
      answers := s.answers ++ [.subscribed handle sub]
      registered := s.registered ++ [⟨tgt.amsNetId, tgt.amsPort, handle, sub⟩] }

def registerDef (plcs : Plcs) (tgt : TargetDescriptor) (tree : SymbolTree) (s : Setup) (d : CustomMetricDef) : Setup :=
  match Target.resolveMeta tree d with
  | none => s
  | some symbol =>
    match d.source with
    | .poll =>
      -- `Poller::new` refuses histograms
      if d.kind = .histogram then s else { s with pollTasks := s.pollTasks ++ [d] }
    | .notification =>
      match NotifAttrs.fromDef d symbol.size with
      | .error _ => s
      | .ok attrs => s.subscribe plcs tgt ⟨d, symbol, attrs⟩
    | .push => s

def run (plcs : Plcs) (tgt : TargetDescriptor) (tree : SymbolTree) (defs : List CustomMetricDef) : Setup :=
  defs.foldl (registerDef plcs tgt tree) .new

end Setup

/-! ### One target -/

theorem subscriptionOf_metricDef
    (asked : subscriptionOf tree d = some sub) : sub.metricDef = d ∧ d.source = .notification := by
  unfold subscriptionOf at asked
  split at asked
  next symbol found source =>
    obtain ⟨attrs, -, rfl⟩ := Option.map_eq_some_iff.mp asked
    exact ⟨rfl, source⟩
  · cases asked

namespace Setup

variable {plcs : Plcs} {tgt : TargetDescriptor} {tree : SymbolTree}

theorem registerDef_cases (plcs : Plcs) (tgt : TargetDescriptor) (tree : SymbolTree) (s : Setup) (d : CustomMetricDef) :
    (∃ sub, subscriptionOf tree d = some sub ∧ s.registerDef plcs tgt tree d = s.subscribe plcs tgt sub) ∨
      subscriptionOf tree d = none ∧ ∃ more, s.registerDef plcs tgt tree d = { s with pollTasks := s.pollTasks ++ more } := by
  have same : s = { s with pollTasks := s.pollTasks ++ [] } := by rw [List.append_nil]
  unfold registerDef subscriptionOf
  cases Target.resolveMeta tree d with
  | none => exact .inr ⟨rfl, [], same⟩
  | some symbol =>
    cases d.source with
    | push => exact .inr ⟨rfl, [], same⟩
    | poll =>
      refine .inr ⟨rfl, ?_⟩
      dsimp only
      split
      · exact ⟨[], same⟩
      · exact ⟨[d], rfl⟩
    | notification =>
      dsimp only
      cases NotifAttrs.fromDef d symbol.size with
      | error e => exact .inr ⟨rfl, [], same⟩
      | ok attrs => exact .inl ⟨_, rfl, rfl⟩

theorem registered_run
    (served : ∀ d ∈ defs, d.source = .notification → ∃ sub, subscriptionOf tree d = some sub ∧
      ∀ before, (plcs.grant before tgt.amsNetId tgt.amsPort sub).isSome) :
    ((run plcs tgt tree defs).registered.map fun r => r.sub.metricDef) = defs.filter fun d => d.source = .notification := by
  induction defs using List.reverseRecOn with
  | nil => rfl
  | append_singleton defs d ih =>
    have before := ih fun other member => served other (List.mem_append_left _ member)
    rw [List.filter_append, ← before, run, List.foldl_append]
    change ((run plcs tgt tree defs).registerDef plcs tgt tree d).registered.map _ = _
    obtain ⟨sub, asked, subscribed⟩ | ⟨nothing, more, polled⟩ :=
      registerDef_cases plcs tgt tree (run plcs tgt tree defs) d
    · obtain ⟨own, source⟩ := subscriptionOf_metricDef asked
      obtain ⟨sub', asked', granted⟩ := served d (List.mem_append_right _ List.mem_cons_self) source
      cases asked.symm.trans asked'
      obtain ⟨handle, answer⟩ := Option.isSome_iff_exists.mp (granted (run plcs tgt tree defs).answers)
      have isNotification : [d].filter (fun d => d.source = .notification) = [d] := by simp [source]
      rw [subscribed, subscribe, answer, isNotification, List.map_append, List.map_singleton, own]
    · have notAsked : d.source ≠ .notification := by
        intro source
        obtain ⟨sub, asked, -⟩ := served d (List.mem_append_right _ List.mem_cons_self) source
        cases nothing.symm.trans asked
      rw [polled, List.filter_cons_of_neg (by simpa using notAsked), List.filter_nil, List.append_nil]

end Setup

/-! ### Each definition belongs to one target -/

theorem flatMap_addTo {targets : List (TargetDescriptor × List CustomMetricDef)}
    (distinct : (targets.map fun entry => entry.1.amsNetId).Nodup)
    (known : ∃ entry ∈ targets, entry.1.amsNetId = netId) (d : CustomMetricDef) :
    ((targets.map fun entry => if entry.1.amsNetId = netId then (entry.1, entry.2 ++ [d]) else entry).flatMap (·.2)).Perm
      (targets.flatMap (·.2) ++ [d]) := by
  induction targets with
  | nil =>
    obtain ⟨entry, member, -⟩ := known
    cases member
  | cons first rest ih =>
    obtain ⟨other, distinctRest⟩ := List.nodup_cons.mp distinct
    rw [List.map_cons, List.flatMap_cons, List.flatMap_cons]
    by_cases same : first.1.amsNetId = netId
    · -- no other entry has the NetID
      have unchanged : ∀ entry ∈ rest,
          (if entry.1.amsNetId = netId then (entry.1, entry.2 ++ [d]) else entry) = id entry := by
        intro entry member
        apply if_neg
        intro equal
        exact other (List.mem_map.mpr ⟨entry, member, equal.trans same.symm⟩)
      rw [List.map_congr_left unchanged, List.map_id, if_pos same, List.append_assoc, List.append_assoc]
      exact List.perm_append_comm.append_left first.2
    · rw [if_neg same, List.append_assoc]
      apply List.Perm.append_left
      apply ih distinctRest
      obtain ⟨entry, member, equal⟩ := known
      rcases List.mem_cons.mp member with rfl | later
      · exact absurd equal same
      · exact ⟨entry, later, equal⟩

/-- The targets have different NetIDs, and together they have the definitions with a valid one. -/
structure Parted (defs : List CustomMetricDef) (targets : List (TargetDescriptor × List CustomMetricDef)) : Prop where
  distinct : (targets.map fun entry => entry.1.amsNetId).Nodup
  all : (targets.flatMap (·.2)).Perm (defs.filter fun d => (TargetDescriptor.fromDef d).isSome)

theorem Parted.addDef {defs : List CustomMetricDef}
    (parted : Parted defs targets) (d : CustomMetricDef) : Parted (defs ++ [d]) (addDef targets d) := by
  rw [Service.addDef]
  cases valid : TargetDescriptor.fromDef d with
  | none =>
    refine ⟨parted.distinct, ?_⟩
    rw [List.filter_append, List.filter_cons_of_neg (by simp [valid]), List.filter_nil, List.append_nil]
    exact parted.all
  | some tgt =>
    have more : (defs ++ [d]).filter (fun d => (TargetDescriptor.fromDef d).isSome) =
        defs.filter (fun d => (TargetDescriptor.fromDef d).isSome) ++ [d] := by
      rw [List.filter_append, List.filter_cons_of_pos (by simp [valid]), List.filter_nil]
    dsimp only
    split
    next known =>
      constructor
      · rw [List.map_map]
        have keys : ((fun entry : TargetDescriptor × List CustomMetricDef => entry.1.amsNetId) ∘ fun entry =>
            if entry.1.amsNetId = tgt.amsNetId then (entry.1, entry.2 ++ [d]) else entry) = fun entry => entry.1.amsNetId := by
          funext entry
          rw [Function.comp_apply]
          split <;> rfl
        rw [keys]
        exact parted.distinct
      · rw [more]
        obtain ⟨entry, member, same⟩ := List.any_eq_true.mp known
        exact (flatMap_addTo parted.distinct ⟨entry, member, of_decide_eq_true same⟩ d).trans (parted.all.append_right [d])
    next unknown =>
      constructor
      · rw [List.map_append]
        apply List.Nodup.append parted.distinct (List.nodup_singleton _)
        intro key before new
        obtain ⟨entry, member, same⟩ := List.mem_map.mp before
        rw [List.mem_singleton.mp new] at same
        exact unknown (List.any_eq_true.mpr ⟨entry, member, decide_eq_true same⟩)
      · rw [more, List.flatMap_append]
        exact parted.all.append_right [d]

theorem parted_byTarget (customMetrics : List CustomMetricDef) :
    Parted (customMetrics.filter fun d => d.source ≠ .push) (byTarget customMetrics) := by
  rw [byTarget]
  induction customMetrics.filter fun d => d.source ≠ .push using List.reverseRecOn with
  | nil => exact ⟨List.nodup_nil, .nil⟩
  | append_singleton defs d ih =>
    rw [List.foldl_append]
    exact ih.addDef d

end TcOtel.Service
