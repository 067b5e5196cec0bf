import TcOtel.Ads.DiagnosticsObserver
import TcOtel.Lib.Channel

/-!
# Polls beside pushes

`DiagnosticsPoller` reads diagnostics from its targets, one loop per target. It is to leave out
a tick when the target has pushed its diagnostics within the last ten seconds, and keeps for
each target a time for this in `push_seen`.

That time is written by the consumer of the poller's own events, which are responses to polls.
The consumer of the push events does not write it. So a tick is left out exactly when an answer
to a poll was consumed within the window (`System.suspended_iff`).
-/

namespace TcOtel.Service.Polling

open Decoding Ads Ads.Observer Channels

/-! ### Polls -/

def defaultRtPort : UInt16 := 200

def pollerSourcePort : UInt16 := 30001

/-- `PUSH_SUSPEND_WINDOW`, in nanoseconds. -/
def pushSuspendWindow : Nat := 10 * 1000000000

/-- `TargetConfig`. The period only says when the ticks come. -/
structure TargetConfig where
  netId : AmsNetId
  exceedCounter : Bool
  rtUsage : Bool
  taskPorts : List UInt16
  rtPort : UInt16

def TargetConfig.withDefaults (netId : AmsNetId) : TargetConfig where
  netId
  exceedCounter := true
  rtUsage := true
  taskPorts := [340, 350, 351]
  rtPort := defaultRtPort

structure PollerConfig where
  localNetId : AmsNetId
  targets : List TargetConfig

structure PlannedPoll where
  targetNetId : AmsNetId
  targetPort : UInt16
  indexGroup : UInt32
  indexOffset : UInt32
  readSize : UInt32
  invokeId : UInt32
  frame : List UInt8

def buildReadFrame (sourceNetId : AmsNetId) (sourcePort : UInt16) (targetNetId : AmsNetId) (targetPort : UInt16)
    (indexGroup indexOffset readLength invokeId : UInt32) : List UInt8 :=
  let payload := leBytes 4 indexGroup.toNat ++ (leBytes 4 indexOffset.toNat ++ leBytes 4 readLength.toNat)
  let header : AmsHeader :=
    { targetNetId, targetPort, sourceNetId, sourcePort
      commandId := adsCmdRead
      stateFlags := adsStateRequest
      dataLength := UInt32.ofNat payload.length
      errorCode := 0
      invokeId }
  header.serialize ++ payload

structure Planning where
  polls : List PlannedPoll
  invokeCounter : UInt32

def Planning.read (source target : AmsNetId) (targetPort : UInt16) (indexGroup indexOffset readSize : UInt32)
    (p : Planning) : Planning where
  polls := p.polls ++ [{
    targetNetId := target, targetPort, indexGroup, indexOffset, readSize
    invokeId := p.invokeCounter
    frame := buildReadFrame source pollerSourcePort target targetPort indexGroup indexOffset readSize p.invokeCounter }]
  invokeCounter := p.invokeCounter + 1

def buildPollsForTarget (target : TargetConfig) (source : AmsNetId) (invokeCounter : UInt32) : Planning :=
  let start : Planning := ⟨[], invokeCounter⟩
  -- any port answers for the exceed counter
  let exceed :=
    if target.exceedCounter then
      start.read source target.netId (target.taskPorts.min?.getD target.rtPort) igRtSystem ioExceedCounter 4
    else start
  let usage :=
    if target.rtUsage then
      exceed.read source target.netId target.rtPort igRtUsage ioRtUsage (UInt32.ofNat rtUsageLen)
    else exceed
  target.taskPorts.foldl
    (fun p port => p.read source target.netId port igRtSystem ioTaskStats (UInt32.ofNat taskStatsLen)) usage

/-! ### The poller and its surroundings -/

structure System where
  now : Nat
  observer : DiagnosticsObserver
  invokeCounter : UInt32
  /-- The channel from `on_response` to the consumer of polled events. -/
  diagRx : Channel (AmsNetId × PollEvent)
  /-- The channel from the router to the consumer of push events. -/
  pushRx : Channel (AmsNetId × Push.DiagEvent)
  pushSeen : HashMap AmsNetId Nat
  /-- The targets whose loop is behind its first tick, by their numbers. -/
  started : List Nat
  published : List (AmsNetId × List UInt8)

inductive Input where
  /-- The router passes on a push event of a target. -/
  | push (netId : AmsNetId) (ev : Push.DiagEvent)
  /-- The consumer of push events receives one. -/
  | drainPush
  /-- A frame comes in on the response topic. -/
  | incoming (payload : List UInt8)
  /-- The consumer of polled events receives one. -/
  | consumeDiag
  /-- The ticker of a target fires. -/
  | tick (target : Nat)

namespace System

def initial (pushCapacity : Nat) : System where
  now := 0
  observer := .new 0
  invokeCounter := 1
  diagRx := .empty 256
  pushRx := .empty pushCapacity
  pushSeen := ∅
  started := []
  published := []

/-- `on_response`. The answers to `ReadDeviceInfo` are for the names of tasks. -/
def onResponse (config : PollerConfig) (payload : List UInt8) (s : System) : System :=
  match AmsHeader.parse payload with
  | .error _ => s
  | .ok header =>
    if header.targetNetId ≠ config.localNetId then s
    else if payload.length < 32 then s
    else if header.commandId = adsCmdReadDeviceInfo then s
    else
      let (event, observer) := s.observer.feed ⟨s.now, header, payload.drop 32⟩
      match event with
      | some ev => { s with observer, diagRx := s.diagRx.trySend (header.sourceNetId, ev) }
      | none => { s with observer }

/-- Publish a poll; the observer sees it first, so that it knows the answer. -/
def publish (s : System) (poll : PlannedPoll) : System :=
  match AmsHeader.parse poll.frame with
  | .error _ => s
  | .ok header =>
    { s with
      observer := (s.observer.feed ⟨s.now, header, poll.frame.drop 32⟩).2
      published := s.published ++ [(poll.targetNetId, poll.frame)] }

def suspended (s : System) (netId : AmsNetId) : Bool :=
  match s.pushSeen.lookup netId with
  | some lastPush => s.now - lastPush < pushSuspendWindow
  | none => false

/-- A tick of `target_loop`. The first one is skipped. -/
def tick (config : PollerConfig) (n : Nat) (s : System) : System :=
  match config.targets[n]? with
  | none => s
  | some target =>
    if n ∈ s.started then
      if s.suspended target.netId then s
      else
        let planned := buildPollsForTarget target config.localNetId s.invokeCounter
        planned.polls.foldl publish { s with invokeCounter := planned.invokeCounter }
    else { s with started := n :: s.started }

/-- The consumer of polled events. It notes the time, whatever the event is, and passes on
metrics, as the consumer of push events does. -/
def consumeDiag (s : System) : System :=
  match s.diagRx.queue.head? with
  | some (netId, _) => { s with diagRx := s.diagRx.rest, pushSeen := s.pushSeen.insert netId s.now }
  | none => s

def handle (config : PollerConfig) (s : System) : Input → System
  | .push netId ev => { s with pushRx := s.pushRx.trySend (netId, ev) }
  | .drainPush => { s with pushRx := s.pushRx.rest }
  | .incoming payload => s.onResponse config payload
  | .consumeDiag => s.consumeDiag
  | .tick n => s.tick config n

def step (config : PollerConfig) (s : System) (input : Nat × Input) : System :=
  { s with now := s.now + input.1 }.handle config input.2

def run (config : PollerConfig) (s : System) (inputs : List (Nat × Input)) : System := inputs.foldl (step config) s

/-! ### When something was seen of a target -/

def pushTimes (now : Nat) : List (Nat × Input) → List (Nat × AmsNetId)
  | [] => []
  | (elapsed, .push netId _) :: inputs => (now + elapsed, netId) :: pushTimes (now + elapsed) inputs
  | (elapsed, _) :: inputs => pushTimes (now + elapsed) inputs

def consumedIn (s : System) : Input → List (Nat × AmsNetId)
  | .consumeDiag => s.diagRx.queue.head?.toList.map fun message => (s.now, message.1)
  | _ => []

def consumedTimes (config : PollerConfig) (s : System) : List (Nat × Input) → List (Nat × AmsNetId)
  | [] => []
  | input :: inputs =>
    { s with now := s.now + input.1 }.consumedIn input.2 ++ (s.step config input).consumedTimes config inputs

/-- Something of the target is less than the window ago. -/
def Recent (times : List (Nat × AmsNetId)) (netId : AmsNetId) (now : Nat) : Prop :=
  ∃ time, (time, netId) ∈ times ∧ now - time < pushSuspendWindow

/-- The map holds the last of the times of each target, and none lies ahead. -/
structure Notes (s : System) (times : List (Nat × AmsNetId)) : Prop where
  noted : ∀ netId last, s.pushSeen.lookup netId = some last → (last, netId) ∈ times
  last : ∀ time netId, (time, netId) ∈ times → ∃ last, s.pushSeen.lookup netId = some last ∧ time ≤ last
  past : ∀ time netId, (time, netId) ∈ times → time ≤ s.now

variable {config : PollerConfig} {s : System} {times : List (Nat × AmsNetId)}

theorem suspended_iff (notes : s.Notes times) (netId : AmsNetId) :
    s.suspended netId = true ↔ Recent times netId s.now := by
  unfold suspended
  constructor
  · intro holds
    split at holds
    next last found => exact ⟨last, notes.noted netId last found, of_decide_eq_true holds⟩
    · cases holds
  · rintro ⟨time, member, recent⟩
    obtain ⟨last, found, later⟩ := notes.last time netId member
    rw [found]
    exact decide_eq_true (by omega)

/-! ### Only the consumer of polled events writes the times -/

theorem publish_notes (polls : List PlannedPoll) :
    (polls.foldl publish s).pushSeen = s.pushSeen ∧ (polls.foldl publish s).now = s.now := by
  induction polls generalizing s with
  | nil => exact ⟨rfl, rfl⟩
  | cons poll polls ih =>
    have one : (s.publish poll).pushSeen = s.pushSeen ∧ (s.publish poll).now = s.now := by
      unfold publish
      split <;> exact ⟨rfl, rfl⟩
    exact ⟨ih.1.trans one.1, ih.2.trans one.2⟩

theorem tick_notes (config : PollerConfig) (s : System) (n : Nat) :
    (s.tick config n).pushSeen = s.pushSeen ∧ (s.tick config n).now = s.now := by
  unfold tick
  split
  · exact ⟨rfl, rfl⟩
  split
  · split
    · exact ⟨rfl, rfl⟩
    · exact publish_notes _
  · exact ⟨rfl, rfl⟩

theorem onResponse_notes (config : PollerConfig) (s : System) (payload : List UInt8) :
    (s.onResponse config payload).pushSeen = s.pushSeen ∧ (s.onResponse config payload).now = s.now := by
  unfold onResponse
  split
  · exact ⟨rfl, rfl⟩
  split
  · exact ⟨rfl, rfl⟩
  split
  · exact ⟨rfl, rfl⟩
  split
  · exact ⟨rfl, rfl⟩
  dsimp only
  split <;> exact ⟨rfl, rfl⟩

theorem Notes.of_eq {s' : System} (notes : s.Notes times) (seen : s'.pushSeen = s.pushSeen) (now : s'.now = s.now) :
    s'.Notes times := by
  refine ⟨?_, ?_, ?_⟩
  · rw [seen]
    exact notes.noted
  · rw [seen]
    exact notes.last
  · rw [now]
    exact notes.past

theorem Notes.insert (notes : s.Notes times) (netId : AmsNetId) (rx : Channel (AmsNetId × PollEvent)) :
    { s with diagRx := rx, pushSeen := s.pushSeen.insert netId s.now }.Notes (times ++ [(s.now, netId)]) := by
  refine ⟨?_, ?_, ?_⟩
  · intro other last found
    rcases HashMap.lookup_insert_cases found with ⟨rfl, rfl⟩ | older
    · exact List.mem_append_right _ List.mem_cons_self
    · exact List.mem_append_left _ (notes.noted other last older)
  · intro time other member
    by_cases same : other = netId
    · subst same
      refine ⟨s.now, Finmap.lookup_insert _, ?_⟩
      rcases List.mem_append.mp member with before | here
      · exact notes.past time other before
      · cases List.mem_singleton.mp here
        exact Nat.le_refl _
    · rcases List.mem_append.mp member with before | here
      · obtain ⟨last, found, later⟩ := notes.last time other before
        exact ⟨last, (Finmap.lookup_insert_of_ne _ same).trans found, later⟩
      · cases List.mem_singleton.mp here
        exact absurd rfl same
  · intro time other member
    rcases List.mem_append.mp member with before | here
    · exact notes.past time other before
    · cases List.mem_singleton.mp here
      exact Nat.le_refl _

theorem Notes.handle (notes : s.Notes times) (config : PollerConfig) (input : Input) :
    (s.handle config input).Notes (times ++ s.consumedIn input) := by
  cases input with
  | push netId ev | drainPush =>
    simp only [consumedIn, List.append_nil]
    exact notes.of_eq rfl rfl
  | incoming payload =>
    obtain ⟨seen, now⟩ := s.onResponse_notes config payload
    simp only [consumedIn, List.append_nil]
    exact notes.of_eq seen now
  | tick n =>
    obtain ⟨seen, now⟩ := s.tick_notes config n
    simp only [consumedIn, List.append_nil]
    exact notes.of_eq seen now
  | consumeDiag =>
    unfold consumedIn System.handle consumeDiag
    cases s.diagRx.queue.head? with
    | none => simpa using notes
    | some message => exact notes.insert message.1 s.diagRx.rest

theorem Notes.run (notes : s.Notes times) (config : PollerConfig) (inputs : List (Nat × Input)) :
    (s.run config inputs).Notes (times ++ s.consumedTimes config inputs) := by
  induction inputs generalizing s times with
  | nil =>
    rw [consumedTimes, List.append_nil]
    exact notes
  | cons input inputs ih =>
    have later : { s with now := s.now + input.1 }.Notes times :=
      ⟨notes.noted, notes.last, fun time netId member => Nat.le_add_right_of_le (notes.past time netId member)⟩
    have rest := ih (later.handle config input.2)
    rw [consumedTimes, ← List.append_assoc]
    exact rest

theorem notes_initial (pushCapacity : Nat) : (initial pushCapacity).Notes [] := by
  refine ⟨?_, ?_, ?_⟩
  · intro netId last found
    cases found
  · intro time netId member
    cases member
  · intro time netId member
    cases member

/-! ### Ticks -/

/-- A tick in the loop of a target: not the first one. -/
structure LoopTick (config : PollerConfig) (start : System) (inputs before : List (Nat × Input)) (elapsed : Nat)
    (target : TargetConfig) : Prop where
  next : ∃ n, before ++ [(elapsed, .tick n)] <+: inputs ∧ config.targets[n]? = some target ∧
    n ∈ (start.run config before).started

def atTick (config : PollerConfig) (start : System) (before : List (Nat × Input)) (elapsed : Nat) : System :=
  { start.run config before with now := (start.run config before).now + elapsed }

/-- A tick is skipped exactly when the target has pushed within the window. -/
def SuspendsOnPush (config : PollerConfig) (start : System) (inputs : List (Nat × Input)) : Prop :=
  ∀ before elapsed target, LoopTick config start inputs before elapsed target →
    ((atTick config start before elapsed).suspended target.netId = true ↔
      Recent (pushTimes start.now before) target.netId (atTick config start before elapsed).now)

/-- This is so just where a target is as recent in its answers to polls as in its pushes. -/
theorem suspends_on_push_iff (config : PollerConfig) (pushCapacity : Nat) (inputs : List (Nat × Input)) :
    SuspendsOnPush config (initial pushCapacity) inputs ↔
      ∀ before elapsed target, LoopTick config (initial pushCapacity) inputs before elapsed target →
        (Recent ((initial pushCapacity).consumedTimes config before) target.netId
            (atTick config (initial pushCapacity) before elapsed).now ↔
          Recent (pushTimes 0 before) target.netId (atTick config (initial pushCapacity) before elapsed).now) := by
  have start := notes_initial pushCapacity
  have suspended : ∀ before elapsed (netId : AmsNetId),
      (atTick config (initial pushCapacity) before elapsed).suspended netId = true ↔
        Recent ((initial pushCapacity).consumedTimes config before) netId
          (atTick config (initial pushCapacity) before elapsed).now := by
    intro before elapsed netId
    have notes := start.run config before
    apply suspended_iff
    exact ⟨notes.noted, notes.last, fun time other member => Nat.le_add_right_of_le (notes.past time other member)⟩
  constructor
  · intro suspends before elapsed target tick
    rw [← suspended]
    exact suspends before elapsed target tick
  · intro alike before elapsed target tick
    rw [suspended]
    exact alike before elapsed target tick

end System

def emptyPush : Push.DiagEvent := .taskDiagBatch
  { taskPort := 350, taskName := "PlcTask", taskObjId := 0, windowMs := 1000, cycleCountStart := 0, cycleCountEnd := 0
    dcTimeStart := 0, dcTimeEnd := 0, execTimeMinUs := 0, execTimeMaxUs := 0, execTimeAvgUs := 0
    cycleExceedCount := 0, rtViolationCount := 0, samples := [] }

/-- A push at the start, and a tick one second later. -/
theorem polls_despite_push :
    ¬System.SuspendsOnPush ⟨.fromBytes 10 10 10 10 1 1, [.withDefaults (.fromBytes 5 9 8 7 1 1)]⟩ (.initial 256)
      [(0, .tick 0), (0, .push (.fromBytes 5 9 8 7 1 1) emptyPush), (1000000000, .tick 0)] := by
  intro suspends
  have skipped := (suspends [(0, .tick 0), (0, .push (.fromBytes 5 9 8 7 1 1) emptyPush)] 1000000000 _
    ⟨0, List.prefix_rfl, rfl, List.mem_singleton_self 0⟩).mpr ⟨0, List.mem_cons_self, by decide⟩
  cases skipped

end TcOtel.Service.Polling
