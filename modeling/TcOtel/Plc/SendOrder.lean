import TcOtel.Plc.LogAtomicity
import TcOtel.Plc.OtelTask

/-!
# The order in which a task sends

Programs append to the write buffer: log statements, the frames of spans, and in `Call` itself
the registration and a log on reconnection. `Call` swaps the buffers when it starts a write and
clears the one it sent when the write has succeeded. So the bytes of the successful writes, the
buffer in flight and the write buffer are together what was added, in this order.

One step conserves the bytes (`OtelTask.Settled.perform`), and a run is a sequence of steps.
-/

namespace TcOtel.Plc

open Decoding Memory

/-! ### Appending -/

/-- What was in the buffer stays in front. -/
structure LogBuffer.Appends (b b' : LogBuffer) : Prop where
  within : b'.Within
  keeps : b.used <+: b'.used

namespace LogBuffer

variable {b b' b'' : LogBuffer}

def grown (b b' : LogBuffer) : List UInt8 := b'.used.drop b.used.length

theorem Appends.used (h : b.Appends b') : b'.used = b.used ++ b.grown b' := by
  obtain ⟨more, eq⟩ := h.keeps
  rw [grown, ← eq, List.drop_left]

theorem Appends.trans (first : b.Appends b') (second : b'.Appends b'') : b.Appends b'' :=
  ⟨second.within, first.keeps.trans second.keeps⟩

theorem Within.appends (within : b.Within) : b.Appends b := ⟨within, List.prefix_rfl⟩

theorem Within.put (within : b.Within) (src : List UInt8) : b.Appends (b.put src) := by
  refine ⟨(length_put within src).2, ?_⟩
  by_cases room : src.length ≤ b.bufferFree
  · rw [used_put within room]
    exact List.prefix_append _ _
  · rw [LogBuffer.put, if_neg room]

theorem Within.putAll (within : b.Within) (pieces : List (List UInt8)) : b.Appends (b.putAll pieces) := by
  induction pieces generalizing b with
  | nil => exact within.appends
  | cons src pieces ih => exact (within.put src).trans (ih (within.put src).within)

theorem Appends.nBufferCount_le (h : b.Appends b') (within : b.Within) : b.nBufferCount ≤ b'.nBufferCount := by
  have le := h.keeps.length_le
  rwa [LogBuffer.used, LogBuffer.used, List.length_take, List.length_take, Nat.min_eq_left within,
    Nat.min_eq_left h.within] at le

end LogBuffer

open LogBuffer

/-! ### Log statements -/

/-- A statement that begins with `F_Log` and goes on with any calls, other statements among
them. -/
structure LogChain where
  task : Task
  sMessage : PlcString
  eLogLevel : LogLevel
  pLogger : Option PlcString
  calls : List BuildCall

def LogChain.perform (chain : LogChain) (s : Logging) : Logging :=
  (s.clear chain.task chain.sMessage chain.eLogLevel chain.pLogger).build (chain.calls.map (chain.task, ·))

namespace Logging

variable {s : Logging} {task : Task}

/-- The entry is sound, or no call does anything before the next `Clear`. -/
def Guarded (task : Task) (s : Logging) : Prop :=
  s.Sound ∨ s.buffer.Within ∧ isLogLevelActive task s.builder.eLogLevel = false

theorem Guarded.within (guarded : s.Guarded task) : s.buffer.Within := by
  rcases guarded with sound | ⟨within, _⟩
  · exact sound.placed.within
  · exact within

theorem guarded_clear (within : s.buffer.Within) (sMessage : PlcString) (eLogLevel : LogLevel)
    (pLogger : Option PlcString) : (s.clear task sMessage eLogLevel pLogger).Guarded task := by
  by_cases active : isLogLevelActive task eLogLevel = true
  · exact .inl (sound_clear within sMessage pLogger active)
  · rw [clear, if_neg active]
    exact .inr ⟨within, Bool.eq_false_of_not_eq_true active⟩

theorem Guarded.perform (guarded : s.Guarded task) (call : BuildCall) :
    (call.perform task s).Guarded task ∧ s.buffer.used <+: (call.perform task s).buffer.used := by
  rcases guarded with sound | ⟨within, inactive⟩
  · obtain ⟨after, effect⟩ := BuildCall.effect sound task call
    refine ⟨.inl after, ?_⟩
    rcases effect with same | ⟨_, _, bytes, _, more⟩
    · rw [same]
    · rw [more]
      exact List.prefix_append _ _
  · cases call with
    | clear sMessage eLogLevel pLogger =>
      refine ⟨guarded_clear within sMessage eLogLevel pLogger, ?_⟩
      rw [BuildCall.perform, buffer_clear]
    | _ =>
      have suppressed : ¬isLogLevelActive task s.builder.eLogLevel = true := by simp [inactive]
      simp only [BuildCall.perform, withLogger, withContext, withAnyArg, withTArg, withSpan, createLog,
        if_neg suppressed]
      exact ⟨.inr ⟨within, inactive⟩, List.prefix_rfl⟩

theorem Guarded.build (guarded : s.Guarded task) (calls : List BuildCall) :
    s.buffer.Appends (s.build (calls.map (task, ·))).buffer := by
  induction calls generalizing s with
  | nil => exact guarded.within.appends
  | cons call calls ih =>
    obtain ⟨after, keeps⟩ := guarded.perform call
    exact LogBuffer.Appends.trans ⟨after.within, keeps⟩ (ih after)

end Logging

theorem LogChain.appends (chain : LogChain) {s : Logging} (within : s.buffer.Within) :
    s.buffer.Appends (chain.perform s).buffer := by
  have cleared : (s.clear chain.task chain.sMessage chain.eLogLevel chain.pLogger).buffer = s.buffer :=
    Logging.buffer_clear ..
  have start : (s.clear chain.task chain.sMessage chain.eLogLevel chain.pLogger).Guarded chain.task :=
    Logging.guarded_clear within ..
  have rest := start.build chain.calls
  rwa [cleared] at rest

namespace OtelTask

variable {fb fb' : OtelTask}

/-! ### What is added and what is sent -/

/-- What happens to a task. A frame is one of the tracer, which writes it only if there is
room for it. -/
inductive TaskEvent where
  | log (chain : LogChain)
  | frame (bytes : List UInt8)
  | call (c : OtelCycle)

/-- What `Call` does before it looks whether there is anything to send. -/
def prepare (c : OtelCycle) (fb : OtelTask) : OtelTask := ((fb.logConnected c).checkOnlineChange c).register c

def react (fb : OtelTask) : TaskEvent → OtelTask
  | .log chain => fb.onLogging chain.perform
  | .frame bytes => fb.onWriteBuffer (LogBuffer.put bytes)
  | .call c => fb.call c

def isSending (fb : OtelTask) : Bool := fb.nState = .sending || fb.nState = .retryWait

def inFlight (fb : OtelTask) : List UInt8 := if fb.isSending then fb.request.data else []

def succeeds (fb : OtelTask) : TaskEvent → Bool
  | .call c => (fb.initAndCheckTask c).isSome && fb.nState = .sending && !c.busy && !c.err
  | _ => false

def addedBy (fb : OtelTask) : TaskEvent → List UInt8
  | .log chain => fb.writeBuffer.grown (fb.onLogging chain.perform).writeBuffer
  | .frame bytes => fb.writeBuffer.grown (fb.onWriteBuffer (LogBuffer.put bytes)).writeBuffer
  | .call c =>
    match fb.initAndCheckTask c with
    | some fb => if fb.nState = .waitLog then fb.writeBuffer.grown (fb.prepare c).writeBuffer else []
    | none => []

def sentBy (fb : OtelTask) (event : TaskEvent) : List UInt8 :=
  if fb.succeeds event then fb.request.data else []

def after (fb : OtelTask) (events : List TaskEvent) : OtelTask := events.foldl react fb

def added (fb : OtelTask) : List TaskEvent → List UInt8
  | [] => []
  | event :: events => fb.addedBy event ++ (fb.react event).added events

def sent (fb : OtelTask) : List TaskEvent → List UInt8
  | [] => []
  | event :: events => fb.sentBy event ++ (fb.react event).sent events

def anySuccess (fb : OtelTask) : List TaskEvent → Bool
  | [] => false
  | event :: events => fb.succeeds event || (fb.react event).anySuccess events

/-! ### One step -/

/-- What holds between the calls. -/
structure Settled (fb : OtelTask) : Prop where
  flight : fb.InFlight
  within : ∀ b, (fb.logBuffers b).Within
  idle : fb.isSending = false → fb.readBuffer.nBufferCount = 0

/-- A change of the write buffer that appends, with everything that `Call` sends by as it was. -/
structure Fills (fb fb' : OtelTask) : Prop where
  buffer : fb.writeBuffer.Appends fb'.writeBuffer
  read : fb'.readBuffer = fb.readBuffer
  nWriteBuffer : fb'.nWriteBuffer = fb.nWriteBuffer
  nState : fb'.nState = fb.nState
  srcAddr : fb'.srcAddr = fb.srcAddr
  len : fb'.len = fb.len

namespace Fills

variable {fb'' : OtelTask}

theorem refl (within : fb.writeBuffer.Within) : fb.Fills fb := ⟨within.appends, rfl, rfl, rfl, rfl, rfl⟩

theorem trans (first : fb.Fills fb') (second : fb'.Fills fb'') : fb.Fills fb'' where
  buffer := first.buffer.trans second.buffer
  read := second.read.trans first.read
  nWriteBuffer := second.nWriteBuffer.trans first.nWriteBuffer
  nState := second.nState.trans first.nState
  srcAddr := second.srcAddr.trans first.srcAddr
  len := second.len.trans first.len

theorem onWriteBuffer (appends : fb.writeBuffer.Appends (f fb.writeBuffer)) :
    fb.Fills (fb.onWriteBuffer f) where
  buffer := by
    rw [show (fb.onWriteBuffer f).writeBuffer = f fb.writeBuffer from Function.update_self ..]
    exact appends
  read := fb.readBuffer_onWriteBuffer f
  nWriteBuffer := rfl
  nState := rfl
  srcAddr := rfl
  len := rfl

theorem onLogging (chain : LogChain) (within : fb.writeBuffer.Within) : fb.Fills (fb.onLogging chain.perform) := by
  have filled : fb.Fills (fb.onWriteBuffer fun _ => (chain.perform fb.logging).buffer) :=
    onWriteBuffer (chain.appends (s := fb.logging) within)
  exact ⟨filled.buffer, filled.read, rfl, rfl, rfl, rfl⟩

section

variable (c : OtelCycle) (within : fb.writeBuffer.Within)
include within

theorem logConnected : fb.Fills (fb.logConnected c) := by
  unfold OtelTask.logConnected
  split
  · have logged : { fb with bReconnectPending := false }.Fills _ :=
      onLogging ⟨{ c.task with bConnected := fb.bConnected }, sConnected, .info, none,
        [.withLogger sTcOtel, .createLog]⟩ within
    exact ⟨logged.buffer, logged.read, rfl, rfl, rfl, rfl⟩
  · exact refl within

theorem register : fb.Fills (fb.register c) := by
  unfold OtelTask.register
  split
  · have filled : fb.Fills (fb.onWriteBuffer (putAll (fb.registration c))) :=
      onWriteBuffer (within.putAll _)
    exact ⟨filled.buffer, filled.read, rfl, rfl, rfl, rfl⟩
  · exact refl within

theorem prepare : fb.Fills (fb.prepare c) := by
  have connected := logConnected c within
  have checked : (fb.logConnected c).Fills ((fb.logConnected c).checkOnlineChange c) := by
    have same := refl connected.buffer.within
    unfold checkOnlineChange
    split
    · exact ⟨same.buffer, rfl, rfl, rfl, rfl, rfl⟩
    · exact same
  exact (connected.trans checked).trans (register c checked.buffer.within)

end

theorem initAndCheckTask (within : fb.writeBuffer.Within)
    (checked : fb.initAndCheckTask c = some fb') : fb.Fills fb' ∧ fb'.writeBuffer = fb.writeBuffer := by
  have same := refl within
  unfold OtelTask.initAndCheckTask at checked
  split at checked
  · cases checked
    exact ⟨⟨same.buffer, rfl, rfl, rfl, rfl, rfl⟩, rfl⟩
  split at checked
  · cases checked
  · cases checked
    exact ⟨same, rfl⟩

end Fills

theorem Settled.fills (settled : fb.Settled) (fills : fb.Fills fb') : fb'.Settled where
  flight := by
    intro waits
    rw [fills.nState] at waits
    rw [fills.srcAddr, fills.len, fills.nWriteBuffer, fills.read]
    exact settled.flight waits
  within := by
    -- one of the two buffers is the write buffer, the other one the read buffer
    intro b
    by_cases here : b = fb'.nWriteBuffer
    · rw [here]
      exact fills.buffer.within
    · have other : fb'.logBuffers b = fb.readBuffer := by
        rw [← fills.read, OtelTask.readBuffer, ← Bool.eq_not_of_ne here]
      rw [other]
      exact settled.within _
  idle := by
    rw [isSending, fills.nState, fills.read]
    exact settled.idle

theorem Settled.inFlight_eq (settled : fb.Settled) : fb.inFlight = fb.readBuffer.used := by
  unfold inFlight
  split
  next sending =>
    have waits : fb.nState = .sending ∨ fb.nState = .retryWait := by simpa [isSending] using sending
    obtain ⟨source, length⟩ := settled.flight waits
    rw [request, source, length]
    rfl
  next idle =>
    have empty := settled.idle (Bool.eq_false_of_not_eq_true idle)
    rw [used, empty, List.take_zero]

/-- What an event can do to a task that is settled. -/
structure Turn (fb fb' : OtelTask) (success : Bool) (added : List UInt8) : Prop where
  settled : fb'.Settled
  conserves : (if success then fb.readBuffer.used else []) ++ (fb'.readBuffer.used ++ fb'.writeBuffer.used) =
    fb.readBuffer.used ++ (fb.writeBuffer.used ++ added)
  holds : fb.isSending = true → success = false → fb'.isSending = true ∧ fb'.readBuffer.used = fb.readBuffer.used
  clears : ∀ b, (fb'.logBuffers b).nBufferCount < (fb.logBuffers b).nBufferCount →
    success = true ∧ b = !fb.nWriteBuffer

theorem Fills.nBufferCount_le (fills : fb.Fills fb') (settled : fb.Settled) (b : Bool) :
    (fb.logBuffers b).nBufferCount ≤ (fb'.logBuffers b).nBufferCount := by
  by_cases here : b = fb.nWriteBuffer
  · have more := fills.buffer.nBufferCount_le (settled.within _)
    rw [writeBuffer, writeBuffer, fills.nWriteBuffer, ← here] at more
    exact more
  · have same := fills.read
    rw [readBuffer, readBuffer, fills.nWriteBuffer, ← Bool.eq_not_of_ne here] at same
    rw [same]

theorem Fills.turn {fb'' : OtelTask} {success : Bool} {added : List UInt8} (fills : fb.Fills fb')
    (settled : fb.Settled) (turn : fb'.Turn fb'' success added) :
    fb.Turn fb'' success (fb.writeBuffer.grown fb'.writeBuffer ++ added) where
  settled := turn.settled
  conserves := by
    have conserved := turn.conserves
    rw [fills.read, fills.buffer.used, List.append_assoc] at conserved
    exact conserved
  holds := by
    intro sending unsuccessful
    have still : fb'.isSending = true := by
      rw [isSending, fills.nState]
      exact sending
    obtain ⟨later, same⟩ := turn.holds still unsuccessful
    exact ⟨later, by rw [same, fills.read]⟩
  clears := by
    intro b less
    have more := fills.nBufferCount_le settled b
    rw [← fills.nWriteBuffer]
    exact turn.clears b (by omega)

theorem Settled.turn_of_eq (after : fb'.Settled) (buffers : fb'.logBuffers = fb.logBuffers)
    (nWriteBuffer : fb'.nWriteBuffer = fb.nWriteBuffer)
    (sending : fb.isSending = true → fb'.isSending = true) : fb.Turn fb' false [] where
  settled := after
  conserves := by simp [readBuffer, writeBuffer, buffers, nWriteBuffer]
  holds := by
    intro now _
    exact ⟨sending now, by rw [readBuffer, readBuffer, buffers, nWriteBuffer]⟩
  clears := by
    intro b less
    rw [buffers] at less
    exact absurd less (Nat.lt_irrefl _)

theorem readBuffer_succeeded : fb.succeeded.readBuffer = fb.readBuffer.clear := Function.update_self ..

theorem writeBuffer_succeeded : fb.succeeded.writeBuffer = fb.writeBuffer :=
  Function.update_of_ne (Bool.not_ne_self fb.nWriteBuffer).symm _ _

def addedIn (c : OtelCycle) (fb : OtelTask) : List UInt8 :=
  if fb.nState = .waitLog then fb.writeBuffer.grown (fb.prepare c).writeBuffer else []

theorem settled_initial : initial.Settled := by
  refine ⟨?_, fun _ => Nat.zero_le _, fun _ => rfl⟩
  rintro (other | other) <;> cases other

section

variable (settled : fb.Settled)

include settled

theorem Settled.turn_fills (fills : fb.Fills fb') :
    fb.Turn fb' false (fb.writeBuffer.grown fb'.writeBuffer) := by
  have after := settled.fills fills
  have turn := fills.turn settled (after.turn_of_eq rfl rfl id)
  rwa [List.append_nil] at turn

theorem Settled.turn_send (waits : fb.nState = .waitLog) : fb.Turn fb.send false [] := by
  have idle : fb.isSending = false := by simp [isSending, waits]
  have flight := inFlight_send fb waits
  unfold send at flight ⊢
  split
  next some =>
    rw [if_pos some] at flight
    have empty : fb.readBuffer.used = [] := by rw [used, settled.idle idle, List.take_zero]
    refine ⟨⟨flight, settled.within, fun other => ?_⟩, ?_, fun sending => ?_, fun b less => ?_⟩
    · simp [isSending] at other
    · have swapped : fb.logBuffers (!!fb.nWriteBuffer) = fb.writeBuffer := by rw [Bool.not_not]; rfl
      change [] ++ ((fb.logBuffers (!!fb.nWriteBuffer)).used ++ fb.readBuffer.used) = _
      rw [swapped, empty, List.append_nil]
    · rw [idle] at sending
      cases sending
    · exact absurd less (Nat.lt_irrefl _)
  · exact settled.turn_of_eq rfl rfl id

theorem Settled.turn_succeeded : fb.Turn fb.succeeded true [] := by
  have buffers : ∀ b, fb.succeeded.logBuffers b =
      if b = !fb.nWriteBuffer then fb.readBuffer.clear else fb.logBuffers b :=
    fun b => Function.update_apply ..
  refine ⟨⟨?_, ?_, ?_⟩, ?_, ?_, ?_⟩
  · rintro (other | other) <;> cases other
  · intro b
    rw [buffers]
    split
    · exact Nat.zero_le _
    · exact settled.within b
  · intro _
    rw [readBuffer_succeeded]
    rfl
  · rw [readBuffer_succeeded, writeBuffer_succeeded]
    simp [used, clear]
  · intro _ unsuccessful
    cases unsuccessful
  · intro b less
    rw [buffers] at less
    split at less
    next here => exact ⟨rfl, here⟩
    · exact absurd less (Nat.lt_irrefl _)

theorem Settled.turn_step (c : OtelCycle) :
    fb.Turn (fb.step c) (fb.nState = .sending && !c.busy && !c.err) (fb.addedIn c) := by
  cases state : fb.nState with
  | init =>
    have idle : fb.isSending = false := by simp [isSending, state]
    have after : { fb with nState := .waitLog }.Settled := by
      refine ⟨?_, settled.within, fun _ => settled.idle idle⟩
      rintro (other | other) <;> cases other
    have turn : fb.Turn { fb with nState := .waitLog } false [] := by
      refine after.turn_of_eq rfl rfl fun sending => ?_
      rw [idle] at sending
      cases sending
    simpa [step, addedIn, state] using turn
  | waitLog =>
    have fills := Fills.prepare c (settled.within fb.nWriteBuffer)
    have prepared := settled.fills fills
    have turn := fills.turn settled (prepared.turn_send (by rw [fills.nState, state]))
    simpa [step, addedIn, state, prepare] using turn
  | sending =>
    have again : fb.failed.Settled := by
      refine ⟨fun _ => settled.flight (.inl state), settled.within, fun idle => ?_⟩
      simp [isSending, failed] at idle
    have failed : fb.Turn fb.failed false [] := again.turn_of_eq rfl rfl fun _ => by simp [isSending, failed]
    have busy : fb.Turn fb false [] := settled.turn_of_eq rfl rfl id
    have succeeded := settled.turn_succeeded
    unfold step
    cases busyNow : c.busy with
    | true => simpa [addedIn, state] using busy
    | false =>
      cases err : c.err with
      | true => simpa [addedIn, state] using failed
      | false => simpa [addedIn, state] using succeeded
  | retryWait =>
    have again : { fb with nState := .sending }.Settled := by
      refine ⟨fun _ => settled.flight (.inr state), settled.within, fun idle => ?_⟩
      simp [isSending] at idle
    have retried : fb.Turn { fb with nState := .sending } false [] :=
      again.turn_of_eq rfl rfl fun _ => by simp [isSending]
    have waits : fb.Turn fb false [] := settled.turn_of_eq rfl rfl id
    unfold step
    cases elapsed : c.retryOver with
    | true => simpa [addedIn, state] using retried
    | false => simpa [addedIn, state] using waits

theorem Settled.perform (event : TaskEvent) :
    fb.Turn (fb.react event) (fb.succeeds event) (fb.addedBy event) := by
  have within : fb.writeBuffer.Within := settled.within _
  cases event with
  | log chain => exact settled.turn_fills (Fills.onLogging chain within)
  | frame bytes => exact settled.turn_fills (Fills.onWriteBuffer (within.put bytes))
  | call c =>
    cases checked : fb.initAndCheckTask c with
    | none => simpa [react, call, succeeds, addedBy, checked] using settled.turn_of_eq rfl rfl id
    | some fixed =>
      obtain ⟨fills, same⟩ := Fills.initAndCheckTask within checked
      have turn := fills.turn settled ((settled.fills fills).turn_step c)
      rw [same, grown, fills.nState] at turn
      simpa [react, call, succeeds, addedBy, addedIn, checked] using turn

/-! ### Runs -/

theorem Settled.after (events : List TaskEvent) : (fb.after events).Settled := by
  induction events generalizing fb with
  | nil => exact settled
  | cons event events ih => exact ih (settled.perform event).settled

theorem Settled.sentBy_eq (event : TaskEvent) :
    fb.sentBy event = if fb.succeeds event then fb.readBuffer.used else [] := by
  unfold sentBy
  split
  next success =>
    have sending : fb.isSending = true := by
      cases event with
      | call c =>
        simp only [succeeds, Bool.and_eq_true] at success
        simp [isSending, success.1.1.2]
      | log chain | frame bytes => cases success
    have data := settled.inFlight_eq
    rwa [inFlight, if_pos sending] at data
  · rfl

/-- No byte is lost, added twice or put in another place. -/
theorem Settled.conserves (events : List TaskEvent) :
    fb.sent events ++ ((fb.after events).inFlight ++ (fb.after events).writeBuffer.used) =
      fb.inFlight ++ (fb.writeBuffer.used ++ fb.added events) := by
  induction events generalizing fb with
  | nil =>
    rw [added, List.append_nil]
    rfl
  | cons event events ih =>
    have turn := settled.perform event
    have later := ih turn.settled
    have here := turn.conserves
    rw [← settled.sentBy_eq event, ← settled.inFlight_eq, ← turn.settled.inFlight_eq] at here
    have same : fb.after (event :: events) = (fb.react event).after events := rfl
    calc
      _ = fb.sentBy event ++ ((fb.react event).inFlight ++
            ((fb.react event).writeBuffer.used ++ (fb.react event).added events)) := by
        rw [sent, same, List.append_assoc, later]
      _ = (fb.sentBy event ++ ((fb.react event).inFlight ++ (fb.react event).writeBuffer.used)) ++
            (fb.react event).added events := by
        simp
      _ = _ := by
        rw [here, added]
        simp

/-- What is in flight stays as it is until the write succeeds. -/
theorem Settled.holds (sending : fb.isSending = true) (unsuccessful : fb.anySuccess events = false) :
    (fb.after events).isSending = true ∧ (fb.after events).inFlight = fb.inFlight := by
  induction events generalizing fb with
  | nil => exact ⟨sending, rfl⟩
  | cons event events ih =>
    obtain ⟨now, later⟩ := Bool.or_eq_false_iff.mp unsuccessful
    have turn := settled.perform event
    obtain ⟨still, same⟩ := turn.holds sending now
    obtain ⟨last, kept⟩ := ih turn.settled still later
    refine ⟨last, kept.trans ?_⟩
    rw [turn.settled.inFlight_eq, settled.inFlight_eq, same]

end

/-- What is to hold at every point of a run. -/
structure SendsInOrder (events : List TaskEvent) : Prop where
  /-- The bytes in flight do not change until their write succeeds. -/
  stable : ∀ before more, before ++ more <+: events → (initial.after before).isSending = true →
    (initial.after before).anySuccess more = false →
      (initial.after (before ++ more)).inFlight = (initial.after before).inFlight
  /-- A buffer that becomes shorter was the one in flight, and its write has succeeded. -/
  cleared : ∀ before event b, before ++ [event] <+: events →
    ((initial.after (before ++ [event])).logBuffers b).nBufferCount <
      ((initial.after before).logBuffers b).nBufferCount →
    (initial.after before).succeeds event = true ∧ b = (initial.after before).srcAddr
  /-- The bytes of the successful writes, the buffer in flight and the write buffer are what was
  added. -/
  conserved : initial.sent events ++ ((initial.after events).inFlight ++
    (initial.after events).writeBuffer.used) = initial.added events

theorem after_append (before more : List TaskEvent) :
    fb.after (before ++ more) = (fb.after before).after more := List.foldl_append

/-- No buffer holds more than its size, and the one to read from is empty unless it is being sent. -/
theorem buffers_kept (events : List TaskEvent) :
    (∀ b, ((initial.after events).logBuffers b).Within) ∧
      ((initial.after events).isSending = false → (initial.after events).readBuffer.nBufferCount = 0) :=
  have settled := settled_initial.after events
  ⟨settled.within, settled.idle⟩

end OtelTask

end TcOtel.Plc
