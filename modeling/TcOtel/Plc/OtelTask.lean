import TcOtel.Ads.Delivery
import TcOtel.Plc.LogBuilder

/-!
# `FB_TcOtelTask`

The task writes its messages to one of two log buffers. `Call` sends that buffer with an ADS
write, goes on with the other one, and clears what was sent when the write is answered without
an error. The router answers before it decodes, so that a buffer it does not decode is cleared
as well: that is every buffer above the limit of `parse_all`, which is below the size of the
log buffer.
-/

namespace TcOtel.Plc

open Decoding Memory Ads AdsRouter

/-! ### Writing to the log buffer -/

def nBufferLen : Nat := 16777152

namespace LogBuffer

def put (src : List UInt8) (b : LogBuffer) : LogBuffer :=
  if src.length ≤ b.bufferFree then
    { b with aBuffer := overwrite b.aBuffer b.nBufferCount src }.dataAdded src.length
  else b

def clear (b : LogBuffer) : LogBuffer := { b with nBufferCount := 0 }

def Within (b : LogBuffer) : Prop := b.nBufferCount ≤ b.aBuffer.length

/-- One piece after the other; each only if there is room for it. -/
def putAll (pieces : List (List UInt8)) (b : LogBuffer) : LogBuffer := pieces.foldl (fun b src => b.put src) b

section

variable {b : LogBuffer} (within : b.Within)

include within

theorem used_put (room : src.length ≤ b.bufferFree) : (b.put src).used = b.used ++ src := by
  rw [put, if_pos room]
  exact take_overwrite within

theorem length_put (src : List UInt8) :
    (b.put src).aBuffer.length = b.aBuffer.length ∧ (b.put src).Within := by
  unfold put
  split
  next room =>
    have fits : b.nBufferCount + src.length ≤ b.aBuffer.length := by
      have free : src.length ≤ b.aBuffer.length - b.nBufferCount := room
      have inside : b.nBufferCount ≤ b.aBuffer.length := within
      omega
    have same := length_overwrite fits
    exact ⟨same, Nat.le_trans fits (Nat.le_of_eq same.symm)⟩
  · exact ⟨rfl, within⟩

theorem bufferFree_put (room : src.length ≤ b.bufferFree) :
    (b.put src).bufferFree = b.bufferFree - src.length := by
  have same := (length_put within src).1
  rw [bufferFree, same, put, if_pos room]
  exact Nat.sub_add_eq ..

theorem used_putAll
    (room : pieces.flatten.length ≤ b.bufferFree) : (b.putAll pieces).used = b.used ++ pieces.flatten := by
  induction pieces generalizing b with
  | nil => exact (List.append_nil _).symm
  | cons src pieces ih =>
    rw [List.flatten_cons, List.length_append] at room
    have first : src.length ≤ b.bufferFree := by omega
    have rest : pieces.flatten.length ≤ (b.put src).bufferFree := by
      rw [bufferFree_put within first]
      omega
    have later := ih (length_put within src).2 rest
    rw [used_put within first] at later
    rw [List.flatten_cons, ← List.append_assoc]
    exact later

theorem length_putAll (pieces : List (List UInt8)) :
    (b.putAll pieces).aBuffer.length = b.aBuffer.length ∧ (b.putAll pieces).Within := by
  induction pieces generalizing b with
  | nil => exact ⟨rfl, within⟩
  | cons src pieces ih =>
    obtain ⟨same, inside⟩ := length_put within src
    obtain ⟨rest, last⟩ := ih inside
    exact ⟨rest.trans same, last⟩

theorem room_of_used_putAll
    (whole : (b.putAll pieces).used = b.used ++ pieces.flatten) : pieces.flatten.length ≤ b.bufferFree := by
  obtain ⟨same, inside⟩ := length_putAll within pieces
  have lengths := congrArg List.length whole
  simp only [used, List.length_append, List.length_take] at lengths
  rw [Nat.min_eq_left inside, Nat.min_eq_left within] at lengths
  unfold Within at inside
  unfold bufferFree
  omega

end

end LogBuffer

open LogBuffer

/-! ### The function block -/

inductive SendState where
  | init | waitLog | sending | retryWait
deriving DecidableEq, Repr

structure OtelTask where
  nTaskIndex : Int32
  /-- The number of the write buffer; `false` is `fbLogBuffer1`. -/
  nWriteBuffer : Bool
  logBuffers : Bool → LogBuffer
  builder : LogBuilder
  bRegistrationDirty : Bool
  nLastOnlineChange : UInt32
  nState : SendState
  /-- The buffer that `SRCADDR` of `fbAdsWriteMsg` points to, and `LEN`. -/
  srcAddr : Bool
  len : Nat
  /-- The fields of `TcOtelInfo.aTaskInfo` that are used here. -/
  bConnected : Bool
  bReconnectPending : Bool
  nSendLogBufferErrorCount : UInt32

structure OtelCycle where
  task : Task
  taskName : PlcString
  appName : PlcString
  projectName : PlcString
  onlineChangeCnt : UInt32
  appPort : UInt16
  /-- The outputs of `fbAdsWriteMsg` and of `fbRetryWait`. -/
  busy : Bool
  err : Bool
  retryOver : Bool

def nLogIndexGrp : UInt32 := 1
def nLogIndexOffs : UInt32 := 1

namespace OtelTask

def initial : OtelTask where
  nTaskIndex := 0
  nWriteBuffer := false
  logBuffers _ := ⟨List.replicate nBufferLen 0, 0⟩
  builder := (Logging.initial 0).builder
  bRegistrationDirty := true
  nLastOnlineChange := 0
  nState := .init
  srcAddr := false
  len := 0
  bConnected := false
  bReconnectPending := false
  nSendLogBufferErrorCount := 0

def writeBuffer (fb : OtelTask) : LogBuffer := fb.logBuffers fb.nWriteBuffer

def readBuffer (fb : OtelTask) : LogBuffer := fb.logBuffers !fb.nWriteBuffer

def onWriteBuffer (f : LogBuffer → LogBuffer) (fb : OtelTask) : OtelTask :=
  { fb with logBuffers := Function.update fb.logBuffers fb.nWriteBuffer (f fb.writeBuffer) }

def logging (fb : OtelTask) : Logging := ⟨fb.builder, fb.writeBuffer⟩

def onLogging (f : Logging → Logging) (fb : OtelTask) : OtelTask :=
  { fb.onWriteBuffer (fun _ => (f fb.logging).buffer) with builder := (f fb.logging).builder }

/-- `_InitAndCheckTask`: the first call fixes the task; `none` in another one. -/
def initAndCheckTask (c : OtelCycle) (fb : OtelTask) : Option OtelTask :=
  if fb.nTaskIndex = 0 ∧ c.task.info.nTaskIndex > 0 then some { fb with nTaskIndex := c.task.info.nTaskIndex }
  else if fb.nTaskIndex ≠ c.task.info.nTaskIndex ∨ c.task.info.nTaskIndex = 0 then none
  else some fb

/-- The text `tc-otel connected, logging resumed`. -/
def sConnected : PlcString := ⟨utf8Bytes "tc-otel connected, logging resumed", by decide +kernel, by decide +kernel⟩

def sTcOtel : PlcString := ⟨utf8Bytes "TcOtel", by decide +kernel, by decide +kernel⟩

/-- The log on the first write that succeeds again. -/
def logConnected (c : OtelCycle) (fb : OtelTask) : OtelTask :=
  if fb.bReconnectPending then
    let task := { c.task with bConnected := fb.bConnected }
    { fb with bReconnectPending := false }.onLogging fun s =>
      ((s.clear task sConnected .info none).withLogger task sTcOtel).createLog task
  else fb

def registration (c : OtelCycle) (fb : OtelTask) : List (List UInt8) :=
  [[3], [fb.nTaskIndex.toUInt32.toUInt8], [UInt8.ofNat c.taskName.bytes.length], c.taskName.bytes,
    [UInt8.ofNat c.appName.bytes.length], c.appName.bytes, [UInt8.ofNat c.projectName.bytes.length],
    c.projectName.bytes, leBytes 4 c.onlineChangeCnt.toNat, leBytes 2 c.appPort.toNat]

def checkOnlineChange (c : OtelCycle) (fb : OtelTask) : OtelTask :=
  if c.onlineChangeCnt ≠ fb.nLastOnlineChange then { fb with bRegistrationDirty := true } else fb

def register (c : OtelCycle) (fb : OtelTask) : OtelTask :=
  if fb.bRegistrationDirty ∧ fb.writeBuffer.bufferFree > 100 then
    { fb.onWriteBuffer (LogBuffer.putAll (fb.registration c)) with
      bRegistrationDirty := false
      nLastOnlineChange := c.onlineChangeCnt }
  else fb

/-- The request that `fbAdsWriteMsg` sends. -/
def request (fb : OtelTask) : AdsWriteRequest where
  indexGroup := nLogIndexGrp
  indexOffset := nLogIndexOffs
  data := (fb.logBuffers fb.srcAddr).aBuffer.take fb.len

def send (fb : OtelTask) : OtelTask :=
  if fb.writeBuffer.nBufferCount > 0 then
    { fb with
      srcAddr := fb.nWriteBuffer
      len := fb.writeBuffer.nBufferCount
      nWriteBuffer := !fb.nWriteBuffer
      nState := .sending }
  else fb

def failed (fb : OtelTask) : OtelTask :=
  { fb with
    nSendLogBufferErrorCount := fb.nSendLogBufferErrorCount + 1
    bConnected := false
    bRegistrationDirty := true
    nState := .retryWait }

def succeeded (fb : OtelTask) : OtelTask :=
  { fb with
    bConnected := true
    bReconnectPending := fb.bReconnectPending || !fb.bConnected
    logBuffers := Function.update fb.logBuffers (!fb.nWriteBuffer) fb.readBuffer.clear
    nState := .waitLog }

def step (c : OtelCycle) (fb : OtelTask) : OtelTask :=
  match fb.nState with
  | .init => { fb with nState := .waitLog }
  | .waitLog => (((fb.logConnected c).checkOnlineChange c).register c).send
  | .sending => if c.busy then fb else if c.err then fb.failed else fb.succeeded
  | .retryWait => if c.retryOver then { fb with nState := .sending } else fb

def call (c : OtelCycle) (fb : OtelTask) : OtelTask :=
  match fb.initAndCheckTask c with
  | some fb => fb.step c
  | none => fb

/-! ### Runs -/

inductive Event where
  | program (f : Logging → Logging)
  | call (c : OtelCycle)

def perform (fb : OtelTask) : Event → OtelTask
  | .program f => fb.onLogging f
  | .call c => fb.call c

/-- The states that a task gets into. -/
def run (events : List Event) : OtelTask := events.foldl perform initial

/-- As long as a write is not answered without an error, it is the whole read buffer. -/
def InFlight (fb : OtelTask) : Prop :=
  fb.nState = .sending ∨ fb.nState = .retryWait → fb.srcAddr = !fb.nWriteBuffer ∧ fb.len = fb.readBuffer.nBufferCount

theorem readBuffer_onWriteBuffer (f : LogBuffer → LogBuffer) (fb : OtelTask) :
    (fb.onWriteBuffer f).readBuffer = fb.readBuffer :=
  Function.update_of_ne (Bool.not_ne_self fb.nWriteBuffer) _ _

variable {fb : OtelTask}

theorem InFlight.onLogging (h : fb.InFlight) (f : Logging → Logging) : (fb.onLogging f).InFlight := by
  intro waits
  have kept : (fb.onLogging f).readBuffer = fb.readBuffer :=
    fb.readBuffer_onWriteBuffer fun _ => (f fb.logging).buffer
  rw [kept]
  exact h waits

theorem inFlight_send (fb : OtelTask) (waits : fb.nState = .waitLog) : fb.send.InFlight := by
  unfold send
  split
  · intro _
    have back : fb.logBuffers (!!fb.nWriteBuffer) = fb.writeBuffer := by rw [Bool.not_not]; rfl
    exact ⟨(Bool.not_not _).symm, congrArg nBufferCount back.symm⟩
  · rintro (sending | retry)
    · cases waits.symm.trans sending
    · cases waits.symm.trans retry

theorem nState_register (c : OtelCycle) (fb : OtelTask) :
    (((fb.logConnected c).checkOnlineChange c).register c).nState = fb.nState := by
  have connected : (fb.logConnected c).nState = fb.nState := by
    unfold logConnected
    split <;> rfl
  have checked (fb : OtelTask) : (fb.checkOnlineChange c).nState = fb.nState := by
    unfold checkOnlineChange
    split <;> rfl
  have registered (fb : OtelTask) : (fb.register c).nState = fb.nState := by
    unfold register
    split <;> rfl
  rw [registered, checked, connected]

theorem InFlight.step (h : fb.InFlight) (c : OtelCycle) : (fb.step c).InFlight := by
  unfold OtelTask.step
  split
  case h_1 => rintro (other | other) <;> cases other
  case h_2 waits => exact inFlight_send _ (by rw [nState_register, waits])
  case h_3 sending =>
    split
    · exact h
    split
    · -- the buffer is kept for the next attempt
      exact fun _ => h (.inl sending)
    · rintro (other | other) <;> cases other
  case h_4 waits =>
    split
    · exact fun _ => h (.inr waits)
    · exact h

theorem InFlight.call (h : fb.InFlight) (c : OtelCycle) : (fb.call c).InFlight := by
  unfold OtelTask.call initAndCheckTask
  split
  next fixed checked =>
    split at checked
    · cases checked
      have renumbered : { fb with nTaskIndex := c.task.info.nTaskIndex }.InFlight := h
      exact renumbered.step c
    split at checked
    · cases checked
    · cases checked
      exact h.step c
  · exact h

theorem inFlight_run (events : List Event) : (run events).InFlight := by
  induction events using List.reverseRecOn with
  | nil => rintro (other | other) <;> cases other
  | append_singleton events event ih =>
    rw [run, List.foldl_append]
    cases event with
    | program f => exact ih.onLogging f
    | call c => exact ih.call c

theorem InFlight.request_eq (h : fb.InFlight) (sending : fb.nState = .sending) :
    fb.request = ⟨nLogIndexGrp, nLogIndexOffs, fb.readBuffer.used⟩ := by
  obtain ⟨source, length⟩ := h (.inl sending)
  rw [request, source, length]
  rfl

/-! ### The answer of the router -/

def result : Except AdsError (Option (List UInt8)) → Option UInt32
  | .ok (some response) => some (Push.readU32 response 32)
  | _ => none

def frame (header : AmsHeader) (fb : OtelTask) : List UInt8 := header.serialize ++ fb.request.serialize

/-- The header addresses the router with a write. -/
structure Addresses (header : AmsHeader) (r : AdsRouter) : Prop where
  command : header.commandId = adsCmdWrite
  port : header.targetPort = r.adsPort

/-- Every log of a batch is behind what the log channel had before. -/
def Reached (header : AmsHeader) (entries : List AdsLogEntry) (before after : AdsRouter) : Prop :=
  ∃ sent, after.logTx.queue = before.logTx.queue ++ sent ∧
    List.Forall₂ (fun e le => AdsRouter.LogSent header.sourceNetId header.sourcePort none e le) entries sent

def logsOf (env : Env) (batch : List WireMessage) : List AdsLogEntry :=
  (ParseResult.ofMessages (batch.map (WireMessage.message env))).entries

/-- If the router answers the write with result 0, the logs of the batch have reached the log
channel; and a call that clears the buffer on that answer finds them there. -/
structure ClearsWhatReached (host : RouterEnv) (peer : Option String) (header : AmsHeader) (r : AdsRouter)
    (batch : List WireMessage) (fb : OtelTask) : Prop where
  answered : result (r.dispatch host (fb.frame header) peer).1 = some 0 →
    Reached header (logsOf host.env batch) r (r.dispatch host (fb.frame header) peer).2
  cleared : ∀ c : OtelCycle, (c.err = false → result (r.dispatch host (fb.frame header) peer).1 = some 0) →
    fb.readBuffer.used ≠ [] → (fb.call c).readBuffer.used = [] →
    Reached header (logsOf host.env batch) r (r.dispatch host (fb.frame header) peer).2

theorem parse_frame (header : AmsHeader) (fb : OtelTask) : AmsHeader.parse (fb.frame header) = .ok header :=
  AmsHeader.parse_serialize ..

/-- The router answers every write with result 0, whatever it makes of the data. -/
theorem result_dispatch (addressed : Addresses header r) (host : RouterEnv)
    (peer : Option String) (fb : OtelTask) : result (r.dispatch host (fb.frame header) peer).1 = some 0 := by
  have long : ¬(fb.frame header).length < 32 := by
    rw [frame, List.length_append, header.length_serialize]
    omega
  have payload : responsePayload (fb.frame header) header.commandId = leBytes 4 0 := by
    rw [addressed.command]
    rfl
  rw [dispatch, if_neg long, parse_frame]
  simp only [payload, result, buildResponse]
  rw [Push.readU32_behind (by rw [AmsHeader.length_serialize]), AmsHeader.length_serialize]
  rfl

theorem logWrite_frame (addressed : Addresses header r)
    (small : fb.request.data.length < 2 ^ 32) : r.LogWrite (fb.frame header) header fb.request where
  parsed := fb.parse_frame header
  request := by
    rw [frame, ← header.length_serialize, List.drop_left]
    exact AdsWriteRequest.parse_serialize small
  command := addressed.command
  port := addressed.port
  group := show nLogIndexGrp ≠ Push.igPushDiag by decide

/-- What is decoded reaches the channel; of a buffer above the limit nothing is decoded. -/
theorem reached_iff (addressed : Addresses header r) (data : fb.request.data = encodeAll batch)
    (fits : (encodeAll batch).length ≤ nBufferLen) (room : r.logTx.Room (logsOf host.env batch).length) :
    Reached header (logsOf host.env batch) r (r.dispatch host (fb.frame header) peer).2 ↔
      (encodeAll batch).length ≤ maxMessageSize ∨ logsOf host.env batch = [] := by
  have small : fb.request.data.length < 2 ^ 32 := by
    rw [data]
    exact Nat.lt_of_le_of_lt fits (by decide)
  rw [(logWrite_frame addressed small).dispatch_eq, dispatchWriteSync, data]
  by_cases size : (encodeAll batch).length ≤ maxMessageSize
  · rw [(parseAll_eq_some_iff size).mpr (parses_encodeAll host.env batch)]
    refine iff_of_true ⟨_, Channels.Channel.queue_trySendAll (by rwa [List.length_map]), ?_⟩ (.inl size)
    rw [List.forall₂_map_right_iff, logsOf, List.forall₂_same]
    intro e _
    constructor
    all_goals first | rfl | exact ⟨rfl, rfl⟩ | (intro m none; cases none)
  · rw [parseAll, if_pos (Nat.lt_of_not_le size)]
    constructor
    · rintro ⟨sent, queue, each⟩
      have nothing : sent = [] := List.append_right_eq_self.mp queue.symm
      rw [nothing] at each
      exact .inr (List.forall₂_nil_right_iff.mp each)
    · rintro (small | none)
      · exact absurd small size
      · rw [none]
        exact ⟨[], (List.append_nil _).symm, .nil⟩

/-- In whatever way a task has come to send its buffer: what it clears has reached the log
channel just when the buffer is not above the limit of the parser, or has no logs in it. -/
theorem clearsWhatReached_iff_size (host : RouterEnv) (peer : Option String) (header : AmsHeader) (r : AdsRouter)
    (addressed : Addresses header r) (events : List Event) (sending : (run events).nState = .sending)
    (batch : List WireMessage) (wellFormed : (run events).readBuffer.used = encodeAll batch)
    (fits : (encodeAll batch).length ≤ nBufferLen) (room : r.logTx.Room (logsOf host.env batch).length) :
    ClearsWhatReached host peer header r batch (run events) ↔
      (encodeAll batch).length ≤ maxMessageSize ∨ logsOf host.env batch = [] := by
  have data : (run events).request.data = encodeAll batch := by
    rw [(inFlight_run events).request_eq sending, wellFormed]
  rw [← reached_iff addressed data fits room]
  exact ⟨fun clears => clears.answered (result_dispatch addressed host peer _),
    fun reached => ⟨fun _ => reached, fun _ _ _ _ => reached⟩⟩

theorem used_call (sending : fb.nState = .sending) (task : c.task.info.nTaskIndex ≠ 0)
    (same : fb.nTaskIndex = c.task.info.nTaskIndex) (busy : c.busy = false) (err : c.err = false) :
    (fb.call c).readBuffer.used = [] := by
  have checked : fb.initAndCheckTask c = some fb := by
    rw [initAndCheckTask, if_neg (fun first => task (same.symm.trans first.1)), if_neg (by simp [same, task])]
  have cleared : fb.call c = fb.succeeded := by
    simp [call, checked, step, sending, busy, err]
  have buffer : fb.succeeded.readBuffer = fb.readBuffer.clear := Function.update_self ..
  rw [cleared, buffer]
  exact List.take_zero

/-- In the state that waits for logs, a registration that is due is sent behind what the
programs have logged. -/
theorem call_waitLog (waits : fb.nState = .waitLog) {c : OtelCycle} (task : c.task.info.nTaskIndex ≠ 0)
    (same : fb.nTaskIndex = c.task.info.nTaskIndex) (quiet : fb.bReconnectPending = false)
    (dirty : fb.bRegistrationDirty = true) (within : fb.writeBuffer.Within) (free : 100 < fb.writeBuffer.bufferFree)
    (room : (fb.registration c).flatten.length ≤ fb.writeBuffer.bufferFree) :
    (fb.call c).nState = .sending ∧ (fb.call c).nTaskIndex = fb.nTaskIndex ∧
      (fb.call c).readBuffer.used = fb.writeBuffer.used ++ (fb.registration c).flatten := by
  have checked : fb.initAndCheckTask c = some fb := by
    rw [initAndCheckTask, if_neg (fun first => task (same.symm.trans first.1)), if_neg (by simp [same, task])]
  have due : (fb.logConnected c).checkOnlineChange c = fb := by
    rw [logConnected, quiet, if_neg Bool.false_ne_true, checkOnlineChange]
    split
    · rw [← dirty]
    · rfl
  -- the write buffer with the registration, which is not empty
  have used := used_putAll within room
  generalize written : putAll (fb.registration c) fb.writeBuffer = b at used
  have registered : (fb.register c).writeBuffer = b := by
    rw [register, if_pos ⟨dirty, free⟩, ← written]
    exact Function.update_self ..
  have filled : (fb.register c).writeBuffer.nBufferCount > 0 := by
    rw [registered]
    by_contra none
    rw [LogBuffer.used, Nat.eq_zero_of_not_pos none] at used
    have length := congrArg List.length used
    simp [registration] at length
  have sent : fb.call c = (fb.register c).send := by
    simp [call, checked, step, waits, due]
  have index : (fb.register c).nTaskIndex = fb.nTaskIndex := by
    unfold register
    split <;> rfl
  rw [sent, send, if_pos filled]
  refine ⟨rfl, index, ?_⟩
  rw [← used, ← registered]
  show ((fb.register c).logBuffers (!!(fb.register c).nWriteBuffer)).used = _
  rw [Bool.not_not]
  rfl

/-! ### Registrations -/

/-- A registration is appended whole or not at all, and it counts as sent only when it was
appended whole. -/
structure RegistersWhole (c : OtelCycle) (fb : OtelTask) : Prop where
  appended : (fb.register c).writeBuffer.used = fb.writeBuffer.used ∨
    (fb.register c).writeBuffer.used = fb.writeBuffer.used ++ (fb.registration c).flatten
  cleared : fb.bRegistrationDirty = true → (fb.register c).bRegistrationDirty = false →
    (fb.register c).writeBuffer.used = fb.writeBuffer.used ++ (fb.registration c).flatten

theorem length_registration (c : OtelCycle) (fb : OtelTask) : (fb.registration c).flatten.length =
      11 + c.taskName.bytes.length + c.appName.bytes.length + c.projectName.bytes.length := by
  simp [registration]
  omega

theorem writeBuffer_register (due : fb.bRegistrationDirty = true ∧ 100 < fb.writeBuffer.bufferFree) :
    (fb.register c).writeBuffer = fb.writeBuffer.putAll (fb.registration c) := by
  rw [register, if_pos due]
  exact Function.update_self ..

/-- The flag is cleared whatever has become of the pieces, so that all of them must have had room. -/
theorem RegistersWhole.room {c : OtelCycle} (whole : fb.RegistersWhole c) (within : fb.writeBuffer.Within)
    (due : fb.bRegistrationDirty = true ∧ 100 < fb.writeBuffer.bufferFree) :
    (fb.registration c).flatten.length ≤ fb.writeBuffer.bufferFree := by
  have flag : (fb.register c).bRegistrationDirty = false := by rw [register, if_pos due]
  have used := whole.cleared due.1 flag
  rw [writeBuffer_register due] at used
  exact room_of_used_putAll within used

/-- The threshold of 100 bytes is enough just for names that leave room for the rest of the message. -/
theorem registersWhole_iff_names_fit (c : OtelCycle) (fb : OtelTask) (within : fb.writeBuffer.Within) :
    fb.RegistersWhole c ↔ (fb.bRegistrationDirty = true ∧ 100 < fb.writeBuffer.bufferFree →
        11 + c.taskName.bytes.length + c.appName.bytes.length + c.projectName.bytes.length ≤
          fb.writeBuffer.bufferFree) := by
  rw [← length_registration c fb]
  refine ⟨fun whole due => whole.room within due, fun fits => ?_⟩
  by_cases due : fb.bRegistrationDirty = true ∧ 100 < fb.writeBuffer.bufferFree
  · have used := used_putAll within (fits due)
    rw [← writeBuffer_register due] at used
    exact ⟨.inr used, fun _ _ => used⟩
  · -- nothing is written, and the flag stays
    have same : fb.register c = fb := if_neg due
    refine ⟨.inl (by rw [same]), fun dirty cleared => ?_⟩
    rw [same, dirty] at cleared
    cases cleared

/-! A task of the PLC that logs so many entries in its first cycle, and sends them. -/

def sampleCycle : OtelCycle where
  task := ⟨⟨1, 0, 0, 0, 0⟩, false, 0, none, []⟩
  taskName := ⟨utf8Bytes "PlcTask", by decide +kernel, AdsRouter.sampleRegistration.taskName.fits⟩
  appName := ⟨utf8Bytes "Machine", by decide +kernel, AdsRouter.sampleRegistration.appName.fits⟩
  projectName := ⟨utf8Bytes "Line", by decide +kernel, AdsRouter.sampleRegistration.projectName.fits⟩
  onlineChangeCnt := 2
  appPort := 851
  busy := false
  err := false
  retryOver := false

theorem registersWhole_sampleCycle : initial.writeBuffer.Within ∧ initial.RegistersWhole sampleCycle := by
  have within : initial.writeBuffer.Within := Nat.zero_le _
  refine ⟨within, (registersWhole_iff_names_fit sampleCycle initial within).mpr fun due => ?_⟩
  have short : 11 + sampleCycle.taskName.bytes.length + sampleCycle.appName.bytes.length +
      sampleCycle.projectName.bytes.length = 29 := by decide +kernel
  omega

/-- A name of 63 characters, as many as TwinCAT allows. -/
def sLongName : PlcString := ⟨List.replicate 63 0x61, by decide, by decide⟩

/-- A task whose write buffer has 150 bytes left. -/
def nearlyFull : OtelTask := { initial with logBuffers := fun _ => ⟨List.replicate nBufferLen 0, nBufferLen - 150⟩ }

/-- The message is cut off, and not sent again. -/
theorem longNames_not_registersWhole : nearlyFull.writeBuffer.bufferFree = 150 ∧
      ¬nearlyFull.RegistersWhole { sampleCycle with
        taskName := sLongName, appName := sLongName, projectName := sLongName } := by
  have length : nearlyFull.writeBuffer.aBuffer.length = nBufferLen := List.length_replicate
  have count : nearlyFull.writeBuffer.nBufferCount = nBufferLen - 150 := rfl
  have size : nBufferLen = 16777152 := rfl
  have free : nearlyFull.writeBuffer.bufferFree = 150 := by
    rw [bufferFree, length, count]
    omega
  refine ⟨free, fun whole => ?_⟩
  have within : nearlyFull.writeBuffer.Within := by
    rw [LogBuffer.Within, length, count]
    omega
  have room := whole.room within ⟨rfl, by omega⟩
  have long : sLongName.bytes.length = 63 := List.length_replicate
  rw [length_registration, long] at room
  omega

def sampleEntry : WireMessage := Ads.sampleV2

def sampleBatch (n : Nat) : List WireMessage :=
  List.replicate n sampleEntry ++ [.registration AdsRouter.sampleRegistration]

def sampleEvents (n : Nat) : List Event :=
  [.call sampleCycle,
    .program fun s => { s with buffer := s.buffer.put (encodeAll (List.replicate n sampleEntry)) },
    .call sampleCycle]

theorem length_encodeAll_replicate (n : Nat) (m : WireMessage) :
    (encodeAll (List.replicate n m)).length = n * m.encode.length := by
  simp [encodeAll]

theorem encodeAll_sampleBatch (n : Nat) :
    encodeAll (sampleBatch n) = encodeAll (List.replicate n sampleEntry) ++
      WireMessage.encode (.registration sampleRegistration) := by
  rw [sampleBatch, encodeAll, List.flatMap_append, List.flatMap_singleton, encodeAll]

theorem length_encodeAll_sampleBatch (n : Nat) : (encodeAll (sampleBatch n)).length = n * 59 + 29 := by
  have entry : sampleEntry.encode.length = 59 := by decide +kernel
  have last : (WireMessage.encode (.registration sampleRegistration)).length = 29 := by decide +kernel
  rw [encodeAll_sampleBatch, List.length_append, length_encodeAll_replicate, entry, last]

theorem length_logsOf_sampleBatch (env : Env) (n : Nat) : (logsOf env (sampleBatch n)).length = n := by
  have entry : (Message.log? (sampleEntry.message env)).isSome := rfl
  have other : Message.log? (WireMessage.message env (.registration sampleRegistration)) = none := rfl
  obtain ⟨e, isLog⟩ := Option.isSome_iff_exists.mp entry
  simp [logsOf, sampleBatch, ParseResult.ofMessages, isLog, other]

theorem registration_sampleCycle (index : fb.nTaskIndex = 1) :
    (fb.registration sampleCycle).flatten = WireMessage.encode (.registration sampleRegistration) := by
  simp only [registration, index]
  decide +kernel

theorem run_sampleEvents {n : Nat} (room : n * sampleEntry.encode.length + 100 < nBufferLen) :
    (run (sampleEvents n)).nState = .sending ∧ (run (sampleEvents n)).nTaskIndex = 1 ∧
      (run (sampleEvents n)).readBuffer.used = encodeAll (sampleBatch n) := by
  let start : LogBuffer := ⟨List.replicate nBufferLen 0, 0⟩
  let logged := start.put (encodeAll (List.replicate n sampleEntry))
  have within : start.Within := Nat.zero_le _
  have free : start.bufferFree = nBufferLen := by
    rw [bufferFree, List.length_replicate]
    rfl
  have length := length_encodeAll_replicate n sampleEntry
  have fits : (encodeAll (List.replicate n sampleEntry)).length ≤ start.bufferFree := by omega
  have used : logged.used = encodeAll (List.replicate n sampleEntry) := used_put within fits
  have left : 100 < logged.bufferFree := by
    rw [bufferFree_put within fits]
    omega
  let fb : OtelTask := { initial with nTaskIndex := 1, nState := .waitLog }.onLogging
    fun s => { s with buffer := s.buffer.put (encodeAll (List.replicate n sampleEntry)) }
  have called : run (sampleEvents n) = fb.call sampleCycle := rfl
  have buffer : fb.writeBuffer = logged := by
    show Function.update initial.logBuffers false _ false = _
    exact Function.update_self ..
  have due := registration_sampleCycle (show fb.nTaskIndex = 1 from rfl)
  have small : (fb.registration sampleCycle).flatten.length ≤ 100 := by
    rw [due]
    decide +kernel
  rw [called]
  obtain ⟨sending, index, sent⟩ := call_waitLog (show fb.nState = .waitLog from rfl)
    (show sampleCycle.task.info.nTaskIndex ≠ 0 by decide) rfl rfl rfl
    (buffer ▸ (length_put within _).2) (buffer ▸ left) (by rw [buffer]; omega)
  refine ⟨sending, index, ?_⟩
  rw [sent, buffer, used, due, encodeAll_sampleBatch]

/-- One entry in the buffer. -/
theorem clearsWhatReached_oneEntry :
    ClearsWhatReached sampleHost none sampleHeader sampleRouter (sampleBatch 1)
      (run (sampleEvents 1)) := by
  obtain ⟨sending, -, used⟩ := run_sampleEvents (n := 1) (by decide +kernel)
  refine (clearsWhatReached_iff_size _ none _ _ ⟨rfl, rfl⟩ _ sending _ used (by decide +kernel) ?_).mpr
    (.inl (by decide +kernel))
  decide

theorem not_clearsWhatReached (large : maxMessageSize < n * 59 + 29) (room : n * 59 + 100 < nBufferLen) :
    ¬ClearsWhatReached sampleHost none sampleHeader
      { sampleRouter with logTx := .empty n } (sampleBatch n) (run (sampleEvents n)) := by
  intro clears
  have size := length_encodeAll_sampleBatch n
  have entry : sampleEntry.encode.length = 59 := by decide +kernel
  obtain ⟨sending, -, used⟩ := run_sampleEvents (n := n) (by rw [entry]; exact room)
  have data : (run (sampleEvents n)).request.data = encodeAll (sampleBatch n) := by
    rw [(inFlight_run _).request_eq sending, used]
  have count := length_logsOf_sampleBatch sampleHost.env n
  have queue : Channels.Channel.Room (α := LogEntry) (.empty n) (logsOf sampleHost.env (sampleBatch n)).length := by
    rw [count]
    exact Nat.le_of_eq (Nat.zero_add n)
  have addressed : Addresses sampleHeader { sampleRouter with logTx := .empty n } := ⟨rfl, rfl⟩
  rcases (reached_iff addressed data (by omega) queue).mp
    (clears.answered (result_dispatch addressed sampleHost none _)) with small | none
  · omega
  · rw [none] at count
    subst count
    exact absurd large (by decide)

/-- With 20000 entries the buffer is above 1 MiB: the write is answered with result 0, the next
call clears the buffer, and no entry has reached the log channel, which has room for them. -/
theorem fullBuffer_not_clearsWhatReached :
    result (({ sampleRouter with logTx := .empty 20000 } : AdsRouter).dispatch sampleHost
        ((run (sampleEvents 20000)).frame sampleHeader) none).1 = some 0 ∧
      ((run (sampleEvents 20000)).call sampleCycle).readBuffer.used = [] ∧
      ¬ClearsWhatReached sampleHost none sampleHeader
        { sampleRouter with logTx := .empty 20000 } (sampleBatch 20000) (run (sampleEvents 20000)) := by
  have entry : sampleEntry.encode.length = 59 := by decide +kernel
  obtain ⟨sending, index, -⟩ := run_sampleEvents (n := 20000) (by rw [entry]; decide)
  exact ⟨result_dispatch ⟨rfl, rfl⟩ .., used_call sending (by decide) index rfl rfl,
    not_clearsWhatReached (by decide) (by decide)⟩

end OtelTask

end TcOtel.Plc
