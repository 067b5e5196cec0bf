import TcOtel.Ads.Dispatcher
import TcOtel.Ads.Transport

/-!
# Answers of the router

What the router answers to a frame, and which readers take the answer.

## Main result

`response_accepted_iff`: the answer always goes back to the sender with the command and the invoke
id of the request. It is as long as the readers allow just when the request is not a read that asks
for too much: the number of bytes to read is taken from the request as it is.
-/

namespace TcOtel.Ads

open Decoding Memory

/-! ### The length of an answer -/

namespace AdsRouter

variable {host : RouterEnv} {peerAddress : Option String} {r : AdsRouter} {frame : List UInt8}

/-- The number of bytes that a request reads. Only a read with its three numbers asks for any. -/
def readLength (frame : List UInt8) : Nat :=
  if Push.readU16 frame 16 = adsCmdRead ∧ 44 ≤ frame.length then (Push.readU32 frame 40).toNat else 0

theorem length_responsePayload_read (frame : List UInt8) (read : Push.readU16 frame 16 = adsCmdRead) :
    (responsePayload frame adsCmdRead).length = 8 + readLength frame := by
  have length : readLength frame = if 44 ≤ frame.length then (Push.readU32 frame 40).toNat else 0 := by
    simp [readLength, read]
  rw [length]
  simp only [responsePayload, adsCmdRead, adsCmdReadState, adsCmdReadDeviceInfo, List.length_append, length_leBytes,
    List.length_replicate, reduceIte, show (2 : UInt16) ≠ 4 by decide, show (2 : UInt16) ≠ 1 by decide]
  omega

theorem length_responsePayload_le (notRead : commandId ≠ adsCmdRead) (frame : List UInt8) :
    (responsePayload frame commandId).length ≤ 24 := by
  unfold responsePayload
  split
  · decide
  split
  · decide +kernel
  split
  · decide
  split <;> decide

theorem dispatch_answers (host : RouterEnv) (peerAddress : Option String) (r : AdsRouter) (whole : 32 ≤ frame.length) :
    ∃ header, AmsHeader.parse frame = .ok header ∧ header.commandId = Push.readU16 frame 16 ∧
      (r.dispatch host frame peerAddress).1 = .ok (some (buildResponse header (responsePayload frame header.commandId))) := by
  have long : ¬frame.length < 32 := by omega
  have parsed : ∃ header, AmsHeader.parse frame = .ok header ∧ header.commandId = Push.readU16 frame 16 := by
    rw [AmsHeader.parse, dif_neg long]
    exact ⟨_, rfl, rfl⟩
  obtain ⟨header, parsed, command⟩ := parsed
  refine ⟨header, parsed, command, ?_⟩
  rw [dispatch, if_neg long, parsed]

theorem length_buildResponse (header : AmsHeader) (payload : List UInt8) :
    (buildResponse header payload).length = 32 + payload.length := by
  rw [buildResponse, List.length_append, AmsHeader.length_serialize]

/-- An answer is as short as a limit asks for just when the bytes that are read leave room for it. -/
theorem length_response_le_iff (command : header.commandId = Push.readU16 frame 16) (room : 56 ≤ limit) :
    (buildResponse header (responsePayload frame header.commandId)).length ≤ limit ↔ 40 + readLength frame ≤ limit := by
  rw [length_buildResponse]
  by_cases read : Push.readU16 frame 16 = adsCmdRead
  · rw [command.trans read, length_responsePayload_read frame read]
    omega
  · have short := length_responsePayload_le (command ▸ read) frame
    have nothing : readLength frame = 0 := by simp [readLength, read]
    omega

/-! ### What an answer says -/

/-- The answer is from where the request went and goes to where the request came from, has its
command and invoke id, and announces as many bytes as follow. -/
structure Answers (frame response : List UInt8) (request answer : AmsHeader) : Prop where
  asked : AmsHeader.parse frame = .ok request
  answered : AmsHeader.parse response = .ok answer
  target : answer.targetNetId = request.sourceNetId ∧ answer.targetPort = request.sourcePort
  source : answer.sourceNetId = request.targetNetId ∧ answer.sourcePort = request.targetPort
  command : answer.commandId = request.commandId
  invokeId : answer.invokeId = request.invokeId
  dataLength : answer.dataLength.toNat = (response.drop 32).length

theorem answers_buildResponse (parsed : AmsHeader.parse frame = .ok header) (fits : payload.length < 2 ^ 32) :
    Answers frame (buildResponse header payload) header
      { header.makeResponse 0 with dataLength := UInt32.ofNat payload.length, stateFlags := 0x0005 } where
  asked := parsed
  answered := AmsHeader.parse_serialize _ _
  target := ⟨rfl, rfl⟩
  source := ⟨rfl, rfl⟩
  command := rfl
  invokeId := rfl
  dataLength := by
    rw [buildResponse, List.drop_left' (AmsHeader.length_serialize _), UInt32.toNat_ofNat', Nat.mod_eq_of_lt fits]

end AdsRouter

/-! ### Readers -/

/-- Every loop that reads frames takes this one from its stream: the reader of a connection of the
dispatcher, the listener and the client of the local router. -/
structure AcceptedByReaders (response : List UInt8) : Prop where
  dispatcher : AmsDispatcher.readerAccepts response.length = true
  listener : ∀ host peerIp (c : Connection) later, c.incoming.flatten = amsTcpPacket response ++ later →
    ∃ c', c.handleConnectionRound host peerIp = .next c' ∧
      c'.serving = c.serving.accept host (some peerIp) response ∧ c'.incoming.flatten = later
  localRouter : ∀ host (c : Connection) later, c.incoming.flatten = amsTcpPacket response ++ later →
    ∃ c', c.frameLoopRound host = .next c' ∧
      c'.serving = c.serving.accept host none response ∧ c'.incoming.flatten = later

theorem acceptedByReaders_iff (response : List UInt8) :
    AcceptedByReaders response ↔ 0 < response.length ∧ response.length ≤ transportLimit := by
  have limits : transportLimit ≤ maxAmsFrame ∧ maxAmsFrame < 2 ^ 32 := by decide
  constructor
  · intro accepted
    have fits := accepted.dispatcher
    simp only [AmsDispatcher.readerAccepts, decide_eq_true_eq] at fits
    refine ⟨by omega, ?_⟩
    by_contra large
    -- the client of the local router gives up on the prefix alone
    let c : Connection := ⟨[amsTcpPacket response], [], ⟨AdsRouter.sampleRouter, [], []⟩⟩
    have stream : c.incoming.flatten = (amsTcpHeader 0 response.length ++ response) ++ [] := by
      rw [List.append_nil]
      exact List.append_nil _
    obtain ⟨c', moved, -⟩ := accepted.localRouter AdsRouter.sampleHost c [] stream
    obtain ⟨c₁, c₂, header, -, length, -⟩ := Connection.read_packet (by omega) stream
    simp only [Connection.frameLoopRound, header, length, if_pos (Nat.not_le.mp large)] at moved
    cases moved
  · rintro ⟨nonempty, small⟩
    refine ⟨?_, fun host peerIp c later => handleConnection_round host peerIp nonempty small,
      fun host c later => frameLoop_round host small⟩
    simp only [AmsDispatcher.readerAccepts, decide_eq_true_eq]
    omega

namespace AdsRouter

/-- To every frame of 32 bytes to 16 MiB there is an answer that goes back to the sender and fits
into the largest frame just when the bytes that the request reads do; and it is taken by every
reader just when they fit into the smallest limit of these. -/
theorem response_accepted_iff (host : RouterEnv) (peerAddress : Option String) (r : AdsRouter) (frame : List UInt8)
    (whole : 32 ≤ frame.length) (_small : frame.length ≤ 16 * 1048576) :
    ((∃ response request answer, (r.dispatch host frame peerAddress).1 = .ok (some response) ∧
        Answers frame response request answer ∧ response.length ≤ maxAmsFrame) ↔
      40 + readLength frame ≤ maxAmsFrame) ∧
    ((∃ response request answer, (r.dispatch host frame peerAddress).1 = .ok (some response) ∧
        Answers frame response request answer ∧ response.length ≤ maxAmsFrame ∧ AcceptedByReaders response) ↔
      40 + readLength frame ≤ transportLimit) := by
  obtain ⟨header, parsed, command, answered⟩ := dispatch_answers host peerAddress r whole
  have limits : 56 ≤ transportLimit ∧ transportLimit ≤ maxAmsFrame ∧ maxAmsFrame < 2 ^ 32 := by decide
  have inFrame := length_response_le_iff command (show 56 ≤ maxAmsFrame by decide)
  have inLimit := length_response_le_iff command (show 56 ≤ transportLimit by decide)
  have length := length_buildResponse header (responsePayload frame header.commandId)
  constructor
  · constructor
    · rintro ⟨response, -, -, same, -, fits⟩
      cases answered.symm.trans same
      exact inFrame.mp fits
    · intro fits
      have within := inFrame.mpr fits
      exact ⟨_, _, _, answered, answers_buildResponse parsed (by omega), within⟩
  · constructor
    · rintro ⟨response, -, -, same, -, -, accepted⟩
      cases answered.symm.trans same
      exact inLimit.mp ((acceptedByReaders_iff _).mp accepted).2
    · intro fits
      have within := inLimit.mpr fits
      refine ⟨_, _, _, answered, answers_buildResponse parsed (by omega), by omega, ?_⟩
      exact (acceptedByReaders_iff _).mpr ⟨by omega, within⟩

def sampleRead (length : Nat) : List UInt8 :=
  { sampleHeader with commandId := adsCmdRead }.serialize ++ (leBytes 4 0 ++ (leBytes 4 0 ++ leBytes 4 length))

theorem response_accepted_iff_sample :
    ∃ response request answer, (sampleRouter.dispatch sampleHost (sampleRead 4) none).1 = .ok (some response) ∧
      Answers (sampleRead 4) response request answer ∧ response.length ≤ maxAmsFrame ∧ AcceptedByReaders response :=
  (response_accepted_iff sampleHost none sampleRouter (sampleRead 4) (by decide +kernel) (by decide +kernel)).2.mpr
    (by decide +kernel)

/-- A read of 16 MiB in a request of 44 bytes: the answer is longer than the largest frame. -/
theorem largeRead_exceeds :
    ∃ response, (sampleRouter.dispatch sampleHost (sampleRead (16 * 1048576)) none).1 = .ok (some response) ∧
      maxAmsFrame < response.length ∧ ¬AcceptedByReaders response := by
  obtain ⟨header, -, command, answered⟩ :=
    dispatch_answers sampleHost none sampleRouter (show 32 ≤ (sampleRead (16 * 1048576)).length by decide +kernel)
  have inFrame := length_response_le_iff command (show 56 ≤ maxAmsFrame by decide)
  have exceeds : ¬40 + readLength (sampleRead (16 * 1048576)) ≤ maxAmsFrame := by decide +kernel
  refine ⟨_, answered, Nat.not_le.mp (fun fits => exceeds (inFrame.mp fits)), fun accepted => ?_⟩
  have small := ((acceptedByReaders_iff _).mp accepted).2
  exact exceeds (inFrame.mp (small.trans (show transportLimit ≤ maxAmsFrame by decide)))

end AdsRouter

end TcOtel.Ads
