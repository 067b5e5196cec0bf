import TcOtel.Ads.Router
import TcOtel.Lib.Stream

/-!
# Frames over TCP

The loop of the TCP listener (`handle_connection` of `transport/tcp.rs`) and the one of the client
of the local router (`frame_loop` of `transport/local_router.rs`). Both read a prefix of six bytes
and then as many bytes as it announces, into a buffer that is used again for every frame, hand the
frame to the router and write its answer back behind a prefix.

The bytes arrive in segments. A round of either loop takes exactly one packet from them
(`handleConnection_round`, `frameLoop_round`), whatever the segments are.
-/

namespace TcOtel.Ads

open Decoding Memory Streaming AdsRouter

/-! ### The loops -/

/-- What a connection has done so far: the frames that were handed to the router, the router
behind them, and the bytes that were written back. -/
structure Serving where
  router : AdsRouter
  dispatched : List (List UInt8)
  written : List UInt8

structure Connection where
  incoming : List (List UInt8)
  buf : List UInt8
  serving : Serving

/-- The only error that reading reports here: the stream ends inside what is read. -/
inductive IoError where
  | unexpectedEof
deriving DecidableEq

def transportLimit : Nat := 16 * 1048576

def amsTcpHeader (cmd : UInt16) (length : Nat) : List UInt8 :=
  leBytes 2 cmd.toNat ++ leBytes 4 (UInt32.ofNat length).toNat

namespace Serving

def serve (host : RouterEnv) (peerAddress : Option String) (s : Serving) (frame : List UInt8) : Serving :=
  let answered := s.router.dispatch host frame peerAddress
  { router := answered.2
    dispatched := s.dispatched ++ [frame]
    written :=
      match answered.1 with
      | .ok (some response) => s.written ++ (amsTcpHeader 0 response.length ++ response)
      | _ => s.written }

def accept (host : RouterEnv) (peerAddress : Option String) (s : Serving) (frame : List UInt8) : Serving :=
  if frame.length < 32 then s else s.serve host peerAddress frame

end Serving

namespace Connection

def readInto (c : Connection) (count : Nat) : Option Connection :=
  (readExact c.incoming count).map fun read => { c with incoming := read.2, buf := overwrite c.buf 0 read.1 }

def grow (c : Connection) (size : Nat) : Connection :=
  { c with buf := c.buf ++ List.replicate (size - c.buf.length) 0 }

/-- A round of `handle_connection`. Its two branches, for writes and for all other commands, do
the same. -/
def handleConnectionRound (host : RouterEnv) (peerIp : String) (c : Connection) :
    Looping.Step Connection (Except IoError Unit × Connection) :=
  match c.readInto 6 with
  -- the peer has closed the stream, in front of a prefix or inside it
  | none => .halt (.ok (), c)
  | some c =>
    let reserved := Push.readU16 c.buf 0
    let dataLen := (Push.readU32 c.buf 2).toNat
    if reserved ≠ 0 ∨ dataLen = 0 ∨ transportLimit < dataLen then .halt (.ok (), c)
    else
      match (c.grow dataLen).readInto dataLen with
      | none => .halt (.ok (), c)
      -- behind the frame the buffer still holds what longer frames before it have left
      | some c => .next { c with serving := c.serving.accept host (some peerIp) (c.buf.take dataLen) }

/-- A round of `frame_loop`. Packets with another command than ADS are skipped. -/
def frameLoopRound (host : RouterEnv) (c : Connection) : Looping.Step Connection (Except IoError Unit × Connection) :=
  match c.readInto 6 with
  | none => .halt (.ok (), c)
  | some c =>
    let cmd := Push.readU16 c.buf 0
    let dataLen := (Push.readU32 c.buf 2).toNat
    -- a packet without a frame is none of the reasons to stop here
    if transportLimit < dataLen then .halt (.ok (), c)
    else
      match (c.grow dataLen).readInto dataLen with
      | none => .halt (.error .unexpectedEof, c)
      | some c =>
        -- what another command brings has been read, so that the next prefix is in its place
        if cmd = 0 then .next { c with serving := c.serving.accept host none (c.buf.take dataLen) } else .next c

def remaining (c : Connection) : Nat := c.incoming.flatten.length

/-- `handle_connection` until the peer closes the stream. -/
def handleConnection (host : RouterEnv) (peerIp : String) (c : Connection) :
    Option (Except IoError Unit × Connection) :=
  Looping.run (handleConnectionRound host peerIp) (c.remaining + 1) c

/-- `frame_loop` until the router closes the stream. -/
def frameLoop (host : RouterEnv) (c : Connection) : Option (Except IoError Unit × Connection) :=
  Looping.run (frameLoopRound host) (c.remaining + 1) c

def accepted (router : AdsRouter) (segments : List (List UInt8)) : Connection where
  incoming := segments
  buf := List.replicate 16384 0
  serving := ⟨router, [], []⟩

end Connection

open Connection

/-! ### One packet -/

section

variable {c : Connection} {later : List UInt8}

theorem Connection.readInto_append (stream : c.incoming.flatten = first ++ later) :
    ∃ rest, c.readInto first.length = some ⟨rest, first ++ c.buf.drop first.length, c.serving⟩ ∧ rest.flatten = later := by
  obtain ⟨rest, read, left⟩ := readExact_append stream
  refine ⟨rest, ?_, left⟩
  rw [readInto, read, Option.map_some, overwrite, List.take_zero, List.nil_append, Nat.zero_add]

theorem Connection.readInto_of_end (ended : c.incoming.flatten = []) (some : 0 < count) :
    c.readInto count = none := by
  cases read : readExact c.incoming count with
  | none => rw [readInto, read, Option.map_none]
  | some result =>
    obtain ⟨stream, length⟩ := flatten_of_readExact read
    rw [ended] at stream
    rw [(List.append_eq_nil_iff.mp stream.symm).1, List.length_nil] at length
    omega

theorem readU16_amsTcpHeader (cmd : UInt16) (length : Nat) (rest : List UInt8) :
    Push.readU16 (amsTcpHeader cmd length ++ rest) 0 = cmd := by
  rw [amsTcpHeader, List.append_assoc, Push.readU16_start]

theorem readU32_amsTcpHeader (cmd : UInt16) (fits : length < 2 ^ 32) (rest : List UInt8) :
    (Push.readU32 (amsTcpHeader cmd length ++ rest) 2).toNat = length := by
  rw [amsTcpHeader, List.append_assoc, Push.readU32_behind (by rw [length_leBytes]), length_leBytes,
    Push.readU32_start, UInt32.toNat_ofNat', Nat.mod_eq_of_lt fits]

/-- The prefix and then the frame are read from the stream, and the frame is what the buffer starts
with. -/
theorem Connection.read_packet (fits : frame.length < 2 ^ 32)
    (stream : c.incoming.flatten = (amsTcpHeader cmd frame.length ++ frame) ++ later) :
    ∃ c' c'' : Connection, c.readInto 6 = some c' ∧ Push.readU16 c'.buf 0 = cmd ∧
      (Push.readU32 c'.buf 2).toNat = frame.length ∧ (c'.grow frame.length).readInto frame.length = some c'' ∧
      c''.buf.take frame.length = frame ∧ c''.serving = c.serving ∧ c''.incoming.flatten = later := by
  rw [List.append_assoc] at stream
  obtain ⟨rest, read, left⟩ := readInto_append stream
  -- the second read goes to the start of the buffer again, over the prefix
  obtain ⟨rest', read', left'⟩ :=
    readInto_append (c := grow ⟨rest, amsTcpHeader cmd frame.length ++ c.buf.drop 6, c.serving⟩ frame.length) left
  exact ⟨_, _, read, readU16_amsTcpHeader .., readU32_amsTcpHeader cmd fits _, read', List.take_left, rfl, left'⟩

variable {frame : List UInt8}

theorem transportLimit_lt : transportLimit < 2 ^ 32 := by decide

theorem handleConnection_round (host : RouterEnv) (peerIp : String) (nonempty : 0 < frame.length)
    (small : frame.length ≤ transportLimit) (stream : c.incoming.flatten = (amsTcpHeader 0 frame.length ++ frame) ++ later) :
    ∃ c', c.handleConnectionRound host peerIp = .next c' ∧
      c'.serving = c.serving.accept host (some peerIp) frame ∧ c'.incoming.flatten = later := by
  have limit := transportLimit_lt
  obtain ⟨c', c'', header, reserved, length, body, taken, serving, left⟩ := read_packet (by omega) stream
  refine ⟨{ c'' with serving := c''.serving.accept host (some peerIp) frame }, ?_, by rw [serving], left⟩
  have good : ¬(Push.readU16 c'.buf 0 ≠ 0 ∨ frame.length = 0 ∨ transportLimit < frame.length) := by
    rintro (bad | empty | large)
    · exact bad reserved
    · omega
    · omega
  simp only [handleConnectionRound, header, length, if_neg good, body, taken]

theorem frameLoop_round (host : RouterEnv) (small : frame.length ≤ transportLimit)
    (stream : c.incoming.flatten = (amsTcpHeader 0 frame.length ++ frame) ++ later) :
    ∃ c', c.frameLoopRound host = .next c' ∧
      c'.serving = c.serving.accept host none frame ∧ c'.incoming.flatten = later := by
  have limit := transportLimit_lt
  obtain ⟨c', c'', header, cmd, length, body, taken, serving, left⟩ := read_packet (by omega) stream
  refine ⟨{ c'' with serving := c''.serving.accept host none frame }, ?_, by rw [serving], left⟩
  simp [frameLoopRound, header, length, if_neg (Nat.not_lt.mpr small), body, taken, cmd]

end

/-! ### Whole streams -/

def amsTcpPacket (frame : List UInt8) : List UInt8 := amsTcpHeader 0 frame.length ++ frame

theorem Connection.remaining_of_readInto {c c' : Connection} (read : c.readInto count = some c') :
    c'.remaining + count = c.remaining := by
  obtain ⟨result, taken, rfl⟩ := Option.map_eq_some_iff.mp read
  obtain ⟨stream, length⟩ := flatten_of_readExact taken
  rw [remaining, remaining, stream, List.length_append, length, Nat.add_comm]

theorem Connection.remaining_grow (c : Connection) (size : Nat) : (c.grow size).remaining = c.remaining := rfl

theorem Connection.remaining_lt_of_packet {c c₁ c₂ : Connection} (header : c.readInto 6 = some c₁)
    (body : (c₁.grow size).readInto size = some c₂) : c₂.remaining < c.remaining := by
  have first := remaining_of_readInto header
  have second := remaining_of_readInto body
  rw [remaining_grow] at second
  omega

theorem handleConnection_progress (host : RouterEnv) (peerIp : String) :
    Looping.Progress (handleConnectionRound host peerIp) (fun _ => True) remaining where
  preserves _ _ := trivial
  decreases := by
    intro c c' _ moved
    simp only [handleConnectionRound] at moved
    split at moved
    · cases moved
    next c₁ header =>
    split at moved
    · cases moved
    split at moved
    · cases moved
    next c₂ body =>
    have lower := remaining_lt_of_packet header body
    cases moved
    exact lower

theorem frameLoop_progress (host : RouterEnv) :
    Looping.Progress (frameLoopRound host) (fun _ => True) remaining where
  preserves _ _ := trivial
  decreases := by
    intro c c' _ moved
    simp only [frameLoopRound] at moved
    split at moved
    · cases moved
    next c₁ header =>
    split at moved
    · cases moved
    split at moved
    · cases moved
    next c₂ body =>
    have lower := remaining_lt_of_packet header body
    -- both with a frame and with another command
    split at moved <;> cases moved <;> exact lower

/-- A loop that takes one packet in a round and ends with the stream accepts the frames of the
stream one after the other. -/
theorem serves_stream {round : Connection → Looping.Step Connection (Except IoError Unit × Connection)}
    {accept : Serving → List UInt8 → Serving} {ok : List UInt8 → Prop}
    (one : ∀ {c : Connection} {frame later}, ok frame → c.incoming.flatten = amsTcpPacket frame ++ later →
      ∃ c', round c = .next c' ∧ c'.serving = accept c.serving frame ∧ c'.incoming.flatten = later)
    (last : ∀ {c : Connection}, c.incoming.flatten = [] → round c = .halt (.ok (), c))
    {frames : List (List UInt8)} (sizes : ∀ frame ∈ frames, ok frame) {c : Connection}
    (stream : c.incoming.flatten = frames.flatMap amsTcpPacket) :
    ∃ c', Looping.Ends round c (.ok (), c') ∧ c'.serving = frames.foldl accept c.serving := by
  -- by induction on the frames, since the segments need not follow them
  induction frames generalizing c with
  | nil => exact ⟨c, .of_halt (last stream), rfl⟩
  | cons frame frames ih =>
    obtain ⟨next, moved, served, left⟩ := one (sizes frame List.mem_cons_self) stream
    obtain ⟨final, ended, all⟩ := ih (fun f member => sizes f (List.mem_cons_of_mem _ member)) left
    refine ⟨final, (Looping.Ends.next_iff moved).mpr ended, ?_⟩
    rw [all, served, List.foldl_cons]

/-! ### What was served -/

/-- The answers of the router to frames that come one after the other, and the router behind them. -/
def AdsRouter.dispatchAll (host : RouterEnv) (peerAddress : Option String) :
    AdsRouter → List (List UInt8) → List (List UInt8) × AdsRouter
  | r, [] => ([], r)
  | r, frame :: frames =>
    let answered := r.dispatch host frame peerAddress
    let later := AdsRouter.dispatchAll host peerAddress answered.2 frames
    match answered.1 with
    | .ok (some response) => (response :: later.1, later.2)
    | _ => later

theorem Serving.foldl_accept (host : RouterEnv) (peerAddress : Option String) (frames : List (List UInt8)) (s : Serving) :
    frames.foldl (Serving.accept host peerAddress) s =
      ⟨(s.router.dispatchAll host peerAddress (frames.filter (32 ≤ ·.length))).2,
        s.dispatched ++ frames.filter (32 ≤ ·.length),
        s.written ++ (s.router.dispatchAll host peerAddress (frames.filter (32 ≤ ·.length))).1.flatMap amsTcpPacket⟩ := by
  induction frames generalizing s with
  | nil => simp [dispatchAll]
  | cons frame frames ih =>
    rw [List.foldl_cons, ih, accept]
    by_cases short : frame.length < 32
    · rw [if_pos short, List.filter_cons_of_neg (by simpa using short)]
    · rw [if_neg short, List.filter_cons_of_pos (by simpa using short), dispatchAll, serve]
      split
      next => simp [amsTcpPacket]
      next => simp

/-- Two bytes that are zero, the length of the frame in four bytes, and the frame. -/
def IsPacket (packet frame : List UInt8) : Prop :=
  ∃ length : List UInt8, packet = [0, 0] ++ (length ++ frame) ∧ length.length = 4 ∧ leNat length = frame.length

theorem isPacket_amsTcpPacket (fits : frame.length < 2 ^ 32) : IsPacket (amsTcpPacket frame) frame := by
  have number : (UInt32.ofNat frame.length).toNat = frame.length := by
    rw [UInt32.toNat_ofNat', Nat.mod_eq_of_lt fits]
  refine ⟨leBytes 4 frame.length, ?_, length_leBytes _ _, leNat_leBytes 4 _ fits⟩
  rw [amsTcpPacket, amsTcpHeader, number]
  rfl

/-- The loop ends with the stream, without an error. The frames with a whole header were handed to
the router, as they are and in order, and each of its answers was written back as a packet, in the
order of the answers. -/
def ServedInOrder (host : RouterEnv) (peerAddress : Option String) (router : AdsRouter) (frames : List (List UInt8))
    (result : Option (Except IoError Unit × Connection)) : Prop :=
  ∃ c, result = some (.ok (), c) ∧ c.serving.dispatched = frames.filter (32 ≤ ·.length) ∧
    c.serving.router = (router.dispatchAll host peerAddress (frames.filter (32 ≤ ·.length))).2 ∧
    ∃ packets, c.serving.written = packets.flatten ∧
      List.Forall₂ IsPacket packets (router.dispatchAll host peerAddress (frames.filter (32 ≤ ·.length))).1

theorem servedInOrder_of_ends {host : RouterEnv} {peerAddress : Option String} {router : AdsRouter}
    {frames segments : List (List UInt8)}
    {round : Connection → Looping.Step Connection (Except IoError Unit × Connection)}
    (progress : Looping.Progress round (fun _ => True) remaining)
    (served : ∃ c', Looping.Ends round (.accepted router segments) (.ok (), c') ∧
      c'.serving = frames.foldl (Serving.accept host peerAddress) ⟨router, [], []⟩)
    (answers : ∀ response ∈ (router.dispatchAll host peerAddress (frames.filter (32 ≤ ·.length))).1,
      response.length < 2 ^ 32) : ServedInOrder host peerAddress router frames
      (Looping.run round ((accepted router segments).remaining + 1) (.accepted router segments)) := by
  obtain ⟨c, ended, serving⟩ := served
  rw [Serving.foldl_accept] at serving
  refine ⟨c, (Looping.run_eq_some_iff progress trivial (Nat.lt_succ_self _)).mpr ended, ?_, ?_, ?_⟩
  · rw [serving, List.nil_append]
  · rw [serving]
  · refine ⟨(router.dispatchAll host peerAddress (frames.filter (32 ≤ ·.length))).1.map amsTcpPacket, ?_, ?_⟩
    · rw [serving]
      simp [List.flatMap_def]
    rw [List.forall₂_map_left_iff, List.forall₂_same]
    intro response member
    exact isPacket_amsTcpPacket (answers response member)

/-- For frames of at most 16 MiB, however the stream of their packets is cut into segments, both
loops serve them in order. -/
theorem loops_serve_in_order (host : RouterEnv) (peerIp : String) (router : AdsRouter) (frames segments : List (List UInt8))
    (sizes : ∀ frame ∈ frames, 1 ≤ frame.length ∧ frame.length ≤ 16 * 1048576)
    (stream : segments.flatten = frames.flatMap amsTcpPacket) (answers : ∀ peer ∈ [some peerIp, none],
      ∀ response ∈ (router.dispatchAll host peer (frames.filter (32 ≤ ·.length))).1, response.length < 2 ^ 32) :
    ServedInOrder host (some peerIp) router frames ((accepted router segments).handleConnection host peerIp) ∧
      ServedInOrder host none router frames ((accepted router segments).frameLoop host) := by
  constructor
  · refine servedInOrder_of_ends (handleConnection_progress host peerIp) ?_ (answers _ List.mem_cons_self)
    refine serves_stream (fun size => handleConnection_round host peerIp size.1 size.2) ?_ sizes stream
    intro c ended
    simp [handleConnectionRound, readInto_of_end ended (show 0 < 6 by decide)]
  · refine servedInOrder_of_ends (frameLoop_progress host) ?_ (answers _ (List.mem_cons_of_mem _ List.mem_cons_self))
    refine serves_stream (fun size => frameLoop_round host size.2) ?_ sizes stream
    intro c ended
    simp [frameLoopRound, readInto_of_end ended (show 0 < 6 by decide)]

/-- A frame that is too short for a header, and a request for the state. -/
def sampleFrames : List (List UInt8) :=
  [[7], { AdsRouter.sampleHeader with commandId := adsCmdReadState }.serialize]

/-- Their packets, cut after every byte. -/
def sampleSegments : List (List UInt8) := (sampleFrames.flatMap amsTcpPacket).map fun byte => [byte]

theorem loops_serve_in_order_sample :
    ServedInOrder sampleHost (some "10.0.0.9") sampleRouter sampleFrames
        ((accepted sampleRouter sampleSegments).handleConnection sampleHost "10.0.0.9") ∧
      ServedInOrder sampleHost none sampleRouter sampleFrames
        ((accepted sampleRouter sampleSegments).frameLoop sampleHost) :=
  loops_serve_in_order _ _ _ _ _ (by decide +kernel) (by decide +kernel) (by decide +kernel)

end TcOtel.Ads
