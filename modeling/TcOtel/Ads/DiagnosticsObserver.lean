import TcOtel.Ads.Ams

/-!
# Polls seen on the bus

The observer of `diagnostics_observer.rs` sees requests and responses of others. A response does
not say what was asked, so the observer keeps the requests that it knows, under the addresses of
the two hosts and the invoke id, and decodes a response with the request it finds there.

What is kept always comes from a request that was seen (`Kept`). The ports are not in the key, so
this is the request that the response answers only when no two clients share a host.
-/

namespace TcOtel.Ads.Observer

open Decoding Memory

/-! ### The decoder of `diagnostics.rs` -/

def adsStateRequest : UInt16 := 4

def igRtSystem : UInt32 := 0xF200
def igRtUsage : UInt32 := 1
def ioExceedCounter : UInt32 := 0x100
def ioTaskStats : UInt32 := 0
def ioRtUsage : UInt32 := 0xF

def taskStatsLen : Nat := 16
def exceedCounterLen : Nat := 4
def rtUsageLen : Nat := 24

structure PendingRequest where
  commandId : UInt16
  indexGroup : UInt32
  indexOffset : UInt32
  size : UInt32
  targetPort : UInt16
deriving DecidableEq

/-- `DiagEvent`, the variants that are polled. -/
inductive PollEvent where
  | exceedCounter (value : UInt32)
  | exceedReset
  | taskStats (taskPort typeMarker cycleCounter : UInt16) (cpuTicks100ns execTicks100ns : UInt32)
  | rtUsage (peakLatencyUs systemLatencyUs cpuPercent : UInt32)
deriving DecidableEq

def isKnownRead (ig io : UInt32) : Bool :=
  (ig = igRtSystem ∧ io = ioExceedCounter) ∨ (ig = igRtSystem ∧ io = ioTaskStats) ∨ (ig = igRtUsage ∧ io = ioRtUsage)

def isKnownWrite (ig io : UInt32) : Bool := ig = igRtSystem ∧ io = ioExceedCounter

def isKnown (commandId : UInt16) (ig io : UInt32) : Bool :=
  if commandId = adsCmdRead then isKnownRead ig io
  else if commandId = adsCmdWrite then isKnownWrite ig io
  else false

def decodeRequest (header : AmsHeader) (payload : List UInt8) : Option (UInt32 × PendingRequest) :=
  if header.stateFlags ≠ adsStateRequest then none
  else if payload.length < 12 then none
  else if isKnown header.commandId (Push.readU32 payload 0) (Push.readU32 payload 4) then
    some (header.invokeId, {
      commandId := header.commandId
      indexGroup := Push.readU32 payload 0
      indexOffset := Push.readU32 payload 4
      size := Push.readU32 payload 8
      targetPort := header.targetPort })
  else none

/-- The event that the data of a read response is for the request. -/
def readEvent (req : PendingRequest) (data : List UInt8) : Option PollEvent :=
  if req.indexGroup = igRtSystem ∧ req.indexOffset = ioExceedCounter ∧ data.length = exceedCounterLen then
    some (.exceedCounter (Push.readU32 data 0))
  else if req.indexGroup = igRtSystem ∧ req.indexOffset = ioTaskStats ∧ data.length = taskStatsLen then
    some (.taskStats req.targetPort (Push.readU16 data 2) (Push.readU16 data 0) (Push.readU32 data 4) (Push.readU32 data 8))
  else if req.indexGroup = igRtUsage ∧ req.indexOffset = ioRtUsage ∧ data.length = rtUsageLen then
    some (.rtUsage (Push.readU32 data 4) (Push.readU32 data 8) (Push.readU32 data 16))
  else none

def decodeReadResponse (payload : List UInt8) (req : PendingRequest) : Option PollEvent :=
  if payload.length < 8 then none
  else if Push.readU32 payload 0 ≠ 0 then none
  -- `payload.get(8..8 + rlen)`
  else if payload.length < 8 + (Push.readU32 payload 4).toNat then none
  else readEvent req (extract payload 8 (Push.readU32 payload 4).toNat)

def decodeWriteResponse (req : PendingRequest) : Option PollEvent :=
  if req.indexGroup = igRtSystem ∧ req.indexOffset = ioExceedCounter then some .exceedReset else none

def decodeResponse (header : AmsHeader) (payload : List UInt8) (req : PendingRequest) : Option PollEvent :=
  if header.stateFlags &&& 1 = 0 then none
  else if req.commandId = adsCmdRead then decodeReadResponse payload req
  else if req.commandId = adsCmdWrite then decodeWriteResponse req
  else none

def decodeWriteFromRequest (header : AmsHeader) (payload : List UInt8) : Option PollEvent :=
  if header.stateFlags ≠ adsStateRequest ∨ header.commandId ≠ adsCmdWrite ∨ payload.length < 12 then none
  else if Push.readU32 payload 0 = igRtSystem ∧ Push.readU32 payload 4 = ioExceedCounter then some .exceedReset
  else none

/-! ### The observer -/

/-- The addresses of the asked host and of the asking one, and the invoke id. -/
structure CorrelationKey where
  targetNetId : AmsNetId
  sourceNetId : AmsNetId
  invokeId : UInt32
deriving DecidableEq

structure PendingEntry where
  req : PendingRequest
  inserted : Nat
deriving DecidableEq

/-- Times are in nanoseconds of the monotonic clock. -/
structure DiagnosticsObserver where
  pending : HashMap CorrelationKey PendingEntry
  lastGc : Nat

def pendingTtl : Nat := 30 * 1000000000
def maxPending : Nat := 8192
def gcInterval : Nat := 10 * 1000000000

/-- The cutoff of a sweep at time `now`. -/
def PendingEntry.alive (now : Nat) (entry : PendingEntry) : Bool := now - pendingTtl ≤ entry.inserted

structure BusFrame where
  time : Nat
  header : AmsHeader
  payload : List UInt8
deriving DecidableEq

namespace DiagnosticsObserver

def new (now : Nat) : DiagnosticsObserver := ⟨∅, now⟩

def gcNow (o : DiagnosticsObserver) (now : Nat) : DiagnosticsObserver :=
  ⟨HashMap.retain (fun _ => PendingEntry.alive now) o.pending, now⟩

def maybeGc (o : DiagnosticsObserver) (now : Nat) : DiagnosticsObserver :=
  if now - o.lastGc < gcInterval then o else o.gcNow now

def keep (o : DiagnosticsObserver) (f : BusFrame) : DiagnosticsObserver :=
  match decodeRequest f.header f.payload with
  | none => o
  | some (invoke, req) =>
    let o := if maxPending ≤ o.pending.len then o.gcNow f.time else o
    { o with pending := o.pending.insert ⟨f.header.targetNetId, f.header.sourceNetId, invoke⟩ ⟨req, f.time⟩ }

def feed (o : DiagnosticsObserver) (f : BusFrame) : Option PollEvent × DiagnosticsObserver :=
  let o := o.maybeGc f.time
  if f.header.stateFlags &&& 1 = 0 then
    match decodeWriteFromRequest f.header f.payload with
    | some event => (some event, o)
    | none => (none, o.keep f)
  else
    let key : CorrelationKey := ⟨f.header.sourceNetId, f.header.targetNetId, f.header.invokeId⟩
    match o.pending.lookup key with
    | none => (none, o)
    | some entry => (decodeResponse f.header f.payload entry.req, { o with pending := o.pending.erase key })

def feedAll (o : DiagnosticsObserver) (frames : List BusFrame) : DiagnosticsObserver :=
  frames.foldl (fun o f => (o.feed f).2) o

end DiagnosticsObserver

/-! ### Requests and responses -/

structure Client where
  netId : AmsNetId
  port : UInt16
deriving DecidableEq

namespace BusFrame

def IsRequest (f : BusFrame) : Prop := f.header.stateFlags &&& 1 = 0
deriving Decidable

def client (f : BusFrame) : Client := ⟨f.header.sourceNetId, f.header.sourcePort⟩

def requestKey (f : BusFrame) : CorrelationKey := ⟨f.header.targetNetId, f.header.sourceNetId, f.header.invokeId⟩

def responseKey (f : BusFrame) : CorrelationKey := ⟨f.header.sourceNetId, f.header.targetNetId, f.header.invokeId⟩

/-- The response goes back to the client that asked, from the server that was asked. -/
structure Answers (response request : BusFrame) : Prop where
  asked : request.IsRequest
  client : request.client = ⟨response.header.targetNetId, response.header.targetPort⟩
  server : request.header.targetNetId = response.header.sourceNetId ∧
    request.header.targetPort = response.header.sourcePort
  invokeId : request.header.invokeId = response.header.invokeId

theorem Answers.requestKey_eq {response request : BusFrame} (answers : response.Answers request) :
    request.requestKey = response.responseKey := by
  have net : request.header.sourceNetId = response.header.targetNetId := congrArg Client.netId answers.client
  rw [requestKey, responseKey, answers.server.1, net, answers.invokeId]

end BusFrame

/-- The event is of the kind that the request asked for, and for the port that it asked. -/
def PollEvent.IsFor (event : PollEvent) (request : BusFrame) : Prop :=
  ∃ req, decodeRequest request.header request.payload = some (request.header.invokeId, req) ∧
    match event with
    | .exceedCounter _ => req.commandId = adsCmdRead ∧ req.indexGroup = igRtSystem ∧ req.indexOffset = ioExceedCounter
    | .exceedReset => req.commandId = adsCmdWrite ∧ req.indexGroup = igRtSystem ∧ req.indexOffset = ioExceedCounter
    | .taskStats port .. => req.commandId = adsCmdRead ∧ req.indexGroup = igRtSystem ∧ req.indexOffset = ioTaskStats ∧
        port = request.header.targetPort
    | .rtUsage .. => req.commandId = adsCmdRead ∧ req.indexGroup = igRtUsage ∧ req.indexOffset = ioRtUsage

theorem decodeRequest_eq (decoded : decodeRequest header payload = some (invoke, req)) :
    header.stateFlags = adsStateRequest ∧ invoke = header.invokeId ∧ req.targetPort = header.targetPort := by
  simp only [decodeRequest] at decoded
  split at decoded
  · cases decoded
  next request =>
  split at decoded
  · cases decoded
  split at decoded
  · cases decoded
    exact ⟨of_not_not request, rfl, rfl⟩
  · cases decoded

theorem IsFor.of_decodeResponse
    (decoded : decodeRequest request.header request.payload = some (request.header.invokeId, req))
    (emitted : decodeResponse header payload req = some event) : event.IsFor request := by
  refine ⟨req, decoded, ?_⟩
  have port := (decodeRequest_eq decoded).2.2
  unfold decodeResponse at emitted
  split at emitted
  · cases emitted
  split at emitted
  next read =>
    -- a read: the event follows the index group and offset of the request
    simp only [decodeReadResponse] at emitted
    split at emitted
    · cases emitted
    split at emitted
    · cases emitted
    split at emitted
    · cases emitted
    unfold readEvent at emitted
    split at emitted
    next exceed =>
      cases emitted
      exact ⟨read, exceed.1, exceed.2.1⟩
    split at emitted
    next stats =>
      cases emitted
      exact ⟨read, stats.1, stats.2.1, port⟩
    split at emitted
    next usage =>
      cases emitted
      exact ⟨read, usage.1, usage.2.1⟩
    · cases emitted
  split at emitted
  next write =>
    simp only [decodeWriteResponse] at emitted
    split at emitted
    next exceed =>
      cases emitted
      exact ⟨write, exceed⟩
    · cases emitted
  · cases emitted

/-! ### What is kept -/

namespace DiagnosticsObserver

/-- Every entry comes from a request that was seen. -/
def Kept (o : DiagnosticsObserver) (seen : List BusFrame) : Prop :=
  ∀ key entry, o.pending.lookup key = some entry → ∃ f ∈ seen, f.IsRequest ∧ f.requestKey = key ∧
    decodeRequest f.header f.payload = some (f.header.invokeId, entry.req)

variable {o o' : DiagnosticsObserver} {seen : List BusFrame} {f : BusFrame}

theorem Kept.of_subset (kept : o.Kept seen)
    (subset : ∀ key entry, o'.pending.lookup key = some entry → o.pending.lookup key = some entry) : o'.Kept seen :=
  fun key entry found => kept key entry (subset key entry found)

theorem lookup_of_gcNow
    (found : (o.gcNow now).pending.lookup key = some entry) : o.pending.lookup key = some entry := by
  have retained : (HashMap.retain (fun _ => PendingEntry.alive now) o.pending).lookup key = some entry := found
  exact HashMap.lookup_of_retain retained

section

variable (kept : o.Kept seen)
include kept

theorem Kept.gcNow (now : Nat) : (o.gcNow now).Kept seen := by
  intro key entry found
  exact kept key entry (lookup_of_gcNow found)

theorem Kept.maybeGc (now : Nat) : (o.maybeGc now).Kept seen := by
  unfold DiagnosticsObserver.maybeGc
  split
  · exact kept
  · exact kept.gcNow now

theorem Kept.later : o.Kept (seen ++ [f]) := by
  intro key entry found
  obtain ⟨g, member, origin⟩ := kept key entry found
  exact ⟨g, List.mem_append_left _ member, origin⟩

theorem Kept.keep : (o.keep f).Kept (seen ++ [f]) := by
  unfold DiagnosticsObserver.keep
  split
  · exact kept.later
  next invoke req decoded =>
  obtain ⟨flags, rfl, -⟩ := decodeRequest_eq decoded
  intro key entry found
  rcases HashMap.lookup_insert_cases found with ⟨rfl, rfl⟩ | older
  · refine ⟨f, List.mem_append_right _ (List.mem_singleton_self f), ?_, rfl, decoded⟩
    rw [BusFrame.IsRequest, flags]
    rfl
  · -- an older entry, whether or not there was a sweep before
    refine Kept.later ?_ key entry older
    split
    · exact kept.gcNow f.time
    · exact kept

theorem Kept.feed : (o.feed f).2.Kept (seen ++ [f]) := by
  have swept := kept.maybeGc f.time
  simp only [DiagnosticsObserver.feed]
  split
  · split
    · exact swept.later
    · exact swept.keep
  · split
    · exact swept.later
    · refine swept.later.of_subset ?_
      intro key entry found
      rw [← found]
      refine (Finmap.lookup_erase_ne ?_).symm
      rintro rfl
      simp at found

end

theorem Kept.feedAll (now : Nat) (frames : List BusFrame) : ((new now).feedAll frames).Kept frames := by
  induction frames using List.reverseRecOn with
  | nil =>
    intro key entry found
    cases found
  | append_singleton frames f ih =>
    rw [DiagnosticsObserver.feedAll, List.foldl_append]
    exact ih.feed

theorem feed_response (response : ¬f.IsRequest) (emitted : (o.feed f).1 = some event) :
    ∃ entry, (o.maybeGc f.time).pending.lookup f.responseKey = some entry ∧
      decodeResponse f.header f.payload entry.req = some event := by
  simp only [feed, if_neg (show ¬f.header.stateFlags &&& 1 = 0 from response)] at emitted
  split at emitted
  · cases emitted
  next entry found => exact ⟨entry, found, emitted⟩

theorem maybeGc_of_recent (recent : f.time - o.lastGc < gcInterval) : o.maybeGc f.time = o := if_pos recent

theorem feed_of_request (request : f.IsRequest) (recent : f.time - o.lastGc < gcInterval)
    (few : o.pending.len < maxPending) (noWrite : decodeWriteFromRequest f.header f.payload = none)
    (decoded : decodeRequest f.header f.payload = some (f.header.invokeId, req)) :
    (o.feed f).2 = ⟨o.pending.insert f.requestKey ⟨req, f.time⟩, o.lastGc⟩ := by
  have isRequest : f.header.stateFlags &&& 1 = 0 := request
  simp only [feed, maybeGc_of_recent recent, isRequest, noWrite, keep, decoded, if_neg (Nat.not_le.mpr few)]
  rfl

theorem feed_of_response (response : ¬f.IsRequest) (recent : f.time - o.lastGc < gcInterval)
    (found : o.pending.lookup f.responseKey = some entry) :
    (o.feed f).1 = decodeResponse f.header f.payload entry.req := by
  have isResponse : ¬f.header.stateFlags &&& 1 = 0 := response
  have entryFound : o.pending.lookup ⟨f.header.sourceNetId, f.header.targetNetId, f.header.invokeId⟩ = some entry := found
  simp [feed, maybeGc_of_recent recent, isResponse, entryFound]

end DiagnosticsObserver

open DiagnosticsObserver

/-! ### Traffic on the bus -/

/-- Requests of these clients and responses to them, in any order. A client does not use an invoke
id twice; two clients may use the same one. -/
structure Traffic (clients : Set Client) (frames : List BusFrame) : Prop where
  uniqueIds : frames.Pairwise fun f g => f.IsRequest → g.IsRequest → f.client = g.client →
    f.header.invokeId ≠ g.header.invokeId
  solicited : ∀ before response after, frames = before ++ response :: after → ¬response.IsRequest →
    ∃ request ∈ before, response.Answers request
  known : ∀ f ∈ frames, f.IsRequest → f.client ∈ clients

/-- Every event that is emitted for a response has the kind and the port of the request that it
answers. -/
def Attributes (now : Nat) (frames : List BusFrame) : Prop :=
  ∀ before response after event, frames = before ++ response :: after → ¬response.IsRequest →
    (((DiagnosticsObserver.new now).feedAll before).feed response).1 = some event →
    ∀ request ∈ before, response.Answers request → event.IsFor request

/-- Requests under one key come from one client. -/
def KeysApart (frames : List BusFrame) : Prop :=
  ∀ f ∈ frames, ∀ g ∈ frames, f.IsRequest → g.IsRequest → f.requestKey = g.requestKey → f.client = g.client

section

variable {clients : Set Client} {frames : List BusFrame} (traffic : Traffic clients frames)
include traffic

theorem Traffic.request_unique (inF : f ∈ frames) (inG : g ∈ frames) (asksF : f.IsRequest) (asksG : g.IsRequest)
    (client : f.client = g.client) (id : f.header.invokeId = g.header.invokeId) : f = g := by
  by_contra differ
  have symmetric : Std.Symm fun f g : BusFrame => f.IsRequest → g.IsRequest → f.client = g.client →
      f.header.invokeId ≠ g.header.invokeId :=
    ⟨fun f g apart asksG asksF client id => apart asksF asksG client.symm id.symm⟩
  exact traffic.uniqueIds.forall inF inG differ asksF asksG client id

theorem attributes_of_keysApart (apart : KeysApart frames) (now : Nat) : Attributes now frames := by
  rintro before response after event rfl isResponse emitted request asked answers
  obtain ⟨entry, found, decoded⟩ := feed_response isResponse emitted
  have kept := (DiagnosticsObserver.Kept.feedAll now before).maybeGc response.time
  obtain ⟨origin, seen, asks, key, pending⟩ := kept _ _ found
  -- the entry is from a request under the key of the one that is answered, so it is from that one
  have sameKey : origin.requestKey = request.requestKey := key.trans answers.requestKey_eq.symm
  have inOrigin := List.mem_append_left (response :: after) seen
  have inRequest := List.mem_append_left (response :: after) asked
  have client := apart origin inOrigin request inRequest asks answers.asked sameKey
  have same := traffic.request_unique inOrigin inRequest asks answers.asked client (congrArg (·.invokeId) sameKey)
  subst same
  exact IsFor.of_decodeResponse pending decoded

end

/-! ### Two clients on one host -/

/-- A poll for the statistics of the task at a port, with invoke id 1. -/
def statsRequest (client : Client) (server : AmsNetId) (taskPort : UInt16) : BusFrame where
  time := 0
  header := ⟨server, taskPort, client.netId, client.port, adsCmdRead, adsStateRequest, 12, 0, 1⟩
  payload := leBytes 4 0xF200 ++ leBytes 4 0 ++ leBytes 4 16

def statsResponse (client : Client) (server : AmsNetId) (taskPort : UInt16) : BusFrame where
  time := 0
  header := ⟨client.netId, client.port, server, taskPort, adsCmdRead, adsStateResponse, 24, 0, 1⟩
  payload := leBytes 4 0 ++ leBytes 4 16 ++ List.replicate 16 7

/-- Two clients poll two tasks at the same time, and the task that was asked first answers. -/
def crossedPolls (a b : Client) (server : AmsNetId) : List BusFrame :=
  [statsRequest a server 350, statsRequest b server 351, statsResponse a server 350]

section

variable {a b : Client} (server : AmsNetId)

theorem statsRequest_isRequest (client : Client) (port : UInt16) : (statsRequest client server port).IsRequest :=
  show adsStateRequest &&& 1 = 0 by decide

theorem statsResponse_not_isRequest (client : Client) (port : UInt16) :
    ¬(statsResponse client server port).IsRequest :=
  show ¬adsStateResponse &&& 1 = 0 by decide

theorem statsResponse_answers (client : Client) (port : UInt16) :
    (statsResponse client server port).Answers (statsRequest client server port) :=
  ⟨statsRequest_isRequest .., rfl, ⟨rfl, rfl⟩, rfl⟩

theorem crossedPolls_traffic (inA : a ∈ clients) (inB : b ∈ clients) (differ : a ≠ b) :
    Traffic clients (crossedPolls a b server) where
  uniqueIds := by
    have response := statsResponse_not_isRequest server a 350
    simp only [crossedPolls, List.pairwise_cons, List.mem_cons, List.not_mem_nil, forall_eq_or_imp,
      false_imp_iff, implies_true, List.Pairwise.nil, and_true]
    exact ⟨⟨fun _ _ same => absurd same differ, fun _ asks => absurd asks response⟩, fun _ asks => absurd asks response⟩
  solicited := by
    intro before response after split isResponse
    -- only the third frame is a response
    rcases before with _ | ⟨f, _ | ⟨g, _ | ⟨h, before⟩⟩⟩
    · cases split
      exact absurd (statsRequest_isRequest ..) isResponse
    · cases split
      exact absurd (statsRequest_isRequest ..) isResponse
    · cases split
      exact ⟨_, List.mem_cons_self, statsResponse_answers ..⟩
    · have lengths := congrArg List.length split
      simp only [crossedPolls, List.length_cons, List.length_nil, List.length_append] at lengths
      omega
  known := by
    intro f member asks
    simp only [crossedPolls, List.mem_cons, List.not_mem_nil, or_false] at member
    rcases member with rfl | rfl | rfl
    · exact inA
    · exact inB
    · exact absurd asks (statsResponse_not_isRequest server a 350)

theorem feed_statsRequest {o : DiagnosticsObserver} (justSwept : o.lastGc = 0) (few : o.pending.len < maxPending)
    (client : Client) (port : UInt16) : (o.feed (statsRequest client server port)).2 =
      ⟨o.pending.insert ⟨server, client.netId, 1⟩ ⟨⟨adsCmdRead, igRtSystem, ioTaskStats, 16, port⟩, 0⟩, 0⟩ := by
  have recent : (statsRequest client server port).time - o.lastGc < gcInterval := by
    rw [justSwept]
    exact show 0 - 0 < gcInterval by decide
  have noWrite : decodeWriteFromRequest (statsRequest client server port).header
      (statsRequest client server port).payload = none :=
    if_pos (.inr (.inl (show adsCmdRead ≠ adsCmdWrite by decide)))
  rw [feed_of_request (statsRequest_isRequest ..) recent few noWrite rfl, justSwept]
  rfl

/-- The answer of the first task is taken for the second one's. -/
theorem crossedPolls_emitted (sameHost : a.netId = b.netId) :
    (((new 0).feedAll [statsRequest a server 350, statsRequest b server 351]).feed
      (statsResponse a server 350)).1 = some (.taskStats 351 0x707 0x707 0x7070707 0x7070707) := by
  have first := feed_statsRequest server (o := .new 0) rfl (show 0 < maxPending by decide) a 350
  simp only [feedAll, List.foldl_cons]
  rw [first, feed_statsRequest server rfl, ← sameHost]
  · -- the second request has taken the place of the first one
    refine (feed_of_response (statsResponse_not_isRequest server a 350) ?_
      (Finmap.lookup_insert _)).trans ?_
    · exact show 0 - 0 < gcInterval by decide
    · have response : ¬(statsResponse a server 350).header.stateFlags &&& 1 = 0 := statsResponse_not_isRequest server a 350
      rw [decodeResponse, if_neg response]
      exact show decodeReadResponse (leBytes 4 0 ++ leBytes 4 16 ++ List.replicate 16 7)
        ⟨adsCmdRead, igRtSystem, ioTaskStats, 16, 351⟩ = _ by decide +kernel
  · exact Nat.lt_of_le_of_lt (HashMap.len_insert_le ∅ _ _) (by decide)

theorem crossedPolls_not_attributes (sameHost : a.netId = b.netId) :
    ¬Attributes 0 (crossedPolls a b server) := by
  intro right
  obtain ⟨req, decoded, -, -, -, port⟩ := right [statsRequest a server 350, statsRequest b server 351]
    (statsResponse a server 350) [] _ rfl (statsResponse_not_isRequest server a 350) (crossedPolls_emitted server sameHost)
    (statsRequest a server 350) List.mem_cons_self (statsResponse_answers server a 350)
  exact absurd port (show ¬(351 : UInt16) = 350 by decide)

end

/-- For any set of clients, every event has the kind and the port of the request that its response
answers, in all their traffic, just when no two of the clients are on one host. -/
theorem attributes_iff_hosts_apart (clients : Set Client) :
    (∀ now frames, Traffic clients frames → Attributes now frames) ↔
      ∀ a ∈ clients, ∀ b ∈ clients, a.netId = b.netId → a = b := by
  constructor
  · intro right a inA b inB sameHost
    by_contra differ
    have traffic := crossedPolls_traffic (.zero 6) inA inB differ
    exact crossedPolls_not_attributes (.zero 6) sameHost (right 0 _ traffic)
  · intro apart now frames traffic
    refine attributes_of_keysApart traffic ?_ now
    intro f inF g inG asksF asksG key
    exact apart _ (traffic.known f inF asksF) _ (traffic.known g inG asksG) (congrArg (·.sourceNetId) key)

/-- Two programs on one engineering host. -/
theorem crossedPolls_sample : Traffic {⟨.zero 6, 40000⟩, ⟨.zero 6, 40001⟩}
      (crossedPolls ⟨.zero 6, 40000⟩ ⟨.zero 6, 40001⟩ ⟨[5, 0, 0, 0, 1, 1], rfl⟩) ∧
    ¬Attributes 0 (crossedPolls ⟨.zero 6, 40000⟩ ⟨.zero 6, 40001⟩ ⟨[5, 0, 0, 0, 1, 1], rfl⟩) :=
  ⟨crossedPolls_traffic _ (.inl rfl) (.inr rfl) (by decide), crossedPolls_not_attributes _ rfl⟩

end TcOtel.Ads.Observer
