import TcOtel.Core.Models
import TcOtel.Lib.Bytes
import TcOtel.Lib.Pool

/-!
# Connection limits

`ConnectionManager` of `connection_manager.rs`: the semaphore over all connections, the counts
for each IP address and the counters. Calls of `try_acquire` and drops of permits run at the same
time, so each is a thread that takes the atomic actions of the source one by one. After every
action the counts are sums over the calls (`Balanced`), and while no call is in progress these
sums are the live permits.
-/

namespace TcOtel

open Decoding Pools

inductive IpAddr where
  | v4 (octets : Bytes 4)
  | v6 (octets : Bytes 16)
deriving DecidableEq

structure ConnectionConfig where
  maxConnections : UInt64
  maxConnectionsPerIp : UInt64
  rateLimitPerSecPerIp : UInt64
deriving DecidableEq

inductive ConnectionRejection where
  | maxConnectionsReached
  | perIpLimitReached (ip : IpAddr) (current : Nat)
  | rateLimitExceeded (ip : IpAddr)
  | shuttingDown
deriving DecidableEq

/-- Time stamps are in nanoseconds of the monotonic clock. -/
structure IpState where
  activeConnections : Nat
  connectionTimestamps : List Nat
deriving DecidableEq

def IpState.new : IpState := ⟨0, []⟩

def IpState.pruneTimestamps (state : IpState) (now : Nat) : IpState :=
  { state with connectionTimestamps := state.connectionTimestamps.filter fun ts => now - ts < 1000000000 }

/-- The checks of `try_acquire` for the address, and the state they leave. -/
def IpState.checkIn (config : ConnectionConfig) (ip : IpAddr) (now : Nat) (state : IpState) :
    IpState × Option ConnectionRejection :=
  if config.maxConnectionsPerIp.toNat ≤ state.activeConnections then
    (state, some (.perIpLimitReached ip state.activeConnections))
  else if config.rateLimitPerSecPerIp.toNat ≤ (state.pruneTimestamps now).connectionTimestamps.length then
    (state.pruneTimestamps now, some (.rateLimitExceeded ip))
  else
    (⟨state.activeConnections + 1, (state.pruneTimestamps now).connectionTimestamps ++ [now]⟩, none)

/-- What the calls share. `available` is the number of permits that the semaphore has left. -/
structure ConnectionManager where
  config : ConnectionConfig
  available : Nat
  ipStates : HashMap IpAddr IpState
  activeCount : UInt64
  shuttingDown : Bool
  totalAccepted : UInt64
  totalRejected : UInt64

/-- How far a call of `try_acquire`, and later the drop of its permit, has come. -/
inductive Stage where
  | entered
  | notShuttingDown
  | holding
  | refusing (reason : ConnectionRejection)
  | refused (reason : ConnectionRejection)
  | rejected (reason : ConnectionRejection)
  | recorded
  | activated
  | live
  | dropping
  | uncounted
  | inactive
  | dropped
deriving DecidableEq

structure Acquisition where
  ip : IpAddr
  stage : Stage
deriving DecidableEq

namespace ConnectionManager

def new (config : ConnectionConfig) : ConnectionManager where
  config := config
  available := config.maxConnections.toNat
  ipStates := ∅
  activeCount := 0
  shuttingDown := false
  totalAccepted := 0
  totalRejected := 0

def connectionsForIp (m : ConnectionManager) (ip : IpAddr) : Nat :=
  (m.ipStates.lookup ip).elim 0 (·.activeConnections)

/-- The block of `try_acquire` under the lock of the states. -/
def checkIn (m : ConnectionManager) (ip : IpAddr) (now : Nat) : ConnectionManager × Option ConnectionRejection :=
  let checked := ((m.ipStates.lookup ip).getD .new).checkIn m.config ip now
  ({ m with ipStates := m.ipStates.insert ip checked.1 }, checked.2)

/-- The block of `ConnectionPermit::drop` under the lock of the states. -/
def release (m : ConnectionManager) (ip : IpAddr) : ConnectionManager :=
  match m.ipStates.lookup ip with
  | none => m
  | some state =>
    if state.activeConnections - 1 = 0 ∧ state.connectionTimestamps = [] then
      { m with ipStates := m.ipStates.erase ip }
    else
      { m with ipStates := m.ipStates.insert ip { state with activeConnections := state.activeConnections - 1 } }

/-- The next atomic action of a call. The source keeps the lock of the states until a rejection has
been counted; here others may come between, which only adds interleavings. -/
def act (m : ConnectionManager) (call : Acquisition) (now : Nat) : Option (ConnectionManager × Acquisition) :=
  match call.stage with
  | .entered =>
    if m.shuttingDown then some (m, ⟨call.ip, .refused .shuttingDown⟩) else some (m, ⟨call.ip, .notShuttingDown⟩)
  | .notShuttingDown =>
    -- nothing closes the semaphore, so that a refusal always means that it has no permit left
    if m.available = 0 then some (m, ⟨call.ip, .refused .maxConnectionsReached⟩)
    else some ({ m with available := m.available - 1 }, ⟨call.ip, .holding⟩)
  | .holding =>
    match m.checkIn call.ip now with
    | (m', none) => some (m', ⟨call.ip, .recorded⟩)
    | (m', some reason) => some (m', ⟨call.ip, .refusing reason⟩)
  | .refusing reason => some ({ m with available := m.available + 1 }, ⟨call.ip, .refused reason⟩)
  | .refused reason => some ({ m with totalRejected := m.totalRejected + 1 }, ⟨call.ip, .rejected reason⟩)
  | .recorded => some ({ m with activeCount := m.activeCount + 1 }, ⟨call.ip, .activated⟩)
  | .activated => some ({ m with totalAccepted := m.totalAccepted + 1 }, ⟨call.ip, .live⟩)
  | .live => some (m, ⟨call.ip, .dropping⟩)
  | .dropping => some (m.release call.ip, ⟨call.ip, .uncounted⟩)
  | .uncounted => some ({ m with activeCount := m.activeCount - 1 }, ⟨call.ip, .inactive⟩)
  -- the permit of the semaphore is a field of the connection's, which is dropped after it
  | .inactive => some ({ m with available := m.available + 1 }, ⟨call.ip, .dropped⟩)
  | .rejected _ | .dropped => none

def shutdown (m : ConnectionManager) : ConnectionManager := { m with shuttingDown := true }

/-- Calls of `try_acquire` for an address, their actions at any time, and `shutdown`. -/
def system : System ConnectionManager Acquisition IpAddr Nat Unit where
  fresh ip := ⟨ip, .entered⟩
  act _ := act
  ambient m _ := m.shutdown

def start (config : ConnectionConfig) : Pool ConnectionManager Acquisition := ⟨new config, []⟩

end ConnectionManager

/-! ### What a call holds -/

namespace Stage

/-- A permit of the semaphore. -/
def holdsPermit : Stage → Bool
  | .holding | .refusing _ | .recorded | .activated | .live | .dropping | .uncounted | .inactive => true
  | _ => false

/-- A place in the count of its address. -/
def countedForIp : Stage → Bool
  | .recorded | .activated | .live | .dropping => true
  | _ => false

/-- A place in the count of all connections. -/
def countedActive : Stage → Bool
  | .activated | .live | .dropping | .uncounted => true
  | _ => false

/-- A place in the number of accepted or of rejected attempts. -/
def settled : Stage → Bool
  | .rejected _ | .live | .dropping | .uncounted | .inactive | .dropped => true
  | _ => false

/-- Neither `try_acquire` nor the drop of the permit is running. -/
def idle : Stage → Bool
  | .rejected _ | .live | .dropped => true
  | _ => false

/-- The checks are passed: the call is accepted, or will be. -/
def admitted : Stage → Bool
  | .recorded | .activated | .live | .dropping | .uncounted | .inactive | .dropped => true
  | _ => false

end Stage

namespace Acquisition

def permits (c : Acquisition) : Nat := c.stage.holdsPermit.toNat

def countFor (ip : IpAddr) (c : Acquisition) : Nat := if c.ip = ip then c.stage.countedForIp.toNat else 0

def activeConnections (c : Acquisition) : Nat := c.stage.countedActive.toNat

def attempts (c : Acquisition) : Nat := c.stage.settled.toNat

end Acquisition

namespace ConnectionManager

variable {m m' : ConnectionManager} {c c' : Acquisition} {now : Nat}

/-! ### One action -/

/-- All that an action does to what is shared: each number changes by what the call holds. -/
structure Effect (m : ConnectionManager) (c : Acquisition) (m' : ConnectionManager) (c' : Acquisition) : Prop where
  ip : c'.ip = c.ip
  config : m'.config = m.config
  available : m'.available + c'.permits = m.available + c.permits
  counts : c.countFor c.ip ≤ m.connectionsForIp c.ip → ∀ ip,
    m'.connectionsForIp ip + c.countFor ip = m.connectionsForIp ip + c'.countFor ip
  limit : ∀ ip, m'.connectionsForIp ip ≤ max (m.connectionsForIp ip) m.config.maxConnectionsPerIp.toNat
  activeCount : m'.activeCount + UInt64.ofNat c.activeConnections = m.activeCount + UInt64.ofNat c'.activeConnections
  totals : m'.totalAccepted + m'.totalRejected + UInt64.ofNat c.attempts =
    m.totalAccepted + m.totalRejected + UInt64.ofNat c'.attempts

theorem connectionsForIp_eq : m.connectionsForIp ip = ((m.ipStates.lookup ip).getD .new).activeConnections := by
  rw [connectionsForIp]
  cases m.ipStates.lookup ip <;> rfl

theorem connectionsForIp_checkIn (ip other : IpAddr) : (m.checkIn ip now).1.connectionsForIp other =
      m.connectionsForIp other + if other = ip ∧ (m.checkIn ip now).2 = none then 1 else 0 := by
  rw [connectionsForIp_eq, connectionsForIp_eq]
  by_cases same : other = ip
  · subst same
    simp only [checkIn, Finmap.lookup_insert, Option.getD_some, IpState.checkIn]
    split
    · rfl
    · split <;> rfl
  · simp [same, checkIn]

theorem checkIn_within_limit (passed : (m.checkIn ip now).2 = none) :
    m.connectionsForIp ip < m.config.maxConnectionsPerIp.toNat := by
  simp only [checkIn, IpState.checkIn] at passed
  rw [connectionsForIp_eq]
  split at passed
  · cases passed
  next below => exact Nat.lt_of_not_le below

/-- Only an entry without time stamps is removed, which is as good as none. -/
theorem ipStates_release (ip other : IpAddr) : ((m.release ip).ipStates.lookup other).getD .new =
      ⟨((m.ipStates.lookup other).getD .new).activeConnections - if other = ip then 1 else 0,
        ((m.ipStates.lookup other).getD .new).connectionTimestamps⟩ := by
  unfold release
  by_cases same : other = ip
  · subst same
    cases known : m.ipStates.lookup other with
    | none => simp [known, IpState.new]
    | some state =>
      dsimp only
      split
      next last => simp [last, IpState.new]
      · simp
  · split
    · simp [same]
    · split <;> simp [same]

theorem connectionsForIp_release (ip other : IpAddr) :
    (m.release ip).connectionsForIp other = m.connectionsForIp other - if other = ip then 1 else 0 := by
  rw [connectionsForIp_eq, connectionsForIp_eq, ipStates_release]

theorem Effect.of_sameStates (states : m'.ipStates = m.ipStates) (ip : c'.ip = c.ip)
    (counted : c'.stage.countedForIp = c.stage.countedForIp) (config : m'.config = m.config)
    (available : m'.available + c'.permits = m.available + c.permits)
    (activeCount : m'.activeCount + UInt64.ofNat c.activeConnections = m.activeCount + UInt64.ofNat c'.activeConnections)
    (totals : m'.totalAccepted + m'.totalRejected + UInt64.ofNat c.attempts =
      m.totalAccepted + m.totalRejected + UInt64.ofNat c'.attempts) : Effect m c m' c' := by
  have same : ∀ other, m'.connectionsForIp other = m.connectionsForIp other := by
    intro other
    rw [connectionsForIp, connectionsForIp, states]
  refine ⟨ip, config, available, ?_, ?_, activeCount, totals⟩
  · intro _ other
    rw [same, Acquisition.countFor, Acquisition.countFor, ip, counted]
  · intro other
    rw [same]
    exact Nat.le_max_left _ _

theorem Effect.of_checkIn (holding : c.stage = .holding) : Effect m c (m.checkIn c.ip now).1
      ⟨c.ip, match (m.checkIn c.ip now).2 with | none => .recorded | some reason => .refusing reason⟩ := by
  obtain ⟨ip, stage⟩ := c
  subst holding
  refine ⟨rfl, rfl, ?_, ?_, ?_, ?_, ?_⟩
  · cases (m.checkIn ip now).2 <;> rfl
  · intro _ other
    rw [connectionsForIp_checkIn]
    cases passed : (m.checkIn ip now).2 with
    | none => simp [Acquisition.countFor, Stage.countedForIp, eq_comm]
    | some reason => simp [Acquisition.countFor, Stage.countedForIp]
  · intro other
    rw [connectionsForIp_checkIn]
    split
    next both =>
      rw [both.1]
      exact Nat.le_trans (checkIn_within_limit both.2) (Nat.le_max_right _ _)
    next => exact Nat.le_max_left _ _
  · cases (m.checkIn ip now).2 <;> rfl
  · cases (m.checkIn ip now).2 <;> rfl

theorem Effect.of_release (dropping : c.stage = .dropping) : Effect m c (m.release c.ip) ⟨c.ip, .uncounted⟩ := by
  obtain ⟨ip, stage⟩ := c
  subst dropping
  have counts := @connectionsForIp_release m ip
  -- apart from the states of the addresses nothing changes
  obtain ⟨states, released⟩ : ∃ states, m.release ip = { m with ipStates := states } := by
    unfold release
    split
    · exact ⟨_, rfl⟩
    · split <;> exact ⟨_, rfl⟩
  rw [released] at counts ⊢
  refine ⟨rfl, rfl, rfl, ?_, ?_, rfl, rfl⟩
  · intro present other
    rw [counts]
    -- the dropped connection is in the count, which therefore is not zero
    by_cases same : other = ip
    · subst same
      simp only [Acquisition.countFor, Stage.countedForIp, if_true, Bool.toNat_true, Bool.toNat_false] at present ⊢
      omega
    · have differs : ¬ip = other := fun equal => same equal.symm
      simp [Acquisition.countFor, same, differs]
  · intro other
    rw [counts]
    exact Nat.le_trans (Nat.sub_le _ _) (Nat.le_max_left _ _)

theorem act_effect (acted : m.act c now = some (m', c')) : Effect m c m' c' := by
  obtain ⟨ip, stage⟩ := c
  cases stage with
  | entered =>
    simp only [act] at acted
    split at acted <;> cases acted <;> exact .of_sameStates rfl rfl rfl rfl rfl rfl rfl
  | notShuttingDown =>
    simp only [act] at acted
    split at acted
    · cases acted
      exact .of_sameStates rfl rfl rfl rfl rfl rfl rfl
    next some =>
      cases acted
      refine .of_sameStates rfl rfl rfl rfl ?_ rfl rfl
      simp only [Acquisition.permits, Stage.holdsPermit, Bool.toNat_true, Bool.toNat_false]
      omega
  | holding =>
    have effect := @Effect.of_checkIn m ⟨ip, .holding⟩ now rfl
    simp only [act] at acted
    split at acted
    all_goals
      next admitted =>
      cases acted
      rw [admitted] at effect
      exact effect
  | refusing reason | inactive =>
    cases acted
    exact .of_sameStates rfl rfl rfl rfl rfl rfl rfl
  | refused reason =>
    cases acted
    refine .of_sameStates rfl rfl rfl rfl rfl rfl ?_
    simp [Acquisition.attempts, Stage.settled, UInt64.add_assoc]
  | recorded =>
    cases acted
    exact .of_sameStates rfl rfl rfl rfl rfl (by simp [Acquisition.activeConnections, Stage.countedActive]) rfl
  | activated =>
    cases acted
    refine .of_sameStates rfl rfl rfl rfl rfl rfl ?_
    rw [UInt64.add_assoc m.totalAccepted 1, UInt64.add_comm 1, ← UInt64.add_assoc]
    exact UInt64.add_zero _
  | live =>
    cases acted
    exact .of_sameStates rfl rfl rfl rfl rfl rfl rfl
  | dropping =>
    cases acted
    exact .of_release rfl
  | uncounted =>
    cases acted
    exact .of_sameStates rfl rfl rfl rfl rfl (by simp [Acquisition.activeConnections, Stage.countedActive]) rfl
  | rejected | dropped => cases acted

/-! ### Whole runs -/

/-- Every number is the sum of what the calls hold. -/
structure Balanced (config : ConnectionConfig) (p : Pool ConnectionManager Acquisition) : Prop where
  sameConfig : p.shared.config = config
  permits : p.shared.available + weight Acquisition.permits p.threads = config.maxConnections.toNat
  counts : ∀ ip, p.shared.connectionsForIp ip = weight (Acquisition.countFor ip) p.threads
  limit : ∀ ip, p.shared.connectionsForIp ip ≤ config.maxConnectionsPerIp.toNat
  activeCount : p.shared.activeCount = UInt64.ofNat (weight Acquisition.activeConnections p.threads)
  totals : p.shared.totalAccepted + p.shared.totalRejected = UInt64.ofNat (weight Acquisition.attempts p.threads)

theorem Balanced.initial (config : ConnectionConfig) : Balanced config (start config) where
  sameConfig := rfl
  permits := rfl
  counts _ := rfl
  limit _ := Nat.zero_le _
  activeCount := rfl
  totals := rfl

variable {p : Pool ConnectionManager Acquisition}

theorem Balanced.enter {config : ConnectionConfig} (balanced : Balanced config p)
    (ip : IpAddr) : Balanced config ⟨p.shared, p.threads ++ [⟨ip, .entered⟩]⟩ where
  sameConfig := balanced.sameConfig
  permits := by rw [weight_start]; exact balanced.permits
  counts other := by
    have nothing : Acquisition.countFor other ⟨ip, .entered⟩ = 0 := ite_self _
    rw [weight_start, nothing]
    exact balanced.counts other
  limit := balanced.limit
  activeCount := by rw [weight_start]; exact balanced.activeCount
  totals := by rw [weight_start]; exact balanced.totals

/-- A shared counter that follows a measure of one call follows its sum over all calls. -/
theorem counter_follows (present : threads[i]? = some c) (before : counter = UInt64.ofNat (weight f threads))
    (changed : counter' + UInt64.ofNat (f c) = counter + UInt64.ofNat (f c')) :
    counter' = UInt64.ofNat (weight f (threads.set i c')) := by
  have sums := congrArg UInt64.ofNat (weight_set f present c')
  rw [UInt64.ofNat_add, UInt64.ofNat_add, ← before, ← changed] at sums
  exact (UInt64.add_left_inj _).mp sums.symm

theorem Balanced.act {config : ConnectionConfig} (balanced : Balanced config p)
    (present : p.threads[i]? = some c) (effect : Effect p.shared c m' c') :
    Balanced config ⟨m', p.threads.set i c'⟩ where
  sameConfig := effect.config.trans balanced.sameConfig
  permits := by
    have sum := weight_set Acquisition.permits present c'
    have held := effect.available
    have before := balanced.permits
    dsimp only at before ⊢
    omega
  counts ip := by
    have inCount : c.countFor c.ip ≤ p.shared.connectionsForIp c.ip := by
      rw [balanced.counts]
      exact le_weight _ (List.mem_of_getElem? present)
    have sum := weight_set (Acquisition.countFor ip) present c'
    have change := effect.counts inCount ip
    have before := balanced.counts ip
    dsimp only at before ⊢
    omega
  limit ip := by
    have before := balanced.limit ip
    have change := effect.limit ip
    rw [balanced.sameConfig] at change
    exact Nat.le_trans change (Nat.max_le.mpr ⟨before, Nat.le_refl _⟩)
  activeCount := counter_follows present balanced.activeCount effect.activeCount
  totals := counter_follows present balanced.totals effect.totals

theorem Balanced.run (config : ConnectionConfig) (schedule : List (Event IpAddr Nat Unit)) :
    Balanced config (system.run (start config) schedule) := by
  refine System.run_invariant (Balanced config) ?_ ?_ ?_ (.initial config) schedule
  · intro p ip balanced
    exact balanced.enter ip
  · intro p i c now m' c' balanced present acted
    exact balanced.act present (act_effect acted)
  · intro p event balanced
    exact ⟨balanced.sameConfig, balanced.permits, balanced.counts, balanced.limit, balanced.activeCount, balanced.totals⟩

/-! ### While no call is in progress -/

def livePermits (p : Pool ConnectionManager Acquisition) : Nat := p.threads.countP (·.stage = .live)

def connectionsOfAllIps (m : ConnectionManager) : Nat := ∑ ip ∈ m.ipStates.keys, m.connectionsForIp ip

/-- Neither `try_acquire` nor a drop is running. -/
def Quiet (p : Pool ConnectionManager Acquisition) : Prop := ∀ c ∈ p.threads, c.stage.idle = true
deriving Decidable

section

variable {config : ConnectionConfig} {p : Pool ConnectionManager Acquisition}

theorem Quiet.weight_activeConnections (quiet : Quiet p) : weight Acquisition.activeConnections p.threads = livePermits p := by
  rw [livePermits, ← weight_toNat]
  apply weight_congr
  rintro ⟨ip, stage⟩ member
  have idle := quiet _ member
  cases stage <;> simp_all [Acquisition.activeConnections, Stage.countedActive, Stage.idle]

theorem Quiet.weight_attempts (quiet : Quiet p) : weight Acquisition.attempts p.threads = p.threads.length := by
  apply weight_one
  rintro ⟨ip, stage⟩ member
  have idle := quiet _ member
  cases stage <;> simp_all [Acquisition.attempts, Stage.settled, Stage.idle]

theorem Balanced.active_le (balanced : Balanced config p) :
    weight Acquisition.activeConnections p.threads ≤ config.maxConnections.toNat := by
  have held : weight Acquisition.activeConnections p.threads ≤ weight Acquisition.permits p.threads := by
    apply weight_le_weight
    rintro ⟨ip, stage⟩ -
    cases stage <;> simp [Acquisition.activeConnections, Acquisition.permits, Stage.countedActive, Stage.holdsPermit]
  have total := balanced.permits
  omega

theorem Balanced.activeCount_toNat (balanced : Balanced config p) :
    p.shared.activeCount.toNat = weight Acquisition.activeConnections p.threads := by
  have bound := balanced.active_le
  have fits := config.maxConnections.toNat_lt
  rw [balanced.activeCount, UInt64.toNat_ofNat', Nat.mod_eq_of_lt (by omega)]

/-- Every counted connection is counted for its own address only. -/
theorem Balanced.connectionsOfAllIps_eq (balanced : Balanced config p) :
    p.shared.connectionsOfAllIps = weight (fun c => c.stage.countedForIp.toNat) p.threads := by
  rw [connectionsOfAllIps, Finset.sum_congr rfl fun ip _ => balanced.counts ip, sum_weight]
  apply weight_congr
  intro c member
  simp only [Acquisition.countFor, Finset.sum_ite_eq]
  split
  next => rfl
  next absent =>
    -- an address without an entry has no connections
    have zero : p.shared.connectionsForIp c.ip = 0 := by
      rw [connectionsForIp, Finmap.lookup_eq_none.mpr (fun present => absent (Finmap.mem_keys.mpr present))]
      rfl
    have counted := le_weight (Acquisition.countFor c.ip) member
    rw [← balanced.counts, Acquisition.countFor, if_pos rfl] at counted
    omega

theorem Quiet.weight_countedForIp (quiet : Quiet p) :
    weight (fun c => c.stage.countedForIp.toNat) p.threads = livePermits p := by
  rw [livePermits, ← weight_toNat]
  apply weight_congr
  rintro ⟨ip, stage⟩ member
  have idle := quiet _ member
  cases stage <;> simp_all [Stage.countedForIp, Stage.idle]

end

/-! ### Rejected attempts -/

def SameCounts (p p' : Pool ConnectionManager Acquisition) : Prop :=
  p'.shared.activeCount = p.shared.activeCount ∧ (∀ ip, p'.shared.connectionsForIp ip = p.shared.connectionsForIp ip) ∧
    livePermits p' = livePermits p

theorem admitted_act (admitted : c.stage.admitted = true) (acted : m.act c now = some (m', c')) :
    c'.stage.admitted = true := by
  obtain ⟨ip, stage⟩ := c
  cases stage with
  | recorded | activated | live | dropping | uncounted | inactive =>
    cases acted
    rfl
  | entered | notShuttingDown | holding | refusing | refused | rejected => cases admitted
  | dropped => cases acted

theorem uncounted_of_not_admitted (refused : c.stage.admitted = false) :
    c.activeConnections = 0 ∧ ∀ ip, c.countFor ip = 0 := by
  obtain ⟨ip, stage⟩ := c
  cases stage with
  | entered | notShuttingDown | holding | refusing | refused | rejected => exact ⟨rfl, fun _ => ite_self _⟩
  | recorded | activated | live | dropping | uncounted | inactive | dropped => cases refused

theorem counts_of_not_admitted (acted : m.act c now = some (m', c')) (before : c.stage.admitted = false)
    (refused : c'.stage.admitted = false) :
    m'.activeCount = m.activeCount ∧ ∀ ip, m'.connectionsForIp ip = m.connectionsForIp ip := by
  have effect := act_effect acted
  obtain ⟨active, counts⟩ := uncounted_of_not_admitted before
  obtain ⟨active', counts'⟩ := uncounted_of_not_admitted refused
  constructor
  · have changed := effect.activeCount
    rw [active, active'] at changed
    exact (UInt64.add_left_inj _).mp changed
  · intro ip
    have changed := effect.counts (by rw [counts]; exact Nat.zero_le _) ip
    rwa [counts, counts'] at changed

/-- A call that is rejected in the end changes no count with any of its actions. -/
theorem sameCounts_of_rejected 
    (rejected : (system.run p (.act i now :: later)).threads[i]? = some ⟨ip, .rejected reason⟩) :
    SameCounts p (system.step p (.act i now)) := by
  rcases system.act_or_idle p i now with ⟨same, -⟩ | ⟨c, m', c', present, acted, stepped⟩
  · rw [same]
    exact ⟨rfl, fun _ => rfl, rfl⟩
  -- were the checks passed now, they would still be passed at the end
  have there : (system.step p (.act i now)).threads[i]? = some c' := by
    rw [stepped]
    exact List.getElem?_set_self (List.getElem?_eq_some_iff.mp present).1
  have refused : c'.stage.admitted = false := by
    by_contra passed
    obtain ⟨final, atEnd, kept⟩ := System.run_stable system (fun c => c.stage.admitted = true)
      (fun _ _ _ _ _ _ admitted acted => admitted_act admitted acted) there (Bool.not_eq_false _ ▸ passed) later
    rw [System.run_cons, atEnd] at rejected
    cases rejected
    cases kept
  have before : c.stage.admitted = false := by
    by_contra passed
    rw [admitted_act (Bool.not_eq_false _ ▸ passed) acted] at refused
    cases refused
  obtain ⟨active, counts⟩ := counts_of_not_admitted acted before refused
  rw [stepped]
  refine ⟨active, counts, ?_⟩
  -- nor was the permit live before or after
  have notLive : c'.stage ≠ .live := fun live => by rw [live] at refused; cases refused
  have wasNotLive : c.stage ≠ .live := fun live => by rw [live] at before; cases before
  have sum := weight_set (fun c : Acquisition => (decide (c.stage = .live)).toNat) present c'
  simp only [weight_toNat, notLive, wasNotLive] at sum
  exact sum

/-- The active count is the sum of the counts for each address and the number of live permits,
both limits are kept, and every attempt has been counted as accepted or as rejected. -/
structure Consistent (config : ConnectionConfig) (p : Pool ConnectionManager Acquisition) : Prop where
  sumOfIps : p.shared.activeCount.toNat = p.shared.connectionsOfAllIps
  permits : p.shared.activeCount.toNat = livePermits p
  maximum : p.shared.activeCount.toNat ≤ config.maxConnections.toNat
  perIp : ∀ ip, p.shared.connectionsForIp ip ≤ config.maxConnectionsPerIp.toNat
  attempts : p.shared.totalAccepted + p.shared.totalRejected = UInt64.ofNat p.threads.length

/-- In every interleaving the counts are consistent while no call is in progress, and an attempt
that is rejected changes none of them. -/
theorem connections_consistent (config : ConnectionConfig) (schedule : List (Event IpAddr Nat Unit)) :
    (Quiet (system.run (start config) schedule) → Consistent config (system.run (start config) schedule)) ∧
    ∀ before i now later ip reason, schedule = before ++ .act i now :: later →
      (system.run (start config) schedule).threads[i]? = some ⟨ip, .rejected reason⟩ →
      SameCounts (system.run (start config) before) (system.run (start config) (before ++ [.act i now])) := by
  constructor
  · intro quiet
    have balanced := Balanced.run config schedule
    constructor
    · rw [balanced.activeCount_toNat, balanced.connectionsOfAllIps_eq, quiet.weight_activeConnections,
        quiet.weight_countedForIp]
    · rw [balanced.activeCount_toNat, quiet.weight_activeConnections]
    · rw [balanced.activeCount_toNat]
      exact balanced.active_le
    · exact balanced.limit
    · rw [balanced.totals, quiet.weight_attempts]
  · rintro before i now later ip reason rfl rejected
    rw [System.run_append] at rejected ⊢
    exact sameCounts_of_rejected rejected

def sampleLimits : ConnectionConfig := ⟨2, 1, 10⟩

def sampleIp : IpAddr := .v4 ⟨[10, 0, 0, 1], rfl⟩

/-- Two attempts from one address: the second one comes while the first is being counted. -/
def sampleSchedule : List (Event IpAddr Nat Unit) :=
  [.start sampleIp, .act 0 0, .act 0 0, .act 0 0, .start sampleIp, .act 1 5, .act 1 5, .act 1 5, .act 0 7, .act 1 7,
    .act 1 7, .act 0 8]

theorem connections_consistent_sample :
    Consistent sampleLimits (system.run (start sampleLimits) sampleSchedule) ∧
      SameCounts (system.run (start sampleLimits) (sampleSchedule.take 7))
        (system.run (start sampleLimits) (sampleSchedule.take 8)) :=
  ⟨(connections_consistent sampleLimits sampleSchedule).1 (by decide +kernel),
    (connections_consistent sampleLimits sampleSchedule).2 (sampleSchedule.take 7) 1 5 (sampleSchedule.drop 8) sampleIp
      (.perIpLimitReached sampleIp 1) rfl (by decide +kernel)⟩

end ConnectionManager

end TcOtel
