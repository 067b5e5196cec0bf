import TcOtel.Ads.ConnectionManager
import TcOtel.Lib.Rate

/-!
# The rate limit for each address

`try_acquire` counts the time stamps that `prune_timestamps` leaves. An address loses its entry
only when the entry has no time stamps, so that what is kept of an address is what was accepted
from it within the last second, whatever happened in between (`recent_timestamps_run`). No second
has more acceptances than the limit then.
-/

namespace TcOtel.ConnectionManager

open Pools Rates

def second : Nat := 1000000000

/-! ### Acceptances -/

/-- The acceptance that an event brings: `try_acquire` passes its checks. The time is the one that
is read under the lock. -/
def acceptedBy (p : Pool ConnectionManager Acquisition) : Event IpAddr Nat Unit → List (IpAddr × Nat)
  | .act i now =>
    match p.threads[i]? with
    | none => []
    | some c => if c.stage = .holding ∧ (p.shared.checkIn c.ip now).2 = none then [(c.ip, now)] else []
  | _ => []

def acceptances (p : Pool ConnectionManager Acquisition) : List (Event IpAddr Nat Unit) → List (IpAddr × Nat)
  | [] => []
  | event :: later => acceptedBy p event ++ acceptances (system.step p event) later

def acceptedFrom (ip : IpAddr) (accepted : List (IpAddr × Nat)) : List Nat :=
  (accepted.filter fun entry => entry.1 = ip).map Prod.snd

def actionTime : Event IpAddr Nat Unit → Option Nat
  | .act _ now => some now
  | _ => none

def Monotone (schedule : List (Event IpAddr Nat Unit)) : Prop :=
  (schedule.filterMap actionTime).Pairwise (· ≤ ·)

instance (schedule : List (Event IpAddr Nat Unit)) : Decidable (Monotone schedule) :=
  inferInstanceAs (Decidable (List.Pairwise _ _))

theorem acceptances_concat (p : Pool ConnectionManager Acquisition) (schedule : List (Event IpAddr Nat Unit))
    (event : Event IpAddr Nat Unit) :
    acceptances p (schedule ++ [event]) = acceptances p schedule ++ acceptedBy (system.run p schedule) event := by
  induction schedule generalizing p with
  | nil => simp [acceptances, System.run]
  | cons first schedule ih => rw [List.cons_append, acceptances, ih, ← List.append_assoc]; rfl

theorem acceptedFrom_append (ip : IpAddr) (accepted later : List (IpAddr × Nat)) :
    acceptedFrom ip (accepted ++ later) = acceptedFrom ip accepted ++ acceptedFrom ip later := by
  rw [acceptedFrom, List.filter_append, List.map_append]
  rfl

/-! ### The time stamps of an address -/

def timestamps (m : ConnectionManager) (ip : IpAddr) : List Nat :=
  ((m.ipStates.lookup ip).getD .new).connectionTimestamps

variable {m m' : ConnectionManager} {c c' : Acquisition} {now : Nat}

theorem timestamps_release (ip other : IpAddr) : (m.release ip).timestamps other = m.timestamps other := by
  rw [timestamps, timestamps, ipStates_release]

theorem timestamps_checkIn_of_ne (differs : other ≠ ip) :
    (m.checkIn ip now).1.timestamps other = m.timestamps other := by
  rw [timestamps, timestamps, checkIn, Finmap.lookup_insert_of_ne _ differs]

theorem timestamps_checkIn_of_passed (passed : (m.checkIn ip now).2 = none) :
    (m.checkIn ip now).1.timestamps ip = recent second now (m.timestamps ip) ++ [now] ∧
      (recent second now (m.timestamps ip)).length < m.config.rateLimitPerSecPerIp.toNat := by
  rw [timestamps, checkIn, Finmap.lookup_insert]
  simp only [checkIn, IpState.checkIn] at passed ⊢
  split at passed
  · cases passed
  next below =>
    split at passed
    · cases passed
    next free =>
      rw [if_neg below, if_neg free]
      exact ⟨rfl, Nat.lt_of_not_le free⟩

theorem timestamps_checkIn_of_refused (refused : (m.checkIn ip now).2 ≠ none) :
    (m.checkIn ip now).1.timestamps ip = m.timestamps ip ∨
      (m.checkIn ip now).1.timestamps ip = recent second now (m.timestamps ip) := by
  rw [timestamps, checkIn, Finmap.lookup_insert]
  simp only [checkIn, IpState.checkIn] at refused ⊢
  split
  · exact .inl rfl
  next below =>
    rw [if_neg below] at refused
    split
    · exact .inr rfl
    next free => exact absurd (by rw [if_neg free]) refused

theorem act_of_holding (holding : c.stage = .holding) :
    ∃ c', m.act c now = some ((m.checkIn c.ip now).1, c') ∧ c'.ip = c.ip ∧
      c'.stage.admitted = decide ((m.checkIn c.ip now).2 = none) := by
  rw [act, holding]
  dsimp only
  split
  all_goals
    next checked =>
    rw [checked]
    exact ⟨_, rfl, rfl, by simp [Stage.admitted]⟩

theorem act_of_not_holding (acted : m.act c now = some (m', c')) (elsewhere : c.stage ≠ .holding) :
    (∀ ip, m'.timestamps ip = m.timestamps ip) ∧ c'.stage.admitted = c.stage.admitted := by
  obtain ⟨own, stage⟩ := c
  cases stage with
  | holding => exact absurd rfl elsewhere
  | entered | notShuttingDown =>
    simp only [act] at acted
    split at acted <;> cases acted <;> exact ⟨fun _ => rfl, rfl⟩
  | dropping =>
    cases acted
    exact ⟨timestamps_release own, rfl⟩
  | refusing | refused | recorded | activated | live | uncounted | inactive =>
    cases acted
    exact ⟨fun _ => rfl, rfl⟩
  | rejected | dropped => cases acted

/-! ### Whole runs -/

theorem step_act_or_checks (p : Pool ConnectionManager Acquisition) (i now : Nat) :
    (system.step p (.act i now) = p ∧ acceptedBy p (.act i now) = []) ∨
    (∃ c m' c', p.threads[i]? = some c ∧ c.stage ≠ .holding ∧ p.shared.act c now = some (m', c') ∧
      system.step p (.act i now) = ⟨m', p.threads.set i c'⟩ ∧ acceptedBy p (.act i now) = []) ∨
    ∃ c c', p.threads[i]? = some c ∧ c.stage = .holding ∧ c'.ip = c.ip ∧
      c'.stage.admitted = decide ((p.shared.checkIn c.ip now).2 = none) ∧
      system.step p (.act i now) = ⟨(p.shared.checkIn c.ip now).1, p.threads.set i c'⟩ ∧
      acceptedBy p (.act i now) = if (p.shared.checkIn c.ip now).2 = none then [(c.ip, now)] else [] := by
  cases present : p.threads[i]? with
  | none => exact .inl ⟨by simp only [System.step, present], by simp only [acceptedBy, present]⟩
  | some c =>
    by_cases holding : c.stage = .holding
    · obtain ⟨c', acted, ip, admitted⟩ := @act_of_holding p.shared c now holding
      refine .inr (.inr ⟨c, c', rfl, holding, ip, admitted, System.step_act present acted, ?_⟩)
      simp [acceptedBy, present, holding]
    · have nothing : acceptedBy p (.act i now) = [] := by
        simp [acceptedBy, present, holding]
      rcases system.act_or_idle p i now with ⟨same, -⟩ | ⟨d, m', c', there, acted, stepped⟩
      · exact .inl ⟨same, nothing⟩
      · rw [present] at there
        cases there
        exact .inr (.inl ⟨c, m', c', rfl, holding, acted, stepped, nothing⟩)

/-- What an event does to the time stamps of an address, next to what it accepts from there. -/
inductive Stamps (limit : Nat) (event : Event IpAddr Nat Unit) (before after accepted : List Nat) : Prop where
  | same (unchanged : after = before) (none : accepted = [])
  | pruned (now : Nat) (time : actionTime event = some now) (recents : after = recent second now before)
    (none : accepted = [])
  | stamped (now : Nat) (time : actionTime event = some now) (added : after = recent second now before ++ [now])
    (one : accepted = [now]) (fewer : (recent second now before).length < limit)

theorem stamps_step (p : Pool ConnectionManager Acquisition) (event : Event IpAddr Nat Unit) (ip : IpAddr) :
    Stamps p.shared.config.rateLimitPerSecPerIp.toNat event (p.shared.timestamps ip)
      ((system.step p event).shared.timestamps ip) (acceptedFrom ip (acceptedBy p event)) := by
  cases event with
  | start | ambient => exact .same rfl rfl
  | act i now =>
    obtain ⟨same, nothing⟩ | ⟨c, m', c', present, elsewhere, acted, stepped, nothing⟩ |
      ⟨c, c', present, holding, -, -, stepped, accepted⟩ := step_act_or_checks p i now
    · rw [same, nothing]
      exact .same rfl rfl
    · rw [stepped, nothing]
      exact .same ((act_of_not_holding acted elsewhere).1 ip) rfl
    · rw [stepped, accepted]
      by_cases own : ip = c.ip
      · subst own
        by_cases passed : (p.shared.checkIn c.ip now).2 = none
        · obtain ⟨added, fewer⟩ := timestamps_checkIn_of_passed passed
          exact .stamped now rfl added (by simp [passed, acceptedFrom]) fewer
        · have nothing : acceptedFrom c.ip (if (p.shared.checkIn c.ip now).2 = none then [(c.ip, now)] else []) = [] := by
            rw [if_neg passed]
            rfl
          rcases timestamps_checkIn_of_refused passed with unchanged | recents
          · exact .same unchanged nothing
          · exact .pruned now rfl recents nothing
      · refine .same (timestamps_checkIn_of_ne own) ?_
        split
        · simp [acceptedFrom, Ne.symm own]
        · rfl

def Until (schedule : List (Event IpAddr Nat Unit)) (now : Nat) : Prop :=
  ∀ t ∈ schedule.filterMap actionTime, t ≤ now

variable {schedule : List (Event IpAddr Nat Unit)}

theorem Monotone.of_concat (monotone : Monotone (schedule ++ [event])) : Monotone schedule := by
  rw [Monotone, List.filterMap_append, List.pairwise_append] at monotone
  exact monotone.1

theorem Monotone.until
    (monotone : Monotone (schedule ++ [event])) (time : actionTime event = some now) : Until schedule now := by
  rw [Monotone, List.filterMap_append, List.pairwise_append] at monotone
  intro t member
  exact monotone.2.2 t member now (by simp [time])

/-- What is kept of an address is what still counts of its acceptances. -/
theorem recent_timestamps_run (config : ConnectionConfig)
    (monotone : Monotone schedule) (ip : IpAddr) (reached : Until schedule now) :
    recent second now ((system.run (start config) schedule).shared.timestamps ip) =
      recent second now (acceptedFrom ip (acceptances (start config) schedule)) := by
  induction schedule using List.reverseRecOn generalizing now with
  | nil => rfl
  | append_singleton schedule event ih =>
    have earlier := monotone.of_concat
    have before : Until schedule now := fun t member => reached t (by simp [member])
    rw [acceptances_concat, acceptedFrom_append, System.run_append, recent_append]
    -- the clock is at the time of the action, if there is one, and at `now` later
    have atAction {t : Nat} (time : actionTime event = some t) : t ≤ now ∧ Until schedule t :=
      ⟨reached t (by simp [time]), monotone.until time⟩
    cases stamps_step (system.run (start config) schedule) event ip with
    | same unchanged none =>
      rw [none]
      exact (congrArg (recent second now) unchanged).trans ((ih earlier before).trans (List.append_nil _).symm)
    | pruned t time recents none =>
      rw [none]
      refine (congrArg (recent second now) recents).trans ?_
      rw [recent_recent (atAction time).1, ih earlier before]
      exact (List.append_nil _).symm
    | stamped t time added one fewer =>
      rw [one]
      refine (congrArg (recent second now) added).trans ?_
      rw [recent_append, recent_recent (atAction time).1, ih earlier before]

theorem config_run (config : ConnectionConfig) (schedule : List (Event IpAddr Nat Unit)) :
    (system.run (start config) schedule).shared.config = config :=
  (Balanced.run config schedule).sameConfig

/-- At each acceptance there were fewer than the limit in the second before. -/
theorem limited_acceptances (config : ConnectionConfig) (monotone : Monotone schedule) (ip : IpAddr) :
    Limited second config.rateLimitPerSecPerIp.toNat (acceptedFrom ip (acceptances (start config) schedule)) := by
  induction schedule using List.reverseRecOn with
  | nil => exact Limited.nil _ _
  | append_singleton schedule event ih =>
    have earlier := monotone.of_concat
    rw [acceptances_concat, acceptedFrom_append]
    cases stamps_step (system.run (start config) schedule) event ip with
    | same _ none | pruned _ _ _ none =>
      rw [none, List.append_nil]
      exact ih earlier
    | stamped t time _ one fewer =>
      rw [one]
      apply (ih earlier).concat
      rw [← recent_timestamps_run config earlier ip (monotone.until time)]
      rw [config_run] at fewer
      exact fewer

/-- In every second at most as many connections from an address are accepted as the limit says,
in every interleaving of attempts, drops and the activity of other addresses. -/
theorem accepted_within_limit (config : ConnectionConfig) (schedule : List (Event IpAddr Nat Unit))
    (monotone : Monotone schedule) (ip : IpAddr) (t : Nat) :
    ((acceptedFrom ip (acceptances (start config) schedule)).filter fun ts => t ≤ ts ∧ ts < t + second).length ≤
      config.rateLimitPerSecPerIp.toNat :=
  (limited_acceptances config monotone ip).length_filter_le t

/-- A manager that accepts one connection a second from each address. -/
def sampleRate : ConnectionConfig := ⟨2, 2, 1⟩

/-- A connection is accepted and dropped, the next attempt comes too early and the one after it in
time. -/
def sampleReconnects : List (Event IpAddr Nat Unit) :=
  [.start sampleIp, .act 0 0, .act 0 0, .act 0 0, .act 0 1, .act 0 1, .act 0 2, .act 0 2, .act 0 2, .act 0 2, .start sampleIp,
    .act 1 3, .act 1 3, .act 1 4, .start sampleIp, .act 2 5, .act 2 5, .act 2 second]

theorem accepted_within_limit_sample :
    Monotone sampleReconnects ∧ acceptedFrom sampleIp (acceptances (start sampleRate) sampleReconnects) = [0, second] ∧
      ((acceptedFrom sampleIp (acceptances (start sampleRate) sampleReconnects)).filter
        fun ts => 0 ≤ ts ∧ ts < 0 + second).length ≤ sampleRate.rateLimitPerSecPerIp.toNat :=
  ⟨by decide +kernel, by decide +kernel, accepted_within_limit sampleRate sampleReconnects (by decide +kernel) sampleIp 0⟩

end TcOtel.ConnectionManager
