import TcOtel.Plc.MetricWindows

/-!
# The frame that waits for the sender

Between `_DoFlush` and `_NotifyFrameSent` the sender reads the pending half of a metric by a
pointer and a length. `Guards` says of an operation that it leaves a waiting frame alone, and
that a frame it queues itself waits when it is done; the operations of a metric are put together
from parts that do both.
-/

namespace TcOtel.Plc

open Decoding Memory Ads.Push Collecting

namespace Metrics

/-- `_GetPendingPtr`: the half, and the offset in it. `none` is a null pointer. -/
def getPendingPtr (fb : Metrics) : Option (Bool × Nat) :=
  if fb.bPending then some (fb.ePendingBuf, hdrReserve - fb.nPendingHdrLen) else none

def getPendingLen (fb : Metrics) : Nat := if fb.bPending then fb.nPendingHdrLen + fb.nPendingBodyLen else 0

/-- The frame of `queued` waits in its half, and samples go to the other one. -/
structure Waiting (queued fb : Metrics) : Prop where
  handed : queued.bPending = true
  pending : fb.bPending = true
  apart : fb.eActiveBuf = !fb.ePendingBuf
  half : fb.ePendingBuf = queued.ePendingBuf
  header : fb.nPendingHdrLen = queued.nPendingHdrLen
  body : fb.nPendingBodyLen = queued.nPendingBodyLen
  frame : fb.frames fb.ePendingBuf = queued.frames queued.ePendingBuf

/-- An operation that leaves a waiting frame alone; what it queues waits behind it. -/
structure Guards (f : Operation Metrics Reading Metrics) : Prop where
  keeps : ∀ {queued fb}, Waiting queued fb → Waiting queued (f fb).1
  queues : ∀ {queued fb}, .deliver queued ∈ (f fb).2 → Waiting queued (f fb).1

namespace Guards

variable {f g : Operation Metrics Reading Metrics}

theorem of_silent {f : Metrics → Metrics} (keeps : ∀ {queued fb}, Waiting queued fb → Waiting queued (f fb)) :
    Guards fun fb => (f fb, []) :=
  ⟨keeps, fun delivered => absurd delivered List.not_mem_nil⟩

theorem andThen (first : Guards f) (second : Guards g) : Guards (andThen f g) where
  keeps waiting := second.keeps (first.keeps waiting)
  queues delivered := by
    rcases List.mem_append.mp delivered with early | late
    · exact second.keeps (first.queues early)
    · exact second.queues late

theorem ite {due : Metrics → Prop} [∀ fb, Decidable (due fb)] (yes : Guards f) (no : Guards g) :
    Guards fun fb => if due fb then f fb else g fb where
  keeps {queued fb} waiting := by
    show Waiting queued (if due fb then f fb else g fb).1
    split
    · exact yes.keeps waiting
    · exact no.keeps waiting
  queues {queued fb} delivered := by
    by_cases now : due fb
    · simp only [if_pos now] at delivered ⊢
      exact yes.queues delivered
    · simp only [if_neg now] at delivered ⊢
      exact no.queues delivered

theorem idle : Guards fun fb => (fb, []) := of_silent id

end Guards

theorem Waiting.writeActive (waiting : Waiting queued fb) (offset : Nat) (src : List UInt8) :
    Waiting queued (fb.writeActive offset src) := by
  refine { waiting with frame := ?_ }
  have other : fb.ePendingBuf ≠ fb.eActiveBuf := by simp [waiting.apart]
  exact (Function.update_of_ne other _ _).trans waiting.frame

theorem guards_doFlush (c : MetricCycle) : Guards (doFlush c) where
  keeps {queued fb} waiting := by
    rw [doFlush, if_pos waiting.pending]
    exact { waiting with }
  queues {queued fb} delivered := by
    unfold doFlush at delivered ⊢
    dsimp only at delivered ⊢
    split at delivered
    · simp at delivered
    split at delivered
    · simp at delivered
    split at delivered
    next enqueued =>
      -- the half that was active is the pending one now
      rw [if_neg ‹_›, if_neg ‹_›, if_pos enqueued]
      obtain rfl := Action.deliver.inj (List.mem_singleton.mp delivered)
      exact ⟨rfl, rfl, rfl, rfl, rfl, rfl, rfl⟩
    · simp at delivered

theorem guards_checkFlush (c : MetricCycle) : Guards (checkFlush c) := by
  have flushes : Guards (flushWindow c) :=
    (Guards.ite (guards_doFlush c) .idle).andThen (.of_silent fun waiting => { waiting with })
  exact .ite .idle (.ite (.of_silent fun waiting => { waiting with }) (.ite .idle flushes))

theorem guards_append (sample : Reading) (payload : List UInt8) : Guards (append sample payload) := by
  refine .ite (.of_silent fun waiting => { waiting with }) ⟨fun waiting => ?_, fun delivered => ?_⟩
  · exact { waiting.writeActive _ _ with }
  · simp at delivered

theorem guards_store (lreal : Lreal) (arg : AnyRef) (c : MetricCycle) : Guards (store lreal arg c) := by
  have aggregated : Guards (appendAggregated lreal c) :=
    ⟨fun waiting => (guards_append ..).keeps waiting, fun delivered => (guards_append ..).queues delivered⟩
  have raw : Guards (appendSample lreal arg c) := by
    constructor
    all_goals
      intro queued fb
      unfold appendSample
      split
    · exact fun waiting => { waiting with }
    · exact fun waiting => (guards_append ..).keeps waiting
    · exact fun delivered => absurd delivered List.not_mem_nil
    · exact fun delivered => (guards_append ..).queues delivered
  have flushes : Guards (autoFlush c) := .ite (guards_doFlush c) .idle
  refine .andThen (.of_silent fun waiting => { waiting with }) (.andThen ?_ ?_)
  · exact .ite (aggregated.andThen (.of_silent fun waiting => { waiting with }))
      (raw.andThen (.of_silent fun waiting => { waiting with }))
  · exact .andThen (.of_silent fun waiting => { waiting with }) (flushes.andThen (guards_checkFlush c))

theorem Waiting.fold (waiting : Waiting queued fb) (lreal : Lreal) (arg : AnyRef) :
    Waiting queued (fb.fold lreal arg) := by
  unfold Metrics.fold aggUpdate
  split
  · split <;> exact { waiting with }
  · exact waiting

theorem Waiting.lockSchema (waiting : Waiting queued fb) (arg : AnyRef) :
    Waiting queued (fb.lockSchema arg).2 := by
  unfold Metrics.lockSchema
  split <;> exact { waiting with }

theorem guards_observeLocked (lreal : Lreal) (arg : AnyRef) (c : MetricCycle) :
    Guards (observeLocked lreal arg c) := by
  have folds : Guards (silent (fold lreal arg)) := .of_silent fun waiting => waiting.fold lreal arg
  refine .ite .idle (.ite folds (.ite (.of_silent fun waiting => { waiting.fold lreal arg with }) ?_))
  exact folds.andThen (guards_store lreal arg c)

theorem guards_observe (lreal : Lreal) (stArg : Option AnyRef) (c : MetricCycle) :
    Guards (observe lreal stArg c) := by
  cases stArg with
  | none => exact .idle
  | some arg =>
    have wrong : Guards (silent wrongType) := .of_silent fun waiting => { waiting with }
    have locks : Guards (silent fun fb => (fb.lockSchema arg).2) := .of_silent fun waiting => waiting.lockSchema arg
    have locked := guards_observeLocked lreal arg c
    exact .ite .idle (.ite wrong (.ite (.ite (locks.andThen locked) (locks.andThen wrong)) (.ite wrong locked)))

theorem guards_operation (lreal : Lreal) {event : Event} (unsent : ∀ bOk, event ≠ .notifyFrameSent bOk) :
    Guards (operation lreal event) := by
  cases event with
  | observe stArg c => exact guards_observe lreal stArg c
  | call c => exact .ite (guards_checkFlush c) .idle
  | flush c => exact .ite (guards_doFlush c) .idle
  | notifyFrameSent bOk => exact absurd rfl (unsent bOk)
  | init | setAggregation | setRecordSampleTimes | setRecordSampleTimesDc | setSampleIntervalMs | setPushIntervalMs
  | setChangeDetect | bindTracer | withSpan => exact .of_silent fun waiting => { waiting with }

/-! ### Runs -/

def run (lreal : Lreal) (fb : Metrics) (events : List Event) : Metrics :=
  events.foldl (fun fb event => (operation lreal event fb).1) fb

theorem Waiting.run (waiting : Waiting queued fb) (lreal : Lreal)
    (unsent : ∀ event ∈ events, ∀ bOk, event ≠ .notifyFrameSent bOk) : Waiting queued (run lreal fb events) := by
  induction events generalizing fb with
  | nil => exact waiting
  | cons event events ih =>
    have first := (guards_operation lreal (unsent event List.mem_cons_self)).keeps waiting
    exact ih first fun later member => unsent later (List.mem_cons_of_mem _ member)

theorem halves_run (lreal : Lreal) (h : Holds fb window) (events : List Event)
    (half : Bool) : ((run lreal fb events).frames half).length = frameSize := by
  induction events generalizing fb window with
  | nil => exact h.halves half
  | cons event events ih => exact ih (operation_preserves lreal event fb window h).2

/-- From the call that queues a frame until the sender has notified the metric, whatever is done
with the metric: the pointer, the length and the bytes of the frame are those that were queued,
and the active half is the other one, out of which nothing is written. -/
theorem queued_frame_unchanged (lreal : Lreal) (sLogger : PlcString) (before later : List Event) (event : Event)
    (queued : Metrics) (delivers : .deliver queued ∈ (operation lreal event (run lreal (initial sLogger) before)).2)
    (unsent : ∀ event ∈ later, ∀ bOk, event ≠ .notifyFrameSent bOk) :
    let fb := run lreal (initial sLogger) (before ++ event :: later)
    fb.getPendingPtr = queued.getPendingPtr ∧ fb.getPendingLen = queued.getPendingLen ∧
      fb.pendingBytes = queued.pendingBytes ∧ fb.eActiveBuf ≠ fb.ePendingBuf ∧
      ∀ half, (fb.frames half).length = frameSize := by
  intro fb
  have callee : ∀ bOk, event ≠ .notifyFrameSent bOk := by
    rintro bOk rfl
    cases delivers
  have whole : fb = run lreal (operation lreal event (run lreal (initial sLogger) before)).1 later := List.foldl_append
  have waiting : Waiting queued fb := whole ▸ ((guards_operation lreal callee).queues delivers).run lreal unsent
  refine ⟨?_, ?_, ?_, ?_, halves_run lreal (holds_initial sLogger) _⟩
  · rw [getPendingPtr, getPendingPtr, waiting.pending, waiting.handed, waiting.half, waiting.header]
  · rw [getPendingLen, getPendingLen, waiting.pending, waiting.handed, waiting.header, waiting.body]
  · rw [pendingBytes, pendingBytes, waiting.frame, waiting.header, waiting.body]
  · simp [waiting.apart]

theorem deliver_mem_flush (lreal : Lreal)
    (due : (fb.bInitialized && decide (fb.nSampleCount > 0)) = true) (free : ¬fb.bPending = true)
    (short : ¬(fb.frame c).head.length > hdrReserve) (enqueued : c.enqueued = true) :
    .deliver (fb.swapHalves (fb.frame c).head) ∈ (operation lreal (.flush c) fb).2 := by
  rw [operation, flush, if_pos due, doFlush, if_neg free, if_neg short, if_pos enqueued]
  exact List.mem_singleton_self _

/-- One sample and a flush, and the same calls again while the frame waits. -/
theorem queued_frame_unchanged_sampleEvents : ∃ queued : Metrics, queued.bPending = true ∧
      (run sampleLreal (initial .empty) (sampleEvents [] ++ sampleEvents [])).pendingBytes = queued.pendingBytes := by
  have kept := queued_frame_unchanged sampleLreal .empty ((sampleEvents []).take 2) (sampleEvents []) (.flush sampleCycle) _
    (deliver_mem_flush _ (by decide +kernel) (by decide +kernel) (by decide +kernel) rfl) (by simp [sampleEvents])
  exact ⟨_, rfl, kept.2.2.1⟩

end Metrics

end TcOtel.Plc
