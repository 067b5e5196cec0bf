import TcOtel.Ads.Router
import TcOtel.Service.SpanIndex

/-!
# Trace ids for logs

The task of `service.rs` between the router and the log dispatcher: a log that comes without trace
ids gets those of the span that `current_context` finds for its task. That is the pending span that
started last; of several that started at the same time it is the first in the order of iteration,
which may be any (`currentIds_eq_iff`).
-/

namespace TcOtel

/-- Dates are compared by their seconds, then by what is left of the second. -/
instance : LinearOrder DateTime :=
  @LinearOrder.lift' DateTime (ℤ ×ₗ ℕ) (Prod.Lex.instLinearOrder ℤ ℕ) (fun t => toLex (t.secs, t.nanos)) fun
    | ⟨_, _⟩, ⟨_, _⟩, rfl => rfl

namespace Service

open Decoding Ads

abbrev Ids := Bytes 16 × Bytes 8

def noIds : Ids := (Bytes.zero 16, Bytes.zero 8)

def PendingSpan.ids (p : PendingSpan) : Ids := (p.traceId, p.spanId)

namespace SpanDispatcher

def spansOf (tick : Tick) (d : SpanDispatcher) (netId : AmsNetId) (taskIndex : UInt8) : List PendingSpan :=
  ((d.iter tick).filter fun entry => entry.1.amsNetId = netId ∧ entry.2.taskIndex = taskIndex).map Prod.snd

/-- `current_context`: the span with the highest start time. A later one replaces the best one so
far only when it started later. -/
def currentContext (tick : Tick) (d : SpanDispatcher) (netId : AmsNetId) (taskIndex : UInt8) : Option (String × String) :=
  ((d.spansOf tick netId taskIndex).argmax PendingSpan.startTime).map fun p =>
    (hexEncode p.traceId.val, hexEncode p.spanId.val)

end SpanDispatcher

end Service

open Decoding Ads Service

def LogEntry.ids (le : LogEntry) : Ids := (le.traceId, le.spanId)

def LogEntry.noTrace (le : LogEntry) : Bool := le.traceId.val.all (· == 0) && le.spanId.val.all (· == 0)

def LogEntry.taskByte (le : LogEntry) : UInt8 := le.taskIndex.toUInt32.toUInt8

/-- The ids of a context, if they are hexadecimal texts of the right length. -/
def LogEntry.stamp (context : Option (String × String)) (le : LogEntry) : LogEntry :=
  match context with
  | none => le
  | some (tidHex, sidHex) =>
    match (hexDecode tidHex.toList).bind (Bytes.ofList? 16), (hexDecode sidHex.toList).bind (Bytes.ofList? 8) with
    | some tid, some sid => { le with traceId := tid, spanId := sid }
    | _, _ => le

def LogEntry.enrich (tick : Tick) (d : SpanDispatcher) (le : LogEntry) : LogEntry :=
  if le.noTrace then
    match AmsNetId.fromStrRef le.amsNetId with
    | .ok netId => le.stamp (d.currentContext tick netId le.taskByte)
    | .error _ => le
  else le

/-! ### Which ids a log gets -/

theorem bytes_all_zero_iff (bytes : Bytes n) : bytes.val.all (· == 0) = true ↔ bytes = Bytes.zero n := by
  constructor
  · intro zeros
    apply Subtype.ext
    rw [Bytes.zero, List.eq_replicate_iff]
    exact ⟨bytes.property, fun b member => by simpa using List.all_eq_true.mp zeros b member⟩
  · rintro rfl
    simp [Bytes.zero]

theorem LogEntry.noTrace_iff (le : LogEntry) : le.noTrace = true ↔ le.ids = noIds := by
  rw [noTrace, Bool.and_eq_true, bytes_all_zero_iff, bytes_all_zero_iff, ids, noIds, Prod.mk.injEq]

namespace Service

/-- The ids of the context that the dispatcher finds for a task. -/
def SpanDispatcher.currentIds (tick : Tick) (d : SpanDispatcher) (netId : AmsNetId) (taskIndex : UInt8) : Ids :=
  ((d.spansOf tick netId taskIndex).argmax PendingSpan.startTime).elim noIds PendingSpan.ids

theorem ids_enrich {le : LogEntry} (untraced : le.ids = noIds) (sender : le.amsNetId = netId.display)
    (tick : Tick) (d : SpanDispatcher) : (le.enrich tick d).ids = d.currentIds tick netId le.taskByte := by
  rw [LogEntry.enrich, if_pos (le.noTrace_iff.mpr untraced), sender, AmsNetId.fromStrRef_display]
  simp only [LogEntry.stamp, SpanDispatcher.currentContext, SpanDispatcher.currentIds]
  cases (d.spansOf tick netId le.taskByte).argmax PendingSpan.startTime with
  | none => exact untraced
  | some p =>
    -- what was encoded from the bytes of the ids is decoded to them
    simp only [Option.map_some, hexDecode_hexEncode, Option.bind_some, Bytes.ofList?_val]
    rfl

/-- The ids are those of a span that started last, the first such in this order. When there is no
span at all, they are zero. -/
def Shows (spans : List PendingSpan) (ids : Ids) : Prop :=
  (spans = [] ∧ ids = noIds) ∨
    ∃ p ∈ spans, p.ids = ids ∧ (∀ q ∈ spans, q.startTime ≤ p.startTime) ∧
      ∀ q ∈ spans, p.startTime ≤ q.startTime → spans.idxOf p ≤ spans.idxOf q
deriving Decidable

theorem currentIds_eq_iff (tick : Tick) (d : SpanDispatcher) (netId : AmsNetId) (taskIndex : UInt8) (ids : Ids) :
    d.currentIds tick netId taskIndex = ids ↔ Shows (d.spansOf tick netId taskIndex) ids := by
  rw [SpanDispatcher.currentIds, Shows]
  cases found : (d.spansOf tick netId taskIndex).argmax PendingSpan.startTime with
  | none =>
    -- no span of the task is pending
    have nothing := List.argmax_eq_none.mp found
    rw [nothing]
    simp [eq_comm]
  | some best =>
    have isBest := List.argmax_eq_some_iff.mp found
    have some : d.spansOf tick netId taskIndex ≠ [] := List.ne_nil_of_mem isBest.1
    constructor
    · rintro rfl
      exact .inr ⟨best, isBest.1, rfl, isBest.2⟩
    · rintro (⟨none, -⟩ | ⟨p, member, rfl, latest, first⟩)
      · exact absurd none some
      · -- the first of the latest ones is unique
        have same := found.symm.trans (List.argmax_eq_some_iff.mpr ⟨member, latest, first⟩)
        rw [Option.some.inj same]
        rfl

end Service

end TcOtel
