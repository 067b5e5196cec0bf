import TcOtel.Plc.MetricWindows

/-!
# The header of a metric frame is staged

`_DoFlush` puts the header together in `abyHdr`, an array of 256 bytes on the stack, one copy behind
the other, and looks at the length only afterwards. `stage` has the copies as the source makes them.

## Main result

`flush_header_fits_iff`: no copy of a flush goes past the array, and a window is queued whenever it
can be, just when the parts of the header have at most 256 bytes together. The longest name, unit
and namespace with a span have 282.
-/

namespace TcOtel.Plc

open Decoding Memory Ads.Push Collecting

/-! ### Copies one behind the other -/

/-- The copies so far, each with its place in the array, and `nHdrLen`. -/
structure Staging where
  nHdrLen : Nat
  copies : List (Nat × List UInt8)
deriving DecidableEq

namespace Staging

def empty : Staging := ⟨0, []⟩

/-- `MEMCPY(ADR(abyHdr) + nHdrLen, ..)`, and `nHdrLen` moves on. -/
def put (src : List UInt8) (s : Staging) : Staging := ⟨s.nHdrLen + src.length, s.copies ++ [(s.nHdrLen, src)]⟩

/-- `put`, unless there is nothing to copy. -/
def putSome (src : List UInt8) (s : Staging) : Staging := if src.length > 0 then s.put src else s

def array (s : Staging) (abyHdr : List UInt8) : List UInt8 :=
  s.copies.foldl (fun area copy => overwrite area copy.1 copy.2) abyHdr

/-- No copy goes past an array of this size. -/
def Inside (s : Staging) (size : Nat) : Prop := ∀ copy ∈ s.copies, copy.1 + copy.2.length ≤ size

/-- These bytes were copied, from the start of the array on and without a gap. -/
structure Holds (s : Staging) (content : List UInt8) : Prop where
  length : s.nHdrLen = content.length
  inside : s.Inside s.nHdrLen
  /-- The last copy ends where the content ends. -/
  last : content ≠ [] → ∃ copy ∈ s.copies, copy.1 + copy.2.length = s.nHdrLen
  array : ∀ abyHdr : List UInt8, content.length ≤ abyHdr.length → (s.array abyHdr).take s.nHdrLen = content ∧
    (s.array abyHdr).length = abyHdr.length

variable {s : Staging} {content : List UInt8}

theorem Holds.empty : empty.Holds [] where
  length := rfl
  inside := by simp [Inside, Staging.empty]
  last none := absurd rfl none
  array abyHdr _ := ⟨rfl, rfl⟩

theorem Holds.put (h : s.Holds content) (src : List UInt8) : (s.put src).Holds (content ++ src) where
  length := by rw [Staging.put, List.length_append, h.length]
  inside copy member := by
    rcases List.mem_append.mp member with early | last
    · exact (h.inside copy early).trans (Nat.le_add_right ..)
    · rw [List.mem_singleton.mp last]
      exact Nat.le_refl _
  last _ := ⟨(s.nHdrLen, src), List.mem_append_right _ (List.mem_singleton_self _), rfl⟩
  array abyHdr room := by
    rw [List.length_append] at room
    obtain ⟨taken, length⟩ := h.array abyHdr (by omega)
    have copied : (s.put src).array abyHdr = overwrite (s.array abyHdr) s.nHdrLen src := by
      simp [Staging.array, Staging.put]
    have fits := h.length
    -- there is no gap: the copy starts where the content ends
    rw [copied, length_overwrite (by omega), length]
    refine ⟨?_, rfl⟩
    rw [Staging.put, take_overwrite (by omega), taken]

theorem Holds.putSome (h : s.Holds content) (src : List UInt8) : (s.putSome src).Holds (content ++ src) := by
  unfold Staging.putSome
  split
  · exact h.put src
  next nothing =>
    rw [List.eq_nil_of_length_eq_zero (Nat.eq_zero_of_not_pos nothing), List.append_nil]
    exact h

theorem Holds.inside_iff (h : s.Holds content) (size : Nat) : s.Inside size ↔ content.length ≤ size := by
  constructor
  · intro inside
    by_cases nothing : content = []
    · rw [nothing]
      exact Nat.zero_le _
    · obtain ⟨copy, member, ends⟩ := h.last nothing
      rw [← h.length, ← ends]
      exact inside copy member
  · intro short copy member
    exact (h.inside copy member).trans (h.length ▸ short)

end Staging

/-! ### The copies of a flush -/

namespace Metrics

def stagingSize : Nat := 256

/-- The copies of `_DoFlush`, in its order. The ids of a span are two copies, and so are the length of
the namespace and the namespace. -/
def stage (fb : Metrics) (c : MetricCycle) : Staging :=
  let fixed := Staging.empty.put (fb.frame c).header.bytes
  let traced :=
    match fb.spanOf c with
    | none => fixed
    | some (traceId, spanId) => (fixed.put traceId.val).put spanId.val
  let named := traced.putSome (fb.sName.bytes.take 63)
  let withUnit := named.putSome (fb.sUnit.bytes.take 15)
  let sNamespace := fb.sLogger.bytes.take 127
  -- the length check comes behind this copy
  if sNamespace.length > 0 then (withUnit.put [UInt8.ofNat sNamespace.length]).put sNamespace else withUnit

theorem stage_holds (fb : Metrics) (c : MetricCycle) : (fb.stage c).Holds (fb.frame c).head := by
  -- one part after the other, in the order of the copies
  have fixed := Staging.Holds.empty.put (fb.frame c).header.bytes
  have traced : (match fb.spanOf c with
      | none => Staging.empty.put (fb.frame c).header.bytes
      | some (traceId, spanId) => ((Staging.empty.put (fb.frame c).header.bytes).put traceId.val).put spanId.val).Holds
      ([] ++ (fb.frame c).header.bytes ++ (fb.frame c).spanBytes) := by
    have ids : (fb.frame c).span = fb.spanOf c := rfl
    rw [MetricFrame.spanBytes, ids]
    cases fb.spanOf c with
    | none =>
      exact fixed
    | some pair =>
      exact (fixed.put _).put _
  have withUnit := (traced.putSome (fb.sName.bytes.take 63)).putSome (fb.sUnit.bytes.take 15)
  have head : (fb.frame c).head = [] ++ (fb.frame c).header.bytes ++ (fb.frame c).spanBytes ++
      fb.sName.bytes.take 63 ++ fb.sUnit.bytes.take 15 ++ (fb.frame c).scopeBytes := by
    simp only [List.append_assoc]
    rfl
  have scope : (fb.frame c).scope = fb.sLogger.bytes.take 127 := rfl
  rw [head, MetricFrame.scopeBytes, scope]
  unfold stage
  dsimp only
  split
  next some =>
    rw [if_neg (by simpa using List.ne_nil_of_length_pos some), List.append_cons]
    exact (withUnit.put _).put _
  next none =>
    rw [if_pos (by simpa using Nat.eq_zero_of_not_pos none), List.append_nil]
    exact withUnit

/-- The bytes of the header of a flush: 52 fixed ones, 24 with a span, the name, the unit, and the
namespace behind its length. -/
def headerLength (fb : Metrics) (c : MetricCycle) : Nat :=
  52 + (if (fb.spanOf c).isSome then 24 else 0) + min 63 fb.sName.bytes.length + min 15 fb.sUnit.bytes.length +
    (if fb.sLogger.bytes = [] then 0 else 1 + min 127 fb.sLogger.bytes.length)

theorem length_head (fb : Metrics) (c : MetricCycle) : (fb.frame c).head.length = fb.headerLength c := by
  have span : (fb.frame c).spanBytes.length = if (fb.spanOf c).isSome then 24 else 0 := by
    have ids : (fb.frame c).span = fb.spanOf c := rfl
    rw [MetricFrame.spanBytes, ids]
    cases fb.spanOf c with
    | none => rfl
    | some pair => simp [pair.1.property, pair.2.property]
  have scope : (fb.frame c).scopeBytes.length =
      if fb.sLogger.bytes = [] then 0 else 1 + min 127 fb.sLogger.bytes.length := by
    have text : (fb.frame c).scope = fb.sLogger.bytes.take 127 := rfl
    rw [MetricFrame.scopeBytes, text]
    by_cases empty : fb.sLogger.bytes = []
    · simp [empty]
    · simp [empty, Nat.add_comm]
  have fixed := (fb.frame c).header.length_bytes
  have name : (fb.frame c).name.length = min 63 fb.sName.bytes.length := List.length_take
  have unit : (fb.frame c).unit.length = min 15 fb.sUnit.bytes.length := List.length_take
  rw [MetricFrame.head, List.length_append, List.length_append, List.length_append, List.length_append, fixed,
    headerLength, pushMetricAggHeaderSize]
  omega

/-- What `_DoFlush` copies into `abyHdr`: nothing while the other half is pending. -/
def flushCopies (fb : Metrics) (c : MetricCycle) : List (Nat × List UInt8) :=
  if fb.bPending then [] else (fb.stage c).copies

/-- The samples are in the queue of the sender, with the header in front of them. -/
def Queued (fb : Metrics) (c : MetricCycle) : Prop :=
  ((doFlush c fb).1.bPending = true ∧ (doFlush c fb).2 = [.deliver (doFlush c fb).1])

theorem doFlush_of_fits (free : fb.bPending = false) (enqueued : c.enqueued = true)
    (fits : fb.headerLength c ≤ hdrReserve) :
    doFlush c fb = (fb.swapHalves (fb.frame c).head, [.deliver (fb.swapHalves (fb.frame c).head)]) := by
  rw [doFlush, if_neg (by simp [free]), length_head, if_neg (Nat.not_lt.mpr fits), enqueued]
  rfl

theorem doFlush_of_long (free : fb.bPending = false)
    (long : hdrReserve < fb.headerLength c) : (doFlush c fb).2 = [.drop] := by
  rw [doFlush, if_neg (by simp [free]), length_head, if_pos long]

/-- For every state and every span: no copy of a flush goes past the staging area, and a window with
samples is queued when no frame is pending and the ring has room, just when nothing is copied
because a frame is pending, or the header has at most 256 bytes. -/
theorem flush_header_fits_iff (fb : Metrics) (c : MetricCycle) :
    ((∀ copy ∈ fb.flushCopies c, copy.1 + copy.2.length ≤ stagingSize) ∧
      (fb.bPending = false → 0 < fb.nSampleCount → c.enqueued = true → fb.Queued c)) ↔
    (fb.bPending = true ∨ fb.headerLength c ≤ stagingSize) := by
  have staged := (fb.stage_holds c).inside_iff stagingSize
  rw [length_head] at staged
  cases pending : fb.bPending with
  -- while the other half is pending a flush returns at once
  | true => simp [flushCopies, pending]
  | false =>
    have copies : fb.flushCopies c = (fb.stage c).copies := by rw [flushCopies, pending]; rfl
    rw [copies]
    constructor
    · rintro ⟨inside, -⟩
      exact .inr (staged.mp inside)
    · rintro (busy | short)
      · cases busy
      refine ⟨staged.mpr short, fun _ _ enqueued => ?_⟩
      rw [Queued, doFlush_of_fits pending enqueued short]
      exact ⟨rfl, rfl⟩

def letters (n : Nat) (short : n ≤ 255) : PlcString where
  bytes := List.replicate n 0x61
  noNul nul := absurd (List.eq_of_mem_replicate nul) (by decide)
  length_le := by rwa [List.length_replicate]

/-- The longest texts that are taken, a span that is pinned, and one sample. -/
def sampleLongHeader : Metrics :=
  (Collecting.after (operation sampleLreal) (initial (letters 127 (by decide))) []
    [.init (letters 63 (by decide)) (letters 15 (by decide)) 0, .withSpan true,
      .observe (some ⟨.bool, [1], [], by decide⟩) sampleCycle]).1

/-- The namespace goes 26 bytes past the array, and the sample is dropped although nothing is pending
and the ring has room. -/
theorem sampleLongHeader_overruns :
    sampleLongHeader.bPending = false ∧ sampleLongHeader.nSampleCount = 1 ∧ sampleCycle.enqueued = true ∧
      (155, (letters 127 (by decide)).bytes) ∈ sampleLongHeader.flushCopies sampleCycle ∧
      (doFlush sampleCycle sampleLongHeader).2 = [.drop] := by
  have length : sampleLongHeader.headerLength sampleCycle = 282 := by decide +kernel
  refine ⟨rfl, rfl, rfl, by decide +kernel, doFlush_of_long rfl ?_⟩
  rw [length]
  decide

end Metrics

end TcOtel.Plc
