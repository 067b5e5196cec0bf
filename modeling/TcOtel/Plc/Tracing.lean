import TcOtel.Lib.Xorshift
import TcOtel.Plc.LogBuilder
import TcOtel.Plc.SpanFrame

/-!
# `FB_Span`, `FB_Trace` and `FB_TcOtelTaskTracer`

The spans of one task. A span is bound to a tracer, which keeps the chain of its open spans so
that a new one finds its parent; the task tracer mints the ids and writes the frames. A call
sees the task and the room in its write buffer; the frames written are listed in their order.

In every run an open span is in the chain of its tracer and has an id other than zero (`Sound`).
That is an invariant: one lemma says what each method keeps.
-/

namespace TcOtel.Plc

open Decoding Memory Ads

/-! ### State -/

abbrev TraceRef := Nat

structure Span where
  bOpen : Bool
  eStatus : ESpanStatus
  sMsg : StringOf 80
  pTracer : Option TraceRef
  abTraceId : Bytes 16
  abSpanId : Bytes 8
  sLogger : PlcString

/-- `FB_TcOtelTaskTracer`. Its own `_pInnermost` is never set. -/
structure TaskTracer where
  nXorState : UInt64
  bRngSeeded : Bool
  nNextLocalId : UInt8

structure Tracing where
  spans : SpanRef → Span
  /-- For each tracer, the spans from `_pInnermost` on along `_pOuterSpan`. -/
  chains : TraceRef → List SpanRef
  taskTracer : TaskTracer
  /-- The frames written to the log buffers of the task so far. -/
  emitted : List SpanFrame

/-- What a call sees: the task, and the room in its write buffer (none without a buffer). -/
structure TraceCycle where
  info : TaskInfo
  bufferFree : Nat

/-- Nothing has happened yet. A span is bound, and has its logger, from `FB_Init`. -/
def Tracing.initial (pTracer : SpanRef → Option TraceRef) (sLogger : SpanRef → PlcString) : Tracing where
  spans s :=
    { bOpen := false, eStatus := .eOk, sMsg := .empty 80, pTracer := pTracer s
      abTraceId := Bytes.zero 16, abSpanId := Bytes.zero 8, sLogger := sLogger s }
  chains _ := []
  taskTracer := { nXorState := 0xDEADBEEFCAFEF00D, bRngSeeded := false, nNextLocalId := 0 }
  emitted := []

/-! ### The task tracer -/

namespace TraceCycle

def nowDcTime (cycle : TraceCycle) : Int64 :=
  if cycle.info.actualDcTime = 0 then cycle.info.dcTaskTime else cycle.info.actualDcTime

def nTaskIdx (cycle : TraceCycle) : UInt8 := cycle.info.nTaskIndex.toUInt32.toUInt8

end TraceCycle

def hexCharToNibble (ch : UInt8) : Option UInt8 :=
  if 0x30 ≤ ch ∧ ch ≤ 0x39 then some (ch - 0x30)
  else if 0x61 ≤ ch ∧ ch ≤ 0x66 then some (ch - 0x57)
  else if 0x41 ≤ ch ∧ ch ≤ 0x46 then some (ch - 0x37)
  else none

def hexBytes : List UInt8 → Option (List UInt8)
  | nHi :: nLo :: rest => do
    let hi ← hexCharToNibble nHi
    let lo ← hexCharToNibble nLo
    let bytes ← hexBytes rest
    pure ((hi <<< 4 ||| lo) :: bytes)
  | _ => some []

/-- `_ParseTraceParent`. What it has written to the trace id when it fails is overwritten by
the caller. -/
def parseTraceParent (sTp : List UInt8) : Option (Bytes 16 × Bytes 8) :=
  if sTp.length < 55 then none
  else if sTp[0]? ≠ some 0x30 ∨ sTp[1]? ≠ some 0x30 then none
  else if sTp[2]? ≠ some 0x2D ∨ sTp[35]? ≠ some 0x2D ∨ sTp[52]? ≠ some 0x2D then none
  else if sTp[53]? ≠ some 0x30 then none
  else if sTp[54]? ≠ some 0x30 ∧ sTp[54]? ≠ some 0x31 then none
  else do
    let traceId ← hexBytes (extract sTp 3 32)
    let spanId ← hexBytes (extract sTp 36 16)
    let abTraceId ← Bytes.ofList? 16 traceId
    let abSpanId ← Bytes.ofList? 8 spanId
    pure (abTraceId, abSpanId)

def nextRandom (x : UInt64) : UInt64 :=
  let x := x ^^^ (x <<< 13)
  let x := x ^^^ (x >>> 7)
  x ^^^ (x <<< 17)

def ulintBytes (v : UInt64) : Bytes 8 := ⟨leBytes 8 v.toNat, length_leBytes ..⟩

namespace TaskTracer

def seedRng (cycle : TraceCycle) (tt : TaskTracer) : TaskTracer :=
  if tt.bRngSeeded then tt
  else
    let mixed := cycle.nowDcTime.toUInt64 ^^^
      (cycle.info.nTaskIndex.toInt64.toUInt64 * 0x9E3779B97F4A7C15)
    { tt with nXorState := if mixed = 0 then 0xDEADBEEFCAFEF00D else mixed, bRngSeeded := true }

def draw (tt : TaskTracer) : TaskTracer := { tt with nXorState := nextRandom tt.nXorState }

/-- `_MintTraceId`: the id, and the tracer after it. -/
def mintTraceId (tt : TaskTracer) : Bytes 16 × TaskTracer :=
  let hi := tt.draw
  let lo := hi.draw
  (⟨(ulintBytes hi.nXorState).val ++ (ulintBytes lo.nXorState).val, by simp [(ulintBytes _).property]⟩, lo)

def mintSpanId (tt : TaskTracer) : Bytes 8 × TaskTracer := (ulintBytes tt.draw.nXorState, tt.draw)

/-- The trace id that `Begin` gives a span: that of an external parent, the one that the tracer
has copied from the innermost span, or a new one. -/
def traceIdFor (sTraceParent : List UInt8) (inherited : Option (Bytes 16)) (tt : TaskTracer) :
    Bytes 16 × TaskTracer :=
  match parseTraceParent sTraceParent with
  | some (traceId, _) => (traceId, tt)
  | none =>
    match inherited with
    | some traceId => (traceId, tt)
    | none => tt.mintTraceId

end TaskTracer

namespace Tracing

def emit (cycle : TraceCycle) (frame : SpanFrame) (t : Tracing) : Tracing :=
  if cycle.bufferFree < frame.nTotalLen then t else { t with emitted := t.emitted ++ [frame] }

def setSpan (s : SpanRef) (span : Span) (t : Tracing) : Tracing :=
  { t with spans := Function.update t.spans s span }

def onChain (pTracer : Option TraceRef) (f : List SpanRef → List SpanRef) (t : Tracing) : Tracing :=
  match pTracer with
  | some tr => { t with chains := Function.update t.chains tr (f (t.chains tr)) }
  | none => t

/-- `FB_Trace._Begin` and `FB_TcOtelTaskTracer.Begin`: the ids of the span, and its frame. -/
def mintBegin (cycle : TraceCycle) (s : SpanRef) (tr : TraceRef) (sName : StringOf 60) (eKind : ESpanKind)
    (sTraceParent : StringOf 60) (t : Tracing) : Tracing :=
  -- an external parent takes the place of the innermost open span
  let innermost := if sTraceParent.bytes = [] then (t.chains tr).head? else none
  let traced := (t.taskTracer.seedRng cycle).traceIdFor sTraceParent.bytes
    (innermost.map fun outer => (t.spans outer).abTraceId)
  let minted := traced.2.mintSpanId
  let frame : SpanFrame := .spanBegin {
    nLocalId := minted.2.nNextLocalId
    nTaskIdx := cycle.nTaskIdx
    nDcTime := cycle.nowDcTime
    abParentSpanId := (innermost.map fun outer => (t.spans outer).abSpanId).getD (Bytes.zero 8)
    eKind
    abTraceId := traced.1
    abSpanId := minted.1
    sName := sName.bytes.take 127
    sTraceParent := sTraceParent.bytes.take 127
    sLogger := (t.spans s).sLogger.bytes.take 127
    name_le := List.length_take_le ..
    traceParent_le := List.length_take_le ..
    logger_le := List.length_take_le .. }
  let ready := { t with taskTracer := minted.2 }.setSpan s
    { t.spans s with abTraceId := traced.1, abSpanId := minted.1 }
  -- the ids are kept whether there is room for the frame or not
  if cycle.bufferFree < frame.nTotalLen then ready
  else
    { ready with
      taskTracer := { minted.2 with nNextLocalId := minted.2.nNextLocalId + 1 }
      emitted := ready.emitted ++ [frame] }

/-- `SetError` of the task tracer, which acknowledges and does nothing else. -/
def setError (_s : SpanRef) (_sMsg : StringOf 80) (t : Tracing) : Tracing := t

def emitEnd (cycle : TraceCycle) (s : SpanRef) (t : Tracing) : Tracing :=
  t.emit cycle (.spanEnd {
    abSpanId := (t.spans s).abSpanId
    nTaskIdx := cycle.nTaskIdx
    nDcTime := cycle.nowDcTime
    nStatus := 1
    nMsgLen := 0 })

/-! ### The methods of `FB_Span` -/

def bindTracer (s : SpanRef) (pTracer : Option TraceRef) (t : Tracing) : Tracing :=
  if (t.spans s).bOpen then t else t.setSpan s { t.spans s with pTracer }

def endSpan (cycle : TraceCycle) (s : SpanRef) (t : Tracing) : Tracing :=
  if (t.spans s).bOpen then
    let told := if (t.spans s).eStatus = .eError then t.setError s (t.spans s).sMsg else t
    let ended := (told.emitEnd cycle s).onChain (t.spans s).pTracer (·.erase s)
    ended.setSpan s { t.spans s with bOpen := false, eStatus := .eOk, sMsg := .empty 80 }
  else t

def sBegunTwice : StringOf 80 :=
  ⟨⟨utf8Bytes "span.begin called twice without end", by decide, by decide⟩, by decide⟩

/-- `Begin`. Without a tracer it only writes a log message. -/
def begin (cycle : TraceCycle) (s : SpanRef) (sName : StringOf 60) (eKind : ESpanKind)
    (sTraceParent : StringOf 60) (t : Tracing) : Tracing :=
  match (t.spans s).pTracer with
  | none => t
  | some tr =>
    if (t.spans s).bOpen then
      -- the open span is ended, and the new one is not begun
      (t.setSpan s { t.spans s with eStatus := .eError, sMsg := sBegunTwice }).endSpan cycle s
    else
      let minted := t.mintBegin cycle s tr sName eKind sTraceParent
      (minted.setSpan s { minted.spans s with bOpen := true, eStatus := .eOk, sMsg := .empty 80 }).onChain
        (some tr) (s :: ·)

def addAny (cycle : TraceCycle) (s : SpanRef) (sKey : StringOf 30) (stArg : Option AnyArg) (t : Tracing) :
    Tracing :=
  if (t.spans s).bOpen then
    match stArg.bind AnyArg.attrValue? with
    | none => t
    | some value =>
      t.emit cycle (.spanAttr {
        abSpanId := (t.spans s).abSpanId
        nTaskIdx := cycle.nTaskIdx
        nDcTime := cycle.nowDcTime
        sKey := sKey.bytes.take 31
        value
        key_le := List.length_take_le .. })
  else t

def addEvent (cycle : TraceCycle) (s : SpanRef) (sName : StringOf 30) (t : Tracing) : Tracing :=
  if (t.spans s).bOpen then
    t.emit cycle (.spanEvent {
      abSpanId := (t.spans s).abSpanId
      nTaskIdx := cycle.nTaskIdx
      nDcTime := cycle.nowDcTime
      sName := sName.bytes.take 31
      name_le := List.length_take_le .. })
  else t

def markError (s : SpanRef) (sMsg : StringOf 80) (t : Tracing) : Tracing :=
  if (t.spans s).bOpen then t.setSpan s { t.spans s with eStatus := .eError, sMsg } else t

end Tracing

/-! ### Runs -/

inductive SpanCall where
  | bindTracer (s : SpanRef) (pTracer : Option TraceRef)
  | begin (s : SpanRef) (sName : StringOf 60) (eKind : ESpanKind) (sTraceParent : StringOf 60)
  | addAny (s : SpanRef) (sKey : StringOf 30) (stArg : Option AnyArg)
  | addEvent (s : SpanRef) (sName : StringOf 30)
  | markError (s : SpanRef) (sMsg : StringOf 80)
  | endSpan (s : SpanRef)

namespace Tracing

def apply (t : Tracing) (call : TraceCycle × SpanCall) : Tracing :=
  match call.2 with
  | .bindTracer s pTracer => t.bindTracer s pTracer
  | .begin s sName eKind sTraceParent => t.begin call.1 s sName eKind sTraceParent
  | .addAny s sKey stArg => t.addAny call.1 s sKey stArg
  | .addEvent s sName => t.addEvent call.1 s sName
  | .markError s sMsg => t.markError s sMsg
  | .endSpan s => t.endSpan call.1 s

def run (calls : List (TraceCycle × SpanCall)) (t : Tracing) : Tracing := calls.foldl apply t

/-! ### Fields after an update -/

section

variable {t : Tracing} {cycle : TraceCycle} {frame : SpanFrame} {s : SpanRef} {span : Span}
  {pTracer : Option TraceRef} {f : List SpanRef → List SpanRef}

@[simp] theorem spans_emit : (t.emit cycle frame).spans = t.spans := by
  unfold emit
  split <;> rfl

theorem emitted_emit : (t.emit cycle frame).emitted =
      if frame.nTotalLen ≤ cycle.bufferFree then t.emitted ++ [frame] else t.emitted := by
  unfold emit
  by_cases room : frame.nTotalLen ≤ cycle.bufferFree
  · rw [if_neg (Nat.not_lt.mpr room), if_pos room]
  · rw [if_pos (Nat.lt_of_not_le room), if_neg room]

@[simp] theorem spans_setSpan : (t.setSpan s span).spans = Function.update t.spans s span := rfl

@[simp] theorem chains_setSpan : (t.setSpan s span).chains = t.chains := rfl

@[simp] theorem taskTracer_setSpan : (t.setSpan s span).taskTracer = t.taskTracer := rfl

@[simp] theorem emitted_setSpan : (t.setSpan s span).emitted = t.emitted := rfl

@[simp] theorem spans_onChain : (t.onChain pTracer f).spans = t.spans := by
  cases pTracer <;> rfl

theorem chains_onChain (tr : TraceRef) :
    (t.onChain pTracer f).chains tr = if pTracer = some tr then f (t.chains tr) else t.chains tr := by
  cases pTracer with
  | none => rfl
  | some own =>
    by_cases same : tr = own
    · subst same
      simp [onChain]
    · simp [onChain, same, Ne.symm same]

@[simp] theorem taskTracer_onChain : (t.onChain pTracer f).taskTracer = t.taskTracer := by
  cases pTracer <;> rfl

@[simp] theorem emitted_onChain : (t.onChain pTracer f).emitted = t.emitted := by
  cases pTracer <;> rfl

@[simp] theorem emitEnd_spans : (t.emitEnd cycle s).spans = t.spans := spans_emit

end

end Tracing

/-! ### Minted ids are not zero -/

theorem nextRandom_ne_zero (start : x ≠ 0) : nextRandom x ≠ 0 := by
  have word : x.toBitVec ≠ 0#64 := fun zero => start (UInt64.eq_of_toBitVec_eq zero)
  intro zero
  have reached := congrArg UInt64.toBitVec zero
  exact Xorshifts.next_ne_zero (by decide) (by decide) (by decide) word reached

theorem ulintBytes_injective : Function.Injective ulintBytes := by
  intro v w same
  have numbers := congrArg (fun bytes : Bytes 8 => leNat bytes.val) same
  simp only [ulintBytes, leNat_leBytes 8 _ v.toNat_lt, leNat_leBytes 8 _ w.toNat_lt] at numbers
  exact UInt64.toNat_inj.mp numbers

theorem ulintBytes_ne_zero (nonzero : v ≠ 0) : ulintBytes v ≠ Bytes.zero 8 :=
  fun zero => nonzero (ulintBytes_injective (zero.trans (by decide)))

namespace TaskTracer

variable {tt : TaskTracer}

theorem seedRng_ne_zero (cycle : TraceCycle) (start : tt.nXorState ≠ 0) : (tt.seedRng cycle).nXorState ≠ 0 := by
  unfold seedRng
  split
  · exact start
  · -- a zero seed is replaced
    dsimp only
    split
    · decide
    next nonzero => exact nonzero

theorem draw_ne_zero (start : tt.nXorState ≠ 0) : tt.draw.nXorState ≠ 0 := nextRandom_ne_zero start

theorem iterate_draw_ne_zero (start : tt.nXorState ≠ 0) (n : Nat) : (draw^[n] tt).nXorState ≠ 0 := by
  induction n with
  | zero => exact start
  | succ n ih =>
    rw [Function.iterate_succ_apply']
    exact draw_ne_zero ih

theorem traceIdFor_ne_zero (sTraceParent : List UInt8) (inherited : Option (Bytes 16))
    (start : tt.nXorState ≠ 0) : (tt.traceIdFor sTraceParent inherited).2.nXorState ≠ 0 := by
  unfold traceIdFor
  split
  · exact start
  · split
    · exact start
    · exact draw_ne_zero (draw_ne_zero start)

theorem mintTraceId_ne_zero (start : tt.nXorState ≠ 0) : tt.mintTraceId.1 ≠ Bytes.zero 16 := by
  intro zero
  -- the first half of the id is one draw
  have half := congrArg (fun id => id.val.take 8) zero
  simp only [mintTraceId, List.take_left' (ulintBytes _).property] at half
  exact ulintBytes_ne_zero (draw_ne_zero start) (Subtype.ext half)

theorem mintSpanId_ne_zero (start : tt.nXorState ≠ 0) :
    tt.mintSpanId.1 ≠ Bytes.zero 8 ∧ tt.mintSpanId.2.nXorState ≠ 0 :=
  ⟨ulintBytes_ne_zero (draw_ne_zero start), draw_ne_zero start⟩

end TaskTracer

/-! ### What every run keeps -/

namespace Tracing

/-- The chain of a tracer has its open spans, each once, and these have ids other than zero. -/
structure Sound (t : Tracing) : Prop where
  seeded : t.taskTracer.nXorState ≠ 0
  minted : ∀ s, (t.spans s).bOpen = true → (t.spans s).abSpanId ≠ Bytes.zero 8
  nodup : ∀ tr, (t.chains tr).Nodup
  registered : ∀ tr s, s ∈ t.chains tr ↔ (t.spans s).bOpen = true ∧ (t.spans s).pTracer = some tr

section

variable {t : Tracing} {cycle : TraceCycle} {s : SpanRef} {span : Span}

theorem Sound.initial (pTracer : SpanRef → Option TraceRef) (sLogger : SpanRef → PlcString) :
    Sound (Tracing.initial pTracer sLogger) where
  seeded := show (0xDEADBEEFCAFEF00D : UInt64) ≠ 0 by decide
  minted _ isOpen := by cases isOpen
  nodup _ := List.nodup_nil
  registered _ _ := by simp [Tracing.initial]

section

variable (sound : Sound t)
include sound

theorem Sound.emitting (seeded : tt.nXorState ≠ 0)
    (frames : List SpanFrame) : Sound { t with taskTracer := tt, emitted := frames } :=
  ⟨seeded, sound.minted, sound.nodup, sound.registered⟩

theorem Sound.emit (frame : SpanFrame) : Sound (t.emit cycle frame) := by
  unfold Tracing.emit
  split
  · exact sound
  · exact sound.emitting sound.seeded _

theorem Sound.setSpan (sameOpen : span.bOpen = (t.spans s).bOpen)
    (bound : span.bOpen = true → span.pTracer = (t.spans s).pTracer ∧ span.abSpanId = (t.spans s).abSpanId) :
    Sound (t.setSpan s span) where
  seeded := sound.seeded
  minted := by
    intro r isOpen
    by_cases same : r = s
    · subst same
      rw [spans_setSpan, Function.update_self] at isOpen ⊢
      rw [(bound isOpen).2]
      exact sound.minted r (sameOpen ▸ isOpen)
    · rw [spans_setSpan, Function.update_of_ne same] at isOpen ⊢
      exact sound.minted r isOpen
  nodup := sound.nodup
  registered := by
    intro tr r
    rw [chains_setSpan, sound.registered]
    by_cases same : r = s
    · subst same
      rw [spans_setSpan, Function.update_self, ← sameOpen]
      constructor
      · rintro ⟨isOpen, own⟩
        exact ⟨isOpen, (bound isOpen).1.trans own⟩
      · rintro ⟨isOpen, own⟩
        exact ⟨isOpen, (bound isOpen).1.symm.trans own⟩
    · rw [spans_setSpan, Function.update_of_ne same]

theorem Sound.close (isOpen : (t.spans s).bOpen = true) (closes : span.bOpen = false) :
    Sound ((t.onChain (t.spans s).pTracer (·.erase s)).setSpan s span) where
  seeded := by
    rw [taskTracer_setSpan, taskTracer_onChain]
    exact sound.seeded
  minted := by
    intro r stillOpen
    rw [spans_setSpan, spans_onChain] at stillOpen ⊢
    by_cases same : r = s
    · subst same
      rw [Function.update_self, closes] at stillOpen
      cases stillOpen
    · rw [Function.update_of_ne same] at stillOpen ⊢
      exact sound.minted r stillOpen
  nodup := by
    intro tr
    rw [chains_setSpan, chains_onChain]
    split
    · exact (sound.nodup tr).erase s
    · exact sound.nodup tr
  registered := by
    intro tr r
    have member : r ∈ (t.onChain (t.spans s).pTracer (·.erase s)).chains tr ↔ r ∈ t.chains tr ∧ r ≠ s := by
      rw [chains_onChain]
      split
      · rw [(sound.nodup tr).mem_erase_iff, and_comm]
      next foreign =>
        -- the span is in the chain of its own tracer only
        refine ⟨fun here => ⟨here, ?_⟩, And.left⟩
        rintro rfl
        exact foreign ((sound.registered tr r).mp here).2
    rw [chains_setSpan, member, sound.registered]
    by_cases same : r = s
    · subst same
      simp [closes]
    · simp [same]

theorem Sound.open (closed : (t.spans s).bOpen = false)
    (opens : span.bOpen = true) (bound : span.pTracer = some tr) (minted : span.abSpanId ≠ Bytes.zero 8) :
    Sound ((t.setSpan s span).onChain (some tr) (s :: ·)) where
  seeded := sound.seeded
  minted := by
    intro r isOpen
    rw [spans_onChain, spans_setSpan] at isOpen ⊢
    by_cases same : r = s
    · subst same
      rwa [Function.update_self]
    · rw [Function.update_of_ne same] at isOpen ⊢
      exact sound.minted r isOpen
  nodup := by
    intro other
    have absent : s ∉ t.chains tr := by
      rw [sound.registered, closed]
      simp
    rw [chains_onChain]
    split
    next same =>
      cases same
      exact List.nodup_cons.mpr ⟨absent, sound.nodup tr⟩
    · exact sound.nodup other
  registered := by
    intro other r
    have before := sound.registered other r
    rw [chains_onChain, spans_onChain, spans_setSpan]
    by_cases this : r = s
    · subst this
      rw [closed] at before
      by_cases same : tr = other
      · simp [same, opens, bound]
      · simp [same, before, bound]
    · rw [Function.update_of_ne this, ← before]
      by_cases same : tr = other
      · simp [same, this]
      · simp [same]

/-- What `Begin` has minted: ids for the span that are not those of another call, and its frame. -/
theorem mintBegin_eq (cycle : TraceCycle) (s : SpanRef) (tr : TraceRef) (sName : StringOf 60)
    (eKind : ESpanKind) (sTraceParent : StringOf 60) :
    ∃ tt frames abTraceId abSpanId, tt.nXorState ≠ 0 ∧ abSpanId ≠ Bytes.zero 8 ∧
      t.mintBegin cycle s tr sName eKind sTraceParent =
        { t with taskTracer := tt, emitted := frames }.setSpan s { t.spans s with abTraceId, abSpanId } := by
  have seeded := TaskTracer.seedRng_ne_zero cycle sound.seeded
  unfold mintBegin
  extract_lets innermost traced minted frame ready
  have nonzero : minted.1 ≠ Bytes.zero 8 ∧ minted.2.nXorState ≠ 0 :=
    TaskTracer.mintSpanId_ne_zero (TaskTracer.traceIdFor_ne_zero _ _ seeded)
  split
  · exact ⟨minted.2, t.emitted, traced.1, minted.1, nonzero.2, nonzero.1, rfl⟩
  · exact ⟨{ minted.2 with nNextLocalId := minted.2.nNextLocalId + 1 }, t.emitted ++ [frame], traced.1, minted.1,
      nonzero.2, nonzero.1, rfl⟩

theorem Sound.endSpan (cycle : TraceCycle) (s : SpanRef) : Sound (t.endSpan cycle s) := by
  unfold Tracing.endSpan
  split
  next isOpen =>
    -- the error of the span goes no further than `setError`
    have told : (if (t.spans s).eStatus = .eError then t.setError s (t.spans s).sMsg else t) = t := ite_self t
    have written : Sound (t.emitEnd cycle s) := sound.emit _
    have stillOpen : ((t.emitEnd cycle s).spans s).bOpen = true := by rw [emitEnd_spans]; exact isOpen
    have closed := @Sound.close _ s { t.spans s with bOpen := false, eStatus := .eOk, sMsg := .empty 80 } written
      stillOpen rfl
    rw [emitEnd_spans] at closed
    rw [told]
    exact closed
  · exact sound

theorem Sound.begin (cycle : TraceCycle) (s : SpanRef) (sName : StringOf 60) (eKind : ESpanKind)
    (sTraceParent : StringOf 60) : Sound (t.begin cycle s sName eKind sTraceParent) := by
  unfold Tracing.begin
  split
  · exact sound
  next tr bound =>
    split
    · apply Sound.endSpan
      exact sound.setSpan rfl fun _ => ⟨rfl, rfl⟩
    next closed =>
      obtain ⟨tt, frames, abTraceId, abSpanId, seeded, minted, begun⟩ :=
        mintBegin_eq sound cycle s tr sName eKind sTraceParent
      rw [begun]
      have emitting := sound.emitting seeded frames
      have fresh : Sound ({ t with taskTracer := tt, emitted := frames }.setSpan s
          { t.spans s with abTraceId, abSpanId }) :=
        emitting.setSpan rfl fun isOpen => absurd isOpen closed
      refine fresh.open ?_ rfl ?_ ?_
      all_goals rw [spans_setSpan, Function.update_self]
      · exact Bool.eq_false_of_not_eq_true closed
      · exact bound
      · exact minted

theorem Sound.apply (call : TraceCycle × SpanCall) : Sound (t.apply call) := by
  obtain ⟨cycle, call⟩ := call
  cases call with
  | bindTracer s pTracer =>
    simp only [Tracing.apply, Tracing.bindTracer]
    split
    · exact sound
    next closed => exact sound.setSpan rfl fun isOpen => absurd isOpen closed
  | begin s sName eKind sTraceParent => exact sound.begin cycle s sName eKind sTraceParent
  | addAny s sKey stArg =>
    simp only [Tracing.apply, Tracing.addAny]
    split
    · split
      · exact sound
      · exact sound.emit _
    · exact sound
  | addEvent s sName =>
    simp only [Tracing.apply, Tracing.addEvent]
    split
    · exact sound.emit _
    · exact sound
  | markError s sMsg =>
    simp only [Tracing.apply, Tracing.markError]
    split
    · exact sound.setSpan rfl fun _ => ⟨rfl, rfl⟩
    · exact sound
  | endSpan s => exact sound.endSpan cycle s

theorem Sound.run (calls : List (TraceCycle × SpanCall)) : Sound (t.run calls) := by
  induction calls generalizing t with
  | nil => exact sound
  | cons call calls ih => exact ih (sound.apply call)

end

end

/-- For every DC time and task index at seeding, after any calls and any number of draws: the state of the
generator is not zero, and neither is an id that is minted then. -/
theorem minted_never_zero (pTracer : SpanRef → Option TraceRef) (sLogger : SpanRef → PlcString)
    (calls : List (TraceCycle × SpanCall)) (cycle : TraceCycle) (draws : Nat) :
    let tt := TaskTracer.draw^[draws] (((Tracing.initial pTracer sLogger).run calls).taskTracer.seedRng cycle)
    tt.nXorState ≠ 0 ∧ tt.mintTraceId.1 ≠ Bytes.zero 16 ∧ tt.mintSpanId.1 ≠ Bytes.zero 8 := by
  intro tt
  have before := ((Sound.initial pTracer sLogger).run calls).seeded
  have start : tt.nXorState ≠ 0 := TaskTracer.iterate_draw_ne_zero (TaskTracer.seedRng_ne_zero cycle before) draws
  exact ⟨start, TaskTracer.mintTraceId_ne_zero start, (TaskTracer.mintSpanId_ne_zero start).1⟩

end Tracing

/-- A span id comes again just when the generator is back where it was. -/
theorem TaskTracer.minted_again_iff (tt : TaskTracer) (n k : Nat) :
    (draw^[n + k] tt).mintSpanId.1 = (draw^[n] tt).mintSpanId.1 ↔ (draw^[k] tt).nXorState = tt.nXorState := by
  have state (m : Nat) : (draw^[m] tt).nXorState = nextRandom^[m] tt.nXorState :=
    (show Function.Semiconj nXorState draw nextRandom from fun _ => rfl).iterate_right m tt
  have injective : Function.Injective nextRandom := by
    intro x y same
    exact UInt64.toBitVec_inj.mp (Xorshifts.next_injective (Nat.succ_pos 12) (Nat.succ_pos 6) (Nat.succ_pos 16)
      (congrArg UInt64.toBitVec same))
  have drawn (m : Nat) : (draw^[m] tt).mintSpanId.1 = ulintBytes (nextRandom^[m + 1] tt.nXorState) := by
    rw [Function.iterate_succ_apply', ← state]
    rfl
  rw [drawn, drawn, ulintBytes_injective.eq_iff, Nat.add_right_comm, Function.iterate_add_apply,
    (injective.iterate _).eq_iff, state]

/-! ### Hashes of identifiers -/

/-- A round of the first stream of `F_HashTraceId`, and of `F_HashSpanId`. -/
def foldHi (hi : UInt64) (b : UInt8) : UInt64 := nextRandom (hi ^^^ b.toUInt64)

/-- A round of the second stream. -/
def foldLo (lo : UInt64) (b : UInt8) : UInt64 :=
  let lo := lo ^^^ (b.toUInt64 * 0x100000001B3)
  let lo := lo ^^^ (lo <<< 11)
  let lo := lo ^^^ (lo >>> 5)
  lo ^^^ (lo <<< 23)

def achHex : List UInt8 :=
  [0x30, 0x31, 0x32, 0x33, 0x34, 0x35, 0x36, 0x37, 0x38, 0x39, 0x61, 0x62, 0x63, 0x64, 0x65, 0x66]

/-- The digits of the bytes of a digest. -/
def hexText (achOut : List UInt8) : List UInt8 :=
  achOut.flatMap fun b : UInt8 => [achHex.getD ((b >>> 4) &&& 0x0F).toNat 0, achHex.getD (b &&& 0x0F).toNat 0]

/-- The characters that `F_HashTraceId` returns. -/
def hashTraceId (sTraceId : StringOf 80) : List UInt8 :=
  hexText ((ulintBytes (sTraceId.bytes.foldl foldHi 0x9E3779B97F4A7C15)).val ++
    (ulintBytes (sTraceId.bytes.foldl foldLo 0xC6BC279692B5C323)).val)

def hashSpanId (sSpanId : StringOf 80) : List UInt8 :=
  hexText (ulintBytes (sSpanId.bytes.foldl foldHi 0xD1B54A32D192ED03)).val

/-- `_ParseTraceParent` reads the digits back. -/
theorem hexBytes_hexText (achOut : List UInt8) : hexBytes (hexText achOut) = some achOut := by
  have digits : ∀ n < 256, hexBytes (hexText [UInt8.ofNat n]) = some [UInt8.ofNat n] := by decide +kernel
  induction achOut with
  | nil => rfl
  | cons b achOut ih =>
    have digit := digits b.toNat b.toNat_lt
    rw [UInt8.ofNat_toNat] at digit
    simp only [hexText, List.flatMap_cons, List.flatMap_nil, List.cons_append, List.nil_append, hexBytes,
      Option.bind_eq_bind, Option.bind_eq_some_iff] at digit ih ⊢
    obtain ⟨hi, high, lo, low, _, ⟨⟩, both⟩ := digit
    exact ⟨hi, high, lo, low, achOut, ih, congrArg (Option.map (· ++ achOut)) both⟩

/-- Folds over inputs that differ in one place differ: a round is a step of a generator from the state, xor
what the byte is spread to, and neither the step nor the spreading loses anything. -/
theorem foldl_ne {round : UInt64 → UInt8 → UInt64} {spread : UInt8 → UInt64}
    (steps : ∀ s b, (round s b).toBitVec = Xorshifts.next (i + 1) (j + 1) (k + 1) (s ^^^ spread b).toBitVec)
    (spreads : Function.Injective spread) (differ : x ≠ y) (before after : List UInt8) (seed : UInt64) :
    (before ++ x :: after).foldl round seed ≠ (before ++ y :: after).foldl round seed := by
  have mixed {s t : UInt64} {b c : UInt8} (same : round s b = round t c) : s ^^^ spread b = t ^^^ spread c := by
    have words := congrArg UInt64.toBitVec same
    rw [steps, steps] at words
    exact UInt64.toBitVec_inj.mp (Xorshifts.next_injective (by omega) (by omega) (by omega) words)
  have later : ∀ bytes : List UInt8, Function.Injective fun s => bytes.foldl round s := by
    intro bytes
    induction bytes with
    | nil => exact fun _ _ same => same
    | cons b bytes ih => exact fun _ _ same => (UInt64.xor_left_inj (spread b)).mp (mixed (ih same))
  rw [List.foldl_append, List.foldl_append]
  exact fun same => differ (spreads ((UInt64.xor_right_inj _).mp (mixed (later after same))))

theorem toUInt64_injective : Function.Injective UInt8.toUInt64 :=
  fun _ _ same => UInt8.toNat_inj.mp (congrArg UInt64.toNat same)

/-- The product of a byte and the factor fits the word. -/
theorem scaled_injective : Function.Injective fun b : UInt8 => b.toUInt64 * 0x100000001B3 := by
  intro x y same
  have fits (b : UInt8) : (b.toUInt64 * 0x100000001B3).toNat = b.toNat * 0x100000001B3 := by
    have := b.toNat_lt
    simp only [UInt64.toNat_mul, UInt8.toNat_toUInt64, UInt64.reduceToNat]
    omega
  have products : (x.toUInt64 * 0x100000001B3).toNat = (y.toUInt64 * 0x100000001B3).toNat :=
    congrArg UInt64.toNat same
  rw [fits, fits] at products
  exact UInt8.toNat_inj.mp (Nat.eq_of_mul_eq_mul_right (by norm_num) products)

/-- Identifiers that differ in one byte differ in both halves of their trace ids and in their span ids. -/
theorem hashes_differ (sFirst sSecond : StringOf 80) (before after : List UInt8) (x y : UInt8)
    (first : sFirst.bytes = before ++ x :: after) (second : sSecond.bytes = before ++ y :: after)
    (differ : x ≠ y) :
    (hashTraceId sFirst).take 16 ≠ (hashTraceId sSecond).take 16 ∧
      (hashTraceId sFirst).drop 16 ≠ (hashTraceId sSecond).drop 16 ∧ hashSpanId sFirst ≠ hashSpanId sSecond := by
  have hi : ∀ seed, (before ++ x :: after).foldl foldHi seed ≠ (before ++ y :: after).foldl foldHi seed :=
    foldl_ne (fun _ _ => rfl : ∀ s b, _ = Xorshifts.next (12 + 1) (6 + 1) (16 + 1) _) toUInt64_injective differ before after
  have lo : ∀ seed, (before ++ x :: after).foldl foldLo seed ≠ (before ++ y :: after).foldl foldLo seed :=
    foldl_ne (fun _ _ => rfl : ∀ s b, _ = Xorshifts.next (10 + 1) (4 + 1) (22 + 1) _) scaled_injective differ before after
  have length (v : UInt64) : (hexText (ulintBytes v).val).length = 16 := by
    simp [hexText, (ulintBytes v).property]
  have apart {v w : UInt64} (other : v ≠ w) : hexText (ulintBytes v).val ≠ hexText (ulintBytes w).val := by
    intro same
    have bytes := congrArg hexBytes same
    rw [hexBytes_hexText, hexBytes_hexText, Option.some.injEq] at bytes
    exact other (ulintBytes_injective (Subtype.ext bytes))
  have halves (bytes lower : List UInt8) : hexText (bytes ++ lower) = hexText bytes ++ hexText lower :=
    List.flatMap_append
  rw [hashTraceId, hashTraceId, hashSpanId, hashSpanId, first, second, halves, halves, List.take_left' (length _),
    List.take_left' (length _), List.drop_left' (length _), List.drop_left' (length _)]
  exact ⟨apart (hi _), apart (lo _), apart (hi _)⟩

/-- The identifiers `A` and `B`. -/
def sampleFirst : StringOf 80 := ⟨⟨[65], by decide, by decide⟩, by decide⟩

def sampleSecond : StringOf 80 := ⟨⟨[66], by decide, by decide⟩, by decide⟩

theorem samples_hashed_apart :
    (hashTraceId sampleFirst).take 16 ≠ (hashTraceId sampleSecond).take 16 ∧
      (hashTraceId sampleFirst).drop 16 ≠ (hashTraceId sampleSecond).drop 16 ∧
        hashSpanId sampleFirst ≠ hashSpanId sampleSecond :=
  hashes_differ sampleFirst sampleSecond [] [] 65 66 rfl rfl (by decide)

end TcOtel.Plc
