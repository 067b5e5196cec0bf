import TcOtel.Plc.SpanDelivery

/-!
# `Begin` of a span

`Begin` of a span that is not open writes a frame with new ids, if there is room for it. A span
that is still open is ended with an error, and no other one is begun.
-/

namespace TcOtel.Plc

open Decoding

namespace Tracing

section

variable {t : Tracing} {s : SpanRef} {tr : TraceRef} (cycle : TraceCycle) (sName : StringOf 60) (eKind : ESpanKind)
  (sTraceParent : StringOf 60)

theorem begin_of_open (isOpen : (t.spans s).bOpen = true) (bound : (t.spans s).pTracer = some tr) :
    t.begin cycle s sName eKind sTraceParent =
      (t.setSpan s { t.spans s with eStatus := .eError, sMsg := sBegunTwice }).endSpan cycle s := by
  simp [begin, bound, isOpen]

theorem begin_of_closed (closed : (t.spans s).bOpen = false) (bound : (t.spans s).pTracer = some tr) :
    t.begin cycle s sName eKind sTraceParent = ((t.mintBegin cycle s tr sName eKind sTraceParent).setSpan s
        { (t.mintBegin cycle s tr sName eKind sTraceParent).spans s with
          bOpen := true, eStatus := .eOk, sMsg := .empty 80 }).onChain (some tr) (s :: ·) := by
  simp [begin, bound, closed]

end

/-- What `Begin` is for: the span is open and the innermost one of its tracer, and it has the id of
the frame that was written last. An open span is ended with an error first. -/
def Begins (t : Tracing) (cycle : TraceCycle) (s : SpanRef) (tr : TraceRef) (t' : Tracing) : Prop :=
  (t'.spans s).bOpen = true ∧ (t'.chains tr).head? = some s ∧
    ∃ ended frame, t'.emitted = t.emitted ++ ended ++ [.spanBegin frame] ∧
      frame.abSpanId = (t'.spans s).abSpanId ∧
      ended = if (t.spans s).bOpen then
        [.spanEnd {
          abSpanId := (t.spans s).abSpanId, nTaskIdx := cycle.nTaskIdx, nDcTime := cycle.nowDcTime
          nStatus := ESpanStatus.eError.code, nMsgLen := 0 }]
      else []

/-- The frame of a new span, from the tracer before it and after it. -/
def beginFrame (t t' : Tracing) (cycle : TraceCycle) (s : SpanRef) (tr : TraceRef) (sName : StringOf 60)
    (eKind : ESpanKind) (sTraceParent : StringOf 60) : SpanBeginFrame where
  nLocalId := t.taskTracer.nNextLocalId
  nTaskIdx := cycle.nTaskIdx
  nDcTime := cycle.nowDcTime
  abParentSpanId :=
    ((if sTraceParent.bytes = [] then (t.chains tr).head? else none).map fun outer =>
      (t.spans outer).abSpanId).getD (Bytes.zero 8)
  eKind
  abTraceId := (t'.spans s).abTraceId
  abSpanId := (t'.spans s).abSpanId
  sName := sName.bytes
  sTraceParent := sTraceParent.bytes
  sLogger := (t.spans s).sLogger.bytes.take 127
  name_le := sName.property.trans (by decide)
  traceParent_le := sTraceParent.property.trans (by decide)
  logger_le := List.length_take_le ..

def beginLen (t : Tracing) (s : SpanRef) (sName sTraceParent : StringOf 60) : Nat :=
  48 + sName.bytes.length + (tail sTraceParent.bytes).length + (tail ((t.spans s).sLogger.bytes.take 127)).length

section

variable {t : Tracing} {s : SpanRef} {tr : TraceRef} {cycle : TraceCycle} {sName : StringOf 60} {eKind : ESpanKind}
  {sTraceParent : StringOf 60}

/-- Only a frame that is written takes a local id. -/
theorem nNextLocalId_minted (sTraceParent : List UInt8) (inherited : Option (Bytes 16)) (tt : TaskTracer) :
    (((tt.seedRng cycle).traceIdFor sTraceParent inherited).2.mintSpanId).2.nNextLocalId = tt.nNextLocalId := by
  have seeded : (tt.seedRng cycle).nNextLocalId = tt.nNextLocalId := by
    unfold TaskTracer.seedRng
    split <;> rfl
  unfold TaskTracer.traceIdFor
  split
  · exact seeded
  · split <;> exact seeded

theorem emitted_mintBegin : (t.mintBegin cycle s tr sName eKind sTraceParent).emitted =
      if t.beginLen s sName sTraceParent ≤ cycle.bufferFree then t.emitted ++ [.spanBegin
          (t.beginFrame (t.mintBegin cycle s tr sName eKind sTraceParent) cycle s tr sName eKind sTraceParent)]
      else t.emitted := by
  have short (text : StringOf 60) : text.bytes.take 127 = text.bytes :=
    List.take_of_length_le (text.property.trans (by decide))
  unfold mintBegin
  extract_lets innermost traced minted frame span ready
  have length : frame.nTotalLen = t.beginLen s sName sTraceParent := by
    simp [frame, SpanFrame.nTotalLen, beginLen, SpanFrame.length_tail, short]
  have own : ready.spans s = { t.spans s with abTraceId := traced.1, abSpanId := minted.1 } :=
    Function.update_self ..
  rw [length]
  by_cases room : t.beginLen s sName sTraceParent ≤ cycle.bufferFree
  · rw [if_neg (Nat.not_lt.mpr room), if_pos room]
    have same : frame = .spanBegin (t.beginFrame ready cycle s tr sName eKind sTraceParent) := by
      simp [frame, beginFrame, own, short, minted, traced, nNextLocalId_minted, innermost]
    exact congrArg (fun f => t.emitted ++ [f]) same
  · rw [if_pos (Nat.lt_of_not_le room), if_neg room]
    rfl

theorem begins_iff (bound : (t.spans s).pTracer = some tr) :
    t.Begins cycle s tr (t.begin cycle s sName eKind sTraceParent) ↔
      (t.spans s).bOpen = false ∧ t.beginLen s sName sTraceParent ≤ cycle.bufferFree := by
  cases isOpen : (t.spans s).bOpen with
  | true =>
    rw [begin_of_open cycle sName eKind sTraceParent isOpen bound]
    simp [Begins, endSpan, isOpen]
  | false =>
    rw [begin_of_closed cycle sName eKind sTraceParent isOpen bound]
    simp only [Begins, isOpen, emitted_onChain, emitted_setSpan, emitted_mintBegin, spans_onChain, spans_setSpan,
      Function.update_self, Bool.false_eq_true, if_false, true_and]
    constructor
    · rintro ⟨-, _, _, written, -, rfl⟩
      by_contra full
      simp [if_neg full] at written
    · intro room
      refine ⟨by simp [onChain], [], t.beginFrame _ cycle s tr sName eKind sTraceParent, ?_, rfl, rfl⟩
      rw [if_pos room, List.append_nil]

end

/-- After every run, `Begin` of a bound span begins it if it is not open and there is room for the
frame. An open span is only ended, although a new one is to be started. -/
theorem begin_begins_iff (pTracer : SpanRef → Option TraceRef) (sLogger : SpanRef → PlcString)
    (calls : List (TraceCycle × SpanCall)) (cycle : TraceCycle) (s : SpanRef) (tr : TraceRef) (sName : StringOf 60)
    (eKind : ESpanKind) (sTraceParent : StringOf 60)
    (bound : (((Tracing.initial pTracer sLogger).run calls).spans s).pTracer = some tr) :
    ((Tracing.initial pTracer sLogger).run calls).Begins cycle s tr
        (((Tracing.initial pTracer sLogger).run calls).begin cycle s sName eKind sTraceParent) ↔
      (((Tracing.initial pTracer sLogger).run calls).spans s).bOpen = false ∧
        ((Tracing.initial pTracer sLogger).run calls).beginLen s sName sTraceParent ≤ cycle.bufferFree :=
  begins_iff bound

/-- The pump is begun for the first time. -/
theorem begin_begins_iff_pump :
    untraced.Begins sampleCycle 0 0 (untraced.begin sampleCycle 0 (.empty 60) .eInternal (.empty 60)) :=
  (begin_begins_iff (fun _ => some 0) (fun _ => .empty) [] sampleCycle 0 0 (.empty 60) .eInternal (.empty 60) rfl).mpr
    (by decide)

/-- The pump is begun a second time, and is not open afterwards. -/
theorem begunTwice_not_begins : ((untraced.run [beginPump]).spans 0).pTracer = some 0 ∧
      ¬ (untraced.run [beginPump]).Begins sampleCycle 0 0
        ((untraced.run [beginPump]).begin sampleCycle 0 (.empty 60) .eInternal (.empty 60)) := by
  have bound : ((untraced.run [beginPump]).spans 0).pTracer = some 0 := by decide
  have isOpen : ((untraced.run [beginPump]).spans 0).bOpen = true := by decide
  refine ⟨bound, fun begins => ?_⟩
  have closed := ((begins_iff bound).mp begins).1
  rw [isOpen] at closed
  cases closed

end Tracing

/-! ### The header of a span -/

/-- The property `TraceParent`. -/
def Span.traceParent (span : Span) : List UInt8 :=
  if span.bOpen then
    [0x30, 0x30, 0x2D] ++ (hexText span.abTraceId.val ++ 0x2D :: (hexText span.abSpanId.val ++ [0x2D, 0x30, 0x31]))
  else []

theorem length_hexText (id : Bytes n) : (hexText id.val).length = n * 2 := by
  simp [hexText, id.property]

/-- The digits are those of the service, and no hyphen is among them. -/
theorem utf8Bytes_hexDigits (achOut : List UInt8) :
    utf8Bytes (hexEncode achOut) = hexText achOut ∧ '-' ∉ (hexEncode achOut).toList := by
  have digits : ∀ n < 256, utf8Bytes (hexEncode [UInt8.ofNat n]) = hexText [UInt8.ofNat n] ∧
      '-' ∉ (hexEncode [UInt8.ofNat n]).toList := by decide +kernel
  rw [utf8Bytes_eq_flatMap]
  induction achOut with
  | nil => exact ⟨rfl, List.not_mem_nil⟩
  | cons b achOut ih =>
    have digit := digits b.toNat b.toNat_lt
    rw [UInt8.ofNat_toNat, utf8Bytes_eq_flatMap] at digit
    have chars : (hexEncode (b :: achOut)).toList = (hexEncode [b]).toList ++ (hexEncode achOut).toList := by
      simp [hexEncode]
    rw [chars, List.flatMap_append, digit.1, ih.1, List.mem_append, not_or]
    exact ⟨rfl, digit.2, ih.2⟩

theorem utf8Length_toList (s : String) : Service.utf8Length s.toList = (utf8Bytes s).length := by
  simp [Service.utf8Length, utf8Bytes_eq_flatMap, List.length_flatMap]

end TcOtel.Plc
