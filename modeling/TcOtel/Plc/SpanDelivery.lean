import TcOtel.Plc.ArgumentDecoding
import TcOtel.Plc.OtelTask
import TcOtel.Plc.Tracing
import TcOtel.Service.SpanIndex

/-!
# What of a span reaches the service

Two things that the library means to deliver and does not. An error that `MarkError` has set
ends in `SetError` of the task tracer: SPAN_END always has the status 1 and no message, so that
no record of an ended span reports an error. And a span that is given to a log message with
`WithSpan` is kept in the builder and read by nobody: the entry is one without ids.
-/

namespace TcOtel.Plc

open Decoding Ads Service

/-! ### The end of a span -/

namespace Tracing

def endFrame (cycle : TraceCycle) (span : Span) : SpanFrame :=
  .spanEnd {
    abSpanId := span.abSpanId, nTaskIdx := cycle.nTaskIdx, nDcTime := cycle.nowDcTime, nStatus := 1, nMsgLen := 0 }

def endEvent (cycle : TraceCycle) (span : Span) : SpanEnd where
  spanId := span.abSpanId
  taskIndex := cycle.nTaskIdx
  flags := 0
  dcTime := cycle.nowDcTime
  status := 1
  message := ""

variable {t : Tracing} {cycle : TraceCycle} {s : SpanRef}

/-- Whatever the status of the span is, `End` writes the same frame, or none. -/
theorem emitted_endSpan : (t.endSpan cycle s).emitted =
      if (t.spans s).bOpen = true ∧ 23 ≤ cycle.bufferFree then t.emitted ++ [endFrame cycle (t.spans s)]
      else t.emitted := by
  have told : (if (t.spans s).eStatus = .eError then t.setError s (t.spans s).sMsg else t) = t := ite_self t
  have written : (t.emitEnd cycle s).emitted =
      if 23 ≤ cycle.bufferFree then t.emitted ++ [endFrame cycle (t.spans s)] else t.emitted := emitted_emit
  unfold endSpan
  rw [told]
  by_cases isOpen : (t.spans s).bOpen = true
  · simp only [isOpen, if_true, true_and]
    rw [emitted_setSpan, emitted_onChain, written]
  · simp [isOpen]

end Tracing

open Tracing

/-- The service when a frame of a span arrives: the payload around the frame, the calls that the
dispatcher has served, and the call in which it serves the event. -/
structure Reception where
  env : Env
  payloadBefore : List UInt8
  payloadAfter : List UInt8
  cfg : Config
  served : List Call
  tick : Tick
  netId : AmsNetId
  port : UInt16

namespace Reception

variable (r : Reception)

def dispatcher : SpanDispatcher := serveAll r.cfg r.served

/-- The record that is exported when the span is ended: `End` writes a frame, it is decoded where
it stands, and the dispatcher makes a record when it serves the event. -/
def ExportsOnEnd (t : Tracing) (cycle : TraceCycle) (s : SpanRef) (record : TraceRecord) : Prop :=
  ∃ frame ev sent,
    (t.endSpan cycle s).emitted = t.emitted ++ [frame] ∧
    MessageAt r.env (r.payloadBefore ++ (frame.bytes ++ r.payloadAfter)) r.payloadBefore.length
      (.traceEvent ev) ∧
    (r.dispatcher.serve r.cfg ⟨r.tick, .event r.netId r.port ev⟩).traceTx = r.dispatcher.traceTx ++ [sent] ∧
    sent.record = record

def ReportsError (t : Tracing) (cycle : TraceCycle) (s : SpanRef) (sMsg : StringOf 80) : Prop :=
  ∃ record, r.ExportsOnEnd t cycle s record ∧ record.statusCode = SpanStatusCode.error.asI32 ∧
    utf8Bytes record.statusMessage = sMsg.bytes

variable {r} {t : Tracing} {cycle : TraceCycle} {s : SpanRef}

theorem messageAt_endFrame_iff (span : Span) (message : Message) :
    MessageAt r.env (r.payloadBefore ++ ((endFrame cycle span).bytes ++ r.payloadAfter))
        r.payloadBefore.length message ↔ message = .traceEvent (.spanEnd (endEvent cycle span)) :=
  SpanFrame.messageAt_iff rfl r.env r.payloadBefore r.payloadAfter message

/-- Every record that is exported on an end says that the span went well. -/
theorem ExportsOnEnd.status (exported : r.ExportsOnEnd t cycle s record) :
    record.statusCode = SpanStatusCode.ok.asI32 ∧ record.statusMessage = "" := by
  obtain ⟨frame, ev, sent, emitted, decoded, served, rfl⟩ := exported
  rw [emitted_endSpan] at emitted
  split at emitted
  · cases List.append_cancel_left emitted
    have event := (messageAt_endFrame_iff (t.spans s) _).mp decoded
    cases event
    have found : (r.dispatcher.onEnd r.cfg r.tick (endEvent cycle (t.spans s))).traceTx =
        r.dispatcher.traceTx ++ [sent] := served
    unfold SpanDispatcher.onEnd at found
    split at found
    · split at found
      · -- the record is made of the status and the message of the event
        cases List.append_cancel_left found
        exact ⟨rfl, rfl⟩
      · simp at found
    · simp at found
  · simp at emitted

/-- A span that is open in the PLC and pending in the service is exported when it ends. -/
theorem exportsOnEnd_of_pending (isOpen : (t.spans s).bOpen = true) (room : 23 ≤ cycle.bufferFree)
    (indexed : r.dispatcher.pendingBySpanId.lookup (t.spans s).abSpanId = some key)
    (pending : r.dispatcher.pending.lookup key = some p) : ∃ record, r.ExportsOnEnd t cycle s record := by
  have ends : r.dispatcher.onEnd r.cfg r.tick (endEvent cycle (t.spans s)) = _ :=
    (wellKeyed_serveAll r.cfg r.served).onEnd_eq indexed pending
  refine ⟨_, endFrame cycle (t.spans s), .spanEnd (endEvent cycle (t.spans s)), _, ?_,
    (messageAt_endFrame_iff _ _).mpr rfl, congrArg SpanDispatcher.traceTx ends, rfl⟩
  rw [emitted_endSpan, if_pos ⟨isOpen, room⟩]

theorem not_reportsError (r : Reception) (t : Tracing) (cycle : TraceCycle) (s : SpanRef) (sMsg : StringOf 80) :
    ¬r.ReportsError t cycle s sMsg := by
  rintro ⟨record, exported, isError, -⟩
  rw [exported.status.1] at isError
  exact absurd isError (by decide)

/-- In no run is a span that was marked as failed exported as such when it ends, whatever it is
marked with and whatever happens to it and to other spans in between. -/
theorem markError_not_reportsError (r : Reception) (pTracer : SpanRef → Option TraceRef)
    (sLogger : SpanRef → PlcString) (before between : List (TraceCycle × SpanCall)) (s : SpanRef)
    (sMsg : StringOf 80) (cycle : TraceCycle) :
    ¬r.ReportsError ((((initial pTracer sLogger).run before).markError s sMsg).run between) cycle s
      sMsg :=
  r.not_reportsError _ cycle s sMsg

end Reception

/-! ### A span that is marked as failed -/

/-- Task 1 with room in its buffer. -/
def sampleCycle : TraceCycle := ⟨⟨1, 7, 133000000000000000, 5, 5⟩, 1024⟩

/-- A tracer and no instance path for each span. -/
def untraced : Tracing := .initial (fun _ => some 0) fun _ => .empty

def beginPump : TraceCycle × SpanCall :=
  (sampleCycle, .begin 0 ⟨⟨[112, 117, 109, 112], by decide, by decide⟩, by decide⟩ .eInternal (.empty 60))

def sDry : StringOf 80 := ⟨⟨[100, 114, 121], by decide, by decide⟩, by decide⟩

def pumpFailed : Tracing := (untraced.run [beginPump]).markError 0 sDry

/-- A service that has got the frames so far, one event a call. -/
def pumpReception : Reception where
  env := .atEpoch
  payloadBefore := []
  payloadAfter := []
  cfg := sampleConfig
  served := (pumpFailed.emitted.filterMap SpanFrame.event?).map fun ev => ⟨.atInstant 1, .event (plc 1) 350 ev⟩
  tick := .atInstant 2
  netId := plc 1
  port := 350

/-- The record says that all went well. -/
theorem pumpFailed_not_reportsError :
    (pumpFailed.spans 0).bOpen = true ∧ (pumpFailed.spans 0).eStatus = .eError ∧
      (pumpFailed.spans 0).sMsg = sDry ∧
      (∃ record, pumpReception.ExportsOnEnd pumpFailed sampleCycle 0 record ∧
        record.statusCode = SpanStatusCode.ok.asI32 ∧ record.statusMessage = "") ∧
      ¬pumpReception.ReportsError pumpFailed sampleCycle 0 sDry := by
  have exported : ∃ record, pumpReception.ExportsOnEnd pumpFailed sampleCycle 0 record := by
    have pending : (pumpReception.dispatcher.pendingBySpanId.lookup (pumpFailed.spans 0).abSpanId).bind
        (fun key => (pumpReception.dispatcher.pending.lookup key).map PendingSpan.name) = some "pump" := by
      decide +kernel
    obtain ⟨key, indexed, found⟩ := Option.bind_eq_some_iff.mp pending
    obtain ⟨p, found, -⟩ := Option.map_eq_some_iff.mp found
    exact Reception.exportsOnEnd_of_pending (by decide +kernel) (by decide) indexed found
  obtain ⟨record, exported⟩ := exported
  exact ⟨by decide +kernel, by decide +kernel, by decide +kernel, ⟨record, exported, exported.status⟩,
    pumpReception.not_reportsError _ _ _ _⟩

/-! ### A log message with a span -/

/-- Where the entry of the statement stands in the log buffer, the service decodes one that has
the ids of the span. -/
def CarriesSpan (env : Env) (st : LogStatement) (task : Task) (s : Logging) (after : List UInt8) (span : Span) :
    Prop :=
  ∃ entry, MessageAt env ((st.perform task s).buffer.used ++ after) s.buffer.used.length (.log entry) ∧
    entry.traceId = span.abTraceId ∧ entry.spanId = span.abSpanId

theorem ids_of_messageAt (decoded : MessageAt env (before ++ 2 :: rest) before.length (.log entry)) :
    entry.traceId = Bytes.zero 16 ∧ entry.spanId = Bytes.zero 8 := by
  obtain ⟨kind, next, type, ran⟩ := decoded
  have isV2 : typeAt (before ++ 2 :: rest) before.length = some .v2 := by
    rw [typeAt, List.getElem?_append_right (Nat.le_refl _), Nat.sub_self]
    rfl
  rw [isV2] at type
  cases type
  obtain ⟨read, _, parsed, done⟩ := Decoder.bind_eq_ok ran
  cases done
  exact (Yields.bind (fun _ => .bind fun _ => yields_framed (yields_readLogBody ..)) parsed).2

theorem not_carriesSpan (minted : span.abSpanId ≠ Bytes.zero 8) (active : isLogLevelActive task st.level = true)
    (fits : s.buffer.nBufferCount ≤ s.buffer.aBuffer.length)
    (room : (st.encode task.info).length ≤ s.buffer.bufferFree) : ¬CarriesSpan env st task s after span := by
  rintro ⟨entry, decoded, -, spanId⟩
  rw [st.perform_used task s active fits room, List.append_assoc] at decoded
  -- the entry was started as one of version 2, whether a span was given before or after
  have ids := ids_of_messageAt decoded
  exact minted (spanId.symm.trans ids.2)

/-- No log message carries the ids of an open span that it was given, with whatever arguments
before and after. -/
theorem withSpan_not_carriesSpan (env : Env) (st : LogStatement) (task : Task) (s : Logging)
    (after : List UInt8) (pTracer : SpanRef → Option TraceRef) (sLogger : SpanRef → PlcString)
    (calls : List (TraceCycle × SpanCall)) (span : SpanRef) (_given : .withSpan span ∈ st.calls)
    (isOpen : (((initial pTracer sLogger).run calls).spans span).bOpen = true)
    (active : isLogLevelActive task st.level = true) (fits : s.buffer.nBufferCount ≤ s.buffer.aBuffer.length)
    (room : (st.encode task.info).length ≤ s.buffer.bufferFree) :
    ¬CarriesSpan env st task s after (((initial pTracer sLogger).run calls).spans span) := by
  have sound := (Tracing.Sound.initial pTracer sLogger).run calls
  exact not_carriesSpan (sound.minted span isOpen) active fits room

/-- An error `'dry'` with an `INT` before and after the span of the pump. -/
def logWithSpan : LogStatement where
  message := sDry.val
  logger := sGlobalLogger
  level := .error
  calls := [.withAnyArg (some (.basic (.int 5))), .withSpan 0, .withAnyArg (some (.basic (.int 6)))]
  taskContext := []
  scopedContexts := []
  handled := by simp +contextual
  scoped_le := oneProperty.scoped_le
  task_fits := oneProperty.log_fits
  scoped_fits := oneProperty.scoped_fits
  log_fits := by simp

theorem withSpan_not_carriesSpan_sample :
    ¬CarriesSpan .atEpoch logWithSpan sampleTask (.initial 1024) [] ((untraced.run [beginPump]).spans 0) :=
  withSpan_not_carriesSpan .atEpoch logWithSpan sampleTask (.initial 1024) [] (fun _ => some 0)
    (fun _ => .empty) [beginPump] 0 (by decide) (by decide +kernel) (by decide) (Nat.zero_le _)
    (by decide +kernel)

/-- The entry is decoded with both arguments and with zeros for the ids. -/
theorem logWithSpan_not_carriesSpan : ((untraced.run [beginPump]).spans 0).bOpen = true ∧
      (parseAll .atEpoch (logWithSpan.perform sampleTask (.initial 1024)).buffer.used).map (fun
        | .ok result => result.entries.map fun entry => (entry.arguments.len, entry.traceId, entry.spanId)
        | _ => []) = some [(2, Bytes.zero 16, Bytes.zero 8)] ∧
      ¬CarriesSpan .atEpoch logWithSpan sampleTask (.initial 1024) [] ((untraced.run [beginPump]).spans 0) := by
  have isOpen : ((untraced.run [beginPump]).spans 0).bOpen = true := by decide +kernel
  have sound : (untraced.run [beginPump]).Sound := (Tracing.Sound.initial _ _).run [beginPump]
  refine ⟨isOpen, by decide +kernel, ?_⟩
  exact not_carriesSpan (sound.minted 0 isOpen) (by decide) (Nat.zero_le _) (by decide +kernel)

end TcOtel.Plc
