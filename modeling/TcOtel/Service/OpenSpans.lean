import TcOtel.Lib.Refinement
import TcOtel.Service.LogEnrichment
import TcOtel.Service.SpanLife

/-!
# The spans that are open in the wire stream

What `current_context` is for: at every point of what a PLC writes, each of its tasks has an
innermost open span.
-/

namespace TcOtel.Service

open Decoding Ads SpanDispatcher Refining

structure OpenSpan where
  netId : AmsNetId
  taskIndex : UInt8
  ids : Ids
deriving DecidableEq

def OpenSpan.key (o : OpenSpan) : SpanKey := ⟨o.netId, o.ids.2⟩

/-- The open spans in the order in which they were begun. -/
abbrev OpenSpans := List OpenSpan

namespace OpenSpans

def opened (key : SpanKey) (spans : OpenSpans) : Option OpenSpan := spans.find? fun o => o.key = key

def close (key : SpanKey) (spans : OpenSpans) : OpenSpans := spans.filter fun o => o.key ≠ key

/-- The trace of a new span: that of a traceparent, else that of the open parent, else its own. -/
def traceIdOf (netId : AmsNetId) (ev : SpanBegin) (spans : OpenSpans) : Bytes 16 :=
  match ev.traceparent with
  | some tp => ((parseW3cTraceparent tp).map Prod.fst).getD ev.traceId
  | none =>
    if ev.parentSpanId = Bytes.zero 8 then ev.traceId
    else ((spans.opened ⟨netId, ev.parentSpanId⟩).map fun o => o.ids.1).getD ev.traceId

def observe (netId : AmsNetId) (spans : OpenSpans) : TraceWireEvent → OpenSpans
  | .spanBegin ev =>
    spans.close ⟨netId, ev.spanId⟩ ++ [⟨netId, ev.taskIndex, (spans.traceIdOf netId ev, ev.spanId)⟩]
  | .spanEnd ev => spans.close ⟨netId, ev.spanId⟩
  | .spanAttr _ => spans
  | .spanEvent _ => spans

def innermost (netId : AmsNetId) (taskIndex : UInt8) (spans : OpenSpans) : Option OpenSpan :=
  (spans.filter fun o => o.netId = netId ∧ o.taskIndex = taskIndex).getLast?

end OpenSpans

end TcOtel.Service
