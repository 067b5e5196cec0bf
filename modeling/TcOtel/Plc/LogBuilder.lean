import TcOtel.Plc.LogEntry

/-!
# `FB_LogBuilder`

A log statement clears the builder, adds arguments and creates the log. The entry is started
by the first argument, or at the end if there is none. `CreateLog` adds the context records
of the task, of the open scopes and of the statement itself, in this order.
-/

namespace TcOtel.Plc

open Decoding Memory

/-! ### The methods -/

def ContextBuilder.addToLogEntry (eScope : EScope) (b : ContextBuilder) (w : Writing) : Writing :=
  (List.range b.nContextCount).foldl
    (fun w nIdx => w.addContext eScope (extract b.aBuffer (b.offset nIdx) (b.getSize nIdx))) w

def addInterfaceToLogEntry (eScope : EScope) (b : Option ContextBuilder) (w : Writing) : Writing :=
  match b with
  | some b => b.addToLogEntry eScope w
  | none => w

def sGlobalLogger : PlcString := ⟨[95, 71, 76, 79, 66, 65, 76, 95], by decide, by decide⟩

structure Task where
  info : TaskInfo
  bConnected : Bool
  eMaxLogLevel : Nat
  taskContext : Option ContextBuilder
  scopedContext : List (Option ContextBuilder)

abbrev SpanRef := Nat

structure LogBuilder where
  sMessage : PlcString
  eLogLevel : LogLevel
  sLogger : PlcString
  fbLogEntry : LogEntry
  iContextBuilder : Option ContextBuilder
  bStarted : Bool
  bError : Bool
  pSpan : Option SpanRef

structure Logging where
  builder : LogBuilder
  buffer : LogBuffer

def Logging.initial (nBufferLen : Nat) : Logging where
  builder :=
    { sMessage := .empty
      eLogLevel := .trace
      sLogger := sGlobalLogger
      fbLogEntry := ⟨0, 0, 0, false, 0, 0, 0, 0, 0, 0, false⟩
      iContextBuilder := none
      bStarted := false
      bError := false
      pSpan := none }
  buffer := ⟨List.replicate nBufferLen 0, 0⟩

def isLogLevelActive (task : Task) (eLogLevel : LogLevel) : Bool :=
  decide (eLogLevel.asU8.toNat ≥ task.eMaxLogLevel) && task.bConnected

namespace Logging

def onEntry (m : Writing → Writing) (s : Logging) : Logging :=
  let written := m ⟨s.builder.fbLogEntry, s.buffer⟩
  { builder := { s.builder with fbLogEntry := written.entry }, buffer := written.buffer }

def ensureStarted (task : Task) (s : Logging) : Logging :=
  if s.builder.bStarted || s.builder.bError then s
  else
    let started := s.onEntry (Writing.startV2 task.info (some s.builder.sLogger) s.builder.sMessage
      s.builder.eLogLevel 0 0)
    { started with builder := { started.builder with bStarted := true } }

def clear (task : Task) (sMessage : PlcString) (eLogLevel : LogLevel) (pLogger : Option PlcString)
    (s : Logging) : Logging :=
  let leveled : Logging := { s with builder := { s.builder with eLogLevel } }
  if isLogLevelActive task eLogLevel then
    let fresh := leveled.onEntry Writing.reset
    { fresh with builder := { fresh.builder with
        iContextBuilder := none
        pSpan := none
        sMessage
        sLogger := pLogger.getD sGlobalLogger
        bStarted := false
        bError := false } }
  else leveled

def withLogger (task : Task) (sLogger : PlcString) (s : Logging) : Logging :=
  if isLogLevelActive task s.builder.eLogLevel then { s with builder := { s.builder with sLogger } } else s

def withAnyArg (task : Task) (stArg : Option AnyArg) (s : Logging) : Logging :=
  if isLogLevelActive task s.builder.eLogLevel then
    (s.ensureStarted task).onEntry (Writing.addAnyArg 0 stArg)
  else s

def withTArg (task : Task) (stArg : Option TArg) (s : Logging) : Logging :=
  if isLogLevelActive task s.builder.eLogLevel then
    (s.ensureStarted task).onEntry (Writing.addTArg 0 stArg)
  else s

/-- `WithSpan`. The span is kept, but no method of the builder reads it. -/
def withSpan (task : Task) (span : SpanRef) (s : Logging) : Logging :=
  if isLogLevelActive task s.builder.eLogLevel then { s with builder := { s.builder with pSpan := some span } }
  else s

def withContext (task : Task) (iContextBuilder : Option ContextBuilder) (s : Logging) : Logging :=
  if isLogLevelActive task s.builder.eLogLevel then { s with builder := { s.builder with iContextBuilder } }
  else s

def createLog (task : Task) (s : Logging) : Logging :=
  if isLogLevelActive task s.builder.eLogLevel then
    let started := s.ensureStarted task
    let tasked := started.onEntry (addInterfaceToLogEntry .eTask task.taskContext)
    let nested := task.scopedContext.foldl
      (fun s context => s.onEntry (addInterfaceToLogEntry .eScoped context)) tasked
    let complete := nested.onEntry (addInterfaceToLogEntry .eLogger started.builder.iContextBuilder)
    complete.onEntry Writing.finish
  else s

end Logging

/-! ### Context records -/

def contextRecord (p : EScope × Property) : List UInt8 := p.1.code :: p.2.encode

def writeRecord (w : Writing) (p : EScope × Property) : Writing := w.addContext p.1 p.2.encode

theorem ContextBuilder.Holds.addToLogEntry_eq {b : ContextBuilder}
    (holds : b.Holds props) (eScope : EScope) (w : Writing) :
    b.addToLogEntry eScope w = (props.map (eScope, ·)).foldl writeRecord w := by
  -- from any record on, the loop goes over the records that are left
  have loop : ∀ rest done (w : Writing), props = done ++ rest →
      (List.range' done.length rest.length).foldl
        (fun w nIdx => w.addContext eScope (extract b.aBuffer (b.offset nIdx) (b.getSize nIdx))) w =
      (rest.map (eScope, ·)).foldl writeRecord w := by
    intro rest
    induction rest with
    | nil =>
      intro done w _
      rfl
    | cons p rest ih =>
      intro done w split
      have record := (split ▸ holds : b.Holds (done ++ p :: rest)).record_eq
      have later := ih (done ++ [p]) (w.addContext eScope p.encode) (by simp [split])
      rw [List.length_append, List.length_singleton] at later
      rw [List.length_cons, List.range'_succ, List.foldl_cons, record, later]
      rfl
  have all := loop props [] w rfl
  rw [ContextBuilder.addToLogEntry, holds.count, List.range_eq_range']
  exact all

theorem foldl_writeRecord {w : Writing} (props : List (EScope × Property)) (ready : w.Ready)
    (v2 : w.entry.bV2 = true) (xs : List UInt8) (args contexts : Nat)
    (room : (xs ++ props.flatMap contextRecord).length ≤ w.entry.nBufferRemaining) :
    props.foldl writeRecord (w.extend xs args contexts) =
      w.extend (xs ++ props.flatMap contextRecord) args (contexts + props.length) := by
  have loop := Writing.foldl_extend (m := writeRecord) (a := fun _ => 0) (c := fun _ => 1) props
    (fun p _ w ready v2 room => Writing.addContext_eq p.1 p.2.encode ready v2 room) ready v2 xs args
    contexts room
  simp only [List.map_const', List.sum_replicate, smul_eq_mul, Nat.mul_one] at loop
  exact loop

/-! ### The entry of a builder -/

namespace Logging

variable {s : Logging} {task : Task}

def writing (s : Logging) : Writing := ⟨s.builder.fbLogEntry, s.buffer⟩

@[simp] theorem writing_onEntry (m : Writing → Writing) : (s.onEntry m).writing = m s.writing := rfl

theorem onEntry_onEntry (m m' : Writing → Writing) :
    (s.onEntry m).onEntry m' = s.onEntry fun w => m' (m w) := rfl

theorem foldl_onEntry {ι : Type} (items : List ι) (m : Writing → ι → Writing) :
    items.foldl (fun s item => s.onEntry fun w => m w item) s = s.onEntry fun w => items.foldl m w := by
  induction items generalizing s with
  | nil => rfl
  | cons item items ih => rw [List.foldl_cons, ih]; rfl

theorem ensureStarted_of_started (started : s.builder.bStarted = true) : s.ensureStarted task = s := by
  simp [ensureStarted, started]

theorem writing_ensureStarted (unstarted : s.builder.bStarted = false) (noError : s.builder.bError = false) :
    (s.ensureStarted task).writing = s.writing.startV2 task.info (some s.builder.sLogger) s.builder.sMessage
      s.builder.eLogLevel 0 0 := by
  simp only [ensureStarted, unstarted, noError]
  rfl

theorem bStarted_ensureStarted (noError : s.builder.bError = false) :
    (s.ensureStarted task).builder.bStarted = true := by
  cases started : s.builder.bStarted with
  | true => rw [ensureStarted_of_started started, started]
  | false => simp [ensureStarted, started, noError]

@[simp] theorem ensureStarted_eLogLevel : (s.ensureStarted task).builder.eLogLevel = s.builder.eLogLevel := by
  unfold ensureStarted
  split <;> rfl

@[simp] theorem ensureStarted_iContextBuilder :
    (s.ensureStarted task).builder.iContextBuilder = s.builder.iContextBuilder := by
  unfold ensureStarted
  split <;> rfl

section

variable (active : isLogLevelActive task s.builder.eLogLevel = true)
include active

theorem withAnyArg_ensureStarted (noError : s.builder.bError = false) (stArg : Option AnyArg) :
    s.withAnyArg task stArg = (s.ensureStarted task).withAnyArg task stArg := by
  have again : (s.ensureStarted task).ensureStarted task = s.ensureStarted task :=
    ensureStarted_of_started (bStarted_ensureStarted noError)
  rw [withAnyArg, withAnyArg, ensureStarted_eLogLevel, if_pos active, if_pos active, again]

theorem withTArg_ensureStarted (noError : s.builder.bError = false) (stArg : Option TArg) :
    s.withTArg task stArg = (s.ensureStarted task).withTArg task stArg := by
  have again : (s.ensureStarted task).ensureStarted task = s.ensureStarted task :=
    ensureStarted_of_started (bStarted_ensureStarted noError)
  rw [withTArg, withTArg, ensureStarted_eLogLevel, if_pos active, if_pos active, again]

theorem createLog_eq : s.createLog task = (s.ensureStarted task).onEntry fun w =>
      (addInterfaceToLogEntry .eLogger s.builder.iContextBuilder
        (task.scopedContext.foldl (fun w context => addInterfaceToLogEntry .eScoped context w)
          (addInterfaceToLogEntry .eTask task.taskContext w))).finish := by
  have scopes : ∀ s : Logging, task.scopedContext.foldl
      (fun s context => s.onEntry (addInterfaceToLogEntry .eScoped context)) s =
        s.onEntry fun w => task.scopedContext.foldl
          (fun w context => addInterfaceToLogEntry .eScoped context w) w :=
    fun s => foldl_onEntry task.scopedContext fun w context => addInterfaceToLogEntry .eScoped context w
  rw [createLog, if_pos active]
  simp [scopes, onEntry_onEntry]

end

end Logging

end TcOtel.Plc
