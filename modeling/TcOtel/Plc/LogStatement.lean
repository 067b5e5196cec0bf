import TcOtel.Plc.LogBuilder

/-!
# Log statements

A statement is a `Clear`, any calls on the builder and a `CreateLog`. What the calls leave of
it is the logger that was set before the first argument, the arguments in their order, and
the context that was set last. `LogStatement.perform_used` says what a statement that finds
enough room adds to the log buffer.
-/

namespace TcOtel.Plc

open Decoding Memory Logging

/-! ### Calls on the builder -/

inductive BuilderCall where
  | withLogger (sLogger : PlcString)
  | withContext (props : List Property)
  | withAnyArg (stArg : Option AnyArg)
  | withTArg (stArg : Option TArg)
  | withSpan (span : SpanRef)
deriving DecidableEq

def BuilderCall.apply (task : Task) (s : Logging) : BuilderCall → Logging
  | withLogger sLogger => s.withLogger task sLogger
  | withContext props => s.withContext task (some (.ofProperties props))
  | withAnyArg stArg => s.withAnyArg task stArg
  | withTArg stArg => s.withTArg task stArg
  | withSpan span => s.withSpan task span

inductive Argument where
  | any (arg : AnyArg)
  | tArg (arg : TArg)
deriving DecidableEq

namespace Argument

def addTo (w : Writing) : Argument → Writing
  | any arg => w.addAnyArg 0 (some arg)
  | tArg arg => w.addTArg 0 (some arg)

def encode : Argument → List UInt8
  | any arg => arg.encodeV2
  | tArg arg => arg.encode 0

def counted : Argument → Nat
  | any _ => 1
  | tArg _ => 0

def isHandled : Argument → Bool
  | any .unhandled => false
  | _ => true

theorem length_encode_le (arg : Argument) : arg.encode.length ≤ 512 := by
  cases arg with
  | any arg => exact arg.length_encodeV2_le
  | tArg arg => exact arg.length_encode_le 0

theorem addTo_eq {arg : Argument} (handled : arg.isHandled = true) (ready : w.Ready)
    (v2 : w.entry.bV2 = true) (room : arg.encode.length ≤ w.entry.nBufferRemaining) :
    arg.addTo w = w.extend arg.encode arg.counted 0 := by
  cases arg with
  | any arg =>
    have known : arg ≠ .unhandled := by
      rintro rfl
      cases handled
    exact Writing.addAnyArg_eq known 0 ready v2 room
  | tArg arg => exact Writing.addTArg_eq arg 0 ready room

theorem foldl_addTo (arguments : List Argument) (handled : ∀ arg ∈ arguments, arg.isHandled = true)
    {w : Writing} (ready : w.Ready) (v2 : w.entry.bV2 = true) (xs : List UInt8) (args contexts : Nat)
    (room : (xs ++ arguments.flatMap encode).length ≤ w.entry.nBufferRemaining) :
    arguments.foldl addTo (w.extend xs args contexts) =
      w.extend (xs ++ arguments.flatMap encode) (args + (arguments.map counted).sum) contexts := by
  have loop := Writing.foldl_extend (m := addTo) (c := fun _ => 0) arguments
    (fun arg member w ready v2 room => addTo_eq (handled arg member) ready v2 room) ready v2 xs args
    contexts room
  simpa using loop

end Argument

open Argument

namespace BuilderCall

def argument? : BuilderCall → Option Argument
  | withAnyArg stArg => stArg.map .any
  | withTArg stArg => stArg.map .tArg
  | _ => none

/-- The logger of the entry: the first call for an argument starts the entry, with the logger
that is set then. -/
def loggerOf (sLogger : PlcString) : List BuilderCall → PlcString
  | [] => sLogger
  | withLogger sLogger :: calls => loggerOf sLogger calls
  | withAnyArg _ :: _ | withTArg _ :: _ => sLogger
  | withContext _ :: calls | withSpan _ :: calls => loggerOf sLogger calls

/-- The context that is set when the log is created. -/
def contextOf (context : Option (List Property)) : List BuilderCall → Option (List Property)
  | [] => context
  | withContext props :: calls => contextOf (some props) calls
  | _ :: calls => contextOf context calls

section

variable {task : Task} {s : Logging} (active : isLogLevelActive task s.builder.eLogLevel = true)

include active

theorem apply_eLogLevel (call : BuilderCall) : (call.apply task s).builder.eLogLevel = s.builder.eLogLevel := by
  cases call with
  | withLogger sLogger => rw [apply, Logging.withLogger, if_pos active]
  | withContext props => rw [apply, Logging.withContext, if_pos active]
  | withAnyArg stArg =>
    rw [apply, Logging.withAnyArg, if_pos active]
    exact ensureStarted_eLogLevel
  | withTArg stArg =>
    rw [apply, Logging.withTArg, if_pos active]
    exact ensureStarted_eLogLevel
  | withSpan span => rw [apply, Logging.withSpan, if_pos active]

section

variable (calls : List BuilderCall)

theorem foldl_eLogLevel : (calls.foldl (apply task) s).builder.eLogLevel = s.builder.eLogLevel := by
  induction calls generalizing s with
  | nil => rfl
  | cons call calls ih =>
    have same := apply_eLogLevel active call
    rw [List.foldl_cons, ih (by rw [same]; exact active), same]

theorem foldl_iContextBuilder (context : Option (List Property))
    (here : s.builder.iContextBuilder = context.map .ofProperties) :
    (calls.foldl (apply task) s).builder.iContextBuilder = (contextOf context calls).map .ofProperties := by
  induction calls generalizing s context with
  | nil => exact here
  | cons call calls ih =>
    have active' : isLogLevelActive task (call.apply task s).builder.eLogLevel = true := by
      rw [apply_eLogLevel active call]
      exact active
    cases call with
    | withLogger sLogger =>
      apply ih active'
      rw [apply, Logging.withLogger, if_pos active]
      exact here
    | withContext props =>
      apply ih active'
      rw [apply, Logging.withContext, if_pos active]
      rfl
    | withAnyArg stArg =>
      apply ih active'
      rw [apply, Logging.withAnyArg, if_pos active]
      exact ensureStarted_iContextBuilder.trans here
    | withTArg stArg =>
      apply ih active'
      rw [apply, Logging.withTArg, if_pos active]
      exact ensureStarted_iContextBuilder.trans here
    | withSpan span =>
      apply ih active'
      rw [apply, Logging.withSpan, if_pos active]
      exact here

theorem apply_of_started (call : BuilderCall) (started : s.builder.bStarted = true) :
    (call.apply task s).writing = call.argument?.toList.foldl addTo s.writing ∧
      (call.apply task s).builder.bStarted = true := by
  cases call with
  | withLogger sLogger =>
    rw [apply, Logging.withLogger, if_pos active]
    exact ⟨rfl, started⟩
  | withContext props =>
    rw [apply, Logging.withContext, if_pos active]
    exact ⟨rfl, started⟩
  | withSpan span =>
    rw [apply, Logging.withSpan, if_pos active]
    exact ⟨rfl, started⟩
  | withAnyArg stArg =>
    rw [apply, Logging.withAnyArg, if_pos active, Logging.ensureStarted_of_started started]
    refine ⟨?_, started⟩
    cases stArg with
    | none => exact Writing.addAnyArg_none 0
    | some arg => rfl
  | withTArg stArg =>
    rw [apply, Logging.withTArg, if_pos active, Logging.ensureStarted_of_started started]
    refine ⟨?_, started⟩
    cases stArg with
    | none => exact Writing.addTArg_none 0
    | some arg => rfl

theorem foldl_of_started (started : s.builder.bStarted = true) :
    (calls.foldl (apply task) s).writing = (calls.filterMap argument?).foldl addTo s.writing ∧
      (calls.foldl (apply task) s).builder.bStarted = true := by
  induction calls generalizing s with
  | nil => exact ⟨rfl, started⟩
  | cons call calls ih =>
    obtain ⟨first, still⟩ := apply_of_started active call started
    obtain ⟨rest, last⟩ := ih (by rw [apply_eLogLevel active call]; exact active) still
    refine ⟨?_, last⟩
    rw [List.foldl_cons, rest, first]
    cases argument : call.argument? <;> simp [argument]

theorem foldl_of_argument (unstarted : s.builder.bStarted = false) (noError : s.builder.bError = false)
    (same : call.apply task s = call.apply task (s.ensureStarted task)) :
    (((call :: calls).foldl (apply task) s).ensureStarted task).writing =
      ((call :: calls).filterMap argument?).foldl addTo (s.writing.startV2 task.info
        (some s.builder.sLogger) s.builder.sMessage s.builder.eLogLevel 0 0) := by
  have active' : isLogLevelActive task (s.ensureStarted task).builder.eLogLevel = true := by
    rw [ensureStarted_eLogLevel]
    exact active
  obtain ⟨written, started⟩ := foldl_of_started active' (call :: calls)
    (bStarted_ensureStarted noError)
  have whole : (call :: calls).foldl (apply task) s =
      (call :: calls).foldl (apply task) (s.ensureStarted task) := by
    rw [List.foldl_cons, List.foldl_cons, same]
  rw [whole, ensureStarted_of_started started, written,
    writing_ensureStarted unstarted noError]

/-- On an entry that is not started the first argument, or the end, starts it. -/
theorem foldl_of_unstarted (unstarted : s.builder.bStarted = false)
    (noError : s.builder.bError = false) : ((calls.foldl (apply task) s).ensureStarted task).writing =
      (calls.filterMap argument?).foldl addTo (s.writing.startV2 task.info
        (some (loggerOf s.builder.sLogger calls)) s.builder.sMessage s.builder.eLogLevel 0 0) := by
  induction calls generalizing s with
  | nil => exact writing_ensureStarted unstarted noError
  | cons call calls ih =>
    cases call with
    | withAnyArg stArg =>
      exact foldl_of_argument active calls unstarted noError
        (withAnyArg_ensureStarted active noError stArg)
    | withTArg stArg =>
      exact foldl_of_argument active calls unstarted noError
        (withTArg_ensureStarted active noError stArg)
    | withLogger sLogger =>
      rw [List.foldl_cons, apply, Logging.withLogger, if_pos active]
      exact ih active unstarted noError
    | withContext props =>
      rw [List.foldl_cons, apply, Logging.withContext, if_pos active]
      exact ih active unstarted noError
    | withSpan span =>
      rw [List.foldl_cons, apply, Logging.withSpan, if_pos active]
      exact ih active unstarted noError

end

end

end BuilderCall

open BuilderCall

/-! ### Statements -/

theorem length_flatMap_le {ι : Type} {items : List ι} {encode : ι → List UInt8} {limit : Nat}
    (each : ∀ item ∈ items, (encode item).length ≤ limit) :
    (items.flatMap encode).length ≤ items.length * limit := by
  have total := List.sum_le_card_nsmul (items.map fun item => (encode item).length) limit (by simpa using each)
  simpa using total

def nMaxScopedContext : Nat := 4

/-- A log statement and the contexts of the task in which it is executed. -/
structure LogStatement where
  message : PlcString
  logger : PlcString
  level : LogLevel
  calls : List BuilderCall
  taskContext : List Property
  scopedContexts : List (List Property)
  handled : ∀ arg, .withAnyArg (some arg) ∈ calls → arg ≠ .unhandled
  scoped_le : scopedContexts.length ≤ nMaxScopedContext
  task_fits : ContextBuilder.Fits taskContext
  scoped_fits : ∀ props ∈ scopedContexts, ContextBuilder.Fits props
  log_fits : ∀ props, .withContext props ∈ calls → ContextBuilder.Fits props

namespace LogStatement

def within (st : LogStatement) (task : Task) : Task :=
  { task with
    taskContext := some (.ofProperties st.taskContext)
    scopedContext := st.scopedContexts.map fun props => some (.ofProperties props) }

def perform (st : LogStatement) (task : Task) (s : Logging) : Logging :=
  let task := st.within task
  let cleared := s.clear task st.message st.level (some st.logger)
  (st.calls.foldl (BuilderCall.apply task) cleared).createLog task

def effectiveLogger (st : LogStatement) : PlcString := BuilderCall.loggerOf st.logger st.calls

def arguments (st : LogStatement) : List Argument := st.calls.filterMap BuilderCall.argument?

def logContext (st : LogStatement) : List Property := (BuilderCall.contextOf none st.calls).getD []

def properties (st : LogStatement) : List (EScope × Property) :=
  st.taskContext.map (EScope.eTask, ·) ++
    (st.scopedContexts.flatMap (fun props => props.map (EScope.eScoped, ·)) ++
      st.logContext.map (EScope.eLogger, ·))

theorem isHandled_of_mem {st : LogStatement} (member : arg ∈ st.arguments) : arg.isHandled = true := by
  obtain ⟨call, inCalls, found⟩ := List.mem_filterMap.mp member
  cases call with
  | withAnyArg stArg =>
    obtain ⟨any, rfl, rfl⟩ := Option.map_eq_some_iff.mp found
    have known := st.handled any inCalls
    cases any with
    | unhandled => exact absurd rfl known
    | _ => rfl
  | withTArg stArg =>
    obtain ⟨any, rfl, rfl⟩ := Option.map_eq_some_iff.mp found
    rfl
  | withLogger sLogger | withContext props | withSpan span => cases found

/-! ### What a statement writes -/

theorem fits_contextOf {calls : List BuilderCall} (context : Option (List Property))
    (here : ∀ props ∈ context, ContextBuilder.Fits props)
    (fits : ∀ props, .withContext props ∈ calls → ContextBuilder.Fits props) :
    ∀ props ∈ contextOf context calls, ContextBuilder.Fits props := by
  induction calls generalizing context with
  | nil => exact here
  | cons call calls ih =>
    have rest : ∀ props, .withContext props ∈ calls → ContextBuilder.Fits props :=
      fun props member => fits props (List.mem_cons_of_mem call member)
    cases call with
    | withContext props =>
      apply ih _ _ rest
      rintro other ⟨rfl⟩
      exact fits props List.mem_cons_self
    | withLogger _ | withAnyArg _ | withTArg _ | withSpan _ => exact ih context here rest

section

variable (st : LogStatement)

theorem contexts_eq (w : Writing) :
    addInterfaceToLogEntry .eLogger ((contextOf none st.calls).map .ofProperties)
      ((st.scopedContexts.map fun props => some (ContextBuilder.ofProperties props)).foldl
        (fun w context => addInterfaceToLogEntry .eScoped context w)
        (addInterfaceToLogEntry .eTask (some (.ofProperties st.taskContext)) w)) =
      st.properties.foldl writeRecord w := by
  have scopes : ∀ (contexts : List (List Property)) (w : Writing),
      (∀ props ∈ contexts, ContextBuilder.Fits props) →
      (contexts.map fun props => some (ContextBuilder.ofProperties props)).foldl
        (fun w context => addInterfaceToLogEntry .eScoped context w) w =
      (contexts.flatMap fun props => props.map (EScope.eScoped, ·)).foldl writeRecord w := by
    intro contexts
    induction contexts with
    | nil =>
      intro w _
      rfl
    | cons props contexts ih =>
      intro w fits
      have holds := ContextBuilder.holds_ofProperties (fits props List.mem_cons_self)
      rw [List.map_cons, List.foldl_cons, List.flatMap_cons, List.foldl_append,
        ih _ fun other member => fits other (List.mem_cons_of_mem props member)]
      simp [addInterfaceToLogEntry, holds.addToLogEntry_eq]
  have task := ContextBuilder.holds_ofProperties st.task_fits
  have log : ∀ w, addInterfaceToLogEntry .eLogger ((contextOf none st.calls).map .ofProperties) w =
      (st.logContext.map (EScope.eLogger, ·)).foldl writeRecord w := by
    intro w
    have fits := fits_contextOf none (by simp) st.log_fits
    rw [logContext]
    cases context : contextOf none st.calls with
    | none => rfl
    | some props =>
      have holds := ContextBuilder.holds_ofProperties (fits props context)
      exact holds.addToLogEntry_eq .eLogger w
  rw [scopes _ _ st.scoped_fits, log]
  simp [addInterfaceToLogEntry, task.addToLogEntry_eq, properties]

theorem perform_buffer (task : Task) (s : Logging)
    (active : isLogLevelActive task st.level = true) : (st.perform task s).buffer =
      (st.properties.foldl writeRecord (st.arguments.foldl addTo
          (s.writing.reset.startV2 task.info (some st.effectiveLogger) st.message st.level 0
            0))).finish.buffer := by
  have active' : isLogLevelActive (st.within task) st.level = true := active
  -- what a `Clear` that is not suppressed leaves
  obtain ⟨cleared, clears, level, unstarted, noError, entry, logger, message, context⟩ :
      ∃ cleared : Logging, s.clear (st.within task) st.message st.level (some st.logger) = cleared ∧
        cleared.builder.eLogLevel = st.level ∧ cleared.builder.bStarted = false ∧
        cleared.builder.bError = false ∧ cleared.writing = s.writing.reset ∧
        cleared.builder.sLogger = st.logger ∧ cleared.builder.sMessage = st.message ∧
        cleared.builder.iContextBuilder = none := by
    refine ⟨_, rfl, ?_⟩
    rw [clear, if_pos active']
    exact ⟨rfl, rfl, rfl, rfl, rfl, rfl, rfl⟩
  rw [← level] at active'
  have last := foldl_eLogLevel active' st.calls
  have written := foldl_of_unstarted active' st.calls unstarted noError
  have inContext := foldl_iContextBuilder active' st.calls none context
  have ends : (st.perform task s).writing =
      (st.properties.foldl writeRecord ((st.calls.foldl (apply (st.within task))
        cleared).ensureStarted (st.within task)).writing).finish := by
    rw [perform, clears, createLog_eq (by rw [last]; exact active'), inContext, ← st.contexts_eq]
    rfl
  rw [entry, logger, message, level] at written
  rw [written] at ends
  exact congrArg Writing.buffer ends

def body (st : LogStatement) (info : TaskInfo) : List UInt8 :=
  let header := Writing.headerOf info st.level
  [[header.nLevel], leBytes 8 header.nTsPlc.toUInt64.toNat, leBytes 8 header.nTsClock.toUInt64.toNat,
    [header.nTaskIndex], leBytes 4 header.nCycleCount.toNat,
    [UInt8.ofNat (st.arguments.map Argument.counted).sum], [UInt8.ofNat st.properties.length],
    st.message.prefixed, st.effectiveLogger.prefixed, st.arguments.flatMap Argument.encode,
    st.properties.flatMap contextRecord].flatten

def encode (st : LogStatement) (info : TaskInfo) : List UInt8 :=
  2 :: (leBytes 2 (st.body info).length ++ st.body info)

theorem length_encode (info : TaskInfo) : (st.encode info).length = (st.body info).length + 3 := by
  simp [encode]
  omega

theorem length_body (info : TaskInfo) :
    (st.body info).length = 24 + (st.message.prefixed.length + (st.effectiveLogger.prefixed.length +
      ((st.arguments.flatMap Argument.encode).length + (st.properties.flatMap contextRecord).length))) := by
  simp only [body, List.length_flatten, List.map_cons, List.map_nil, List.sum_cons, List.sum_nil,
    List.length_singleton, length_leBytes]
  omega

theorem length_records_le (fits : ContextBuilder.Fits props) (eScope : EScope) :
    ((props.map (eScope, ·)).flatMap contextRecord).length ≤ 1044 := by
  have length : ((props.map (eScope, ·)).flatMap contextRecord).length =
      (props.flatMap Property.encode).length + props.length := by
    simp [List.flatMap_map, contextRecord]
  have few := fits.few
  have room := fits.room
  rw [nBufferSize] at room
  omega

theorem fits_logContext : ContextBuilder.Fits st.logContext := by
  have fits := fits_contextOf none (by simp) st.log_fits
  rw [logContext]
  cases context : contextOf none st.calls with
  | none => exact ⟨List.nodup_nil, Nat.zero_le _, Nat.zero_le _⟩
  | some props => exact fits props context

theorem length_body_lt (info : TaskInfo) (few : st.arguments.length ≤ 32) :
    (st.body info).length < 65536 := by
  have arguments : (st.arguments.flatMap Argument.encode).length ≤ st.arguments.length * 512 :=
    length_flatMap_le fun arg _ => arg.length_encode_le
  have task := length_records_le st.task_fits .eTask
  have scopes : (st.scopedContexts.flatMap fun props =>
      (props.map (EScope.eScoped, ·)).flatMap contextRecord).length ≤ st.scopedContexts.length * 1044 :=
    length_flatMap_le fun props member => length_records_le (st.scoped_fits props member) .eScoped
  have log := length_records_le st.fits_logContext .eLogger
  have nested : st.scopedContexts.length ≤ 4 := st.scoped_le
  have message := st.message.length_prefixed_le
  have logger := st.effectiveLogger.length_prefixed_le
  simp only [length_body, properties, List.flatMap_append, List.length_append, List.flatMap_assoc]
  omega

theorem writing_eq (info : TaskInfo) (w : Writing) (fits : w.buffer.nBufferCount ≤ w.buffer.aBuffer.length)
    (room : (st.encode info).length ≤ w.buffer.bufferFree) : st.properties.foldl writeRecord
      (st.arguments.foldl addTo
        (w.reset.startV2 info (some st.effectiveLogger) st.message st.level 0 0)) =
      w.opened.extend (((Writing.headerOf info st.level).bytes ++
        (st.message.prefixed ++ st.effectiveLogger.prefixed)) ++
          st.arguments.flatMap Argument.encode ++ st.properties.flatMap contextRecord)
        (st.arguments.map counted).sum st.properties.length := by
  have header := (Writing.headerOf info st.level).length_bytes
  have ready := Writing.ready_opened fits
  rw [length_encode, length_body] at room
  have free : w.opened.entry.nBufferRemaining = w.buffer.bufferFree := rfl
  rw [Writing.startV2_reset info st.effectiveLogger st.message st.level fits,
    foldl_addTo st.arguments (fun _ => isHandled_of_mem) ready rfl,
    foldl_writeRecord st.properties ready rfl, Nat.zero_add, Nat.zero_add]
  all_goals
    simp only [List.length_append]
    omega

end

section

variable (st : LogStatement) (task : Task) (s : Logging) (active : isLogLevelActive task st.level = true)
  (fits : s.buffer.nBufferCount ≤ s.buffer.aBuffer.length)
  (room : (st.encode task.info).length ≤ s.buffer.bufferFree)
include active fits room

/-- A statement that finds enough room adds its entry to the bytes to send. -/
theorem perform_used : (st.perform task s).buffer.used = s.buffer.used ++ st.encode task.info := by
  have header := (Writing.headerOf task.info st.level).length_bytes
  -- a length that does not fit its field loses its high bytes there
  have length : leBytes 2 (UInt16.ofNat (st.body task.info).length).toNat =
      leBytes 2 (st.body task.info).length := by
    exact leBytes_mod 2 _
  have total : ((Writing.headerOf task.info st.level).bytes ++ (st.message.prefixed ++
      (st.effectiveLogger.prefixed ++ (st.arguments.flatMap Argument.encode ++
        st.properties.flatMap contextRecord)))).length = (st.body task.info).length + 3 := by
    simp only [length_body, List.length_append]
    omega
  rw [perform_buffer st task s active, writing_eq st task.info s.writing fits room]
  simp only [List.append_assoc]
  rw [Writing.finish_extend _ _ _ _ fits (by rw [total]; exact room),
    Writing.filledHeader, total, Nat.add_sub_cancel, LogEntryHeaderV2.bytes, length, encode]
  -- the same fields, split in two ways
  simp [body, Writing.headerOf, writing]

theorem perform_added : (st.perform task s).buffer.used.drop s.buffer.nBufferCount = st.encode task.info := by
  have before : s.buffer.used.length = s.buffer.nBufferCount := by
    rw [LogBuffer.used, List.length_take, Nat.min_eq_left fits]
  rw [perform_used st task s active fits room, ← before, List.drop_left]

end

end LogStatement

/-! ### Statements of the usual form -/

/-- A statement whose calls are arguments and at last a context. -/
structure LogCall where
  message : PlcString
  logger : PlcString
  level : LogLevel
  arguments : List AnyArg
  taskContext : List Property
  scopedContexts : List (List Property)
  logContext : List Property
  handled : ∀ arg ∈ arguments, arg ≠ .unhandled
  scoped_le : scopedContexts.length ≤ nMaxScopedContext
  task_fits : ContextBuilder.Fits taskContext
  scoped_fits : ∀ props ∈ scopedContexts, ContextBuilder.Fits props
  log_fits : ContextBuilder.Fits logContext

namespace LogCall

def within (call : LogCall) (task : Task) : Task :=
  { task with
    taskContext := some (.ofProperties call.taskContext)
    scopedContext := call.scopedContexts.map fun props => some (.ofProperties props) }

def perform (call : LogCall) (task : Task) (s : Logging) : Logging :=
  let task := call.within task
  let cleared := s.clear task call.message call.level (some call.logger)
  let filled := call.arguments.foldl (fun s arg => s.withAnyArg task (some arg)) cleared
  (filled.withContext task (some (.ofProperties call.logContext))).createLog task

def properties (call : LogCall) : List (EScope × Property) :=
  call.taskContext.map (EScope.eTask, ·) ++
    (call.scopedContexts.flatMap (fun props => props.map (EScope.eScoped, ·)) ++
      call.logContext.map (EScope.eLogger, ·))

def body (call : LogCall) (info : TaskInfo) : List UInt8 :=
  let header := Writing.headerOf info call.level
  [[header.nLevel], leBytes 8 header.nTsPlc.toUInt64.toNat, leBytes 8 header.nTsClock.toUInt64.toNat,
    [header.nTaskIndex], leBytes 4 header.nCycleCount.toNat, [UInt8.ofNat call.arguments.length],
    [UInt8.ofNat call.properties.length], call.message.prefixed, call.logger.prefixed,
    call.arguments.flatMap AnyArg.encodeV2, call.properties.flatMap contextRecord].flatten

def encode (call : LogCall) (info : TaskInfo) : List UInt8 :=
  2 :: (leBytes 2 (call.body info).length ++ call.body info)

def statement (call : LogCall) : LogStatement where
  message := call.message
  logger := call.logger
  level := call.level
  calls := call.arguments.map (fun arg => .withAnyArg (some arg)) ++ [.withContext call.logContext]
  taskContext := call.taskContext
  scopedContexts := call.scopedContexts
  handled := by
    intro arg member
    have isArgument : arg ∈ call.arguments := by simpa using member
    exact call.handled arg isArgument
  scoped_le := call.scoped_le
  task_fits := call.task_fits
  scoped_fits := call.scoped_fits
  log_fits := by
    intro props member
    have isContext : props = call.logContext := by simpa using member
    exact isContext ▸ call.log_fits

section

variable (call : LogCall)

theorem perform_statement (task : Task) (s : Logging) :
    call.statement.perform task s = call.perform task s := by
  simp only [LogStatement.perform, statement, List.foldl_append, List.foldl_map]
  rfl

@[simp] theorem arguments_statement : call.statement.arguments = call.arguments.map .any := by
  simp [LogStatement.arguments, statement, argument?, Function.comp_def]

@[simp] theorem effectiveLogger_statement : call.statement.effectiveLogger = call.logger := by
  cases arguments : call.arguments <;>
    simp [LogStatement.effectiveLogger, statement, arguments, loggerOf]

@[simp] theorem properties_statement : call.statement.properties = call.properties := by
  have last : ∀ (context : Option (List Property)) (arguments : List AnyArg),
      contextOf context (arguments.map (fun arg => .withAnyArg (some arg)) ++
        [.withContext call.logContext]) = some call.logContext := by
    intro context arguments
    induction arguments with
    | nil => rfl
    | cons arg arguments ih => exact ih
  rw [LogStatement.properties, LogStatement.logContext, statement, last]
  rfl

theorem body_statement (info : TaskInfo) : call.statement.body info = call.body info := by
  have count : ((call.arguments.map any).map counted).sum = call.arguments.length := by
    simp [counted, Function.comp_def]
  have bytes : (call.arguments.map Argument.any).flatMap Argument.encode =
      call.arguments.flatMap AnyArg.encodeV2 := by
    rw [List.flatMap_map]
    rfl
  rw [LogStatement.body, arguments_statement, properties_statement, effectiveLogger_statement, count,
    bytes]
  rfl

theorem encode_statement (info : TaskInfo) : call.statement.encode info = call.encode info := by
  rw [LogStatement.encode, encode, body_statement]

theorem length_body_lt (info : TaskInfo) (few : call.arguments.length ≤ 32) :
    (call.body info).length < 65536 := by
  rw [← body_statement]
  exact call.statement.length_body_lt info (by simpa using few)

theorem perform_added (task : Task) (s : Logging)
    (active : isLogLevelActive task call.level = true) (fits : s.buffer.nBufferCount ≤ s.buffer.aBuffer.length)
    (room : (call.encode task.info).length ≤ s.buffer.bufferFree) :
    (call.perform task s).buffer.used.drop s.buffer.nBufferCount = call.encode task.info := by
  rw [← encode_statement] at room ⊢
  rw [← perform_statement]
  exact call.statement.perform_added task s active fits room

end

end LogCall

end TcOtel.Plc
