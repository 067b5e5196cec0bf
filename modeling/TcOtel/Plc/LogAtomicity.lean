import TcOtel.Plc.LogStatement

/-!
# Entries are added as a whole

The methods of an entry write behind the used part of the log buffer, and only `End` counts
what they wrote. So whatever a program calls on its builder, and wherever the room ends, the
used part grows by whole entries (`Logging.Sound`, `BuildCall.effect`).

The length of an entry is written in two bytes. Nothing bounds the number of arguments, and
for an entry of more than 65538 bytes the length in its header is not its length.
-/

namespace TcOtel.Plc

open Decoding Memory Writing

/-! ### What the methods can do to an entry -/

namespace Writing

variable {w w' w'' : Writing}

def Inside (w : Writing) : Prop :=
  w.entry.pBuffer + w.entry.nBufferCount + w.entry.nBufferRemaining ≤ w.buffer.aBuffer.length

def failing (bError : Bool) (w : Writing) : Writing :=
  { w with entry := { w.entry with bError := w.entry.bError || bError } }

/-- The entry was extended by bytes for which there was room, and may have failed. -/
def Grows (w w' : Writing) : Prop :=
  ∃ src args contexts bError, src.length ≤ w.entry.nBufferRemaining ∧
    w' = (w.extend src args contexts).failing bError

/-- A method that only extends. -/
def Growing (m : Writing → Writing) : Prop := ∀ w : Writing, w.Inside → w.Grows (m w)

theorem Grows.inside (grows : w.Grows w') (inside : w.Inside) : w'.Inside := by
  obtain ⟨src, args, contexts, bError, room, rfl⟩ := grows
  unfold Inside at inside ⊢
  change w.entry.pBuffer + (w.entry.nBufferCount + src.length) +
    (w.entry.nBufferRemaining - src.length) ≤ (overwrite _ _ src).length
  rw [length_overwrite (by omega)]
  omega

theorem Grows.trans (inside : w.Inside) (first : w.Grows w') (second : w'.Grows w'') : w.Grows w'' := by
  obtain ⟨xs, a, c, e, room, rfl⟩ := first
  obtain ⟨ys, a', c', e', room', rfl⟩ := second
  have whole : (w.extend xs a c).extend ys a' c' = w.extend (xs ++ ys) (a + a') (c + c') := extend_extend inside
  refine ⟨xs ++ ys, a + a', c + c', e || e', ?_, ?_⟩
  · have left : ys.length ≤ w.entry.nBufferRemaining - xs.length := room'
    rw [List.length_append]
    omega
  · rw [← whole]
    simp [failing, extend, Bool.or_assoc]

theorem Grows.refl (w : Writing) : w.Grows w :=
  ⟨[], 0, 0, false, Nat.zero_le _, by simp [failing, extend, overwrite]⟩

theorem Grows.eq_extend (grows : w.Grows w') (fine : w'.entry.bError = false) :
    w.entry.bError = false ∧ ∃ src args contexts, src.length ≤ w.entry.nBufferRemaining ∧
      w' = w.extend src args contexts := by
  obtain ⟨src, args, contexts, bError, room, rfl⟩ := grows
  have clean : (w.entry.bError || bError) = false := fine
  obtain ⟨before, rfl⟩ := Bool.or_eq_false_iff.mp clean
  exact ⟨before, src, args, contexts, room, by simp [failing, extend]⟩

theorem Grows.failed (grows : w.Grows w') (failed : w.entry.bError = true) : w'.entry.bError = true := by
  obtain ⟨src, args, contexts, bError, _, rfl⟩ := grows
  simp [failing, extend, failed]

namespace Growing

variable {m m' : Writing → Writing}

theorem comp (first : Growing m) (second : Growing m') : Growing fun w => m' (m w) :=
  fun w inside => (first w inside).trans inside (second _ ((first w inside).inside inside))

theorem setError : Growing setError :=
  fun _ _ => ⟨[], 0, 0, true, Nat.zero_le _, by simp [Writing.setError, failing, extend, overwrite]⟩

theorem copy (src : List UInt8) : Growing (copy src) := by
  intro w inside
  unfold Writing.copy
  split
  next fits => exact ⟨src, 0, 0, false, fits.2, by simp [failing, extend]⟩
  · exact setError w inside

theorem writeByte (b : UInt8) : Growing (writeByte b) := copy [b]

theorem writeInt (n : Nat) : Growing (writeInt n) := copy (leBytes 2 n)

theorem writeString (s : PlcString) : Growing (writeString s) := (writeByte _).comp (copy s.bytes)

theorem writeWString (s : PlcWString) : Growing (writeWString s) := (writeByte _).comp (copy _)

theorem counting (args contexts : Nat) : Growing (extend [] args contexts) :=
  fun _ _ => ⟨[], args, contexts, false, Nat.zero_le _, by simp [failing, extend]⟩

section

variable {writeId : Nat → Writing → Writing} (ids : ∀ id, Growing (writeId id))

include ids

theorem writeBasic (v : PlcValue) : Growing (writeBasic writeId v) := by
  cases v with
  | string s => exact (ids _).comp (writeString s)
  | _ => exact (ids _).comp (copy _)

theorem writeEnum (v : EnumValue) : Growing (writeEnum writeId v) := by
  cases v with
  | other => exact ids _
  | _ => exact (ids _).comp (copy _)

theorem writeAny (code : CustomType → Nat) (stArg : AnyArg) : Growing (writeAny writeId code stArg) := by
  cases stArg with
  | basic v => exact writeBasic ids v
  | wstring v => exact (ids _).comp (writeWString v)
  | enum v => exact (ids _).comp (writeEnum ids v)
  | unhandled => exact setError
  | _ => exact (ids _).comp (copy _)

end

theorem writeAnyV1 (stArg : AnyArg) : Growing (writeAnyV1 stArg) := by
  unfold Writing.writeAnyV1
  split <;> exact writeAny writeInt _ _

theorem addAnyArg (nArgNo : UInt8) (stArg : Option AnyArg) : Growing (addAnyArg nArgNo stArg) := by
  intro w inside
  unfold Writing.addAnyArg
  split
  · exact Grows.refl w
  cases stArg with
  | none => exact Grows.refl w
  | some arg =>
    dsimp only
    split
    · -- the argument is counted also when it did not fit; then the entry has failed
      have written : Growing (writeAnyV2 arg) := writeAny (fun _ => writeByte _) _ arg
      have counted := written.comp (counting 1 0) w inside
      simpa [extend, overwrite] using counted
    · exact (((writeByte 1).comp (writeByte nArgNo)).comp (writeAnyV1 arg)) w inside

theorem addTArg (nArgNo : UInt8) (stArg : Option TArg) : Growing (addTArg nArgNo stArg) := by
  intro w inside
  unfold Writing.addTArg
  split
  · exact Grows.refl w
  cases stArg with
  | none => exact Grows.refl w
  | some arg =>
    have typed := (((writeByte 1).comp (writeByte nArgNo)).comp (writeInt arg.code)).comp
      (copy (leBytes 2 arg.code))
    cases arg with
    | other eType => exact typed w inside
    | value v =>
      cases v with
      | string s => exact typed.comp (writeString s) w inside
      | _ => exact typed.comp (copy _) w inside

theorem addContext (eScope : EScope) (record : List UInt8) : Growing (addContext eScope record) := by
  intro w inside
  unfold Writing.addContext
  split
  · have counted := ((writeByte eScope.code).comp (copy record)).comp (counting 0 1) w inside
    simpa [extend, overwrite] using counted
  · exact (((writeByte 2).comp (writeByte eScope.code)).comp (copy record)) w inside

theorem foldl {ι : Type} {m : Writing → ι → Writing} (each : ∀ item, Growing fun w => m w item)
    (items : List ι) : Growing fun w => items.foldl m w := by
  induction items with
  | nil => exact fun w _ => Grows.refl w
  | cons item items ih => exact (each item).comp ih

theorem addInterfaceToLogEntry (eScope : EScope) (b : Option ContextBuilder) :
    Growing (addInterfaceToLogEntry eScope b) := by
  cases b with
  | none => exact fun w _ => Grows.refl w
  | some b => exact foldl (fun _ => addContext eScope _) (List.range b.nContextCount)

end Growing

/-! ### Behind the used part -/

/-- The next copy goes behind the used part. A copy for which there is no room goes nowhere. -/
structure Placed (w : Writing) : Prop where
  within : w.buffer.nBufferCount ≤ w.buffer.aBuffer.length
  inside : w.Inside
  behind : w.entry.nBufferRemaining = 0 ∨ w.buffer.nBufferCount ≤ w.entry.pBuffer + w.entry.nBufferCount

def Headed (w : Writing) : Prop :=
  w.entry.bError = false → w.entry.pBuffer = w.buffer.nBufferCount →
    ∃ (start : Writing) (h : LogEntryHeaderV2) (rest : List UInt8) (args contexts : Nat),
      start.buffer.nBufferCount ≤ start.buffer.aBuffer.length ∧ h.nType = 2 ∧
      (h.bytes ++ rest).length ≤ start.buffer.bufferFree ∧
      w = start.opened.extend (h.bytes ++ rest) args contexts

theorem Placed.grows (placed : w.Placed) (grows : w.Grows w') : w'.Placed := by
  have inside := grows.inside placed.inside
  obtain ⟨src, args, contexts, bError, room, rfl⟩ := grows
  have within := placed.within
  have here := placed.inside
  unfold Inside at here
  refine ⟨?_, inside, ?_⟩
  · change w.buffer.nBufferCount ≤ (overwrite _ _ src).length
    rw [length_overwrite (by omega)]
    exact within
  · change w.entry.nBufferRemaining - src.length = 0 ∨
      w.buffer.nBufferCount ≤ w.entry.pBuffer + (w.entry.nBufferCount + src.length)
    have behind := placed.behind
    omega

theorem Placed.used (placed : w.Placed) (grows : w.Grows w') : w'.buffer.used = w.buffer.used := by
  have inside := placed.inside
  unfold Inside at inside
  obtain ⟨src, args, contexts, bError, room, rfl⟩ := grows
  change (overwrite w.buffer.aBuffer (w.entry.pBuffer + w.entry.nBufferCount) src).take
    w.buffer.nBufferCount = w.buffer.aBuffer.take w.buffer.nBufferCount
  rcases placed.behind with full | behind
  · have none : src = [] := List.length_eq_zero_iff.mp (by omega)
    simp [none, overwrite]
  · have before : extract (overwrite w.buffer.aBuffer (w.entry.pBuffer + w.entry.nBufferCount) src) 0
        w.buffer.nBufferCount = extract w.buffer.aBuffer 0 w.buffer.nBufferCount :=
      extract_overwrite_before (by omega) (by omega)
    simpa [extract] using before

theorem Headed.grows (headed : w.Headed) (grows : w.Grows w') : w'.Headed := by
  intro fine here
  obtain ⟨before, src, args, contexts, room, rfl⟩ := grows.eq_extend fine
  obtain ⟨start, h, rest, a, c, fits, type, free, rfl⟩ := headed before here
  have left : src.length ≤ start.buffer.bufferFree - (h.bytes ++ rest).length := room
  refine ⟨start, h, rest ++ src, a + args, c + contexts, fits, type, ?_, ?_⟩
  · rw [← List.append_assoc, List.length_append]
    omega
  · rw [← List.append_assoc, ← extend_extend (ready_opened fits).inside]

/-! ### Start and end -/

theorem placed_reset (fits : w.buffer.nBufferCount ≤ w.buffer.aBuffer.length) : w.reset.Placed := by
  refine ⟨fits, ?_, .inr (Nat.le_refl _)⟩
  change w.buffer.nBufferCount + 0 + (w.buffer.aBuffer.length - w.buffer.nBufferCount) ≤ w.buffer.aBuffer.length
  omega

def starting (w : Writing) : Writing :=
  { w with entry := { w.entry with
      nEntryStart := w.entry.nBufferCount
      nEntryLenOffset := w.entry.nBufferCount + 1
      nArgCountOffset := w.entry.nBufferCount + 25
      nCtxCountOffset := w.entry.nBufferCount + 26 } }

def started (w : Writing) : Writing :=
  { w with entry := { w.entry with nArgCount := 0, nContextCount := 0, bV2 := true } }

/-- A header was copied, and texts behind it. -/
def Starts (w w' : Writing) : Prop :=
  ∃ (h : LogEntryHeaderV2) (texts : Writing → Writing), h.nType = 2 ∧ Growing texts ∧
    w' = (texts (w.starting.copy h.bytes)).started

theorem starts_startV2 (w : Writing) (task : TaskInfo) (pLogger : Option PlcString) (pMessage : PlcString)
    (eLogLevel : LogLevel) (nTimeStampPlc nTimeStampClock : Int64) :
    w.Starts (w.startV2 task pLogger pMessage eLogLevel nTimeStampPlc nTimeStampClock) := by
  cases pLogger with
  | none =>
    exact ⟨_, fun w => (w.writeString pMessage).writeByte 0, rfl,
      (Growing.writeString pMessage).comp (Growing.writeByte 0), rfl⟩
  | some logger =>
    exact ⟨_, fun w => (w.writeString pMessage).writeString logger, rfl,
      (Growing.writeString pMessage).comp (Growing.writeString logger), rfl⟩

theorem Starts.placed (starts : w.Starts w') (placed : w.Placed) : w'.Placed ∧ w'.buffer.used = w.buffer.used := by
  obtain ⟨h, texts, _, growing, rfl⟩ := starts
  have ready : w.starting.Placed := ⟨placed.within, placed.inside, placed.behind⟩
  have grows : w.starting.Grows (texts (w.starting.copy h.bytes)) :=
    (Growing.copy h.bytes).comp growing w.starting ready.inside
  have after := ready.grows grows
  have used := ready.used grows
  exact ⟨⟨after.within, after.inside, after.behind⟩, used⟩

theorem Starts.failed (starts : w.Starts w') (inside : w.Inside) (failed : w.entry.bError = true) :
    w'.entry.bError = true := by
  obtain ⟨h, texts, _, growing, rfl⟩ := starts
  have grows : w.starting.Grows (texts (w.starting.copy h.bytes)) :=
    (Growing.copy h.bytes).comp growing w.starting inside
  exact grows.failed failed

theorem Starts.headed (starts : w.Starts w') (fits : w.buffer.nBufferCount ≤ w.buffer.aBuffer.length)
    (inside : w.Inside) (fresh : w.entry.nBufferRemaining = 0 ∨ w.reset = w) : w'.Headed := by
  obtain ⟨h, texts, type, growing, rfl⟩ := starts
  intro fine _
  have copied := (Growing.copy h.bytes) w.starting inside
  have later := growing _ (copied.inside inside)
  obtain ⟨unfailed, src, args, contexts, room, after⟩ := later.eq_extend fine
  -- the header was copied, since an error stays
  by_cases written : w.starting.entry.bError = false ∧ w.starting.entry.nBufferRemaining ≥ h.bytes.length
  · have first : w.starting.copy h.bytes = w.starting.extend h.bytes 0 0 := by
      rw [copy, if_pos written]
      simp [extend]
    rw [first] at room after
    rw [first, after]
    obtain ⟨noError, header⟩ := written
    have some : h.bytes.length ≤ w.entry.nBufferRemaining := header
    rcases fresh with none | reset
    · have length := h.length_bytes
      omega
    · have free : w.entry.nBufferRemaining = w.buffer.bufferFree :=
        congrArg (·.entry.nBufferRemaining) reset.symm
      have place : w.entry.pBuffer = w.buffer.nBufferCount := congrArg (·.entry.pBuffer) reset.symm
      have empty : w.entry.nBufferCount = 0 := congrArg (·.entry.nBufferCount) reset.symm
      have error : w.entry.bError = false := noError
      have left : src.length ≤ w.entry.nBufferRemaining - h.bytes.length := room
      refine ⟨w, h, src, 0, 0, fits, type, ?_, ?_⟩
      · rw [List.length_append]
        omega
      · rw [extend_extend (w := w.starting) inside]
        simp [extend, opened, starting, started, free, place, empty, error]
  · rw [copy, if_neg written] at unfailed
    cases unfailed

/-- The entry as `End` sends it: a header of type 2 with the length, as far as it fits its
field. -/
def Sent (bytes : List UInt8) : Prop :=
  ∃ (h : LogEntryHeaderV2) (rest : List UInt8),
    bytes = h.bytes ++ rest ∧ h.nType = 2 ∧ h.nEntryLength = UInt16.ofNat (bytes.length - 3)

theorem used_extend_opened (fits : w.buffer.nBufferCount ≤ w.buffer.aBuffer.length) :
    (w.opened.extend record args contexts).buffer.used = w.buffer.used := by
  have before : extract (overwrite w.buffer.aBuffer w.buffer.nBufferCount record) 0 w.buffer.nBufferCount =
      extract w.buffer.aBuffer 0 w.buffer.nBufferCount := extract_overwrite_before fits (by omega)
  exact before

theorem placed_counted (args contexts : Nat)
    (fits : w.buffer.nBufferCount ≤ w.buffer.aBuffer.length) (room : record.length ≤ w.buffer.bufferFree)
    (positive : 0 < record.length) : (w.opened.extend record args contexts).counted.Placed ∧
      (w.opened.extend record args contexts).counted.Headed := by
  have free : record.length ≤ w.buffer.aBuffer.length - w.buffer.nBufferCount := room
  have ready := (ready_opened fits).extend (a := args) (c := contexts) room
  have inside := ready.inside
  refine ⟨⟨?_, inside, .inr (Nat.le_refl _)⟩, ?_⟩
  · exact Nat.le_trans (Nat.le_add_right _ _) inside
  · intro _ here
    change w.buffer.nBufferCount = w.buffer.nBufferCount + (0 + record.length) at here
    omega

theorem finish_effect (placed : w.Placed) (headed : w.Headed) : w.finish.Placed ∧ w.finish.Headed ∧
      (w.finish.buffer.used = w.buffer.used ∨
        w.finish.entry.bError = false ∧ ∃ bytes, Sent bytes ∧ w.finish.buffer.used = w.buffer.used ++ bytes) := by
  have failed := Growing.setError w placed.inside
  by_cases error : w.entry.bError = true
  · rw [finish, if_pos error]
    exact ⟨placed, headed, .inl rfl⟩
  by_cases elsewhere : w.buffer.nBufferCount ≠ w.entry.pBuffer
  · rw [finish, if_neg error, if_pos elsewhere]
    exact ⟨placed.grows failed, headed.grows failed, .inl rfl⟩
  -- from here on the entry is the one that was opened at the end of the used part
  obtain ⟨start, h, rest, args, contexts, fits, type, room, rfl⟩ :=
    headed (Bool.eq_false_of_not_eq_true error) (not_not.mp elsewhere).symm
  have same : ((filledHeader h rest args contexts).bytes ++ rest).length = (h.bytes ++ rest).length := by
    simp [LogEntryHeaderV2.length_bytes]
  have positive : 0 < (h.bytes ++ rest).length := by
    rw [List.length_append, LogEntryHeaderV2.length_bytes]
    omega
  have used := finish_extend h rest args contexts fits room
  have finished := finish_opened h rest args contexts fits room
  have room' := same.le.trans room
  have positive' := positive.trans_eq same.symm
  obtain ⟨after, closed⟩ := placed_counted args contexts fits room' positive'
  have sent : Sent ((filledHeader h rest args contexts).bytes ++ rest) := by
    refine ⟨filledHeader h rest args contexts, rest, rfl, type, ?_⟩
    rw [same, filledHeader]
  rw [← used_extend_opened fits] at used
  rw [finished] at used ⊢
  exact ⟨after, closed, .inr ⟨rfl, _, sent, used⟩⟩

end Writing

/-! ### Calls on the builder -/

inductive BuildCall where
  | clear (sMessage : PlcString) (eLogLevel : LogLevel) (pLogger : Option PlcString)
  | withLogger (sLogger : PlcString)
  | withContext (iContextBuilder : Option ContextBuilder)
  | withAnyArg (stArg : Option AnyArg)
  | withTArg (stArg : Option TArg)
  | withSpan (span : SpanRef)
  | createLog

def BuildCall.perform (task : Task) (s : Logging) : BuildCall → Logging
  | clear sMessage eLogLevel pLogger => s.clear task sMessage eLogLevel pLogger
  | withLogger sLogger => s.withLogger task sLogger
  | withContext iContextBuilder => s.withContext task iContextBuilder
  | withAnyArg stArg => s.withAnyArg task stArg
  | withTArg stArg => s.withTArg task stArg
  | withSpan span => s.withSpan task span
  | createLog => s.createLog task

def BuildCall.isClear : BuildCall → Bool
  | clear .. => true
  | _ => false

def BuildCall.isCreateLog : BuildCall → Bool
  | createLog => true
  | _ => false

namespace Logging

def build (s : Logging) (calls : List (Task × BuildCall)) : Logging :=
  calls.foldl (fun s call => call.2.perform call.1 s) s

def growth (s s' : Logging) : List (List UInt8) :=
  if s'.buffer.used.length ≤ s.buffer.used.length then [] else [s'.buffer.used.drop s.buffer.used.length]

def added (s : Logging) : List (Task × BuildCall) → List (List UInt8)
  | [] => []
  | call :: calls => s.growth (call.2.perform call.1 s) ++ (call.2.perform call.1 s).added calls

def holding (used free : List UInt8) : Logging where
  builder := (initial 0).builder
  buffer := ⟨used ++ free, used.length⟩

/-- What a builder keeps: the next copy goes behind the used part, and an entry that would be
counted was started. -/
structure Sound (s : Logging) : Prop where
  placed : s.writing.Placed
  bError : s.builder.bError = false
  fresh : s.builder.bStarted = false → s.writing.entry.nBufferRemaining = 0 ∨ s.writing.reset = s.writing
  headed : s.builder.bStarted = true → s.writing.Headed

variable {s s' : Logging} {task : Task}

theorem Sound.of_eq (sound : s.Sound) (writing : s'.writing = s.writing)
    (bError : s'.builder.bError = s.builder.bError) (bStarted : s'.builder.bStarted = s.builder.bStarted) :
    s'.Sound := by
  constructor
  · rw [writing]
    exact sound.placed
  · rw [bError]
    exact sound.bError
  · rw [writing, bStarted]
    exact sound.fresh
  · rw [writing, bStarted]
    exact sound.headed

theorem starts_ensureStarted (task : Task) (bStarted : s.builder.bStarted = false) (bError : s.builder.bError = false) :
    s.writing.Starts (s.ensureStarted task).writing := by
  rw [writing_ensureStarted bStarted bError]
  exact starts_startV2 ..

theorem Sound.ensureStarted (sound : s.Sound) (task : Task) :
    (s.ensureStarted task).Sound ∧ (s.ensureStarted task).builder.bStarted = true ∧
      (s.ensureStarted task).buffer.used = s.buffer.used := by
  have done : (s.ensureStarted task).builder.bStarted = true := bStarted_ensureStarted sound.bError
  cases bStarted : s.builder.bStarted with
  | true =>
    rw [ensureStarted_of_started bStarted] at done ⊢
    exact ⟨sound, done, rfl⟩
  | false =>
    have starts := starts_ensureStarted task bStarted sound.bError
    obtain ⟨placed, used⟩ := starts.placed sound.placed
    refine ⟨⟨placed, ?_, ?_, fun _ => ?_⟩, done, used⟩
    · simp [Logging.ensureStarted, bStarted, sound.bError, onEntry]
    · intro unstarted
      rw [done] at unstarted
      cases unstarted
    · exact starts.headed sound.placed.within sound.placed.inside (sound.fresh bStarted)

theorem Sound.onEntry (sound : s.Sound) (bStarted : s.builder.bStarted = true) (growing : Writing.Growing m) :
    (s.onEntry m).Sound ∧ (s.onEntry m).buffer.used = s.buffer.used := by
  have grows := growing s.writing sound.placed.inside
  refine ⟨⟨sound.placed.grows grows, sound.bError, ?_, ?_⟩, sound.placed.used grows⟩
  · intro unstarted
    rw [show (s.onEntry m).builder.bStarted = s.builder.bStarted from rfl, bStarted] at unstarted
    cases unstarted
  · exact fun _ => (sound.headed bStarted).grows grows

theorem sound_clear (fits : s.buffer.nBufferCount ≤ s.buffer.aBuffer.length) (sMessage : PlcString)
    (pLogger : Option PlcString) (active : isLogLevelActive task eLogLevel = true) :
    (s.clear task sMessage eLogLevel pLogger).Sound := by
  rw [clear, if_pos active]
  refine ⟨?_, rfl, ?_, ?_⟩
  · exact placed_reset fits
  · exact fun _ => .inr rfl
  · intro started
    cases started

theorem buffer_clear (sMessage : PlcString) (eLogLevel : LogLevel) (pLogger : Option PlcString) :
    (s.clear task sMessage eLogLevel pLogger).buffer = s.buffer := by
  unfold clear
  split <;> rfl

theorem Sound.clear (sound : s.Sound) (task : Task) (sMessage : PlcString) (eLogLevel : LogLevel)
    (pLogger : Option PlcString) : (s.clear task sMessage eLogLevel pLogger).Sound := by
  by_cases active : isLogLevelActive task eLogLevel = true
  · exact sound_clear sound.placed.within sMessage pLogger active
  · rw [Logging.clear, if_neg active]
    exact sound.of_eq rfl rfl rfl

theorem growing_contexts (iContextBuilder : Option ContextBuilder) (task : Task) : Writing.Growing fun w =>
    addInterfaceToLogEntry .eLogger iContextBuilder
      (task.scopedContext.foldl (fun w context => addInterfaceToLogEntry .eScoped context w)
        (addInterfaceToLogEntry .eTask task.taskContext w)) :=
  ((Writing.Growing.addInterfaceToLogEntry .eTask _).comp
    (Writing.Growing.foldl (fun context => Writing.Growing.addInterfaceToLogEntry .eScoped context) _)).comp
      (Writing.Growing.addInterfaceToLogEntry .eLogger _)

theorem Sound.createLog (sound : s.Sound) (task : Task) :
    (s.createLog task).Sound ∧ ((s.createLog task).buffer.used = s.buffer.used ∨
      (s.createLog task).builder.fbLogEntry.bError = false ∧
        ∃ bytes, Writing.Sent bytes ∧ (s.createLog task).buffer.used = s.buffer.used ++ bytes) := by
  by_cases active : isLogLevelActive task s.builder.eLogLevel = true
  · obtain ⟨open', started, same⟩ := sound.ensureStarted task
    obtain ⟨filled, used⟩ := open'.onEntry started (growing_contexts s.builder.iContextBuilder task)
    obtain ⟨placed, headed, effect⟩ := finish_effect filled.placed (filled.headed started)
    rw [createLog_eq active]
    refine ⟨⟨placed, filled.bError, ?_, fun _ => headed⟩, ?_⟩
    · intro unstarted
      rw [show (Logging.onEntry _ _).builder.bStarted = true from started] at unstarted
      cases unstarted
    · rw [← same, ← used]
      exact effect
  · rw [Logging.createLog, if_neg active]
    exact ⟨sound, .inl rfl⟩

end Logging

/-- Calls other than these two leave the entry alone, or extend it after it was started. -/
theorem BuildCall.perform_cases (task : Task) (s : Logging) (call : BuildCall) :
    (∃ sMessage eLogLevel pLogger, call = clear sMessage eLogLevel pLogger) ∨ call = createLog ∨
    ((call.perform task s).writing = s.writing ∧ (call.perform task s).builder.bError = s.builder.bError ∧
      (call.perform task s).builder.bStarted = s.builder.bStarted) ∨
    ∃ m, Writing.Growing m ∧ call.perform task s = (s.ensureStarted task).onEntry m := by
  cases call with
  | clear sMessage eLogLevel pLogger => exact .inl ⟨_, _, _, rfl⟩
  | createLog => exact .inr (.inl rfl)
  | withLogger sLogger =>
    rw [perform, Logging.withLogger]
    split <;> exact .inr (.inr (.inl ⟨rfl, rfl, rfl⟩))
  | withContext iContextBuilder =>
    rw [perform, Logging.withContext]
    split <;> exact .inr (.inr (.inl ⟨rfl, rfl, rfl⟩))
  | withSpan span =>
    rw [perform, Logging.withSpan]
    split <;> exact .inr (.inr (.inl ⟨rfl, rfl, rfl⟩))
  | withAnyArg stArg =>
    rw [perform, Logging.withAnyArg]
    split
    · exact .inr (.inr (.inr ⟨_, .addAnyArg 0 stArg, rfl⟩))
    · exact .inr (.inr (.inl ⟨rfl, rfl, rfl⟩))
  | withTArg stArg =>
    rw [perform, Logging.withTArg]
    split
    · exact .inr (.inr (.inr ⟨_, .addTArg 0 stArg, rfl⟩))
    · exact .inr (.inr (.inl ⟨rfl, rfl, rfl⟩))

/-- What a call can do: it leaves the used part as it is, or it is a `CreateLog` and adds an
entry that has not failed. -/
theorem BuildCall.effect (sound : s.Sound) (task : Task) (call : BuildCall) :
    (call.perform task s).Sound ∧ ((call.perform task s).buffer.used = s.buffer.used ∨
      call = createLog ∧ (call.perform task s).builder.fbLogEntry.bError = false ∧
        ∃ bytes, Writing.Sent bytes ∧ (call.perform task s).buffer.used = s.buffer.used ++ bytes) := by
  rcases perform_cases task s call with ⟨sMessage, eLogLevel, pLogger, rfl⟩ | rfl | ⟨writing, bError, bStarted⟩ |
    ⟨m, growing, same⟩
  · exact ⟨sound.clear task sMessage eLogLevel pLogger,
      .inl (congrArg LogBuffer.used (Logging.buffer_clear sMessage eLogLevel pLogger))⟩
  · obtain ⟨after, effect⟩ := sound.createLog task
    exact ⟨after, effect.imp_right fun added => ⟨rfl, added⟩⟩
  · exact ⟨sound.of_eq writing bError bStarted, .inl (congrArg (·.buffer.used) writing)⟩
  · obtain ⟨open', started, before⟩ := sound.ensureStarted task
    obtain ⟨after, used⟩ := open'.onEntry started growing
    rw [same]
    exact ⟨after, .inl (used.trans before)⟩

/-! ### Entries -/

/-- A v2 entry whose header has the length of what follows the type and the length. -/
def WholeEntry (bytes : List UInt8) : Prop :=
  ∃ (h : LogEntryHeaderV2) (rest : List UInt8),
    bytes = h.bytes ++ rest ∧ h.nType = 2 ∧ h.nEntryLength.toNat = bytes.length - 3

theorem WholeEntry.length_le (whole : WholeEntry bytes) : bytes.length ≤ 65538 := by
  obtain ⟨h, rest, _, _, length⟩ := whole
  have field := h.nEntryLength.toNat_lt
  omega

theorem Writing.Sent.length_ge (sent : Writing.Sent bytes) : 27 ≤ bytes.length := by
  obtain ⟨h, rest, rfl, _, _⟩ := sent
  rw [List.length_append, h.length_bytes]
  omega

theorem Writing.Sent.whole_iff (sent : Writing.Sent bytes) : WholeEntry bytes ↔ bytes.length ≤ 65538 := by
  refine ⟨WholeEntry.length_le, fun fits => ?_⟩
  obtain ⟨h, rest, split, type, length⟩ := sent
  refine ⟨h, rest, split, type, ?_⟩
  rw [length, UInt16.toNat_ofNat_of_lt' (by change bytes.length - 3 < 65536; omega)]

namespace Logging

variable {s s' : Logging}

theorem growth_of_eq (same : s'.buffer.used = s.buffer.used) : s.growth s' = [] := by
  rw [growth, if_pos (by rw [same])]

theorem growth_of_append (sent : Writing.Sent bytes)
    (more : s'.buffer.used = s.buffer.used ++ bytes) : s.growth s' = [bytes] := by
  have some := sent.length_ge
  have longer : ¬s'.buffer.used.length ≤ s.buffer.used.length := by
    rw [more, List.length_append]
    omega
  rw [growth, if_neg longer, more, List.drop_left]

/-- A call adds what it adds to the used part: an entry, and only if it is a `CreateLog`. -/
theorem Sound.growth (sound : s.Sound) (task : Task) (call : BuildCall) :
    (call.perform task s).buffer.used = s.buffer.used ++ (s.growth (call.perform task s)).flatten ∧
      (∀ bytes ∈ s.growth (call.perform task s), Writing.Sent bytes) ∧
      (s.growth (call.perform task s)).length ≤ if call.isCreateLog then 1 else 0 := by
  rcases (BuildCall.effect sound task call).2 with same | ⟨rfl, _, bytes, sent, more⟩
  · rw [growth_of_eq same]
    simp [same]
  · rw [growth_of_append sent more]
    simp [more, sent, BuildCall.isCreateLog]

/-- The used part grows by the entries that were added, one for a `CreateLog` at most. -/
theorem Sound.build (sound : s.Sound) (calls : List (Task × BuildCall)) :
    (s.build calls).Sound ∧ (s.build calls).buffer.used = s.buffer.used ++ (s.added calls).flatten ∧
      (∀ bytes ∈ s.added calls, Writing.Sent bytes) ∧
      (s.added calls).length ≤ calls.countP (·.2.isCreateLog) := by
  induction calls generalizing s with
  | nil => exact ⟨sound, by simp [Logging.build, added], by simp [added], Nat.le_refl _⟩
  | cons call calls ih =>
    obtain ⟨task, call⟩ := call
    have step := (BuildCall.effect sound task call).1
    obtain ⟨here, sent, few⟩ := sound.growth task call
    obtain ⟨last, later, rest, fewer⟩ := ih step
    refine ⟨last, ?_, ?_, ?_⟩
    · rw [added, List.flatten_append, ← List.append_assoc, ← here, ← later]
      rfl
    · exact List.forall_mem_append.mpr ⟨sent, rest⟩
    · rw [added, List.length_append, List.countP_cons]
      dsimp only at few ⊢
      omega

theorem sound_holding (used free : List UInt8) : (holding used free).Sound := by
  refine ⟨⟨?_, ?_, .inl rfl⟩, rfl, fun _ => .inl rfl, ?_⟩
  · change used.length ≤ (used ++ free).length
    rw [List.length_append]
    omega
  · exact Nat.zero_le _
  · intro started
    cases started

theorem build_append (before after : List (Task × BuildCall)) :
    s.build (before ++ after) = (s.build before).build after := List.foldl_append

end Logging

/-! ### An entry that has failed -/

namespace Logging

variable {s : Logging}

theorem Sound.failed_ensureStarted (sound : s.Sound) (task : Task) (failed : s.writing.entry.bError = true) :
    (s.ensureStarted task).writing.entry.bError = true := by
  cases bStarted : s.builder.bStarted with
  | true =>
    rw [ensureStarted_of_started bStarted]
    exact failed
  | false => exact (starts_ensureStarted task bStarted sound.bError).failed sound.placed.inside failed

theorem Sound.failed_onEntry (sound : s.Sound) (task : Task)
    (growing : Writing.Growing m) (failed : s.writing.entry.bError = true) :
    ((s.ensureStarted task).onEntry m).writing.entry.bError = true := by
  obtain ⟨open', _, _⟩ := sound.ensureStarted task
  have grows := growing _ open'.placed.inside
  exact grows.failed (sound.failed_ensureStarted task failed)

theorem Sound.failed_perform (sound : s.Sound) (task : Task) {call : BuildCall}
    (goesOn : call.isClear = false) (failed : s.writing.entry.bError = true) :
    (call.perform task s).writing.entry.bError = true := by
  rcases BuildCall.perform_cases task s call with ⟨_, _, _, rfl⟩ | rfl | ⟨writing, -⟩ | ⟨m, growing, same⟩
  · cases goesOn
  · rw [BuildCall.perform]
    by_cases active : isLogLevelActive task s.builder.eLogLevel = true
    · have still := sound.failed_onEntry task (growing_contexts s.builder.iContextBuilder task) failed
      rw [createLog_eq active, writing_onEntry, finish]
      rw [writing_onEntry] at still
      rw [if_pos still]
      exact still
    · rw [Logging.createLog, if_neg active]
      exact failed
  · rw [writing]
    exact failed
  · rw [same]
    exact sound.failed_onEntry task growing failed

theorem Sound.used_of_failed (sound : s.Sound) {calls : List (Task × BuildCall)}
    (goesOn : ∀ call ∈ calls, call.2.isClear = false) (failed : s.writing.entry.bError = true) :
    (s.build calls).buffer.used = s.buffer.used := by
  induction calls generalizing s with
  | nil => rfl
  | cons call calls ih =>
    have still := sound.failed_perform call.1 (goesOn call List.mem_cons_self) failed
    obtain ⟨after, effect⟩ := BuildCall.effect sound call.1 call.2
    have same : (call.2.perform call.1 s).buffer.used = s.buffer.used := by
      rcases effect with same | ⟨_, fine, _⟩
      · exact same
      · exact absurd (still.symm.trans fine) (by decide)
    have rest := ih after (fun other member => goesOn other (List.mem_cons_of_mem call member)) still
    rw [← same, ← rest]
    rfl

/-! ### Sequences of calls -/

/-- The used part is what it was, followed by whole entries; only `CreateLog` adds one, and
never one that ran out of space. -/
structure AddsWholeEntries (s : Logging) (calls : List (Task × BuildCall)) : Prop where
  used : (s.build calls).buffer.used = s.buffer.used ++ (s.added calls).flatten
  whole : ∀ bytes ∈ s.added calls, WholeEntry bytes
  onlyCreateLog : ∀ before call after, calls = before ++ call :: after → call.2.isCreateLog = false →
    (s.build (before ++ [call])).buffer.used = (s.build before).buffer.used
  outOfSpace : ∀ before entry after, calls = before ++ (entry ++ after) →
    (s.build before).builder.fbLogEntry.bError = true → (∀ call ∈ entry, call.2.isClear = false) →
      (s.build (before ++ entry)).buffer.used = (s.build before).buffer.used

end Logging

open Logging

/-! ### An entry of more than 65538 bytes -/

def wideText : PlcWString where
  units := List.replicate 255 97
  noNul := fun member => absurd (List.eq_of_mem_replicate member) (by decide)
  length_le := List.length_replicate.le

theorem fits_nil : ContextBuilder.Fits [] := by decide

theorem scopedFits_nil : ∀ props ∈ ([] : List (List Property)), ContextBuilder.Fits props := by simp

/-- A statement with arguments of 512 bytes. -/
def wideStatement (count : Nat) : LogStatement where
  message := .empty
  logger := sGlobalLogger
  level := .info
  calls := List.replicate count (.withAnyArg (some (.wstring wideText)))
  taskContext := []
  scopedContexts := []
  handled := by
    intro arg member
    have same := List.eq_of_mem_replicate member
    cases same
    simp
  scoped_le := Nat.zero_le _
  task_fits := fits_nil
  scoped_fits := scopedFits_nil
  log_fits := by
    intro props member
    cases List.eq_of_mem_replicate member

def connectedTask : Task where
  info := ⟨1, 1, 0, 0, 0⟩
  bConnected := true
  eMaxLogLevel := 0
  taskContext := none
  scopedContext := []

def wideCalls (count : Nat) : List (Task × BuildCall) :=
  let task := (wideStatement count).within connectedTask
  [(task, .clear .empty .info (some sGlobalLogger))] ++
    (List.replicate count (task, .withAnyArg (some (.wstring wideText))) ++ [(task, .createLog)])

theorem build_wideCalls (s : Logging) (count : Nat) :
    s.build (wideCalls count) = (wideStatement count).perform connectedTask s := by
  have arguments : ∀ (n : Nat) (s : Logging) (task : Task),
      s.build (List.replicate n (task, .withAnyArg (some (.wstring wideText)))) =
        (List.replicate n (.withAnyArg (some (.wstring wideText)))).foldl (BuilderCall.apply task) s := by
    intro n
    induction n with
    | zero =>
      intro s task
      rfl
    | succ n ih =>
      intro s task
      rw [List.replicate_succ, List.replicate_succ, List.foldl_cons, ← ih]
      rfl
  rw [wideCalls, build_append, build_append, arguments]
  rfl

theorem length_wideStatement (count : Nat) :
    ((wideStatement count).encode connectedTask.info).length = 37 + count * 512 := by
  have arguments : (wideStatement count).arguments = List.replicate count (.any (.wstring wideText)) := by
    exact List.filterMap_replicate_of_some rfl
  have each : (Argument.any (.wstring wideText)).encode.length = 512 := by
    simp [-List.reduceReplicate, Argument.encode, AnyArg.encodeV2, AnyArg.bytesV2, PlcWString.prefixed, wideText]
  have logger : ∀ n, BuilderCall.loggerOf sGlobalLogger
      (List.replicate n (.withAnyArg (some (.wstring wideText)))) = sGlobalLogger := by
    intro n
    cases n <;> rfl
  have context : ∀ n, BuilderCall.contextOf none
      (List.replicate n (.withAnyArg (some (.wstring wideText)))) = none := by
    intro n
    induction n with
    | zero => rfl
    | succ n ih => exact ih
  have records : (wideStatement count).properties = [] := by
    simp [LogStatement.properties, LogStatement.logContext, wideStatement, context]
  have name : (wideStatement count).effectiveLogger.prefixed.length = 9 := by
    rw [LogStatement.effectiveLogger, wideStatement, logger]
    rfl
  have message : (wideStatement count).message.prefixed.length = 1 := rfl
  rw [LogStatement.length_encode, LogStatement.length_body, arguments, records, List.length_flatMap,
    List.map_replicate, each, List.sum_replicate, smul_eq_mul, List.flatMap_nil, List.length_nil]
  omega

/-- From 128 such arguments on, an entry for which there is room is not whole. -/
theorem not_addsWholeEntries (many : 128 ≤ count)
    (room : 37 + count * 512 ≤ free.length) : ¬(holding [] free).AddsWholeEntries (wideCalls count) := by
  intro adds
  obtain ⟨_, _, _, few⟩ := (sound_holding [] free).build (wideCalls count)
  have once : (wideCalls count).countP (·.2.isCreateLog) = 1 := by
    simp [wideCalls, BuildCall.isCreateLog]
  -- whole entries are not that long, and there is one at most
  have short : (((holding [] free).added (wideCalls count)).flatMap id).length ≤
      ((holding [] free).added (wideCalls count)).length * 65538 :=
    length_flatMap_le fun bytes member => (adds.whole bytes member).length_le
  have written := adds.used
  rw [List.flatMap_id] at short
  rw [build_wideCalls, (wideStatement count).perform_used connectedTask _ (by rfl) (Nat.zero_le _)] at written
  · have long := congrArg List.length written
    rw [List.length_append, List.length_append, length_wideStatement] at long
    omega
  · rw [length_wideStatement]
    exact room

end TcOtel.Plc
