import TcOtel.Ads.RoundTrip
import TcOtel.Lib.Moved

/-!
# Log entries with the ids of a span

A traced entry is a v2 entry with 24 more bytes behind its length: the ids of the trace and of
the span. The two parsers of `parser.rs` are written out separately. They do the same: on a
traced entry the one returns what the other returns on the entry without the ids, up to the
ids, and stops 24 bytes further on, whatever the bytes behind the ids are.

The parsers ask for the current time when a clock of the PLC is not synchronised, so the two
are compared under clocks that give the same answers at the places that correspond.
-/

namespace TcOtel.Ads

open Decoding Decoder

/-! ### The body, further on -/

/-- The clock as it is seen `k` bytes further on. -/
def Env.later (env : Env) (k : Nat) : Env := { env with now := fun pos => env.now (k + pos) }

theorem Env.later_later (env : Env) (k l : Nat) : (env.later k).later l = env.later (k + l) := by
  simp [Env.later, Nat.add_assoc]

section

variable (env : Env) (k : Nat)

theorem moved_readFiletime : Moved k (readFiletime env) (readFiletime (env.later k)) := by
  refine Moved.field fun filetime => Moved.position fun here => Moved.ite ?_ ?_
  · exact .of_relative (pure (env.now (k + here)))
  · exact .of_relative _

theorem moved_readDcTaskTime : Moved k (readDcTaskTime env) (readDcTaskTime (env.later k)) := by
  refine Moved.field fun dcNs => Moved.position fun here => Moved.ite ?_ ?_
  · exact .of_relative (pure (env.now (k + here)))
  · exact .of_relative _

theorem readArgument_later : readArgument (env.later k) = readArgument env := rfl

theorem readGroup_later : readGroup (env.later k) = readGroup env := rfl

theorem moved_readLogBody (traceId : Bytes 16) (spanId : Bytes 8) :
    Moved k (readLogBody env traceId spanId) (readLogBody (env.later k) traceId spanId) := by
  unfold readLogBody
  rw [readArgument_later, readGroup_later]
  refine Moved.field fun levelByte => Moved.field fun level => ?_
  refine (moved_readFiletime env k).bind fun plcTimestamp => ?_
  refine (moved_readDcTaskTime env k).bind fun clockTimestamp => ?_
  -- nothing behind the times asks for the position
  exact .of_relative _

end

/-! ### The ids are only handed through -/

def AdsLogEntry.withIds (traceId : Bytes 16) (spanId : Bytes 8) (e : AdsLogEntry) : AdsLogEntry :=
  { e with traceId, spanId }

theorem run_bind_map {α β γ : Type} {g : β → γ} {p : Read α} {f : α → Read γ} {f' : α → Read β}
    (rest : ∀ a data pos, (f a).run data pos = ((f' a).run data pos).map g) (data : List UInt8) (pos : Nat) :
    (p >>= f).run data pos = ((p >>= f').run data pos).map g := by
  rw [bind_run, bind_run]
  cases p.run data pos with
  | ok a next => exact rest a data next
  | err e next => rfl
  | panic => rfl

theorem readLogBody_withIds (env : Env) (traceId : Bytes 16) (spanId : Bytes 8) (data : List UInt8) (pos : Nat) :
    (readLogBody env traceId spanId).run data pos =
      ((readLogBody env (Bytes.zero 16) (Bytes.zero 8)).run data pos).map (AdsLogEntry.withIds traceId spanId) := by
  refine run_bind_map (fun levelByte => run_bind_map fun level => run_bind_map fun plcTimestamp =>
    run_bind_map fun clockTimestamp => run_bind_map fun taskIndex => run_bind_map fun cycle =>
    run_bind_map fun argCount => run_bind_map fun contextCount => run_bind_map fun message =>
    run_bind_map fun logger => run_bind_map fun arguments => run_bind_map fun context => ?_) data pos
  intro data pos
  rfl

/-! ### Both parsers on one entry -/

def endingAt {ε α : Type} (last : Nat) : Outcome ε α → Outcome ε α
  | .ok a _ => .ok a last
  | .err e pos => .err e pos
  | .panic => .panic

theorem run_bind_decoded {α β : Type} {p : Read α} {f : α → Read β} {bytes : List UInt8} {a : α}
    (decodes : Decodes p bytes a) {data before after : List UInt8} (stands : data = before ++ (bytes ++ after)) :
    (p >>= f).run data before.length = (f a).run data (before.length + bytes.length) := by
  subst stands
  exact bind_ok (decodes before after) f

theorem framed_at {α : Type} (body : Read α) (before rest : List UInt8) (entryLength : UInt16)
    (stands : data = before ++ (leBytes 2 entryLength.toNat ++ rest)) : (framed body).run data before.length =
      endingAt (before.length + 2 + entryLength.toNat) (body.run data (before.length + 2)) := by
  have passed := run_bind_decoded (f := fun entryLength : UInt16 => do
    let entryStart ← position
    let value ← body
    seek (entryStart + entryLength.toNat)
    pure value) (decodes_readU16 entryLength) stands
  rw [framed, passed]
  show (body >>= _).run data (before.length + 2) = _
  rw [bind_run]
  cases body.run data (before.length + 2) with
  | ok a next => rfl
  | err e next => rfl
  | panic => rfl

/-- An entry of the type 9: its length, the ids and the rest of the buffer. -/
def tracedEntry (entryLength : UInt16) (traceId : Bytes 16) (spanId : Bytes 8) (rest : List UInt8) : List UInt8 :=
  [9] ++ (leBytes 2 entryLength.toNat ++ (traceId.val ++ (spanId.val ++ rest)))

def plainEntry (entryLength : UInt16) (rest : List UInt8) : List UInt8 :=
  [2] ++ (leBytes 2 entryLength.toNat ++ rest)

variable (env : Env) (before rest : List UInt8) (entryLength : UInt16) (traceId : Bytes 16) (spanId : Bytes 8)

theorem framed_ids {body : Read AdsLogEntry} {ids : List UInt8} (kind : UInt8)
    (passes : ∀ front, body.run (front ++ (ids ++ rest)) front.length =
      (readLogBody env traceId spanId).run (front ++ (ids ++ rest)) (front.length + ids.length)) :
    (framed body).run (before ++ ([kind] ++ (leBytes 2 entryLength.toNat ++ (ids ++ rest)))) (before.length + 1) =
      endingAt (before.length + 3 + entryLength.toNat)
        (((readLogBody (env.later (before.length + 3 + ids.length)) traceId spanId).run rest 0).shift
          (before.length + 3 + ids.length)) := by
  generalize whole : before ++ ([kind] ++ (leBytes 2 entryLength.toNat ++ (ids ++ rest))) = data
  generalize opening : before ++ [kind] ++ leBytes 2 entryLength.toNat = front
  have stands : data = (before ++ [kind]) ++ (leBytes 2 entryLength.toNat ++ (ids ++ rest)) := by
    rw [← whole, List.append_assoc]
  have behind : data = front ++ (ids ++ rest) := by
    rw [stands, ← opening, List.append_assoc _ _ (ids ++ rest)]
  have start : (before ++ [kind]).length = before.length + 1 := by simp
  have length : front.length = before.length + 3 := by simp [← opening]
  have passed := passes front
  have moved := moved_readLogBody env (before.length + 3 + ids.length) traceId spanId (front ++ ids) rest 0
    (by rw [List.length_append, length])
  rw [← behind, length] at passed
  rw [List.append_assoc, ← behind] at moved
  have framed := framed_at body (before ++ [kind]) (ids ++ rest) entryLength stands
  rw [start, passed] at framed
  rw [← moved]
  exact framed

theorem parseV2_at : (parseV2FromReader env).run (before ++ plainEntry entryLength rest) before.length =
      endingAt (before.length + 3 + entryLength.toNat)
        (((readLogBody (env.later (before.length + 3)) (Bytes.zero 16) (Bytes.zero 8)).run rest 0).shift
          (before.length + 3)) := by
  rw [parseV2FromReader, plainEntry, run_bind_decoded (decodes_readU8 2) rfl]
  have framed := @framed_ids env before rest entryLength (Bytes.zero 16) (Bytes.zero 8) _ [] 2 fun _ => rfl
  exact framed

theorem parseV2Traced_at :
    (parseV2TracedFromReader env).run (before ++ tracedEntry entryLength traceId spanId rest) before.length =
      endingAt (before.length + 3 + entryLength.toNat)
        (((readLogBody (env.later (before.length + 27)) traceId spanId).run rest 0).shift (before.length + 27)) := by
  have ids : (traceId.val ++ spanId.val).length = 24 := by
    rw [List.length_append, traceId.property, spanId.property]
  rw [parseV2TracedFromReader, tracedEntry, run_bind_decoded (decodes_readU8 9) rfl, ← List.append_assoc traceId.val]
  -- the ids are read, and the body behind them
  have framed := framed_ids env before rest entryLength traceId spanId 9 fun front =>
    show (readTracedBody env).run (front ++ ((traceId.val ++ spanId.val) ++ rest)) front.length = _ by
      have atSpan : front ++ (traceId.val ++ (spanId.val ++ rest)) = (front ++ traceId.val) ++ (spanId.val ++ rest) := by
        rw [List.append_assoc]
      rw [List.append_assoc, readTracedBody, run_bind_decoded (decodes_readArray traceId) rfl, ← List.length_append,
        run_bind_decoded (decodes_readArray spanId) atSpan, List.length_append, List.length_append, Nat.add_assoc]
  rw [ids] at framed
  exact framed

/-- On every traced entry the parser of traced entries does what the parser of v2 entries does
on the entry of type 2 without the ids, whose length is 24 less: it returns the same fields
and the ids, or the same error, and stops 24 bytes further on. -/
theorem parseV2Traced_eq_parseV2 (long : 24 ≤ entryLength.toNat) :
    (parseV2TracedFromReader env).run (before ++ tracedEntry entryLength traceId spanId rest) before.length =
      (((parseV2FromReader (env.later 24)).run (before ++ plainEntry (entryLength - 24) rest) before.length).map
        (AdsLogEntry.withIds traceId spanId)).shift 24 := by
  have shorter : (entryLength - 24).toNat = entryLength.toNat - 24 :=
    UInt16.toNat_sub_of_le entryLength 24 long
  have clock : (env.later 24).later (before.length + 3) = env.later (before.length + 27) := by
    rw [Env.later_later]
    congr 1
    omega
  rw [parseV2Traced_at, parseV2_at, readLogBody_withIds, clock]
  cases (readLogBody (env.later (before.length + 27)) (Bytes.zero 16) (Bytes.zero 8)).run rest 0 with
  | ok e next | err e next =>
    simp only [Outcome.map, Outcome.shift, endingAt]
    congr 1
    omega
  | panic => rfl

def sampleBody : List UInt8 := sampleV2.encode.drop 3

/-- A traced entry with that body: it ends behind its 3 bytes of header and the 80 that its
length announces. -/
theorem parseV2Traced_eq_parseV2_sample :
    ((parseV2TracedFromReader .atEpoch).run ([] ++ tracedEntry 80 (Bytes.zero 16) (Bytes.zero 8) sampleBody) 0).stop = 83 ∧
    (parseV2TracedFromReader .atEpoch).run ([] ++ tracedEntry 80 (Bytes.zero 16) (Bytes.zero 8) sampleBody) 0 =
      (((parseV2FromReader (Env.atEpoch.later 24)).run ([] ++ plainEntry (80 - 24) sampleBody) 0).map
        (AdsLogEntry.withIds (Bytes.zero 16) (Bytes.zero 8))).shift 24 :=
  ⟨by decide +kernel, parseV2Traced_eq_parseV2 .atEpoch [] sampleBody 80 (Bytes.zero 16) (Bytes.zero 8) (by decide)⟩

end TcOtel.Ads
