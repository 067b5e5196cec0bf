import TcOtel.Ads.Parser

/-!
# `parse_all` stays inside the buffer and ends

Lengths in the buffer are untrusted: a frame's length may set the read position past the
end, and the recovery paths set it back. No index is taken there all the same. Each message
decoder reads the type byte first and then only goes forward (`decodeMessage_ahead`), so
that every iteration that goes on leaves a larger position behind.

`parseStep_eq` says what an iteration does and `afterError_v2`, `afterError_traced` what
the two recovery paths do; later proofs use these and not the definitions.
-/

namespace TcOtel.Ads

open Decoding Decoder Looping

-- the longer records have more fields than the default allows an instance to have parts
set_option synthInstance.maxSize 20000

/-! ### The message decoders go forward -/

instance (env : Env) (traceId : Bytes 16) (spanId : Bytes 8) : Local (readLogBody env traceId spanId) := by
  unfold readLogBody readArgument readGroup readProperty
  infer_instance
instance (env : Env) : Local (readTracedBody env) := by unfold readTracedBody; infer_instance

instance (valueType : UInt8) (valueLen : Nat) : Local (readAttrValue valueType valueLen) := by
  unfold readAttrValue; split <;> infer_instance
instance (valueType : UInt8) : Local (readPointAttrValue valueType) := by
  unfold readPointAttrValue; split <;> infer_instance
instance (attrs : List (String × AttrValue)) : Local (readPointAttr attrs) := by
  unfold readPointAttr; infer_instance
instance (eventType localId taskIndex flags : UInt8) (dcTime : Int64) :
    Local (readTracePayload eventType localId taskIndex flags dcTime) := by
  unfold readTracePayload readSpanBegin readSpanAttr readSpanPoint readSpanEnd readFlagged readSpanIdRest readShortText
  split <;> infer_instance

instance (env : Env) : Local (readMetricBody env) := by
  unfold readMetricBody readMetricAttribute readHistogramPart readHistogram
  infer_instance

instance (env : Env) (found : Arguments × Context) : Forward (v1Round env found) := by
  unfold v1Round; infer_instance

variable {data : List UInt8}

theorem readU8_run (inside : pos < data.length) : readU8.run data pos = .ok data[pos] (pos + 1) := by
  have one : (data.drop pos).take 1 = [data[pos]] := by
    rw [List.drop_eq_getElem_cons inside, List.take_succ_cons, List.take_zero]
  rw [readU8, bind_ok (by rw [readBytes_run (by omega), if_pos (by omega), one])]
  rfl

theorem readU8_ok (ran : readU8.run data pos = .ok b next) : next = pos + 1 := by
  obtain ⟨bytes, mid, first, second⟩ := bind_eq_ok ran
  obtain ⟨-, rfl, fits⟩ := readBytes_ok first
  rw [readU8_run (by omega)] at ran
  cases ran
  rfl

theorem v1Round_advances (env : Env) : Forward.Advances (v1Round env) := by
  intro found data pos next found' inside ran
  obtain ⟨left, here, counted, rest⟩ := bind_eq_ok ran
  obtain ⟨rfl, rfl⟩ := counted
  split at rest
  · cases rest
  · obtain ⟨typeId, behind, read, body⟩ := bind_eq_ok rest
    have moved := readU8_ok read
    have bounds := Forward.ok inside read
    have onward := (Forward.ok bounds.2 body).1
    omega

instance (env : Env) (found : Arguments × Context) : Forward (loopOpen (v1Round env) found) :=
  Forward.loopOpen (v1Round env) (v1Round_advances env) found

instance {α : Type} (body : Read α) [Forward body] : Ahead (framed body) := by
  unfold framed
  have seeks : ∀ (entryStart : Nat) (entryLength : UInt16) (data : List UInt8),
      entryStart ≤ data.length →
      ((do let value ← body; seek (entryStart + entryLength.toNat); pure value).run data
        entryStart).Ahead entryStart data.length := by
    intro entryStart entryLength data inside
    rw [bind_run]
    split
    next value next ran => exact Nat.le_add_right entryStart entryLength.toNat
    next e next ran => exact Forward.err inside ran
    next ran => exact absurd ran (Forward.no_panic inside)
  refine ⟨fun data pos inside => ?_⟩
  rw [bind_run]
  split
  next entryLength entryStart ran =>
    have bounds := Forward.ok inside ran
    exact (seeks entryStart entryLength data bounds.2).lower bounds.1
  next e next ran => exact Forward.err inside ran
  next ran => exact absurd ran (Forward.no_panic inside)

theorem ahead_of_readU8 {α : Type} {f : UInt8 → Read α} [rest : ∀ b, Ahead (f b)]
    {pos : Nat} (inside : pos < data.length) : ((readU8 >>= f).run data pos).Ahead (pos + 1) data.length := by
  rw [bind_ok (readU8_run inside)]
  exact (rest _).ahead data (pos + 1) inside

/-- Whatever kind a message has: its decoder does not panic and ends behind its first byte. -/
theorem decodeMessage_ahead (env : Env) (kind : MessageType) (inside : pos < data.length) :
    ((decodeMessage env kind).run data pos).Ahead (pos + 1) data.length := by
  cases kind <;> exact (ahead_of_readU8 inside).map

/-! ### What an iteration does -/

def typeAt (data : List UInt8) (pos : Nat) : Option MessageType :=
  data[pos]?.bind MessageType.fromByte

theorem typeAt_inside (found : typeAt data pos = some kind) : pos < data.length := by
  obtain ⟨first, present, -⟩ := Option.bind_eq_some_iff.mp found
  exact (List.getElem?_eq_some_iff.mp present).1

theorem peekBytes_ok (inside : pos < data.length)
    (kind : MessageType) : ∃ bytes next, peekBytes data pos kind = .ok bytes next := by
  cases kind with
  | v2 =>
    simp only [peekBytes, slice]
    rw [if_pos (by omega)]
    exact ⟨_, _, rfl⟩
  | v1 | registration | metric | traceEvent | traced => exact ⟨_, _, rfl⟩

theorem yields_framed (inner : Yields body post) : Yields (framed body) post :=
  .bind fun _ => .bind fun _ => .bind_of inner fun _ holds => .bind fun _ => .pure holds

theorem parseStep_eq (env : Env) (data : List UInt8) (c : Cursor) : parseStep env data c =
      match typeAt data c.pos with
      | none => breakWith c.acc
      | some kind =>
        match (decodeMessage env kind).run data c.pos with
        | .ok message next => .next ⟨c.acc.push message, next⟩
        | .err e failedAt => afterError data c e failedAt kind
        | .panic => .halt .panic := by
  simp only [parseStep]
  split
  next absent => simp [typeAt, absent]
  next first present =>
    simp only [typeAt, present, Option.bind_some]
    split
    next padding =>
      -- padding and terminator are no message types either
      rcases padding with rfl | rfl <;> rfl
    next message =>
      cases isKind : MessageType.fromByte first with
      | none => rfl
      | some kind =>
        have inside := (List.getElem?_eq_some_iff.mp present).1
        obtain ⟨bytes, next, peeked⟩ := peekBytes_ok inside kind
        dsimp only
        generalize peekBytes data c.pos kind = peek at peeked ⊢
        subst peeked
        rfl

/-! ### Recovery -/

def frameEnd (data : List UInt8) (pos : Nat) : Nat :=
  pos + 3 + (UInt16.ofNat (leNat ((data.drop (pos + 1)).take 2))).toNat

theorem readU16_run (inside : pos + 2 ≤ data.length) :
    readU16.run data pos = .ok (UInt16.ofNat (leNat ((data.drop pos).take 2))) (pos + 2) := by
  have bytes : (readBytes 2).run data pos = .ok ((data.drop pos).take 2) (pos + 2) := by
    rw [readBytes_run (by omega), if_pos inside]
  rw [readU16, readLe, bind_ok (by rw [bind_ok bytes, pure_run]), pure_run]

def canSkip (data : List UInt8) (pos : Nat) : Bool :=
  decide (pos + 3 ≤ data.length) && (data[frameEnd data pos]?.any isSkipTarget)

theorem v2SkipTarget_eq (data : List UInt8) (pos : Nat) : ∃ readTo, v2SkipTarget data pos =
      .ok (if canSkip data pos then some (frameEnd data pos) else none) readTo := by
  simp only [v2SkipTarget, canSkip, Bool.and_eq_true, decide_eq_true_eq]
  by_cases header : pos + 3 ≤ data.length
  · refine ⟨pos + 1 + 2, ?_⟩
    rw [if_pos (by omega), readU16_run (by omega)]
    have target : pos + 3 + (UInt16.ofNat (leNat ((data.drop (pos + 1)).take 2))).toNat = frameEnd data pos := rfl
    simp only [target]
    have forward : frameEnd data pos > pos := by unfold frameEnd; omega
    by_cases inside : frameEnd data pos < data.length
    · rw [if_pos ⟨inside, forward⟩, List.getElem?_eq_getElem inside]
      simp [header]
    · rw [if_neg (fun both => inside both.1), List.getElem?_eq_none (by omega)]
      simp
  · refine ⟨pos, ?_⟩
    rw [if_neg (by omega)]
    simp [header]

theorem afterError_v2 (data : List UInt8) (c : Cursor) (e : AdsError) (failedAt : Nat) :
    afterError data c e failedAt .v2 = if canSkip data c.pos then .next { c with pos := frameEnd data c.pos }
      else if c.acc.noLogs then .halt (.err e) else breakWith c.acc := by
  obtain ⟨readTo, target⟩ := v2SkipTarget_eq data c.pos
  simp only [afterError, target]
  cases canSkip data c.pos <;> rfl

/-- The recovery of a traced entry skips the frame whatever follows it, unless a log or a
registration was decoded before. -/
theorem afterError_traced (e : AdsError) (later : c.pos ≤ failedAt) : afterError data c e failedAt .traced =
      if c.acc.noLogs ∧ failedAt + 3 ≤ data.length then .next { c with pos := frameEnd data c.pos }
      else breakWith c.acc := by
  simp only [afterError]
  cases empty : c.acc.noLogs with
  | false => simp
  | true =>
    by_cases long : failedAt + 3 ≤ data.length
    · have header : data.length - failedAt ≥ 3 := by omega
      have length : readU16.run data (c.pos + 1) = .ok _ _ := readU16_run (by omega)
      simp [if_pos header, length, long, frameEnd]
    · have header : ¬ data.length - failedAt ≥ 3 := by omega
      simp [header, long]

/-! ### Every iteration stops or goes forward -/

/-- A message that does not decode is skipped, or its error is returned, or the loop
breaks off with what was decoded so far. -/
theorem afterError_cases (data : List UInt8) (e : AdsError) (kind : MessageType) (later : c.pos ≤ failedAt) :
    afterError data c e failedAt kind = .next { c with pos := frameEnd data c.pos } ∨
    afterError data c e failedAt kind = .halt (.err e) ∨
    afterError data c e failedAt kind = breakWith c.acc := by
  cases kind with
  | v2 =>
    rw [afterError_v2]
    split
    · exact .inl rfl
    · split
      · exact .inr (.inl rfl)
      · exact .inr (.inr rfl)
  | traced =>
    rw [afterError_traced e later]
    split
    · exact .inl rfl
    · exact .inr (.inr rfl)
  | registration => exact .inr (.inr rfl)
  | v1 | metric | traceEvent =>
    simp only [afterError]
    split
    · exact .inr (.inl rfl)
    · exact .inr (.inr rfl)

/-- All that an iteration can do. -/
inductive Effect (env : Env) (data : List UInt8) (c : Cursor) : ParseStep → Prop
  | stop : Effect env data c (.halt (.ok c.acc))
  | decoded {kind : MessageType} {message : Message} {next : Nat}
      (found : typeAt data c.pos = some kind)
      (ran : (decodeMessage env kind).run data c.pos = .ok message next) (forward : c.pos < next) :
      Effect env data c (.next ⟨c.acc.push message, next⟩)
  | skipped {kind : MessageType} {e : AdsError} {failedAt : Nat}
      (found : typeAt data c.pos = some kind)
      (ran : (decodeMessage env kind).run data c.pos = .err e failedAt) :
      Effect env data c (.next ⟨c.acc, frameEnd data c.pos⟩)
  | failed {kind : MessageType} {e : AdsError} {failedAt : Nat}
      (found : typeAt data c.pos = some kind) (later : c.pos ≤ failedAt)
      (ran : (decodeMessage env kind).run data c.pos = .err e failedAt)
      (returned : afterError data c e failedAt kind = .halt (.err e)) :
      Effect env data c (.halt (.err e))

theorem parseStep_effect (env : Env) (data : List UInt8) (c : Cursor) :
    Effect env data c (parseStep env data c) := by
  rw [parseStep_eq]
  split
  · exact .stop
  next kind found =>
    have ahead := decodeMessage_ahead env kind (typeAt_inside found)
    split
    next message next ran =>
      rw [ran] at ahead
      exact .decoded found ran ahead
    next e failedAt ran =>
      rw [ran] at ahead
      have later : c.pos ≤ failedAt := Nat.le_of_succ_le ahead.1
      rcases afterError_cases data e kind later with skip | error | stop
      · rw [skip]
        exact .skipped found ran
      · rw [error]
        exact .failed found later ran error
      · rw [stop]
        exact .stop
    next ran =>
      rw [ran] at ahead
      exact ahead.elim

theorem parseStep_advances
    (moved : parseStep env data c = .next c') : c.pos < c'.pos ∧ c.pos < data.length := by
  have effect := parseStep_effect env data c
  rw [moved] at effect
  cases effect with
  | decoded found ran forward => exact ⟨forward, typeAt_inside found⟩
  | skipped found ran =>
    refine ⟨?_, typeAt_inside found⟩
    simp only [frameEnd]
    omega

theorem parseStep_no_panic (env : Env) (data : List UInt8) (c : Cursor) :
    parseStep env data c ≠ .halt .panic := by
  intro halted
  have effect := parseStep_effect env data c
  rw [halted] at effect
  cases effect

/-- Every iteration brings the cursor closer to the end. -/
theorem parseStep_progress (env : Env) (data : List UInt8) :
    Progress (parseStep env data) (fun _ => True) (fun c => data.length - c.pos) where
  preserves _ _ := trivial
  decreases _ moved := by
    have forward := parseStep_advances moved
    omega

/-- The loop of `parse_all`, without its budget. -/
abbrev Parses (env : Env) (data : List UInt8) (c : Cursor) (r : Parsed) : Prop :=
  Ends (parseStep env data) c r

/-- `parse_all` on a buffer that is not too large is what its loop means. -/
theorem parseAll_eq_some_iff (size : data.length ≤ maxMessageSize) :
    parseAll env data = some r ↔ Parses env data .start r := by
  rw [parseAll, if_neg (by omega)]
  exact run_eq_some_iff (parseStep_progress env data) trivial (Nat.lt_succ_of_le (Nat.sub_le _ _))

def iterations (env : Env) (data : List UInt8) : List Cursor :=
  if data.length > maxMessageSize then []
  else (visited (parseStep env data) (data.length + 1) .start).filter
    fun c => decide (c.pos < data.length)

theorem iterations_length_le (env : Env) (data : List UInt8) :
    (iterations env data).length ≤ data.length := by
  unfold iterations
  split
  · exact Nat.zero_le _
  · have bound := visited_length_le (parseStep_progress env data) (data.length + 1)
      (show True from trivial) (s := Cursor.start)
    simpa only [Nat.sub_pos_iff_lt, Cursor.start, Nat.sub_zero] using bound

theorem parseAll_isSome (env : Env) (data : List UInt8) : ∃ r, parseAll env data = some r := by
  unfold parseAll
  split
  · exact ⟨_, rfl⟩
  · exact run_isSome (parseStep_progress env data) trivial (Nat.lt_succ_of_le (Nat.sub_le _ _))

theorem parseAll_no_panic (env : Env) (data : List UInt8) : parseAll env data ≠ some .panic := by
  by_cases size : data.length ≤ maxMessageSize
  · rw [ne_eq, parseAll_eq_some_iff size]
    rintro ⟨c, -, halted⟩
    exact parseStep_no_panic env data c halted
  · rw [parseAll, if_pos (by omega)]
    intro same
    cases same

/-- For every buffer: `parse_all` returns and takes no index outside the buffer. An
iteration, from whatever position, stops or leaves a larger position behind, and there are
at most as many iterations as bytes. -/
theorem parseAll_total (env : Env) (data : List UInt8) : (∃ r, parseAll env data = some r ∧ r ≠ .panic) ∧
    (∀ c : Cursor, (∃ r, parseStep env data c = .halt r ∧ r ≠ .panic) ∨
      ∃ c', parseStep env data c = .next c' ∧ c.pos < c'.pos) ∧
    (iterations env data).length ≤ data.length := by
  refine ⟨?_, fun c => ?_, iterations_length_le env data⟩
  · obtain ⟨r, returned⟩ := parseAll_isSome env data
    refine ⟨r, returned, ?_⟩
    rintro rfl
    exact parseAll_no_panic env data returned
  · cases step : parseStep env data c with
    | next c' => exact .inr ⟨c', rfl, (parseStep_advances step).1⟩
    | halt r =>
      refine .inl ⟨r, rfl, ?_⟩
      rintro rfl
      exact parseStep_no_panic env data c step

end TcOtel.Ads
