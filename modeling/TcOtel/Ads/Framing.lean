import TcOtel.Ads.Safety

/-!
# Frames and what is read of them

A v2 entry, a traced entry and a metric announce the length of their body. The decoders
read the body without a bound and set the position from the length afterwards, so that the
bytes read and the bytes announced need not be the same.
-/

namespace TcOtel.Ads

open Decoding Decoder Looping

/-! ### Decoding a frame -/

def frameBody (env : Env) : MessageType → Option (Read Message)
  | .v2 => some do
    let entry ← readLogBody env (Bytes.zero 16) (Bytes.zero 8)
    pure (.log entry)
  | .traced => some do
    let entry ← readTracedBody env
    pure (.log entry)
  | .metric => some do
    let metric ← readMetricBody env
    pure (.metric metric)
  | .v1 | .registration | .traceEvent => none

def atFrameEnd {α : Type} (stop : Nat) : Outcome AdsError α → Outcome AdsError α
  | .ok a _ => .ok a stop
  | .err e failedAt => .err e failedAt
  | .panic => .panic

theorem framed_run {α : Type} (body : Read α) (g : α → Message) (data : List UInt8) (pos : Nat)
    (inside : pos < data.length) : (framed body >>= fun a => pure (g a)).run data (pos + 1) =
      if pos + 3 ≤ data.length then
        atFrameEnd (frameEnd data pos) ((body >>= fun a => pure (g a)).run data (pos + 3))
      else .err (.incompleteMessage 2 (data.length - (pos + 1))) (pos + 1) := by
  split
  next header =>
    have length : readU16.run data (pos + 1) = .ok _ _ := readU16_run (by omega)
    simp only [framed, bind_run, ↓length, position]
    cases body.run data (pos + 1 + 2) <;> rfl
  next header =>
    have short : (readBytes 2).run data (pos + 1) =
        .err (.incompleteMessage 2 (data.length - (pos + 1))) (pos + 1) := by
      rw [readBytes_run (by omega), if_neg (by omega)]
    simp [framed, bind_run, readU16, readLe, short]

theorem readU8_typeAt (found : typeAt data pos = some kind) :
    ∃ b, MessageType.fromByte b = some kind ∧ readU8.run data pos = .ok b (pos + 1) := by
  have inside := typeAt_inside found
  rw [typeAt, List.getElem?_eq_getElem inside] at found
  exact ⟨data[pos], found, readU8_run inside⟩

theorem eq_of_fromByte (found : MessageType.fromByte b = some kind) :
    (kind = .v2 → b = 2) ∧ (kind = .traced → b = 9) ∧ (kind = .metric → b = 4) := by
  unfold MessageType.fromByte at found
  split at found <;> cases found <;> simp [UInt8.ext_iff, *]

theorem decodeMessage_framed (isFramed : frameBody env kind = some body)
    (found : typeAt data pos = some kind) : (decodeMessage env kind).run data pos =
      if pos + 3 ≤ data.length then atFrameEnd (frameEnd data pos) (body.run data (pos + 3))
      else .err (.incompleteMessage 2 (data.length - (pos + 1))) (pos + 1) := by
  have inside := typeAt_inside found
  obtain ⟨b, isKind, first⟩ := readU8_typeAt found
  obtain ⟨isV2, isTraced, isMetric⟩ := eq_of_fromByte isKind
  cases kind with
  | v2 =>
    cases isFramed
    rw [← framed_run _ Message.log data pos inside]
    simp [decodeMessage, parseV2FromReader, bind_run, first, isV2 rfl, failIf]
  | traced =>
    cases isFramed
    rw [← framed_run _ Message.log data pos inside]
    simp [decodeMessage, parseV2TracedFromReader, bind_run, first, isTraced rfl, failIf]
  | metric =>
    cases isFramed
    rw [← framed_run _ Message.metric data pos inside]
    simp [decodeMessage, parseMetricFromReader, bind_run, first, isMetric rfl, failIf]
  | v1 | registration | traceEvent => cases isFramed

theorem decodeMessage_framed_ok (isFramed : frameBody env kind = some body)
    (found : typeAt data pos = some kind) : (decodeMessage env kind).run data pos = .ok m next ↔
      next = frameEnd data pos ∧ pos + 3 ≤ data.length ∧ ∃ stop, body.run data (pos + 3) = .ok m stop := by
  rw [decodeMessage_framed isFramed found]
  constructor
  · intro ran
    split at ran
    next header =>
      cases read : body.run data (pos + 3) with
      | ok value stop =>
        rw [read] at ran
        cases ran
        exact ⟨rfl, header, stop, rfl⟩
      | err e failedAt | panic =>
        rw [read] at ran
        cases ran
    · cases ran
  · rintro ⟨rfl, header, stop, read⟩
    rw [if_pos header, read]
    rfl

/-! ### The size a body announces -/

def textSize : Size := .byte fun len => .fixed len.toNat

/-- What follows the type id of a value; an enumeration has another type id in front. -/
def enumSize : ArgType → Size
  | .unsigned8 => .fixed 1
  | .unsigned16 => .fixed 2
  | .unsigned32 => .fixed 4
  | .unsigned64 => .fixed 8
  | _ => .fixed 0

def valueSize : ArgType → Size
  | .null | .unknown => .fixed 0
  | .unsigned8 | .sint | .bool => .fixed 1
  | .unsigned16 | .int => .fixed 2
  | .unsigned32 | .real | .dint | .time | .timeOfDay | .date | .dateAndTime => .fixed 4
  | .lreal | .unsigned64 | .signed64 | .ltime => .fixed 8
  | .string => textSize
  | .wstring => .byte fun count => .fixed (count.toNat * 2)
  | .enum => .byte fun inner => enumSize (.ofId inner.toNat)

def v2ValueSize : Size := .byte fun typeId => valueSize (.ofId (remapV2TypeId typeId.toNat))

def propertySize : Size := textSize.andThen v2ValueSize

def groupSize : Size := .andThen (.fixed 1) (.byte fun count => propertySize.times count.toNat)

/-- Level, two times, task and cycle; the counts; the texts; arguments and context. -/
def logSize : Size :=
  .andThen (.fixed 22) <| .byte fun arguments => .byte fun groups =>
    textSize.andThen <| textSize.andThen <|
      (v2ValueSize.times arguments.toNat).andThen (groupSize.times groups.toNat)

def tracedSize : Size := .andThen (.fixed 24) logSize

def histogramSize : Size :=
  .byte fun buckets => .andThen (.fixed (buckets.toNat * 8)) <|
    .andThen (.fixed ((buckets.toNat + 1) * 8)) (.fixed 16)

/-- Kind, time, task and cycle; count and flags; three texts and the value; the buckets of a
histogram; attributes. -/
def metricSize : Size :=
  .byte fun kind => .andThen (.fixed 13) <| .byte fun attributes =>
    .andThen (.fixed 1) <| textSize.andThen <| textSize.andThen <| textSize.andThen <|
      .andThen (.fixed 8) <|
        .andThen (if kind = 2 then histogramSize else .fixed 0) (propertySize.times attributes.toNat)

theorem spans_readBytes (n : Nat) : Spans (readBytes n) (.fixed n) :=
  fun _ _ _ _ ran => (readBytes_ok ran).2.1

theorem spans_readLe (n : Nat) : Spans (readLe n) (.fixed n) :=
  (spans_readBytes n).last fun _ => .pure _

theorem spans_readU16 : Spans readU16 (.fixed 2) := (spans_readLe 2).last fun _ => .pure _
theorem spans_readI16 : Spans readI16 (.fixed 2) := (spans_readLe 2).last fun _ => .pure _
theorem spans_readU32 : Spans readU32 (.fixed 4) := (spans_readLe 4).last fun _ => .pure _
theorem spans_readI32 : Spans readI32 (.fixed 4) := (spans_readLe 4).last fun _ => .pure _
theorem spans_readU64 : Spans readU64 (.fixed 8) := (spans_readLe 8).last fun _ => .pure _
theorem spans_readI64 : Spans readI64 (.fixed 8) := spans_readU64.last fun _ => .pure _
theorem spans_readF64 : Spans readF64 (.fixed 8) := spans_readU64.last fun _ => .pure _
theorem spans_readU8 : Spans readU8 (.fixed 1) := fun _ _ _ _ ran => readU8_ok ran

theorem spans_readArray (n : Nat) : Spans (readArray n) (.fixed n) := by
  refine (spans_readBytes n).last fun bytes => ?_
  split
  · exact .pure _
  · intro data pos next a ran
    cases ran

theorem spans_byte {α : Type} {f : UInt8 → Read α} {rest : UInt8 → Size}
    (second : ∀ b, Spans (f b) (rest b)) : Spans (readU8 >>= f) (.byte rest) := by
  intro data pos next a ran
  obtain ⟨b, mid, first, body⟩ := bind_eq_ok ran
  have inside : pos < data.length := by
    obtain ⟨bytes, stop, read, -⟩ := bind_eq_ok first
    have bounds := readBytes_ok read
    omega
  rw [readU8_run inside] at first
  cases first
  have size := second data[pos] data (pos + 1) next a body
  have head : (data.drop pos).headD 0 = data[pos] := by
    rw [List.drop_eq_getElem_cons inside]
    rfl
  rw [size, Size.byte, head, List.drop_drop, Nat.add_assoc]

theorem spans_readString : Spans readString textSize :=
  spans_byte fun _ =>
    .silent (.failIf _ _) fun _ => (spans_readBytes _).last fun _ => .pure _

theorem spans_readEnum (t : ArgType) : Spans (readEnum t) (enumSize t) := by
  cases t with
  | unsigned8 => exact spans_readU8.last fun _ => .pure _
  | unsigned16 => exact spans_readU16.last fun _ => .pure _
  | unsigned32 => exact spans_readU32.last fun _ => .pure _
  | unsigned64 => exact spans_readU64.last fun _ => .pure _
  | _ => exact .pure _

theorem spans_typeId8 {α : Type} {f : Int → Read α} {rest : Int → Size} (second : ∀ t, Spans (f t) (rest t)) :
    Spans (readTypeId8 >>= f) (.byte fun b => rest b.toNat) := by
  have whole : Spans (readU8 >>= fun b => f b.toNat) (.byte fun b => rest b.toNat) :=
    spans_byte fun b => second b.toNat
  intro data pos next a ran
  apply whole
  simp only [readTypeId8, bind_run] at ran ⊢
  cases first : readU8.run data pos with
  | ok b mid => rw [first] at ran; exact ran
  | err e mid | panic => rw [first] at ran; cases ran

section

variable (env : Env)

theorem spans_readValueWithType (t : Int) : Spans (readValueWithType env t) (valueSize (.ofId t)) := by
  unfold readValueWithType
  cases ArgType.ofId t with
  | null | unknown => exact .pure _
  | unsigned8 | sint | bool => exact spans_readU8.last fun _ => .pure _
  | unsigned16 => exact spans_readU16.last fun _ => .pure _
  | int => exact spans_readI16.last fun _ => .pure _
  | unsigned32 | real | time | timeOfDay | date | dateAndTime =>
    exact spans_readU32.last fun _ => .pure _
  | dint => exact spans_readI32.last fun _ => .pure _
  | lreal => exact spans_readF64.last fun _ => .pure _
  | unsigned64 | ltime => exact spans_readU64.last fun _ => .pure _
  | signed64 => exact spans_readI64.last fun _ => .pure _
  | string => exact spans_readString.last fun _ => .pure _
  | wstring => exact spans_byte fun _ => (spans_readBytes _).last fun _ => .pure _
  | enum => exact spans_typeId8 fun inner => spans_readEnum _

theorem spans_readV2Value : Spans (readV2Value env) v2ValueSize :=
  spans_typeId8 fun _ => spans_readValueWithType env _

theorem spans_readFiletime : Spans (readFiletime env) (.fixed 8) := by
  refine (spans_readLe 8).last fun ticks => .silent .position fun here => ?_
  split
  · exact .pure _
  · exact .orFail _ _

theorem spans_readDcTaskTime : Spans (readDcTaskTime env) (.fixed 8) := by
  refine spans_readI64.last fun ns => .silent .position fun here => ?_
  split
  · exact .pure _
  · exact .orFail _ _

theorem spans_readProperty (scope : UInt8) (found : Nat × Context) :
    Spans (readProperty env scope found) propertySize :=
  spans_readString.bind fun _ => (spans_readV2Value env).last fun _ => .pure _

theorem spans_readGroup (found : Nat × Context) : Spans (readGroup env found) groupSize :=
  .silent (.failIf _ _) fun _ => spans_readU8.bind fun scope =>
    spans_byte fun _ => .iterate (spans_readProperty env scope) _ _

theorem spans_readArgument (found : Nat × Arguments) : Spans (readArgument env found) v2ValueSize :=
  .silent (.failIf _ _) fun _ => (spans_readV2Value env).last fun _ => .pure _

theorem spans_readLogBody (traceId : Bytes 16) (spanId : Bytes 8) :
    Spans (readLogBody env traceId spanId) logSize := by
  refine .fixed (m := 21) spans_readU8 fun level => .silent (.orFail _ _) fun _ => ?_
  refine .fixed (m := 13) (spans_readFiletime env) fun _ => ?_
  refine .fixed (m := 5) (spans_readDcTaskTime env) fun _ => ?_
  refine .fixed (m := 4) spans_readU8 fun _ => spans_readU32.bind fun _ => ?_
  refine spans_byte fun arguments => spans_byte fun groups => ?_
  refine spans_readString.bind fun _ => spans_readString.bind fun _ => ?_
  refine .bind (.iterate (spans_readArgument env) _ _) fun _ => ?_
  exact .last (.iterate (spans_readGroup env) _ _) fun _ => .pure _

theorem spans_readTracedBody : Spans (readTracedBody env) tracedSize :=
  .fixed (m := 8) (spans_readArray 16) fun traceId => (spans_readArray 8).bind fun spanId =>
    spans_readLogBody env traceId spanId

theorem spans_readHistogram : Spans readHistogram histogramSize := by
  have bounds : ∀ n, Spans (iterate n (fun found => do let b ← readF64; pure (found ++ [b])) [])
      (.fixed (n * 8)) := fun n =>
    Size.times_fixed 8 n ▸ .iterate (fun _ => spans_readF64.last fun _ => .pure _) n []
  have counts : ∀ n, Spans (iterate n (fun found => do let c ← readU64; pure (found ++ [c])) [])
      (.fixed (n * 8)) := fun n =>
    Size.times_fixed 8 n ▸ .iterate (fun _ => spans_readU64.last fun _ => .pure _) n []
  refine spans_byte fun buckets => .silent (.failIf _ _) fun _ => ?_
  refine .bind (bounds _) fun _ => .bind (counts _) fun _ => ?_
  exact .fixed (m := 8) spans_readU64 fun _ => spans_readF64.bind fun _ => .pure _

theorem fromU8_histogram_iff (isKind : MetricKind.fromU8 b = some kind) : kind = .histogram ↔ b = 2 := by
  unfold MetricKind.fromU8 at isKind
  split at isKind <;> cases isKind <;> simp [UInt8.ext_iff, *]

theorem spans_readMetricAttribute (found : Context) : Spans (readMetricAttribute env found) propertySize :=
  spans_readString.bind fun _ => (spans_readV2Value env).last fun _ => .pure _

theorem spans_readMetricBody : Spans (readMetricBody env) metricSize := by
  refine spans_byte fun kindByte => .orFail_bind fun kind isKind => ?_
  have part : Spans (readHistogramPart kind) (if kindByte = 2 then histogramSize else .fixed 0) := by
    unfold readHistogramPart
    by_cases histogram : kind = .histogram
    · rw [if_pos histogram, if_pos ((fromU8_histogram_iff isKind).mp histogram)]
      exact spans_readHistogram
    · rw [if_neg histogram, if_neg fun two => histogram ((fromU8_histogram_iff isKind).mpr two)]
      exact .pure _
  refine .fixed (m := 5) (spans_readFiletime env) fun _ => ?_
  refine .fixed (m := 4) spans_readU8 fun _ => ?_
  refine spans_readU32.bind fun _ => spans_byte fun attributes => spans_readU8.bind fun _ => ?_
  refine .silent (.failIf _ _) fun _ => ?_
  refine spans_readString.bind fun _ => spans_readString.bind fun _ => ?_
  refine spans_readString.bind fun _ => spans_readF64.bind fun _ => part.bind fun _ => ?_
  exact .last (.iterate (spans_readMetricAttribute env) _ _) fun _ => .pure _

end

/-! ### The bytes of a message -/

/-- The size of the body of a framed message, by the lengths and counts in it. -/
def bodySize : MessageType → Size
  | .v2 => logSize
  | .traced => tracedSize
  | .metric => metricSize
  | .v1 | .registration | .traceEvent => .fixed 0

/-- Where the body of the framed message at a position ends by its own lengths. -/
def announcedEnd (data : List UInt8) (pos : Nat) (kind : MessageType) : Nat :=
  pos + 3 + bodySize kind (data.drop (pos + 3))

def MessageType.isEntry (kind : MessageType) : Prop := kind = .v2 ∨ kind = .traced

/-- How far the decoder of the message at a position reads. For a framed message this is
where its body stops, not where the length then sets the position. -/
def readTo (env : Env) (data : List UInt8) (pos : Nat) (kind : MessageType) : Nat :=
  match frameBody env kind with
  | some body => (body.run data (pos + 3)).stop
  | none => ((decodeMessage env kind).run data pos).stop

/-- A message that `parse_all` decodes, in the iteration that begins at the cursor. -/
structure Accepted (env : Env) (data : List UInt8) (c : Cursor) (kind : MessageType) (m : Message)
    (next : Nat) : Prop where
  size : data.length ≤ maxMessageSize
  reached : Reaches (parseStep env data) .start c
  found : typeAt data c.pos = some kind
  ran : (decodeMessage env kind).run data c.pos = .ok m next

variable {env : Env} {data : List UInt8} {c c' : Cursor} {kind kind' : MessageType}
  {m m' : Message} {next next' : Nat}

theorem frameBody_spans (isFramed : frameBody env kind = some body) : Spans body (bodySize kind) := by
  cases kind with
  | v2 =>
    cases isFramed
    exact (spans_readLogBody env _ _).last fun _ => .pure _
  | traced =>
    cases isFramed
    exact (spans_readTracedBody env).last fun _ => .pure _
  | metric =>
    cases isFramed
    exact (spans_readMetricBody env).last fun _ => .pure _
  | v1 | registration | traceEvent => cases isFramed

theorem frameBody_local (isFramed : frameBody env kind = some body) : Local body := by
  cases kind with
  | v2 | traced | metric =>
    cases isFramed
    infer_instance
  | v1 | registration | traceEvent => cases isFramed

section

variable (accepted : Accepted env data c kind m next)

include accepted

theorem Accepted.step : parseStep env data c = .next ⟨c.acc.push m, next⟩ := by
  rw [parseStep_eq, accepted.found]
  simp [accepted.ran]

theorem Accepted.body {body : Read Message}
    (isFramed : frameBody env kind = some body) : next = frameEnd data c.pos ∧ c.pos + 3 ≤ data.length ∧
      body.run data (c.pos + 3) = .ok m (readTo env data c.pos kind) := by
  obtain ⟨ends, header, stop, read⟩ := (decodeMessage_framed_ok isFramed accepted.found).mp accepted.ran
  refine ⟨ends, header, ?_⟩
  rw [readTo, isFramed]
  simp [read, Outcome.stop]

theorem Accepted.readTo_eq {body : Read Message}
    (isFramed : frameBody env kind = some body) : readTo env data c.pos kind = announcedEnd data c.pos kind :=
  frameBody_spans isFramed _ _ _ _ (accepted.body isFramed).2.2

theorem Accepted.readTo_unframed
    (unframed : frameBody env kind = none) : readTo env data c.pos kind = next := by
  rw [readTo, unframed]
  simp [accepted.ran, Outcome.stop]

theorem Accepted.pos_lt_readTo : c.pos < readTo env data c.pos kind := by
  cases isFramed : frameBody env kind with
  | some body =>
    rw [accepted.readTo_eq isFramed]
    simp only [announcedEnd]
    omega
  | none =>
    rw [accepted.readTo_unframed isFramed]
    exact (parseStep_advances accepted.step).1

end

/-! ### The order of messages -/

theorem pos_lt_of_reaches (reached : Reaches (parseStep env data) c c') : c = c' ∨ c.pos < c'.pos := by
  induction reached with
  | refl => exact .inl rfl
  | tail _ moved ih =>
    have forward := (parseStep_advances moved).1
    rcases ih with rfl | before
    · exact .inr forward
    · exact .inr (Nat.lt_trans before forward)

theorem Accepted.eq_of_pos (one : Accepted env data c kind m next)
    (two : Accepted env data c' kind' m' next') (same : c.pos = c'.pos) : c = c' := by
  rcases one.reached.total two.reached with onward | onward
  · rcases pos_lt_of_reaches onward with rfl | before
    · rfl
    · omega
  · rcases pos_lt_of_reaches onward with rfl | before
    · rfl
    · omega

theorem Accepted.next_le (one : Accepted env data c kind m next)
    (two : Accepted env data c' kind' m' next') (later : c.pos < c'.pos) : next ≤ c'.pos := by
  rcases one.reached.total two.reached with onward | onward
  · rcases onward.cases_head with rfl | ⟨d, moved, rest⟩
    · omega
    · rw [one.step] at moved
      cases moved
      rcases pos_lt_of_reaches rest with rfl | before
      · exact Nat.le_refl _
      · exact Nat.le_of_lt before
  · rcases pos_lt_of_reaches onward with rfl | before
    · omega
    · omega

/-! ### Whether frames are respected -/

/-- Each v2 or traced entry is decoded from the bytes of its frame only, so that other bytes
behind the frame leave it the same and accepted; and no byte is read as part of two messages. -/
structure RespectsFrames (env : Env) (data : List UInt8) : Prop where
  inside : ∀ c kind m next, Accepted env data c kind m next → kind.isEntry →
    readTo env data c.pos kind ≤ frameEnd data c.pos
  unaffected : ∀ c kind m next data', Accepted env data c kind m next → kind.isEntry →
    data.take (frameEnd data c.pos) = data'.take (frameEnd data c.pos) →
    typeAt data' c.pos = some kind ∧ (decodeMessage env kind).run data' c.pos = .ok m next
  exclusive : ∀ c kind m next c' kind' m' next' i, Accepted env data c kind m next →
    Accepted env data c' kind' m' next' → c.pos ≤ i → i < readTo env data c.pos kind →
    c'.pos ≤ i → i < readTo env data c'.pos kind' → c = c'

/-- The lengths and counts in the body of each v2 or traced entry stay within its
entry_length, and those of a metric before the next message. -/
structure FitsFrames (env : Env) (data : List UInt8) : Prop where
  entries : ∀ c kind m next, Accepted env data c kind m next → kind.isEntry →
    announcedEnd data c.pos kind ≤ frameEnd data c.pos
  metrics : ∀ c m next c' kind' m' next', Accepted env data c .metric m next →
    Accepted env data c' kind' m' next' → c.pos < c'.pos → announcedEnd data c.pos .metric ≤ c'.pos

theorem frameBody_of_isEntry (env : Env) (isEntry : kind.isEntry) :
    ∃ body, frameBody env kind = some body := by
  rcases isEntry with rfl | rfl
  · exact ⟨_, rfl⟩
  · exact ⟨_, rfl⟩

theorem header_of_take (header : pos + 3 ≤ data.length)
    (behind : pos + 3 ≤ stop) (same : data.take stop = data'.take stop) :
    typeAt data' pos = typeAt data pos ∧ frameEnd data' pos = frameEnd data pos ∧ pos + 3 ≤ data'.length := by
  have heads : data.take (pos + 3) = data'.take (pos + 3) := by
    have shorter := congrArg (List.take (pos + 3)) same
    simpa only [List.take_take, Nat.min_eq_left behind] using shorter
  have length : pos + 3 ≤ data'.length := by
    have lengths := congrArg List.length heads
    simp only [List.length_take] at lengths
    omega
  refine ⟨?_, ?_, length⟩
  · have first := congrArg (fun bytes => bytes[pos]?) heads
    simp only [List.getElem?_take, show pos < pos + 3 by omega, if_true] at first
    simp [typeAt, first]
  · have two := congrArg (List.drop (pos + 1)) heads
    simp only [List.drop_take, show pos + 3 - (pos + 1) = 2 by omega] at two
    simp [frameEnd, two]

/-- An entry that fits its frame does not depend on the bytes behind it. -/
theorem Accepted.unaffected (accepted : Accepted env data c kind m next)
    (isEntry : kind.isEntry) (fits : readTo env data c.pos kind ≤ frameEnd data c.pos)
    (same : data.take (frameEnd data c.pos) = data'.take (frameEnd data c.pos)) :
    typeAt data' c.pos = some kind ∧ (decodeMessage env kind).run data' c.pos = .ok m next := by
  obtain ⟨body, isFramed⟩ := frameBody_of_isEntry env isEntry
  obtain ⟨rfl, header, read⟩ := accepted.body isFramed
  have behind : c.pos + 3 ≤ frameEnd data c.pos := Nat.le_add_right _ _
  obtain ⟨sameType, sameEnd, header'⟩ := header_of_take header behind same
  have found : typeAt data' c.pos = some kind := sameType.trans accepted.found
  have bytes : data.take (readTo env data c.pos kind) = data'.take (readTo env data c.pos kind) := by
    have shorter := congrArg (List.take (readTo env data c.pos kind)) same
    simpa only [List.take_take, Nat.min_eq_left fits] using shorter
  have sameBody := (frameBody_local isFramed).stable data data' _ _ m header read bytes
  exact ⟨found, (decodeMessage_framed_ok isFramed found).mpr ⟨sameEnd.symm, header', _, sameBody⟩⟩

/-- Where frames fit, a message has been read before a later one starts. -/
theorem FitsFrames.readTo_le (fits : FitsFrames env data) (one : Accepted env data c kind m next)
    (two : Accepted env data c' kind' m' next') (later : c.pos < c'.pos) :
    readTo env data c.pos kind ≤ c'.pos := by
  have behind := one.next_le two later
  cases kind with
  | v2 =>
    rw [one.readTo_eq rfl]
    have frame := fits.entries _ _ _ _ one (.inl rfl)
    rw [(one.body rfl).1] at behind
    exact Nat.le_trans frame behind
  | traced =>
    rw [one.readTo_eq rfl]
    have frame := fits.entries _ _ _ _ one (.inr rfl)
    rw [(one.body rfl).1] at behind
    exact Nat.le_trans frame behind
  | metric =>
    rw [one.readTo_eq rfl]
    exact fits.metrics _ _ _ _ _ _ _ one two later
  | v1 | registration | traceEvent =>
    rw [one.readTo_unframed rfl]
    exact behind

/-- A v2 entry that declares an empty body. The decoder reads one all the same, and then
reads another entry out of the same bytes. -/
def emptyFrame : List UInt8 := [2, 0, 0, 2] ++ List.replicate 28 0

end TcOtel.Ads
