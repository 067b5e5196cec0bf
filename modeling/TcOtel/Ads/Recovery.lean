import TcOtel.Ads.Framing
import TcOtel.Ads.RoundTrip

/-!
# What a message that does not decode costs

What one expects of `parse_all`: a bad message never takes back what was decoded before it, and
a bad log entry or a trace event whose text is not UTF-8 costs only itself. This holds of some
arms of the dispatch and fails in others, since each arm tests its own selection of the results
collected so far, the v2 arm knows only some of the types that may come next, and nothing says
where a trace event ends. The theorems here say exactly when each of them holds.
-/

namespace TcOtel.Ads

open Decoding Decoder Looping

/-! ### Results only grow -/

/-- Every message of the first result is in the second, in the same place. -/
structure ParseResult.Extends (small large : ParseResult) : Prop where
  entries : small.entries <+: large.entries
  registrations : small.registrations <+: large.registrations
  metrics : small.metrics <+: large.metrics
  traceEvents : small.traceEvents <+: large.traceEvents

theorem ParseResult.Extends.refl (r : ParseResult) : r.Extends r :=
  ⟨List.prefix_rfl, List.prefix_rfl, List.prefix_rfl, List.prefix_rfl⟩

theorem ParseResult.Extends.trans {a b c : ParseResult} (one : a.Extends b) (two : b.Extends c) :
    a.Extends c :=
  ⟨one.entries.trans two.entries, one.registrations.trans two.registrations,
    one.metrics.trans two.metrics, one.traceEvents.trans two.traceEvents⟩

theorem ParseResult.extends_push (acc : ParseResult) (m : Message) : acc.Extends (acc.push m) := by
  cases m with
  | log entry => exact ⟨List.prefix_append _ _, List.prefix_rfl, List.prefix_rfl, List.prefix_rfl⟩
  | registration reg =>
    exact ⟨List.prefix_rfl, List.prefix_append _ _, List.prefix_rfl, List.prefix_rfl⟩
  | metric m => exact ⟨List.prefix_rfl, List.prefix_rfl, List.prefix_append _ _, List.prefix_rfl⟩
  | traceEvent ev =>
    exact ⟨List.prefix_rfl, List.prefix_rfl, List.prefix_rfl, List.prefix_append _ _⟩

theorem ParseResult.Extends.ne_empty {small large : ParseResult} (grown : small.Extends large)
    (some : small ≠ .empty) : large ≠ .empty := by
  rintro rfl
  apply some
  have entries := List.prefix_nil.mp grown.entries
  have registrations := List.prefix_nil.mp grown.registrations
  have metrics := List.prefix_nil.mp grown.metrics
  have traceEvents := List.prefix_nil.mp grown.traceEvents
  cases small
  simp_all [ParseResult.empty]

theorem parseStep_extends (moved : parseStep env data c = .next c') : c.acc.Extends c'.acc := by
  have effect := parseStep_effect env data c
  rw [moved] at effect
  cases effect with
  | decoded found ran forward => exact c.acc.extends_push _
  | skipped found ran => exact .refl _

theorem reaches_extends {env : Env} (reached : Reaches (parseStep env data) c c') : c.acc.Extends c'.acc :=
  Reaches.invariant (fun d => c.acc.Extends d.acc)
    (fun grown moved => grown.trans (parseStep_extends moved)) reached (.refl _)

/-! ### A bad message and the messages before it -/

/-- Whatever `parse_all` has decoded at some point is in the result it returns. -/
def KeepsDecoded (env : Env) (data : List UInt8) : Prop :=
  ∀ c, Reaches (parseStep env data) .start c → c.acc ≠ .empty →
    ∃ r, parseAll env data = some (.ok r) ∧ c.acc.Extends r

/-- Only some kinds have been decoded before a message that does not decode, and its arm
does not look at them. -/
def Overlooks (data : List UInt8) (c : Cursor) : MessageType → Prop
  | .v1 | .metric => c.acc.noLogs ∧ c.acc.metrics = [] ∧ c.acc.traceEvents ≠ []
  | .v2 => c.acc.noLogs ∧ ¬(c.acc.metrics = [] ∧ c.acc.traceEvents = []) ∧ canSkip data c.pos = false
  | .registration | .traced | .traceEvent => False

/-- At the cursor stands a message that does not decode, of a kind whose arm overlooks what
was decoded before. -/
def LosesDecoded (env : Env) (data : List UInt8) (c : Cursor) : Prop :=
  ∃ kind e failedAt, typeAt data c.pos = some kind ∧
    (decodeMessage env kind).run data c.pos = .err e failedAt ∧ Overlooks data c kind

theorem noLogs_iff (acc : ParseResult) : acc.noLogs = true ↔ acc.entries = [] ∧ acc.registrations = [] := by
  simp [ParseResult.noLogs]

theorem eq_empty_iff (acc : ParseResult) :
    acc = .empty ↔ acc.noLogs = true ∧ acc.metrics = [] ∧ acc.traceEvents = [] := by
  rw [noLogs_iff]
  cases acc
  simp [ParseResult.empty, and_assoc]

/-- With something decoded, the loop ends in an error exactly where an arm overlooks it. -/
theorem afterError_err_iff (later : c.pos ≤ failedAt) (some : c.acc ≠ .empty) :
    afterError data c e failedAt kind = .halt (.err e) ↔ Overlooks data c kind := by
  have other : ¬(c.acc.noLogs = true ∧ c.acc.metrics = [] ∧ c.acc.traceEvents = []) :=
    fun all => some ((eq_empty_iff c.acc).mpr all)
  cases kind with
  | v1 | metric =>
    simp only [afterError, Bool.and_eq_true, List.isEmpty_iff]
    constructor
    · intro failed
      split at failed
      next test => exact ⟨test.1, test.2, fun none => other ⟨test.1, test.2, none⟩⟩
      · cases failed
    · intro overlooked
      rw [if_pos ⟨overlooked.1, overlooked.2.1⟩]
  | v2 =>
    rw [afterError_v2]
    simp only [Overlooks, breakWith]
    cases skip : canSkip data c.pos with
    | true => simp
    | false =>
      cases empty : c.acc.noLogs with
      | true =>
        have others : ¬(c.acc.metrics = [] ∧ c.acc.traceEvents = []) :=
          fun none => other ⟨empty, none⟩
        simp [others]
      | false => simp
  | registration => simp [afterError, Overlooks, breakWith]
  | traced =>
    rw [afterError_traced e later]
    simp only [Overlooks, breakWith]
    split <;> simp
  | traceEvent =>
    simp only [afterError, Overlooks, Bool.and_eq_true, List.isEmpty_iff, breakWith]
    rw [if_neg fun all => other ⟨all.1.1, all.1.2, all.2⟩]
    simp

/-- `parse_all` keeps what it has decoded exactly when it never comes to a message that
does not decode and whose arm overlooks what was decoded before. -/
theorem keepsDecoded_iff (env : Env) (data : List UInt8) (size : data.length ≤ maxMessageSize) :
    KeepsDecoded env data ↔ ∀ c, Reaches (parseStep env data) .start c → ¬LosesDecoded env data c := by
  constructor
  · rintro keeps c reached ⟨kind, e, failedAt, found, ran, overlooked⟩
    have ahead := decodeMessage_ahead env kind (typeAt_inside found)
    rw [ran] at ahead
    have nonempty : c.acc ≠ .empty := by
      rw [ne_eq, eq_empty_iff]
      rintro ⟨-, metrics, traceEvents⟩
      cases kind <;> simp_all [Overlooks]
    have halted : parseStep env data c = .halt (.err e) := by
      rw [parseStep_eq, found]
      simp only [ran]
      exact (afterError_err_iff (Nat.le_of_succ_le ahead.1) nonempty).mpr overlooked
    have failed := (parseAll_eq_some_iff size).mpr ⟨c, reached, halted⟩
    obtain ⟨r, returned, -⟩ := keeps c reached nonempty
    rw [failed] at returned
    cases returned
  · intro never c reached nonempty
    obtain ⟨r, returned⟩ := parseAll_isSome env data
    obtain ⟨last, final, halted⟩ := (parseAll_eq_some_iff size).mp returned
    have grown := reaches_extends (reached.before_halt final halted)
    have effect := parseStep_effect env data last
    rw [halted] at effect
    cases effect with
    | stop => exact ⟨last.acc, returned, grown⟩
    | failed found later ran failed =>
      have overlooked := (afterError_err_iff later (grown.ne_empty nonempty)).mp failed
      exact absurd ⟨_, _, _, found, ran, overlooked⟩ (never last final)

/-- A span event, then a v2 entry of which only the type byte arrived. -/
def truncatedAfterSpan : List UInt8 := encodeAll [.spanEnd sampleSpanEnd] ++ [2]

theorem keepsDecoded_iff_truncated : truncatedAfterSpan.length ≤ maxMessageSize ∧
    (KeepsDecoded .atEpoch truncatedAfterSpan ↔
      ∀ c, Reaches (parseStep .atEpoch truncatedAfterSpan) .start c →
        ¬LosesDecoded .atEpoch truncatedAfterSpan c) :=
  ⟨by decide +kernel, keepsDecoded_iff .atEpoch truncatedAfterSpan (by decide +kernel)⟩

/-- The span event is decoded and then lost. -/
theorem truncatedAfterSpan_not_keepsDecoded :
    truncatedAfterSpan.length ≤ maxMessageSize ∧ ¬KeepsDecoded .atEpoch truncatedAfterSpan := by
  refine ⟨by decide +kernel, fun keeps => ?_⟩
  have decoded := reaches_encodeAll .atEpoch [.spanEnd sampleSpanEnd] [] [2] .empty
  obtain ⟨r, returned, -⟩ := keeps _ decoded (by decide +kernel)
  have failed : parseAll .atEpoch truncatedAfterSpan = some (.err (.incompleteMessage 2 0)) := by
    decide +kernel
  rw [failed] at returned
  cases returned

/-! ### A bad entry and the messages around it -/

inductive FramedLog where
  | plain | traced
deriving DecidableEq, Repr

def FramedLog.type : FramedLog → MessageType
  | plain => .v2
  | traced => .traced

def FramedLog.typeByte : FramedLog → UInt8
  | plain => 2
  | traced => 9

theorem FramedLog.framed (env : Env) (kind : FramedLog) : ∃ body, frameBody env kind.type = some body := by
  cases kind <;> exact ⟨_, rfl⟩

theorem FramedLog.body_log (kind : FramedLog) (isFramed : frameBody env kind.type = some body)
    (read : body.run data pos = .ok m stop) : ∃ entry, m = .log entry := by
  cases kind with
  | plain | traced =>
    cases isFramed
    obtain ⟨entry, next, -, last⟩ := bind_eq_ok read
    cases last
    exact ⟨entry, rfl⟩

/-- A log entry with a correct length whose body does not decode. -/
structure BadEntry (env : Env) where
  kind : FramedLog
  body : List UInt8
  body_lt : body.length < 65536
  malformed : ∃ e failedAt,
    (decodeMessage env kind.type).run (kind.typeByte :: encodeFrame body) 0 = .err e failedAt

def BadEntry.encode {env : Env} (bad : BadEntry env) : List UInt8 :=
  bad.kind.typeByte :: encodeFrame bad.body

def bufferWith {env : Env} (before : List WireMessage) (bad : BadEntry env)
    (after : List WireMessage) : List UInt8 :=
  encodeAll before ++ (bad.encode ++ encodeAll after)

/-- The bad entry costs only itself: the others are returned, in order. -/
def CostsOnlyItself (env : Env) (before : List WireMessage) (bad : BadEntry env)
    (after : List WireMessage) : Prop :=
  parseAll env (bufferWith before bad after) =
    some (.ok (.ofMessages ((before ++ after).map (WireMessage.message env))))

/-- Logs and registrations are what the recovery paths of log entries look at. -/
def WireMessage.isLogOrRegistration : WireMessage → Bool
  | v1 _ | v2 _ | traced _ | registration _ => true
  | _ => false

/-- The messages whose type the v2 recovery knows: SPAN_EVENT, SPAN_END and traced entries
are not among them. -/
def WireMessage.isSkippedTo : WireMessage → Bool
  | spanEvent _ | spanEnd _ | traced _ => false
  | _ => true

/-- What the recovery of each kind needs of the messages around the bad entry. -/
def Recovers (size failedAt : Nat) (before after : List WireMessage) : FramedLog → Prop
  | .plain =>
    match after with
    | [] => before.any WireMessage.isLogOrRegistration = true
    | m :: _ => m.isSkippedTo = true
  | .traced =>
    after = [] ∨ (before.any WireMessage.isLogOrRegistration = false ∧ failedAt + 3 ≤ size)

theorem ofMessages_noLogs (env : Env) (messages : List WireMessage) :
    (ParseResult.ofMessages (messages.map (WireMessage.message env))).noLogs =
      !messages.any WireMessage.isLogOrRegistration := by
  induction messages with
  | nil => rfl
  | cons m messages ih =>
    cases m with
    | v1 | v2 | traced => rfl
    | registration => exact Bool.and_false _
    | metric | spanBegin | spanAttr | spanEvent | spanEnd => exact ih

def ParseResult.count (r : ParseResult) : Nat :=
  r.entries.length + r.registrations.length + r.metrics.length + r.traceEvents.length

theorem ParseResult.count_ofMessages (messages : List Message) :
    (ofMessages messages).count = messages.length := by
  induction messages using List.reverseRecOn with
  | nil => rfl
  | append_singleton messages m ih =>
    rw [ofMessages_concat, List.length_append, ← ih]
    cases m <;>
      simp only [push, count, List.length_append, List.length_singleton] <;> omega

theorem ofMessages_ne (different : xs.length ≠ ys.length) :
    ParseResult.ofMessages xs ≠ ParseResult.ofMessages ys := by
  intro same
  have counts := congrArg ParseResult.count same
  rw [ParseResult.count_ofMessages, ParseResult.count_ofMessages] at counts
  exact different counts

theorem ofMessages_append_iff : ParseResult.ofMessages xs = ParseResult.ofMessages (xs ++ ys) ↔ ys = [] := by
  constructor
  · intro same
    have counts := congrArg ParseResult.count same
    rw [ParseResult.count_ofMessages, ParseResult.count_ofMessages, List.length_append] at counts
    exact List.length_eq_zero_iff.mp (by omega)
  · rintro rfl
    rw [List.append_nil]

/-! The loop at other bytes between messages -/

section

variable (env : Env) (before : List WireMessage) (bytes : List UInt8) (after : List WireMessage)

def around : List UInt8 := encodeAll before ++ (bytes ++ encodeAll after)

def cursorBehind : Cursor := ⟨.ofMessages (before.map (WireMessage.message env)), (encodeAll before).length⟩

theorem reaches_around :
    Reaches (parseStep env (around before bytes after)) .start (cursorBehind env before) := by
  have reached := reaches_encodeAll env before [] (bytes ++ encodeAll after) .empty
  rwa [List.nil_append, foldl_push_empty] at reached

theorem parseAll_around (size : (around before bytes after).length ≤ maxMessageSize) (r : Parsed) :
    parseAll env (around before bytes after) = some r ↔
      Parses env (around before bytes after) (cursorBehind env before) r := by
  rw [parseAll_eq_some_iff size]
  exact Ends.reaches_iff (reaches_around env before bytes after)

variable {env before bytes after}

theorem typeAt_around (found : typeAt bytes 0 = some kind) :
    typeAt (around before bytes after) (encodeAll before).length = some kind := by
  have first := typeAt_inside found
  rwa [typeAt, around, List.getElem?_append_right (Nat.le_refl _), Nat.sub_self, List.getElem?_append_left first]

theorem parseStep_around (found : typeAt bytes 0 = some kind)
    (rejected : (decodeMessage env kind).run (around before bytes after) (encodeAll before).length =
      .err e failedAt) : parseStep env (around before bytes after) (cursorBehind env before) =
      afterError (around before bytes after) (cursorBehind env before) e failedAt kind := by
  rw [parseStep_eq]
  simp [cursorBehind, typeAt_around found, rejected]

/-- Every other message is returned if the loop breaks off there, and there is none after. -/
theorem parses_of_break (breaks : parseStep env (around before bytes after) (cursorBehind env before) =
      breakWith (cursorBehind env before).acc) :
    Parses env (around before bytes after) (cursorBehind env before)
        (.ok (.ofMessages ((before ++ after).map (WireMessage.message env)))) ↔ after = [] := by
  rw [Parses, Ends.halt_iff breaks, Parsed.ok.injEq, List.map_append, eq_comm, cursorBehind,
    ofMessages_append_iff, List.map_eq_nil_iff]

end

section

variable {env : Env} (before : List WireMessage) (bad : BadEntry env) (after : List WireMessage)

theorem BadEntry.typeAt_encode : typeAt bad.encode 0 = some bad.kind.type := by
  rw [typeAt, BadEntry.encode]
  cases bad.kind <;> rfl

theorem typeAt_bad : typeAt (bufferWith before bad after) (encodeAll before).length = some bad.kind.type :=
  typeAt_around bad.typeAt_encode

theorem frameEnd_bad : frameEnd (bufferWith before bad after) (encodeAll before).length =
      (encodeAll before ++ bad.encode).length := by
  have width : leNat (leBytes 2 bad.body.length) = bad.body.length :=
    leNat_leBytes 2 _ bad.body_lt
  have announced : ((bufferWith before bad after).drop ((encodeAll before).length + 1)).take 2 =
      leBytes 2 bad.body.length := by
    rw [bufferWith, ← List.drop_drop, List.drop_left]
    exact List.take_left' (length_leBytes 2 _)
  have size : (UInt16.ofNat bad.body.length).toNat = bad.body.length := by
    exact Nat.mod_eq_of_lt bad.body_lt
  rw [frameEnd, announced, width]
  simp only [BadEntry.encode, encodeFrame, List.length_append, List.length_cons, length_leBytes]
  omega

theorem header_bad : (encodeAll before).length + 3 ≤ (bufferWith before bad after).length := by
  simp only [bufferWith, BadEntry.encode, encodeFrame, List.length_append, List.length_cons,
    length_leBytes]
  omega

theorem ends_after_bad (messages : List Message) : Parses env (bufferWith before bad after)
      ⟨.ofMessages messages, frameEnd (bufferWith before bad after) (encodeAll before).length⟩
      (.ok (.ofMessages (messages ++ after.map (WireMessage.message env)))) := by
  have whole : bufferWith before bad after =
      (encodeAll before ++ bad.encode) ++ (encodeAll after ++ []) := by
    rw [bufferWith, List.append_nil, List.append_assoc]
  have reached := reaches_encodeAll env after (encodeAll before ++ bad.encode) []
    (.ofMessages messages)
  rw [← whole, ← foldl_push_empty, ← List.foldl_append, foldl_push_empty, foldl_push_empty] at reached
  rw [frameEnd_bad]
  refine ⟨_, reached, parseStep_end ?_⟩
  rw [whole, List.append_nil]

theorem canSkip_bad : canSkip (bufferWith before bad after) (encodeAll before).length =
      after.head?.any WireMessage.isSkippedTo := by
  have header := header_bad before bad after
  have next : (bufferWith before bad after)[(encodeAll before ++ bad.encode).length]? =
      (encodeAll after)[0]? := by
    rw [bufferWith, ← List.append_assoc, List.getElem?_append_right (Nat.le_refl _), Nat.sub_self]
  rw [canSkip, frameEnd_bad, next]
  simp only [header]
  cases after with
  | nil => rfl
  | cons m after => cases m <;> rfl

/-- The decoder of the bad entry, in the whole buffer: an accepted one is a log entry and
ends where its frame does. -/
theorem decode_bad : (∃ entry, (decodeMessage env bad.kind.type).run (bufferWith before bad after)
        (encodeAll before).length =
      .ok (.log entry) (frameEnd (bufferWith before bad after) (encodeAll before).length)) ∨
    ∃ e failedAt, (encodeAll before).length ≤ failedAt ∧
      (decodeMessage env bad.kind.type).run (bufferWith before bad after)
        (encodeAll before).length = .err e failedAt := by
  have found := typeAt_bad before bad after
  have ahead := decodeMessage_ahead env bad.kind.type (typeAt_inside found)
  cases ran : (decodeMessage env bad.kind.type).run (bufferWith before bad after)
      (encodeAll before).length with
  | ok m next =>
    left
    obtain ⟨body, isFramed⟩ := bad.kind.framed env
    obtain ⟨rfl, -, stop, read⟩ := (decodeMessage_framed_ok isFramed found).mp ran
    obtain ⟨entry, rfl⟩ := bad.kind.body_log isFramed read
    exact ⟨entry, rfl⟩
  | err e failedAt =>
    rw [ran] at ahead
    exact .inr ⟨e, failedAt, Nat.le_of_succ_le ahead.1, rfl⟩
  | panic =>
    rw [ran] at ahead
    exact ahead.elim

variable {before bad after}

/-- Every other message is returned if the loop goes on behind the bad entry. -/
theorem parses_of_skip (skips : parseStep env (bufferWith before bad after) (cursorBehind env before) =
      .next { cursorBehind env before with
        pos := frameEnd (bufferWith before bad after) (encodeAll before).length }) :
    Parses env (bufferWith before bad after) (cursorBehind env before)
      (.ok (.ofMessages ((before ++ after).map (WireMessage.message env)))) := by
  rw [List.map_append]
  exact (Ends.next_iff skips).mpr (ends_after_bad before bad after _)

variable {e : AdsError} {failedAt : Nat}
  (rejected : (decodeMessage env bad.kind.type).run (bufferWith before bad after) (encodeAll before).length =
    .err e failedAt)

include rejected

/-- A bad v2 entry is skipped to a type the recovery knows; else the loop ends. -/
theorem ends_bad_plain (isPlain : bad.kind = .plain) :
    Parses env (bufferWith before bad after) (cursorBehind env before)
        (.ok (.ofMessages ((before ++ after).map (WireMessage.message env)))) ↔
      Recovers (bufferWith before bad after).length failedAt before after .plain := by
  have step : parseStep env (bufferWith before bad after) (cursorBehind env before) = _ :=
    parseStep_around bad.typeAt_encode rejected
  have skip : canSkip (around before bad.encode after) (cursorBehind env before).pos = _ :=
    canSkip_bad before bad after
  have logs : (cursorBehind env before).acc.noLogs = _ := ofMessages_noLogs env before
  rw [isPlain, FramedLog.type, afterError_v2, skip, logs] at step
  cases known : after.head?.any WireMessage.isSkippedTo with
  | true =>
    rw [known, if_pos rfl] at step
    refine iff_of_true (parses_of_skip step) ?_
    cases after with
    | nil => cases known
    | cons m after => exact known
  | false =>
    -- the loop ends before the messages that follow, if there are any
    rw [known, if_neg Bool.false_ne_true] at step
    have recovers : Recovers (bufferWith before bad after).length failedAt before after .plain ↔
        after = [] ∧ before.any WireMessage.isLogOrRegistration = true := by
      cases after with
      | nil => simp [Recovers]
      | cons m after => simpa [Recovers] using known
    rw [recovers]
    cases some : before.any WireMessage.isLogOrRegistration with
    | true =>
      rw [some] at step
      exact (parses_of_break step).trans (and_iff_left rfl).symm
    | false =>
      rw [some] at step
      simp [Parses, Ends.halt_iff step]

/-- A bad traced entry is skipped unless a log or registration was decoded before. -/
theorem ends_bad_traced (isTraced : bad.kind = .traced) (later : (encodeAll before).length ≤ failedAt) :
    Parses env (bufferWith before bad after) (cursorBehind env before)
        (.ok (.ofMessages ((before ++ after).map (WireMessage.message env)))) ↔
      Recovers (bufferWith before bad after).length failedAt before after .traced := by
  have step : parseStep env (bufferWith before bad after) (cursorBehind env before) = _ :=
    parseStep_around bad.typeAt_encode rejected
  have logs : (cursorBehind env before).acc.noLogs = _ := ofMessages_noLogs env before
  rw [isTraced, FramedLog.type, afterError_traced e later] at step
  simp only [logs, Bool.not_eq_true'] at step
  rw [Recovers]
  split at step
  next skips => exact iff_of_true (parses_of_skip step) (.inr skips)
  next stops => exact (parses_of_break step).trans (or_iff_left stops).symm

end

/-- A bad log entry costs only itself exactly when its body does not happen to decode with
the help of the bytes after it, and the recovery of its kind is made for the messages
around it. -/
theorem costsOnlyItself_iff (env : Env) (before : List WireMessage) (bad : BadEntry env)
    (after : List WireMessage) (size : (bufferWith before bad after).length ≤ maxMessageSize) :
    CostsOnlyItself env before bad after ↔ ∃ e failedAt,
        (decodeMessage env bad.kind.type).run (bufferWith before bad after)
          (encodeAll before).length = .err e failedAt ∧
        Recovers (bufferWith before bad after).length failedAt before after bad.kind := by
  rw [CostsOnlyItself]
  refine (parseAll_around env before bad.encode after size _).trans ?_
  change Parses env (bufferWith before bad after) (cursorBehind env before) _ ↔ _
  rcases decode_bad before bad after with ⟨entry, accepted⟩ | ⟨e, failedAt, later, rejected⟩
  · -- the entry is taken for a good one, and there is one message too many
    have step := parseStep_eq env (bufferWith before bad after)
      ⟨.ofMessages (before.map (WireMessage.message env)), (encodeAll before).length⟩
    simp only [typeAt_bad before bad after, accepted, ← ParseResult.ofMessages_concat] at step
    have finished := (Ends.next_iff step).mpr
      (ends_after_bad before bad after (before.map (WireMessage.message env) ++ [.log entry]))
    constructor
    · intro others
      have same := Ends.unique finished others
      simp only [Parsed.ok.injEq] at same
      refine absurd same (ofMessages_ne ?_)
      simp only [List.length_append, List.length_map, List.length_singleton]
      omega
    · rintro ⟨e, failedAt, rejected, -⟩
      rw [accepted] at rejected
      cases rejected
  · have only : (∃ e failedAt, (decodeMessage env bad.kind.type).run (bufferWith before bad after)
          (encodeAll before).length = .err e failedAt ∧
        Recovers (bufferWith before bad after).length failedAt before after bad.kind) ↔
        Recovers (bufferWith before bad after).length failedAt before after bad.kind := by
      rw [rejected]
      simp only [Outcome.err.injEq]
      exact ⟨fun ⟨_, _, ⟨rfl, rfl⟩, recovers⟩ => recovers, fun recovers => ⟨_, _, ⟨rfl, rfl⟩, recovers⟩⟩
    rw [only]
    cases kind : bad.kind with
    | plain => exact ends_bad_plain rejected kind
    | traced => exact ends_bad_traced rejected kind later

/-- A v2 entry with a log level that does not exist. -/
def badLevel : BadEntry .atEpoch where
  kind := .plain
  body := [9]
  body_lt := by decide
  malformed := ⟨.parseError "Invalid log level: 9", 4, by decide +kernel⟩

theorem costsOnlyItself_iff_badLevel : CostsOnlyItself .atEpoch [] badLevel [.spanEnd sampleSpanEnd] ↔
      ∃ e failedAt, (decodeMessage .atEpoch badLevel.kind.type).run
          (bufferWith [] badLevel [.spanEnd sampleSpanEnd]) (encodeAll []).length = .err e failedAt ∧
        Recovers (bufferWith [] badLevel [.spanEnd sampleSpanEnd]).length failedAt []
          [.spanEnd sampleSpanEnd] badLevel.kind :=
  costsOnlyItself_iff .atEpoch [] badLevel [.spanEnd sampleSpanEnd] (by decide +kernel)

/-- Before a SPAN_END it makes the whole buffer fail. -/
theorem badLevel_not_costsOnlyItself :
    (bufferWith [] badLevel [.spanEnd sampleSpanEnd]).length ≤ maxMessageSize ∧
      ¬CostsOnlyItself .atEpoch [] badLevel [.spanEnd sampleSpanEnd] := by
  refine ⟨by decide +kernel, fun costs => ?_⟩
  have failed : parseAll .atEpoch (bufferWith [] badLevel [.spanEnd sampleSpanEnd]) =
      some (.err (.parseError "Invalid log level: 9")) := by
    decide +kernel
  rw [CostsOnlyItself, failed] at costs
  cases costs

/-! ### A trace event whose text is not UTF-8 -/

-- as many parts as the longest record has fields
set_option synthInstance.maxSize 20000

/-- The error of a read that goes past the end of the buffer. -/
def IsIncomplete (e : AdsError) : Prop := ∃ expected actual, e = .incompleteMessage expected actual

instance (n : Nat) : Settled IsIncomplete (readBytes n) := by
  refine ⟨fun before data after pos inside => ?_⟩
  rw [Relative.run_append, readBytes_run inside]
  by_cases fits : pos + n ≤ data.length
  · have longer : pos + n ≤ (data ++ after).length := fits.trans (by simp)
    right
    rw [readBytes_run (by omega), if_pos longer, if_pos fits, List.drop_append_of_le_length inside,
      List.take_append_of_le_length (by rw [List.length_drop]; omega)]
  · exact .inl ⟨_, pos, ⟨n, _, rfl⟩, if_neg fits⟩

instance (bytes : List UInt8) (i : Nat) : Settled IsIncomplete (byteAt bytes i) := by
  unfold byteAt; split <;> infer_instance
instance : Settled IsIncomplete readU8 := by unfold readU8; infer_instance
instance (n : Nat) : Settled IsIncomplete (readArray n) := by
  unfold readArray
  refine @Settled.bind _ _ _ _ _ _ inferInstance inferInstance fun bytes => ?_
  split <;> infer_instance
instance (valueType : UInt8) (valueLen : Nat) : Settled IsIncomplete (readAttrValue valueType valueLen) := by
  unfold readAttrValue; split <;> infer_instance
instance (valueType : UInt8) : Settled IsIncomplete (readPointAttrValue valueType) := by
  unfold readPointAttrValue; split <;> infer_instance
instance (attrs : List (String × AttrValue)) : Settled IsIncomplete (readPointAttr attrs) := by
  unfold readPointAttr; infer_instance

instance (eventType localId taskIndex flags : UInt8) (dcTime : Int64) :
    Settled IsIncomplete (readTracePayload eventType localId taskIndex flags dcTime) := by
  unfold readTracePayload readSpanBegin readSpanAttr readSpanPoint readSpanEnd readFlagged readSpanIdRest readShortText
  split <;> infer_instance
instance : Settled IsIncomplete parseV2TraceEventFromReader := by
  unfold parseV2TraceEventFromReader; infer_instance

/-- The errors of the texts of trace events. -/
def invalidUtf8 : List String :=
  ["SPAN_BEGIN: invalid UTF-8 in name", "SPAN_BEGIN: invalid UTF-8 in traceparent",
    "SPAN_BEGIN: invalid UTF-8 in namespace", "SPAN_ATTR: invalid UTF-8 in key",
    "SPAN_ATTR: invalid UTF-8 in string value", "SPAN_EVENT: invalid UTF-8 in name",
    "SPAN_EVENT attr: invalid UTF-8 in key", "SPAN_END: invalid UTF-8 in message"]

/-- A trace event that is there as far as a text that is not UTF-8. -/
structure BadText where
  bytes : List UInt8
  isTraceEvent : typeAt bytes 0 = some .traceEvent
  malformed : ∃ message ∈ invalidUtf8, ∃ failedAt,
    parseV2TraceEventFromReader.run bytes 0 = .err (.parseError message) failedAt

theorem BadText.rejected (bad : BadText) (env : Env) (before after : List WireMessage) : ∃ message failedAt,
      (decodeMessage env .traceEvent).run (around before bad.bytes after) (encodeAll before).length =
        .err (.parseError message) failedAt := by
  obtain ⟨message, -, failedAt, alone⟩ := bad.malformed
  have settled : Settled IsIncomplete parseV2TraceEventFromReader := inferInstance
  rcases settled.run_around (encodeAll before) bad.bytes (encodeAll after) 0 (Nat.zero_le _) with
    ⟨e, next, ⟨_, _, rfl⟩, lacks⟩ | same
  · rw [alone] at lacks
    cases lacks
  · rw [alone, Nat.add_zero] at same
    refine ⟨message, (encodeAll before).length + failedAt, ?_⟩
    rw [decodeMessage, bind_run, around, same]
    rfl

/-- Every other message is returned, in order. -/
def BadText.CostsOnlyItself (env : Env) (before : List WireMessage) (bad : BadText) (after : List WireMessage) :
    Prop :=
  parseAll env (around before bad.bytes after) =
    some (.ok (.ofMessages ((before ++ after).map (WireMessage.message env))))

/-- A trace event has no length, and the loop never goes on behind one that does not decode: it
breaks off, or fails if nothing was decoded before. -/
theorem badText_costsOnlyItself_iff (env : Env) (before : List WireMessage) (bad : BadText)
    (after : List WireMessage) (size : (around before bad.bytes after).length ≤ maxMessageSize) :
    bad.CostsOnlyItself env before after ↔ before ≠ [] ∧ after = [] := by
  rw [BadText.CostsOnlyItself, parseAll_around env before bad.bytes after size]
  obtain ⟨message, failedAt, rejected⟩ := bad.rejected env before after
  have step := parseStep_around bad.isTraceEvent rejected
  have nothing : (cursorBehind env before).acc = .empty ↔ before = [] := by
    have counts := ParseResult.count_ofMessages (before.map (WireMessage.message env))
    constructor
    · intro empty
      rw [show ParseResult.ofMessages _ = .empty from empty, List.length_map] at counts
      exact List.length_eq_zero_iff.mp counts.symm
    · rintro rfl
      rfl
  rw [eq_empty_iff] at nothing
  simp only [afterError, Bool.and_eq_true, List.isEmpty_iff, and_assoc, nothing] at step
  by_cases first : before = []
  · rw [if_pos first] at step
    rw [Parses, Ends.halt_iff step]
    simp [first]
  · rw [if_neg first] at step
    exact (parses_of_break step).trans (and_iff_right first).symm

/-- SPAN_END with a message of one byte that is not UTF-8. -/
def badMessage : BadText where
  bytes := [8, 1, 1, 0, 0, 0, 0, 0, 0, 0, 0, 0, 1, 1, 1, 1, 1, 1, 1, 1, 1, 0, 0, 255]
  isTraceEvent := rfl
  malformed := ⟨"SPAN_END: invalid UTF-8 in message", by decide, 24, by decide +kernel⟩

theorem badMessage_costsOnlyItself : badMessage.CostsOnlyItself .atEpoch [.spanEnd sampleSpanEnd] [] :=
  (badText_costsOnlyItself_iff .atEpoch [.spanEnd sampleSpanEnd] badMessage [] (by decide +kernel)).mpr
    ⟨List.cons_ne_nil _ _, rfl⟩

/-- Between two other events it costs the second one. -/
theorem badMessage_costs_another :
    (around [.spanEnd sampleSpanEnd] badMessage.bytes [.spanEnd sampleSpanEnd]).length ≤ maxMessageSize ∧
      ¬ badMessage.CostsOnlyItself .atEpoch [.spanEnd sampleSpanEnd] [.spanEnd sampleSpanEnd] := by
  refine ⟨by decide +kernel, ?_⟩
  rw [BadText.CostsOnlyItself]
  decide +kernel

end TcOtel.Ads
