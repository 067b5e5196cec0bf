import Mathlib.Data.List.Basic
import Mathlib.Tactic

/-!
# Decoders over a byte buffer with a read position

A decoder reads a buffer from a position. It ends with a value or an error, and in
both cases with the position it has reached, since a caller may go on from there; or
it panics, which is what an index outside the buffer does.

These notions carry the proofs about decoders, each with a rule for every way of
putting decoders together:

* `Forward`: from a position inside the buffer the decoder never panics, never moves
  back and never moves past the end;
* `Ahead`: the same, but a success may leave the position past the end;
* `Local`: a value is decoded from the bytes up to the final position only;
* `Relative`: the outcome does not depend on what stands before the position;
* `Spans p size`: a success has read as many bytes as the lengths in them announce;
* `Decodes p bytes a`: wherever `bytes` stand in a buffer, `p` reads exactly them and
  returns `a`;
* `Reads p bytes post`: the same, with a property of the value in place of the value;
* `After p bytes post`: behind `bytes`, `p` goes on like a decoder with a property.

The first four are classes, so that a decoder written in `do` notation gets them from its
parts.
-/

namespace Decoding

inductive Outcome (ε α : Type) where
  | ok (value : α) (pos : Nat)
  | err (error : ε) (pos : Nat)
  | panic
deriving DecidableEq, Repr

def Outcome.stop {ε α : Type} : Outcome ε α → Nat
  | .ok _ pos => pos
  | .err _ pos => pos
  | .panic => 0

/-- A decoder takes the buffer and the position to read from. -/
structure Decoder (ε α : Type) where
  run : List UInt8 → Nat → Outcome ε α

variable {ε α β σ ι : Type} {p : Decoder ε α} {f : α → Decoder ε β} {a : α} {b : β} {data : List UInt8}
  {pos next : Nat}

namespace Decoder

instance : Monad (Decoder ε) where
  pure a := ⟨fun _ pos => .ok a pos⟩
  bind p f := ⟨fun data pos =>
    match p.run data pos with
    | .ok a next => (f a).run data next
    | .err e next => .err e next
    | .panic => .panic⟩

def fail (e : ε) : Decoder ε α := ⟨fun _ pos => .err e pos⟩

def panic : Decoder ε α := ⟨fun _ _ => .panic⟩

def position : Decoder ε Nat := ⟨fun _ pos => .ok pos pos⟩

def seek (pos : Nat) : Decoder ε Unit := ⟨fun _ _ => .ok () pos⟩

def remaining : Decoder ε Nat := ⟨fun data pos => .ok (data.length - pos) pos⟩

/-- The slice of the next `n` bytes. The range is checked as a whole, so that even an
empty slice panics when it starts past the end. -/
def slice (n : Nat) : Decoder ε (List UInt8) := ⟨fun data pos =>
  if pos + n ≤ data.length then .ok ((data.drop pos).take n) (pos + n) else .panic⟩

def orFail (e : ε) : Option α → Decoder ε α
  | some a => pure a
  | none => fail e

def failIf (c : Prop) [Decidable c] (e : ε) : Decoder ε Unit :=
  if c then fail e else pure ()

-- the classes of decoders below see the conditional through it
attribute [reducible] failIf

def iterate : Nat → (σ → Decoder ε σ) → σ → Decoder ε σ
  | 0, _, s => pure s
  | n + 1, step, s => step s >>= iterate n step

inductive Turn (σ : Type) where
  | again (state : σ)
  | done (state : σ)
deriving DecidableEq, Repr

def loop : Nat → (σ → Decoder ε (Turn σ)) → σ → Decoder ε σ
  | 0, _, _ => panic
  | n + 1, step, s => step s >>= fun
    | .again next => loop n step next
    | .done last => pure last

/-- An open loop. Its rounds are budgeted by the bytes left, which is enough when every
round that goes on has read something (`Forward.loopOpen`). -/
def loopOpen (step : σ → Decoder ε (Turn σ)) (s : σ) : Decoder ε σ := ⟨fun data pos =>
  (loop (data.length - pos + 1) step s).run data pos⟩

@[simp] theorem pure_run (a : α) (data : List UInt8) (pos : Nat) :
    (pure a : Decoder ε α).run data pos = .ok a pos := rfl

theorem bind_run (p : Decoder ε α) (f : α → Decoder ε β) (data : List UInt8) (pos : Nat) :
    (p >>= f).run data pos = match p.run data pos with
      | .ok a next => (f a).run data next
      | .err e next => .err e next
      | .panic => .panic := rfl

theorem bind_ok (ran : p.run data pos = .ok a next) (f : α → Decoder ε β) :
    (p >>= f).run data pos = (f a).run data next := by
  rw [bind_run, ran]

theorem bind_eq_ok (ran : (p >>= f).run data pos = .ok b last) :
    ∃ a next, p.run data pos = .ok a next ∧ (f a).run data next = .ok b last := by
  rw [bind_run] at ran
  split at ran
  next a next first => exact ⟨a, next, first, ran⟩
  · cases ran
  · cases ran

end Decoder

open Decoder

/-! ### Forward decoders -/

/-- The outcome is no panic and its position lies between the bounds. -/
def Outcome.Within (low high : Nat) : Outcome ε α → Prop
  | .ok _ pos => low ≤ pos ∧ pos ≤ high
  | .err _ pos => low ≤ pos ∧ pos ≤ high
  | .panic => False

theorem Outcome.Within.lower {low low' high : Nat} {o : Outcome ε α} (within : o.Within low high)
    (below : low' ≤ low) : o.Within low' high := by
  cases o with
  | ok a pos | err e pos => exact ⟨Nat.le_trans below within.1, within.2⟩
  | panic => exact within

/-- Reading stays inside the buffer and goes forward. -/
class Forward (p : Decoder ε α) : Prop where
  within : ∀ (data : List UInt8) (pos : Nat), pos ≤ data.length →
    (p.run data pos).Within pos data.length

theorem Forward.ok [forward : Forward p] (inside : pos ≤ data.length) (ran : p.run data pos = .ok a next) :
    pos ≤ next ∧ next ≤ data.length := by
  have within := forward.within data pos inside
  rw [ran] at within
  exact within

theorem Forward.err [forward : Forward p] (inside : pos ≤ data.length) (ran : p.run data pos = .err e next) :
    pos ≤ next ∧ next ≤ data.length := by
  have within := forward.within data pos inside
  rw [ran] at within
  exact within

theorem Forward.no_panic [forward : Forward p] (inside : pos ≤ data.length) : p.run data pos ≠ .panic := by
  intro ran
  have within := forward.within data pos inside
  rw [ran] at within
  exact within

namespace Forward

instance pure (a : α) : Forward (Pure.pure a : Decoder ε α) :=
  ⟨fun _ pos inside => ⟨Nat.le_refl pos, inside⟩⟩

instance fail (e : ε) : Forward (Decoder.fail e : Decoder ε α) :=
  ⟨fun _ pos inside => ⟨Nat.le_refl pos, inside⟩⟩

instance position : Forward (Decoder.position : Decoder ε Nat) :=
  ⟨fun _ pos inside => ⟨Nat.le_refl pos, inside⟩⟩

instance remaining : Forward (Decoder.remaining : Decoder ε Nat) :=
  ⟨fun _ pos inside => ⟨Nat.le_refl pos, inside⟩⟩

theorem bind_of {post : α → Prop} (first : Forward p)
    (ensures : ∀ {data pos a next}, p.run data pos = .ok a next → post a)
    (second : ∀ a, post a → Forward (f a)) : Forward (p >>= f) := by
  refine ⟨fun data pos inside => ?_⟩
  have within := first.within data pos inside
  rw [bind_run]
  split
  next a next ran =>
    rw [ran] at within
    exact ((second a (ensures ran)).within data next within.2).lower within.1
  next e next ran => rwa [ran] at within
  next ran => rwa [ran] at within

instance bind (p : Decoder ε α) (f : α → Decoder ε β) [first : Forward p]
    [second : ∀ a, Forward (f a)] : Forward (p >>= f) :=
  bind_of first (fun _ => trivial) fun a _ => second a

instance ite (c : Prop) [Decidable c] (p q : Decoder ε α) [Forward p] [Forward q] :
    Forward (if c then p else q) := by
  split <;> infer_instance

instance orFail (e : ε) (o : Option α) : Forward (Decoder.orFail e o) := by
  cases o <;> simp only [Decoder.orFail] <;> infer_instance

/-- Every round that goes on reads at least one byte. -/
def Advances (step : σ → Decoder ε (Turn σ)) : Prop :=
  ∀ s data pos next s', pos ≤ data.length → (step s).run data pos = .ok (.again s') next → pos < next

private theorem loop_within (step : σ → Decoder ε (Turn σ)) [∀ s, Forward (step s)]
    (advances : Advances step) (n : Nat) (s : σ) (data : List UInt8) (pos : Nat)
    (inside : pos ≤ data.length) (budget : data.length - pos < n) :
    ((Decoder.loop n step s).run data pos).Within pos data.length := by
  -- induction on the budget: a round that goes on has read a byte, so that one less suffices
  induction n generalizing s pos with
  | zero => exact absurd budget (Nat.not_lt_zero _)
  | succ n ih =>
    have within := (inferInstance : Forward (step s)).within data pos inside
    simp only [Decoder.loop, bind_run]
    split
    next turn next ran =>
      rw [ran] at within
      cases turn with
      | again s' =>
        have progress := advances s data pos next s' inside ran
        have bounds : pos ≤ next ∧ next ≤ data.length := within
        exact (ih s' next bounds.2 (by omega)).lower bounds.1
      | done s' => exact within
    next e next ran => rwa [ran] at within
    next ran => rwa [ran] at within

theorem loopOpen (step : σ → Decoder ε (Turn σ)) [∀ s, Forward (step s)]
    (advances : Advances step) (s : σ) : Forward (.loopOpen step s) :=
  ⟨fun data pos inside => loop_within step advances _ s data pos inside (Nat.lt_succ_self _)⟩

end Forward

/-! ### Decoders that may end past the buffer -/

/-- No panic, and the position is not below the bound; an error is inside the buffer. -/
def Outcome.Ahead (low high : Nat) : Outcome ε α → Prop
  | .ok _ pos => low ≤ pos
  | .err _ pos => low ≤ pos ∧ pos ≤ high
  | .panic => False

theorem Outcome.Ahead.lower {low low' high : Nat} {o : Outcome ε α} (ahead : o.Ahead low high)
    (below : low' ≤ low) : o.Ahead low' high := by
  cases o with
  | ok a pos => exact Nat.le_trans below ahead
  | err e pos => exact ⟨Nat.le_trans below ahead.1, ahead.2⟩
  | panic => exact ahead

/-- Reading never panics or moves back; a success may end past the buffer. -/
class Ahead (p : Decoder ε α) : Prop where
  ahead : ∀ (data : List UInt8) (pos : Nat), pos ≤ data.length →
    (p.run data pos).Ahead pos data.length

namespace Ahead

instance ofForward (p : Decoder ε α) [Forward p] : Ahead p := by
  refine ⟨fun data pos inside => ?_⟩
  cases ran : p.run data pos with
  | ok a next => exact (Forward.ok inside ran).1
  | err e next => exact Forward.err inside ran
  | panic => exact absurd ran (Forward.no_panic inside)

instance bind (p : Decoder ε α) (f : α → Decoder ε β) [first : Forward p]
    [second : ∀ a, Ahead (f a)] : Ahead (p >>= f) := by
  refine ⟨fun data pos inside => ?_⟩
  have within := first.within data pos inside
  rw [bind_run]
  split
  next a next ran =>
    rw [ran] at within
    exact ((second a).ahead data next within.2).lower within.1
  next e next ran => rwa [ran] at within
  next ran => rwa [ran] at within

end Ahead

theorem Outcome.Ahead.map {g : α → β} (ahead : (p.run data pos).Ahead low high) :
    ((p >>= fun a => Pure.pure (g a)).run data pos).Ahead low high := by
  rw [bind_run]
  split
  next ran => rwa [ran] at ahead
  next ran => rwa [ran] at ahead
  next ran => rwa [ran] at ahead

/-! ### Local decoders -/

/-- A value depends on the bytes before the final position only. -/
class Local (p : Decoder ε α) : Prop extends Forward p where
  stable : ∀ (data data' : List UInt8) (pos next : Nat) (a : α), pos ≤ data.length →
    p.run data pos = .ok a next → data.take next = data'.take next → p.run data' pos = .ok a next

namespace Local

instance pure (a : α) : Local (Pure.pure a : Decoder ε α) :=
  { Forward.pure a with stable := fun _ _ _ _ _ _ ran _ => ran }

instance fail (e : ε) : Local (Decoder.fail e : Decoder ε α) :=
  { Forward.fail e with stable := fun _ _ _ _ _ _ ran _ => ran }

instance position : Local (Decoder.position : Decoder ε Nat) :=
  { Forward.position with stable := fun _ _ _ _ _ _ ran _ => ran }

theorem bind_of {post : α → Prop} (first : Local p)
    (ensures : ∀ {data pos a next}, p.run data pos = .ok a next → post a)
    (second : ∀ a, post a → Local (f a)) : Local (p >>= f) := by
  have forward := Forward.bind_of first.toForward ensures fun a holds => (second a holds).toForward
  refine { forward with stable := fun data data' pos last b inside ran same => ?_ }
  obtain ⟨a, next, one, two⟩ := bind_eq_ok ran
  have rest := second a (ensures one)
  have bounds := Forward.ok inside one
  have ordered := (Forward.ok bounds.2 two).1
  have prefixes : data.take next = data'.take next := by
    have shorter := congrArg (List.take next) same
    simpa only [List.take_take, Nat.min_eq_left ordered] using shorter
  rw [bind_ok (first.stable data data' pos next a inside one prefixes)]
  exact rest.stable data data' next last b bounds.2 two same

instance bind (p : Decoder ε α) (f : α → Decoder ε β) [first : Local p]
    [second : ∀ a, Local (f a)] : Local (p >>= f) :=
  bind_of first (fun _ => trivial) fun a _ => second a

instance ite (c : Prop) [Decidable c] (p q : Decoder ε α) [Local p] [Local q] :
    Local (if c then p else q) := by
  split <;> infer_instance

instance orFail (e : ε) (o : Option α) : Local (Decoder.orFail e o) := by
  cases o <;> simp only [Decoder.orFail] <;> infer_instance

instance iterate (n : Nat) (step : σ → Decoder ε σ) [∀ s, Local (step s)] (s : σ) :
    Local (Decoder.iterate n step s) := by
  induction n generalizing s with
  | zero => simp only [Decoder.iterate]; infer_instance
  | succ n ih => simp only [Decoder.iterate]; infer_instance

end Local

/-! ### Relative decoders -/

def Outcome.shift (k : Nat) : Outcome ε α → Outcome ε α
  | .ok a pos => .ok a (k + pos)
  | .err e pos => .err e (k + pos)
  | .panic => .panic

/-- Bytes in front of the buffer only move the outcome. -/
class Relative (p : Decoder ε α) : Prop where
  run_append : ∀ (before data : List UInt8) (pos : Nat),
    p.run (before ++ data) (before.length + pos) = (p.run data pos).shift before.length

namespace Relative

instance pure (a : α) : Relative (Pure.pure a : Decoder ε α) := ⟨fun _ _ _ => rfl⟩

instance fail (e : ε) : Relative (Decoder.fail e : Decoder ε α) := ⟨fun _ _ _ => rfl⟩

instance panic : Relative (Decoder.panic : Decoder ε α) := ⟨fun _ _ _ => rfl⟩

instance remaining : Relative (Decoder.remaining : Decoder ε Nat) := by
  refine ⟨fun before data pos => ?_⟩
  simp [Decoder.remaining, Outcome.shift, Nat.add_sub_add_left]

instance slice (n : Nat) : Relative (Decoder.slice n : Decoder ε (List UInt8)) := by
  refine ⟨fun before data pos => ?_⟩
  have behind : (before ++ data).drop (before.length + pos) = data.drop pos := by
    rw [← List.drop_drop, List.drop_left]
  simp only [Decoder.slice, behind, List.length_append, Nat.add_assoc, Nat.add_le_add_iff_left]
  split <;> rfl

instance bind (p : Decoder ε α) (f : α → Decoder ε β) [first : Relative p]
    [second : ∀ a, Relative (f a)] : Relative (p >>= f) := by
  refine ⟨fun before data pos => ?_⟩
  rw [bind_run, bind_run, first.run_append]
  cases p.run data pos with
  | ok a next => exact (second a).run_append before data next
  | err e next => rfl
  | panic => rfl

instance ite (c : Prop) [Decidable c] (p q : Decoder ε α) [Relative p] [Relative q] :
    Relative (if c then p else q) := by
  split <;> infer_instance

instance iterate (n : Nat) (step : σ → Decoder ε σ) [∀ s, Relative (step s)] (s : σ) :
    Relative (Decoder.iterate n step s) := by
  induction n generalizing s with
  | zero => simp only [Decoder.iterate]; infer_instance
  | succ n ih => simp only [Decoder.iterate]; infer_instance

theorem ok_iff (p : Decoder ε α) [moves : Relative p] (before data : List UInt8) :
    (∃ a next, p.run (before ++ data) before.length = .ok a next) ↔ ∃ a next, p.run data 0 = .ok a next := by
  have moved := moves.run_append before data 0
  rw [Nat.add_zero] at moved
  rw [moved]
  constructor
  · rintro ⟨a, next, ran⟩
    cases here : p.run data 0 with
    | ok b stop => exact ⟨b, stop, rfl⟩
    | err e stop | panic =>
      rw [here] at ran
      cases ran
  · rintro ⟨a, next, ran⟩
    rw [ran]
    exact ⟨a, _, rfl⟩

end Relative

/-! ### Settled outcomes -/

/-- An outcome stays the same, wherever the bytes stand, unless bytes were lacking. -/
class Settled (lacking : ε → Prop) (p : Decoder ε α) : Prop where
  run_around : ∀ (before data after : List UInt8) (pos : Nat), pos ≤ data.length →
    (∃ e next, lacking e ∧ p.run data pos = .err e next) ∨
      p.run (before ++ (data ++ after)) (before.length + pos) = (p.run data pos).shift before.length

namespace Settled

variable {lacking : ε → Prop}

instance pure (a : α) : Settled lacking (Pure.pure a : Decoder ε α) := ⟨fun _ _ _ _ _ => .inr rfl⟩

instance fail (e : ε) : Settled lacking (Decoder.fail e : Decoder ε α) := ⟨fun _ _ _ _ _ => .inr rfl⟩

instance panic : Settled lacking (Decoder.panic : Decoder ε α) := ⟨fun _ _ _ _ _ => .inr rfl⟩

instance bind (p : Decoder ε α) (f : α → Decoder ε β) [Forward p] [first : Settled lacking p]
    [second : ∀ a, Settled lacking (f a)] : Settled lacking (p >>= f) := by
  refine ⟨fun before data after pos inside => ?_⟩
  rcases first.run_around before data after pos inside with ⟨e, next, lacks, ran⟩ | same
  · exact .inl ⟨e, next, lacks, by rw [bind_run, ran]⟩
  · rw [bind_run, bind_run, same]
    cases ran : p.run data pos with
    | ok a next => exact (second a).run_around before data after next (Forward.ok inside ran).2
    | err e next => exact .inr rfl
    | panic => exact .inr rfl

instance ite (c : Prop) [Decidable c] (p q : Decoder ε α) [Settled lacking p] [Settled lacking q] :
    Settled lacking (if c then p else q) := by
  split <;> infer_instance

instance orFail (e : ε) (o : Option α) : Settled lacking (Decoder.orFail e o) := by
  cases o <;> simp only [Decoder.orFail] <;> infer_instance

instance iterate (n : Nat) (step : σ → Decoder ε σ) [∀ s, Forward (step s)] [∀ s, Settled lacking (step s)]
    (s : σ) : Settled lacking (Decoder.iterate n step s) := by
  induction n generalizing s with
  | zero => simp only [Decoder.iterate]; infer_instance
  | succ n ih => simp only [Decoder.iterate]; infer_instance

end Settled

/-! ### How far a decoder reads

A size says how many bytes a record at the head of a list takes, by the lengths and counts
in it. -/

abbrev Size := List UInt8 → Nat

namespace Size

def fixed (n : Nat) : Size := fun _ => n

def andThen (first second : Size) : Size := fun bs => first bs + second (bs.drop (first bs))

def byte (rest : UInt8 → Size) : Size := fun bs => 1 + rest (bs.headD 0) (bs.drop 1)

def times (item : Size) : Nat → Size
  | 0 => fixed 0
  | n + 1 => andThen item (times item n)

theorem times_fixed (k n : Nat) : times (fixed k) n = fixed (n * k) := by
  induction n with
  | zero => rw [times, Nat.zero_mul]
  | succ n ih =>
    rw [times, ih]
    funext bs
    simp [andThen, fixed, Nat.succ_mul, Nat.add_comm]

end Size

/-- A decoder that succeeds has read as many bytes as the size says. -/
def Spans (p : Decoder ε α) (size : Size) : Prop :=
  ∀ (data : List UInt8) (pos next : Nat) (a : α), p.run data pos = .ok a next →
    next = pos + size (data.drop pos)

namespace Spans

theorem pure (a : α) : Spans (Pure.pure a : Decoder ε α) (Size.fixed 0) := by
  intro data pos next b ran
  cases ran
  rfl

theorem fail (e : ε) (size : Size) : Spans (.fail e : Decoder ε α) size := by
  intro data pos next a ran
  cases ran

theorem bind (first : Spans p one) (second : ∀ a, Spans (f a) two) : Spans (p >>= f) (one.andThen two) := by
  intro data pos next b ran
  obtain ⟨a, mid, ran₁, ran₂⟩ := bind_eq_ok ran
  have step₁ := first data pos mid a ran₁
  have step₂ := second a data mid next b ran₂
  rw [step₁, ← List.drop_drop] at step₂
  rw [step₂, Size.andThen, Nat.add_assoc]

theorem silent (first : Spans p (Size.fixed 0)) (second : ∀ a, Spans (f a) size) : Spans (p >>= f) size := by
  intro data pos next b ran
  have whole := bind first second data pos next b ran
  rw [whole, Size.andThen, Size.fixed, List.drop_zero, Nat.zero_add]

theorem last (first : Spans p size) (second : ∀ a, Spans (f a) (Size.fixed 0)) : Spans (p >>= f) size := by
  intro data pos next b ran
  have whole := bind first second data pos next b ran
  rw [whole, Size.andThen, Size.fixed, Nat.add_zero]

theorem fixed (first : Spans p (Size.fixed n)) (second : ∀ a, Spans (f a) ((Size.fixed m).andThen size)) :
    Spans (p >>= f) ((Size.fixed (n + m)).andThen size) := by
  intro data pos next b ran
  have whole := bind first second data pos next b ran
  rw [whole]
  simp [Size.andThen, Size.fixed, Nat.add_assoc]

theorem position : Spans (.position : Decoder ε Nat) (Size.fixed 0) := by
  intro data pos next a ran
  cases ran
  rfl

theorem failIf (c : Prop) [Decidable c] (e : ε) : Spans (.failIf c e) (Size.fixed 0) := by
  unfold Decoder.failIf
  split
  · exact fail e _
  · exact pure ()

theorem orFail (e : ε) (o : Option α) : Spans (.orFail e o) (Size.fixed 0) := by
  cases o with
  | none => exact fail e _
  | some a => exact pure a

theorem orFail_bind (second : ∀ a, o = some a → Spans (f a) size) : Spans (.orFail e o >>= f) size := by
  cases o with
  | none =>
    intro data pos next b ran
    cases ran
  | some a =>
    intro data pos next b ran
    exact second a rfl data pos next b ran

theorem iterate (round : ∀ s, Spans (step s) item) (n : Nat)
    (s : σ) : Spans (.iterate n step s) (item.times n) := by
  induction n generalizing s with
  | zero => exact pure s
  | succ n ih => exact bind (round s) fun s' => ih s'

end Spans

/-! ### Decoding what was encoded -/

/-- Wherever the bytes stand, the decoder reads exactly them and returns the value. -/
def Decodes (p : Decoder ε α) (bytes : List UInt8) (a : α) : Prop :=
  ∀ before after, p.run (before ++ (bytes ++ after)) before.length =
    .ok a (before.length + bytes.length)

namespace Decodes

theorem pure (a : α) : Decodes (Pure.pure a : Decoder ε α) [] a := fun _ _ => rfl

theorem bind (first : Decodes p xs a) (second : Decodes (f a) ys b) : Decodes (p >>= f) (xs ++ ys) b := by
  intro before after
  have one := first before (ys ++ after)
  have two := second (before ++ xs) after
  simp only [List.append_assoc, List.length_append] at one two ⊢
  rw [bind_ok one, two, Nat.add_assoc]

theorem last (first : Decodes p xs a) (second : Decodes (f a) [] b) : Decodes (p >>= f) xs b := by
  have whole := first.bind second
  rwa [List.append_nil] at whole

theorem field (first : Decodes p xs a) (second : Decodes (f a) rest.flatten b) :
    Decodes (p >>= f) (xs :: rest).flatten b := by
  exact first.bind second

theorem silent (first : Decodes p [] a) (second : Decodes (f a) ys b) : Decodes (p >>= f) ys b :=
  first.bind second

theorem position {f : Nat → Decoder ε β}
    (rest : ∀ here, Decodes (f here) ys b) : Decodes (.position >>= f) ys b :=
  fun before after => rest before.length before after

theorem remaining {f : Nat → Decoder ε β} (rest : ∀ left, ys.length ≤ left → Decodes (f left) ys b) :
    Decodes (.remaining >>= f) ys b := by
  intro before after
  have left : ys.length ≤ (before ++ (ys ++ after)).length - before.length := by
    simp only [List.length_append]
    omega
  exact rest _ left before after

theorem failIf {c : Prop} [Decidable c] (passes : ¬c) : Decodes (.failIf c e) [] () := by
  rw [Decoder.failIf, if_neg passes]
  exact pure ()

theorem orFail (present : o = some a) : Decodes (.orFail e o) [] a := by
  subst present
  exact pure a

variable {encode : ι → List UInt8}

/-- A counted loop reads its items one after the other. The round for an item may use that
the items before it have been read. -/
theorem iterate {step : σ → Decoder ε σ} {next : σ → ι → σ} (whole : items.foldl next s = result)
    (round : ∀ done item todo, items = done ++ item :: todo →
      Decodes (step (done.foldl next s)) (encode item) (next (done.foldl next s) item)) :
    Decodes (.iterate items.length step s) (items.flatMap encode) result := by
  subst whole
  induction items generalizing s with
  | nil => exact pure s
  | cons item items ih =>
    refine (round [] item items rfl).bind (ih fun done other todo split => ?_)
    exact round (item :: done) other todo (by rw [split, List.cons_append])

private theorem loop {step : σ → Decoder ε (Turn σ)} {next : σ → ι → σ}
    {stop : List UInt8} {last : σ} (items : List ι) (s : σ)
    (round : ∀ done item todo, items = done ++ item :: todo →
      Decodes (step (done.foldl next s)) (encode item) (.again (next (done.foldl next s) item)))
    (ends : Decodes (step (items.foldl next s)) stop (.done last)) (n : Nat) (budget : items.length < n) :
    Decodes (Decoder.loop n step s) (items.flatMap encode ++ stop) last := by
  induction items generalizing s n with
  | nil =>
    obtain ⟨n, rfl⟩ := Nat.exists_eq_succ_of_ne_zero (Nat.ne_zero_of_lt budget)
    rw [List.foldl_nil] at ends
    intro before after
    simp only [Decoder.loop, List.flatMap_nil, List.nil_append]
    rw [bind_ok (ends before after), pure_run]
  | cons item items ih =>
    obtain ⟨n, rfl⟩ := Nat.exists_eq_succ_of_ne_zero (Nat.ne_zero_of_lt budget)
    rw [List.flatMap_cons, List.append_assoc]
    refine (round [] item items rfl).bind (ih (next s item) ?_ ends n (Nat.lt_of_succ_lt_succ budget))
    intro done other todo split
    exact round (item :: done) other todo (by rw [split, List.cons_append])

private theorem length_le_flatMap (items : List ι) (nonempty : ∀ item ∈ items, 0 < (encode item).length) :
    items.length ≤ (items.flatMap encode).length := by
  induction items with
  | nil => exact Nat.le_refl _
  | cons item items ih =>
    have head := nonempty item List.mem_cons_self
    have tail := ih fun other member => nonempty other (List.mem_cons_of_mem item member)
    simp only [List.flatMap_cons, List.length_append, List.length_cons]
    omega

/-- An open loop reads its items up to the one that ends it. -/
theorem loopOpen {step : σ → Decoder ε (Turn σ)} {next : σ → ι → σ}
    {stop : List UInt8} {last : σ} (items : List ι) (s : σ)
    (nonempty : ∀ item ∈ items, 0 < (encode item).length)
    (round : ∀ done item todo, items = done ++ item :: todo →
      Decodes (step (done.foldl next s)) (encode item) (.again (next (done.foldl next s) item)))
    (ends : Decodes (step (items.foldl next s)) stop (.done last)) :
    Decodes (Decoder.loopOpen step s) (items.flatMap encode ++ stop) last := by
  intro before after
  have enough := length_le_flatMap items nonempty
  simp only [Decoder.loopOpen]
  refine loop items s round ends _ ?_ before after
  simp only [List.length_append]
  omega

end Decodes

/-! ### Decoding what another program has written

Here the value need not be known, and the bytes need not be all that the decoder reads. -/

/-- Wherever the bytes stand, the decoder reads exactly them and returns a value with the
property. -/
def Reads (p : Decoder ε α) (bytes : List UInt8) (post : α → Prop) : Prop :=
  ∀ before after, ∃ a, post a ∧
    p.run (before ++ (bytes ++ after)) before.length = .ok a (before.length + bytes.length)

/-- Behind the bytes the decoder goes on like one that has the property. -/
def After (p : Decoder ε α) (bytes : List UInt8) (post : Decoder ε α → Prop) : Prop :=
  ∀ before after, ∃ q, post q ∧
    p.run (before ++ (bytes ++ after)) before.length =
      q.run (before ++ (bytes ++ after)) (before.length + bytes.length)

theorem Decodes.reads (decodes : Decodes p bytes a) : Reads p bytes (· = a) :=
  fun before after => ⟨a, rfl, decodes before after⟩

namespace Reads

theorem last (first : Reads p xs mid)
    (second : ∀ a, mid a → ∀ data pos, ∃ b, post b ∧ (f a).run data pos = .ok b pos) :
    Reads (p >>= f) xs post := by
  intro before after
  obtain ⟨a, holds, ran⟩ := first before after
  obtain ⟨b, result, done⟩ := second a holds (before ++ (xs ++ after)) (before.length + xs.length)
  exact ⟨b, result, by rw [bind_ok ran, done]⟩

end Reads

namespace After

theorem here (holds : post p) : After p [] post :=
  fun _ _ => ⟨p, holds, rfl⟩

theorem field (first : Reads p xs mid) (second : ∀ a, mid a → After (f a) rest.flatten post) :
    After (p >>= f) (xs :: rest).flatten post := by
  intro before after
  obtain ⟨a, holds, ran⟩ := first before (rest.flatten ++ after)
  obtain ⟨q, last, same⟩ := second a holds (before ++ xs) after
  simp only [List.flatten_cons, List.append_assoc, List.length_append] at ran same ⊢
  exact ⟨q, last, by rw [bind_ok ran, same, Nat.add_assoc]⟩

theorem decoded (first : Decodes p xs a)
    (second : After (f a) rest.flatten post) : After (p >>= f) (xs :: rest).flatten post := by
  apply field first.reads
  rintro a rfl
  exact second

theorem append (first : After p xs mid) (second : ∀ q, mid q → After q ys post) : After p (xs ++ ys) post := by
  intro before after
  obtain ⟨q, holds, ran⟩ := first before (ys ++ after)
  obtain ⟨r, last, same⟩ := second q holds (before ++ xs) after
  simp only [List.append_assoc, List.length_append] at ran same ⊢
  exact ⟨r, last, by rw [ran, same, Nat.add_assoc]⟩

theorem silent (first : Decodes p [] a) (second : After (f a) bytes post) : After (p >>= f) bytes post := by
  intro before after
  obtain ⟨q, last, same⟩ := second before after
  have ran : p.run (before ++ (bytes ++ after)) before.length = .ok a before.length :=
    first before (bytes ++ after)
  exact ⟨q, last, by rw [bind_ok ran, same]⟩

end After

/-! ### What a loop keeps -/

/-- A property of the state that every round keeps holds of the result. -/
theorem iterate_invariant {step : σ → Decoder ε σ} (inv : σ → Prop)
    (keeps : ∀ {s data pos s' next}, inv s → (step s).run data pos = .ok s' next → inv s') (start : inv s)
    (ran : (iterate n step s).run data pos = .ok s' next) : inv s' := by
  induction n generalizing s pos with
  | zero =>
    cases ran
    exact start
  | succ n ih =>
    obtain ⟨t, mid, first, rest⟩ := bind_eq_ok ran
    exact ih (keeps start first) rest

/-! ### What is returned -/

/-- Whatever the bytes are, a value that is returned has the property. -/
def Yields (p : Decoder ε α) (post : α → Prop) : Prop :=
  ∀ ⦃data : List UInt8⦄ ⦃pos : Nat⦄ ⦃a : α⦄ ⦃next : Nat⦄, p.run data pos = .ok a next → post a

namespace Yields

theorem pure (holds : post a) : Yields (Pure.pure a : Decoder ε α) post := by
  intro data pos b next ran
  cases ran
  exact holds

theorem bind (rest : ∀ a, Yields (f a) post) : Yields (p >>= f) post := by
  intro data pos b next ran
  obtain ⟨a, mid, -, last⟩ := bind_eq_ok ran
  exact rest a last

theorem bind_of (first : Yields p mid) (rest : ∀ a, mid a → Yields (f a) post) : Yields (p >>= f) post := by
  intro data pos b next ran
  obtain ⟨a, middle, ran₁, last⟩ := bind_eq_ok ran
  exact rest a (first ran₁) last

end Yields

end Decoding
