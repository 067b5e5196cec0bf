import TcOtel.Lib.Decoder

/-!
# Moved decoders

`Relative` compares a decoder with itself in front of and behind other bytes. A decoder that
asks for its position is not of this kind: what it makes of the position moves as well.
`Moved k p q` compares two decoders: behind `k` other bytes `p` does what `q` does without
them. Two decoders that are moved from the same third one by different distances are compared
through it.
-/

namespace Decoding

variable {ε α β σ : Type}

def Outcome.map (f : α → β) : Outcome ε α → Outcome ε β
  | .ok a pos => .ok (f a) pos
  | .err e pos => .err e pos
  | .panic => .panic

instance Relative.orFail (e : ε) (o : Option α) : Relative (Decoder.orFail e o) := by
  cases o <;> simp only [Decoder.orFail] <;> infer_instance

/-- Behind `k` other bytes `p` does what `q` does without them. -/
def Moved (k : Nat) (p q : Decoder ε α) : Prop :=
  ∀ (before data : List UInt8) (pos : Nat), before.length = k →
    p.run (before ++ data) (k + pos) = (q.run data pos).shift k

namespace Moved

variable {k : Nat}

theorem of_relative (p : Decoder ε α) [moves : Relative p] : Moved k p p := by
  rintro before data pos rfl
  exact moves.run_append before data pos

theorem bind (first : Moved k p q) (rest : ∀ a, Moved k (f a) (g a)) : Moved k (p >>= f) (q >>= g) := by
  intro before data pos length
  rw [Decoder.bind_run, Decoder.bind_run, first before data pos length]
  cases q.run data pos with
  | ok a next => exact rest a before data next length
  | err e next => rfl
  | panic => rfl

theorem field [Relative p] (rest : ∀ a, Moved k (f a) (g a)) : Moved k (p >>= f) (p >>= g) :=
  (of_relative p).bind rest

theorem position (rest : ∀ pos, Moved k (f (k + pos)) (g pos)) :
    Moved k (Decoder.position >>= f) (Decoder.position >>= g) := by
  intro before data pos length
  exact rest pos before data pos length

theorem ite {c : Prop} [Decidable c] (yes : Moved k p p') (no : Moved k q q') :
    Moved k (if c then p else q) (if c then p' else q') := by
  split
  · exact yes
  · exact no

end Moved

end Decoding
