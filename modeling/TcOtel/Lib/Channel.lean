import Mathlib.Data.List.Basic
import Mathlib.Tactic

/-!
# Bounded channels

A queue that takes a limited number of messages. Sending does not wait: what finds no room is
lost. As long as there is room, what is received is what was sent, once and in order.
-/

namespace Channels

structure Channel (α : Type) where
  capacity : Nat
  queue : List α
  within : queue.length ≤ capacity

variable {α β : Type}

namespace Channel

def empty (capacity : Nat) : Channel α := ⟨capacity, [], Nat.zero_le _⟩

def trySend (c : Channel α) (message : α) : Channel α :=
  if room : c.queue.length < c.capacity then
    ⟨c.capacity, c.queue ++ [message], by rw [List.length_append]; exact room⟩
  else c

def trySendAll (c : Channel α) (messages : List α) : Channel α := messages.foldl trySend c

def rest (c : Channel α) : Channel α := ⟨c.capacity, c.queue.tail, by
  rw [List.length_tail]
  exact Nat.le_trans (Nat.sub_le _ _) c.within⟩

def map (f : α → β) (c : Channel α) : Channel β := ⟨c.capacity, c.queue.map f, by
  rw [List.length_map]
  exact c.within⟩

def Room (c : Channel α) (n : Nat) : Prop := c.queue.length + n ≤ c.capacity
deriving Decidable

theorem capacity_trySend (c : Channel α) (message : α) : (c.trySend message).capacity = c.capacity := by
  unfold trySend
  split <;> rfl

theorem queue_trySend {c : Channel α} (room : c.Room 1) (message : α) :
    (c.trySend message).queue = c.queue ++ [message] := by
  rw [trySend, dif_pos (show c.queue.length < c.capacity from room)]

theorem queue_trySendAll {c : Channel α} (room : c.Room messages.length) :
    (c.trySendAll messages).queue = c.queue ++ messages := by
  induction messages generalizing c with
  | nil => exact (List.append_nil _).symm
  | cons message messages ih =>
    -- the first message takes one place, and there is room for the rest
    have one : c.Room 1 := Nat.le_trans (by simp) room
    have first := queue_trySend one message
    have rest : (c.trySend message).Room messages.length := by
      rw [Room, first, capacity_trySend]
      exact Nat.le_trans (by simp; omega) room
    exact (ih rest).trans (by rw [first, List.append_assoc, List.singleton_append])

theorem map_trySend (f : α → β) (c : Channel α) (message : α) :
    (c.trySend message).map f = (c.map f).trySend (f message) := by
  have sameRoom : (c.map f).queue.length = c.queue.length := List.length_map f
  by_cases room : c.queue.length < c.capacity
  · have there : (c.map f).queue.length < (c.map f).capacity := sameRoom ▸ room
    simp only [trySend, dif_pos room, dif_pos there]
    simp [map]
  · have there : ¬(c.map f).queue.length < (c.map f).capacity := sameRoom ▸ room
    simp [trySend, dif_neg room, dif_neg there]

theorem map_trySendAll (f : α → β) (c : Channel α) (messages : List α) :
    (c.trySendAll messages).map f = (c.map f).trySendAll (messages.map f) := by
  induction messages generalizing c with
  | nil => rfl
  | cons message messages ih =>
    rw [trySendAll, List.foldl_cons, List.map_cons, trySendAll, List.foldl_cons, ← map_trySend]
    exact ih (c.trySend message)

end Channel

end Channels
