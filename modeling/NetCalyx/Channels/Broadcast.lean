import Mathlib.Tactic.Common

/-!
# Broadcast channels that forget

A broadcast channel hands every value to all of its receivers. It holds the last values only: a
receiver that is too far behind is told how many it has missed and goes on with the oldest value
that is still there.

`Follows` is for a sender whose values are the successive versions of one thing, and a receiver
that keeps the last version it got. Versions may be missed but never come back, and the receiver
has the last one when nothing is left to receive.
-/

namespace Channels

variable {α : Type}

/-- All values that were sent, of which the last ones are held. -/
structure Broadcast (α : Type) where
  size : Nat
  sent : List α

inductive Received (α : Type) where
  | lagged (skipped : Nat)
  | value (a : α)
  | empty

namespace Broadcast

variable (b : Broadcast α)

def send (a : α) : Broadcast α := { b with sent := b.sent ++ [a] }

/-- The place of the oldest value that is held. -/
def oldest : Nat := b.sent.length - b.size

/-- A new receiver gets the values from now on. -/
def subscribe : Nat := b.sent.length

/-- What a receiver gets whose next value is at the given place, and its place behind it. -/
def recv (next : Nat) : Nat × Received α :=
  if next < b.oldest then (b.oldest, .lagged (b.oldest - next))
  else match b.sent[next]? with
    | some a => (next + 1, .value a)
    | none => (next, .empty)

theorem recv_lagged {b : Broadcast α} {next : Nat} (h : next < b.oldest) :
    b.recv next = (b.oldest, .lagged (b.oldest - next)) :=
  if_pos h

theorem recv_value {b : Broadcast α} {next : Nat} {a : α} (h : ¬ next < b.oldest)
    (ha : b.sent[next]? = some a) : b.recv next = (next + 1, .value a) := by
  rw [recv, if_neg h, ha]

theorem recv_empty {b : Broadcast α} {next : Nat} (h : ¬ next < b.oldest)
    (ha : b.sent[next]? = none) : b.recv next = (next, .empty) := by
  rw [recv, if_neg h, ha]

end Broadcast

/-- There have been `count` changes. The channel has the last of them, and a receiver at `next`
keeps the version behind the change `k`. -/
structure Follows (version : Nat → α) (count : Nat) (b : Broadcast α) (next k : Nat) : Prop where
  sent_le : b.sent.length ≤ count
  next_le : next ≤ b.sent.length
  behind : k ≤ count - b.sent.length + next
  last : next = b.sent.length → k = count
  unread : ∀ p a, next ≤ p → b.sent[p]? = some a →
    a = version (count - b.sent.length + p + 1)

namespace Follows

variable {version : Nat → α} {count next k : Nat} {b : Broadcast α}

theorem le_count (h : Follows version count b next k) : k ≤ count := by
  have := h.behind
  have := h.sent_le
  have := h.next_le
  omega

theorem subscribe (h : b.sent.length ≤ count) : Follows version count b b.subscribe count where
  sent_le := h
  next_le := Nat.le_refl _
  behind := by
    unfold Broadcast.subscribe
    omega
  last _ := rfl
  unread p a hp ha := by
    rw [List.getElem?_eq_none hp] at ha
    cases ha

variable (h : Follows version count b next k)
include h

/-- The next version is sent. -/
theorem send : Follows version (count + 1) (b.send (version (count + 1))) next k := by
  obtain ⟨hsent, hnext, hbehind, -, hunread⟩ := h
  have hlength : (b.send (version (count + 1))).sent.length = b.sent.length + 1 :=
    List.length_append
  refine ⟨by omega, by omega, by omega, by omega, fun p a hp ha => ?_⟩
  change (b.sent ++ [version (count + 1)])[p]? = some a at ha
  rw [hlength, show count + 1 - (b.sent.length + 1) = count - b.sent.length by omega]
  rcases Nat.lt_trichotomy p b.sent.length with hlt | rfl | hgt
  · rw [List.getElem?_append_left hlt] at ha
    exact hunread p a hp ha
  · rw [List.getElem?_concat_length] at ha
    rw [Nat.sub_add_cancel hsent]
    exact (Option.some.inj ha).symm
  · rw [List.getElem?_eq_none (by simp; omega)] at ha
    cases ha

theorem recv_value {a : α} (ha : b.sent[next]? = some a) :
    ∃ k', k ≤ k' ∧ a = version k' ∧ Follows version count b (next + 1) k' := by
  obtain ⟨hsent, -, hbehind, -, hunread⟩ := h
  have hlt := (List.getElem?_eq_some_iff.mp ha).1
  refine ⟨count - b.sent.length + next + 1, by omega, hunread next a (Nat.le_refl _) ha, hsent, hlt,
    by omega, by omega, fun p a' hp => hunread p a' (by omega)⟩

/-- A receiver that has missed something has something to receive. -/
theorem recv_lagged (hsize : 0 < b.size) (hlagged : next < b.oldest) :
    Follows version count b b.oldest k := by
  obtain ⟨hsent, -, hbehind, -, hunread⟩ := h
  have holdest : b.oldest = b.sent.length - b.size := rfl
  exact ⟨hsent, by omega, by omega, by omega, fun p a hp => hunread p a (by omega)⟩

/-- With nothing left to receive it is the last version that is kept. -/
theorem eq_count_of_empty (hempty : (b.recv next).2 = .empty) : k = count := by
  refine h.last (Nat.le_antisymm h.next_le ?_)
  by_cases hlagged : next < b.oldest
  · rw [Broadcast.recv_lagged hlagged] at hempty
    cases hempty
  · cases ha : b.sent[next]? with
    | none => exact List.getElem?_eq_none_iff.mp ha
    | some a =>
      rw [Broadcast.recv_value hlagged ha] at hempty
      cases hempty

end Follows

end Channels
