import Mathlib.Data.List.Basic

/-!
# Slices that may be out of range

Taking a part of a slice gives the part, or the program panics; `none` is the panic. A program
written with these operations in the `Option` monad returns `some` result exactly if none of its
accesses is out of range.
-/

namespace Wire

variable {α : Type}

/-- Everything from `start` on. -/
def sliceFrom (xs : List α) (start : Nat) : Option (List α) :=
  if start ≤ xs.length then some (xs.drop start) else none

/-- What stands from `start` up to `stop`. -/
def slice (xs : List α) (start stop : Nat) : Option (List α) :=
  if start ≤ stop ∧ stop ≤ xs.length then some ((xs.drop start).take (stop - start)) else none

/-- The part before `place`, and the part from there on. -/
def splitTo (xs : List α) (place : Nat) : Option (List α × List α) :=
  if place ≤ xs.length then some (xs.take place, xs.drop place) else none

variable {xs : List α} {start stop place : Nat}

theorem sliceFrom_of_le (h : start ≤ xs.length) : sliceFrom xs start = some (xs.drop start) :=
  if_pos h

theorem sliceFrom_eq_none : sliceFrom xs start = none ↔ xs.length < start := by
  simp [sliceFrom]

theorem slice_of_le (hstart : start ≤ stop) (hstop : stop ≤ xs.length) :
    slice xs start stop = some ((xs.drop start).take (stop - start)) :=
  if_pos ⟨hstart, hstop⟩

theorem slice_add {n : Nat} (h : start + n ≤ xs.length) :
    slice xs start (start + n) = some ((xs.drop start).take n) := by
  rw [slice_of_le (Nat.le_add_right _ _) h, Nat.add_sub_cancel_left]

theorem splitTo_of_le (h : place ≤ xs.length) :
    splitTo xs place = some (xs.take place, xs.drop place) :=
  if_pos h

end Wire
