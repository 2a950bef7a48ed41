import Mathlib.Order.Bounds.Basic
import NetCalyx.Wire.Octets

/-!
# Slices of a stream

A slice is a stretch of a stream, given by its offset and its length. A collection of
slices covers a prefix of the stream when every position of the prefix lies in one of
them. The longest such prefix ends at the first position that no slice covers
(`isGreatest_covered`), and it depends only on which slices there are.
-/

namespace Wire

/-- A stretch that lies within the stream. -/
structure Slice (stream : Octets) where
  offset : Nat
  length : Nat
  within : offset + length ≤ stream.length

namespace Slice

variable {stream : Octets}
variable (slice : Slice stream)

def data : Octets := (stream.drop slice.offset).take slice.length

def Covers (p : Nat) : Prop :=
  slice.offset ≤ p ∧ p < slice.offset + slice.length

@[simp] theorem length_data : slice.data.length = slice.length := by
  have := slice.within
  simp only [data, List.length_take, List.length_drop]
  omega

/-- A slice that starts within a prefix and reaches beyond it extends the prefix to its
own end. -/
theorem take_append_data {slice : Slice stream} {n : Nat} (hstart : slice.offset ≤ n)
    (hend : n ≤ slice.offset + slice.length) :
    stream.take n ++ slice.data.drop (n - slice.offset) =
      stream.take (slice.offset + slice.length) := by
  have hdata : slice.data.drop (n - slice.offset) =
      (stream.drop n).take (slice.offset + slice.length - n) := by
    rw [data, List.drop_take, List.drop_drop]
    congr 1
    · omega
    · congr 1
      omega
  obtain ⟨k, hk⟩ := Nat.exists_eq_add_of_le hend
  rw [hdata, hk, Nat.add_sub_cancel_left, List.take_add]

end Slice

/-- Every position before `n` lies in one of the slices. -/
def Covered {stream : Octets} (slices : List (Slice stream)) (n : Nat) : Prop :=
  ∀ p < n, ∃ slice ∈ slices, slice.Covers p

/-- The ends of the prefixes that are covered. -/
def coveredEnds {stream : Octets} (slices : List (Slice stream)) : Set Nat :=
  { n | n ≤ stream.length ∧ Covered slices n }

section

variable {stream : Octets} {slices : List (Slice stream)} {n : Nat}

/-- The longest covered prefix ends where the first position is not covered. -/
theorem isGreatest_covered (hn : n ≤ stream.length) (hcovered : Covered slices n)
    (hgap : ∀ slice ∈ slices, ¬ slice.Covers n) : IsGreatest (coveredEnds slices) n := by
  refine ⟨⟨hn, hcovered⟩, ?_⟩
  rintro m ⟨-, hm⟩
  by_contra hlt
  obtain ⟨slice, hmem, hcovers⟩ := hm n (by omega)
  exact hgap slice hmem hcovers

/-- Which prefixes are covered does not depend on the order of the slices. -/
theorem coveredEnds_congr {slices' : List (Slice stream)}
    (h : ∀ slice, slice ∈ slices ↔ slice ∈ slices') : coveredEnds slices = coveredEnds slices' := by
  simp only [coveredEnds, Covered, h]

end

end Wire
