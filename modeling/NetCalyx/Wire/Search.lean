import Mathlib.Data.List.Basic

/-!
# Searching a stream for a marker

The first place at which a marker stands, and what more input behind the stream can change
about it: nothing at places where the whole marker fits.
-/

namespace Wire

variable {β : Type} {marker stream more : List β} {place : Nat}

/-- The marker stands at this place of the stream. -/
def OccursAt (marker stream : List β) (place : Nat) : Prop := marker <+: stream.drop place

theorem isPrefix_append_iff (h : marker.length ≤ stream.length) :
    marker <+: stream ++ more ↔ marker <+: stream :=
  ⟨fun hm => List.prefix_of_prefix_length_le hm (List.prefix_append _ _) h,
    fun hm => hm.trans (List.prefix_append _ _)⟩

/-- More input does not matter where the marker fits. -/
theorem occursAt_append_iff (h : place + marker.length ≤ stream.length) :
    OccursAt marker (stream ++ more) place ↔ OccursAt marker stream place := by
  rw [OccursAt, OccursAt, List.drop_append_of_le_length (by omega)]
  exact isPrefix_append_iff (by rw [List.length_drop]; omega)

theorem OccursAt.fits (h : OccursAt marker stream place) (hmarker : marker ≠ []) :
    place + marker.length ≤ stream.length := by
  have hle := List.IsPrefix.length_le h
  have hpos := List.length_pos_iff.mpr hmarker
  rw [List.length_drop] at hle
  omega

theorem OccursAt.append (h : OccursAt marker stream place) (hmarker : marker ≠ []) :
    OccursAt marker (stream ++ more) place :=
  (occursAt_append_iff (h.fits hmarker)).mpr h

section Search

variable [DecidableEq β]

/-- The first place at which the marker stands. -/
def firstAt (marker : List β) : List β → Option Nat
  | [] => none
  | b :: stream => if marker <+: b :: stream then some 0 else (firstAt marker stream).map (· + 1)

variable (hmarker : marker ≠ [])
include hmarker

theorem firstAt_eq_none :
    firstAt marker stream = none ↔ ∀ place, ¬ OccursAt marker stream place := by
  induction stream with
  | nil => simp [firstAt, OccursAt, hmarker]
  | cons b stream ih =>
    rw [firstAt]
    split
    · rename_i hhere
      simp only [reduceCtorEq, false_iff, not_forall, not_not]
      exact ⟨0, hhere⟩
    · rename_i hhere
      rw [Option.map_eq_none_iff, ih]
      constructor
      · intro h place
        cases place with
        | zero => exact hhere
        | succ place => exact h place
      · exact fun h place => h (place + 1)

theorem firstAt_eq_some :
    firstAt marker stream = some place ↔
      OccursAt marker stream place ∧ ∀ earlier < place, ¬ OccursAt marker stream earlier := by
  induction stream generalizing place with
  | nil => simp [firstAt, OccursAt, hmarker]
  | cons b stream ih =>
    rw [firstAt]
    split
    · rename_i hhere
      constructor
      · rintro ⟨⟩
        exact ⟨hhere, fun earlier h => absurd h (Nat.not_lt_zero _)⟩
      · rintro ⟨-, hfirst⟩
        cases place with
        | zero => rfl
        | succ place => exact absurd hhere (hfirst 0 (Nat.succ_pos _))
    · rename_i hhere
      rw [Option.map_eq_some_iff]
      constructor
      · rintro ⟨place, hplace, rfl⟩
        obtain ⟨hocc, hfirst⟩ := ih.mp hplace
        refine ⟨hocc, fun earlier hearlier => ?_⟩
        cases earlier with
        | zero => exact hhere
        | succ earlier => exact hfirst earlier (Nat.lt_of_succ_lt_succ hearlier)
      · rintro ⟨hocc, hfirst⟩
        cases place with
        | zero => exact absurd hocc hhere
        | succ place =>
          exact ⟨place, ih.mpr ⟨hocc, fun earlier h => hfirst (earlier + 1) (Nat.succ_lt_succ h)⟩,
            rfl⟩

/-- A marker that has been found stays the first one. -/
theorem firstAt_append (h : firstAt marker stream = some place) :
    firstAt marker (stream ++ more) = some place := by
  obtain ⟨hocc, hfirst⟩ := (firstAt_eq_some hmarker).mp h
  have hfits := hocc.fits hmarker
  refine (firstAt_eq_some hmarker).mpr ⟨hocc.append hmarker, fun earlier hearlier => ?_⟩
  rw [occursAt_append_iff (by omega)]
  exact hfirst earlier hearlier

/-- The search may start behind places that are known to be free. -/
theorem firstAt_drop {skipped : Nat} (h : ∀ place < skipped, ¬ OccursAt marker stream place) :
    (firstAt marker (stream.drop skipped)).map (skipped + ·) = firstAt marker stream := by
  have hshift (place : Nat) : OccursAt marker (stream.drop skipped) place ↔
      OccursAt marker stream (skipped + place) := by
    rw [OccursAt, OccursAt, List.drop_drop]
  symm
  cases hfound : firstAt marker (stream.drop skipped) with
  | none =>
    rw [firstAt_eq_none hmarker] at hfound
    rw [Option.map_none, firstAt_eq_none hmarker]
    intro place hocc
    rcases Nat.lt_or_ge place skipped with hlt | hge
    · exact h place hlt hocc
    · exact hfound (place - skipped) ((hshift _).mpr (by rwa [Nat.add_sub_cancel' hge]))
  | some place =>
    obtain ⟨hocc, hfirst⟩ := (firstAt_eq_some hmarker).mp hfound
    rw [Option.map_some, firstAt_eq_some hmarker]
    refine ⟨(hshift place).mp hocc, fun earlier hearlier hearly => ?_⟩
    rcases Nat.lt_or_ge earlier skipped with hlt | hge
    · exact h earlier hlt hearly
    · exact hfirst (earlier - skipped) (by omega)
        ((hshift _).mpr (by rwa [Nat.add_sub_cancel' hge]))

end Search

end Wire
