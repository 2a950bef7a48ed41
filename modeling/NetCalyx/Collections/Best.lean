import Mathlib

/-!
# The last of the best

A running maximum in which a later candidate replaces an earlier one of the same weight.
-/

namespace Collections

variable {α ω : Type} [LinearOrder ω] (weight : α → ω)

/-- The candidate replaces what is not better. -/
def better (best : Option α) (candidate : α) : Option α :=
  match best with
  | none => some candidate
  | some current => if weight current ≤ weight candidate then some candidate else some current

theorem foldl_better_eq_none (candidates : List α) :
    candidates.foldl (better weight) none = none ↔ candidates = [] := by
  induction candidates using List.reverseRecOn with
  | nil => simp
  | append_singleton candidates candidate ih =>
    rw [List.foldl_append, List.foldl_cons, List.foldl_nil]
    refine iff_of_false ?_ (by simp)
    cases candidates.foldl (better weight) none with
    | none => simp [better]
    | some current =>
      rw [better]
      split <;> simp

/-- Candidates before the result are not better, and those behind it are worse. -/
theorem split_of_foldl_better {candidates : List α} {best : α}
    (h : candidates.foldl (better weight) none = some best) :
    ∃ before after, candidates = before ++ best :: after ∧
      (∀ candidate ∈ before, weight candidate ≤ weight best) ∧
      ∀ candidate ∈ after, weight candidate < weight best := by
  induction candidates using List.reverseRecOn generalizing best with
  | nil => cases h
  | append_singleton candidates candidate ih =>
    rw [List.foldl_append, List.foldl_cons, List.foldl_nil] at h
    cases hcurrent : candidates.foldl (better weight) none with
    | none =>
      rw [hcurrent] at h
      obtain rfl := Option.some.inj h
      rw [(foldl_better_eq_none weight candidates).mp hcurrent]
      exact ⟨[], [], rfl, by simp, by simp⟩
    | some current =>
      obtain ⟨before, after, rfl, hbefore, hafter⟩ := ih hcurrent
      rw [hcurrent, better] at h
      split at h
      · rename_i hle
        obtain rfl := Option.some.inj h
        refine ⟨before ++ current :: after, [], by simp, fun x hx => ?_, by simp⟩
        rcases List.mem_append.mp hx with hx | hx
        · exact le_trans (hbefore x hx) hle
        · rcases List.mem_cons.mp hx with rfl | hx
          · exact hle
          · exact le_trans (le_of_lt (hafter x hx)) hle
      · rename_i hlt
        obtain rfl := Option.some.inj h
        refine ⟨before, after ++ [candidate], by simp, hbefore, fun x hx => ?_⟩
        rcases List.mem_append.mp hx with hx | hx
        · exact hafter x hx
        · rw [List.mem_singleton.mp hx]
          exact not_le.mp hlt

end Collections
