import Mathlib.Tactic.Common

/-!
# Runs with some of their inputs

If the inputs that do not concern a part of a system leave the part as it is, then what a run makes
of the part is what its inputs alone make of it.
-/

namespace Isolation

variable {σ α τ : Type} (step : σ → α → σ) (run : σ → List α → σ)

theorem run_filter (hnil : ∀ s, run s [] = s) (hcons : ∀ s a as, run s (a :: as) = run (step s a) as)
    (part : σ → τ) (own : α → Bool)
    (hown : ∀ s s' a, own a = true → part s = part s' → part (step s a) = part (step s' a))
    (hother : ∀ s a, own a = false → part (step s a) = part s) {s s' : σ} (h : part s = part s')
    (as : List α) : part (run s as) = part (run s' (as.filter own)) := by
  induction as generalizing s s' with
  | nil => rwa [List.filter_nil, hnil, hnil]
  | cons a as ih =>
    rw [hcons]
    cases ha : own a with
    | true =>
      rw [List.filter_cons_of_pos ha, hcons]
      exact ih (hown s s' a ha h)
    | false =>
      rw [List.filter_cons_of_neg (by simp [ha])]
      exact ih ((hother s a ha).trans h)

end Isolation
