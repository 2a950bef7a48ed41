import Mathlib.Tactic.Common

/-!
# Runs of steps that may not succeed

A step takes a state and an action to the next state, or does not succeed; a run ends there.
`Along` says that all steps of a run have a property, which may speak of the states before and
after. What the steps keep holds in the end, and two properties of steps that mean the same
wherever an invariant holds mean the same of runs.
-/

namespace Stepwise

variable {σ α : Type} (step : σ → α → Option σ)

/-- The state after a run all of whose steps succeed. -/
def run : σ → List α → Option σ
  | s, [] => some s
  | s, a :: as => (step s a).bind fun s' => run s' as

/-- Every step that a run takes has the property. -/
def Along (P : σ → α → σ → Prop) : σ → List α → Prop
  | _, [] => True
  | s, a :: as => ∀ s', step s a = some s' → P s a s' ∧ Along P s' as

variable {step} {P Q : σ → α → σ → Prop} {as : List α}

theorem run_cons {s s' : σ} {a : α} (h : run step s (a :: as) = some s') :
    ∃ next, step s a = some next ∧ run step next as = some s' := by
  rwa [run, Option.bind_eq_some_iff] at h

variable (Inv : σ → Prop)

/-- What good steps keep holds at the end of a run of good steps. -/
theorem run_keeps (hstep : ∀ s a s', Inv s → step s a = some s' → P s a s' → Inv s') {s s' : σ}
    (h : Inv s) (hrun : run step s as = some s') (hgood : Along step P s as) : Inv s' := by
  induction as generalizing s with
  | nil => exact Option.some.inj hrun ▸ h
  | cons a as ih =>
    obtain ⟨next, hnext, hrest⟩ := run_cons hrun
    obtain ⟨hP, hgood⟩ := hgood next hnext
    exact ih (hstep s a next h hnext hP) hrest hgood

theorem along_of_forall (h : ∀ s a s', P s a s') (s : σ) (as : List α) : Along step P s as := by
  induction as generalizing s with
  | nil => trivial
  | cons a as ih => exact fun s' _ => ⟨h s a s', ih s'⟩

/-- What every step keeps holds at the end of a run. -/
theorem run_invariant (hstep : ∀ s a s', Inv s → step s a = some s' → Inv s') {s s' : σ} (h : Inv s)
    (hrun : run step s as = some s') : Inv s' :=
  run_keeps (P := fun _ _ _ => True) Inv (fun s a s' h hs _ => hstep s a s' h hs) h hrun
    (along_of_forall (fun _ _ _ => trivial) s as)

/-- A property that good steps have wherever the invariant holds. -/
theorem along_of_along (hstep : ∀ s a s', Inv s → step s a = some s' → P s a s' → Inv s' ∧ Q s a s')
    {s : σ} (h : Inv s) (hgood : Along step P s as) : Along step Q s as := by
  induction as generalizing s with
  | nil => trivial
  | cons a as ih =>
    intro s' hs'
    obtain ⟨hP, hgood⟩ := hgood s' hs'
    obtain ⟨hinv, hQ⟩ := hstep s a s' h hs' hP
    exact ⟨hQ, ih hinv hgood⟩

/-- A property that every step has wherever the invariant holds. -/
theorem along_of_invariant (hstep : ∀ s a s', Inv s → step s a = some s' → Inv s' ∧ Q s a s')
    {s : σ} (h : Inv s) (as : List α) : Along step Q s as :=
  along_of_along (P := fun _ _ _ => True) Inv (fun s a s' h hs _ => hstep s a s' h hs) h
    (along_of_forall (fun _ _ _ => trivial) s as)

/-- Properties of steps that mean the same wherever the invariant holds. -/
theorem along_iff (hiff : ∀ s a s', Inv s → step s a = some s' → (P s a s' ↔ Q s a s'))
    (hkeeps : ∀ s a s', Inv s → step s a = some s' → Q s a s' → Inv s') {s : σ} (h : Inv s)
    (as : List α) : Along step P s as ↔ Along step Q s as := by
  induction as generalizing s with
  | nil => exact Iff.rfl
  | cons a as ih =>
    refine forall_congr' fun s' => forall_congr' fun hs' => ?_
    rw [hiff s a s' h hs']
    exact and_congr_right fun hQ => ih (hkeeps s a s' h hs' hQ)

end Stepwise
