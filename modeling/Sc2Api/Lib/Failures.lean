import Mathlib.Data.List.Induction

/-!
# Results that may be errors

Steps that may fail, taken for the inputs of a list one after the other: a run ends at the first
error. What every step keeps holds after each run that has none, and a run has none whose steps,
each after the part of the run before it, have none.
-/

namespace Sc2Api.Lib

theorem bind_eq_ok_iff {ε α β : Type} {x : Except ε α} {f : α → Except ε β} {b : β} :
    x >>= f = .ok b ↔ ∃ a, x = .ok a ∧ f a = .ok b := by
  cases x with
  | error e => exact iff_of_false nofun nofun
  | ok a => exact ⟨fun h => ⟨a, rfl, h⟩, fun ⟨_, ha, h⟩ => by cases ha; exact h⟩

/-! ## Runs -/

section Runs

variable {σ ι ε : Type} {step : σ → ι → Except ε σ} {s s' : σ}

theorem foldlM_concat (inputs : List ι) (i : ι) :
    (inputs ++ [i]).foldlM step s = inputs.foldlM step s >>= fun s' => step s' i := by
  simp only [List.foldlM_append, List.foldlM_cons, List.foldlM_nil, bind_pure]

/-- What the steps keep, in view of the inputs so far, holds after a run without an error. -/
theorem foldlM_invariant {I : List ι → σ → Prop} (hstart : I [] s)
    (hstep : ∀ past i s₁ s₂, I past s₁ → step s₁ i = .ok s₂ → I (past ++ [i]) s₂)
    {inputs : List ι} (h : inputs.foldlM step s = .ok s') : I inputs s' := by
  induction inputs using List.reverseRecOn generalizing s' with
  | nil =>
    cases h
    exact hstart
  | append_singleton past i ih =>
    rw [foldlM_concat] at h
    obtain ⟨s₁, hpast, hnext⟩ := bind_eq_ok_iff.1 h
    exact hstep past i s₁ s' (ih hpast) hnext

/-- A run has no error if none of its steps has one where the run before it leads. -/
theorem exists_foldlM {inputs : List ι}
    (hstep : ∀ past i later s₁, inputs = past ++ i :: later → past.foldlM step s = .ok s₁ →
      ∃ s₂, step s₁ i = .ok s₂) : ∃ s', inputs.foldlM step s = .ok s' := by
  induction inputs using List.reverseRecOn with
  | nil => exact ⟨s, rfl⟩
  | append_singleton past i ih =>
    obtain ⟨s₁, hpast⟩ := ih fun before j later s₁ hsplit hbefore =>
      hstep before j (later ++ [i]) s₁ (by rw [hsplit, List.append_assoc, List.cons_append])
        hbefore
    obtain ⟨s₂, hnext⟩ := hstep past i [] s₁ rfl hpast
    exact ⟨s₂, by rw [foldlM_concat]; exact bind_eq_ok_iff.2 ⟨s₁, hpast, hnext⟩⟩

/-- Steps that keep an invariant and have no error where it holds make a run without errors. -/
theorem exists_foldlM_invariant {I : List ι → σ → Prop} (hstart : I [] s)
    (hstep : ∀ past i s₁, I past s₁ → ∃ s₂, step s₁ i = .ok s₂ ∧ I (past ++ [i]) s₂)
    (inputs : List ι) : ∃ s', inputs.foldlM step s = .ok s' ∧ I inputs s' := by
  have hkeeps : ∀ past i s₁ s₂, I past s₁ → step s₁ i = .ok s₂ → I (past ++ [i]) s₂ := by
    intro past i s₁ s₂ hpast hnext
    obtain ⟨s₂', hnext', hkept⟩ := hstep past i s₁ hpast
    rw [hnext] at hnext'
    cases hnext'
    exact hkept
  have hrun : ∃ s', inputs.foldlM step s = .ok s' := by
    refine exists_foldlM fun past i _ s₁ _ hpast => ?_
    obtain ⟨s₂, hnext, -⟩ := hstep past i s₁ (foldlM_invariant hstart hkeeps hpast)
    exact ⟨s₂, hnext⟩
  obtain ⟨s', hrun⟩ := hrun
  exact ⟨s', hrun, foldlM_invariant hstart hkeeps hrun⟩

end Runs

end Sc2Api.Lib
