set_option autoImplicit false

namespace SDCardFs.Lib

-- Finite runs of a step relation, the inputs of the steps in order.
inductive Run {σ ι : Type} (step : σ → ι → σ → Prop) : σ → List ι → σ → Prop where
  | nil (start : σ) : Run step start [] start
  | snoc (start between after : σ) (inputs : List ι) (input : ι) :
      Run step start inputs between → step between input after → Run step start (inputs ++ [input]) after

theorem run_cons {σ ι : Type} {step : σ → ι → σ → Prop} {start between after : σ} {input : ι} {inputs : List ι}
    (first : step start input between) (ran : Run step between inputs after) : Run step start (input :: inputs) after := by
  induction ran with
  | nil => exact .snoc _ _ _ [] input (.nil _) first
  | snoc between after inputs input before stepped ih => exact .snoc _ _ _ _ _ ih stepped

theorem run_invariant {σ ι : Type} {step : σ → ι → σ → Prop} (holds : σ → Prop)
    (preserved : ∀ before input after, holds before → step before input after → holds after)
    {start after : σ} {inputs : List ι} (ran : Run step start inputs after) (first : holds start) : holds after := by
  induction ran with
  | nil => exact first
  | snoc between after inputs input before stepped ih => exact preserved _ _ _ ih stepped

-- An invariant that also says something of every step it holds before.
theorem run_inputs {σ ι : Type} {step : σ → ι → σ → Prop} (holds : σ → Prop) (good : ι → Prop)
    (preserved : ∀ before input after, holds before → step before input after → good input ∧ holds after)
    {start after : σ} {inputs : List ι} (ran : Run step start inputs after) (first : holds start) : ∀ input ∈ inputs, good input := by
  have both : holds after ∧ ∀ input ∈ inputs, good input := by
    induction ran with
    | nil => exact ⟨first, fun _ member => absurd member List.not_mem_nil⟩
    | snoc between after earlier input before stepped ih =>
        obtain ⟨last, still⟩ := preserved _ _ _ ih.1 stepped
        refine ⟨still, fun other member => ?_⟩
        rcases List.mem_append.mp member with old | new
        · exact ih.2 other old
        · exact List.mem_singleton.mp new ▸ last
  exact both.2

theorem run_mono {σ ι : Type} {step weaker : σ → ι → σ → Prop} (implies : ∀ before input after, step before input after → weaker before input after)
    {start after : σ} {inputs : List ι} (ran : Run step start inputs after) : Run weaker start inputs after := by
  induction ran with
  | nil => exact .nil _
  | snoc between after inputs input before stepped ih => exact .snoc _ _ _ _ _ ih (implies _ _ _ stepped)

theorem run_single {σ ι : Type} {step : σ → ι → σ → Prop} {start after : σ} {input : ι} (ran : Run step start [input] after) :
    step start input after := by
  generalize same : [input] = inputs at ran
  cases ran with
  | nil => cases same
  | snoc between after earlier last before stepped =>
      have parts : earlier = [] ∧ last = input := by
        rcases List.append_eq_singleton_iff.mp same.symm with ⟨none, one⟩ | ⟨_, none⟩
        · exact ⟨none, List.singleton_inj.mp one⟩
        · cases none
      obtain ⟨rfl, rfl⟩ := parts
      generalize nothing : [] = inputs at before
      cases before with
      | nil => exact stepped
      | snoc => simp at nothing

end SDCardFs.Lib
