import Mathlib.Data.Nat.Notation

/-! Runs of a fallible step over a list of inputs, and what holds at every step of one. -/

namespace Pocketdex

variable {σ β ε : Type}

/-- A condition holds at every step of a run, up to the first one that fails. -/
def EveryStep (step : σ → β → Except ε σ) (holds : σ → β → σ → Prop) : σ → List β → Prop
  | _, [] => True
  | state, input :: rest =>
    ∀ next, step state input = .ok next → holds state input next ∧ EveryStep step holds next rest

namespace EveryStep

variable {step : σ → β → Except ε σ} {holds other : σ → β → σ → Prop} {state : σ} {inputs : List β}

/-- Two conditions that agree at the steps from good states hold of the same runs, when either of
them leads to a good state. What is good may depend on the inputs that are left. -/
theorem iff_of_remaining (good : σ → List β → Prop) (start : good state inputs)
    (agree : ∀ {state input rest next}, good state (input :: rest) → step state input = .ok next →
      (holds state input next ↔ other state input next) ∧
        (holds state input next → good next rest)) :
    EveryStep step holds state inputs ↔ EveryStep step other state inputs := by
  -- The steps agree one after the other, and each of them leaves a good state for the next one.
  induction inputs generalizing state with
  | nil => exact Iff.rfl
  | cons input rest ih =>
    constructor
    · intro every next ran
      obtain ⟨same, kept⟩ := agree start ran
      obtain ⟨now, further⟩ := every next ran
      exact ⟨same.mp now, (ih (kept now)).mp further⟩
    · intro every next ran
      obtain ⟨same, kept⟩ := agree start ran
      obtain ⟨now, further⟩ := every next ran
      exact ⟨same.mpr now, (ih (kept (same.mpr now))).mpr further⟩

/-- Two conditions that agree at the steps from good states hold of the same runs, when either of
them leads to a good state. -/
theorem iff_of_invariant (good : σ → Prop) (start : good state)
    (agree : ∀ {state input next}, good state → step state input = .ok next →
      (holds state input next ↔ other state input next) ∧ (holds state input next → good next)) :
    EveryStep step holds state inputs ↔ EveryStep step other state inputs :=
  iff_of_remaining (fun state _ => good state) start agree

end EveryStep

end Pocketdex
