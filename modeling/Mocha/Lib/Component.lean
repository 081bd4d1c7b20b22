import Mocha.Lib.Run

/-! Components: parts of a system that take steps of their own while the rest of it moves. -/
namespace Mocha.Lib

/-- A part of a system. What a step of the system is for the part, is shown by the label of the step:
no step of its own, or one, or several. -/
structure Component {σ τ α β : Type*} (step : Step σ α) (inner : Step τ β) where
  part : σ → τ
  steps : α → List β
  inside : ∀ {s a t}, step s a t → Run inner (part s) (steps a) (part t)

namespace Component

variable {σ τ α β : Type*} {step : Step σ α} {inner : Step τ β} (c : Component step inner) {s t : σ}
  {a : α} {tr : List α}

/-- A run of the system is a run of the component, made of what its labels show. -/
theorem run (h : Run step s tr t) : Run inner (c.part s) (tr.flatMap c.steps) (c.part t) := by
  induction h with
  | nil => exact .nil
  | snoc _ hstep ih =>
    rw [List.flatMap_append, List.flatMap_singleton]
    exact ih.append (c.inside hstep)

/-- What every step of the component keeps, every step of the system keeps. -/
theorem step_keeps {I : τ → Prop} (hI : ∀ s b t, I s → inner s b t → I t) (h : step s a t)
    (hs : I (c.part s)) : I (c.part t) :=
  (c.inside h).invariant I hI hs

end Component

end Mocha.Lib
