import HttpServer.Library.TransitionSystem

/-!
# Refinement mappings

A system refines an abstract one when its states are mapped to abstract states
and each of its steps emits the events of an abstract run between the images of
its two states.  The events that a whole run emits are then a run of the
abstract system, and what holds of all abstract runs holds of them.
-/

namespace TransitionSystem

variable {State Action Abstract Event : Type*}

/-- The abstract state of each state and the events of each step, such that a
step from a reachable state emits an abstract run. -/
structure RefinementMapping (system : TransitionSystem State Action)
    (spec : TransitionSystem Abstract Event) (condition : State → Action → Prop) where
  abstract : State → Abstract
  events : State → Action → List Event
  initial : ∀ state, system.Initial state → spec.Initial (abstract state)
  simulates : ∀ state action next, system.ReachableWhere condition state →
    condition state action → system.step state action = some next →
    spec.Steps (abstract state) (events state action) (abstract next)

namespace RefinementMapping

variable {system : TransitionSystem State Action} {spec : TransitionSystem Abstract Event}
  {condition : State → Action → Prop}

/-- The events that a run emits. -/
def history (mapping : RefinementMapping system spec condition)
    (first : State) (actions : List Action) : List Event :=
  (system.trace first actions).flatMap fun step => mapping.events step.1 step.2

variable {mapping : RefinementMapping system spec condition} {first last : State}
  {actions : List Action}

theorem history_concat {action : Action}
    (steps : system.StepsWhere condition first actions last) :
    mapping.history first (actions ++ [action]) =
      mapping.history first actions ++ mapping.events last action := by
  simp [history, steps.trace_concat]

/-- The events of a run from an initial state are a run of the abstract system. -/
theorem refines (starts : system.Initial first)
    (steps : system.StepsWhere condition first actions last) :
    spec.Steps (mapping.abstract first) (mapping.history first actions)
      (mapping.abstract last) := by
  induction steps with
  | refl => exact .refl
  | tail before meets stepTo ih =>
      rw [history_concat before]
      exact ih.trans (mapping.simulates _ _ _ ⟨first, _, starts, before⟩ meets stepTo)

end RefinementMapping

end TransitionSystem
