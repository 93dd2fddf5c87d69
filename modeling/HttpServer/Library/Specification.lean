import HttpServer.Library.TransitionSystem

/-!
# Specifications and forward simulations

A specification leaves open what a system may choose: its steps are a relation, labelled
with what can be seen of them.  A system with an executable step implements it when each of
its states is related to one of the specification, and each of its steps is matched by a
run of the specification that shows the same events.
-/

/-- Initial states and a relation for every visible event. -/
structure Specification (State Event : Type*) where
  Initial : State → Prop
  Step : State → Event → State → Prop

namespace Specification

variable {State Event : Type*}

/-- The runs of a specification, with what they show. -/
inductive Runs (spec : Specification State Event) (first : State) : List Event → State → Prop where
  | refl : Runs spec first [] first
  | tail {events : List Event} {middle last : State} {event : Event}
      (before : Runs spec first events middle) (step : spec.Step middle event last) :
      Runs spec first (events ++ [event]) last

namespace Runs

variable {spec : Specification State Event} {first middle last : State}
  {events more : List Event}

theorem single {event : Event} (step : spec.Step first event last) :
    spec.Runs first [event] last :=
  Runs.refl.tail step

theorem trans (runs : spec.Runs first events middle) (further : spec.Runs middle more last) :
    spec.Runs first (events ++ more) last := by
  induction further with
  | refl => simpa using runs
  | tail before step ih =>
      rw [← List.append_assoc]
      exact ih.tail step

end Runs

variable {Concrete Action : Type*}

/-- A relation between the states of a system and those of a specification, and the events
that each step of the system shows. -/
structure ForwardSimulation (system : TransitionSystem Concrete Action)
    (spec : Specification State Event) (condition : Concrete → Action → Prop) where
  Related : Concrete → State → Prop
  events : Concrete → Action → List Event
  initial : ∀ state, system.Initial state → ∃ image, spec.Initial image ∧ Related state image
  simulates : ∀ state action next image, system.ReachableWhere condition state →
    condition state action → system.step state action = some next → Related state image →
    ∃ nextImage, spec.Runs image (events state action) nextImage ∧ Related next nextImage

namespace ForwardSimulation

variable {system : TransitionSystem Concrete Action} {spec : Specification State Event}
  {condition : Concrete → Action → Prop}

/-- What a run shows. -/
def shows (simulation : ForwardSimulation system spec condition) (first : Concrete)
    (actions : List Action) : List Event :=
  (system.trace first actions).flatMap fun step => simulation.events step.1 step.2

variable {simulation : ForwardSimulation system spec condition} {first last : Concrete}
  {actions : List Action} {image : State}

theorem shows_concat {action : Action}
    (steps : system.StepsWhere condition first actions last) :
    simulation.shows first (actions ++ [action]) =
      simulation.shows first actions ++ simulation.events last action := by
  simp [shows, steps.trace_concat]

/-- Every run of the system is matched by a run of the specification. -/
theorem implements (starts : system.Initial first) (related : simulation.Related first image)
    (steps : system.StepsWhere condition first actions last) :
    ∃ lastImage, spec.Runs image (simulation.shows first actions) lastImage ∧
      simulation.Related last lastImage := by
  induction steps with
  | refl => exact ⟨image, .refl, related⟩
  | tail before meets stepTo ih =>
      obtain ⟨middleImage, runs, relatedMiddle⟩ := ih
      obtain ⟨lastImage, further, relatedLast⟩ := simulation.simulates _ _ _ _
        ⟨first, _, starts, before⟩ meets stepTo relatedMiddle
      rw [shows_concat before]
      exact ⟨lastImage, runs.trans further, relatedLast⟩

end ForwardSimulation

end Specification
