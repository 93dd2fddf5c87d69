import Mathlib.Logic.Basic

/-!
# Labelled transition systems with an executable step

A system is a set of initial states and a step function that is partial in the
action: an action that is not enabled has no successor, and every choice of a
scheduler or of the environment is a choice of the action.  Runs are lists of
actions.  A run can be asked to meet a condition at each of its steps, so that
an invariant can be proved for exactly the runs that avoid a given kind of
step.
-/

/-- Initial states and a step that is a partial function of the action. -/
structure TransitionSystem (State Action : Type*) where
  Initial : State → Prop
  step : State → Action → Option State

namespace TransitionSystem

variable {State Action : Type*}

/-- Execute the actions of a list in order, as long as each step meets
`condition`. -/
def runWhere (system : TransitionSystem State Action)
    (condition : State → Action → Prop)
    [∀ state action, Decidable (condition state action)] (first : State) :
    List Action → Option State
  | [] => some first
  | action :: actions =>
      if condition first action then
        (system.step first action).bind fun next => system.runWhere condition next actions
      else none

/-- The steps of an execution, each an action with the state it is taken in. -/
def trace (system : TransitionSystem State Action) (first : State) :
    List Action → List (State × Action)
  | [] => []
  | action :: actions =>
      (first, action) ::
        match system.step first action with
        | none => []
        | some next => system.trace next actions

/-- Execute the actions of a list in order. -/
abbrev run (system : TransitionSystem State Action) (first : State)
    (actions : List Action) : Option State :=
  system.runWhere (fun _ _ => True) first actions

/-- The runs from `first` to `last`, each of whose steps meets `condition`. -/
inductive StepsWhere (system : TransitionSystem State Action)
    (condition : State → Action → Prop) (first : State) :
    List Action → State → Prop where
  | refl : StepsWhere system condition first [] first
  | tail {actions : List Action} {middle last : State} {action : Action}
      (before : StepsWhere system condition first actions middle)
      (meets : condition middle action)
      (stepTo : system.step middle action = some last) :
      StepsWhere system condition first (actions ++ [action]) last

/-- The runs from `first` to `last`. -/
abbrev Steps (system : TransitionSystem State Action) :
    State → List Action → State → Prop :=
  system.StepsWhere fun _ _ => True

/-- The states reached from an initial one by a run whose steps all meet
`condition`. -/
def ReachableWhere (system : TransitionSystem State Action)
    (condition : State → Action → Prop) (state : State) : Prop :=
  ∃ initial actions, system.Initial initial ∧
    system.StepsWhere condition initial actions state

/-- The states reached from an initial one. -/
abbrev Reachable (system : TransitionSystem State Action) : State → Prop :=
  system.ReachableWhere fun _ _ => True

variable {system : TransitionSystem State Action}
  {condition weaker : State → Action → Prop}

namespace StepsWhere

variable {first middle last : State} {actions more : List Action}

theorem mono (weaken : ∀ state action, condition state action → weaker state action)
    (steps : system.StepsWhere condition first actions last) :
    system.StepsWhere weaker first actions last := by
  induction steps with
  | refl => exact .refl
  | tail before meets stepTo ih => exact ih.tail (weaken _ _ meets) stepTo

theorem trans (steps : system.StepsWhere condition first actions middle)
    (further : system.StepsWhere condition middle more last) :
    system.StepsWhere condition first (actions ++ more) last := by
  induction further with
  | refl => simpa using steps
  | tail before meets stepTo ih =>
      rw [← List.append_assoc]
      exact ih.tail meets stepTo

theorem single {action : Action} (meets : condition first action)
    (stepTo : system.step first action = some last) :
    system.StepsWhere condition first [action] last :=
  StepsWhere.refl.tail meets stepTo

/-- A run of one action is a step. -/
theorem of_single {action : Action}
    (steps : system.StepsWhere condition first [action] last) :
    condition first action ∧ system.step first action = some last := by
  generalize taken : [action] = actions at steps
  cases steps with
  | refl => cases taken
  | @tail before _ _ _ earlier meets stepTo =>
      cases before with
      | nil =>
          obtain rfl : action = _ := by simpa using taken
          generalize none : [] = before at earlier
          cases earlier with
          | refl => exact ⟨meets, stepTo⟩
          | tail => simp at none
      | cons head before => simp at taken

/-- A run passes through a state after each part of its actions. -/
theorem of_append (steps : system.StepsWhere condition first (actions ++ more) last) :
    ∃ middle, system.StepsWhere condition first actions middle ∧
      system.StepsWhere condition middle more last := by
  generalize whole : actions ++ more = taken at steps
  induction steps generalizing more with
  | refl =>
      obtain ⟨rfl, rfl⟩ := List.append_eq_nil_iff.mp whole
      exact ⟨first, .refl, .refl⟩
  | @tail earlier middle last action before meets stepTo ih =>
      rcases List.eq_nil_or_concat more with rfl | ⟨rest, final, rfl⟩
      · obtain rfl : actions = earlier ++ [action] := by simpa using whole
        exact ⟨last, before.tail meets stepTo, .refl⟩
      · rw [List.concat_eq_append, ← List.append_assoc] at whole
        obtain ⟨split, same⟩ := List.append_inj' whole rfl
        obtain rfl : final = action := by simpa using same
        obtain ⟨between, runs, further⟩ := ih split
        exact ⟨between, runs, by simpa using further.tail meets stepTo⟩

/-- The trace of a run goes on with the trace of what follows it. -/
theorem trace_append (steps : system.StepsWhere condition first actions last) :
    system.trace first (actions ++ more) =
      system.trace first actions ++ system.trace last more := by
  induction steps generalizing more with
  | refl => rfl
  | @tail actions middle last action before meets stepTo ih =>
      have continued : system.trace middle (action :: more) =
          (middle, action) :: system.trace last more := by
        simp [trace, stepTo]
      have final : system.trace middle [action] = [(middle, action)] := by
        simp [trace, stepTo]
      rw [List.append_assoc, List.singleton_append, ih, ih, continued, final,
        List.append_assoc, List.singleton_append]

/-- One more action adds one step to the trace. -/
theorem trace_concat {action : Action}
    (steps : system.StepsWhere condition first actions last) :
    system.trace first (actions ++ [action]) =
      system.trace first actions ++ [(last, action)] := by
  rw [steps.trace_append]
  cases moves : system.step last action <;> simp [trace, moves]

/-- The trace of a run has all of its actions. -/
theorem map_trace (steps : system.StepsWhere condition first actions last) :
    (system.trace first actions).map Prod.snd = actions := by
  induction steps with
  | refl => rfl
  | tail before meets stepTo ih =>
      rw [before.trace_concat, List.map_append, ih]
      rfl

/-- A step of the trace is taken in a state that the run before it leads to. -/
theorem step_of_trace (steps : system.StepsWhere condition first actions last)
    {earlier later : List (State × Action)} {step : State × Action}
    (split : system.trace first actions = earlier ++ step :: later) :
    ∃ before next, system.StepsWhere condition first before step.1 ∧
      system.trace first before = earlier ∧ condition step.1 step.2 ∧
      system.step step.1 step.2 = some next := by
  induction steps generalizing later with
  | refl => simp [trace] at split
  | @tail actions middle last action before meets stepTo ih =>
      rw [before.trace_concat] at split
      rcases List.eq_nil_or_concat later with rfl | ⟨rest, final, rfl⟩
      · obtain ⟨same, final⟩ := List.append_inj' split rfl
        obtain rfl := List.singleton_inj.mp final
        exact ⟨actions, last, before, same, meets, stepTo⟩
      · rw [List.concat_eq_append, ← List.cons_append, ← List.append_assoc] at split
        exact ih (List.append_inj' split rfl).1

/-- What holds of the empty run and is kept by every further step holds of
every run. -/
theorem invariant (property : List Action → State → Prop)
    (start : property [] first)
    (preserved : ∀ actions middle action last,
      system.StepsWhere condition first actions middle →
      property actions middle → condition middle action →
      system.step middle action = some last →
      property (actions ++ [action]) last)
    (steps : system.StepsWhere condition first actions last) :
    property actions last := by
  induction steps with
  | refl => exact start
  | tail before meets stepTo ih =>
      exact preserved _ _ _ _ before ih meets stepTo

/-- What a step of one kind brings about, and every step but those of another kind
keeps, holds last if the run has made no step of the second kind since one of the
first. -/
theorem since (opens closes : State × Action → Prop) (property : State → Prop)
    (opened : ∀ actions state action next, system.StepsWhere condition first actions state →
      opens (state, action) → system.step state action = some next → property next)
    (preserved : ∀ actions state action next,
      system.StepsWhere condition first actions state → property state →
      condition state action → ¬ closes (state, action) →
      system.step state action = some next → property next)
    (steps : system.StepsWhere condition first actions last)
    {before after : List (State × Action)} {opening : State × Action}
    (split : system.trace first actions = before ++ opening :: after)
    (isOpening : opens opening) (noneCloses : ∀ step ∈ after, ¬ closes step) :
    property last := by
  induction steps generalizing after with
  | refl => simp [trace] at split
  | @tail actions middle last action earlier meets stepTo ih =>
      rw [earlier.trace_concat] at split
      rcases List.eq_nil_or_concat after with rfl | ⟨rest, final, rfl⟩
      · obtain ⟨_, same⟩ := List.append_inj' split rfl
        obtain rfl := List.singleton_inj.mp same
        exact opened _ _ _ _ earlier isOpening stepTo
      · rw [List.concat_eq_append, ← List.cons_append, ← List.append_assoc] at split
        obtain ⟨splitBefore, same⟩ := List.append_inj' split rfl
        obtain rfl := List.singleton_inj.mp same
        have holds := ih splitBefore fun step member => noneCloses step (by simp [member])
        exact preserved _ _ _ _ earlier holds meets (noneCloses _ (by simp)) stepTo

/-- What holds first and is kept by every step of the run holds last. -/
theorem kept (property : State → Prop) (start : property first)
    (preserved : ∀ state action next, property state → condition state action →
      system.step state action = some next → property next)
    (steps : system.StepsWhere condition first actions last) : property last :=
  steps.invariant (fun _ => property) start
    fun _ middle action last _ holds meets stepTo =>
      preserved middle action last holds meets stepTo

/-- Where the steps from good states that keep something are those that meet a
requirement, and lead to good states again, a run keeps it all along exactly when all its
steps meet the requirement. -/
theorem forall_trace_iff {keeps meets : State → Action → Prop} (good : State → Prop)
    (start : good first)
    (each : ∀ state action next, good state → condition state action →
      system.step state action = some next → (keeps state action ↔ meets state action))
    (stays : ∀ state action next, good state → condition state action → keeps state action →
      system.step state action = some next → good next)
    (steps : system.StepsWhere condition first actions last) :
    (∀ step ∈ system.trace first actions, keeps step.1 step.2) ↔
      ∀ step ∈ system.trace first actions, meets step.1 step.2 := by
  suffices both : ((∀ step ∈ system.trace first actions, keeps step.1 step.2) ↔
        ∀ step ∈ system.trace first actions, meets step.1 step.2) ∧
      ((∀ step ∈ system.trace first actions, keeps step.1 step.2) → good last) from both.1
  induction steps with
  | refl => exact ⟨by simp [trace], fun _ => start⟩
  | @tail actions middle last action before holds stepTo ih =>
      simp only [before.trace_concat, List.forall_mem_append, List.forall_mem_singleton]
      refine ⟨?_, fun kept => stays _ _ _ (ih.2 kept.1) holds kept.2 stepTo⟩
      constructor
      · intro kept
        exact ⟨ih.1.mp kept.1, (each _ _ _ (ih.2 kept.1) holds stepTo).mp kept.2⟩
      · intro met
        have kept := ih.1.mpr met.1
        exact ⟨kept, (each _ _ _ (ih.2 kept) holds stepTo).mpr met.2⟩

/-- Where the actions that are possible in good states are those that meet a requirement, a
list of actions is a run exactly when all its steps meet it. -/
theorem exists_iff_trace {meets : State → Action → Prop} (good : State → Prop)
    (enabled : ∀ state action, good state →
      ((∃ next, system.step state action = some next) ↔ meets state action))
    (stays : ∀ state action next, good state → system.step state action = some next →
      good next)
    (start : good first) :
    (∃ last, system.Steps first actions last) ↔
      ∀ step ∈ system.trace first actions, meets step.1 step.2 := by
  induction actions generalizing first with
  | nil => exact iff_of_true ⟨first, .refl⟩ nofun
  | cons action actions ih =>
      rw [trace, List.forall_mem_cons, ← enabled first action start]
      constructor
      · rintro ⟨last, steps⟩
        rw [← List.singleton_append] at steps
        obtain ⟨next, begins, rest⟩ := steps.of_append
        obtain ⟨_, stepTo⟩ := begins.of_single
        refine ⟨⟨next, stepTo⟩, ?_⟩
        rw [stepTo]
        exact (ih (stays _ _ _ start stepTo)).mp ⟨last, rest⟩
      · rintro ⟨⟨next, stepTo⟩, rest⟩
        rw [stepTo] at rest
        obtain ⟨last, steps⟩ := (ih (stays _ _ _ start stepTo)).mpr rest
        exact ⟨last, (StepsWhere.single trivial stepTo).trans steps⟩

/-- Amortized counting: where every step pays for its counted action from a
potential, up to the credit that it is given, so does the whole run. -/
theorem amortized (property : State → Prop) (potential credit : State → Nat)
    (counted : Action → Bool) (start : property first)
    (preserved : ∀ state action next, property state → condition state action →
      system.step state action = some next → property next)
    (pays : ∀ state action next, property state → condition state action →
      system.step state action = some next →
      potential next + (if counted action then 1 else 0) + credit state ≤
        potential state + credit next)
    (steps : system.StepsWhere condition first actions last) :
    potential last + actions.countP counted + credit first ≤
      potential first + credit last := by
  induction steps with
  | refl => simp
  | tail before meets stepTo ih =>
      have paid := pays _ _ _ (before.kept property start preserved) meets stepTo
      rw [List.countP_append, List.countP_singleton]
      omega

/-- Bounded response: where every step of a waiting state pays for its counted action or
reaches a goal that lasts, no wait takes more counted actions than it has left. -/
theorem responds (goal : State → Prop) (waits : Nat → State → Prop) (counted : Action → Bool)
    {budget : Nat} (start : waits budget first)
    (progress : ∀ left state action next, waits left state → condition state action →
      system.step state action = some next →
      goal next ∨ ∃ rest, waits rest next ∧ rest + (if counted action then 1 else 0) ≤ left)
    (lasts : ∀ state action next, goal state → condition state action →
      system.step state action = some next → goal next)
    (steps : system.StepsWhere condition first actions last) :
    goal last ∨ ∃ left, waits left last ∧ left + actions.countP counted ≤ budget := by
  induction steps with
  | refl => exact Or.inr ⟨budget, start, by simp⟩
  | tail before meets stepTo ih =>
      rcases ih with reached | ⟨left, waiting, spent⟩
      · exact Or.inl (lasts _ _ _ reached meets stepTo)
      · refine (progress _ _ _ _ waiting meets stepTo).imp_right ?_
        rintro ⟨rest, still, paid⟩
        refine ⟨rest, still, ?_⟩
        rw [List.countP_append, List.countP_singleton]
        omega

end StepsWhere

namespace ReachableWhere

variable {state next : State} {action : Action}

theorem initial (starts : system.Initial state) :
    system.ReachableWhere condition state :=
  ⟨state, [], starts, .refl⟩

theorem steps {actions : List Action}
    (reaches : system.ReachableWhere condition state)
    (further : system.StepsWhere condition state actions next) :
    system.ReachableWhere condition next := by
  obtain ⟨initial, before, starts, run⟩ := reaches
  exact ⟨initial, before ++ actions, starts, run.trans further⟩

theorem step (reaches : system.ReachableWhere condition state)
    (meets : condition state action)
    (stepTo : system.step state action = some next) :
    system.ReachableWhere condition next :=
  reaches.steps (StepsWhere.single meets stepTo)

theorem mono (weaken : ∀ state action, condition state action → weaker state action)
    (reaches : system.ReachableWhere condition state) :
    system.ReachableWhere weaker state := by
  obtain ⟨initial, actions, starts, run⟩ := reaches
  exact ⟨initial, actions, starts, run.mono weaken⟩

/-- Forget what the steps of the run had to meet. -/
theorem reachable (reaches : system.ReachableWhere condition state) :
    system.Reachable state :=
  reaches.mono fun _ _ _ => trivial

/-- What holds initially and is kept by every step that meets the condition
holds of every state reached.  The step may use that its source is reached, so
that invariants proved earlier need not be carried along. -/
theorem invariant (property : State → Prop)
    (start : ∀ state, system.Initial state → property state)
    (preserved : ∀ state action next,
      system.ReachableWhere condition state → property state →
      condition state action → system.step state action = some next →
      property next)
    (reaches : system.ReachableWhere condition state) : property state := by
  obtain ⟨initial, actions, starts, run⟩ := reaches
  induction run with
  | refl => exact start _ starts
  | tail before meets stepTo ih =>
      exact preserved _ _ _ ⟨initial, _, starts, before⟩ ih meets stepTo

/-- A component that is created in an initial state, and of which every step of
the whole system is a step or nothing, is itself in a reachable state. -/
theorem component {Part Move : Type*} {part : TransitionSystem Part Move}
    (meetsPart : Part → Move → Prop) (view : State → Option Part)
    (start : ∀ state, system.Initial state → ∀ piece, view state = some piece →
      part.Initial piece)
    (matched : ∀ state action next piece, system.ReachableWhere condition state →
      condition state action → system.step state action = some next →
      view next = some piece →
      part.Initial piece ∨ ∃ before, view state = some before ∧
        (piece = before ∨ ∃ move, meetsPart before move ∧
          part.step before move = some piece))
    (reaches : system.ReachableWhere condition state) :
    ∀ piece, view state = some piece → part.ReachableWhere meetsPart piece := by
  refine reaches.invariant
    (fun state => ∀ piece, view state = some piece → part.ReachableWhere meetsPart piece)
    ?_ ?_
  · intro state starts piece found
    exact ReachableWhere.initial (start state starts piece found)
  · intro state action next reached ih meets stepTo piece found
    rcases matched state action next piece reached meets stepTo found with
      created | ⟨before, foundBefore, rfl | ⟨move, meetsMove, moves⟩⟩
    · exact ReachableWhere.initial created
    · exact ih _ foundBefore
    · exact (ih before foundBefore).step meetsMove moves

end ReachableWhere

section Execution

variable [∀ state action, Decidable (condition state action)]

theorem runWhere_append {first : State} {actions more : List Action} :
    system.runWhere condition first (actions ++ more) =
      (system.runWhere condition first actions).bind fun next =>
        system.runWhere condition next more := by
  induction actions generalizing first with
  | nil => rfl
  | cons action actions ih =>
      by_cases meets : condition first action
      · simp [runWhere, meets, ih, Option.bind_assoc]
      · simp [runWhere, meets]

/-- Execution of an action list is exactly a run. -/
theorem runWhere_eq_some_iff {first last : State} {actions : List Action} :
    system.runWhere condition first actions = some last ↔
      system.StepsWhere condition first actions last := by
  constructor
  · intro executes
    induction actions generalizing first with
    | nil =>
        obtain rfl : first = last := by simpa [runWhere] using executes
        exact .refl
    | cons action actions ih =>
        rw [runWhere] at executes
        split at executes
        next meets =>
          obtain ⟨next, stepTo, rest⟩ := Option.bind_eq_some_iff.mp executes
          exact (StepsWhere.single meets stepTo).trans (ih rest)
        · cases executes
  · intro steps
    induction steps with
    | refl => rfl
    | tail before meets stepTo ih => simp [runWhere_append, ih, runWhere, meets, stepTo]

theorem reachableWhere_of_run {initial state : State} {actions : List Action}
    (starts : system.Initial initial)
    (executes : system.runWhere condition initial actions = some state) :
    system.ReachableWhere condition state :=
  ⟨initial, actions, starts, runWhere_eq_some_iff.mp executes⟩

end Execution

theorem reachable_of_run {initial state : State} {actions : List Action}
    (starts : system.Initial initial)
    (executes : system.run initial actions = some state) :
    system.Reachable state :=
  reachableWhere_of_run starts executes

end TransitionSystem
