import HttpServer.Library.TransitionSystem

/-!
# Stopping a thread that waits

A thread loops over a wait on a condition variable until a flag tells it to
stop.  Another thread resets the flag, notifies and joins.  Between a test of the
wait's predicate that fails and the moment at which the thread is parked, a
notification finds nobody to wake.  When the flag is reset without the mutex that
the thread owns in between, nothing keeps the notification out of that window.
A run in which it never falls there loses no wakeup.
-/

/-- What can be seen of any number of threads in such loops: the flag, whether
the notification that follows its reset has been issued, and which threads are
parked or about to park after a test that failed. -/
structure StoppableLoop (State Thread : Type*) where
  running : State → Bool
  notified : State → Bool
  parked : State → Thread → Prop
  parking : State → Thread → Prop

namespace StoppableLoop

variable {State Action Thread : Type*} {loop : StoppableLoop State Thread}

/-- What a step can do to what is seen of a loop. -/
structure Step (loop : StoppableLoop State Thread) (state next : State) : Prop where
  stays : loop.running state = false → loop.running next = false
  parks : ∀ thread, loop.parked next thread →
    loop.parked state thread ∨ loop.parking state thread
  tests : ∀ thread, loop.parking next thread →
    loop.parking state thread ∨ loop.running state = true
  notifies : loop.notified next = true → loop.notified state = true ∨
    loop.running state = false ∧ ∀ thread, ¬ loop.parked next thread

/-- The step issues the notification. -/
def Notifies (loop : StoppableLoop State Thread) (state next : State) : Prop :=
  loop.notified state = false ∧ loop.notified next = true

/-- Nothing that is seen of the loop changes. -/
theorem Step.same {state next : State} (running : loop.running next = loop.running state)
    (notified : loop.notified next = loop.notified state)
    (parked : ∀ thread, loop.parked next thread → loop.parked state thread)
    (parking : ∀ thread, loop.parking next thread → loop.parking state thread) :
    loop.Step state next where
  stays := running.trans
  parks thread parks := .inl (parked thread parks)
  tests thread tests := .inl (parking thread tests)
  notifies issued := .inl (notified.symm.trans issued)

/-- The loop of a component. -/
def comap {Whole : Type*} (loop : StoppableLoop State Thread) (view : Whole → State) :
    StoppableLoop Whole Thread where
  running whole := loop.running (view whole)
  notified whole := loop.notified (view whole)
  parked whole := loop.parked (view whole)
  parking whole := loop.parking (view whole)

theorem Step.comap {Whole : Type*} {view : Whole → State} {whole next : Whole}
    (steps : loop.Step (view whole) (view next)) : (loop.comap view).Step whole next :=
  ⟨steps.stays, steps.parks, steps.tests, steps.notifies⟩

/-- The stop has been issued, and no thread has missed it. -/
def Stopped (loop : StoppableLoop State Thread) (state : State) : Prop :=
  loop.notified state = true → loop.running state = false ∧
    ∀ thread, ¬ loop.parked state thread ∧ ¬ loop.parking state thread

theorem Stopped.step {state next : State} (stopped : loop.Stopped state)
    (steps : loop.Step state next)
    (apart : loop.Notifies state next → ∀ thread, ¬ loop.parking state thread) :
    loop.Stopped next := by
  intro issued
  cases before : loop.notified state with
  | true =>
      obtain ⟨ended, none⟩ := stopped before
      refine ⟨steps.stays ended, ?_⟩
      intro thread
      constructor
      · intro parks
        exact (steps.parks thread parks).elim (none thread).1 (none thread).2
      · intro tests
        rcases steps.tests thread tests with tests | running
        · exact (none thread).2 tests
        · exact nomatch ended.symm.trans running
  | false =>
      rcases steps.notifies issued with already | ⟨ended, none⟩
      · exact nomatch before.symm.trans already
      · refine ⟨steps.stays ended, fun thread => ⟨none thread, ?_⟩⟩
        intro tests
        rcases steps.tests thread tests with tests | running
        · exact apart ⟨before, issued⟩ thread tests
        · exact nomatch ended.symm.trans running

/-- No run in which every notification comes while no thread is about to park
loses a wakeup. -/
theorem stopped_of_reachable {system : TransitionSystem State Action}
    {condition : State → Action → Prop} {state : State}
    (start : ∀ state, system.Initial state → loop.notified state = false)
    (steps : ∀ state action next, system.Reachable state →
      system.step state action = some next → loop.Step state next)
    (apart : ∀ state action next, condition state action →
      system.step state action = some next → loop.Notifies state next →
      ∀ thread, ¬ loop.parking state thread)
    (reaches : system.ReachableWhere condition state) : loop.Stopped state := by
  apply reaches.invariant
  · intro state starts issued
    exact nomatch (start state starts).symm.trans issued
  · intro state action next before stopped meets stepTo
    exact stopped.step (steps state action next before.reachable stepTo)
      (apart state action next meets stepTo)

end StoppableLoop
