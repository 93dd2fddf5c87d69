import HttpServer.MessageFlow

/-!
# The error of a failed poll

A poll that fails pushes an error for the readers of the error queue, and then stops the
listener.  The shutdown that follows is the one that every stop leads to: it clears the
queues, the error queue among them.  Whether a reader sees the error depends on whether it
comes before that.  A stop that somebody asks for while this shutdown is on its way, or has
begun, does not make it another one.
-/

namespace HttpServer

open Listener

/-- The error queue of the listener. -/
def ControlledListener.errors (state : ControlledListener) : ThreadSaveQueue ErrorValue :=
  state.listener.core.errorQueue

/-- The listener listens, and nobody has told it to stop or to end. -/
def ControlledListener.isOn (state : ControlledListener) : Bool :=
  state.listener.listening && state.listener.running

/-- In the step a call of `stopListening` or the destructor turns the listener off.  The
listener's own stop is no such call. -/
def asksToStop : ControlledListener × MessageAction → Bool
  | (state, .control (.callStep _)) =>
      match state.listener.call with
      | .stopSet | .dtorFlag => state.isOn
      | _ => false
  | _ => false

/-- In the step the listener's thread finds the listener off, and begins `DestroySocket`. -/
def beginsTeardown : ControlledListener × MessageAction → Bool
  | (state, .control (.run _)) => decide (state.listener.thread = .pollLoop) && !state.isOn
  | _ => false

/-- In the step the listener's thread pushes the error of a failed poll. -/
def storesError : ControlledListener × MessageAction → Bool
  | (state, .control (.run _)) => decide (state.listener.thread = .storeError)
  | _ => false

/-- The listener stays off until its thread begins `DestroySocket`, once. -/
def TearsDown (later : MessageTrace) : Prop :=
  ∃ waiting begins closing, later = waiting ++ begins :: closing ∧
    (∀ step ∈ waiting, step.1.isOn = false) ∧ beginsTeardown begins = true ∧
    ∀ step ∈ closing, beginsTeardown step = false

/-- The shutdown was begun by a stop that was asked for after the last error was pushed. -/
def AskedSince (before : MessageTrace) : Prop :=
  ∃ earlier ask later, before = earlier ++ ask :: later ∧ asksToStop ask = true ∧
    TearsDown later ∧ ∀ step ∈ later, storesError step = false

/-- What a step may do to the queued errors: push more, return the first to a reader, or
clear all of them in a shutdown that a stop asked for after the last one has begun. -/
inductive ErrorsKept (before : MessageTrace) (state next : ControlledListener) :
    MessageAction → Prop where
  | stay {action : MessageAction} (more : List ErrorValue)
      (queue : next.errors = state.errors ++ more) : ErrorsKept before state next action
  | returned {err : ErrorValue}
      (pops : (IListener.tryPopError state.listener).1 = some err)
      (queue : state.errors = err :: next.errors) : ErrorsKept before state next .tryPopError
  | tornDown {received : ReceivedMessages} (place : state.listener.thread = .clearErrors)
      (cleared : next.errors = []) (asked : AskedSince before) :
      ErrorsKept before state next (.control (.run received))

/-- Every step of the run keeps the errors. -/
def ErrorsReported (actions : List MessageAction) : Prop :=
  ∀ before state action after next,
    messageSystem.trace {} actions = before ++ (state, action) :: after →
    messageSystem.step state action = some next → ErrorsKept before state next action

/-- Whenever the listener's thread is about to clear the error queue, the queue is empty or
the shutdown was begun by a stop that was asked for after the last error. -/
def ClearsOnDemand (actions : List MessageAction) : Prop :=
  ∀ before state received after,
    messageSystem.trace {} actions = before ++ (state, .control (.run received)) :: after →
    state.listener.thread = .clearErrors → state.errors = [] ∨ AskedSince before

section Steps

variable {listener next : Listener} {received : ReceivedMessages}

/-- A statement of the thread adds an error or leaves the errors, except the last one of
`DestroySocket`. -/
theorem run_errorQueue (steps : listener.run received = some next) :
    (∃ more, next.core.errorQueue = listener.core.errorQueue ++ more) ∨
      listener.thread = .clearErrors := by
  cases runStep_of_run steps with
  | storeError place => exact .inl ⟨[_], rfl⟩
  | clearErrors place => exact .inr place
  | _ => exact .inl ⟨[], (List.append_nil _).symm⟩

theorem run_clearErrors (steps : listener.run received = some next)
    (place : listener.thread = .clearErrors) : next.core.errorQueue = [] := by
  cases runStep_of_run steps with
  | clearErrors => rfl
  | _ => simp_all

theorem callStep_errorQueue {handle : UInt32}
    (steps : listener.callStep handle = some next) :
    next.core.errorQueue = listener.core.errorQueue := by
  cases callStep_of_callStep steps with
  | startSet | stopSet | dtorNotify =>
      unfold Listener.notify
      split <;> rfl
  | _ => rfl

end Steps

section Traces

variable {actions : List MessageAction} {before : MessageTrace}
  {state next : ControlledListener} {action : MessageAction}

/-- Every step but the clearing of the queue keeps the errors. -/
theorem errorsKept_of_step (steps : messageSystem.step state action = some next)
    (keeps : ∀ received, action = .control (.run received) →
      state.listener.thread = .clearErrors → state.errors = [] ∨ AskedSince before) :
    ErrorsKept before state next action := by
  have stays (same : next.errors = state.errors) : ErrorsKept before state next action :=
    .stay [] (same.trans (List.append_nil _).symm)
  cases action with
  | pushOutgoing message =>
      obtain rfl := Option.some.inj steps
      exact stays rfl
  | tryPopReceived =>
      obtain rfl := Option.some.inj steps
      exact stays rfl
  | tryPopError =>
      obtain rfl := Option.some.inj steps
      cases queue : state.listener.core.errorQueue with
      | nil =>
          refine stays ?_
          simp [ControlledListener.errors, IListener.tryPopError, queue, ThreadSaveQueue.tryPop]
      | cons err rest =>
          have pops : (IListener.tryPopError state.listener).1 = some err := by
            simp [IListener.tryPopError, queue, ThreadSaveQueue.tryPop]
          refine .returned pops ?_
          simp [ControlledListener.errors, IListener.tryPopError, queue, ThreadSaveQueue.tryPop]
  | control action =>
      cases action with
      | run received =>
          obtain ⟨listener, runs, rfl⟩ := Option.map_eq_some_iff.mp steps
          rcases run_errorQueue runs with ⟨more, added⟩ | place
          · exact .stay more added
          · have cleared := run_clearErrors runs place
            rcases keeps received rfl place with empty | asked
            · exact stays (cleared.trans empty.symm)
            · exact .tornDown place cleared asked
      | callStep handle =>
          obtain ⟨listener, calls, rfl⟩ := Option.map_eq_some_iff.mp steps
          exact stays (callStep_errorQueue calls)
      | wake =>
          obtain ⟨listener, wakes, rfl⟩ := Option.map_eq_some_iff.mp steps
          obtain ⟨_, rfl⟩ := Listener.wake_eq_some.mp wakes
          exact stays rfl
      | initSocket | startListening | stopListening | destroy =>
          dsimp only [messageSystem, controlSystem, ControlledListener.begin] at steps
          split at steps
          · cases steps
            exact stays rfl
          · cases steps

theorem clearsOnDemand_of_reported (reported : ErrorsReported actions) :
    ClearsOnDemand actions := by
  intro before state received after split place
  have clears : ∃ listener, state.listener.run received = some listener := by
    unfold Listener.run
    rw [place]
    exact ⟨_, rfl⟩
  obtain ⟨listener, runs⟩ := clears
  have steps : messageSystem.step state (.control (.run received)) = some _ :=
    congrArg (Option.map _) runs
  cases reported before state _ after _ split steps with
  | stay more queue =>
      left
      have cleared := run_clearErrors runs place
      change listener.core.errorQueue = state.errors ++ more at queue
      rw [cleared] at queue
      exact (List.append_eq_nil_iff.mp queue.symm).1
  | tornDown _ _ asked => exact .inr asked

theorem not_askedSince {later : MessageTrace}
    (noneAsks : ∀ step ∈ later, asksToStop step = false)
    (stores : ∃ step ∈ later, storesError step = true) : ¬ AskedSince (before ++ later) := by
  rintro ⟨earlier, ask, rest, split, asks, -, noneStores⟩
  have notLater : ask ∉ later := by
    intro member
    rw [noneAsks ask member] at asks
    cases asks
  rcases List.append_eq_append_iff.mp split with ⟨between, _, same⟩ | ⟨between, _, same⟩
  · exact notLater (by simp [same])
  · cases between with
    | nil =>
        obtain rfl : ask :: rest = later := same
        exact notLater List.mem_cons_self
    | cons head between =>
        obtain ⟨step, member, stored⟩ := stores
        have inRest : step ∈ rest := by
          obtain ⟨_, rfl⟩ := List.cons.inj same
          exact List.mem_append_right _ member
        rw [noneStores step inRest] at stored
        cases stored

/-- The poll fails, and the listener's thread goes on alone until it has cleared the
queues. -/
def failPoll : List MessageAction :=
  .control (.run .negative) :: List.replicate 10 (.control (.run .none))

/-- The thread pushes the error and comes to the clearing of the queue, and nothing else
happens. -/
theorem trace_failPoll {polledOutMsg : Bool}
    (place : state.listener.thread = .receive polledOutMsg) :
    ∃ later clearing, messageSystem.trace state failPoll =
        later ++ [(clearing, .control (.run .none))] ∧
      clearing.listener.thread = .clearErrors ∧ clearing.errors ≠ [] ∧
      (∀ step ∈ later, asksToStop step = false) ∧ ∃ step ∈ later, storesError step = true := by
  obtain ⟨⟨listening, running, core, thread, call, calls, session, serving, mark⟩,
    initialized⟩ := state
  cases place
  refine ⟨[_, _, _, _, _, _, _, _, _, _], _, rfl, rfl, ?_, ?_, ?_⟩
  · change core.errorQueue ++ [_] ≠ []
    exact List.append_ne_nil_of_right_ne_nil _ (List.cons_ne_nil _ _)
  · simp [asksToStop]
  · exact ⟨_, List.mem_cons_of_mem _ List.mem_cons_self, rfl⟩

/-- From every poll on, the error is lost if the poll fails and nobody comes in between. -/
theorem not_clearsOnDemand_of_failPoll {polledOutMsg : Bool}
    (steps : messageSystem.Steps {} actions state)
    (place : state.listener.thread = .receive polledOutMsg) :
    ¬ ClearsOnDemand (actions ++ failPoll) := by
  intro onDemand
  obtain ⟨later, clearing, split, place, queued, noneAsks, stores⟩ := trace_failPoll place
  have whole : messageSystem.trace {} (actions ++ failPoll) =
      (messageSystem.trace {} actions ++ later) ++ [(clearing, .control (.run .none))] := by
    rw [steps.trace_append, split, List.append_assoc]
  rcases onDemand _ _ _ [] whole place with empty | asked
  · exact queued empty
  · exact not_askedSince noneAsks stores asked

/-- An error that was pushed is returned to a reader or cleared in a shutdown that somebody
has asked for since, exactly when the listener's thread clears an error queue that holds an
error in no other shutdown. -/
theorem errors_reported_iff : ErrorsReported actions ↔ ClearsOnDemand actions := by
  refine ⟨clearsOnDemand_of_reported, fun onDemand before state action after next split steps => ?_⟩
  refine errorsKept_of_step steps fun received runs place => ?_
  subst runs
  exact onDemand before state received after split place

open MessageAction ControlAction in
/-- A listener is started, and its thread comes to its first poll. -/
def startPolling : List MessageAction :=
  [control (initSocket 80), control (callStep 0), control (callStep 0),
    control (callStep 5), control (callStep 6), control (callStep 0),
    control startListening, control (callStep 0), control (callStep 0)] ++
  List.replicate 8 (control (run .none))

/-- The first poll fails.  No stop is asked for and no reader has come when the error is
gone. -/
theorem errors_reported_fails :
    ∃ last, messageSystem.Steps {} (startPolling ++ failPoll) last ∧ last.errors = [] ∧
      (∀ step ∈ messageSystem.trace {} (startPolling ++ failPoll),
        asksToStop step = false) ∧
      .tryPopError ∉ startPolling ++ failPoll ∧
      ¬ ErrorsReported (startPolling ++ failPoll) := by
  have starts : messageSystem.Steps {} startPolling _ :=
    TransitionSystem.runWhere_eq_some_iff.mp rfl
  have steps : messageSystem.Steps {} (startPolling ++ failPoll) _ :=
    TransitionSystem.runWhere_eq_some_iff.mp rfl
  have noneAsks : (messageSystem.trace {} (startPolling ++ failPoll)).all
      (fun step => !asksToStop step) = true := rfl
  refine ⟨_, steps, rfl, ?_, ?_, ?_⟩
  · intro step member
    simpa using List.all_eq_true.mp noneAsks step member
  · simp [startPolling, failPoll]
  · exact mt clearsOnDemand_of_reported (not_clearsOnDemand_of_failPoll starts rfl)

end Traces

end HttpServer
