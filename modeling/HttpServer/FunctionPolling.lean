import HttpServer.Library.QueueAccount
import HttpServer.Library.RefinementMapping
import HttpServer.NetworkManager

/-!
# One call of `pollFunctionCalls`

The loop tests whether the queue is empty and pops in two steps, between which other
threads push, and the functions that it executes push on the same queue.  Only the thread
in this call takes functions off the queue.
-/

namespace HttpServer

/-- Where the thread is in `pollFunctionCalls`.  A call ends as `thrown` when a function
leaves it with an exception. -/
inductive PollPlace (Funk : Type) where
  | test (counter : Nat)
  | pop (counter : Nat)
  | call (counter : Nat) (funk : Funk)
  | done
  | thrown

structure FunctionPoll (Funk : Type) where
  functionQueue : ThreadSaveQueue Funk
  place : PollPlace Funk := .test 0

/-- The next statement of the loop; the function that it calls pushes another one, returns
or throws; another thread pushes. -/
inductive PollAction (Funk : Type) where
  | run
  | callPush (funk : Funk)
  | callReturn
  | callThrow
  | push (funk : Funk)

namespace PollAction

variable {Funk : Type}

def pushes? : PollAction Funk → Option Funk
  | callPush funk | push funk => some funk
  | _ => none

/-- The action brings the call forward. -/
def isProgress : PollAction Funk → Bool
  | run | callReturn | callThrow => true
  | _ => false

end PollAction

namespace PollPlace

variable {Funk : Type}

def isOver : PollPlace Funk → Bool
  | done | thrown => true
  | _ => false

end PollPlace

namespace FunctionPoll

variable {Funk : Type}

def pollFunctionCalls (poll : FunctionPoll Funk) : Option (FunctionPoll Funk) :=
  match poll.place with
  | .test counter =>
      some { poll with
        place :=
          if ¬ poll.functionQueue.isEmpty ∧ counter < maxFunctionsPerSession then .pop counter
          else .done }
  | .pop counter =>
      match ThreadSaveQueue.tryPop poll.functionQueue with
      | (none, rest) => some { functionQueue := rest, place := .done }
      | (some funk, rest) => some { functionQueue := rest, place := .call counter funk }
  | .call _ _ | .done | .thrown => none

def pushes (poll : FunctionPoll Funk) (funk : Funk) : FunctionPoll Funk :=
  { poll with functionQueue := ThreadSaveQueue.push poll.functionQueue funk }

/-- What the function that is being executed does. -/
def called (poll : FunctionPoll Funk) (next : Nat → FunctionPoll Funk) :
    Option (FunctionPoll Funk) :=
  match poll.place with
  | .call counter _ => some (next counter)
  | _ => none

end FunctionPoll

/-- One call of `pollFunctionCalls` on a queue with any content, among threads that push. -/
def pollSystem (Funk : Type) : TransitionSystem (FunctionPoll Funk) (PollAction Funk) where
  Initial poll := poll.place = .test 0
  step poll
    | .run => poll.pollFunctionCalls
    | .callPush funk => poll.called fun _ => poll.pushes funk
    | .callReturn => poll.called fun counter => { poll with place := .test (counter + 1) }
    | .callThrow => poll.called fun _ => { poll with place := .thrown }
    | .push funk => some (poll.pushes funk)

namespace FunctionPoll

variable {Funk : Type} {poll next : FunctionPoll Funk} {action : PollAction Funk}

/-- Everything that a step of the call can do. -/
inductive Step (poll : FunctionPoll Funk) : PollAction Funk → FunctionPoll Funk → Prop where
  | drained {counter : Nat} (place : poll.place = .test counter)
      (queue : poll.functionQueue = []) : Step poll .run { poll with place := .done }
  | enough {counter : Nat} (place : poll.place = .test counter)
      (limit : maxFunctionsPerSession ≤ counter) : Step poll .run { poll with place := .done }
  | more {counter : Nat} (place : poll.place = .test counter)
      (queue : poll.functionQueue ≠ []) (less : counter < maxFunctionsPerSession) :
      Step poll .run { poll with place := .pop counter }
  | gone {counter : Nat} (place : poll.place = .pop counter) (queue : poll.functionQueue = []) :
      Step poll .run { poll with place := .done }
  | pop {counter : Nat} {funk : Funk} {rest : ThreadSaveQueue Funk}
      (place : poll.place = .pop counter) (queue : poll.functionQueue = funk :: rest) :
      Step poll .run { functionQueue := rest, place := .call counter funk }
  | callPush {counter : Nat} {funk other : Funk} (place : poll.place = .call counter funk) :
      Step poll (.callPush other) (poll.pushes other)
  | callReturn {counter : Nat} {funk : Funk} (place : poll.place = .call counter funk) :
      Step poll .callReturn { poll with place := .test (counter + 1) }
  | callThrow {counter : Nat} {funk : Funk} (place : poll.place = .call counter funk) :
      Step poll .callThrow { poll with place := .thrown }
  | push {funk : Funk} : Step poll (.push funk) (poll.pushes funk)

theorem step_of_run (steps : poll.pollFunctionCalls = some next) : Step poll .run next := by
  unfold pollFunctionCalls at steps
  split at steps
  next counter place =>
    cases steps
    split
    next test => exact .more place (by simpa using test.1) test.2
    next ends =>
      cases queue : poll.functionQueue with
      | nil => exact queue ▸ .drained place queue
      | cons funk rest =>
          have limit : maxFunctionsPerSession ≤ counter := by simpa [queue] using ends
          exact queue ▸ .enough place limit
  next counter place =>
    cases queue : poll.functionQueue with
    | nil =>
        rw [queue] at steps
        cases steps
        have gone := Step.gone place queue
        rwa [queue] at gone
    | cons funk rest =>
        rw [queue] at steps
        cases steps
        exact .pop place queue
  all_goals cases steps

theorem called_eq_some {next : Nat → FunctionPoll Funk} {after : FunctionPoll Funk}
    (calls : poll.called next = some after) :
    ∃ counter funk, poll.place = .call counter funk ∧ after = next counter := by
  unfold called at calls
  split at calls
  next counter funk place =>
    cases calls
    exact ⟨counter, funk, place, rfl⟩
  · cases calls

theorem step_of_step (steps : (pollSystem Funk).step poll action = some next) :
    Step poll action next := by
  cases action with
  | run => exact step_of_run steps
  | callPush other =>
      obtain ⟨counter, funk, place, rfl⟩ := called_eq_some steps
      exact .callPush place
  | callReturn =>
      obtain ⟨counter, funk, place, rfl⟩ := called_eq_some steps
      exact .callReturn place
  | callThrow =>
      obtain ⟨counter, funk, place, rfl⟩ := called_eq_some steps
      exact .callThrow place
  | push funk =>
      cases steps
      exact .push

/-- The function that the step pops and executes. -/
def executes? (step : FunctionPoll Funk × PollAction Funk) : Option Funk :=
  match step.2, step.1.place, step.1.functionQueue with
  | .run, .pop _, funk :: _ => some funk
  | _, _, _ => none

/-- The functions executed in a run, in order. -/
def executed (trace : List (FunctionPoll Funk × PollAction Funk)) : List Funk :=
  trace.filterMap executes?

/-- The functions pushed in a run, in order. -/
def pushed (actions : List (PollAction Funk)) : List Funk :=
  actions.filterMap PollAction.pushes?

/-- The number of functions executed that the counter stands for. -/
def Counts (place : PollPlace Funk) (count : Nat) : Prop :=
  match place with
  | .test counter => counter = count ∧ count ≤ maxFunctionsPerSession
  | .pop counter => counter = count ∧ count < maxFunctionsPerSession
  | .call counter _ => counter + 1 = count ∧ count ≤ maxFunctionsPerSession
  | .done | .thrown => count ≤ maxFunctionsPerSession

theorem Counts.le {place : PollPlace Funk} {count : Nat} (counts : Counts place count) :
    count ≤ maxFunctionsPerSession := by
  cases place with
  | test | call => exact counts.2
  | pop => exact Nat.le_of_lt counts.2
  | done | thrown => exact counts

/-- A step executes at most one function, and the counter keeps up. -/
theorem counts_of_step {count : Nat} (counts : Counts poll.place count)
    (steps : Step poll action next) :
    Counts next.place (count + (executes? (poll, action)).toList.length) := by
  cases steps with
  | drained place | enough place | gone place =>
      simpa [executes?, place, Counts, *] using counts.le
  | more place queue less =>
      rw [place] at counts
      obtain ⟨rfl, _⟩ := counts
      simpa [executes?, place, Counts] using less
  | pop place queue =>
      rw [place] at counts
      obtain ⟨rfl, less⟩ := counts
      simpa [executes?, place, queue, Counts] using Nat.succ_le_of_lt less
  | callPush place => simpa [executes?, pushes] using counts
  | callReturn place =>
      rw [place] at counts
      simpa [executes?, Counts] using counts
  | callThrow place => simpa [executes?, Counts] using counts.le
  | push => simpa [executes?, pushes] using counts

/-- A step takes the function that it executes off the queue, and what is pushed goes to
its end. -/
theorem account_of_step {taken arrived : List Funk}
    (account : QueueAccount taken poll.functionQueue arrived) (steps : Step poll action next) :
    QueueAccount (taken ++ (executes? (poll, action)).toList) next.functionQueue
      (arrived ++ action.pushes?.toList) := by
  cases steps with
  | drained place queue | gone place queue =>
      have none : executes? (poll, .run) = none := by simp [executes?, queue]
      simpa [none, PollAction.pushes?] using account
  | enough place | more place => simpa [executes?, place, PollAction.pushes?] using account
  | pop place queue =>
      rw [queue] at account
      simpa [executes?, place, queue, PollAction.pushes?] using account.takes
  | callReturn | callThrow => simpa [executes?, PollAction.pushes?] using account
  | callPush | push =>
      simpa [executes?, PollAction.pushes?, pushes, ThreadSaveQueue.push] using account.arrives

/-- How many steps are left at most until the call is over. -/
def stepsLeft (poll : FunctionPoll Funk) : Nat :=
  match poll.place with
  | .test counter => 3 * (maxFunctionsPerSession - counter) + 1
  | .pop counter => 3 * (maxFunctionsPerSession - counter)
  | .call counter _ => 3 * (maxFunctionsPerSession - counter) - 1
  | .done | .thrown => 0

theorem stepsLeft_of_step {count : Nat} (counts : Counts poll.place count)
    (steps : Step poll action next) :
    next.stepsLeft + (if action.isProgress then 1 else 0) ≤ poll.stepsLeft := by
  cases steps with
  | drained place | enough place | more place =>
      simp only [stepsLeft, place, PollAction.isProgress, if_true]
      omega
  | gone place | pop place =>
      rw [place] at counts
      have less := counts.2
      have := counts.1
      simp only [stepsLeft, place, PollAction.isProgress, if_true]
      omega
  | callReturn place | callThrow place =>
      rw [place] at counts
      have bound := counts.2
      have := counts.1
      simp only [stepsLeft, place, PollAction.isProgress, if_true]
      omega
  | callPush | push => exact le_refl _

/-- A call that is not over can go on, whatever is pushed meanwhile. -/
theorem goes_on (going : poll.place.isOver = false) :
    ∃ action next, action.isProgress = true ∧ (pollSystem Funk).step poll action = some next := by
  cases place : poll.place with
  | test counter => exact ⟨.run, _, rfl, by simp [pollSystem, pollFunctionCalls, place]; rfl⟩
  | pop counter =>
      cases queue : poll.functionQueue with
      | nil =>
          exact ⟨.run, _, rfl, by simp [pollSystem, pollFunctionCalls, place, queue,
            ThreadSaveQueue.tryPop]; rfl⟩
      | cons funk rest =>
          exact ⟨.run, _, rfl, by simp [pollSystem, pollFunctionCalls, place, queue,
            ThreadSaveQueue.tryPop]; rfl⟩
  | call counter funk => exact ⟨.callReturn, _, rfl, by simp [pollSystem, called, place]; rfl⟩
  | done | thrown =>
      rw [place] at going
      cases going

/-- What holds of a call on a queue with this content, whatever the functions do and whatever
is pushed meanwhile. -/
structure Polled (functionQueue : ThreadSaveQueue Funk) (actions : List (PollAction Funk))
    (trace : List (FunctionPoll Funk × PollAction Funk)) (last : FunctionPoll Funk) : Prop where
  atMost : (executed trace).length ≤ maxFunctionsPerSession
  account : QueueAccount (executed trace) last.functionQueue (functionQueue ++ pushed actions)
  emptyFound : last.place = .done → (executed trace).length < maxFunctionsPerSession →
    ∃ step ∈ trace, step.2 = .run ∧ step.1.functionQueue = []
  ends : actions.countP PollAction.isProgress ≤ 3 * maxFunctionsPerSession + 1
  goesOn : last.place.isOver = false →
    ∃ action next, action.isProgress = true ∧ (pollSystem Funk).step last action = some next

section Runs

variable {functionQueue : ThreadSaveQueue Funk} {actions : List (PollAction Funk)}
  {last : FunctionPoll Funk}

theorem executed_concat
    (steps : (pollSystem Funk).Steps { functionQueue } actions last) :
    executed ((pollSystem Funk).trace { functionQueue } (actions ++ [action])) =
      executed ((pollSystem Funk).trace { functionQueue } actions) ++
        (executes? (last, action)).toList := by
  rw [steps.trace_concat, executed, List.filterMap_append]
  cases taken : executes? (last, action) <;> simp [executed, taken]

theorem pushed_concat : pushed (actions ++ [action]) = pushed actions ++ action.pushes?.toList := by
  rw [pushed, List.filterMap_append]
  cases taken : action.pushes? <;> simp [pushed, taken]

theorem counts_of_steps (steps : (pollSystem Funk).Steps { functionQueue } actions last) :
    Counts last.place (executed ((pollSystem Funk).trace { functionQueue } actions)).length := by
  induction steps with
  | refl => exact ⟨rfl, Nat.zero_le _⟩
  | tail before _ stepTo ih =>
      rw [executed_concat before, List.length_append]
      exact counts_of_step ih (step_of_step stepTo)

theorem account_of_steps (steps : (pollSystem Funk).Steps { functionQueue } actions last) :
    QueueAccount (executed ((pollSystem Funk).trace { functionQueue } actions))
      last.functionQueue (functionQueue ++ pushed actions) := by
  induction steps with
  | refl => exact (List.append_nil functionQueue).symm
  | tail before _ stepTo ih =>
      rw [executed_concat before, pushed_concat, ← List.append_assoc]
      exact account_of_step ih (step_of_step stepTo)

/-- Only an empty queue or a full count ends the call, other than an exception. -/
theorem emptyFound_of_steps (steps : (pollSystem Funk).Steps { functionQueue } actions last)
    (done : last.place = .done)
    (less : (executed ((pollSystem Funk).trace { functionQueue } actions)).length <
      maxFunctionsPerSession) :
    ∃ step ∈ (pollSystem Funk).trace { functionQueue } actions,
      step.2 = .run ∧ step.1.functionQueue = [] := by
  induction steps with
  | refl => cases done
  | @tail actions middle last action before _ stepTo ih =>
      have counts := counts_of_steps before
      rw [executed_concat before, List.length_append] at less
      rw [before.trace_concat]
      have member : (middle, action) ∈
          (pollSystem Funk).trace { functionQueue } actions ++ [(middle, action)] :=
        List.mem_append_right _ List.mem_cons_self
      cases step_of_step stepTo with
      | drained place queue | gone place queue => exact ⟨_, member, rfl, queue⟩
      | enough place limit =>
          rw [place] at counts
          obtain ⟨same, _⟩ := counts
          omega
      | more | pop | callReturn | callThrow => cases done
      | callPush place =>
          cases place.symm.trans done
      | push =>
          obtain ⟨step, found, empty⟩ := ih done (by omega)
          exact ⟨step, List.mem_append_left _ found, empty⟩

/-- Every step of the call itself brings it nearer to its end. -/
theorem progress_of_steps (steps : (pollSystem Funk).Steps { functionQueue } actions last) :
    last.stepsLeft + actions.countP PollAction.isProgress ≤ 3 * maxFunctionsPerSession + 1 := by
  have start : ∃ count, Counts (.test 0 : PollPlace Funk) count := ⟨0, rfl, Nat.zero_le _⟩
  refine steps.amortized (fun poll => ∃ count, Counts poll.place count) stepsLeft
    (fun _ => 0) PollAction.isProgress start ?_ ?_
  · rintro poll action next ⟨count, counts⟩ _ stepTo
    exact ⟨_, counts_of_step counts (step_of_step stepTo)⟩
  · rintro poll action next ⟨count, counts⟩ _ stepTo
    exact stepsLeft_of_step counts (step_of_step stepTo)

/-- One call of `pollFunctionCalls` executes at most 20 functions, the first of those that
were queued and are pushed meanwhile, leaves the others in order, ends before the 20th only
on an empty queue, and ends after at most 61 steps of its own. -/
theorem pollFunctionCalls_bounded
    (steps : (pollSystem Funk).Steps { functionQueue } actions last) :
    Polled functionQueue actions ((pollSystem Funk).trace { functionQueue } actions) last where
  atMost := (counts_of_steps steps).le
  account := account_of_steps steps
  emptyFound := emptyFound_of_steps steps
  ends := Nat.le_trans (Nat.le_add_left ..) (progress_of_steps steps)
  goesOn := goes_on

/-- A function that pushes itself again each time. -/
def pushAgain : List (PollAction Nat) :=
  (List.replicate 20 [.run, .run, .callPush 7, .callReturn]).flatten ++ [.run]

theorem pollFunctionCalls_bounded_again :
    ∃ last, (pollSystem Nat).Steps { functionQueue := [7] } pushAgain last ∧
      last.place = .done ∧ last.functionQueue = [7] ∧
      Polled [7] pushAgain ((pollSystem Nat).trace { functionQueue := [7] } pushAgain) last := by
  have executes : ∃ last,
      (pollSystem Nat).run { functionQueue := [7] } pushAgain = some last ∧
        last.place = .done ∧ last.functionQueue = [7] := ⟨_, rfl, rfl, rfl⟩
  obtain ⟨last, executes, done, queue⟩ := executes
  have steps := TransitionSystem.runWhere_eq_some_iff.mp executes
  exact ⟨last, steps, done, queue, pollFunctionCalls_bounded steps⟩

end Runs

end FunctionPoll

section Sessions

variable {Core Interface Value : Type}

namespace NetworkThread

/-- The place in the call of `pollFunctionCalls`, which is over once the thread is elsewhere. -/
def pollPlace : NetworkThread Core Value → PollPlace (QueuedFunction Core Value)
  | pollFunctionCalls counter => .test counter
  | call counter item => .call counter item
  | _ => .done

end NetworkThread

namespace NetworkManager

variable {manager next : NetworkManager Core Interface Value}

/-- The call of `pollFunctionCalls` that the network thread is in. -/
def functionPoll (manager : NetworkManager Core Interface Value) :
    FunctionPoll (QueuedFunction Core Value) where
  functionQueue := manager.functionCalls
  place := manager.thread.pollPlace

/-- What the step is in that call.  The test and the pop are one statement here. -/
def pollActions (manager : NetworkManager Core Interface Value) :
    NetworkManagerAction Core Interface Value → List (PollAction (QueuedFunction Core Value))
  | .network _ =>
      match manager.thread, manager.functionCalls with
      | .pollFunctionCalls counter, _ :: _ =>
          if counter < maxFunctionsPerSession then [.run, .run] else [.run]
      | .pollFunctionCalls _, [] => [.run]
      | _, _ => [.callReturn]
  | .caller caller =>
      match manager.callers caller with
      | .push func => [.push (.funktion manager.promiseCount func manager.kills)]
      | .pushServed served => [.push (.connectionServed served manager.kills)]
      | _ => []
  | _ => []

/-- One session of the network thread: the manager from the beginning of a call of
`pollFunctionCalls` to its end. -/
def sessionSystem (Core Interface Value : Type) [INetworkManagerCore Core] :
    TransitionSystem (NetworkManager Core Interface Value)
      (NetworkManagerAction Core Interface Value) where
  Initial manager :=
    (networkManagerSystem Core Interface Value).Reachable manager ∧
      manager.thread = .pollFunctionCalls 0
  step manager action :=
    if manager.thread.pollPlace.isOver then none
    else (networkManagerSystem Core Interface Value).step manager action

theorem isOver_wakeUp {place : NetworkThread Core Value} (going : place.pollPlace.isOver = false) :
    place.wakeUp = place := by
  cases place <;> first | rfl | cases going

/-- A statement of the network thread is one or two steps of its call. -/
theorem poll_of_runStep [INetworkManagerCore Core] {callbacks : Core → Except Fault Core}
    (going : manager.thread.pollPlace.isOver = false)
    (runs : RunStep callbacks manager next) :
    (pollSystem (QueuedFunction Core Value)).Steps manager.functionPoll
      (manager.pollActions (.network callbacks)) next.functionPoll := by
  cases runs with
  | move place moves =>
      cases moves with
      | drained none =>
          rw [pollActions, place, none]
          refine .single trivial ?_
          simp [pollSystem, FunctionPoll.pollFunctionCalls, functionPoll, moveTo, place, none,
            NetworkThread.pollPlace]
      | @session counter enough =>
          have single : manager.pollActions (.network callbacks) = [.run] := by
            rw [pollActions, place]
            cases manager.functionCalls with
            | nil => rfl
            | cons item rest => exact if_neg (Nat.not_lt.mpr enough)
          rw [single]
          refine .single trivial ?_
          simp [pollSystem, FunctionPoll.pollFunctionCalls, functionPoll, moveTo, place,
            NetworkThread.pollPlace, Nat.not_lt.mpr enough]
      | _ => rw [place] at going; cases going
  | tick place =>
      rcases place with ⟨place, _⟩ | ⟨place, _⟩
      · rw [place] at going
        cases going
      · rw [place] at going
        cases going
  | @pop counter item rest place queue more =>
      rw [pollActions, place, queue]
      dsimp only
      rw [if_pos more]
      have tests : (pollSystem (QueuedFunction Core Value)).step manager.functionPoll .run =
          some { manager.functionPoll with place := .pop counter } := by
        simp [pollSystem, FunctionPoll.pollFunctionCalls, functionPoll, place, queue, more,
          NetworkThread.pollPlace]
      refine (TransitionSystem.StepsWhere.single trivial tests).tail trivial ?_
      simp [pollSystem, FunctionPoll.pollFunctionCalls, functionPoll, queue,
        ThreadSaveQueue.tryPop, NetworkThread.pollPlace]
  | @call counter item core changed value place =>
      have single : manager.pollActions (.network callbacks) = [.callReturn] := by
        rw [pollActions, place]
      rw [single]
      refine .single trivial ?_
      simp [pollSystem, FunctionPoll.called, functionPoll, place, NetworkThread.pollPlace]
  | callbacks place | usedMap place | clearBusy place =>
      rw [place] at going
      cases going

/-- No statement of `init` or `kill` comes between. -/
theorem functionPoll_of_controlStep {callbackSet : Bool} (cycle : LifeCycle manager)
    (going : manager.thread.pollPlace.isOver = false)
    (steps : ControlStep manager callbackSet next) : next.functionPoll = manager.functionPoll := by
  have present : manager.control.hasNoThread = false := by
    by_contra absent
    rw [cycle.noThread (by simpa using absent)] at going
    cases going
  cases steps with
  | notifyAll => simp only [functionPoll, isOver_wakeUp going]
  | startThread place | clearFunctionCalls place =>
      rw [place] at present
      cases present
  | join place ended =>
      cases thread : manager.thread with
      | none | exited =>
          rw [thread] at going
          cases going
      | _ =>
          rw [thread] at ended
          cases ended
  | _ => rfl

theorem functionPoll_notified {caller : Nat} {place : Caller Core Value}
    (going : manager.thread.pollPlace.isOver = false) :
    (manager.notified caller place).functionPoll = manager.functionPoll := by
  simp only [functionPoll, notified, setCaller, isOver_wakeUp going]

/-- A caller pushes, or does nothing to the call. -/
theorem poll_of_callerStep [INetworkManagerCore Core] {caller : Nat}
    (going : manager.thread.pollPlace.isOver = false) (steps : CallerStep manager caller next) :
    (pollSystem (QueuedFunction Core Value)).Steps manager.functionPoll
      (manager.pollActions (.caller caller)) next.functionPoll := by
  cases steps with
  | push place | pushServed place =>
      rw [pollActions, place]
      exact .single trivial rfl
  | notify place | notifyServed place =>
      rw [pollActions, place, functionPoll_notified going]
      exact .refl
  | get place =>
      rw [pollActions, place]
      exact .refl

theorem reachable_of_session [INetworkManagerCore Core]
    (reaches : (sessionSystem Core Interface Value).Reachable manager) :
    (networkManagerSystem Core Interface Value).Reachable manager := by
  refine reaches.invariant (networkManagerSystem Core Interface Value).Reachable ?_ ?_
  · rintro manager ⟨reached, _⟩
    exact reached
  · intro before action after _ reached _ steps
    dsimp only [sessionSystem] at steps
    split at steps
    · cases steps
    · exact reached.step trivial steps

/-- Every session of the network thread is a call of `pollFunctionCalls`. -/
def sessionMapping [INetworkManagerCore Core] :
    TransitionSystem.RefinementMapping (sessionSystem Core Interface Value)
      (pollSystem (QueuedFunction Core Value)) (fun _ _ => True) where
  abstract := functionPoll
  events := pollActions
  initial := by
    rintro manager ⟨_, thread⟩
    simp [pollSystem, functionPoll, thread, NetworkThread.pollPlace]
  simulates := by
    intro manager action next reaches _ steps
    have cycle := lifeCycle_of_reachable (reachable_of_session reaches)
    dsimp only [sessionSystem] at steps
    split at steps
    · cases steps
    next notOver =>
      have going : manager.thread.pollPlace.isOver = false := by simpa using notOver
      cases managerStep_of_step steps with
      | network runs => exact poll_of_runStep going runs
      | wake parked =>
          rw [parked] at going
          cases going
      | control steps =>
          rw [functionPoll_of_controlStep cycle going steps]
          exact .refl
      | caller steps => exact poll_of_callerStep going steps
      | _ => exact .refl

/-- So a session executes at most 20 of the manager's functions, the first ones, and leaves
the others in order. -/
theorem session_executes [INetworkManagerCore Core] {first : NetworkManager Core Interface Value}
    {actions : List (NetworkManagerAction Core Interface Value)}
    (starts : (sessionSystem Core Interface Value).Initial first)
    (steps : (sessionSystem Core Interface Value).Steps first actions manager) :
    let trace := (pollSystem _).trace { functionQueue := first.functionCalls }
      (sessionMapping.history first actions)
    (FunctionPoll.executed trace).length ≤ maxFunctionsPerSession ∧
      QueueAccount (FunctionPoll.executed trace) manager.functionCalls
        (first.functionCalls ++ FunctionPoll.pushed (sessionMapping.history first actions)) := by
  have polls := sessionMapping.refines starts steps
  have begins : first.functionPoll = { functionQueue := first.functionCalls } := by
    rw [functionPoll, starts.2]
    rfl
  change (pollSystem _).Steps first.functionPoll _ manager.functionPoll at polls
  rw [begins] at polls
  exact ⟨(FunctionPoll.counts_of_steps polls).le, FunctionPoll.account_of_steps polls⟩

end NetworkManager

end Sessions

end HttpServer
