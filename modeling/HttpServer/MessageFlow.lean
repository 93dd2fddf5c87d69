import HttpServer.ListenerTeardown
import HttpServer.ManagedListener
import HttpServer.Library.Replay

/-!
# The messages of a listening session

While `pollMessages` runs, the outgoing queue is filled by one thread and emptied
by the listener's, and the received queue the other way round.  A message is in a
queue or in the hands of the listener's thread until it has been handed over, so
that what went in is always what has come out together with what is on its way.
-/

namespace HttpServer

open Listener Replay

/-- What can happen to a listener: a call on it or a step of its thread, and the
use of its queues by any other thread. -/
inductive MessageAction where
  | control (action : ControlAction)
  | pushOutgoing (message : Request)
  | tryPopReceived
  | tryPopError

def messageSystem : TransitionSystem ControlledListener MessageAction where
  Initial state := state = {}
  step state
    | .control action => controlSystem.step state action
    | .pushOutgoing message =>
        some { state with listener := IListener.pushOutgoing state.listener message }
    | .tryPopReceived =>
        some { state with listener := (IListener.tryPopReceived state.listener).2 }
    | .tryPopError =>
        some { state with listener := (IListener.tryPopError state.listener).2 }

/-- `DestroySocket` does not clear the queues, and the message pushed is shorter
than its size type allows. -/
def inSession (state : ControlledListener) : MessageAction → Bool
  | .control (.run _) => !state.listener.thread.isClearing
  | .pushOutgoing message => decide (message.message.length < 2 ^ 32)
  | _ => true

abbrev InSession (state : ControlledListener) (action : MessageAction) : Prop :=
  inSession state action = true

def nonempty (messages : List Request) : List Request :=
  messages.filter fun message => decide (message.message.length ≠ 0)

def requests (queue : ThreadSaveQueue QueuedMessage) : List Request :=
  queue.map QueuedMessage.request

/-- The message that the step pushes on the outgoing queue. -/
def pushed? : ControlledListener × MessageAction → Option Request
  | (_, .pushOutgoing message) => some message
  | _ => none

/-- The message that the step pops from the received queue. -/
def popped? : ControlledListener × MessageAction → Option Request
  | (state, .tryPopReceived) => (IListener.tryPopReceived state.listener).1
  | _ => none

/-- The message that `ReceiveMessagesOnPollGroup` returns in the step. -/
def returned? : ControlledListener × MessageAction → Option Request
  | (state, .control (.run (.message message))) =>
      match state.listener.thread with
      | .receive _ => some message
      | _ => none
  | _ => none

def AdapterCall.sent? : AdapterCall → Option Request
  | .sendMessageToConnection message => some message
  | _ => none

def AdapterCall.released? : AdapterCall → Option Request
  | .releaseMessage message => some message
  | _ => none

namespace Listener

/-- The message that the thread has taken from the outgoing queue and not yet
sent. -/
def sending (listener : Listener) : List Request :=
  match listener.thread with
  | .send message => [message.request]
  | _ => []

/-- The message that the thread has received and not yet stored. -/
def storing (listener : Listener) : List Request :=
  match listener.thread with
  | .store message => [message.request]
  | _ => []

/-- The messages on their way out, the oldest first. -/
def leaving (listener : Listener) : List Request :=
  listener.sending ++ nonempty (requests listener.core.outgoingMessages)

/-- The messages on their way in, the oldest first. -/
def entering (listener : Listener) : List Request :=
  requests listener.core.receivedMessages ++ listener.storing

end Listener

/-- What one step does to the messages. -/
structure MessageFlow (state next : ControlledListener) (action : MessageAction)
    (made : List AdapterCall) : Prop where
  calls : next.listener.calls = state.listener.calls ++ made
  outgoing : made.filterMap AdapterCall.sent? ++ next.listener.leaving =
    state.listener.leaving ++ nonempty (pushed? (state, action)).toList
  received : (popped? (state, action)).toList ++ next.listener.entering =
    state.listener.entering ++ (returned? (state, action)).toList
  released : made.filterMap AdapterCall.released? ++ next.listener.storing =
    state.listener.storing ++ (returned? (state, action)).toList

section Flow

variable {listener next : Listener}

@[simp]
theorem nonempty_append {first second : List Request} :
    nonempty (first ++ second) = nonempty first ++ nonempty second :=
  List.filter_append ..

@[simp]
theorem nonempty_nil : nonempty [] = [] := rfl

theorem nonempty_cons {message : Request} {messages : List Request} :
    nonempty (message :: messages) =
      if message.message.length = 0 then nonempty messages
      else message :: nonempty messages := by
  rw [nonempty, List.filter_cons]
  by_cases empty : message.message.length = 0
  · rw [if_pos empty, if_neg (by simpa using empty)]
    rfl
  · rw [if_neg empty, if_pos (by simpa using empty)]
    rfl

@[simp]
theorem requests_cons {message : QueuedMessage} {queue : ThreadSaveQueue QueuedMessage} :
    requests (message :: queue) = message.request :: requests queue := rfl

@[simp]
theorem requests_push {queue : ThreadSaveQueue QueuedMessage} {message : QueuedMessage} :
    requests (ThreadSaveQueue.push queue message) = requests queue ++ [message.request] := by
  simp [requests, ThreadSaveQueue.push]

/-- A statement of the thread moves a message from the outgoing queue to the
connection, or from the poll group to the received queue. -/
theorem run_flow {received : ReceivedMessages} (steps : listener.run received = some next)
    (keeps : listener.thread.isClearing = false)
    (short : ∀ message ∈ listener.sending, message.message.length < 2 ^ 32)
    (initialized initializedNext : Bool) :
    ∃ made, MessageFlow ⟨listener, initialized⟩ ⟨next, initializedNext⟩
      (.control (.run received)) made := by
  cases runStep_of_run steps with
  | clearOutgoing place | clearReceived place | clearErrors place =>
      rw [place] at keeps
      cases keeps
  | skip place queue empty =>
      refine ⟨[], by simp [goTo], ?_, ?_, ?_⟩
      · simp [leaving, sending, place, queue, goTo, nonempty_cons, empty, pushed?]
      · cases received <;> simp [entering, storing, place, goTo, popped?, returned?]
      · cases received <;> simp [storing, place, goTo, returned?]
  | take place queue filled =>
      refine ⟨[], by simp [goTo], ?_, ?_, ?_⟩
      · simp [leaving, sending, place, queue, goTo, nonempty_cons, filled, pushed?]
      · cases received <;> simp [entering, storing, place, goTo, popped?, returned?]
      · cases received <;> simp [storing, place, goTo, returned?]
  | @send message place =>
      have whole : message.request.sized = message.request :=
        Request.sized_eq (short _ (by simp [sending, place]))
      refine ⟨[_], rfl, ?_, ?_, ?_⟩
      · simp [leaving, sending, place, goTo, record, pushed?, AdapterCall.sent?, whole]
      · cases received <;> simp [entering, storing, place, goTo, record, popped?, returned?]
      · cases received <;> simp [storing, place, goTo, record, returned?, AdapterCall.released?]
  | receive place arrived =>
      refine ⟨[_], rfl, ?_, ?_, ?_⟩
      · simp [leaving, sending, place, goTo, record, pushed?, AdapterCall.sent?]
      · simp [entering, storing, place, arrived, goTo, record, popped?, returned?]
      · simp [storing, place, arrived, goTo, record, returned?, AdapterCall.released?]
  | store place =>
      refine ⟨[_], rfl, ?_, ?_, ?_⟩
      · simp [leaving, sending, place, goTo, record, pushed?, AdapterCall.sent?]
      · cases received <;> simp [entering, storing, place, goTo, popped?, returned?]
      · cases received <;> simp [storing, place, goTo, record, returned?, AdapterCall.released?]
  | receiveNone place quiet | receiveNegative place quiet =>
      refine ⟨[_], rfl, ?_, ?_, ?_⟩
      · simp [leaving, sending, place, goTo, record, pushed?, AdapterCall.sent?]
      · simp [entering, storing, place, quiet, goTo, record, popped?, returned?]
      · simp [storing, place, quiet, goTo, record, returned?, AdapterCall.released?]
  | closeSocket place | destroyPollGroup place =>
      refine ⟨[_], rfl, ?_, ?_, ?_⟩
      · simp [leaving, sending, place, goTo, record, pushed?, AdapterCall.sent?]
      · cases received <;> simp [entering, storing, place, goTo, record, popped?, returned?]
      · cases received <;> simp [storing, place, goTo, record, returned?, AdapterCall.released?]
  | _ =>
      refine ⟨[], by simp [goTo], ?_, ?_, ?_⟩
      · simp [leaving, sending, goTo, pushed?, *]
      · cases received <;> simp [entering, storing, goTo, popped?, returned?, *]
      · cases received <;> simp [storing, goTo, returned?, *]

/-- What a call on the listener, a wake-up or the beginning of a call leaves as it
is. -/
structure SameMessages (listener next : Listener) (made : List AdapterCall) : Prop where
  calls : next.calls = listener.calls ++ made
  outgoing : next.core.outgoingMessages = listener.core.outgoingMessages
  received : next.core.receivedMessages = listener.core.receivedMessages
  thread : next.thread = listener.thread ∨
    listener.thread = .parked ∧ next.thread = .notified
  sends : made.filterMap AdapterCall.sent? = []
  releases : made.filterMap AdapterCall.released? = []

namespace SameMessages

theorem callStep {handle : UInt32} (steps : listener.callStep handle = some next) :
    ∃ made, SameMessages listener next made := by
  cases callStep_of_callStep steps with
  | startSet | stopSet | dtorNotify =>
      unfold Listener.notify
      split
      next parked =>
        refine ⟨[], by simp [goTo, callGoTo], rfl, rfl, Or.inr ⟨?_, rfl⟩, rfl, rfl⟩
        exact ListenThread.isParked_eq_true.mp parked
      next => exact ⟨[], by simp [callGoTo], rfl, rfl, Or.inl rfl, rfl, rfl⟩
  | socketFailed | createSocket | pollGroupFailed | createPollGroup | closeSocket =>
      exact ⟨[_], rfl, rfl, rfl, Or.inl rfl, rfl, rfl⟩
  | _ => exact ⟨[], by simp [callGoTo], rfl, rfl, Or.inl rfl, rfl, rfl⟩

theorem wake (wakes : listener.wake = some next) : SameMessages listener next [] := by
  obtain ⟨parked, rfl⟩ := wake_eq_some.mp wakes
  exact ⟨by simp [goTo], rfl, rfl, Or.inr ⟨parked, rfl⟩, rfl, rfl⟩

variable {made : List AdapterCall} (same : SameMessages listener next made)
include same

theorem sending : next.sending = listener.sending := by
  rcases same.thread with kept | ⟨parked, notified⟩
  · simp [Listener.sending, kept]
  · simp [Listener.sending, parked, notified]

theorem storing : next.storing = listener.storing := by
  rcases same.thread with kept | ⟨parked, notified⟩
  · simp [Listener.storing, kept]
  · simp [Listener.storing, parked, notified]

end SameMessages

end Flow

section Steps

variable {state next : ControlledListener}

/-- Every control action but a step of the thread leaves the messages alone. -/
theorem sameMessages_of_control {action : ControlAction}
    (steps : controlSystem.step state action = some next)
    (notRun : ∀ received, action ≠ .run received) :
    ∃ made, SameMessages state.listener next.listener made := by
  have begins {call : ListenerCall} (begun : state.begin call = some next) :
      ∃ made, SameMessages state.listener next.listener made := by
    unfold ControlledListener.begin at begun
    split at begun
    · obtain rfl := Option.some.inj begun
      exact ⟨[], by simp [callGoTo], rfl, rfl, Or.inl rfl, rfl, rfl⟩
    · cases begun
  cases action with
  | initSocket | startListening | stopListening | destroy => exact begins steps
  | callStep handle =>
      obtain ⟨listener, calls, rfl⟩ := Option.map_eq_some_iff.mp steps
      exact SameMessages.callStep calls
  | run received => exact absurd rfl (notRun received)
  | wake =>
      obtain ⟨listener, wakes, rfl⟩ := Option.map_eq_some_iff.mp steps
      exact ⟨[], .wake wakes⟩

theorem SameMessages.flow {action : ControlAction} {made : List AdapterCall}
    (same : SameMessages state.listener next.listener made)
    (notRun : ∀ received, action ≠ .run received) :
    MessageFlow state next (.control action) made := by
  have returnsNone : returned? (state, .control action) = none := by
    cases action with
    | run received => exact absurd rfl (notRun received)
    | _ => rfl
  refine ⟨same.calls, ?_, ?_, ?_⟩
  · simp [leaving, same.sends, same.sending, same.outgoing, pushed?]
  · simp [entering, same.storing, same.received, popped?, returnsNone]
  · simp [same.releases, same.storing, returnsNone]

/-- What a step does to the messages on their way. -/
theorem messageFlow_of_step {action : MessageAction}
    (steps : messageSystem.step state action = some next) (session : InSession state action)
    (short : ∀ message ∈ state.listener.leaving, message.message.length < 2 ^ 32) :
    ∃ made, MessageFlow state next action made := by
  cases action with
  | control action =>
      by_cases runs : ∃ received, action = .run received
      · obtain ⟨received, rfl⟩ := runs
        obtain ⟨listener, moves, rfl⟩ := Option.map_eq_some_iff.mp steps
        refine run_flow moves (by simpa [InSession, inSession] using session) ?_ _ _
        exact fun message member => short message (List.mem_append_left _ member)
      · have notRun (received : ReceivedMessages) : action ≠ .run received :=
          fun run => runs ⟨received, run⟩
        obtain ⟨made, same⟩ := sameMessages_of_control steps notRun
        exact ⟨made, same.flow notRun⟩
  | pushOutgoing message =>
      obtain rfl := Option.some.inj steps
      refine ⟨[], by simp [IListener.pushOutgoing], ?_, ?_, ?_⟩
      · simp [leaving, sending, IListener.pushOutgoing, pushed?]
      · simp [entering, storing, IListener.pushOutgoing, popped?, returned?]
      · simp [storing, IListener.pushOutgoing, returned?]
  | tryPopReceived =>
      obtain rfl := Option.some.inj steps
      refine ⟨[], by simp [IListener.tryPopReceived], ?_, ?_, ?_⟩
      · simp [leaving, sending, IListener.tryPopReceived, pushed?]
      · cases queue : state.listener.core.receivedMessages <;>
          simp [entering, storing, IListener.tryPopReceived, popped?, returned?, queue,
            ThreadSaveQueue.tryPop, requests]
      · simp [storing, IListener.tryPopReceived, returned?]
  | tryPopError =>
      obtain rfl := Option.some.inj steps
      refine ⟨[], by simp [IListener.tryPopError], ?_, ?_, ?_⟩
      · simp [leaving, sending, IListener.tryPopError, pushed?]
      · simp [entering, storing, IListener.tryPopError, popped?, returned?]
      · simp [storing, IListener.tryPopError, returned?]

end Steps

abbrev MessageTrace := List (ControlledListener × MessageAction)

/-- What has gone in is what has come out together with what is on its way. -/
structure MessageAccount (trace : MessageTrace) (made : List AdapterCall)
    (state : ControlledListener) : Prop where
  outgoing : made.filterMap AdapterCall.sent? ++ state.listener.leaving =
    nonempty (trace.filterMap pushed?)
  received : trace.filterMap popped? ++ state.listener.entering = trace.filterMap returned?
  released : made.filterMap AdapterCall.released? ++ state.listener.storing =
    trace.filterMap returned?
  short : ∀ message ∈ state.listener.leaving, message.message.length < 2 ^ 32

def MessageAction.isRun : MessageAction → Bool
  | .control (.run _) => true
  | _ => false

/-- The steps of the listener's thread. -/
def threadSteps (trace : MessageTrace) : MessageTrace :=
  trace.filter fun step => step.2.isRun

/-- The thread has just found the outgoing queue empty. -/
def FoundQueueEmpty (trace : MessageTrace) : Prop :=
  ∃ before poll received,
    threadSteps trace = before ++ [(poll, .control (.run received))] ∧
    poll.listener.thread = .pollOut ∧ poll.listener.core.outgoingMessages = []

/-- The thread has just found the outgoing queue empty and then no message to
receive. -/
def FoundNothing (trace : MessageTrace) : Prop :=
  ∃ before poll received receive,
    threadSteps trace =
      before ++ [(poll, .control (.run received)), (receive, .control (.run .none))] ∧
    poll.listener.thread = .pollOut ∧ poll.listener.core.outgoingMessages = [] ∧
    receive.listener.thread = .receive false

/-- What the thread has found when it knows of no message polled. -/
structure PollRecord (trace : MessageTrace) (state : ControlledListener) : Prop where
  queue : state.listener.thread = .receive false → FoundQueueEmpty trace
  nothing : state.listener.thread = .pollTest false → FoundNothing trace

section Run

variable {listener next : Listener} {received : ReceivedMessages}
  (steps : listener.run received = some next)
include steps

theorem run_thread_eq_receive_false (found : next.thread = .receive false) :
    listener.thread = .pollOut ∧ listener.core.outgoingMessages = [] := by
  cases runStep_of_run steps with
  | nothing place queue => exact ⟨place, queue⟩
  | _ => simp_all [goTo, Listener.record]

theorem run_thread_eq_pollTest_false (found : next.thread = .pollTest false) :
    listener.thread = .receive false ∧ received = .none := by
  cases runStep_of_run steps with
  | receiveNone place quiet =>
      obtain rfl : _ = false := ListenThread.pollTest.inj found
      exact ⟨place, quiet⟩
  | _ => simp_all [goTo, Listener.record]

end Run

section Session

variable {trace : MessageTrace} {made further : List AdapterCall}
  {state next : ControlledListener} {action : MessageAction}

theorem MessageAccount.step (account : MessageAccount trace made state)
    (session : InSession state action) (flow : MessageFlow state next action further) :
    MessageAccount (trace ++ [(state, action)]) (made ++ further) next where
  outgoing := by
    rw [filterMap_concat, List.filterMap_append, nonempty_append]
    exact account_concat account.outgoing flow.outgoing
  received := by
    rw [filterMap_concat, filterMap_concat]
    exact account_concat account.received flow.received
  released := by
    rw [filterMap_concat, List.filterMap_append]
    exact account_concat account.released flow.released
  short message member := by
    have whence : message ∈ state.listener.leaving ++
        nonempty (pushed? (state, action)).toList :=
      flow.outgoing ▸ List.mem_append_right _ member
    rcases List.mem_append.mp whence with before | pushed
    · exact account.short message before
    · have given : pushed? (state, action) = some message := by
        simpa using List.mem_of_mem_filter pushed
      cases action with
      | pushOutgoing =>
          obtain rfl := Option.some.inj given
          simpa [InSession, inSession] using session
      | _ => cases given

/-- Only the listener's own thread moves it, except that it may be woken. -/
theorem thread_of_step (steps : messageSystem.step state action = some next)
    (notRun : action.isRun = false) :
    next.listener.thread = state.listener.thread ∨
      state.listener.thread = .parked ∧ next.listener.thread = .notified := by
  cases action with
  | control action =>
      obtain ⟨_, same⟩ := sameMessages_of_control steps fun received run => by
        rw [run] at notRun
        cases notRun
      exact same.thread
  | pushOutgoing | tryPopReceived | tryPopError =>
      obtain rfl := Option.some.inj steps
      exact Or.inl rfl

theorem threadSteps_concat :
    threadSteps (trace ++ [(state, action)]) =
      threadSteps trace ++ if action.isRun then [(state, action)] else [] := by
  cases runs : action.isRun <;> simp [threadSteps, runs]

theorem PollRecord.step (record : PollRecord trace state)
    (steps : messageSystem.step state action = some next) :
    PollRecord (trace ++ [(state, action)]) next := by
  cases runs : action.isRun with
  | true =>
      cases action with
      | control action =>
          cases action with
          | run received =>
              obtain ⟨listener, moves, rfl⟩ := Option.map_eq_some_iff.mp steps
              constructor
              · intro found
                obtain ⟨place, queue⟩ := run_thread_eq_receive_false moves found
                exact ⟨threadSteps trace, state, received, threadSteps_concat, place, queue⟩
              · intro found
                obtain ⟨place, rfl⟩ := run_thread_eq_pollTest_false moves found
                obtain ⟨before, poll, taken, earlier, pollPlace, queue⟩ := record.queue place
                refine ⟨before, poll, taken, state, ?_, pollPlace, queue, place⟩
                rw [threadSteps_concat, earlier, List.append_assoc]
                rfl
          | _ => cases runs
      | _ => cases runs
  | false =>
      have kept := thread_of_step steps runs
      have sameSteps : threadSteps (trace ++ [(state, action)]) = threadSteps trace := by
        simp [threadSteps_concat, runs]
      constructor
      · intro found
        rcases kept with same | ⟨_, notified⟩
        · obtain ⟨before, poll, received, earlier, polled⟩ := record.queue (same ▸ found)
          exact ⟨before, poll, received, sameSteps.trans earlier, polled⟩
        · rw [notified] at found
          cases found
      · intro found
        rcases kept with same | ⟨_, notified⟩
        · obtain ⟨before, poll, received, receive, earlier, polled⟩ :=
            record.nothing (same ▸ found)
          exact ⟨before, poll, received, receive, sameSteps.trans earlier, polled⟩
        · rw [notified] at found
          cases found

end Session

namespace ListenThread

/-- The thread is inside `pollOnce`. -/
def isPollingOnce : ListenThread → Bool
  | pollOut | send _ | served _ | receive _ | store _ | storeError => true
  | _ => false

/-- The thread is inside `pollMessages`. -/
def isPollingMessages : ListenThread → Bool
  | pollTest _ | stopListening => true
  | place => place.isPollingOnce

end ListenThread

/-- The account of every run of a session, from its beginning. -/
theorem steps_messageAccount {first last : ControlledListener}
    {actions : List MessageAction}
    (outgoing : first.listener.core.outgoingMessages = [])
    (received : first.listener.core.receivedMessages = [])
    (outside : first.listener.thread.isPollingMessages = false)
    (steps : messageSystem.StepsWhere InSession first actions last) :
    (∃ made, last.listener.calls = first.listener.calls ++ made ∧
      MessageAccount (messageSystem.trace first actions) made last) ∧
      PollRecord (messageSystem.trace first actions) last := by
  refine steps.invariant (fun actions last => (∃ made,
    last.listener.calls = first.listener.calls ++ made ∧
      MessageAccount (messageSystem.trace first actions) made last) ∧
      PollRecord (messageSystem.trace first actions) last) ?_ ?_
  · have idle : first.listener.sending = [] ∧ first.listener.storing = [] := by
      unfold sending storing
      cases place : first.listener.thread <;>
        simp_all [ListenThread.isPollingMessages, ListenThread.isPollingOnce]
    have none : first.listener.leaving = [] := by
      simp [leaving, idle.1, outgoing, requests]
    refine ⟨⟨[], by simp, ?_, ?_, ?_, ?_⟩, ?_, ?_⟩
    · simp [none, TransitionSystem.trace]
    · simp [entering, idle.2, received, requests, TransitionSystem.trace]
    · simp [idle.2, TransitionSystem.trace]
    · simp [none]
    · intro found
      rw [found] at outside
      cases outside
    · intro found
      rw [found] at outside
      cases outside
  · rintro before state action next run ⟨⟨made, calls, account⟩, record⟩ session moves
    obtain ⟨further, flow⟩ := messageFlow_of_step moves session account.short
    rw [run.trace_concat]
    refine ⟨⟨made ++ further, ?_, account.step session flow⟩, record.step moves⟩
    rw [flow.calls, calls, List.append_assoc]

/-- In every session the messages handed to `SendMessageToConnection`, the one about
to be handed over and the non-empty ones still queued are the non-empty messages
pushed, in order.  The requests popped, those still in the received queue and the one
about to be stored are the messages that `ReceiveMessagesOnPollGroup` has returned,
in order, and each that is stored has been released once.  Outside of `pollOnce`
nothing is about to be handed over or stored.  When `pollMessages` leaves its loop
with both flags set, its last poll has found nothing. -/
theorem messages_of_session (first last : ControlledListener) (actions : List MessageAction)
    (outgoing : first.listener.core.outgoingMessages = [])
    (received : first.listener.core.receivedMessages = [])
    (outside : first.listener.thread.isPollingMessages = false)
    (steps : messageSystem.StepsWhere InSession first actions last) :
    (∃ made, last.listener.calls = first.listener.calls ++ made ∧
      made.filterMap AdapterCall.sent? ++ last.listener.sending ++
          nonempty (requests last.listener.core.outgoingMessages) =
        nonempty ((messageSystem.trace first actions).filterMap pushed?) ∧
      (messageSystem.trace first actions).filterMap popped? ++
          requests last.listener.core.receivedMessages ++ last.listener.storing =
        (messageSystem.trace first actions).filterMap returned? ∧
      made.filterMap AdapterCall.released? ++ last.listener.storing =
        (messageSystem.trace first actions).filterMap returned?) ∧
      (last.listener.thread.isPollingOnce = false →
        last.listener.sending = [] ∧ last.listener.storing = []) ∧
      ∀ pollingSuccesfull received next,
        last.listener.thread = .pollTest pollingSuccesfull →
        last.listener.listening = true → last.listener.running = true →
        last.listener.run received = some next → next.thread = .pollLoop →
        FoundNothing (messageSystem.trace first actions) := by
  obtain ⟨⟨made, calls, account⟩, record⟩ :=
    steps_messageAccount outgoing received outside steps
  refine ⟨⟨made, calls, ?_, ?_, account.released⟩, ?_, ?_⟩
  · rw [List.append_assoc]
    exact account.outgoing
  · rw [List.append_assoc]
    exact account.received
  · intro apart
    unfold sending storing
    cases place : last.listener.thread <;> simp_all [ListenThread.isPollingOnce]
  · intro pollingSuccesfull received next place listening running moves leaves
    cases runStep_of_run moves with
    | pause place' ends =>
        obtain rfl := ListenThread.pollTest.inj (place.symm.trans place')
        refine record.nothing ?_
        rcases ends with rfl | quiet | stopped
        · exact place
        · rw [listening] at quiet
          cases quiet
        · rw [running] at stopped
          cases stopped
    | _ => simp_all [goTo]

open MessageAction ControlAction in
/-- A listener is started.  Two messages are pushed, the first of them empty; the
second is sent, and a message is received and popped. -/
def exchange : List MessageAction :=
  [control (initSocket 80), control (callStep 0), control (callStep 0),
    control (callStep 5), control (callStep 6), control (callStep 0),
    control startListening, control (callStep 0), control (callStep 0)] ++
  List.replicate 5 (control (run .none)) ++
  [pushOutgoing ⟨7, []⟩, pushOutgoing ⟨7, [72, 0, 73]⟩] ++
  List.replicate 8 (control (run .none)) ++
  [control (run (.message ⟨8, [0, 1]⟩)), control (run .none), tryPopReceived]

theorem messages_of_session_exchange :
    ∃ last made, messageSystem.StepsWhere InSession {} exchange last ∧
      last.listener.calls = made ∧
      made.filterMap AdapterCall.sent? = [⟨7, [72, 0, 73]⟩] ∧
      made.filterMap AdapterCall.released? = [⟨8, [0, 1]⟩] ∧
      (messageSystem.trace {} exchange).filterMap popped? = [⟨8, [0, 1]⟩] := by
  have steps : messageSystem.StepsWhere InSession {} exchange _ :=
    TransitionSystem.runWhere_eq_some_iff.mp rfl
  obtain ⟨⟨made, calls, sent, popped, released⟩, _⟩ :=
    messages_of_session {} _ exchange rfl rfl rfl steps
  have sent' : made.filterMap AdapterCall.sent? ++ [] ++ [] = [⟨7, [72, 0, 73]⟩] := sent
  have popped' : (messageSystem.trace {} exchange).filterMap popped? ++ [] ++ [] =
    [⟨8, [0, 1]⟩] := popped
  have released' : made.filterMap AdapterCall.released? ++ [] = [⟨8, [0, 1]⟩] := released
  exact ⟨_, made, steps, calls, by simpa using sent', by simpa using released',
    by simpa using popped'⟩

end HttpServer
