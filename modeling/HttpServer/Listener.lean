import HttpServer.Basic

/-!
# A listener and its thread

`Listener` owns a `ListenerCore` and a thread that waits until the listener is
told to listen, polls until it is told to stop, and tears the socket down.  The
calls on the listener run on another thread.  Both threads are given statement
by statement: where a thread is says which statement it makes next.

A critical section of a call is one step, taken while the listener's thread does
not own `m_ListenMutex`.  A test of both flags, or of both handles, is one step
as well: `m_running` only goes from true to false, and while a call reads the
handles the listener's thread only resets them, so that the two reads give what
one of them would give together with the other.
-/

namespace HttpServer

/-- A queued message with the number of the listening session in which it was
received or accepted, and a mark that the manager gives to a response it
accepts. -/
structure QueuedMessage where
  request : Request
  session : Nat
  mark : Nat := 0
deriving DecidableEq

structure ListenerCore where
  socket : HSteamListenSocket := hSteamListenSocketInvalid
  pollGroup : HSteamNetPollGroup := hSteamNetPollGroupInvalid
  receivedMessages : ThreadSaveQueue QueuedMessage := []
  outgoingMessages : ThreadSaveQueue QueuedMessage := []
  errorQueue : ThreadSaveQueue ErrorValue := []

/-- Where the listener's thread is.  `waitTest` is the predicate of `wait` and
`park` the call of the plain `wait` under it; the thread owns the mutex from
`loopTest` to `park` and at `unlock`.  `pollLoop` and `pollTest` are the heads of
the loops in `run` and `pollMessages`, the places from `pollOut` to `storeError`
are `pollOnce`, and those from `closeSocket` to `clearErrors` are
`DestroySocket`.  A received message is released in the step that stores it, for
which it makes no difference to any other thread. -/
inductive ListenThread where
  | lock
  | loopTest
  | waitTest
  | park
  | parked
  | notified
  | unlock
  | breakTest
  | pollLoop
  | pollTest (pollingSuccesfull : Bool)
  | pollOut
  | send (message : QueuedMessage)
  | served (message : QueuedMessage)
  | receive (polledOutMsg : Bool)
  | store (message : QueuedMessage)
  | storeError
  | stopListening
  | closeSocket
  | resetSocket
  | destroyPollGroup
  | resetPollGroup
  | clearOutgoing
  | clearReceived
  | clearErrors
  | exited
deriving DecidableEq

/-- Where the thread that uses the listener is in a call on it, or what its last
call returned. -/
inductive ListenerCall where
  | idle
  | initTest (port : UInt16)
  | initGuard (port : UInt16)
  | createSocket (port : UInt16)
  | createPollGroup
  | closeSocket
  | resetSocket
  | initReturn
  | initReturned (result : Result SocketHandlers)
  | startTest
  | startSet
  | startReturned (result : Result Unit)
  | stopSet
  | stopReturned
  | dtorFlag
  | dtorNotify
  | dtorJoin
  | destroyed

/-- A listener with its thread, the call on it and the adapter calls of both.
`session` counts the listening sessions begun on it and `serving` is the one the
thread last left its wait for. -/
structure Listener where
  listening : Bool := false
  running : Bool := true
  core : ListenerCore := {}
  thread : ListenThread := .lock
  call : ListenerCall := .idle
  calls : List AdapterCall := []
  session : Nat := 0
  serving : Nat := 0
  mark : Nat := 0

/-- What `ReceiveMessagesOnPollGroup` returns when it is asked for one message. -/
inductive ReceivedMessages where
  | none
  | message (message : Request)
  | negative

namespace ListenThread

def ownsMutex : ListenThread → Bool
  | loopTest | waitTest | park | unlock => true
  | _ => false

def isParked : ListenThread → Bool
  | parked => true
  | _ => false

/-- The thread has left its wait and has not yet given up both handles. -/
def isCommitted : ListenThread → Bool
  | unlock | breakTest | pollLoop | pollTest _ | pollOut | send _ | served _
  | receive _ | store _ | storeError | stopListening | closeSocket | resetSocket
  | destroyPollGroup | resetPollGroup => true
  | _ => false

/-- The thread has passed its test of `m_running` and will tear the socket
down. -/
def isServing : ListenThread → Bool
  | unlock | breakTest => false
  | place => place.isCommitted

/-- The thread clears the queues, the handles being reset. -/
def isClearing : ListenThread → Bool
  | clearOutgoing | clearReceived | clearErrors => true
  | _ => false

theorem isParked_eq_true {place : ListenThread} : place.isParked = true ↔ place = .parked := by
  cases place <;> simp [isParked]

theorem isCommitted_of_isServing {place : ListenThread}
    (serves : place.isServing = true) : place.isCommitted = true := by
  cases place <;> first | rfl | cases serves

end ListenThread

namespace ListenerCall

/-- No call is being made, and the listener still exists. -/
def isReady : ListenerCall → Bool
  | idle | initReturned _ | startReturned _ | stopReturned => true
  | _ => false

/-- `initSocket` has found both handles invalid and has not returned. -/
def isCreating : ListenerCall → Bool
  | createSocket _ | createPollGroup | closeSocket | resetSocket | initReturn => true
  | _ => false

/-- `initSocket` has found the listener not listening and has not returned. -/
def isInitializing : ListenerCall → Bool
  | initGuard _ => true
  | call => call.isCreating

def isResetting : ListenerCall → Bool
  | resetSocket => true
  | _ => false

def isDestroyed : ListenerCall → Bool
  | destroyed => true
  | _ => false

/-- The destructor has set `m_running` to false. -/
def isEnding : ListenerCall → Bool
  | dtorNotify | dtorJoin | destroyed => true
  | _ => false

theorem isInitializing_of_isCreating {call : ListenerCall}
    (creating : call.isCreating = true) : call.isInitializing = true := by
  cases call <;> first | rfl | cases creating

theorem isDestroyed_eq_false_of_isEnding_eq_false {call : ListenerCall}
    (notEnding : call.isEnding = false) : call.isDestroyed = false := by
  cases call <;> first | rfl | cases notEnding

theorem isCreating_of_isResetting {call : ListenerCall}
    (resetting : call.isResetting = true) : call.isCreating = true := by
  cases call <;> first | rfl | cases resetting

theorem isEnding_eq_false_of_isInitializing {call : ListenerCall}
    (initializing : call.isInitializing = true) : call.isEnding = false := by
  cases call <;> first | rfl | cases initializing

end ListenerCall

namespace ListenerCore

/-- The test at the head of `initSocket`. -/
def isInitialized (core : ListenerCore) : Bool :=
  core.socket ≠ hSteamListenSocketInvalid ∨ core.pollGroup ≠ hSteamNetPollGroupInvalid

@[simp]
theorem isInitialized_eq_false {core : ListenerCore} :
    core.isInitialized = false ↔ core.socket = hSteamListenSocketInvalid ∧
      core.pollGroup = hSteamNetPollGroupInvalid := by
  simp [isInitialized]

/-- Both handles are in use. -/
def IsOpen (core : ListenerCore) : Prop :=
  core.socket ≠ hSteamListenSocketInvalid ∧ core.pollGroup ≠ hSteamNetPollGroupInvalid

end ListenerCore

namespace Listener

variable {listener next : Listener}

def goTo (listener : Listener) (place : ListenThread) : Listener :=
  { listener with thread := place }

def callGoTo (listener : Listener) (place : ListenerCall) : Listener :=
  { listener with call := place }

def record (listener : Listener) (call : AdapterCall) : Listener :=
  { listener with calls := listener.calls ++ [call] }

/-- `m_ListenCV.notify_one`: the listener's thread is the only one that waits. -/
def notify (listener : Listener) : Listener :=
  if listener.thread.isParked then listener.goTo .notified else listener

@[simp]
theorem notify_call : listener.notify.call = listener.call := by
  unfold notify
  split <;> rfl

@[simp]
theorem notify_core : listener.notify.core = listener.core := by
  unfold notify
  split <;> rfl

theorem notify_of_parked (parked : listener.thread = .parked) :
    listener.notify = listener.goTo .notified :=
  if_pos (ListenThread.isParked_eq_true.mpr parked)

theorem notify_listening (listening : Bool) :
    { listener.notify with listening := listening } =
      Listener.notify { listener with listening := listening } := by
  unfold notify
  dsimp only
  split
  · rfl
  · rfl

@[simp]
theorem notify_isCommitted :
    listener.notify.thread.isCommitted = listener.thread.isCommitted := by
  unfold notify
  split
  next parked =>
    cases place : listener.thread <;> rw [place] at parked <;> first | rfl | cases parked
  next => rfl

/-- The next statement of `Listener::run`, if the thread can make it.  `received`
is what `ReceiveMessagesOnPollGroup` returns. -/
def run (listener : Listener) (received : ReceivedMessages) : Option Listener :=
  let core := listener.core
  match listener.thread with
  | .lock => some (listener.goTo .loopTest)
  | .loopTest =>
      if listener.running then some (listener.goTo .waitTest)
      else some (listener.goTo .exited)
  | .waitTest =>
      if !listener.running || listener.listening then some (listener.goTo .unlock)
      else some (listener.goTo .park)
  | .park => some (listener.goTo .parked)
  | .parked => none
  | .notified => some (listener.goTo .waitTest)
  | .unlock => some (listener.goTo .breakTest)
  | .breakTest =>
      if listener.running then
        some { listener.goTo .pollLoop with serving := listener.session }
      else some (listener.goTo .exited)
  | .pollLoop =>
      if listener.listening && listener.running then some (listener.goTo (.pollTest true))
      else some (listener.goTo .closeSocket)
  | .pollTest pollingSuccesfull =>
      if pollingSuccesfull && listener.listening && listener.running then
        some (listener.goTo .pollOut)
      else some (listener.goTo .pollLoop)
  | .pollOut =>
      match ThreadSaveQueue.tryPop core.outgoingMessages with
      | (none, _) => some (listener.goTo (.receive false))
      | (some message, rest) =>
          let listener := { listener with core := { core with outgoingMessages := rest } }
          if message.request.message.length = 0 then some (listener.goTo (.receive true))
          else some (listener.goTo (.send message))
  | .send message =>
      some ((listener.record (.sendMessageToConnection message.request.sized)).goTo
        (.served message))
  | .served _ => some (listener.goTo (.receive true))
  | .receive polledOutMsg =>
      let listener := listener.record (.receiveMessagesOnPollGroup core.pollGroup)
      match received with
      | .none => some (listener.goTo (.pollTest polledOutMsg))
      | .message message =>
          some (listener.goTo (.store { request := message, session := listener.session }))
      | .negative => some (listener.goTo .storeError)
  | .store message =>
      some { (listener.record (.releaseMessage message.request)).goTo (.pollTest true) with
        core := { core with
          receivedMessages := ThreadSaveQueue.push core.receivedMessages message } }
  | .storeError =>
      some { listener.goTo .stopListening with
        core := { core with
          errorQueue := ThreadSaveQueue.push core.errorQueue
            (makeError .ePollGroupHandlerInvalid
              "PollGroup Handler invalid on trying to recive Messages") } }
  | .stopListening => some { listener.goTo .pollLoop with listening := false }
  | .closeSocket =>
      some ((listener.record (.closeListenSocket core.socket)).goTo .resetSocket)
  | .resetSocket =>
      some { listener.goTo .destroyPollGroup with
        core := { core with socket := hSteamListenSocketInvalid } }
  | .destroyPollGroup =>
      some ((listener.record (.destroyPollGroup core.pollGroup)).goTo .resetPollGroup)
  | .resetPollGroup =>
      some { listener.goTo .clearOutgoing with
        core := { core with pollGroup := hSteamNetPollGroupInvalid } }
  | .clearOutgoing =>
      some { listener.goTo .clearReceived with
        core := { core with
          outgoingMessages := ThreadSaveQueue.clear core.outgoingMessages } }
  | .clearReceived =>
      some { listener.goTo .clearErrors with
        core := { core with
          receivedMessages := ThreadSaveQueue.clear core.receivedMessages } }
  | .clearErrors =>
      some { listener.goTo .lock with
        core := { core with errorQueue := ThreadSaveQueue.clear core.errorQueue } }
  | .exited => none

/-- A parked thread may wake without a notification. -/
def wake (listener : Listener) : Option Listener :=
  if listener.thread.isParked then some (listener.goTo .notified) else none

theorem wake_eq_some :
    listener.wake = some next ↔ listener.thread = .parked ∧ next = listener.goTo .notified := by
  rw [← ListenThread.isParked_eq_true, wake]
  split
  next parked => simp [parked, eq_comm]
  next moving => simp [moving]

/-- The next statement of the call that is being made, if it can be made.
`handle` is what the adapter returns where the statement creates a handle. -/
def callStep (listener : Listener) (handle : UInt32) : Option Listener :=
  let core := listener.core
  match listener.call with
  | .initTest port =>
      if listener.listening then
        some (listener.callGoTo (.initReturned (.error (makeError .eInvalidCall
          "Called Init Socket while listening try calling stopListening first"))))
      else some (listener.callGoTo (.initGuard port))
  | .initGuard port =>
      if core.isInitialized then
        some (listener.callGoTo (.initReturned (.error (makeError .eInvalidCall
          "A Socket is initialized try Calling DestroySocket first"))))
      else some (listener.callGoTo (.createSocket port))
  | .createSocket port =>
      let listener := { listener.record (.createListenSocketIP port handle) with
        core := { core with socket := handle } }
      if handle = hSteamListenSocketInvalid then
        some (listener.callGoTo (.initReturned (.error (makeError
          .eSocketInitializationFailed "Failed to initialize Socket"))))
      else some (listener.callGoTo .createPollGroup)
  | .createPollGroup =>
      let listener := { listener.record (.createPollGroup handle) with
        core := { core with pollGroup := handle } }
      if handle = hSteamNetPollGroupInvalid then some (listener.callGoTo .closeSocket)
      else some (listener.callGoTo .initReturn)
  | .closeSocket =>
      some ((listener.record (.closeListenSocket core.socket)).callGoTo .resetSocket)
  | .resetSocket =>
      some { listener.callGoTo (.initReturned (.error (makeError
          .ePollingGroupInitializationFailed "Failed to initialize Polling Group"))) with
        core := { core with socket := hSteamListenSocketInvalid } }
  | .initReturn =>
      some (listener.callGoTo (.initReturned (.ok ⟨core.socket, core.pollGroup⟩)))
  | .startTest =>
      if core.socket = hSteamListenSocketInvalid ∨
          core.pollGroup = hSteamNetPollGroupInvalid then
        some (listener.callGoTo (.startReturned (.error (makeError .eInvalidCall
          "StartListening called while Sockets invalid. Try calling initSocketfirst"))))
      else some (listener.callGoTo .startSet)
  | .startSet =>
      if listener.thread.ownsMutex then none
      else some { (listener.callGoTo (.startReturned (.ok ()))).notify with
        listening := true }
  | .stopSet =>
      if listener.thread.ownsMutex then none
      else some { (listener.callGoTo .stopReturned).notify with listening := false }
  | .dtorFlag => some { listener.callGoTo .dtorNotify with running := false }
  | .dtorNotify => some (listener.callGoTo .dtorJoin).notify
  | .dtorJoin =>
      if listener.thread = .exited then some (listener.callGoTo .destroyed) else none
  | .idle | .initReturned _ | .startReturned _ | .stopReturned | .destroyed => none

/-- Everything that a statement of the listener's thread can do. -/
inductive RunStep (listener : Listener) (received : ReceivedMessages) : Listener → Prop where
  | lock (place : listener.thread = .lock) : RunStep listener received (listener.goTo .loopTest)
  | enter (place : listener.thread = .loopTest) (running : listener.running = true) :
      RunStep listener received (listener.goTo .waitTest)
  | leave (place : listener.thread = .loopTest) (stopped : listener.running = false) :
      RunStep listener received (listener.goTo .exited)
  | told (place : listener.thread = .waitTest)
      (ready : listener.running = false ∨ listener.listening = true) :
      RunStep listener received (listener.goTo .unlock)
  | waits (place : listener.thread = .waitTest) (running : listener.running = true)
      (quiet : listener.listening = false) : RunStep listener received (listener.goTo .park)
  | park (place : listener.thread = .park) : RunStep listener received (listener.goTo .parked)
  | notified (place : listener.thread = .notified) :
      RunStep listener received (listener.goTo .waitTest)
  | unlock (place : listener.thread = .unlock) :
      RunStep listener received (listener.goTo .breakTest)
  | serve (place : listener.thread = .breakTest) (running : listener.running = true) :
      RunStep listener received { listener.goTo .pollLoop with serving := listener.session }
  | breaks (place : listener.thread = .breakTest) (stopped : listener.running = false) :
      RunStep listener received (listener.goTo .exited)
  | poll (place : listener.thread = .pollLoop) (listening : listener.listening = true)
      (running : listener.running = true) :
      RunStep listener received (listener.goTo (.pollTest true))
  | tearDown (place : listener.thread = .pollLoop)
      (ends : listener.listening = false ∨ listener.running = false) :
      RunStep listener received (listener.goTo .closeSocket)
  | pollOnce (place : listener.thread = .pollTest true) (listening : listener.listening = true)
      (running : listener.running = true) : RunStep listener received (listener.goTo .pollOut)
  | pause {pollingSuccesfull : Bool} (place : listener.thread = .pollTest pollingSuccesfull)
      (ends : pollingSuccesfull = false ∨ listener.listening = false ∨
        listener.running = false) : RunStep listener received (listener.goTo .pollLoop)
  | nothing (place : listener.thread = .pollOut)
      (queue : listener.core.outgoingMessages = []) :
      RunStep listener received (listener.goTo (.receive false))
  | skip {message : QueuedMessage} {rest : ThreadSaveQueue QueuedMessage}
      (place : listener.thread = .pollOut)
      (queue : listener.core.outgoingMessages = message :: rest)
      (empty : message.request.message.length = 0) :
      RunStep listener received { listener.goTo (.receive true) with
        core := { listener.core with outgoingMessages := rest } }
  | take {message : QueuedMessage} {rest : ThreadSaveQueue QueuedMessage}
      (place : listener.thread = .pollOut)
      (queue : listener.core.outgoingMessages = message :: rest)
      (nonempty : message.request.message.length ≠ 0) :
      RunStep listener received { listener.goTo (.send message) with
        core := { listener.core with outgoingMessages := rest } }
  | send {message : QueuedMessage} (place : listener.thread = .send message) :
      RunStep listener received
        ((listener.record (.sendMessageToConnection message.request.sized)).goTo
          (.served message))
  | served {message : QueuedMessage} (place : listener.thread = .served message) :
      RunStep listener received (listener.goTo (.receive true))
  | receiveNone {polledOutMsg : Bool} (place : listener.thread = .receive polledOutMsg)
      (none : received = .none) :
      RunStep listener received
        ((listener.record (.receiveMessagesOnPollGroup listener.core.pollGroup)).goTo
          (.pollTest polledOutMsg))
  | receive {polledOutMsg : Bool} {message : Request}
      (place : listener.thread = .receive polledOutMsg) (some : received = .message message) :
      RunStep listener received
        ((listener.record (.receiveMessagesOnPollGroup listener.core.pollGroup)).goTo
          (.store { request := message, session := listener.session }))
  | receiveNegative {polledOutMsg : Bool} (place : listener.thread = .receive polledOutMsg)
      (negative : received = .negative) :
      RunStep listener received
        ((listener.record (.receiveMessagesOnPollGroup listener.core.pollGroup)).goTo
          .storeError)
  | store {message : QueuedMessage} (place : listener.thread = .store message) :
      RunStep listener received
        { (listener.record (.releaseMessage message.request)).goTo (.pollTest true) with
        core := { listener.core with
          receivedMessages := ThreadSaveQueue.push listener.core.receivedMessages message } }
  | storeError (place : listener.thread = .storeError) :
      RunStep listener received { listener.goTo .stopListening with
        core := { listener.core with
          errorQueue := ThreadSaveQueue.push listener.core.errorQueue
            (makeError .ePollGroupHandlerInvalid
              "PollGroup Handler invalid on trying to recive Messages") } }
  | stopListening (place : listener.thread = .stopListening) :
      RunStep listener received { listener.goTo .pollLoop with listening := false }
  | closeSocket (place : listener.thread = .closeSocket) :
      RunStep listener received
        ((listener.record (.closeListenSocket listener.core.socket)).goTo .resetSocket)
  | resetSocket (place : listener.thread = .resetSocket) :
      RunStep listener received { listener.goTo .destroyPollGroup with
        core := { listener.core with socket := hSteamListenSocketInvalid } }
  | destroyPollGroup (place : listener.thread = .destroyPollGroup) :
      RunStep listener received
        ((listener.record (.destroyPollGroup listener.core.pollGroup)).goTo .resetPollGroup)
  | resetPollGroup (place : listener.thread = .resetPollGroup) :
      RunStep listener received { listener.goTo .clearOutgoing with
        core := { listener.core with pollGroup := hSteamNetPollGroupInvalid } }
  | clearOutgoing (place : listener.thread = .clearOutgoing) :
      RunStep listener received { listener.goTo .clearReceived with
        core := { listener.core with outgoingMessages := [] } }
  | clearReceived (place : listener.thread = .clearReceived) :
      RunStep listener received { listener.goTo .clearErrors with
        core := { listener.core with receivedMessages := [] } }
  | clearErrors (place : listener.thread = .clearErrors) :
      RunStep listener received { listener.goTo .lock with
        core := { listener.core with errorQueue := [] } }

section Run

variable {received : ReceivedMessages} (steps : listener.run received = some next)
include steps

theorem runStep_of_run : RunStep listener received next := by
  unfold run at steps
  cases place : listener.thread with
  | parked | exited =>
      rw [place] at steps
      cases steps
  | lock =>
      rw [place] at steps
      cases steps
      exact .lock place
  | loopTest =>
      rw [place] at steps
      dsimp only at steps
      split at steps
      next running =>
        cases steps
        exact .enter place running
      next stopped =>
        cases steps
        exact .leave place (by simpa using stopped)
  | waitTest =>
      rw [place] at steps
      dsimp only at steps
      split at steps
      next ready =>
        cases steps
        exact .told place (by simpa using ready)
      next quiet =>
        cases steps
        rw [Bool.or_eq_true, not_or] at quiet
        exact .waits place (by simpa using quiet.1) (by simpa using quiet.2)
  | park =>
      rw [place] at steps
      cases steps
      exact .park place
  | notified =>
      rw [place] at steps
      cases steps
      exact .notified place
  | unlock =>
      rw [place] at steps
      cases steps
      exact .unlock place
  | breakTest =>
      rw [place] at steps
      dsimp only at steps
      split at steps
      next running =>
        cases steps
        exact .serve place running
      next stopped =>
        cases steps
        exact .breaks place (by simpa using stopped)
  | pollLoop =>
      rw [place] at steps
      dsimp only at steps
      split at steps
      next polls =>
        cases steps
        rw [Bool.and_eq_true] at polls
        exact .poll place polls.1 polls.2
      next ends =>
        cases steps
        rw [Bool.and_eq_true, not_and_or] at ends
        exact .tearDown place (by simpa using ends)
  | pollTest pollingSuccesfull =>
      rw [place] at steps
      dsimp only at steps
      split at steps
      next polls =>
        cases steps
        rw [Bool.and_eq_true, Bool.and_eq_true] at polls
        obtain ⟨⟨rfl, listening⟩, running⟩ := polls
        exact .pollOnce place listening running
      next ends =>
        cases steps
        rw [Bool.and_eq_true, Bool.and_eq_true, not_and_or, not_and_or] at ends
        exact .pause place (by simpa [or_assoc] using ends)
  | pollOut =>
      rw [place] at steps
      dsimp only at steps
      cases queue : listener.core.outgoingMessages with
      | nil =>
          rw [queue] at steps
          cases steps
          exact .nothing place queue
      | cons message rest =>
          rw [queue] at steps
          dsimp only [ThreadSaveQueue.tryPop] at steps
          split at steps
          next empty =>
            cases steps
            exact .skip place queue empty
          next nonempty =>
            cases steps
            exact .take place queue nonempty
  | send message =>
      rw [place] at steps
      cases steps
      exact .send place
  | served message =>
      rw [place] at steps
      cases steps
      exact .served place
  | receive polledOutMsg =>
      rw [place] at steps
      dsimp only at steps
      split at steps
      · cases steps
        exact .receiveNone place rfl
      · cases steps
        exact .receive place rfl
      · cases steps
        exact .receiveNegative place rfl
  | store message =>
      rw [place] at steps
      cases steps
      exact .store place
  | storeError =>
      rw [place] at steps
      cases steps
      exact .storeError place
  | stopListening =>
      rw [place] at steps
      cases steps
      exact .stopListening place
  | closeSocket =>
      rw [place] at steps
      cases steps
      exact .closeSocket place
  | resetSocket =>
      rw [place] at steps
      cases steps
      exact .resetSocket place
  | destroyPollGroup =>
      rw [place] at steps
      cases steps
      exact .destroyPollGroup place
  | resetPollGroup =>
      rw [place] at steps
      cases steps
      exact .resetPollGroup place
  | clearOutgoing =>
      rw [place] at steps
      cases steps
      exact .clearOutgoing place
  | clearReceived =>
      rw [place] at steps
      cases steps
      exact .clearReceived place
  | clearErrors =>
      rw [place] at steps
      cases steps
      exact .clearErrors place

theorem run_frame : next.call = listener.call ∧ next.running = listener.running ∧
    next.session = listener.session ∧ next.mark = listener.mark := by
  cases runStep_of_run steps <;> exact ⟨rfl, rfl, rfl, rfl⟩

theorem run_listening : next.listening =
    (listener.listening && decide (listener.thread ≠ .stopListening)) := by
  cases runStep_of_run steps <;> simp [*, goTo, record]

theorem run_socket : next.core.socket =
    if listener.thread = .resetSocket then hSteamListenSocketInvalid
    else listener.core.socket := by
  cases runStep_of_run steps <;> simp [*, goTo, record]

theorem run_pollGroup : next.core.pollGroup =
    if listener.thread = .resetPollGroup then hSteamNetPollGroupInvalid
    else listener.core.pollGroup := by
  cases runStep_of_run steps <;> simp [*, goTo, record]

theorem run_not_exited : listener.thread ≠ .exited := by
  intro exited
  simp [run, exited] at steps

/-- The thread leaves its wait only when it is told to listen or to end. -/
theorem run_isCommitted (committed : next.thread.isCommitted = true) :
    listener.thread.isCommitted = true ∨
      listener.thread = .waitTest ∧ (listener.running = false ∨ listener.listening = true) := by
  cases runStep_of_run steps with
  | told place ready => exact .inr ⟨place, ready⟩
  | _ => simp_all [goTo, record, ListenThread.isCommitted]

/-- The thread serves the listener after it has found it running. -/
theorem run_isServing (serves : next.thread.isServing = true) :
    listener.thread.isServing = true ∨
      listener.thread = .breakTest ∧ listener.running = true := by
  cases runStep_of_run steps with
  | serve place running => exact .inr ⟨place, running⟩
  | _ => simp_all [goTo, record, ListenThread.isCommitted, ListenThread.isServing]

/-- Whether it serves the listener ends with the reset of the second handle. -/
theorem run_isServing_of_isServing (serves : listener.thread.isServing = true) :
    next.thread.isServing = true ∨ listener.thread = .resetPollGroup := by
  cases runStep_of_run steps with
  | resetPollGroup place => exact .inr place
  | _ => simp_all [goTo, record, ListenThread.isCommitted, ListenThread.isServing]

/-- A committed thread stays so until it has reset the second handle, unless the
listener is destroyed first. -/
theorem run_isCommitted_of_isCommitted (committed : listener.thread.isCommitted = true) :
    next.thread.isCommitted = true ∨ listener.thread = .resetPollGroup ∨
      listener.thread = .breakTest ∧ listener.running = false := by
  cases runStep_of_run steps with
  | resetPollGroup place => exact .inr (.inl place)
  | breaks place stopped => exact .inr (.inr ⟨place, stopped⟩)
  | _ => simp_all [goTo, record, ListenThread.isCommitted]

theorem run_thread_eq_resetSocket :
    next.thread = .resetSocket ↔ listener.thread = .closeSocket := by
  cases runStep_of_run steps <;> simp [*, goTo, record]

theorem run_thread_eq_destroyPollGroup :
    next.thread = .destroyPollGroup ↔ listener.thread = .resetSocket := by
  cases runStep_of_run steps <;> simp [*, goTo, record]

theorem run_thread_eq_resetPollGroup :
    next.thread = .resetPollGroup ↔ listener.thread = .destroyPollGroup := by
  cases runStep_of_run steps <;> simp [*, goTo, record]

/-- The adapter calls of a statement. -/
theorem run_calls : next.calls = listener.calls ++
    match listener.thread with
    | .send message => [.sendMessageToConnection message.request.sized]
    | .receive _ => [.receiveMessagesOnPollGroup listener.core.pollGroup]
    | .store message => [.releaseMessage message.request]
    | .closeSocket => [.closeListenSocket listener.core.socket]
    | .destroyPollGroup => [.destroyPollGroup listener.core.pollGroup]
    | _ => [] := by
  cases runStep_of_run steps <;> simp [*, goTo, record]

/-- The thread opens no handle. -/
theorem run_closed
    (closed : listener.core.isInitialized = false) : next.core.isInitialized = false := by
  rw [ListenerCore.isInitialized_eq_false] at closed ⊢
  rw [run_socket steps, run_pollGroup steps]
  constructor
  · split
    · rfl
    · exact closed.1
  · split
    · rfl
    · exact closed.2

/-- A thread that is not committed leaves the handles alone. -/
theorem run_handles
    (waits : listener.thread.isCommitted = false) :
    next.core.socket = listener.core.socket ∧
      next.core.pollGroup = listener.core.pollGroup := by
  rw [run_socket steps, run_pollGroup steps]
  constructor
  · apply if_neg
    intro place
    rw [place] at waits
    cases waits
  · apply if_neg
    intro place
    rw [place] at waits
    cases waits

end Run

/-- Everything that a statement of a call on the listener can do. -/
inductive CallStep (listener : Listener) (handle : UInt32) : Listener → Prop where
  | initListening {port : UInt16} (call : listener.call = .initTest port)
      (listening : listener.listening = true) :
      CallStep listener handle (listener.callGoTo (.initReturned (.error (makeError
        .eInvalidCall "Called Init Socket while listening try calling stopListening first"))))
  | initTest {port : UInt16} (call : listener.call = .initTest port)
      (quiet : listener.listening = false) :
      CallStep listener handle (listener.callGoTo (.initGuard port))
  | initInitialized {port : UInt16} (call : listener.call = .initGuard port)
      (initialized : listener.core.isInitialized = true) :
      CallStep listener handle (listener.callGoTo (.initReturned (.error (makeError
        .eInvalidCall "A Socket is initialized try Calling DestroySocket first"))))
  | initGuard {port : UInt16} (call : listener.call = .initGuard port)
      (closed : listener.core.isInitialized = false) :
      CallStep listener handle (listener.callGoTo (.createSocket port))
  | socketFailed {port : UInt16} (call : listener.call = .createSocket port)
      (failed : handle = hSteamListenSocketInvalid) :
      CallStep listener handle
        ({ listener.record (.createListenSocketIP port handle) with
          core := { listener.core with socket := handle } }.callGoTo
            (.initReturned (.error (makeError .eSocketInitializationFailed
              "Failed to initialize Socket"))))
  | createSocket {port : UInt16} (call : listener.call = .createSocket port)
      (valid : handle ≠ hSteamListenSocketInvalid) :
      CallStep listener handle
        ({ listener.record (.createListenSocketIP port handle) with
          core := { listener.core with socket := handle } }.callGoTo .createPollGroup)
  | pollGroupFailed (call : listener.call = .createPollGroup)
      (failed : handle = hSteamNetPollGroupInvalid) :
      CallStep listener handle
        ({ listener.record (.createPollGroup handle) with
          core := { listener.core with pollGroup := handle } }.callGoTo .closeSocket)
  | createPollGroup (call : listener.call = .createPollGroup)
      (valid : handle ≠ hSteamNetPollGroupInvalid) :
      CallStep listener handle
        ({ listener.record (.createPollGroup handle) with
          core := { listener.core with pollGroup := handle } }.callGoTo .initReturn)
  | closeSocket (call : listener.call = .closeSocket) :
      CallStep listener handle
        ((listener.record (.closeListenSocket listener.core.socket)).callGoTo .resetSocket)
  | resetSocket (call : listener.call = .resetSocket) :
      CallStep listener handle
        { listener.callGoTo (.initReturned (.error (makeError
            .ePollingGroupInitializationFailed "Failed to initialize Polling Group"))) with
          core := { listener.core with socket := hSteamListenSocketInvalid } }
  | initReturn (call : listener.call = .initReturn) :
      CallStep listener handle (listener.callGoTo
        (.initReturned (.ok ⟨listener.core.socket, listener.core.pollGroup⟩)))
  | startInvalid (call : listener.call = .startTest)
      (invalid : listener.core.socket = hSteamListenSocketInvalid ∨
        listener.core.pollGroup = hSteamNetPollGroupInvalid) :
      CallStep listener handle (listener.callGoTo (.startReturned (.error (makeError
        .eInvalidCall
        "StartListening called while Sockets invalid. Try calling initSocketfirst"))))
  | startTest (call : listener.call = .startTest) (isOpen : listener.core.IsOpen) :
      CallStep listener handle (listener.callGoTo .startSet)
  | startSet (call : listener.call = .startSet) (unlocked : listener.thread.ownsMutex = false) :
      CallStep listener handle
        { (listener.callGoTo (.startReturned (.ok ()))).notify with listening := true }
  | stopSet (call : listener.call = .stopSet) (unlocked : listener.thread.ownsMutex = false) :
      CallStep listener handle
        { (listener.callGoTo .stopReturned).notify with listening := false }
  | dtorFlag (call : listener.call = .dtorFlag) :
      CallStep listener handle { listener.callGoTo .dtorNotify with running := false }
  | dtorNotify (call : listener.call = .dtorNotify) :
      CallStep listener handle (listener.callGoTo .dtorJoin).notify
  | dtorJoin (call : listener.call = .dtorJoin) (exited : listener.thread = .exited) :
      CallStep listener handle (listener.callGoTo .destroyed)

theorem callStep_of_callStep {handle : UInt32} (steps : listener.callStep handle = some next) :
    CallStep listener handle next := by
  unfold callStep at steps
  cases call : listener.call with
  | idle | initReturned _ | startReturned _ | stopReturned | destroyed =>
      rw [call] at steps
      cases steps
  | initTest port =>
      rw [call] at steps
      dsimp only at steps
      split at steps
      next listening =>
        cases steps
        exact .initListening call listening
      next quiet =>
        cases steps
        exact .initTest call (eq_false_of_ne_true quiet)
  | initGuard port =>
      rw [call] at steps
      dsimp only at steps
      split at steps
      next initialized =>
        cases steps
        exact .initInitialized call initialized
      next closed =>
        cases steps
        exact .initGuard call (eq_false_of_ne_true closed)
  | createSocket port =>
      rw [call] at steps
      dsimp only at steps
      split at steps
      next failed =>
        cases steps
        exact .socketFailed call failed
      next valid =>
        cases steps
        exact .createSocket call valid
  | createPollGroup =>
      rw [call] at steps
      dsimp only at steps
      split at steps
      next failed =>
        cases steps
        exact .pollGroupFailed call failed
      next valid =>
        cases steps
        exact .createPollGroup call valid
  | closeSocket =>
      rw [call] at steps
      cases steps
      exact .closeSocket call
  | resetSocket =>
      rw [call] at steps
      cases steps
      exact .resetSocket call
  | initReturn =>
      rw [call] at steps
      cases steps
      exact .initReturn call
  | startTest =>
      rw [call] at steps
      dsimp only at steps
      split at steps
      next invalid =>
        cases steps
        exact .startInvalid call invalid
      next isOpen =>
        cases steps
        exact .startTest call (not_or.mp isOpen)
  | startSet =>
      rw [call] at steps
      dsimp only at steps
      split at steps
      · cases steps
      next unlocked =>
        cases steps
        exact .startSet call (eq_false_of_ne_true unlocked)
  | stopSet =>
      rw [call] at steps
      dsimp only at steps
      split at steps
      · cases steps
      next unlocked =>
        cases steps
        exact .stopSet call (eq_false_of_ne_true unlocked)
  | dtorFlag =>
      rw [call] at steps
      cases steps
      exact .dtorFlag call
  | dtorNotify =>
      rw [call] at steps
      cases steps
      exact .dtorNotify call
  | dtorJoin =>
      rw [call] at steps
      dsimp only at steps
      split at steps
      next exited =>
        cases steps
        exact .dtorJoin call exited
      · cases steps

end Listener

end HttpServer
