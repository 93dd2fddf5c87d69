import HttpServer.ManagerEntries

/-!
# The sessions of a listener

A session of a listener lasts from a start to the next stop.  `DestroySocket`
gives up the handles before it clears the queues, so that a new session may begin
while the old one is still being cleared away; and a listener that has stopped
itself still takes responses after its queues were cleared.  Without these two the
queues only ever hold messages of the session they are used in.
-/

namespace HttpServer

open Listener ManagerWorld NetworkManagerCore

/-- `initSocket` does not find the handles invalid while the queues are still to
be cleared, and no response is accepted after the queue for it was cleared. -/
def keepsSessions (info : ListenerInfo Listener) : EntryAction → Bool
  | .callStep _ =>
      match info.listener.call with
      | .initGuard _ => info.listener.core.isInitialized || !info.listener.thread.isClearing
      | _ => true
  | .push _ _ => info.listener.core.isInitialized || info.listener.thread = .clearOutgoing
  | _ => true

namespace ListenThread

/-- The message that the thread has in its hands. -/
def held? : ListenThread → Option QueuedMessage
  | send message | served message | store message => some message
  | _ => none

theorem isCommitted_of_held {place : ListenThread} {message : QueuedMessage}
    (holds : place.held? = some message) : place.isCommitted = true := by
  cases place <;> first | rfl | cases holds

end ListenThread

section Run

variable {listener next : Listener} {received : ReceivedMessages}
  (steps : listener.run received = some next)
include steps

theorem run_outgoingMessages : next.core.outgoingMessages =
    match listener.thread with
    | .pollOut => (ThreadSaveQueue.tryPop listener.core.outgoingMessages).2
    | .clearOutgoing => []
    | _ => listener.core.outgoingMessages := by
  cases runStep_of_run steps <;> simp [*, goTo, Listener.record, ThreadSaveQueue.tryPop]

theorem run_receivedMessages : next.core.receivedMessages =
    match listener.thread with
    | .store message => ThreadSaveQueue.push listener.core.receivedMessages message
    | .clearReceived => []
    | _ => listener.core.receivedMessages := by
  cases runStep_of_run steps <;> simp [*, goTo, Listener.record]

/-- A message comes into the thread's hands from the queue of responses or from
the poll group. -/
theorem run_held {message : QueuedMessage} (holds : next.thread.held? = some message) :
    listener.thread.held? = some message ∨ message ∈ listener.core.outgoingMessages ∨
      message.session = listener.session := by
  cases runStep_of_run steps with
  | take place queue =>
      cases holds
      rw [queue]
      exact Or.inr (Or.inl (List.mem_cons_self ..))
  | receive =>
      cases holds
      exact Or.inr (Or.inr rfl)
  | send place =>
      rw [place]
      exact Or.inl holds
  | _ => cases holds

theorem run_serving : next.serving =
    if listener.thread = .breakTest ∧ listener.running = true then listener.session
    else listener.serving := by
  cases runStep_of_run steps <;> simp [*, goTo, Listener.record]

/-- The queues are cleared after the second handle has been reset. -/
theorem run_isClearing (clears : next.thread.isClearing = true) :
    listener.thread.isClearing = true ∧ listener.thread ≠ .clearErrors ∨
      listener.thread = .resetPollGroup := by
  cases runStep_of_run steps with
  | resetPollGroup place => exact Or.inr place
  | _ => simp_all [goTo, Listener.record, ListenThread.isClearing]

theorem run_thread_eq_clearReceived :
    next.thread = .clearReceived ↔ listener.thread = .clearOutgoing := by
  cases runStep_of_run steps <;> simp [*, goTo, Listener.record]

theorem run_thread_eq_clearOutgoing :
    next.thread = .clearOutgoing ↔ listener.thread = .resetPollGroup := by
  cases runStep_of_run steps <;> simp [*, goTo, Listener.record]

end Run

/-- Every message that is queued or in the thread's hands is of the current
session, and so is the thread's work.  With both handles invalid a queue is empty
once the thread is past clearing it. -/
structure SessionsApart (listener : Listener) : Prop where
  outgoing : ∀ message ∈ listener.core.outgoingMessages, message.session = listener.session
  received : ∀ message ∈ listener.core.receivedMessages, message.session = listener.session
  held : ∀ message, listener.thread.held? = some message →
    message.session = listener.session
  serving : listener.thread.isServing = true ∨ listener.thread.isClearing = true →
    listener.serving = listener.session
  outgoingCleared : listener.core.isInitialized = false →
    listener.thread ≠ .clearOutgoing → listener.core.outgoingMessages = []
  receivedCleared : listener.core.isInitialized = false →
    listener.thread ≠ .clearOutgoing → listener.thread ≠ .clearReceived →
    listener.core.receivedMessages = []
  apart : listener.call.isApart = true → listener.thread.isClearing = false ∧
    listener.core.outgoingMessages = [] ∧ listener.core.receivedMessages = []

namespace SessionsApart

variable {info : ListenerInfo Listener} {listener next : Listener}

theorem initial : SessionsApart ({} : Listener) := by
  constructor <;> simp [ListenThread.held?, ListenThread.isServing,
    ListenThread.isCommitted, ListenThread.isClearing, ListenerCall.isApart,
    ListenerCall.isCreating]

/-- A call is begun, made or ended outside of a creation. -/
theorem moveCall (sessions : SessionsApart listener) (core : next.core = listener.core)
    (thread : next.thread = listener.thread) (session : next.session = listener.session)
    (serving : next.serving = listener.serving)
    (apart : next.call.isApart = true → listener.thread.isClearing = false ∧
      listener.core.outgoingMessages = [] ∧ listener.core.receivedMessages = []) :
    SessionsApart next := by
  constructor
  case outgoing =>
    rw [core, session]
    exact sessions.outgoing
  case received =>
    rw [core, session]
    exact sessions.received
  case held =>
    rw [thread, session]
    exact sessions.held
  case serving =>
    rw [thread, serving, session]
    exact sessions.serving
  case outgoingCleared =>
    rw [core, thread]
    exact sessions.outgoingCleared
  case receivedCleared =>
    rw [core, thread]
    exact sessions.receivedCleared
  case apart =>
    rw [core, thread]
    exact apart

theorem notify (sessions : SessionsApart listener) : SessionsApart listener.notify := by
  unfold Listener.notify
  split
  next parked =>
    constructor
    case outgoing => exact sessions.outgoing
    case received => exact sessions.received
    case held => exact nofun
    case serving => exact fun serves => by rcases serves with serves | serves <;> cases serves
    case outgoingCleared =>
      intro closed _
      apply sessions.outgoingCleared closed
      intro place
      rw [place] at parked
      cases parked
    case receivedCleared =>
      intro closed _ _
      apply sessions.receivedCleared closed
      · intro place
        rw [place] at parked
        cases parked
      · intro place
        rw [place] at parked
        cases parked
    case apart =>
      intro apart
      exact ⟨rfl, (sessions.apart apart).2⟩
  next => exact sessions

/-- A thread that is not in its loop takes no message up and queues none. -/
theorem run_empty {received : ReceivedMessages} (steps : listener.run received = some next)
    (stores : ∀ message, listener.thread ≠ .store message) :
    (listener.core.outgoingMessages = [] → next.core.outgoingMessages = []) ∧
      (listener.core.receivedMessages = [] → next.core.receivedMessages = []) := by
  rw [run_outgoingMessages steps, run_receivedMessages steps]
  constructor
  · intro empty
    split
    · rw [empty]
      rfl
    · rfl
    · exact empty
  · intro empty
    split
    next message place => exact absurd place (stores message)
    · rfl
    · exact empty

theorem run (sessions : SessionsApart info.listener) (coherent : Coherent info)
    {received : ReceivedMessages} (steps : info.listener.run received = some next) :
    SessionsApart next := by
  obtain ⟨sameCall, _, sameSession, _⟩ := run_frame steps
  have serving := run_serving steps
  -- A thread that stores a message uses both handles.
  have storesOpen (closed : info.listener.core.isInitialized = false)
      (message : QueuedMessage) : info.listener.thread ≠ .store message := by
    intro place
    have isOpen := coherent.uses (by rw [place]; rfl)
    exact isOpen.1 (ListenerCore.isInitialized_eq_false.mp closed).1
  -- The handles become invalid at the end of the first half of the teardown.
  have closedBefore (closed : next.core.isInitialized = false)
      (notCleared : next.thread ≠ .clearOutgoing) :
      info.listener.core.isInitialized = false := by
    rw [ListenerCore.isInitialized_eq_false, run_socket steps, run_pollGroup steps] at closed
    have notLast : info.listener.thread ≠ .resetPollGroup := fun place =>
      notCleared ((run_thread_eq_clearOutgoing steps).mpr place)
    rw [if_neg notLast] at closed
    have notFirst : info.listener.thread ≠ .resetSocket := by
      intro place
      exact (coherent.uses (by rw [place]; rfl)).2 closed.2
    rw [if_neg notFirst] at closed
    exact ListenerCore.isInitialized_eq_false.mpr closed
  constructor
  case outgoing =>
    rw [run_outgoingMessages steps, sameSession]
    split
    · exact fun message member =>
        sessions.outgoing message (ThreadSaveQueue.mem_of_mem_tryPop member)
    · exact nofun
    · exact sessions.outgoing
  case received =>
    rw [run_receivedMessages steps, sameSession]
    split
    next stored place =>
      intro message member
      rcases ThreadSaveQueue.mem_push.mp member with queued | rfl
      · exact sessions.received message queued
      · exact sessions.held message (by rw [place]; rfl)
    · exact nofun
    · exact sessions.received
  case held =>
    intro message holds
    rw [sameSession]
    rcases run_held steps holds with held | queued | fresh
    · exact sessions.held message held
    · exact sessions.outgoing message queued
    · exact fresh
  case serving =>
    intro works
    rw [serving, sameSession]
    split
    · rfl
    next notBreak =>
      apply sessions.serving
      rcases works with serves | clears
      · rcases run_isServing steps serves with before | left
        · exact Or.inl before
        · exact absurd left notBreak
      · rcases run_isClearing steps clears with ⟨before, _⟩ | place
        · exact Or.inr before
        · rw [place]
          exact Or.inl rfl
  case outgoingCleared =>
    intro closed notCleared
    have before := closedBefore closed notCleared
    by_cases clears : info.listener.thread = .clearOutgoing
    · rw [run_outgoingMessages steps, clears]
    · exact (run_empty steps (storesOpen before)).1 (sessions.outgoingCleared before clears)
  case receivedCleared =>
    intro closed notOutgoing notReceived
    have before := closedBefore closed notOutgoing
    by_cases clears : info.listener.thread = .clearReceived
    · rw [run_receivedMessages steps, clears]
    · have notClearing : info.listener.thread ≠ .clearOutgoing := fun place =>
        notReceived ((run_thread_eq_clearReceived steps).mpr place)
      exact (run_empty steps (storesOpen before)).2
        (sessions.receivedCleared before notClearing clears)
  case apart =>
    intro apart
    rw [sameCall] at apart
    have waits := coherent.apart apart
    obtain ⟨notClearing, outgoing, received⟩ := sessions.apart apart
    have stores (message : QueuedMessage) : info.listener.thread ≠ .store message := by
      intro place
      rw [place] at waits
      cases waits
    refine ⟨?_, (run_empty steps stores).1 outgoing, (run_empty steps stores).2 received⟩
    by_contra clears
    rcases run_isClearing steps (eq_true_of_ne_false clears) with ⟨before, _⟩ | place
    · exact absurd (before.symm.trans notClearing) (by decide)
    · rw [place] at waits
      cases waits

/-- `initSocket` writes its handles while the queues are empty. -/
theorem create (sessions : SessionsApart listener) (apart : listener.call.isApart = true)
    (waits : listener.thread.isCommitted = false)
    (outgoing : next.core.outgoingMessages = listener.core.outgoingMessages)
    (received : next.core.receivedMessages = listener.core.receivedMessages)
    (thread : next.thread = listener.thread) : SessionsApart next := by
  obtain ⟨notClearing, noOutgoing, noReceived⟩ := sessions.apart apart
  constructor
  case outgoing =>
    rw [outgoing, noOutgoing]
    exact nofun
  case received =>
    rw [received, noReceived]
    exact nofun
  case held =>
    intro message holds
    rw [thread] at holds
    exact absurd ((ListenThread.isCommitted_of_held holds).symm.trans waits) (by decide)
  case serving =>
    intro works
    rw [thread] at works
    rcases works with serves | clears
    · have committed := ListenThread.isCommitted_of_isServing serves
      exact absurd (committed.symm.trans waits) (by decide)
    · exact absurd (clears.symm.trans notClearing) (by decide)
  case outgoingCleared => exact fun _ _ => outgoing.trans noOutgoing
  case receivedCleared => exact fun _ _ _ => received.trans noReceived
  case apart =>
    exact fun _ => ⟨thread ▸ notClearing, outgoing.trans noOutgoing, received.trans noReceived⟩

theorem callStep (sessions : SessionsApart info.listener) (coherent : Coherent info)
    {handle : UInt32} (meets : keepsSessions info (.callStep handle) = true)
    (steps : info.listener.callStep handle = some next) : SessionsApart next := by
  have apart := sessions.apart
  have waits := coherent.apart
  cases callStep_of_callStep steps with
  | initGuard call closed =>
      simp only [keepsSessions, call] at meets
      have notClearing : info.listener.thread.isClearing = false := by
        simpa [closed] using meets
      have notOutgoing : info.listener.thread ≠ .clearOutgoing := by
        intro place
        rw [place] at notClearing
        cases notClearing
      have notReceived : info.listener.thread ≠ .clearReceived := by
        intro place
        rw [place] at notClearing
        cases notClearing
      exact sessions.moveCall rfl rfl rfl rfl fun _ => ⟨notClearing,
        sessions.outgoingCleared closed notOutgoing,
        sessions.receivedCleared closed notOutgoing notReceived⟩
  | socketFailed call | createSocket call | pollGroupFailed call | createPollGroup call
  | closeSocket call | resetSocket call =>
      rw [call] at waits
      exact sessions.create (by rw [call]; rfl) (waits rfl) rfl rfl rfl
  | initReturn call | startTest call =>
      rw [call] at apart
      exact sessions.moveCall rfl rfl rfl rfl fun _ => apart rfl
  | startSet =>
      have moved : SessionsApart
          { info.listener.callGoTo (.startReturned (.ok ())) with listening := true } :=
        sessions.moveCall rfl rfl rfl rfl nofun
      rw [notify_listening]
      exact moved.notify
  | stopSet =>
      have moved : SessionsApart
          { info.listener.callGoTo .stopReturned with listening := false } :=
        sessions.moveCall rfl rfl rfl rfl nofun
      rw [notify_listening]
      exact moved.notify
  | dtorNotify =>
      have moved : SessionsApart (info.listener.callGoTo .dtorJoin) :=
        sessions.moveCall rfl rfl rfl rfl nofun
      exact moved.notify
  | initListening | initTest | initInitialized | startInvalid | dtorFlag | dtorJoin =>
      exact sessions.moveCall rfl rfl rfl rfl nofun

theorem entryStep {next : ListenerInfo Listener} (sessions : SessionsApart info.listener)
    (coherent : Coherent info) {action : EntryAction}
    (meets : keepsSessions info action = true)
    (steps : HttpServer.entryStep info action = some next) : SessionsApart next.listener := by
  have notApart (idle : info.listener.call.isIdle = true) :
      info.listener.call.isApart ≠ true := by
    intro apart
    cases call : info.listener.call <;> rw [call] at idle apart <;>
      first | cases idle; done | cases apart
  cases entryStep_of_entryStep steps with
  | run runs => exact sessions.run coherent runs
  | wake parked =>
      have notified := sessions.notify
      rwa [notify_of_parked parked] at notified
  | callStep calls => exact sessions.callStep coherent meets calls
  | beginStart | initFailed | startReturned | beginStop | stopReturned | destroyStopped
  | destroyIdle => exact sessions.moveCall rfl rfl rfl rfl (by rintro ⟨⟩)
  | adopt call =>
      have apart : info.listener.call.isApart = true := by
        rw [call]
        rfl
      exact sessions.create apart (coherent.apart apart) rfl rfl rfl
  | push bound idle =>
      constructor
      case outgoing =>
        intro queued member
        rcases ThreadSaveQueue.mem_push.mp member with before | rfl
        · exact sessions.outgoing queued before
        · rfl
      case received => exact sessions.received
      case held => exact sessions.held
      case serving => exact sessions.serving
      case outgoingCleared =>
        intro closed notClearing
        have same : info.listener.core.isInitialized = false := closed
        have clears : info.listener.thread = .clearOutgoing := by
          simpa [keepsSessions, same] using meets
        exact absurd clears notClearing
      case receivedCleared => exact sessions.receivedCleared
      case apart => exact fun apart => absurd apart (notApart idle)
  | popReceived idle =>
      constructor
      case outgoing => exact sessions.outgoing
      case received =>
        intro message member
        exact sessions.received message (ThreadSaveQueue.mem_of_mem_tryPop member)
      case held => exact sessions.held
      case serving => exact sessions.serving
      case outgoingCleared => exact sessions.outgoingCleared
      case receivedCleared =>
        intro closed notOutgoing notReceived
        change (ThreadSaveQueue.tryPop info.listener.core.receivedMessages).2 = []
        rw [sessions.receivedCleared closed notOutgoing notReceived]
        rfl
      case apart => exact fun apart => absurd apart (notApart idle)
  | popError idle =>
      constructor
      case outgoing => exact sessions.outgoing
      case received => exact sessions.received
      case held => exact sessions.held
      case serving => exact sessions.serving
      case outgoingCleared => exact sessions.outgoingCleared
      case receivedCleared => exact sessions.receivedCleared
      case apart => exact fun apart => absurd apart (notApart idle)

end SessionsApart

theorem sessionsApart_of_reachable {info : ListenerInfo Listener}
    (reaches : entrySystem.ReachableWhere (fun info move => keepsSessions info move = true)
      info) : SessionsApart info.listener := by
  refine reaches.invariant (fun info => SessionsApart info.listener) ?_ ?_
  · intro info starts
    rw [starts.1]
    exact SessionsApart.initial
  · intro info action next reached sessions meets steps
    exact sessions.entryStep (coherent_of_reachable reached) meets steps

abbrev KeepsSessions (world : ManagerWorld) (action : ManagerAction) : Prop :=
  everywhere keepsSessions world action = true

/-- `try_PoPReceivedMessageQueue` returns the oldest message of the listener's
queue. -/
theorem tryPopReceived_eq_some {core next : NetworkManagerCore Listener}
    {listener : HListener} {message : Request}
    (pops : core.tryPopReceivedMessageQueue listener = (.ok (some message), next)) :
    ∃ info queued rest, core.listeners.lookup listener = some info ∧
      info.listener.core.receivedMessages = queued :: rest ∧ queued.request = message := by
  unfold tryPopReceivedMessageQueue at pops
  split at pops
  · cases pops
  next info valid =>
    dsimp only [IListener.tryPopReceived] at pops
    cases queue : info.listener.core.receivedMessages with
    | nil =>
        rw [queue] at pops
        cases pops
    | cons queued rest =>
        rw [queue] at pops
        cases pops
        exact ⟨info, queued, rest, isValidListenerHandler_eq_ok.mp valid, queue, rfl⟩

/-- As long as a listener is initialized only after its queues were cleared and
takes responses only before, every message stays in its session: one that is
taken from the received messages was received in the current session, one that
is handed to Steam was accepted in it, and the queues are cleared of messages of
the session that the thread served. -/
theorem sessions_apart {world : ManagerWorld}
    (reaches : managerSystem.ReachableWhere KeepsSessions world) {listener : HListener}
    {info : ListenerInfo Listener}
    (found : world.core.listeners.lookup listener = some info) :
    (∀ message next,
      world.core.tryPopReceivedMessageQueue listener = (.ok (some message), next) →
      ∃ queued rest, info.listener.core.receivedMessages = queued :: rest ∧
        queued.request = message ∧ queued.session = info.listener.session) ∧
    (∀ message, info.listener.thread = .send message →
      message.session = info.listener.session) ∧
    (info.listener.thread = .clearOutgoing → info.listener.serving = info.listener.session ∧
      ∀ message ∈ info.listener.core.outgoingMessages,
        message.session = info.listener.serving) ∧
    (info.listener.thread = .clearReceived → info.listener.serving = info.listener.session ∧
      ∀ message ∈ info.listener.core.receivedMessages,
        message.session = info.listener.serving) := by
  have sessions := sessionsApart_of_reachable (entry_reachable reaches found)
  refine ⟨?_, ?_, ?_, ?_⟩
  · intro message next pops
    obtain ⟨foundInfo, queued, rest, sameFound, queue, request⟩ := tryPopReceived_eq_some pops
    obtain rfl := Option.some.inj (found.symm.trans sameFound)
    exact ⟨queued, rest, queue, request, sessions.received queued (by simp [queue])⟩
  · intro message sends
    exact sessions.held message (by rw [sends]; rfl)
  · intro clears
    have serving := sessions.serving (Or.inr (by rw [clears]; rfl))
    exact ⟨serving, fun message member => (sessions.outgoing message member).trans serving.symm⟩
  · intro clears
    have serving := sessions.serving (Or.inr (by rw [clears]; rfl))
    exact ⟨serving, fun message member => (sessions.received message member).trans serving.symm⟩

/-- Listener 1 is started and receives a message of connection 9. -/
def receiveOnce : List ManagerAction :=
  createParked ++ startParked ++ List.replicate 7 (.run 1 .none) ++
    [.run 1 (.message ⟨9, [71]⟩), .run 1 .none]

/-- The manager starts listener 1 again, on socket 7. -/
def startAgain : List ManagerAction :=
  [.request (.startListening 1 81), .pollFunctionCall, .listenerCall 0, .listenerCall 0,
    .listenerCall 7, .listenerCall 8, .listenerCall 0, .proceed, .listenerCall 0,
    .listenerCall 0, .proceed, .proceed]

/-- Listener 1 is stopped with a message in its queue, started again when its thread has
cleared that, and receives another one. -/
def stopAndReceive : List ManagerAction :=
  receiveOnce ++ stopOne ++ List.replicate 13 (.run 1 .none) ++ startAgain ++
    List.replicate 7 (.run 1 .none) ++ [.run 1 (.message ⟨10, [73]⟩), .run 1 .none]

theorem sessions_apart_restarted :
    ∃ world info next, managerSystem.Reachable world ∧
      world.core.listeners.lookup 1 = some info ∧ info.listener.session = 2 ∧
      world.core.tryPopReceivedMessageQueue 1 = (.ok (some ⟨10, [73]⟩), next) ∧
      ∃ queued rest, info.listener.core.receivedMessages = queued :: rest ∧
        queued.request = ⟨10, [73]⟩ ∧ queued.session = info.listener.session := by
  have executes : ∃ world info next,
      managerSystem.runWhere KeepsSessions {} stopAndReceive = some world ∧
      world.core.listeners.lookup 1 = some info ∧ info.listener.session = 2 ∧
      world.core.tryPopReceivedMessageQueue 1 = (.ok (some ⟨10, [73]⟩), next) :=
    ⟨_, _, _, rfl, rfl, rfl, rfl⟩
  obtain ⟨world, info, next, executes, found, second, pops⟩ := executes
  have reaches := TransitionSystem.reachableWhere_of_run rfl executes
  exact ⟨world, info, next, reaches.reachable, found, second, pops,
    (sessions_apart reaches found).1 _ next pops⟩

/-- A start during a teardown lets the second session receive a message of the
first and the first one's teardown clear a response of the second; and a response
accepted after the teardown of a listener that stopped itself is sent in the
second session. -/
theorem sessions_apart_fails :
    (∃ world info next, managerSystem.Reachable world ∧
      world.core.listeners.lookup 1 = some info ∧ info.socket = 7 ∧
      info.listener.session = 2 ∧
      world.core.tryPopReceivedMessageQueue 1 = (.ok (some ⟨9, [71]⟩), next) ∧
      info.listener.core.receivedMessages = [⟨⟨9, [71]⟩, 1, 0⟩] ∧
      info.listener.thread = .clearOutgoing ∧ info.listener.serving = 1 ∧
      info.listener.core.outgoingMessages = [⟨⟨10, [72]⟩, 2, 1⟩]) ∧
    ∃ world info, managerSystem.Reachable world ∧
      world.core.listeners.lookup 1 = some info ∧ info.listener.session = 2 ∧
      info.listener.thread = .send ⟨⟨9, [72]⟩, 1, 1⟩ := by
  have restarts : ∃ world info next,
      managerSystem.run {} (receiveOnce ++ stopOne ++ List.replicate 6 (.run 1 .none) ++
        startAgain ++ [.runCallback ⟨10, 7, .connecting, .none⟩ .ok true] ++ pushOne 10) =
          some world ∧
      world.core.listeners.lookup 1 = some info ∧ info.socket = 7 ∧
      info.listener.session = 2 ∧
      world.core.tryPopReceivedMessageQueue 1 = (.ok (some ⟨9, [71]⟩), next) ∧
      info.listener.core.receivedMessages = [⟨⟨9, [71]⟩, 1, 0⟩] ∧
      info.listener.thread = .clearOutgoing ∧ info.listener.serving = 1 ∧
      info.listener.core.outgoingMessages = [⟨⟨10, [72]⟩, 2, 1⟩] :=
    ⟨_, _, _, rfl, rfl, rfl, rfl, rfl, rfl, rfl, rfl, rfl⟩
  have stopsItself : ∃ world info,
      managerSystem.run {} (createParked ++ startParked ++
        [.runCallback ⟨9, 5, .connecting, .none⟩ .ok true] ++
        List.replicate 7 (.run 1 .none) ++ [.run 1 .negative] ++
        List.replicate 14 (.run 1 .none) ++ pushOne 9 ++ stopOne ++
        List.replicate 3 (.run 1 .none) ++ startAgain ++ List.replicate 7 (.run 1 .none)) =
          some world ∧
      world.core.listeners.lookup 1 = some info ∧ info.listener.session = 2 ∧
      info.listener.thread = .send ⟨⟨9, [72]⟩, 1, 1⟩ :=
    ⟨_, _, rfl, rfl, rfl, rfl⟩
  obtain ⟨world, info, next, restarts, mixed⟩ := restarts
  obtain ⟨later, laterInfo, stopsItself, sends⟩ := stopsItself
  exact ⟨⟨world, info, next, TransitionSystem.reachable_of_run rfl restarts, mixed⟩,
    ⟨later, laterInfo, TransitionSystem.reachable_of_run rfl stopsItself, sends⟩⟩

end HttpServer
