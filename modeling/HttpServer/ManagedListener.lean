import HttpServer.Listener
import HttpServer.NetworkManagerCore
import HttpServer.Library.TransitionSystem

/-!
# A listener as the manager uses it

The manager calls a listener in a fixed pattern: `initSocket` only while it has
no socket stored for it, `startListening` right after an `initSocket` that
succeeded, `stopListening` only while it has a socket stored, and the destructor
only after that.  What one entry of `m_Listeners` can go through, its listener's
thread included, is a system of its own.  Its main fact is that under this
pattern `startListening` never fails and the thread never has a handle taken away
or replaced while it uses it.
-/

namespace HttpServer

open Listener

instance : IListener Listener where
  createListener := {}
  pushOutgoing listener message :=
    { listener with
      core := { listener.core with
        outgoingMessages := ThreadSaveQueue.push listener.core.outgoingMessages
          { request := message, session := listener.session, mark := listener.mark } } }
  tryPopReceived listener :=
    let (message, rest) := ThreadSaveQueue.tryPop listener.core.receivedMessages
    (message.map QueuedMessage.request,
      { listener with core := { listener.core with receivedMessages := rest } })
  tryPopError listener :=
    let (err, rest) := ThreadSaveQueue.tryPop listener.core.errorQueue
    (err, { listener with core := { listener.core with errorQueue := rest } })

namespace ListenerCall

def isIdle : ListenerCall → Bool
  | idle => true
  | _ => false

/-- The manager has no socket stored while it makes this call. -/
def isUnbound : ListenerCall → Bool
  | idle | startTest | startSet | startReturned _ => false
  | _ => true

/-- The listener is not listening at this point of the call. -/
def isQuiet : ListenerCall → Bool
  | idle | startReturned _ | stopSet => false
  | _ => true

/-- Between a passed test of `initSocket` and the start of listening. -/
def isApart : ListenerCall → Bool
  | initReturned (.ok _) | startTest | startSet => true
  | call => call.isCreating

end ListenerCall

namespace ListenerCall

variable {call : ListenerCall}

theorem isQuiet_of_isApart (apart : call.isApart = true) : call.isQuiet = true := by
  cases call <;> first | rfl | cases apart

theorem isEnding_eq_false_of_isApart (apart : call.isApart = true) :
    call.isEnding = false := by
  cases call <;> first | rfl | cases apart

theorem isEnding_eq_false_of_isIdle (idle : call.isIdle = true) : call.isEnding = false := by
  cases call <;> first | rfl | cases idle

theorem isQuiet_of_isEnding (ending : call.isEnding = true) : call.isQuiet = true := by
  cases call <;> first | rfl | cases ending

end ListenerCall

namespace ListenThread

/-- The thread is inside the polling loop or about to close what it polled. -/
def usesHandles : ListenThread → Bool
  | pollLoop | pollTest _ | pollOut | send _ | served _ | receive _ | store _
  | storeError | stopListening | closeSocket | resetSocket => true
  | _ => false

/-- The thread is in the first half of `DestroySocket`. -/
def isTearingDown : ListenThread → Bool
  | closeSocket | resetSocket | destroyPollGroup | resetPollGroup => true
  | _ => false

theorem isCommitted_of_usesHandles {place : ListenThread}
    (uses : place.usesHandles = true) : place.isCommitted = true := by
  cases place <;> first | rfl | cases uses

theorem isCommitted_of_isTearingDown {place : ListenThread}
    (closes : place.isTearingDown = true) : place.isCommitted = true := by
  cases place <;> first | rfl | cases closes

end ListenThread

section Run

variable {listener next : Listener} {received : ReceivedMessages}
  (steps : listener.run received = some next)
include steps

theorem run_usesHandles (uses : next.thread.usesHandles = true) :
    listener.thread.usesHandles = true ∨
      listener.thread = .breakTest ∧ listener.running = true := by
  cases runStep_of_run steps with
  | serve place running => exact Or.inr ⟨place, running⟩
  | _ => simp_all [goTo, Listener.record, ListenThread.usesHandles]

theorem run_leaves (leaves : next.thread = .unlock ∨ next.thread = .breakTest) :
    listener.thread = .unlock ∨
      listener.thread = .waitTest ∧
        (listener.running = false ∨ listener.listening = true) := by
  cases runStep_of_run steps with
  | told place ready => exact Or.inr ⟨place, ready⟩
  | unlock place => exact Or.inl place
  | _ => simp_all [goTo, Listener.record]

theorem run_isTearingDown (closes : next.thread.isTearingDown = true) :
    listener.thread.isTearingDown = true ∨
      listener.thread = .pollLoop ∧
        (listener.listening = false ∨ listener.running = false) := by
  cases runStep_of_run steps with
  | tearDown place ends => exact Or.inr ⟨place, ends⟩
  | _ => simp_all [goTo, Listener.record, ListenThread.isTearingDown]

end Run

/-- What can happen to an entry of `m_Listeners`: a step of the listener's
thread, a statement of the call being made on the listener, and what the manager
does before and after such a call and to the queues. -/
inductive EntryAction where
  | run (received : ReceivedMessages)
  | wake
  | callStep (handle : UInt32)
  | beginStart (port : UInt16)
  | initFailed
  | adopt
  | startReturned
  | beginStop
  | stopReturned
  | beginDestroy
  | push (message : Request) (mark : Nat)
  | popReceived
  | popError

namespace ListenerInfo

variable {Listener : Type}

def setListener (info : ListenerInfo Listener) (listener : Listener) :
    ListenerInfo Listener :=
  { info with listener := listener }

end ListenerInfo

/-- The step of one entry. -/
def entryStep (info : ListenerInfo Listener) :
    EntryAction → Option (ListenerInfo Listener)
  | .run received => (info.listener.run received).map info.setListener
  | .wake => info.listener.wake.map info.setListener
  | .callStep handle => (info.listener.callStep handle).map info.setListener
  | .beginStart port =>
      if info.socket = hSteamListenSocketInvalid ∧ info.listener.call.isIdle = true then
        some (info.setListener (info.listener.callGoTo (.initTest port)))
      else none
  | .initFailed =>
      match info.listener.call with
      | .initReturned (.error _) => some (info.setListener (info.listener.callGoTo .idle))
      | _ => none
  | .adopt =>
      match info.listener.call with
      | .initReturned (.ok handlers) =>
          some { info with
            socket := handlers.socket
            listener := { info.listener.callGoTo .startTest with
              session := info.listener.session + 1 } }
      | _ => none
  | .startReturned =>
      match info.listener.call with
      | .startReturned _ => some (info.setListener (info.listener.callGoTo .idle))
      | _ => none
  | .beginStop =>
      if info.socket ≠ hSteamListenSocketInvalid ∧ info.listener.call.isIdle = true then
        some { info with
          socket := hSteamListenSocketInvalid
          listener := info.listener.callGoTo .stopSet }
      else none
  | .stopReturned =>
      match info.listener.call with
      | .stopReturned => some (info.setListener (info.listener.callGoTo .idle))
      | _ => none
  | .beginDestroy =>
      match info.listener.call with
      | .stopReturned => some (info.setListener (info.listener.callGoTo .dtorFlag))
      | .idle =>
          if info.socket = hSteamListenSocketInvalid then
            some (info.setListener (info.listener.callGoTo .dtorFlag))
          else none
      | _ => none
  | .push message mark =>
      if info.socket ≠ hSteamListenSocketInvalid ∧ info.listener.call.isIdle = true then
        some (info.setListener
          (IListener.pushOutgoing { info.listener with mark := mark } message))
      else none
  | .popReceived =>
      if info.listener.call.isIdle then
        some (info.setListener (IListener.tryPopReceived info.listener).2)
      else none
  | .popError =>
      if info.listener.call.isIdle then
        some (info.setListener (IListener.tryPopError info.listener).2)
      else none

/-- All runs of an entry from its creation. -/
def entrySystem : TransitionSystem (ListenerInfo Listener) EntryAction where
  Initial info := info.listener = {} ∧ info.socket = hSteamListenSocketInvalid
  step := entryStep

/-- Everything that can happen to an entry. -/
inductive EntryStep (info : ListenerInfo Listener) :
    EntryAction → ListenerInfo Listener → Prop where
  | run {received : ReceivedMessages} {listener : Listener}
      (runs : info.listener.run received = some listener) :
      EntryStep info (.run received) (info.setListener listener)
  | wake (parked : info.listener.thread = .parked) :
      EntryStep info .wake (info.setListener (info.listener.goTo .notified))
  | callStep {handle : UInt32} {listener : Listener}
      (calls : info.listener.callStep handle = some listener) :
      EntryStep info (.callStep handle) (info.setListener listener)
  | beginStart {port : UInt16} (unbound : info.socket = hSteamListenSocketInvalid)
      (idle : info.listener.call.isIdle = true) :
      EntryStep info (.beginStart port)
        (info.setListener (info.listener.callGoTo (.initTest port)))
  | initFailed {err : ErrorValue} (call : info.listener.call = .initReturned (.error err)) :
      EntryStep info .initFailed (info.setListener (info.listener.callGoTo .idle))
  | adopt {handlers : SocketHandlers}
      (call : info.listener.call = .initReturned (.ok handlers)) :
      EntryStep info .adopt { info with
        socket := handlers.socket
        listener := { info.listener.callGoTo .startTest with
          session := info.listener.session + 1 } }
  | startReturned {result : Result Unit} (call : info.listener.call = .startReturned result) :
      EntryStep info .startReturned (info.setListener (info.listener.callGoTo .idle))
  | beginStop (bound : info.socket ≠ hSteamListenSocketInvalid)
      (idle : info.listener.call.isIdle = true) :
      EntryStep info .beginStop { info with
        socket := hSteamListenSocketInvalid
        listener := info.listener.callGoTo .stopSet }
  | stopReturned (call : info.listener.call = .stopReturned) :
      EntryStep info .stopReturned (info.setListener (info.listener.callGoTo .idle))
  | destroyStopped (call : info.listener.call = .stopReturned) :
      EntryStep info .beginDestroy (info.setListener (info.listener.callGoTo .dtorFlag))
  | destroyIdle (call : info.listener.call = .idle)
      (unbound : info.socket = hSteamListenSocketInvalid) :
      EntryStep info .beginDestroy (info.setListener (info.listener.callGoTo .dtorFlag))
  | push {message : Request} {mark : Nat} (bound : info.socket ≠ hSteamListenSocketInvalid)
      (idle : info.listener.call.isIdle = true) :
      EntryStep info (.push message mark) (info.setListener
        (IListener.pushOutgoing { info.listener with mark := mark } message))
  | popReceived (idle : info.listener.call.isIdle = true) :
      EntryStep info .popReceived
        (info.setListener (IListener.tryPopReceived info.listener).2)
  | popError (idle : info.listener.call.isIdle = true) :
      EntryStep info .popError (info.setListener (IListener.tryPopError info.listener).2)

theorem entryStep_of_entryStep {info next : ListenerInfo Listener} {action : EntryAction}
    (steps : entryStep info action = some next) : EntryStep info action next := by
  cases action with
  | run received =>
      obtain ⟨listener, runs, rfl⟩ := Option.map_eq_some_iff.mp steps
      exact .run runs
  | wake =>
      obtain ⟨listener, wakes, rfl⟩ := Option.map_eq_some_iff.mp steps
      obtain ⟨parked, rfl⟩ := Listener.wake_eq_some.mp wakes
      exact .wake parked
  | callStep handle =>
      obtain ⟨listener, calls, rfl⟩ := Option.map_eq_some_iff.mp steps
      exact .callStep calls
  | beginStart port =>
      dsimp only [entryStep] at steps
      split at steps
      next ready =>
        cases steps
        exact .beginStart ready.1 ready.2
      · cases steps
  | initFailed =>
      dsimp only [entryStep] at steps
      split at steps
      next err call =>
        cases steps
        exact .initFailed call
      · cases steps
  | adopt =>
      dsimp only [entryStep] at steps
      split at steps
      next handlers call =>
        cases steps
        exact .adopt call
      · cases steps
  | startReturned =>
      dsimp only [entryStep] at steps
      split at steps
      next result call =>
        cases steps
        exact .startReturned call
      · cases steps
  | beginStop =>
      dsimp only [entryStep] at steps
      split at steps
      next ready =>
        cases steps
        exact .beginStop ready.1 ready.2
      · cases steps
  | stopReturned =>
      dsimp only [entryStep] at steps
      split at steps
      next call =>
        cases steps
        exact .stopReturned call
      · cases steps
  | beginDestroy =>
      dsimp only [entryStep] at steps
      split at steps
      next call =>
        cases steps
        exact .destroyStopped call
      next call =>
        split at steps
        next unbound =>
          cases steps
          exact .destroyIdle call unbound
        · cases steps
      · cases steps
  | push message mark =>
      dsimp only [entryStep] at steps
      split at steps
      next ready =>
        cases steps
        exact .push ready.1 ready.2
      · cases steps
  | popReceived =>
      dsimp only [entryStep] at steps
      split at steps
      next idle =>
        cases steps
        exact .popReceived idle
      · cases steps
  | popError =>
      dsimp only [entryStep] at steps
      split at steps
      next idle =>
        cases steps
        exact .popError idle
      · cases steps

namespace ListenerInfo

/-- What is known of the handles at each point of a call. -/
def HandlesFit (info : ListenerInfo Listener) : Prop :=
  let core := info.listener.core
  match info.listener.call with
  | .createSocket _ => core.isInitialized = false
  | .createPollGroup | .closeSocket | .resetSocket =>
      core.socket ≠ hSteamListenSocketInvalid ∧ core.pollGroup = hSteamNetPollGroupInvalid
  | .initReturn => core.IsOpen
  | .initReturned (.ok handlers) =>
      core.IsOpen ∧ handlers = ⟨core.socket, core.pollGroup⟩
  | .startTest | .startSet => core.IsOpen ∧ info.socket = core.socket
  | .startReturned result => result = .ok () ∧ info.socket ≠ hSteamListenSocketInvalid
  | _ => True

end ListenerInfo

/-- The manager's view of an entry and the listener's own agree as far as the
two threads allow: a listener that listens has both handles open, its thread
uses open handles only, and they are the ones the manager has stored unless the
thread has reset them. -/
structure Coherent (info : ListenerInfo Listener) : Prop where
  alive : info.listener.running = !info.listener.call.isEnding
  unbound : info.listener.call.isUnbound = true →
    info.socket = hSteamListenSocketInvalid
  quiet : info.listener.call.isQuiet = true → info.listener.listening = false
  idle : info.listener.call.isIdle = true → info.socket = hSteamListenSocketInvalid →
    info.listener.listening = false
  apart : info.listener.call.isApart = true → info.listener.thread.isCommitted = false
  handles : info.HandlesFit
  bound : info.socket ≠ hSteamListenSocketInvalid →
    info.listener.core.socket = info.socket ∨
      info.listener.core.socket = hSteamListenSocketInvalid
  uses : info.listener.thread.usesHandles = true → info.listener.core.IsOpen
  leaves : info.listener.thread = .unlock ∨ info.listener.thread = .breakTest →
    info.listener.running = true → info.listener.core.IsOpen
  closing : info.listener.thread = .destroyPollGroup ∨
    info.listener.thread = .resetPollGroup →
    info.listener.core.socket = hSteamListenSocketInvalid ∧
      info.listener.core.pollGroup ≠ hSteamNetPollGroupInvalid
  listening : info.listener.listening = true →
    info.listener.core.IsOpen ∧ info.listener.thread.isTearingDown = false

namespace Coherent

variable {info next : ListenerInfo Listener}

theorem initial (starts : entrySystem.Initial info) : Coherent info := by
  obtain ⟨fresh, unbound⟩ := starts
  constructor <;> simp [fresh, unbound, ListenerCall.isEnding, ListenerCall.isApart,
    ListenerCall.isCreating, ListenerInfo.HandlesFit, ListenThread.usesHandles]

theorem run (coherent : Coherent info) {received : ReceivedMessages} {listener : Listener}
    (steps : info.listener.run received = some listener) :
    Coherent (info.setListener listener) := by
  obtain ⟨sameCall, sameRunning, _, _⟩ := run_frame steps
  have listening := run_listening steps
  have socket := run_socket steps
  have pollGroup := run_pollGroup steps
  have quieter (quiet : info.listener.listening = false) : listener.listening = false := by
    simp [listening, quiet]
  -- Outside of the teardown the thread keeps both handles.
  have keeps (notReset : info.listener.thread ≠ .resetSocket ∧
      info.listener.thread ≠ .resetPollGroup) :
      listener.core.socket = info.listener.core.socket ∧
        listener.core.pollGroup = info.listener.core.pollGroup := by
    rw [socket, pollGroup, if_neg notReset.1, if_neg notReset.2]
    exact ⟨rfl, rfl⟩
  have openKept (isOpen : info.listener.core.IsOpen)
      (notReset : info.listener.thread ≠ .resetSocket ∧
        info.listener.thread ≠ .resetPollGroup) : listener.core.IsOpen := by
    rw [ListenerCore.IsOpen, (keeps notReset).1, (keeps notReset).2]
    exact isOpen
  -- An apart call sees neither the thread leave its wait nor the handles change.
  have apartKept (apart : info.listener.call.isApart = true) :
      info.listener.listening = false ∧ info.listener.running = true ∧
        info.listener.thread.isCommitted = false := by
    refine ⟨coherent.quiet (ListenerCall.isQuiet_of_isApart apart), ?_, coherent.apart apart⟩
    rw [coherent.alive, ListenerCall.isEnding_eq_false_of_isApart apart]
    rfl
  constructor
  case alive => exact sameRunning.trans (coherent.alive.trans (by rw [← sameCall]; rfl))
  case unbound =>
    intro unbound
    rw [ListenerInfo.setListener, sameCall] at unbound
    exact coherent.unbound unbound
  case quiet =>
    intro quiet
    rw [ListenerInfo.setListener, sameCall] at quiet
    exact quieter (coherent.quiet quiet)
  case idle =>
    intro idle unbound
    rw [ListenerInfo.setListener, sameCall] at idle
    exact quieter (coherent.idle idle unbound)
  case apart =>
    intro apart
    rw [ListenerInfo.setListener, sameCall] at apart
    obtain ⟨quiet, alive, waits⟩ := apartKept apart
    by_contra committed
    rcases run_isCommitted steps (eq_true_of_ne_false committed) with before | ⟨_, stopped | told⟩
    · exact absurd (before.symm.trans waits) (by decide)
    · exact absurd (alive.symm.trans stopped) (by decide)
    · exact absurd (told.symm.trans quiet) (by decide)
  case handles =>
    have fits := coherent.handles
    have sameHandles (apart : info.listener.call.isApart = true) :=
      run_handles steps (coherent.apart apart)
    unfold ListenerInfo.HandlesFit at fits ⊢
    dsimp only [ListenerInfo.setListener]
    rw [sameCall]
    cases call : info.listener.call with
    | createSocket port =>
        rw [call] at fits
        exact run_closed steps fits
    | createPollGroup | closeSocket | resetSocket | initReturn | startTest | startSet =>
        rw [call] at fits sameHandles
        obtain ⟨sameSocket, samePollGroup⟩ := sameHandles rfl
        simpa only [ListenerCore.IsOpen, sameSocket, samePollGroup] using fits
    | initReturned result =>
        rw [call] at fits sameHandles
        cases result with
        | error err => trivial
        | ok handlers =>
            obtain ⟨sameSocket, samePollGroup⟩ := sameHandles rfl
            simpa only [ListenerCore.IsOpen, sameSocket, samePollGroup] using fits
    | startReturned result =>
        rw [call] at fits
        exact fits
    | _ => trivial
  case bound =>
    intro valid
    dsimp only [ListenerInfo.setListener]
    rw [socket]
    split
    · exact Or.inr rfl
    · exact coherent.bound valid
  case uses =>
    intro uses
    rcases run_usesHandles steps uses with before | ⟨place, running⟩
    · apply openKept (coherent.uses before)
      constructor
      · intro place
        have destroys := (run_thread_eq_destroyPollGroup steps).mpr place
        rw [ListenerInfo.setListener, destroys] at uses
        cases uses
      · intro place
        rw [place] at before
        cases before
    · exact openKept (coherent.leaves (Or.inr place) running) (by simp [place])
  case leaves =>
    intro leaves running
    rw [ListenerInfo.setListener, sameRunning] at running
    rcases run_leaves steps leaves with place | ⟨place, stopped | told⟩
    · exact openKept (coherent.leaves (Or.inl place) running) (by simp [place])
    · exact absurd (running.symm.trans stopped) (by decide)
    · exact openKept (coherent.listening told).1 (by simp [place])
  case closing =>
    intro closes
    dsimp only [ListenerInfo.setListener] at closes ⊢
    rw [run_thread_eq_destroyPollGroup steps, run_thread_eq_resetPollGroup steps] at closes
    rw [socket, pollGroup]
    rcases closes with place | place
    · simpa [place] using (coherent.uses (by rw [place]; rfl)).2
    · simpa [place] using coherent.closing (Or.inl place)
  case listening =>
    intro told
    dsimp only [ListenerInfo.setListener] at told ⊢
    rw [listening, Bool.and_eq_true] at told
    obtain ⟨isOpen, notTearing⟩ := coherent.listening told.1
    refine ⟨openKept isOpen ?_, ?_⟩
    · constructor
      · intro place
        rw [place] at notTearing
        cases notTearing
      · intro place
        rw [place] at notTearing
        cases notTearing
    · by_contra closes
      rcases run_isTearingDown steps (eq_true_of_ne_false closes) with before | ⟨_, quiet | stopped⟩
      · exact absurd (before.symm.trans notTearing) (by decide)
      · exact absurd (told.1.symm.trans quiet) (by decide)
      · have ending : info.listener.call.isEnding = true := by
          rw [coherent.alive] at stopped
          simpa using stopped
        have quiet := coherent.quiet (ListenerCall.isQuiet_of_isEnding ending)
        exact absurd (told.1.symm.trans quiet) (by decide)

/-- The call moves on, and neither the thread nor the handles nor the flags
change. -/
theorem moveCall (coherent : Coherent info)
    (thread : next.listener.thread = info.listener.thread)
    (socket : next.listener.core.socket = info.listener.core.socket)
    (pollGroup : next.listener.core.pollGroup = info.listener.core.pollGroup)
    (listening : next.listener.listening = info.listener.listening)
    (running : next.listener.running = info.listener.running)
    (ending : next.listener.call.isEnding = info.listener.call.isEnding)
    (unbound : next.listener.call.isUnbound = true →
      next.socket = hSteamListenSocketInvalid)
    (quiet : next.listener.call.isQuiet = true → info.listener.listening = false)
    (idle : next.listener.call.isIdle = true → next.socket = hSteamListenSocketInvalid →
      info.listener.listening = false)
    (apart : next.listener.call.isApart = true → info.listener.thread.isCommitted = false)
    (handles : next.HandlesFit)
    (bound : next.socket ≠ hSteamListenSocketInvalid →
      info.listener.core.socket = next.socket ∨
        info.listener.core.socket = hSteamListenSocketInvalid) : Coherent next := by
  constructor
  case alive =>
    rw [running, ending]
    exact coherent.alive
  case unbound => exact unbound
  case quiet =>
    rw [listening]
    exact quiet
  case idle =>
    rw [listening]
    exact idle
  case apart =>
    rw [thread]
    exact apart
  case handles => exact handles
  case bound =>
    rw [socket]
    exact bound
  case uses =>
    rw [thread, ListenerCore.IsOpen, socket, pollGroup]
    exact coherent.uses
  case leaves =>
    rw [thread, running, ListenerCore.IsOpen, socket, pollGroup]
    exact coherent.leaves
  case closing =>
    rw [thread, socket, pollGroup]
    exact coherent.closing
  case listening =>
    rw [listening, thread, ListenerCore.IsOpen, socket, pollGroup]
    exact coherent.listening

/-- While the thread waits and the listener is not listening, the handles may
change. -/
theorem create (coherent : Coherent info)
    (unboundBefore : info.socket = hSteamListenSocketInvalid)
    (quietBefore : info.listener.listening = false)
    (waits : info.listener.thread.isCommitted = false)
    (alive : info.listener.call.isEnding = false)
    (socket : next.socket = info.socket)
    (thread : next.listener.thread = info.listener.thread)
    (listening : next.listener.listening = info.listener.listening)
    (running : next.listener.running = info.listener.running)
    (ending : next.listener.call.isEnding = false)
    (handles : next.HandlesFit) : Coherent next := by
  have notPlace (place : ListenThread) (committed : place.isCommitted = true) :
      next.listener.thread ≠ place := by
    rintro rfl
    rw [thread, waits] at committed
    cases committed
  constructor
  case alive => rw [running, ending, coherent.alive, alive]
  case unbound => exact fun _ => socket.trans unboundBefore
  case quiet => exact fun _ => listening.trans quietBefore
  case idle => exact fun _ _ => listening.trans quietBefore
  case apart => exact fun _ => by rw [thread, waits]
  case handles => exact handles
  case bound => exact fun valid => absurd (socket.trans unboundBefore) valid
  case uses =>
    intro uses
    rw [thread] at uses
    have committed := ListenThread.isCommitted_of_usesHandles uses
    rw [waits] at committed
    cases committed
  case leaves =>
    rintro (place | place)
    · exact absurd place (notPlace _ rfl)
    · exact absurd place (notPlace _ rfl)
  case closing =>
    rintro (place | place)
    · exact absurd place (notPlace _ rfl)
    · exact absurd place (notPlace _ rfl)
  case listening =>
    intro told
    rw [listening, quietBefore] at told
    cases told

theorem notify (coherent : Coherent info) :
    Coherent (info.setListener info.listener.notify) := by
  unfold Listener.notify
  split
  next parked =>
    have place := ListenThread.isParked_eq_true.mp parked
    constructor
    case alive => exact coherent.alive
    case unbound => exact coherent.unbound
    case quiet => exact coherent.quiet
    case idle => exact coherent.idle
    case apart => exact fun _ => rfl
    case handles => exact coherent.handles
    case bound => exact coherent.bound
    case uses => exact fun uses => by cases uses
    case leaves => exact fun leaves => by cases leaves <;> contradiction
    case closing => exact fun closes => by cases closes <;> contradiction
    case listening => exact fun told => ⟨(coherent.listening told).1, rfl⟩
  next => exact coherent

theorem listen (coherent : Coherent info) (isOpen : info.listener.core.IsOpen)
    (waits : info.listener.thread.isCommitted = false)
    (notQuiet : info.listener.call.isQuiet = false)
    (notIdle : info.listener.call.isIdle = false) :
    Coherent (info.setListener { info.listener with listening := true }) := by
  constructor
  case alive => exact coherent.alive
  case unbound => exact coherent.unbound
  case quiet =>
    intro quiet
    exact absurd (quiet.symm.trans notQuiet) (by decide)
  case idle =>
    intro idle
    exact absurd (idle.symm.trans notIdle) (by decide)
  case apart => exact coherent.apart
  case handles => exact coherent.handles
  case bound => exact coherent.bound
  case uses => exact coherent.uses
  case leaves => exact coherent.leaves
  case closing => exact coherent.closing
  case listening =>
    refine fun _ => ⟨isOpen, ?_⟩
    by_contra closes
    have committed := ListenThread.isCommitted_of_isTearingDown (eq_true_of_ne_false closes)
    exact absurd (committed.symm.trans waits) (by decide)

theorem hush (coherent : Coherent info) :
    Coherent (info.setListener { info.listener with listening := false }) := by
  constructor
  case alive => exact coherent.alive
  case unbound => exact coherent.unbound
  case quiet => exact fun _ => rfl
  case idle => exact fun _ _ => rfl
  case apart => exact coherent.apart
  case handles => exact coherent.handles
  case bound => exact coherent.bound
  case uses => exact coherent.uses
  case leaves => exact coherent.leaves
  case closing => exact coherent.closing
  case listening => exact nofun

/-- With both handles invalid and the listener running, the thread is outside of
its iteration. -/
theorem waits_of_closed (coherent : Coherent info)
    (running : info.listener.running = true)
    (closed : info.listener.core.isInitialized = false) :
    info.listener.thread.isCommitted = false := by
  rw [ListenerCore.isInitialized_eq_false] at closed
  by_contra committed
  have notOpen : ¬ info.listener.core.IsOpen := fun isOpen => isOpen.1 closed.1
  cases place : info.listener.thread <;> rw [place] at committed
  case unlock => exact notOpen (coherent.leaves (Or.inl place) running)
  case breakTest => exact notOpen (coherent.leaves (Or.inr place) running)
  case destroyPollGroup => exact (coherent.closing (Or.inl place)).2 closed.2
  case resetPollGroup => exact (coherent.closing (Or.inr place)).2 closed.2
  all_goals first
    | exact committed rfl
    | exact notOpen (coherent.uses (by rw [place]; rfl))

theorem callStep (coherent : Coherent info) {handle : UInt32} {listener : Listener}
    (steps : info.listener.callStep handle = some listener) :
    Coherent (info.setListener listener) := by
  have unbound := coherent.unbound
  have quiet := coherent.quiet
  have fits := coherent.handles
  have alive := coherent.alive
  unfold ListenerInfo.HandlesFit at fits
  have waits := coherent.apart
  cases callStep_of_callStep steps with
  | initListening call | initTest call | initInitialized call =>
      rw [call] at unbound quiet
      exact coherent.moveCall rfl rfl rfl rfl rfl (by rw [call]; rfl) (fun _ => unbound rfl)
        (fun _ => quiet rfl) nofun nofun trivial coherent.bound
  | initGuard call closed =>
      rw [call] at unbound quiet alive
      have outside := coherent.waits_of_closed alive closed
      exact coherent.moveCall rfl rfl rfl rfl rfl (by rw [call]; rfl) (fun _ => unbound rfl)
        (fun _ => quiet rfl) nofun (fun _ => outside) closed coherent.bound
  | socketFailed call failed =>
      rw [call] at unbound quiet waits
      exact coherent.create (unbound rfl) (quiet rfl) (waits rfl) (by rw [call]; rfl) rfl rfl
        rfl rfl rfl trivial
  | createSocket call valid =>
      rw [call] at unbound quiet waits fits
      dsimp only at fits
      rw [ListenerCore.isInitialized_eq_false] at fits
      exact coherent.create (unbound rfl) (quiet rfl) (waits rfl) (by rw [call]; rfl) rfl rfl
        rfl rfl rfl ⟨valid, fits.2⟩
  | pollGroupFailed call failed =>
      rw [call] at unbound quiet waits fits
      exact coherent.create (unbound rfl) (quiet rfl) (waits rfl) (by rw [call]; rfl) rfl rfl
        rfl rfl rfl ⟨fits.1, failed⟩
  | createPollGroup call valid =>
      rw [call] at unbound quiet waits fits
      exact coherent.create (unbound rfl) (quiet rfl) (waits rfl) (by rw [call]; rfl) rfl rfl
        rfl rfl rfl ⟨fits.1, valid⟩
  | closeSocket call =>
      rw [call] at unbound quiet waits fits
      exact coherent.create (unbound rfl) (quiet rfl) (waits rfl) (by rw [call]; rfl) rfl rfl
        rfl rfl rfl fits
  | resetSocket call =>
      rw [call] at unbound quiet waits
      exact coherent.create (unbound rfl) (quiet rfl) (waits rfl) (by rw [call]; rfl) rfl rfl
        rfl rfl rfl trivial
  | initReturn call =>
      rw [call] at unbound quiet waits fits
      exact coherent.moveCall rfl rfl rfl rfl rfl (by rw [call]; rfl) (fun _ => unbound rfl)
        (fun _ => quiet rfl) nofun waits ⟨fits, rfl⟩ coherent.bound
  | startInvalid call invalid =>
      rw [call] at fits
      rcases invalid with invalid | invalid
      · exact absurd invalid fits.1.1
      · exact absurd invalid fits.1.2
  | startTest call =>
      rw [call] at quiet waits fits
      exact coherent.moveCall rfl rfl rfl rfl rfl (by rw [call]; rfl) nofun
        (fun _ => quiet rfl) nofun waits fits coherent.bound
  | startSet call =>
      rw [call] at waits fits
      have valid : info.socket ≠ hSteamListenSocketInvalid := by
        rw [fits.2]
        exact fits.1.1
      have moved : Coherent (info.setListener
          (info.listener.callGoTo (.startReturned (.ok ())))) :=
        coherent.moveCall rfl rfl rfl rfl rfl (by rw [call]; rfl) nofun nofun nofun nofun
          ⟨rfl, valid⟩ coherent.bound
      refine moved.notify.listen ?_ ?_ ?_ ?_
      · rw [ListenerInfo.setListener, notify_core]
        exact fits.1
      · rw [ListenerInfo.setListener, notify_isCommitted]
        exact waits rfl
      · rw [ListenerInfo.setListener, notify_call]
        rfl
      · rw [ListenerInfo.setListener, notify_call]
        rfl
  | stopSet call =>
      rw [call] at unbound
      have moved : Coherent (info.setListener
          { info.listener.callGoTo .stopReturned with listening := false }) :=
        coherent.hush.moveCall rfl rfl rfl rfl rfl
          (congrArg ListenerCall.isEnding call).symm (fun _ => unbound rfl)
          (fun _ => rfl) nofun nofun trivial coherent.bound
      rw [notify_listening]
      exact moved.notify
  | dtorFlag call =>
      rw [call] at unbound quiet
      constructor
      case alive => rfl
      case unbound => exact fun _ => unbound rfl
      case quiet => exact fun _ => quiet rfl
      case idle => exact nofun
      case apart => exact nofun
      case handles => trivial
      case bound => exact coherent.bound
      case uses => exact coherent.uses
      case leaves => exact nofun
      case closing => exact coherent.closing
      case listening => exact coherent.listening
  | dtorNotify call =>
      rw [call] at unbound quiet
      have moved : Coherent (info.setListener (info.listener.callGoTo .dtorJoin)) :=
        coherent.moveCall rfl rfl rfl rfl rfl (by rw [call]; rfl) (fun _ => unbound rfl)
          (fun _ => quiet rfl) nofun nofun trivial coherent.bound
      exact moved.notify
  | dtorJoin call =>
      rw [call] at unbound quiet
      exact coherent.moveCall rfl rfl rfl rfl rfl (by rw [call]; rfl) (fun _ => unbound rfl)
        (fun _ => quiet rfl) nofun nofun trivial coherent.bound

/-- A call begins or ends, and the manager changes nothing but its own record. -/
theorem entryStep (coherent : Coherent info) {action : EntryAction}
    (steps : HttpServer.entryStep info action = some next) : Coherent next := by
  have quiet := coherent.quiet
  have unbound := coherent.unbound
  have fits := coherent.handles
  unfold ListenerInfo.HandlesFit at fits
  cases entryStep_of_entryStep steps with
  | run runs => exact coherent.run runs
  | wake parked =>
      rw [← notify_of_parked parked]
      exact coherent.notify
  | callStep calls => exact coherent.callStep calls
  | beginStart unbound idle =>
      have quiet := coherent.idle idle unbound
      exact coherent.moveCall rfl rfl rfl rfl rfl
        (ListenerCall.isEnding_eq_false_of_isIdle idle).symm (fun _ => unbound)
        (fun _ => quiet) nofun nofun trivial coherent.bound
  | initFailed call | stopReturned call =>
      rw [call] at quiet
      exact coherent.moveCall rfl rfl rfl rfl rfl (by rw [call]; rfl) nofun
        nofun (fun _ _ => quiet rfl) nofun trivial coherent.bound
  | adopt call =>
      have waits := coherent.apart (by rw [call]; rfl)
      rw [call] at quiet fits
      obtain ⟨isOpen, rfl⟩ := fits
      exact coherent.moveCall rfl rfl rfl rfl rfl (by rw [call]; rfl) nofun
        (fun _ => quiet rfl) nofun (fun _ => waits) ⟨isOpen, rfl⟩ fun _ => Or.inl rfl
  | startReturned call =>
      rw [call] at fits
      exact coherent.moveCall rfl rfl rfl rfl rfl (by rw [call]; rfl) nofun nofun
        (fun _ unbound => absurd unbound fits.2) nofun trivial coherent.bound
  | beginStop bound idle =>
      exact coherent.moveCall rfl rfl rfl rfl rfl
        (ListenerCall.isEnding_eq_false_of_isIdle idle).symm (fun _ => rfl)
        nofun nofun nofun trivial fun valid => absurd rfl valid
  | destroyStopped call =>
      rw [call] at quiet unbound
      exact coherent.moveCall rfl rfl rfl rfl rfl (by rw [call]; rfl) (fun _ => unbound rfl)
        (fun _ => quiet rfl) nofun nofun trivial coherent.bound
  | destroyIdle call unbound =>
      have quiet := coherent.idle (by rw [call]; rfl) unbound
      exact coherent.moveCall rfl rfl rfl rfl rfl (by rw [call]; rfl) (fun _ => unbound)
        (fun _ => quiet) nofun nofun trivial coherent.bound
  | push | popReceived | popError =>
      exact coherent.moveCall rfl rfl rfl rfl rfl rfl coherent.unbound coherent.quiet
        coherent.idle coherent.apart coherent.handles coherent.bound

end Coherent

theorem coherent_of_reachable {condition : ListenerInfo Listener → EntryAction → Prop}
    {info : ListenerInfo Listener} (reaches : entrySystem.ReachableWhere condition info) :
    Coherent info := by
  refine reaches.invariant Coherent ?_ ?_
  · exact fun info starts => Coherent.initial starts
  · exact fun info action next _ coherent _ stepTo => coherent.entryStep stepTo

end HttpServer
