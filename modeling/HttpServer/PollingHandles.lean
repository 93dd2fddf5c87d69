import HttpServer.HandleProtocol
import HttpServer.ManagerEntries
import HttpServer.Library.RefinementMapping

/-!
# The handles that a listener polls

The thread of a listener closes the handles that the network thread creates, and
the two share no lock.  Seen from its handles every listener nevertheless keeps
to the order in which they are created, used and closed: the test at the head of
`initSocket` holds it off until `DestroySocket` has reset both handles, and
nothing but `startListening` lets the thread poll.
-/

namespace HttpServer

open UnorderedMap NetworkManagerCore ManagerWorld TransitionSystem

def ListenerCall.isInitReturn : ListenerCall → Bool
  | initReturn => true
  | _ => false

theorem ListenerCall.isInitReturn_of_isIdle {call : ListenerCall}
    (idle : call.isIdle = true) : call.isInitReturn = false := by
  cases call <;> first | rfl | cases idle

namespace Listener

variable {listener next : Listener}

def handlers (listener : Listener) : SocketHandlers :=
  ⟨listener.core.socket, listener.core.pollGroup⟩

/-- Both handles are stored, and no `initSocket` is still to return them. -/
def holdsHandles (listener : Listener) : Bool :=
  decide (listener.core.socket ≠ hSteamListenSocketInvalid ∧
    listener.core.pollGroup ≠ hSteamNetPollGroupInvalid) && !listener.call.isInitReturn

@[simp]
theorem holdsHandles_eq_true : listener.holdsHandles = true ↔
    listener.core.IsOpen ∧ listener.call.isInitReturn = false := by
  simp [holdsHandles, ListenerCore.IsOpen]

/-- Which of the stored handles are open: both, once `initSocket` has returned and
until `DestroySocket` closes them. -/
def handlePhase (listener : Listener) : HandlePhase :=
  match listener.thread with
  | .closeSocket => .closing listener.handlers
  | .resetSocket | .destroyPollGroup => .halfClosed listener.core.pollGroup
  | .resetPollGroup => .closed
  | _ => if listener.holdsHandles then .opened listener.handlers else .closed

/-- The events of the next statement of the listener's thread. -/
def runEvents (listener : Listener) : List HandleEvent :=
  match listener.thread with
  | .receive _ => [.received listener.core.pollGroup]
  | .pollLoop => if listener.listening && listener.running then [] else [.destroyBegins]
  | .closeSocket => [.socketClosed listener.core.socket]
  | .destroyPollGroup => [.pollGroupDestroyed listener.core.pollGroup]
  | _ => []

/-- The events of the next statement of the call on the listener. -/
def callEvents (listener : Listener) : List HandleEvent :=
  match listener.call with
  | .initReturn => [.initialized listener.handlers]
  | _ => []

theorem holdsHandles_congr (socket : next.core.socket = listener.core.socket)
    (pollGroup : next.core.pollGroup = listener.core.pollGroup)
    (returning : next.call.isInitReturn = listener.call.isInitReturn) :
    next.holdsHandles = listener.holdsHandles := by
  simp only [holdsHandles, socket, pollGroup, returning]

theorem handlePhase_congr (thread : next.thread = listener.thread)
    (socket : next.core.socket = listener.core.socket)
    (pollGroup : next.core.pollGroup = listener.core.pollGroup)
    (returning : next.call.isInitReturn = listener.call.isInitReturn) :
    next.handlePhase = listener.handlePhase := by
  simp only [handlePhase, handlers, holdsHandles_congr socket pollGroup returning, thread,
    socket, pollGroup]

/-- Outside of `DestroySocket` the handles are open or closed. -/
theorem handlePhase_of_not_isTearingDown (elsewhere : listener.thread.isTearingDown = false) :
    listener.handlePhase =
      if listener.holdsHandles then .opened listener.handlers else .closed := by
  unfold handlePhase
  cases place : listener.thread <;> rw [place] at elsewhere <;> first | rfl | cases elsewhere

theorem handlePhase_of_open (elsewhere : listener.thread.isTearingDown = false)
    (isOpen : listener.core.IsOpen) (returned : listener.call.isInitReturn = false) :
    listener.handlePhase = .opened listener.handlers := by
  rw [handlePhase_of_not_isTearingDown elsewhere,
    if_pos (holdsHandles_eq_true.mpr ⟨isOpen, returned⟩)]

theorem handlePhase_of_not_open (elsewhere : listener.thread.isTearingDown = false)
    (notOpen : ¬ listener.core.IsOpen ∨ listener.call.isInitReturn = true) :
    listener.handlePhase = .closed := by
  rw [handlePhase_of_not_isTearingDown elsewhere, if_neg]
  rw [holdsHandles_eq_true]
  rcases notOpen with shut | returning
  · exact fun holds => shut holds.1
  · simp [returning]

@[simp]
theorem notify_handlePhase : listener.notify.handlePhase = listener.handlePhase := by
  unfold notify
  split
  next parked =>
    have place := ListenThread.isParked_eq_true.mp parked
    rw [handlePhase_of_not_isTearingDown (by rfl),
      handlePhase_of_not_isTearingDown (by rw [place]; rfl)]
    rfl
  next => rfl

end Listener

namespace Coherent

variable {info : ListenerInfo Listener}

/-- A thread that has left its wait is in no race with an `initSocket`. -/
theorem isInitReturn_of_isCommitted (coherent : Coherent info)
    (committed : info.listener.thread.isCommitted = true) :
    info.listener.call.isInitReturn = false := by
  cases call : info.listener.call with
  | initReturn =>
      have waits := coherent.apart (by rw [call]; rfl)
      rw [committed] at waits
      cases waits
  | _ => rfl

/-- While the thread polls, the handles that it polls are open. -/
theorem handlePhase_of_usesHandles (coherent : Coherent info)
    (uses : info.listener.thread.usesHandles = true)
    (elsewhere : info.listener.thread.isTearingDown = false) :
    info.listener.handlePhase = .opened info.listener.handlers :=
  Listener.handlePhase_of_open elsewhere (coherent.uses uses)
    (coherent.isInitReturn_of_isCommitted (ListenThread.isCommitted_of_usesHandles uses))

/-- The thread moves on without an event. -/
theorem follows_quietly {object : Listener}
    (quiet : info.listener.runEvents = [])
    (before : info.listener.thread.isTearingDown = false)
    (after : object.thread.isTearingDown = false)
    (socket : object.core.socket = info.listener.core.socket)
    (pollGroup : object.core.pollGroup = info.listener.core.pollGroup)
    (call : object.call = info.listener.call) :
    handleProtocol.Steps info.listener.handlePhase info.listener.runEvents
      object.handlePhase := by
  have same : object.handlePhase = info.listener.handlePhase := by
    rw [Listener.handlePhase_of_not_isTearingDown before,
      Listener.handlePhase_of_not_isTearingDown after]
    simp only [Listener.handlers, socket, pollGroup,
      Listener.holdsHandles_congr socket pollGroup (congrArg ListenerCall.isInitReturn call)]
  rw [quiet, same]
  exact .refl

/-- The thread polls the open poll group. -/
theorem follows_polling (coherent : Coherent info) {object : Listener} {polledOutMsg : Bool}
    (place : info.listener.thread = .receive polledOutMsg)
    (after : object.thread.isTearingDown = false)
    (core : object.core = info.listener.core) (call : object.call = info.listener.call) :
    handleProtocol.Steps info.listener.handlePhase info.listener.runEvents
      object.handlePhase := by
  have polls : info.listener.runEvents = [.received info.listener.core.pollGroup] := by
    simp [Listener.runEvents, place]
  have isOpen := coherent.uses (by rw [place]; rfl)
  have returned := coherent.isInitReturn_of_isCommitted (by rw [place]; rfl)
  have same : object.handlers = info.listener.handlers := by
    simp only [Listener.handlers, core]
  rw [Listener.handlePhase_of_open (by rw [place]; rfl) isOpen returned,
    Listener.handlePhase_of_open after (core ▸ isOpen) (call ▸ returned), polls, same]
  exact StepsWhere.single trivial (by simp [handleProtocol, Listener.handlers])

/-- A statement of the thread follows the protocol. -/
theorem run_follows (coherent : Coherent info) {received : ReceivedMessages}
    {object : Listener} (steps : info.listener.run received = some object) :
    handleProtocol.Steps info.listener.handlePhase info.listener.runEvents
      object.handlePhase := by
  have opened := coherent.handlePhase_of_usesHandles
  cases Listener.runStep_of_run steps with
  | tearDown place ends =>
      have begins : info.listener.runEvents = [.destroyBegins] := by
        rcases ends with quiet | stopped
        · simp [Listener.runEvents, place, quiet]
        · simp [Listener.runEvents, place, stopped]
      rw [opened (by rw [place]; rfl) (by rw [place]; rfl), begins]
      exact StepsWhere.single trivial rfl
  | receiveNone place | receive place | receiveNegative place =>
      exact coherent.follows_polling place rfl rfl rfl
  | closeSocket place =>
      have closes : info.listener.runEvents = [.socketClosed info.listener.core.socket] := by
        simp [Listener.runEvents, place]
      have before : info.listener.handlePhase = .closing info.listener.handlers := by
        simp [Listener.handlePhase, place]
      rw [before, closes]
      exact StepsWhere.single trivial (by simp [handleProtocol, Listener.handlers]; rfl)
  | resetSocket place =>
      have quiet : info.listener.runEvents = [] := by simp [Listener.runEvents, place]
      have before : info.listener.handlePhase = .halfClosed info.listener.core.pollGroup := by
        simp [Listener.handlePhase, place]
      rw [before, quiet]
      exact .refl
  | destroyPollGroup place =>
      have destroys : info.listener.runEvents =
          [.pollGroupDestroyed info.listener.core.pollGroup] := by
        simp [Listener.runEvents, place]
      have before : info.listener.handlePhase = .halfClosed info.listener.core.pollGroup := by
        simp [Listener.handlePhase, place]
      rw [before, destroys]
      exact StepsWhere.single trivial (by simp [handleProtocol]; rfl)
  | resetPollGroup place =>
      have quiet : info.listener.runEvents = [] := by simp [Listener.runEvents, place]
      have before : info.listener.handlePhase = .closed := by
        simp [Listener.handlePhase, place]
      rw [before, quiet, Listener.handlePhase_of_not_open rfl
        (Or.inl fun isOpen => isOpen.2 rfl)]
      exact .refl
  | poll place listening running =>
      exact follows_quietly (by simp [Listener.runEvents, place, listening, running])
        (by rw [place]; rfl) rfl rfl rfl rfl
  | _ place =>
      exact follows_quietly (by simp [Listener.runEvents, place]) (by rw [place]; rfl) rfl rfl
        rfl rfl

/-- The test at the head of `initSocket` lets it create handles only while the
thread waits. -/
theorem not_isTearingDown_of_isCreating (coherent : Coherent info)
    (creating : info.listener.call.isCreating = true) :
    info.listener.thread.isTearingDown = false := by
  have apart : info.listener.call.isApart = true := by
    cases call : info.listener.call <;> rw [call] at creating <;> first | rfl | cases creating
  have waits := coherent.apart apart
  cases place : info.listener.thread <;> rw [place] at waits <;> first | rfl | cases waits

/-- `initSocket` goes on, and the handles are closed before and after. -/
theorem follows_creating (coherent : Coherent info) {object : Listener}
    (creating : info.listener.call.isCreating = true)
    (quiet : info.listener.callEvents = []) (shut : ¬ info.listener.core.IsOpen)
    (thread : object.thread = info.listener.thread)
    (after : ¬ object.core.IsOpen ∨ object.call.isInitReturn = true) :
    handleProtocol.Steps info.listener.handlePhase info.listener.callEvents
      object.handlePhase := by
  have elsewhere := coherent.not_isTearingDown_of_isCreating creating
  rw [quiet, Listener.handlePhase_of_not_open elsewhere (Or.inl shut),
    Listener.handlePhase_of_not_open (thread ▸ elsewhere) after]
  exact .refl

/-- The call moves on without touching the handles. -/
theorem follows_calling {object : Listener} (quiet : info.listener.callEvents = [])
    (same : object.handlePhase = info.listener.handlePhase) :
    handleProtocol.Steps info.listener.handlePhase info.listener.callEvents
      object.handlePhase := by
  rw [quiet, same]
  exact .refl

/-- A statement of the call follows the protocol. -/
theorem callStep_follows (coherent : Coherent info) {handle : UInt32} {object : Listener}
    (steps : info.listener.callStep handle = some object) :
    handleProtocol.Steps info.listener.handlePhase info.listener.callEvents
      object.handlePhase := by
  have fits := coherent.handles
  unfold ListenerInfo.HandlesFit at fits
  cases Listener.callStep_of_callStep steps with
  | initReturn call =>
      rw [call] at fits
      have elsewhere := coherent.not_isTearingDown_of_isCreating (by rw [call]; rfl)
      have returns : info.listener.callEvents = [.initialized info.listener.handlers] := by
        simp [Listener.callEvents, call]
      have after : (info.listener.callGoTo (.initReturned
          (.ok info.listener.handlers))).handlePhase = .opened info.listener.handlers :=
        Listener.handlePhase_of_open elsewhere fits rfl
      rw [returns, Listener.handlePhase_of_not_open elsewhere (Or.inr (by rw [call]; rfl))]
      exact StepsWhere.single trivial (congrArg some after.symm)
  | socketFailed call failed =>
      rw [call] at fits
      have closed := ListenerCore.isInitialized_eq_false.mp fits
      exact coherent.follows_creating (by rw [call]; rfl) (by simp [Listener.callEvents, call])
        (fun isOpen => isOpen.1 closed.1) rfl (Or.inl fun isOpen => isOpen.1 failed)
  | createSocket call valid =>
      rw [call] at fits
      have closed := ListenerCore.isInitialized_eq_false.mp fits
      exact coherent.follows_creating (by rw [call]; rfl) (by simp [Listener.callEvents, call])
        (fun isOpen => isOpen.1 closed.1) rfl (Or.inl fun isOpen => isOpen.2 closed.2)
  | pollGroupFailed call failed =>
      rw [call] at fits
      exact coherent.follows_creating (by rw [call]; rfl) (by simp [Listener.callEvents, call])
        (fun isOpen => isOpen.2 fits.2) rfl (Or.inl fun isOpen => isOpen.2 failed)
  | createPollGroup call valid =>
      rw [call] at fits
      exact coherent.follows_creating (by rw [call]; rfl) (by simp [Listener.callEvents, call])
        (fun isOpen => isOpen.2 fits.2) rfl (Or.inr rfl)
  | closeSocket call =>
      rw [call] at fits
      exact coherent.follows_creating (by rw [call]; rfl) (by simp [Listener.callEvents, call])
        (fun isOpen => isOpen.2 fits.2) rfl (Or.inl fun isOpen => isOpen.2 fits.2)
  | resetSocket call =>
      rw [call] at fits
      exact coherent.follows_creating (by rw [call]; rfl) (by simp [Listener.callEvents, call])
        (fun isOpen => isOpen.2 fits.2) rfl (Or.inl fun isOpen => isOpen.1 rfl)
  | startSet call | stopSet call =>
      refine follows_calling (by simp [Listener.callEvents, call]) ?_
      rw [Listener.notify_listening, Listener.notify_handlePhase]
      exact Listener.handlePhase_congr rfl rfl rfl (by rw [call]; rfl)
  | dtorNotify call =>
      refine follows_calling (by simp [Listener.callEvents, call]) ?_
      rw [Listener.notify_handlePhase]
      exact Listener.handlePhase_congr rfl rfl rfl (by rw [call]; rfl)
  | _ call =>
      exact follows_calling (by simp [Listener.callEvents, call])
        (Listener.handlePhase_congr rfl rfl rfl (by rw [call]; rfl))

end Coherent

/-- The move is a statement of the listener's thread or of a call on it. -/
def EntryAction.isStatement : EntryAction → Bool
  | .run _ | .callStep _ => true
  | _ => false

/-- What the manager does around the calls and to the queues leaves the handles
alone. -/
theorem handlePhase_entryStep {info next : ListenerInfo Listener} {move : EntryAction}
    (steps : entryStep info move = some next) (manages : move.isStatement = false) :
    next.listener.handlePhase = info.listener.handlePhase := by
  cases entryStep_of_entryStep steps with
  | run | callStep => cases manages
  | wake parked =>
      rw [← Listener.notify_of_parked parked]
      exact Listener.notify_handlePhase
  | beginStart _ idle | beginStop _ idle =>
      exact Listener.handlePhase_congr rfl rfl rfl
        (ListenerCall.isInitReturn_of_isIdle idle).symm
  | push | popReceived | popError => exact Listener.handlePhase_congr rfl rfl rfl rfl
  | initFailed call | adopt call | startReturned call | stopReturned call
  | destroyStopped call | destroyIdle call =>
      exact Listener.handlePhase_congr rfl rfl rfl (by rw [call]; rfl)

namespace ManagerWorld

/-- The phase of the listener that has the handle, if there is one. -/
def handlePhase (listener : HListener) (world : ManagerWorld) : HandlePhase :=
  match world.core.listeners.lookup listener with
  | none => .closed
  | some info => info.listener.handlePhase

/-- The events of a step that are about the listener's handles. -/
def handleEvents (listener : HListener) (world : ManagerWorld) (action : ManagerAction) :
    List HandleEvent :=
  match world.core.listeners.lookup listener, action with
  | some info, .run other _ => if other = listener then info.listener.runEvents else []
  | some info, .listenerCall _ =>
      if world.net.listener? = some listener then info.listener.callEvents else []
  | some info, .proceed =>
      match world.net with
      | .destroying other =>
          if other = listener ∧ info.listener.call.isDestroyed = true then [.discarded]
          else []
      | _ => []
  | _, _ => []

variable {world next : ManagerWorld} {listener : HListener} {info : ListenerInfo Listener}

theorem present_callListener {core : NetworkManagerCore Listener} {other : HListener}
    {call : Listener → Listener} (found : core.listeners.lookup listener = some info) :
    ∃ changed, (core.callListener other call).listeners.lookup listener = some changed := by
  rw [lookup_callListener]
  split
  next same =>
    subst other
    exact ⟨_, by rw [found]; rfl⟩
  · exact ⟨info, found⟩

theorem present_adoptSocket {core : NetworkManagerCore Listener} {other : HListener}
    {handlers : SocketHandlers} (found : core.listeners.lookup listener = some info) :
    ∃ changed, (core.adoptSocket other handlers).listeners.lookup listener = some changed := by
  rw [lookup_adoptSocket]
  split
  next same =>
    subst other
    exact ⟨_, by rw [found]; rfl⟩
  · exact ⟨info, found⟩

/-- The operation in progress goes on and erases the entry only after its
destructor has returned. -/
theorem present_proceed (found : world.core.listeners.lookup listener = some info)
    {call : ListenerCall} (proceeds : ProceedStep world listener call next) :
    (∃ changed, next.core.listeners.lookup listener = some changed) ∨
      (∃ other, world.net = .destroying other) ∧ call.isDestroyed = true := by
  cases proceeds with
  | initFails | startFails | started | stopped => exact Or.inl (present_callListener found)
  | adopts =>
      obtain ⟨adopted, foundAdopted⟩ := present_adoptSocket found
      exact Or.inl (present_callListener (by rw [listeners_record]; exact foundAdopted))
  | destructs => exact Or.inl (present_callListener (by rw [listeners_record]; exact found))
  | @erases other net => exact Or.inr ⟨⟨other, net⟩, rfl⟩

/-- An entry goes only at the end of `DestroyListener`. -/
theorem kept_of_step {action : ManagerAction} (fits : world.CallsFit)
    (steps : managerSystem.step world action = some next)
    (found : world.core.listeners.lookup listener = some info) :
    (∃ changed, next.core.listeners.lookup listener = some changed) ∨
      action = .proceed ∧ world.net = .destroying listener ∧
        info.listener.call.isDestroyed = true := by
  by_cases target : world.net.listener? = some listener
  · cases step_of_step steps with
    | request => exact Or.inl ⟨info, found⟩
    | pollFunctionCall net | runCallback net | returns net =>
        rw [net] at target
        cases target
    | listenerCall | run | wake => exact Or.inl (present_callListener found)
    | @proceed other before _ on foundOther proceeds =>
        obtain rfl : other = listener := Option.some.inj (on.symm.trans target)
        obtain rfl : before = info := Option.some.inj (foundOther.symm.trans found)
        rcases present_proceed found proceeds with stays | ⟨⟨destroyed, net⟩, ended⟩
        · exact Or.inl stays
        · rw [net] at target
          obtain rfl := Option.some.inj target
          exact Or.inr ⟨rfl, net, ended⟩
  · exact Or.inl ((entriesStep fits steps).kept listener info found target)

theorem handlePhase_eq (found : world.core.listeners.lookup listener = some info) :
    world.handlePhase listener = info.listener.handlePhase := by
  rw [handlePhase, found]

/-- A step that makes no statement of the listener's thread or of its call keeps
the phase. -/
theorem handlePhase_of_not_statement {action : ManagerAction} (fits : world.CallsFit)
    (steps : managerSystem.step world action = some next)
    (found : world.core.listeners.lookup listener = some info)
    (present : ∃ changed, next.core.listeners.lookup listener = some changed)
    (manages : ∀ move, world.entryAction action = some (listener, move) →
      move.isStatement = false) :
    next.handlePhase listener = world.handlePhase listener := by
  obtain ⟨changed, foundNext⟩ := present
  rw [handlePhase_eq found, handlePhase_eq foundNext]
  rcases ((entriesStep fits steps).entry listener changed foundNext).2 with
    ⟨_, absent⟩ | ⟨before, foundBefore, rfl | ⟨move, acts, moves⟩⟩
  · rw [found] at absent
    cases absent
  · rw [Option.some.inj (found.symm.trans foundBefore)]
  · obtain rfl : info = before := Option.some.inj (found.symm.trans foundBefore)
    exact handlePhase_entryStep moves (manages move acts)

/-- The phases after a statement on one entry. -/
theorem handlePhase_callListener {other : HListener} {object : Listener}
    {functionCalls : ThreadSaveQueue FunctionCall}
    (found : world.core.listeners.lookup listener = some info) :
    handlePhase listener
        { world with core := world.core.callListener other fun _ => object, functionCalls } =
      if other = listener then object.handlePhase else world.handlePhase listener := by
  unfold handlePhase
  rw [lookup_callListener]
  by_cases same : other = listener
  · subst other
    simp [found, ListenerInfo.setListener]
  · simp [same, Ne.symm same]

/-- The end of `DestroyListener` takes the listener object away. -/
theorem handlePhase_of_discard (found : world.core.listeners.lookup listener = some info)
    (net : world.net = .destroying listener) (ended : info.listener.call.isDestroyed = true)
    (steps : managerSystem.step world .proceed = some next) :
    next.handlePhase listener = .closed := by
  have call : info.listener.call = .destroyed := by
    cases call : info.listener.call <;> rw [call] at ended <;> first | rfl | cases ended
  cases step_of_step steps with
  | returns ended => cases net.symm.trans ended
  | @proceed other before _ on foundOther proceeds =>
      obtain rfl : listener = other := by
        rw [net] at on
        exact Option.some.inj on
      obtain rfl : before = info := Option.some.inj (foundOther.symm.trans found)
      rw [call] at proceeds
      cases proceeds
      unfold handlePhase
      simp

/-- Every step of the manager follows the protocol of each listener's handles. -/
theorem handles_follow {action : ManagerAction} (reaches : managerSystem.Reachable world)
    (steps : managerSystem.step world action = some next) :
    handleProtocol.Steps (world.handlePhase listener) (world.handleEvents listener action)
      (next.handlePhase listener) := by
  have fits := callsFit_of_reachable reaches
  cases found : world.core.listeners.lookup listener with
  | none =>
      have quiet : world.handleEvents listener action = [] := by
        simp [handleEvents, found]
      have before : world.handlePhase listener = .closed := by rw [handlePhase, found]
      have after : next.handlePhase listener = .closed := by
        cases foundNext : next.core.listeners.lookup listener with
        | none => rw [handlePhase, foundNext]
        | some changed =>
            rcases ((entriesStep fits steps).entry listener changed foundNext).2 with
              ⟨⟨fresh, _⟩, _⟩ | ⟨before, foundBefore, _⟩
            · rw [handlePhase_eq foundNext, fresh]
              rfl
            · rw [found] at foundBefore
              cases foundBefore
      rw [quiet, before, after]
      exact .refl
  | some info =>
      have coherent := coherent_of_found reaches found
      have kept := kept_of_step fits steps found
      -- What is left when the step is no statement on this listener.
      have quietly (quiet : world.handleEvents listener action = [])
          (present : ∃ changed, next.core.listeners.lookup listener = some changed)
          (manages : ∀ move, world.entryAction action = some (listener, move) →
            move.isStatement = false) :
          handleProtocol.Steps (world.handlePhase listener)
            (world.handleEvents listener action) (next.handlePhase listener) := by
        rw [quiet, handlePhase_of_not_statement fits steps found present manages]
        exact .refl
      cases step_of_step steps with
      | @run other received before _ foundOther runs =>
          rw [handlePhase_callListener found]
          by_cases same : other = listener
          · subst other
            obtain rfl : before = info := Option.some.inj (foundOther.symm.trans found)
            rw [if_pos rfl, handlePhase_eq found]
            simpa [handleEvents, found] using coherent.run_follows runs
          · rw [if_neg same]
            simpa [handleEvents, found, same] using StepsWhere.refl
      | @listenerCall other before _ _ target foundOther calls =>
          rw [handlePhase_callListener found]
          by_cases same : other = listener
          · subst other
            obtain rfl : before = info := Option.some.inj (foundOther.symm.trans found)
            rw [if_pos rfl, handlePhase_eq found]
            simpa [handleEvents, found, target] using coherent.callStep_follows calls
          · rw [if_neg same]
            simpa [handleEvents, found, target, same] using StepsWhere.refl
      | returns | proceed =>
          by_cases discards : world.net = .destroying listener ∧
              info.listener.call.isDestroyed = true
          · obtain ⟨net, ended⟩ := discards
            have event : world.handleEvents listener .proceed = [.discarded] := by
              simp [handleEvents, found, net, ended]
            rw [event, handlePhase_of_discard found net ended steps]
            exact StepsWhere.single trivial (by cases world.handlePhase listener <;> rfl)
          · refine quietly ?_ ?_ ?_
            · unfold handleEvents
              rw [found]
              dsimp only
              split
              next other net =>
                rw [if_neg]
                rintro ⟨rfl, ended⟩
                exact discards ⟨net, ended⟩
              · rfl
            · rcases kept with present | ⟨_, discarded⟩
              · exact present
              · exact absurd discarded discards
            · intro move acts
              cases move with
              | run => cases run_of_entryAction acts
              | callStep => cases listenerCall_of_entryAction acts
              | _ => rfl
      | request | pollFunctionCall | runCallback | wake =>
          refine quietly (by simp [handleEvents, found]) ?_ ?_
          · rcases kept with present | ⟨proceeds, _⟩
            · exact present
            · cases proceeds
          · intro move acts
            cases move with
            | run => cases run_of_entryAction acts
            | callStep => cases listenerCall_of_entryAction acts
            | _ => rfl

/-- The manager refines the protocol of each listener's handles. -/
def handleMapping (listener : HListener) :
    RefinementMapping managerSystem handleProtocol fun _ _ => True where
  abstract := handlePhase listener
  events := handleEvents listener
  initial world starts := by
    obtain rfl : world = {} := starts
    rfl
  simulates _ _ _ reaches _ steps := handles_follow reaches steps

end ManagerWorld

/-- One call's effect on whether a poll group exists in Steam. -/
def pollGroupAfter (pollGroup : HSteamNetPollGroup) (present : Bool) :
    AdapterCall → Bool
  | .createPollGroup created =>
      present || decide (created = pollGroup ∧ created ≠ hSteamNetPollGroupInvalid)
  | .destroyPollGroup destroyed => present && decide (destroyed ≠ pollGroup)
  | _ => present

/-- The poll group has been created and not been destroyed since. -/
def pollGroupExists (pollGroup : HSteamNetPollGroup) (calls : List AdapterCall) : Bool :=
  calls.foldl (pollGroupAfter pollGroup) false

@[simp]
theorem pollGroupExists_append {pollGroup : HSteamNetPollGroup}
    {calls more : List AdapterCall} :
    pollGroupExists pollGroup (calls ++ more) =
      more.foldl (pollGroupAfter pollGroup) (pollGroupExists pollGroup calls) :=
  List.foldl_append

def ListenThread.isReceiving : ListenThread → Bool
  | receive _ => true
  | _ => false

/-- The adapter returns a negative count only for a poll group that does not
exist. -/
def negativeWhenInvalid (info : ListenerInfo Listener) : EntryAction → Bool
  | .run .negative =>
      !(info.listener.thread.isReceiving &&
        pollGroupExists info.listener.core.pollGroup info.listener.calls)
  | _ => true

/-- A stored poll group exists until `DestroySocket` destroys it, and polling has
not failed. -/
structure PollsValid (listener : Listener) : Prop where
  stored : listener.core.pollGroup ≠ hSteamNetPollGroupInvalid →
    listener.thread ≠ .resetPollGroup →
    pollGroupExists listener.core.pollGroup listener.calls = true
  polling : listener.thread ≠ .storeError
  errors : listener.core.errorQueue = []

namespace PollsValid

open Listener

variable {info next : ListenerInfo Listener}

theorem initial : PollsValid ({} : Listener) := by
  constructor <;> simp

/-- The calls on the listener go on without the poll group. -/
theorem congr {listener after : Listener} (valid : PollsValid listener)
    (pollGroup : after.core.pollGroup = listener.core.pollGroup)
    (thread : after.thread = listener.thread)
    (calls : pollGroupExists listener.core.pollGroup after.calls =
      pollGroupExists listener.core.pollGroup listener.calls)
    (errors : after.core.errorQueue = listener.core.errorQueue) : PollsValid after := by
  constructor
  · rw [pollGroup, thread, calls]
    exact valid.stored
  · rw [thread]
    exact valid.polling
  · rw [errors]
    exact valid.errors

theorem notify {listener : Listener} (valid : PollsValid listener) :
    PollsValid listener.notify := by
  unfold Listener.notify
  split
  next parked =>
    have place := ListenThread.isParked_eq_true.mp parked
    exact ⟨fun stored _ => valid.stored stored (by simp [place]), by simp [Listener.goTo],
      valid.errors⟩
  next => exact valid

/-- The poll group that the thread polls exists. -/
theorem polled (valid : PollsValid info.listener) (coherent : Coherent info)
    {polledOutMsg : Bool} (place : info.listener.thread = .receive polledOutMsg) :
    pollGroupExists info.listener.core.pollGroup info.listener.calls = true :=
  valid.stored (coherent.uses (by rw [place]; rfl)).2 (by simp [place])

theorem run (valid : PollsValid info.listener) (coherent : Coherent info)
    {received : ReceivedMessages} {object : Listener}
    (meets : negativeWhenInvalid info (.run received) = true)
    (steps : info.listener.run received = some object) : PollsValid object := by
  constructor
  · intro stored keeps
    rw [ne_eq, run_thread_eq_resetPollGroup steps] at keeps
    rw [run_pollGroup steps] at stored ⊢
    by_cases resets : info.listener.thread = .resetPollGroup
    · rw [if_pos resets] at stored
      exact absurd rfl stored
    · rw [if_neg resets] at stored ⊢
      have before := valid.stored stored resets
      rw [run_calls steps, pollGroupExists_append]
      cases place : info.listener.thread with
      | destroyPollGroup => exact absurd place keeps
      | send | receive | store | closeSocket => simpa [pollGroupAfter] using before
      | _ => simpa using before
  · cases runStep_of_run steps with
    | receiveNegative place negative =>
        have found := valid.polled coherent place
        rw [negative] at meets
        simp [negativeWhenInvalid, place, ListenThread.isReceiving, found] at meets
    | _ => simp [goTo, Listener.record]
  · cases runStep_of_run steps with
    | storeError place => exact absurd place valid.polling
    | clearErrors => rfl
    | _ => exact valid.errors

theorem callStep (valid : PollsValid info.listener)
    {handle : UInt32} {object : Listener}
    (steps : info.listener.callStep handle = some object) : PollsValid object := by
  cases callStep_of_callStep steps with
  | pollGroupFailed call failed =>
      exact ⟨fun stored => absurd failed stored, valid.polling, valid.errors⟩
  | createPollGroup call nonzero =>
      refine ⟨fun _ _ => ?_, valid.polling, valid.errors⟩
      simp [callGoTo, Listener.record, pollGroupAfter, nonzero]
  | socketFailed | createSocket | closeSocket =>
      exact valid.congr rfl rfl (by simp [callGoTo, Listener.record, pollGroupAfter]) rfl
  | startSet call | stopSet call =>
      rw [notify_listening]
      exact PollsValid.notify (valid.congr rfl rfl rfl rfl)
  | dtorNotify call => exact PollsValid.notify (valid.congr rfl rfl rfl rfl)
  | _ => exact valid.congr rfl rfl rfl rfl

theorem entryStep (valid : PollsValid info.listener) (coherent : Coherent info)
    {move : EntryAction} (meets : negativeWhenInvalid info move = true)
    (steps : HttpServer.entryStep info move = some next) : PollsValid next.listener := by
  cases entryStep_of_entryStep steps with
  | run runs => exact valid.run coherent meets runs
  | callStep calls => exact valid.callStep calls
  | wake parked =>
      have notified := valid.notify
      rwa [notify_of_parked parked] at notified
  | popError =>
      refine ⟨valid.stored, valid.polling, ?_⟩
      simp [IListener.tryPopError, ListenerInfo.setListener, valid.errors,
        ThreadSaveQueue.tryPop]
  | _ => exact valid.congr rfl rfl rfl rfl

end PollsValid

theorem pollsValid_of_reachable {info : ListenerInfo Listener}
    (reaches : entrySystem.ReachableWhere
      (fun info move => negativeWhenInvalid info move = true) info) :
    PollsValid info.listener := by
  refine reaches.invariant (fun info => PollsValid info.listener) ?_ ?_
  · rintro info ⟨fresh, _⟩
    rw [fresh]
    exact PollsValid.initial
  · intro info move next reached valid meets steps
    exact valid.entryStep (coherent_of_reachable reached) meets steps

/-- In every run of the manager, each `ReceiveMessagesOnPollGroup` of a listener
uses the poll group of its latest successful `initSocket`, no `DestroySocket` having
begun since; each handle that a `DestroySocket` closes is from the latest successful
`initSocket`, which was over before it began; and when the adapter returns a
negative count only for a poll group that does not exist, no thread ever stores the
`ePollGroupHandlerInvalid` error. -/
theorem polling_uses_open_handles :
    (∀ actions world, managerSystem.Steps {} actions world → ∀ listener before after,
      (∀ pollGroup, (handleMapping listener).history {} actions =
          before ++ .received pollGroup :: after →
        ∃ handlers, pollGroup = handlers.pollGroup ∧ CreatedBefore before handlers []) ∧
      (∀ socket, (handleMapping listener).history {} actions =
          before ++ .socketClosed socket :: after →
        ∃ handlers, socket = handlers.socket ∧
          CreatedBefore before handlers [.destroyBegins]) ∧
      ∀ pollGroup, (handleMapping listener).history {} actions =
          before ++ .pollGroupDestroyed pollGroup :: after →
        ∃ handlers, pollGroup = handlers.pollGroup ∧
          CreatedBefore before handlers [.destroyBegins, .socketClosed handlers.socket]) ∧
      ∀ world, managerSystem.ReachableWhere
          (fun world action => everywhere negativeWhenInvalid world action = true) world →
        ∀ listener info, world.core.listeners.lookup listener = some info →
          info.listener.thread ≠ .storeError ∧ info.listener.core.errorQueue = [] := by
  refine ⟨fun actions world steps listener before after => ?_, ?_⟩
  · have follows := (handleMapping listener).refines rfl steps
    exact ⟨fun pollGroup => created_of_received follows,
      fun socket => created_of_socketClosed follows,
      fun pollGroup => created_of_pollGroupDestroyed follows⟩
  · intro world reaches listener info found
    have valid := pollsValid_of_reachable (entry_reachable reaches found)
    exact ⟨valid.polling, valid.errors⟩

/-- Listener 1 is started on socket 5 with poll group 6, polls once, and is stopped
and torn down. -/
def pollOnceAndStop : List ManagerAction :=
  createParked ++ startParked ++ List.replicate 8 (.run 1 .none) ++ stopOne ++
    List.replicate 5 (.run 1 .none)

theorem polling_uses_open_handles_once :
    ∃ world info, managerSystem.Steps {} pollOnceAndStop world ∧
      world.core.listeners.lookup 1 = some info ∧
      (∃ handlers, 6 = handlers.pollGroup ∧
        CreatedBefore [.initialized ⟨5, 6⟩] handlers []) ∧
      (∃ handlers, 6 = handlers.pollGroup ∧
        CreatedBefore [.initialized ⟨5, 6⟩, .received 6, .destroyBegins, .socketClosed 5]
          handlers [.destroyBegins, .socketClosed handlers.socket]) ∧
      info.listener.thread ≠ .storeError := by
  have steps : managerSystem.Steps {} pollOnceAndStop _ := runWhere_eq_some_iff.mp rfl
  have polls : managerSystem.StepsWhere
      (fun world action => everywhere negativeWhenInvalid world action = true)
      {} pollOnceAndStop _ := runWhere_eq_some_iff.mp rfl
  obtain ⟨uses, valid⟩ := polling_uses_open_handles
  exact ⟨_, _, steps, rfl, (uses _ _ steps 1 _ _).1 6 rfl, (uses _ _ steps 1 _ []).2.2 6 rfl,
    (valid _ ⟨_, _, rfl, polls⟩ 1 _ rfl).1⟩

end HttpServer
