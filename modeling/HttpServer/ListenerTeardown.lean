import HttpServer.Listener
import HttpServer.Library.HandleLog
import HttpServer.Library.TransitionSystem

/-!
# Opening and closing the handles of a listener

One thread calls `initSocket`, `startListening`, `stopListening` and at last the
destructor on a listener, in any order and number, while the listener's own
thread runs.  Only the listener's thread closes what `initSocket` has opened, and
only when it has left its wait.  A stop or a destructor that comes before it has
left its wait therefore leaves the handles open.
-/

namespace HttpServer

open Listener

/-- A listener, and whether an `initSocket` has succeeded since the last
`stopListening`. -/
structure ControlledListener where
  listener : Listener := {}
  initialized : Bool := false

inductive ControlAction where
  | initSocket (port : UInt16)
  | startListening
  | stopListening
  | destroy
  | callStep (handle : UInt32)
  | run (received : ReceivedMessages)
  | wake

namespace ControlledListener

/-- The controlling thread makes its next call. -/
def begin (state : ControlledListener) (call : ListenerCall) : Option ControlledListener :=
  if state.listener.call.isReady then
    some { state with listener := state.listener.callGoTo call }
  else none

def callStep (state : ControlledListener) (handle : UInt32) : Option ControlledListener :=
  (state.listener.callStep handle).map fun listener =>
    { listener
      initialized := match state.listener.call with
        | .initReturn => true
        | .stopSet => false
        | _ => state.initialized }

def run (state : ControlledListener) (received : ReceivedMessages) :
    Option ControlledListener :=
  (state.listener.run received).map fun listener =>
    { listener
      initialized := state.initialized &&
        decide (state.listener.thread ≠ .stopListening) }

end ControlledListener

/-- Any calls of one controlling thread, interleaved with the listener's
thread. -/
def controlSystem : TransitionSystem ControlledListener ControlAction where
  Initial state := state = {}
  step state
    | .initSocket port => state.begin (.initTest port)
    | .startListening => state.begin .startTest
    | .stopListening => state.begin .stopSet
    | .destroy => state.begin .dtorFlag
    | .callStep handle => state.callStep handle
    | .run received => state.run received
    | .wake => state.listener.wake.map fun listener => { state with listener }

/-- A stop or a destructor finds no open handle or comes while the listener's
thread is on its way to close the open ones, and `initSocket` does not find the
handles invalid while the thread is about to close them. -/
def noticed (state : ControlledListener) : ControlAction → Bool
  | .callStep _ =>
      let core := state.listener.core
      match state.listener.call with
      | .stopSet => !core.isInitialized || state.listener.thread.isCommitted
      | .dtorFlag => !core.isInitialized || state.listener.thread.isServing
      | .initGuard _ => core.isInitialized || !state.listener.thread.isCommitted
      | _ => true
  | _ => true

abbrev Noticed (state : ControlledListener) (action : ControlAction) : Prop :=
  noticed state action = true

/-- A handle as the adapter returns it, if it is not the invalid one. -/
def valid? (handle : UInt32) : Option UInt32 :=
  if handle = 0 then none else some handle

@[simp]
theorem valid?_zero : valid? 0 = none := rfl

def socketCalls : HandleCalls AdapterCall HSteamListenSocket where
  opened
    | .createListenSocketIP _ socket => valid? socket
    | _ => none
  closed
    | .closeListenSocket socket => valid? socket
    | _ => none

def pollGroupCalls : HandleCalls AdapterCall HSteamNetPollGroup where
  opened
    | .createPollGroup pollGroup => valid? pollGroup
    | _ => none
  closed
    | .destroyPollGroup pollGroup => valid? pollGroup
    | _ => none

namespace Listener

variable {listener next : Listener}

/-- The listen socket that is stored and has not been closed. -/
def heldSocket (listener : Listener) : Option HSteamListenSocket :=
  if listener.thread = .resetSocket ∨ listener.call.isResetting = true then none
  else valid? listener.core.socket

def heldPollGroup (listener : Listener) : Option HSteamNetPollGroup :=
  if listener.thread = .resetPollGroup then none else valid? listener.core.pollGroup

/-- Every handle was closed as often as it was created, once less if it is
held. -/
def HandlesBalanced (listener : Listener) : Prop :=
  socketCalls.Balanced listener.calls listener.heldSocket ∧
    pollGroupCalls.Balanced listener.calls listener.heldPollGroup

theorem HandlesBalanced.congr (balanced : listener.HandlesBalanced)
    (socket : next.heldSocket = listener.heldSocket)
    (pollGroup : next.heldPollGroup = listener.heldPollGroup)
    (calls : next.calls = listener.calls) : next.HandlesBalanced := by
  rw [HandlesBalanced, socket, pollGroup, calls]
  exact balanced

/-- What `initSocket` has made of the handles at each of its statements. -/
def HandlesFit (listener : Listener) : Prop :=
  match listener.call with
  | .createSocket _ => listener.core.isInitialized = false
  | .createPollGroup | .closeSocket | .resetSocket =>
      listener.core.pollGroup = hSteamNetPollGroupInvalid
  | _ => True

end Listener

section Run

variable {listener next : Listener} {received : ReceivedMessages}

theorem run_balanced (steps : listener.run received = some next)
    (apart : listener.call.isCreating = true → listener.thread.isCommitted = false)
    (balanced : listener.HandlesBalanced) : next.HandlesBalanced := by
  have sameCall := (run_frame steps).1
  have resetting (committed : listener.thread.isCommitted = true) :
      listener.call.isResetting = false := by
    by_contra resets
    have waits := apart (ListenerCall.isCreating_of_isResetting (by simpa using resets))
    rw [committed] at waits
    cases waits
  have calls := run_calls steps
  have socket := run_socket steps
  have pollGroup := run_pollGroup steps
  have closes := run_thread_eq_resetSocket steps
  have destroys := run_thread_eq_resetPollGroup steps
  constructor
  · cases place : listener.thread with
    | closeSocket =>
        have held : listener.heldSocket = valid? listener.core.socket := by
          simp [heldSocket, place, resetting (by rw [place]; rfl)]
        have nextHeld : next.heldSocket = none := by
          simp [heldSocket, closes.mpr place]
        rw [calls, nextHeld, place]
        exact balanced.1.append_close rfl held.symm
    | resetSocket =>
        have held : listener.heldSocket = none := by simp [heldSocket, place]
        have nextHeld : next.heldSocket = none := by simp [heldSocket, socket, place]
        rw [calls, nextHeld, place, ← held]
        simpa using balanced.1
    | send message | receive polledOutMsg | store message | destroyPollGroup =>
        have sameHeld : next.heldSocket = listener.heldSocket := by
          simp [heldSocket, socket, closes, place, sameCall]
        rw [calls, sameHeld, place]
        exact balanced.1.append_other rfl rfl
    | _ =>
        have sameHeld : next.heldSocket = listener.heldSocket := by
          simp [heldSocket, socket, closes, place, sameCall]
        rw [calls, sameHeld, place]
        simpa using balanced.1
  · cases place : listener.thread with
    | destroyPollGroup =>
        have held : listener.heldPollGroup = valid? listener.core.pollGroup := by
          simp [heldPollGroup, place]
        have nextHeld : next.heldPollGroup = none := by
          simp [heldPollGroup, destroys.mpr place]
        rw [calls, nextHeld, place]
        exact balanced.2.append_close rfl held.symm
    | resetPollGroup =>
        have held : listener.heldPollGroup = none := by simp [heldPollGroup, place]
        have nextHeld : next.heldPollGroup = none := by
          simp [heldPollGroup, pollGroup, place]
        rw [calls, nextHeld, place, ← held]
        simpa using balanced.2
    | send message | receive polledOutMsg | store message | closeSocket =>
        have sameHeld : next.heldPollGroup = listener.heldPollGroup := by
          simp [heldPollGroup, pollGroup, destroys, place]
        rw [calls, sameHeld, place]
        exact balanced.2.append_other rfl rfl
    | _ =>
        have sameHeld : next.heldPollGroup = listener.heldPollGroup := by
          simp [heldPollGroup, pollGroup, destroys, place]
        rw [calls, sameHeld, place]
        simpa using balanced.2

end Run

/-- Who holds the handles.  The listener's thread does not touch them while
`initSocket` creates them, and outside of `initSocket` an open handle is waited
for by the thread or about to be closed by it. -/
structure Accounted (state : ControlledListener) : Prop where
  alive : state.listener.running = !state.listener.call.isEnding
  quiet : state.listener.call.isInitializing = true → state.listener.listening = false
  apart : state.listener.call.isCreating = true →
    state.listener.thread.isCommitted = false
  fits : state.listener.HandlesFit
  reset : state.listener.thread = .destroyPollGroup ∨
    state.listener.thread = .resetPollGroup →
    state.listener.core.socket = hSteamListenSocketInvalid
  idle : state.listener.thread.isCommitted = false → state.listener.listening = false →
    state.initialized = false → state.listener.call.isCreating = false →
    state.listener.core.isInitialized = false
  ended : state.listener.running = false →
    state.listener.core.isInitialized = false ∨ state.listener.thread.isServing = true
  joined : state.listener.call.isDestroyed = true → state.listener.thread = .exited
  balanced : state.listener.HandlesBalanced

namespace Accounted

variable {state next : ControlledListener}

theorem initial : Accounted {} where
  alive := rfl
  quiet := nofun
  apart := nofun
  fits := trivial
  reset := by simp
  idle _ _ _ _ := rfl
  ended := nofun
  joined := nofun
  balanced := ⟨HandleCalls.Balanced.nil, HandleCalls.Balanced.nil⟩

theorem run (accounted : Accounted state) {received : ReceivedMessages}
    (steps : state.run received = some next) : Accounted next := by
  obtain ⟨listener, runs, rfl⟩ := Option.map_eq_some_iff.mp steps
  obtain ⟨sameCall, sameRunning, _, _⟩ := run_frame runs
  have listening := run_listening runs
  constructor
  case alive =>
    dsimp only
    rw [sameCall, sameRunning]
    exact accounted.alive
  case quiet =>
    dsimp only
    rw [sameCall]
    intro initializing
    simp [listening, accounted.quiet initializing]
  case apart =>
    dsimp only
    rw [sameCall]
    intro creating
    by_contra committed
    have initializing := ListenerCall.isInitializing_of_isCreating creating
    rcases run_isCommitted runs (by simpa using committed) with before | ⟨_, leaves⟩
    · exact absurd before (by simp [accounted.apart creating])
    · rcases leaves with stopped | told
      · have notEnding := ListenerCall.isEnding_eq_false_of_isInitializing initializing
        rw [accounted.alive, notEnding] at stopped
        cases stopped
      · rw [accounted.quiet initializing] at told
        cases told
  case fits =>
    have fits := accounted.fits
    unfold Listener.HandlesFit at fits ⊢
    dsimp only
    rw [sameCall]
    cases call : state.listener.call with
    | createSocket port =>
        rw [call] at fits
        exact run_closed runs fits
    | createPollGroup | closeSocket | resetSocket =>
        have waits := accounted.apart (by rw [call]; rfl)
        rw [call] at fits
        exact (run_handles runs waits).2.trans fits
    | _ => trivial
  case reset =>
    rintro (closes | closes)
    · rw [run_socket runs, if_pos ((run_thread_eq_destroyPollGroup runs).mp closes)]
    · have place := (run_thread_eq_resetPollGroup runs).mp closes
      rw [run_socket runs, accounted.reset (Or.inl place), ite_self]
  case idle =>
    intro waits quiet uninitialized notCreating
    dsimp only at waits quiet uninitialized notCreating ⊢
    rw [sameCall] at notCreating
    by_cases committed : state.listener.thread.isCommitted = true
    · rcases run_isCommitted_of_isCommitted runs committed with still | resets | ⟨place, stopped⟩
      · rw [waits] at still
        cases still
      · rw [ListenerCore.isInitialized_eq_false, run_socket runs, run_pollGroup runs,
          accounted.reset (Or.inr resets), if_pos resets]
        exact ⟨ite_self _, rfl⟩
      · rcases accounted.ended stopped with closed | serves
        · exact run_closed runs closed
        · rw [place] at serves
          cases serves
    · have notStop : state.listener.thread ≠ .stopListening := by
        intro place
        rw [place] at committed
        exact committed rfl
      rw [listening] at quiet
      rw [decide_eq_true notStop, Bool.and_true] at quiet uninitialized
      exact run_closed runs (accounted.idle (by simpa using committed) quiet uninitialized
        notCreating)
  case ended =>
    dsimp only
    rw [sameRunning]
    intro stopped
    rcases accounted.ended stopped with closed | serves
    · exact Or.inl (run_closed runs closed)
    · rcases run_isServing_of_isServing runs serves with still | resets
      · exact Or.inr still
      · left
        rw [ListenerCore.isInitialized_eq_false, run_socket runs, run_pollGroup runs,
          accounted.reset (Or.inr resets), if_pos resets]
        exact ⟨ite_self _, rfl⟩
  case joined =>
    dsimp only
    rw [sameCall]
    intro destroyed
    exact absurd (accounted.joined destroyed) (run_not_exited runs)
  case balanced => exact run_balanced runs accounted.apart accounted.balanced

/-- A call moves on outside the part of `initSocket` that creates handles. -/
theorem moveCall (accounted : Accounted state) {place : ListenerCall}
    (ending : place.isEnding = state.listener.call.isEnding)
    (quiet : place.isInitializing = true → state.listener.listening = false)
    (wasNotCreating : state.listener.call.isCreating = false)
    (notCreating : place.isCreating = false)
    (joined : place.isDestroyed = true → state.listener.thread = .exited) :
    Accounted { state with listener := state.listener.callGoTo place } := by
  have wasNotResetting : state.listener.call.isResetting = false := by
    by_contra resets
    rw [ListenerCall.isCreating_of_isResetting (by simpa using resets)] at wasNotCreating
    cases wasNotCreating
  have notResetting : place.isResetting = false := by
    by_contra resets
    rw [ListenerCall.isCreating_of_isResetting (by simpa using resets)] at notCreating
    cases notCreating
  constructor
  case alive => exact accounted.alive.trans (by rw [← ending]; rfl)
  case quiet => exact quiet
  case apart =>
    intro creating
    exact absurd (creating.symm.trans notCreating) (by decide)
  case fits => cases place <;> trivial
  case reset => exact accounted.reset
  case idle =>
    exact fun waits quiet uninitialized _ =>
      accounted.idle waits quiet uninitialized wasNotCreating
  case ended => exact accounted.ended
  case joined => exact joined
  case balanced =>
    exact accounted.balanced.congr
      (by simp [heldSocket, callGoTo, wasNotResetting, notResetting]) rfl rfl

theorem notify (accounted : Accounted state) :
    Accounted { state with listener := state.listener.notify } := by
  unfold Listener.notify
  split
  next parked =>
    have place := ListenThread.isParked_eq_true.mp parked
    constructor
    case alive => exact accounted.alive
    case quiet => exact accounted.quiet
    case apart => exact fun _ => rfl
    case fits => exact accounted.fits
    case reset => exact fun closes => by cases closes <;> contradiction
    case idle => exact fun _ => accounted.idle (by rw [place]; rfl)
    case ended =>
      intro stopped
      rcases accounted.ended stopped with closed | serves
      · exact Or.inl closed
      · rw [place] at serves
        cases serves
    case joined =>
      intro destroyed
      have exited := accounted.joined destroyed
      rw [place] at exited
      cases exited
    case balanced =>
      exact accounted.balanced.congr (by simp [heldSocket, goTo, place])
        (by simp [heldPollGroup, goTo, place]) rfl
  next => exact accounted

/-- The listener starts to listen or stops.  When it stops, the thread is on its
way to close the handles unless none is open. -/
theorem setListening (accounted : Accounted state) {listening initialized : Bool}
    (notInitializing : state.listener.call.isInitializing = false)
    (stops : listening = false → initialized = false →
      state.listener.core.isInitialized = false ∨
        state.listener.thread.isCommitted = true) :
    Accounted { listener := { state.listener with listening := listening }
                initialized := initialized } := by
  constructor
  case alive => exact accounted.alive
  case quiet =>
    intro initializing
    exact absurd (initializing.symm.trans notInitializing) (by decide)
  case apart => exact accounted.apart
  case fits => exact accounted.fits
  case reset => exact accounted.reset
  case idle =>
    intro waits quiet uninitialized _
    rcases stops quiet uninitialized with closed | committed
    · exact closed
    · exact absurd (committed.symm.trans waits) (by decide)
  case ended => exact accounted.ended
  case joined => exact accounted.joined
  case balanced => exact accounted.balanced

theorem begin (accounted : Accounted state) {place : ListenerCall}
    (ending : place.isEnding = false) (notInitializing : place.isInitializing = false)
    (steps : state.begin place = some next) : Accounted next := by
  unfold ControlledListener.begin at steps
  split at steps
  next ready =>
    obtain rfl := Option.some.inj steps
    apply accounted.moveCall
    · rw [ending]
      cases call : state.listener.call <;> rw [call] at ready <;> first | rfl | cases ready
    · intro initializing
      exact absurd (initializing.symm.trans notInitializing) (by decide)
    · cases call : state.listener.call <;> rw [call] at ready <;> first | rfl | cases ready
    · by_contra creating
      rw [ListenerCall.isInitializing_of_isCreating (by simpa using creating)]
        at notInitializing
      cases notInitializing
    · intro destroyed
      rw [ListenerCall.isDestroyed_eq_false_of_isEnding_eq_false ending] at destroyed
      cases destroyed
  · cases steps

/-- While `initSocket` creates handles, it changes them, the adapter calls and its
own place, and the listener's thread waits. -/
theorem create (accounted : Accounted state) {after : Listener} {initialized : Bool}
    (before : state.listener.call.isInitializing = true)
    (running : after.running = state.listener.running)
    (listening : after.listening = state.listener.listening)
    (thread : after.thread = state.listener.thread)
    (waits : state.listener.thread.isCommitted = false)
    (ending : after.call.isEnding = false)
    (fits : after.HandlesFit)
    (closed : after.call.isCreating = false → initialized = false →
      after.core.isInitialized = false)
    (balanced : after.HandlesBalanced) :
    Accounted { listener := after, initialized := initialized } := by
  have alive : state.listener.running = true := by
    rw [accounted.alive, ListenerCall.isEnding_eq_false_of_isInitializing before]
    rfl
  constructor
  case alive =>
    dsimp only
    rw [running, alive, ending]
    rfl
  case quiet =>
    intro _
    exact listening.trans (accounted.quiet before)
  case apart =>
    intro _
    dsimp only
    rw [thread]
    exact waits
  case fits => exact fits
  case reset =>
    rintro (closes | closes)
    · rw [thread.symm.trans closes] at waits
      cases waits
    · rw [thread.symm.trans closes] at waits
      cases waits
  case idle => exact fun _ _ uninitialized notCreating => closed notCreating uninitialized
  case ended =>
    intro stopped
    dsimp only at stopped
    rw [running, alive] at stopped
    cases stopped
  case joined =>
    intro destroyed
    rw [ListenerCall.isDestroyed_eq_false_of_isEnding_eq_false ending] at destroyed
    cases destroyed
  case balanced => exact balanced

/-- While `initSocket` creates, the thread does not reset a handle. -/
theorem waiting (accounted : Accounted state)
    (creating : state.listener.call.isCreating = true) :
    state.listener.thread ≠ .resetSocket ∧ state.listener.thread ≠ .resetPollGroup := by
  have waits := accounted.apart creating
  constructor
  · intro place
    rw [place] at waits
    cases waits
  · intro place
    rw [place] at waits
    cases waits

/-- The creation of a poll group, wherever the call goes on from there. -/
theorem createsPollGroup (accounted : Accounted state)
    (place : state.listener.call = .createPollGroup) (handle : UInt32) :
    (∀ call : ListenerCall, call.isResetting = false → socketCalls.Balanced
      (state.listener.calls ++ [.createPollGroup handle])
      ({ state.listener.record (.createPollGroup handle) with
        core := { state.listener.core with pollGroup := handle } }.callGoTo call).heldSocket) ∧
    ∀ call : ListenerCall, pollGroupCalls.Balanced
      (state.listener.calls ++ [.createPollGroup handle])
      ({ state.listener.record (.createPollGroup handle) with
        core := { state.listener.core with pollGroup := handle } }.callGoTo
          call).heldPollGroup := by
  have notReset := (accounted.waiting (by rw [place]; rfl)).2
  have fits := accounted.fits
  unfold Listener.HandlesFit at fits
  rw [place] at fits
  dsimp only at fits
  have opened := accounted.balanced.2
  rw [show state.listener.heldPollGroup = none by simp [heldPollGroup, fits]] at opened
  have sockets : socketCalls.Balanced
      (state.listener.calls ++ [.createPollGroup handle]) state.listener.heldSocket :=
    accounted.balanced.1.append_other rfl rfl
  constructor
  · intro call notResetting
    have before : state.listener.call.isResetting = false := by
      rw [place]
      rfl
    simpa [heldSocket, callGoTo, Listener.record, before, notResetting] using sockets
  · intro call
    refine opened.append_open ?_ rfl
    simp [pollGroupCalls, heldPollGroup, callGoTo, Listener.record, notReset]

theorem callStep (accounted : Accounted state) {handle : UInt32}
    (meets : Noticed state (.callStep handle))
    (steps : state.callStep handle = some next) : Accounted next := by
  obtain ⟨listener, calls, rfl⟩ := Option.map_eq_some_iff.mp steps
  unfold Noticed noticed at meets
  have fits := accounted.fits
  unfold Listener.HandlesFit at fits
  have apart := accounted.apart
  cases callStep_of_callStep calls with
  | initListening place | initInitialized place | startInvalid place | startTest place =>
      rw [place]
      exact accounted.moveCall (by rw [place]; rfl) (fun initializing => by cases initializing)
        (by rw [place]; rfl) rfl (by rintro ⟨⟩)
  | initTest place quiet =>
      rw [place]
      exact accounted.moveCall (by rw [place]; rfl) (fun _ => quiet) (by rw [place]; rfl) rfl
        (by rintro ⟨⟩)
  | initGuard place closed =>
      rw [place] at meets ⊢
      dsimp only at meets
      rw [closed, Bool.false_or, Bool.not_eq_true'] at meets
      refine accounted.create (by rw [place]; rfl) rfl rfl rfl meets rfl closed (by rintro ⟨⟩) ?_
      exact accounted.balanced.congr (by simp [heldSocket, callGoTo, place,
        ListenerCall.isResetting]) rfl rfl
  | socketFailed place failed =>
      have notReset := (accounted.waiting (by rw [place]; rfl)).1
      rw [place] at fits apart ⊢
      dsimp only at fits
      rw [ListenerCore.isInitialized_eq_false] at fits
      have opened := accounted.balanced.1
      rw [show state.listener.heldSocket = none by simp [heldSocket, fits.1]] at opened
      refine accounted.create (by rw [place]; rfl) rfl rfl rfl (apart rfl) rfl trivial ?_
        ⟨opened.append_open ?_ rfl, accounted.balanced.2.append_other rfl rfl⟩
      · intro _ _
        rw [ListenerCore.isInitialized_eq_false]
        exact ⟨failed, fits.2⟩
      · simp [socketCalls, heldSocket, callGoTo, Listener.record, notReset,
          ListenerCall.isResetting]
  | createSocket place valid =>
      have notReset := (accounted.waiting (by rw [place]; rfl)).1
      rw [place] at fits apart ⊢
      dsimp only at fits
      rw [ListenerCore.isInitialized_eq_false] at fits
      have opened := accounted.balanced.1
      rw [show state.listener.heldSocket = none by simp [heldSocket, fits.1]] at opened
      refine accounted.create (by rw [place]; rfl) rfl rfl rfl (apart rfl) rfl fits.2
        (by rintro ⟨⟩) ⟨opened.append_open ?_ rfl, accounted.balanced.2.append_other rfl rfl⟩
      simp [socketCalls, heldSocket, callGoTo, Listener.record, notReset,
        ListenerCall.isResetting]
  | pollGroupFailed place failed =>
      obtain ⟨sockets, pollGroups⟩ := accounted.createsPollGroup place handle
      rw [place] at apart ⊢
      exact accounted.create (by rw [place]; rfl) rfl rfl rfl (apart rfl) rfl failed
        (by rintro ⟨⟩) ⟨sockets .closeSocket rfl, pollGroups .closeSocket⟩
  | createPollGroup place valid =>
      obtain ⟨sockets, pollGroups⟩ := accounted.createsPollGroup place handle
      rw [place] at apart ⊢
      exact accounted.create (by rw [place]; rfl) rfl rfl rfl (apart rfl) rfl trivial
        (by rintro ⟨⟩) ⟨sockets .initReturn rfl, pollGroups .initReturn⟩
  | closeSocket place =>
      have notReset := (accounted.waiting (by rw [place]; rfl)).1
      rw [place] at fits apart ⊢
      refine accounted.create (by rw [place]; rfl) rfl rfl rfl (apart rfl) rfl fits
        (by rintro ⟨⟩) ⟨?_, accounted.balanced.2.append_other rfl rfl⟩
      have nextHeld : ((state.listener.record
          (.closeListenSocket state.listener.core.socket)).callGoTo
            .resetSocket).heldSocket = none := by
        simp [heldSocket, callGoTo, ListenerCall.isResetting]
      rw [nextHeld]
      refine accounted.balanced.1.append_close rfl ?_
      simp [socketCalls, heldSocket, notReset, place, ListenerCall.isResetting]
  | resetSocket place =>
      rw [place] at fits apart ⊢
      refine accounted.create (by rw [place]; rfl) rfl rfl rfl (apart rfl) rfl trivial ?_
        (accounted.balanced.congr ?_ rfl rfl)
      · intro _ _
        rw [ListenerCore.isInitialized_eq_false]
        exact ⟨rfl, fits⟩
      · simp [heldSocket, callGoTo, place, ListenerCall.isResetting]
  | initReturn place =>
      rw [place] at apart ⊢
      refine accounted.create (by rw [place]; rfl) rfl rfl rfl (apart rfl) rfl trivial
        (by rintro _ ⟨⟩) (accounted.balanced.congr ?_ rfl rfl)
      simp [heldSocket, callGoTo, place, ListenerCall.isResetting]
  | startSet place =>
      rw [place]
      have returned : Accounted { state with
          listener := (state.listener.callGoTo (.startReturned (.ok ()))).notify } :=
        (accounted.moveCall (by rw [place]; rfl)
          (fun initializing => by cases initializing) (by rw [place]; rfl) rfl
          (fun destroyed => by cases destroyed)).notify
      refine returned.setListening ?_ (by rintro ⟨⟩)
      rw [notify_call]
      rfl
  | stopSet place =>
      rw [place] at meets ⊢
      dsimp only at meets
      have returned : Accounted { state with
          listener := (state.listener.callGoTo .stopReturned).notify } :=
        (accounted.moveCall (by rw [place]; rfl)
          (fun initializing => by cases initializing) (by rw [place]; rfl) rfl
          (fun destroyed => by cases destroyed)).notify
      refine returned.setListening ?_ fun _ _ => ?_
      · rw [notify_call]
        rfl
      · rw [notify_core, notify_isCommitted]
        have found : state.listener.core.isInitialized = false ∨
            state.listener.thread.isCommitted = true := by simpa using meets
        exact found
  | dtorFlag place =>
      rw [place] at meets ⊢
      dsimp only at meets
      have found : state.listener.core.isInitialized = false ∨
          state.listener.thread.isServing = true := by simpa using meets
      constructor
      case alive => rfl
      case quiet => rintro ⟨⟩
      case apart => rintro ⟨⟩
      case fits => trivial
      case reset => exact accounted.reset
      case idle =>
        exact fun waits quiet uninitialized _ =>
          accounted.idle waits quiet uninitialized (by rw [place]; rfl)
      case ended => exact fun _ => found
      case joined => exact fun destroyed => by cases destroyed
      case balanced =>
        exact accounted.balanced.congr
          (by simp [heldSocket, callGoTo, place, ListenerCall.isResetting]) rfl rfl
  | dtorNotify place =>
      rw [place]
      exact (accounted.moveCall (by rw [place]; rfl) (fun initializing => by cases initializing)
        (by rw [place]; rfl) rfl (fun destroyed => by cases destroyed)).notify
  | dtorJoin place exited =>
      rw [place]
      exact accounted.moveCall (by rw [place]; rfl) (fun initializing => by cases initializing)
        (by rw [place]; rfl) rfl fun _ => exited

theorem step (accounted : Accounted state) {action : ControlAction}
    (meets : Noticed state action) (stepTo : controlSystem.step state action = some next) :
    Accounted next := by
  cases action with
  | initSocket port => exact accounted.begin rfl rfl stepTo
  | startListening => exact accounted.begin rfl rfl stepTo
  | stopListening => exact accounted.begin rfl rfl stepTo
  | destroy => exact accounted.begin rfl rfl stepTo
  | callStep handle => exact accounted.callStep meets stepTo
  | run received => exact accounted.run stepTo
  | wake =>
      obtain ⟨listener, wakes, rfl⟩ := Option.map_eq_some_iff.mp stepTo
      obtain ⟨parked, rfl⟩ := Listener.wake_eq_some.mp wakes
      have notified := accounted.notify
      rwa [notify_of_parked parked] at notified

end Accounted

theorem accounted_of_reachable {state : ControlledListener}
    (reaches : controlSystem.ReachableWhere Noticed state) : Accounted state := by
  refine reaches.invariant Accounted ?_ ?_
  · rintro state rfl
    exact Accounted.initial
  · intro state action next _ accounted meets stepTo
    exact accounted.step meets stepTo

/-- No handle leaks in a run in which the listener's thread notices every start
that is stopped: when the thread is parked without a wakeup or an unfinished
`initSocket`, it has closed both handles since the last stop, and after the
destructor every listen socket and every poll group was closed as often as it
was created. -/
theorem no_leaked_socket {state : ControlledListener}
    (reaches : controlSystem.ReachableWhere Noticed state) :
    (state.listener.thread = .parked → state.listener.listening = false →
      state.initialized = false → state.listener.call.isCreating = false →
      state.listener.core.socket = hSteamListenSocketInvalid ∧
        state.listener.core.pollGroup = hSteamNetPollGroupInvalid) ∧
    (state.listener.call.isDestroyed = true → ∀ handle,
      state.listener.calls.countP (fun call => socketCalls.opened call = some handle) =
        state.listener.calls.countP (fun call => socketCalls.closed call = some handle) ∧
      state.listener.calls.countP (fun call => pollGroupCalls.opened call = some handle) =
        state.listener.calls.countP
          (fun call => pollGroupCalls.closed call = some handle)) := by
  have accounted := accounted_of_reachable reaches
  constructor
  · intro parked quiet uninitialized notCreating
    exact ListenerCore.isInitialized_eq_false.mp
      (accounted.idle (by rw [parked]; rfl) quiet uninitialized notCreating)
  · intro destroyed handle
    have exited := accounted.joined destroyed
    have stopped : state.listener.running = false := by
      rw [accounted.alive]
      cases call : state.listener.call <;> rw [call] at destroyed <;>
        first | rfl | cases destroyed
    have closed : state.listener.core.isInitialized = false := by
      rcases accounted.ended stopped with closed | serves
      · exact closed
      · rw [exited] at serves
        cases serves
    rw [ListenerCore.isInitialized_eq_false] at closed
    obtain ⟨sockets, pollGroups⟩ := accounted.balanced
    constructor
    · simpa [heldSocket, closed.1] using sockets handle
    · simpa [heldPollGroup, closed.2] using pollGroups handle

/-- The listener's thread parks, and the listener is initialized on socket 5 and
started. -/
def startOnce : List ControlAction :=
  List.replicate 4 (.run .none) ++
    [.initSocket 80, .callStep 0, .callStep 0, .callStep 5, .callStep 6, .callStep 0,
      .startListening, .callStep 0, .callStep 0]

def stopOnce : List ControlAction := [.stopListening, .callStep 0]

/-- The destructor runs, and the listener's thread wakes and ends. -/
def destroyParked : List ControlAction :=
  [.destroy, .callStep 0, .callStep 0] ++ List.replicate 4 (.run .none) ++ [.callStep 0]

/-- A listener whose thread notices the start before it is stopped closes
socket 5. -/
theorem no_leaked_socket_noticed :
    ∃ state : ControlledListener, state.listener.call.isDestroyed = true ∧
      state.listener.calls.countP (fun call => socketCalls.opened call = some 5) =
        state.listener.calls.countP (fun call => socketCalls.closed call = some 5) := by
  have executes : ∃ state, controlSystem.runWhere Noticed {}
      (startOnce ++ List.replicate 4 (.run .none) ++ stopOnce ++
        List.replicate 12 (.run .none) ++ destroyParked) = some state ∧
      state.listener.call.isDestroyed = true :=
    ⟨_, rfl, rfl⟩
  obtain ⟨state, executes, destroyed⟩ := executes
  have kept := no_leaked_socket (TransitionSystem.reachableWhere_of_run rfl executes)
  exact ⟨state, destroyed, (kept.2 destroyed 5).1⟩

/-- A stop that comes before the thread has woken leaves the thread parked with
both handles open, and the destructor does not close them either. -/
theorem no_leaked_socket_fails :
    (∃ state, controlSystem.Reachable state ∧ state.listener.thread = .parked ∧
      state.listener.listening = false ∧ state.initialized = false ∧
      state.listener.call.isReady = true ∧ state.listener.core.socket = 5) ∧
    ∃ state, controlSystem.Reachable state ∧ state.listener.call.isDestroyed = true ∧
      state.listener.calls.countP (fun call => socketCalls.opened call = some 5) = 1 ∧
      state.listener.calls.countP (fun call => socketCalls.closed call = some 5) = 0 := by
  have executes : ∃ state, controlSystem.run {}
      (startOnce ++ stopOnce ++ List.replicate 3 (.run .none)) = some state ∧
      state.listener.thread = .parked ∧ state.listener.listening = false ∧
      state.initialized = false ∧ state.listener.call.isReady = true ∧
      state.listener.core.socket = 5 :=
    ⟨_, rfl, rfl, rfl, rfl, rfl, rfl⟩
  have ends : ∃ state, controlSystem.run {}
      (startOnce ++ stopOnce ++ List.replicate 3 (.run .none) ++ destroyParked) =
        some state ∧ state.listener.call.isDestroyed = true ∧
      state.listener.calls.countP (fun call => socketCalls.opened call = some 5) = 1 ∧
      state.listener.calls.countP (fun call => socketCalls.closed call = some 5) = 0 :=
    ⟨_, rfl, rfl, rfl, rfl⟩
  obtain ⟨parked, executes, leaks⟩ := executes
  obtain ⟨ended, ends, lost⟩ := ends
  exact ⟨⟨parked, TransitionSystem.reachable_of_run rfl executes, leaks⟩,
    ⟨ended, TransitionSystem.reachable_of_run rfl ends, lost⟩⟩

end HttpServer
