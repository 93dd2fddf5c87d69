import HttpServer.ListenerTeardown

/-!
# The handles of a listener core

`ListenerCore` used from outside, call by call: what each call does to its handles and
its queues, with the calls that it makes to the adapter.  The constructor assigns neither
handle, so that they are what the memory of the object held before.

From a core whose handles read as invalid, the handles in the fields are at any time the
ones that are open.
-/

namespace HttpServer

/-- A core with the calls it has made: those to the adapter, and those of
`m_ConnectionServedCallback`. -/
structure LoggedCore where
  core : ListenerCore
  calls : List AdapterCall := []
  served : List (HSteamListenSocket × HSteamNetConnection) := []

/-- A call on the core, with what the adapter returns in it; `session` marks the message
that is received. -/
inductive ResourceCall where
  | initSocket (port : UInt16) (created : SocketHandlers)
  | pollOnce (received : ReceivedMessages) (session : Nat)
  | destroySocket

namespace LoggedCore

variable {object : LoggedCore}

/-- The constructor, on memory that holds `memory` where the two handles are. -/
def construct (memory : SocketHandlers) : LoggedCore where
  core := { socket := memory.socket, pollGroup := memory.pollGroup }

def record (object : LoggedCore) (call : AdapterCall) : LoggedCore :=
  { object with calls := object.calls ++ [call] }

def setSocket (object : LoggedCore) (socket : HSteamListenSocket) : LoggedCore :=
  { object with core := { object.core with socket := socket } }

def setPollGroup (object : LoggedCore) (pollGroup : HSteamNetPollGroup) : LoggedCore :=
  { object with core := { object.core with pollGroup := pollGroup } }

def initSocket (object : LoggedCore) (port : UInt16) (created : SocketHandlers) :
    Result SocketHandlers × LoggedCore :=
  if object.core.isInitialized then
    (.error (makeError .eInvalidCall
      "A Socket is initialized try Calling DestroySocket first"), object)
  else
    let object :=
      (object.record (.createListenSocketIP port created.socket)).setSocket created.socket
    if object.core.socket = hSteamListenSocketInvalid then
      (.error (makeError .eSocketInitializationFailed "Failed to initialize Socket"), object)
    else
      let object :=
        (object.record (.createPollGroup created.pollGroup)).setPollGroup created.pollGroup
      if object.core.pollGroup = hSteamNetPollGroupInvalid then
        let object := object.record (.closeListenSocket object.core.socket)
        (.error (makeError .ePollingGroupInitializationFailed
          "Failed to initialize Polling Group"), object.setSocket hSteamListenSocketInvalid)
      else (.ok ⟨object.core.socket, object.core.pollGroup⟩, object)

def destroySocket (object : LoggedCore) : LoggedCore :=
  let object := (object.record (.closeListenSocket object.core.socket)).setSocket
    hSteamListenSocketInvalid
  let object := (object.record (.destroyPollGroup object.core.pollGroup)).setPollGroup
    hSteamNetPollGroupInvalid
  { object with core := { object.core with
      outgoingMessages := ThreadSaveQueue.clear object.core.outgoingMessages
      receivedMessages := ThreadSaveQueue.clear object.core.receivedMessages
      errorQueue := ThreadSaveQueue.clear object.core.errorQueue } }

def pollOutMessages (object : LoggedCore) : Bool × LoggedCore :=
  match ThreadSaveQueue.tryPop object.core.outgoingMessages with
  | (none, _) => (false, object)
  | (some message, rest) =>
      let object := { object with core := { object.core with outgoingMessages := rest } }
      if message.request.message.length = 0 then (true, object)
      else
        let object := object.record (.sendMessageToConnection message.request.sized)
        (true, { object with served :=
          object.served ++ [(object.core.socket, message.request.connection)] })

def pollIncMessages (object : LoggedCore) (received : ReceivedMessages) (session : Nat) :
    Result Bool × LoggedCore :=
  let object := object.record (.receiveMessagesOnPollGroup object.core.pollGroup)
  match received with
  | .none => (.ok false, object)
  | .negative =>
      let err := makeError .ePollGroupHandlerInvalid
        "PollGroup Handler invalid on trying to recive Messages"
      (.error err, { object with core := { object.core with
        errorQueue := ThreadSaveQueue.push object.core.errorQueue err } })
  | .message message =>
      let object := { object with core := { object.core with
        receivedMessages :=
          ThreadSaveQueue.push object.core.receivedMessages { request := message, session } } }
      (.ok true, object.record (.releaseMessage message))

def pollOnce (object : LoggedCore) (received : ReceivedMessages) (session : Nat) :
    Result Bool × LoggedCore :=
  let (polledOutMsg, object) := object.pollOutMessages
  let (polled, object) := object.pollIncMessages received session
  (polled.map fun polledIncMsg => polledIncMsg || polledOutMsg, object)

end LoggedCore

/-- All sequences of calls on a core, from its constructor on. -/
def resourceSystem : TransitionSystem LoggedCore ResourceCall where
  Initial object := ∃ memory, object = LoggedCore.construct memory
  step object
    | .initSocket port created => some (object.initSocket port created).2
    | .pollOnce received session => some (object.pollOnce received session).2
    | .destroySocket => some object.destroySocket

namespace LoggedCore

variable {object middle next : LoggedCore} {port : UInt16} {created : SocketHandlers}
  {result : Result SocketHandlers}

/-- The listen sockets that the core has created and not closed. -/
def openSockets (object : LoggedCore) : List HSteamListenSocket :=
  socketCalls.openHandles object.calls

def openPollGroups (object : LoggedCore) : List HSteamNetPollGroup :=
  pollGroupCalls.openHandles object.calls

/-- The fields name exactly the handles that are open, both or neither. -/
structure HoldsOpen (object : LoggedCore) : Prop where
  together : object.core.socket = hSteamListenSocketInvalid ↔
    object.core.pollGroup = hSteamNetPollGroupInvalid
  sockets : object.openSockets = (valid? object.core.socket).toList
  pollGroups : object.openPollGroups = (valid? object.core.pollGroup).toList

/-- The fields are as they were, and so is what is open. -/
structure SameHandles (object next : LoggedCore) : Prop where
  socket : next.core.socket = object.core.socket
  pollGroup : next.core.pollGroup = object.core.pollGroup
  sockets : next.openSockets = object.openSockets
  pollGroups : next.openPollGroups = object.openPollGroups

theorem SameHandles.refl : SameHandles object object := ⟨rfl, rfl, rfl, rfl⟩

theorem SameHandles.trans (first : SameHandles object middle)
    (second : SameHandles middle next) : SameHandles object next where
  socket := second.socket.trans first.socket
  pollGroup := second.pollGroup.trans first.pollGroup
  sockets := second.sockets.trans first.sockets
  pollGroups := second.pollGroups.trans first.pollGroups

theorem HoldsOpen.congr (holds : HoldsOpen object) (same : SameHandles object next) :
    HoldsOpen next where
  together := by rw [same.socket, same.pollGroup]; exact holds.together
  sockets := by rw [same.sockets, same.socket]; exact holds.sockets
  pollGroups := by rw [same.pollGroups, same.pollGroup]; exact holds.pollGroups

/-- Where one handle is invalid, nothing is open. -/
theorem HoldsOpen.closed (holds : HoldsOpen object)
    (uninitialized : object.core.isInitialized = false) :
    object.openSockets = [] ∧ object.openPollGroups = [] := by
  obtain ⟨socket, pollGroup⟩ := ListenerCore.isInitialized_eq_false.mp uninitialized
  constructor
  · rw [holds.sockets, socket]
    rfl
  · rw [holds.pollGroups, pollGroup]
    rfl

theorem valid?_eq_none {handle : UInt32} : (valid? handle).toList = [] ↔ handle = 0 := by
  by_cases invalid : handle = 0 <;> simp [valid?, invalid]

theorem HoldsOpen.isInitialized_eq_false (holds : HoldsOpen object) :
    object.core.isInitialized = false ↔
      object.openSockets = [] ∧ object.openPollGroups = [] := by
  refine ⟨holds.closed, fun ⟨sockets, pollGroups⟩ => ?_⟩
  rw [holds.sockets, valid?_eq_none] at sockets
  rw [holds.pollGroups, valid?_eq_none] at pollGroups
  exact ListenerCore.isInitialized_eq_false.mpr ⟨sockets, pollGroups⟩

/-- Everything that `initSocket` can do. -/
inductive InitSocketStep (object : LoggedCore) (port : UInt16) (created : SocketHandlers) :
    Result SocketHandlers → LoggedCore → Prop where
  | refused (initialized : object.core.isInitialized = true) :
      InitSocketStep object port created (.error (makeError .eInvalidCall
        "A Socket is initialized try Calling DestroySocket first")) object
  | noSocket (uninitialized : object.core.isInitialized = false)
      (invalid : created.socket = hSteamListenSocketInvalid) :
      InitSocketStep object port created
        (.error (makeError .eSocketInitializationFailed "Failed to initialize Socket"))
        ((object.record (.createListenSocketIP port created.socket)).setSocket created.socket)
  | noPollGroup (uninitialized : object.core.isInitialized = false)
      (valid : created.socket ≠ hSteamListenSocketInvalid)
      (invalid : created.pollGroup = hSteamNetPollGroupInvalid) :
      InitSocketStep object port created
        (.error (makeError .ePollingGroupInitializationFailed
          "Failed to initialize Polling Group"))
        { object with
          core := { object.core with
            socket := hSteamListenSocketInvalid, pollGroup := created.pollGroup }
          calls := object.calls ++ [.createListenSocketIP port created.socket] ++
            [.createPollGroup created.pollGroup] ++ [.closeListenSocket created.socket] }
  | opened (uninitialized : object.core.isInitialized = false)
      (validSocket : created.socket ≠ hSteamListenSocketInvalid)
      (validPollGroup : created.pollGroup ≠ hSteamNetPollGroupInvalid) :
      InitSocketStep object port created (.ok created)
        { object with
          core := { object.core with
            socket := created.socket, pollGroup := created.pollGroup }
          calls := object.calls ++ [.createListenSocketIP port created.socket] ++
            [.createPollGroup created.pollGroup] }

theorem initSocketStep :
    InitSocketStep object port created (object.initSocket port created).1
      (object.initSocket port created).2 := by
  unfold initSocket
  split
  next initialized => exact .refused initialized
  next uninitialized =>
    have closed : object.core.isInitialized = false := by simpa using uninitialized
    dsimp only
    split
    next invalid => exact .noSocket closed invalid
    next valid =>
      split
      next invalid => exact .noPollGroup closed valid invalid
      next validPollGroup => exact .opened closed valid validPollGroup

/-- What `initSocket` promises: it succeeds exactly when nothing is open and the adapter
creates both handles, and where it fails it leaves the handles as they were. -/
structure InitSocketSound (object : LoggedCore) (port : UInt16) (created : SocketHandlers) :
    Prop where
  succeeds : (∃ handlers, (object.initSocket port created).1 = .ok handlers) ↔
    (object.openSockets = [] ∧ object.openPollGroups = []) ∧
      created.socket ≠ hSteamListenSocketInvalid ∧
      created.pollGroup ≠ hSteamNetPollGroupInvalid
  fails : ∀ err, (object.initSocket port created).1 = .error err →
    SameHandles object (object.initSocket port created).2

theorem HoldsOpen.sameHandles (holds : HoldsOpen object) {err : ErrorValue}
    (steps : InitSocketStep object port created (.error err) next) :
    SameHandles object next := by
  cases steps with
  | refused => exact .refl
  | noSocket uninitialized invalid =>
      obtain ⟨noSockets, noPollGroups⟩ := holds.closed uninitialized
      refine ⟨?_, rfl, ?_, HandleCalls.openHandles_append_other rfl rfl⟩
      · exact invalid.trans (ListenerCore.isInitialized_eq_false.mp uninitialized).1.symm
      · have opens : socketCalls.opened (.createListenSocketIP port created.socket) = none :=
          congrArg valid? invalid
        exact (HandleCalls.openHandles_append_open noSockets opens rfl).trans noSockets.symm
  | noPollGroup uninitialized valid invalid =>
      obtain ⟨socket, pollGroup⟩ := ListenerCore.isInitialized_eq_false.mp uninitialized
      obtain ⟨noSockets, noPollGroups⟩ := holds.closed uninitialized
      refine ⟨socket.symm, invalid.trans pollGroup.symm, ?_, ?_⟩
      · refine (HandleCalls.openHandles_append_close ?_ rfl rfl).trans noSockets.symm
        rw [HandleCalls.openHandles_append_other rfl rfl]
        exact HandleCalls.openHandles_append_open noSockets rfl rfl
      · have opens : pollGroupCalls.opened (.createPollGroup created.pollGroup) = none :=
          congrArg valid? invalid
        rw [openPollGroups, HandleCalls.openHandles_append_other rfl rfl]
        refine (HandleCalls.openHandles_append_open ?_ opens rfl).trans noPollGroups.symm
        rw [HandleCalls.openHandles_append_other rfl rfl]
        exact noPollGroups

theorem HoldsOpen.initSocket (holds : HoldsOpen object)
    (steps : InitSocketStep object port created result next) : HoldsOpen next := by
  cases result with
  | error err => exact holds.congr (holds.sameHandles steps)
  | ok handlers =>
      cases steps with
      | opened uninitialized validSocket validPollGroup =>
          obtain ⟨noSockets, noPollGroups⟩ := holds.closed uninitialized
          refine ⟨⟨fun invalid => absurd invalid validSocket,
            fun invalid => absurd invalid validPollGroup⟩, ?_, ?_⟩
          · rw [openSockets, HandleCalls.openHandles_append_other rfl rfl]
            exact HandleCalls.openHandles_append_open noSockets rfl rfl
          · refine HandleCalls.openHandles_append_open ?_ rfl rfl
            rw [HandleCalls.openHandles_append_other rfl rfl]
            exact noPollGroups

theorem HoldsOpen.initSocketSound (holds : HoldsOpen object) :
    InitSocketSound object port created := by
  have steps : InitSocketStep object port created (object.initSocket port created).1
      (object.initSocket port created).2 := initSocketStep
  constructor
  · rw [← holds.isInitialized_eq_false]
    generalize object.initSocket port created = outcome at steps
    obtain ⟨result, next⟩ := outcome
    dsimp only at steps ⊢
    cases steps with
    | refused initialized => simp [initialized]
    | noSocket _ invalid => simp [invalid]
    | noPollGroup _ _ invalid => simp [invalid]
    | opened uninitialized validSocket validPollGroup =>
        simp [uninitialized, validSocket, validPollGroup]
  · intro err failed
    rw [failed] at steps
    exact holds.sameHandles steps

theorem SameHandles.record {call : AdapterCall} (socketOpens : socketCalls.opened call = none)
    (socketCloses : socketCalls.closed call = none)
    (pollGroupOpens : pollGroupCalls.opened call = none)
    (pollGroupCloses : pollGroupCalls.closed call = none)
    (socket : next.core.socket = object.core.socket)
    (pollGroup : next.core.pollGroup = object.core.pollGroup)
    (calls : next.calls = object.calls ++ [call]) : SameHandles object next where
  socket := socket
  pollGroup := pollGroup
  sockets := by
    rw [openSockets, calls, HandleCalls.openHandles_append_other socketOpens socketCloses]
    rfl
  pollGroups := by
    rw [openPollGroups, calls,
      HandleCalls.openHandles_append_other pollGroupOpens pollGroupCloses]
    rfl

theorem sameHandles_pollOutMessages : SameHandles object object.pollOutMessages.2 := by
  unfold pollOutMessages
  split
  · exact .refl
  · split
    · exact ⟨rfl, rfl, rfl, rfl⟩
    · exact .record rfl rfl rfl rfl rfl rfl rfl

theorem sameHandles_pollIncMessages {received : ReceivedMessages} {session : Nat} :
    SameHandles object (object.pollIncMessages received session).2 := by
  have receives : SameHandles object
      (object.record (.receiveMessagesOnPollGroup object.core.pollGroup)) :=
    .record rfl rfl rfl rfl rfl rfl rfl
  cases received with
  | none => exact receives
  | negative => exact receives.trans ⟨rfl, rfl, rfl, rfl⟩
  | message message => exact receives.trans (.record rfl rfl rfl rfl rfl rfl rfl)

theorem sameHandles_pollOnce {received : ReceivedMessages} {session : Nat} :
    SameHandles object (object.pollOnce received session).2 :=
  sameHandles_pollOutMessages.trans sameHandles_pollIncMessages

theorem HoldsOpen.destroySocket (holds : HoldsOpen object) : HoldsOpen object.destroySocket where
  together := ⟨fun _ => rfl, fun _ => rfl⟩
  sockets := by
    refine (HandleCalls.openHandles_append_other rfl rfl).trans ?_
    exact HandleCalls.openHandles_append_close holds.sockets rfl rfl
  pollGroups := by
    refine HandleCalls.openHandles_append_close ?_ rfl rfl
    exact (HandleCalls.openHandles_append_other rfl rfl).trans holds.pollGroups

end LoggedCore

namespace Listener

variable {listener : Listener}

/-- The core of the listener with the adapter calls of both threads. -/
def logged (listener : Listener) : LoggedCore where
  core := listener.core
  calls := listener.calls

/-- The listener with its core and the adapter calls as a call has left them. -/
def withLogged (listener : Listener) (object : LoggedCore) : Listener :=
  { listener with core := object.core, calls := object.calls }

/-- While the other thread of the listener waits, the statements of a call amount to it. -/
theorem callSteps_initSocket {port : UInt16} (call : listener.call = .initGuard port)
    (created : SocketHandlers) :
    ∃ handles : List UInt32, handles.foldlM callStep listener =
      some ((listener.withLogged (listener.logged.initSocket port created).2).callGoTo
        (.initReturned (listener.logged.initSocket port created).1)) := by
  by_cases initialized : listener.core.isInitialized = true
  · refine ⟨[0], ?_⟩
    simp [callStep, call, LoggedCore.initSocket, logged, withLogged, initialized, callGoTo]
  · by_cases socket : created.socket = hSteamListenSocketInvalid
    · refine ⟨[0, created.socket], ?_⟩
      simp [callStep, call, LoggedCore.initSocket, logged, withLogged, initialized, callGoTo,
        socket, LoggedCore.setSocket, LoggedCore.record, record]
    · by_cases pollGroup : created.pollGroup = hSteamNetPollGroupInvalid
      · refine ⟨[0, created.socket, created.pollGroup, 0, 0], ?_⟩
        simp [callStep, call, LoggedCore.initSocket, logged, withLogged, initialized,
          callGoTo, socket, pollGroup, LoggedCore.setSocket, LoggedCore.setPollGroup,
          LoggedCore.record, record]
      · refine ⟨[0, created.socket, created.pollGroup, 0], ?_⟩
        simp [callStep, call, LoggedCore.initSocket, logged, withLogged, initialized,
          callGoTo, socket, pollGroup, LoggedCore.setSocket, LoggedCore.setPollGroup,
          LoggedCore.record, record]

theorem run_destroySocket (place : listener.thread = .closeSocket)
    (received : ReceivedMessages) :
    (List.replicate 7 received).foldlM run listener =
      some ((listener.withLogged listener.logged.destroySocket).goTo .lock) := by
  simp [List.replicate, run, place, goTo, LoggedCore.destroySocket, logged, withLogged,
    LoggedCore.setSocket, LoggedCore.setPollGroup, LoggedCore.record, record]

theorem run_pollOutMessages (place : listener.thread = .pollOut)
    (received : ReceivedMessages) :
    ∃ count, (List.replicate count received).foldlM run listener =
      some ((listener.withLogged listener.logged.pollOutMessages.2).goTo
        (.receive listener.logged.pollOutMessages.1)) := by
  cases queued : listener.core.outgoingMessages with
  | nil =>
      refine ⟨1, ?_⟩
      simp [run, place, queued, ThreadSaveQueue.tryPop, goTo, LoggedCore.pollOutMessages,
        logged, withLogged]
  | cons message rest =>
      by_cases empty : message.request.message.length = 0
      · refine ⟨1, ?_⟩
        simp [run, place, queued, ThreadSaveQueue.tryPop, goTo, LoggedCore.pollOutMessages,
          logged, withLogged, List.length_eq_zero_iff.mp empty]
      · refine ⟨3, ?_⟩
        simp [List.replicate, run, place, queued, ThreadSaveQueue.tryPop, goTo,
          LoggedCore.pollOutMessages, logged, withLogged, empty, LoggedCore.record, record]

/-- Where the thread goes on after `pollOnce`. -/
def afterPollOnce : Result Bool → ListenThread
  | .ok polled => .pollTest polled
  | .error _ => .stopListening

theorem run_pollIncMessages {polledOutMsg : Bool} (place : listener.thread = .receive polledOutMsg)
    (received : ReceivedMessages) :
    ∃ count, (List.replicate count received).foldlM run listener =
      some ((listener.withLogged
          (listener.logged.pollIncMessages received listener.session).2).goTo
        (afterPollOnce ((listener.logged.pollIncMessages received listener.session).1.map
          fun polledIncMsg => polledIncMsg || polledOutMsg))) := by
  cases received with
  | none =>
      refine ⟨1, ?_⟩
      simp [run, place, goTo, LoggedCore.pollIncMessages, logged, withLogged,
        LoggedCore.record, record, afterPollOnce, Except.map]
  | message message =>
      refine ⟨2, ?_⟩
      simp [List.replicate, run, place, goTo, LoggedCore.pollIncMessages, logged, withLogged,
        LoggedCore.record, record, afterPollOnce, Except.map]
  | negative =>
      refine ⟨2, ?_⟩
      simp [List.replicate, run, place, goTo, LoggedCore.pollIncMessages, logged, withLogged,
        LoggedCore.record, record, afterPollOnce, Except.map]

theorem run_pollOnce (place : listener.thread = .pollOut) (received : ReceivedMessages) :
    ∃ count, (List.replicate count received).foldlM run listener =
      some ((listener.withLogged
          (listener.logged.pollOnce received listener.session).2).goTo
        (afterPollOnce (listener.logged.pollOnce received listener.session).1)) := by
  obtain ⟨first, polledOut⟩ := run_pollOutMessages place received
  generalize sent : (listener.withLogged listener.logged.pollOutMessages.2).goTo
    (.receive listener.logged.pollOutMessages.1) = middle at polledOut
  have receives : middle.thread = .receive listener.logged.pollOutMessages.1 := by
    rw [← sent]
    rfl
  obtain ⟨second, polledInc⟩ := run_pollIncMessages receives received
  refine ⟨first + second, ?_⟩
  rw [List.replicate_add, List.foldlM_append, polledOut, Option.bind_eq_bind,
    Option.bind_some, polledInc, ← sent]
  cases received with
  | none => rfl
  | message message => rfl
  | negative => rfl

end Listener

open LoggedCore

/-- The core holds what is open, and `initSocket` keeps its promise. -/
structure ResourcesSound (object : LoggedCore) : Prop where
  holdsOpen : HoldsOpen object
  initSocket : ∀ port created, InitSocketSound object port created

theorem holdsOpen_construct {memory : SocketHandlers} :
    HoldsOpen (construct memory) ↔
      memory.socket = hSteamListenSocketInvalid ∧
        memory.pollGroup = hSteamNetPollGroupInvalid := by
  constructor
  · intro holds
    exact ⟨valid?_eq_none.mp holds.sockets.symm, valid?_eq_none.mp holds.pollGroups.symm⟩
  · rintro ⟨socket, pollGroup⟩
    refine ⟨⟨fun _ => pollGroup, fun _ => socket⟩, ?_, ?_⟩
    · exact (valid?_eq_none.mpr socket).symm
    · exact (valid?_eq_none.mpr pollGroup).symm

theorem holdsOpen_of_steps {first last : LoggedCore} {calls : List ResourceCall}
    (holds : HoldsOpen first) (steps : resourceSystem.Steps first calls last) :
    HoldsOpen last := by
  refine steps.kept HoldsOpen holds fun object call next holds _ stepTo => ?_
  cases call with
  | initSocket port created =>
      cases stepTo
      exact holds.initSocket initSocketStep
  | pollOnce received session =>
      cases stepTo
      exact holds.congr sameHandles_pollOnce
  | destroySocket =>
      cases stepTo
      exact holds.destroySocket

/-- The handles in the fields are those that are open after every sequence of calls exactly
when the memory of the object held two invalid handles before its construction. -/
theorem resources_sound_iff {memory : SocketHandlers} :
    (∀ calls object, resourceSystem.Steps (construct memory) calls object →
        ResourcesSound object) ↔
      memory.socket = hSteamListenSocketInvalid ∧
        memory.pollGroup = hSteamNetPollGroupInvalid := by
  rw [← holdsOpen_construct]
  constructor
  · intro sound
    exact (sound [] _ .refl).holdsOpen
  · intro holds calls object steps
    have holdsLast := holdsOpen_of_steps holds steps
    exact ⟨holdsLast, fun _ _ => holdsLast.initSocketSound⟩

/-- On other memory a new core refuses `initSocket`, with nothing open, and closes handles
that it has never created. -/
theorem resources_unsound :
    let object := construct ⟨5, 7⟩
    ¬ ResourcesSound object ∧ object.openSockets = [] ∧ object.openPollGroups = [] ∧
      (object.initSocket 80 ⟨1, 2⟩).1 = .error (makeError .eInvalidCall
        "A Socket is initialized try Calling DestroySocket first") ∧
      object.destroySocket.calls = [.closeListenSocket 5, .destroyPollGroup 7] := by
  refine ⟨fun sound => ?_, rfl, rfl, rfl, rfl⟩
  exact absurd (holdsOpen_construct.mp sound.holdsOpen).1 (by decide)

end HttpServer
