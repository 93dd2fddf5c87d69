import HttpServer.Basic
import HttpServer.Library.UnorderedMap

/-!
# The manager core

`NetworkManagerCore` keeps one `ListenerInfo` for every listener handle and one
`SocketInfo` for every listen socket that the manager regards as open.  It runs
on the network thread only, so each of its operations is a function of its
state and of what the calls it makes return.  An operation that fails an assert
has no successor state but a `Fault`.

The listener objects are a parameter: the manager reaches them through the
`IListener` interface only.
-/

namespace HttpServer

open UnorderedMap

/-- What the manager reaches of a listener object besides starting and stopping
it: its creation and its three queues. -/
class IListener (Listener : Type) where
  createListener : Listener
  pushOutgoing : Listener → Request → Listener
  tryPopReceived : Listener → Option Request × Listener
  tryPopError : Listener → Option ErrorValue × Listener

/-- A listener object as its queues alone. -/
structure ListenerQueues where
  receivedQueue : ThreadSaveQueue Request := []
  outgoingQueue : ThreadSaveQueue Request := []
  errorQueue : ThreadSaveQueue ErrorValue := []

instance : IListener ListenerQueues where
  createListener := {}
  pushOutgoing object message :=
    { object with outgoingQueue := ThreadSaveQueue.push object.outgoingQueue message }
  tryPopReceived object :=
    let (message, rest) := ThreadSaveQueue.tryPop object.receivedQueue
    (message, { object with receivedQueue := rest })
  tryPopError object :=
    let (err, rest) := ThreadSaveQueue.tryPop object.errorQueue
    (err, { object with errorQueue := rest })

/-- A NUL-terminated string, by the characters before its NUL. -/
@[ext]
structure CString where
  bytes : List UInt8
  not_nul : (0 : UInt8) ∉ bytes

/-- `strncpy` into an array of 512 characters: the source is cut off there and
padded with NUL characters up to there. -/
def strncpy (source : CString) : Vector UInt8 512 :=
  Vector.ofFn fun index => source.bytes.getD index 0

structure Connections where
  connection : HSteamNetConnection
  isServed : Bool := false
deriving DecidableEq

structure SocketInfo where
  allConnections : List Connections := []
  pollGroup : HSteamNetPollGroup
deriving DecidableEq

structure ListenerInfo (Listener : Type) where
  listener : Listener
  listenerName : Vector UInt8 512 := Vector.replicate 512 0
  socket : HSteamListenSocket := hSteamListenSocketInvalid

/-- A call the core made on the adapter or on one of its listener objects. -/
inductive CoreCall where
  | adapter (call : AdapterCall)
  | initSocket (listener : HListener) (port : UInt16)
  | startListening (listener : HListener)
  | stopListening (listener : HListener)
  | destroy (listener : HListener)
  | getReceivedQueue (listener : HListener)
  | getOutgoingQueue (listener : HListener)
  | getErrorQueue (listener : HListener)
deriving DecidableEq

/-- The state of the core, with the calls it has made, oldest first. -/
structure NetworkManagerCore (Listener : Type) where
  listeners : UnorderedMap HListener (ListenerInfo Listener) := ∅
  socketClientsMap : UnorderedMap HSteamListenSocket SocketInfo := ∅
  listenerHandlerIndex : UInt64 := 1
  calls : List CoreCall := []

/-- The search key of every `std::find_if` over a connection table. -/
def isConnection (connection : HSteamNetConnection) (entry : Connections) : Bool :=
  entry.connection == connection

namespace NetworkManagerCore

variable {Listener : Type}

def record (core : NetworkManagerCore Listener) (call : CoreCall) :
    NetworkManagerCore Listener :=
  { core with calls := core.calls ++ [call] }

def updateListener (core : NetworkManagerCore Listener) (listener : HListener)
    (update : ListenerInfo Listener → ListenerInfo Listener) :
    NetworkManagerCore Listener :=
  { core with listeners := modify core.listeners listener update }

def updateConnections (core : NetworkManagerCore Listener)
    (socket : HSteamListenSocket)
    (update : List Connections → List Connections) :
    NetworkManagerCore Listener :=
  { core with
    socketClientsMap := modify core.socketClientsMap socket fun info =>
      { info with allConnections := update info.allConnections } }

def isSocketClientsMapEmpty (core : NetworkManagerCore Listener) : Bool :=
  empty core.socketClientsMap

/-- Every operation on a handle begins with this test and, when it passes, with
`m_Listeners.at`, so the entry is returned here. -/
def isValidListenerHandler (core : NetworkManagerCore Listener)
    (listenerHandler : HListener) : Result (ListenerInfo Listener) :=
  match core.listeners.lookup listenerHandler with
  | none =>
      .error (makeError .eInvalidListener
        "Listener Handler not found in Listeners Map")
  | some info => .ok info

def createListener [IListener Listener] (core : NetworkManagerCore Listener)
    (listenerName : Option CString) :
    Except Fault (HListener × NetworkManagerCore Listener) :=
  match core.listeners.lookup core.listenerHandlerIndex with
  | some _ => .error .createListenerIndexTaken
  | none =>
      let handler := core.listenerHandlerIndex
      let info : ListenerInfo Listener :=
        match listenerName with
        | none => { listener := IListener.createListener }
        | some name =>
            { listener := IListener.createListener, listenerName := strncpy name }
      .ok (handler,
        { core with
          listeners := emplace core.listeners handler info
          listenerHandlerIndex := core.listenerHandlerIndex + 1 })

/-- The assignments of `startListening` once `initSocket` has succeeded. -/
def adoptSocket (core : NetworkManagerCore Listener) (listener : HListener)
    (handlers : SocketHandlers) : NetworkManagerCore Listener :=
  { core.updateListener listener fun info => { info with socket := handlers.socket } with
    socketClientsMap := emplace core.socketClientsMap handlers.socket
      { pollGroup := handlers.pollGroup } }

/-- The part of `stopListening` before the listener object is told: close every
connection of the socket, drop its table and forget the socket. -/
def dropSocket (core : NetworkManagerCore Listener) (listener : HListener)
    (socket : HSteamListenSocket) (socketInfo : SocketInfo) :
    NetworkManagerCore Listener :=
  { core.updateListener listener fun info =>
      { info with socket := hSteamListenSocketInvalid } with
    socketClientsMap := core.socketClientsMap.erase socket
    calls := core.calls ++ socketInfo.allConnections.map fun conn =>
      .adapter (.closeConnection conn.connection 1) }

/-- `initSocket` and `started` are what the listener's two calls return. -/
def startListening (core : NetworkManagerCore Listener) (listener : HListener)
    (port : UInt16) (initSocket : Result SocketHandlers) (started : Result Unit) :
    Result Unit × NetworkManagerCore Listener :=
  match core.isValidListenerHandler listener with
  | .error err => (.error err, core)
  | .ok info =>
      if info.socket ≠ hSteamListenSocketInvalid then
        (.error (makeError .eInvalidCall
          "Already Listening on this Scoket -> Socket/Pollgroup Valid"), core)
      else
        let core := core.record (.initSocket listener port)
        match initSocket with
        | .error err => (.error err, core)
        | .ok socketHandlers =>
            let core := (core.adoptSocket listener socketHandlers).record
              (.startListening listener)
            match started with
            | .error err => (.error (makeError err.errorCode err.message), core)
            | .ok () => (.ok (), core)

def stopListening (core : NetworkManagerCore Listener) (listener : HListener) :
    Except Fault (Result Unit × NetworkManagerCore Listener) :=
  match core.isValidListenerHandler listener with
  | .error err => .ok (.error err, core)
  | .ok info =>
      if info.socket = hSteamListenSocketInvalid then
        .ok (.error (makeError .eInvalidCall
          "Not currently Listening (Double Call?)"), core)
      else
        match core.socketClientsMap.lookup info.socket with
        | none => .error .stopListeningSocketMissing
        | some socketInfo =>
            .ok (.ok (), (core.dropSocket listener info.socket socketInfo).record
              (.stopListening listener))

/-- The result of the inner `stopListening` is not looked at. -/
def destroyListener (core : NetworkManagerCore Listener) (listener : HListener) :
    Except Fault (Result Unit × NetworkManagerCore Listener) :=
  match core.isValidListenerHandler listener with
  | .error err => .ok (.error err, core)
  | .ok _ => do
      let (_, core) ← core.stopListening listener
      let core := core.record (.destroy listener)
      .ok (.ok (), { core with listeners := core.listeners.erase listener })

def tryPopReceivedMessageQueue [IListener Listener]
    (core : NetworkManagerCore Listener) (listener : HListener) :
    Result (Option Request) × NetworkManagerCore Listener :=
  match core.isValidListenerHandler listener with
  | .error err => (.error (makeError err.errorCode err.message), core)
  | .ok info =>
      let (message, object) := IListener.tryPopReceived info.listener
      (.ok message, (core.updateListener listener fun info =>
        { info with listener := object }).record (.getReceivedQueue listener))

def pushOutgoingMessageQueue [IListener Listener]
    (core : NetworkManagerCore Listener) (listener : HListener)
    (message : Request) :
    Except Fault (Result Unit × NetworkManagerCore Listener) :=
  match core.isValidListenerHandler listener with
  | .error err => .ok (.error (makeError err.errorCode err.message), core)
  | .ok info =>
      if info.socket = hSteamListenSocketInvalid then
        .ok (.error (makeError .eInvalidCall
          "Tryed pushing Outgoing message without listening"), core)
      else
        match core.socketClientsMap.lookup info.socket with
        | none => .error .pushOutgoingSocketMissing
        | some socketInfo =>
            if socketInfo.allConnections.any (isConnection message.connection) then
              .ok (.ok (), (core.updateListener listener fun info =>
                { info with listener := IListener.pushOutgoing info.listener message }).record
                  (.getOutgoingQueue listener))
            else
              .ok (.error (makeError .eInvalidConnection
                "No connection on this listener with te gicen connection"), core)

def tryPopErrorQueue [IListener Listener]
    (core : NetworkManagerCore Listener) (listener : HListener) :
    Result (Option ErrorValue) × NetworkManagerCore Listener :=
  match core.isValidListenerHandler listener with
  | .error err => (.error (makeError err.errorCode err.message), core)
  | .ok info =>
      let (err, object) := IListener.tryPopError info.listener
      (.ok err, (core.updateListener listener fun info =>
        { info with listener := object }).record (.getErrorQueue listener))

def connectionServed (core : NetworkManagerCore Listener)
    (socket : HSteamListenSocket) (connection : HSteamNetConnection) :
    Except Fault (NetworkManagerCore Listener) :=
  match core.socketClientsMap.lookup socket with
  | none => .error .connectionServedSocketMissing
  | some socketInfo =>
      if socketInfo.allConnections.any (isConnection connection) then
        .ok (core.updateConnections socket fun connections =>
          connections.replaceF fun entry =>
            if isConnection connection entry then some { entry with isServed := true }
            else none)
      else .error .connectionServedConnectionMissing

/-- `accepted` and `grouped` are what `AcceptConnection` and
`SetConnectionPollGroup` return. -/
def connecting (core : NetworkManagerCore Listener)
    (info : SteamNetConnectionStatusChangedCallback)
    (accepted : EResult) (grouped : Bool) :
    Except Fault (NetworkManagerCore Listener) :=
  let core := core.record (.adapter (.acceptConnection info.hConn))
  if accepted ≠ .ok then
    .ok (core.record (.adapter (.closeConnection info.hConn 0)))
  else
    match core.socketClientsMap.lookup info.listenSocket with
    | none => .error .connectingSocketMissing
    | some socketInfo =>
        let core := core.record
          (.adapter (.setConnectionPollGroup info.hConn socketInfo.pollGroup))
        if ¬ grouped then
          .ok (core.record (.adapter (.closeConnection info.hConn 0)))
        else
          .ok (core.updateConnections info.listenSocket fun connections =>
            connections ++ [{ connection := info.hConn }])

def disconnected (core : NetworkManagerCore Listener)
    (info : SteamNetConnectionStatusChangedCallback) :
    Except Fault (NetworkManagerCore Listener) :=
  if info.oldState ≠ .connected ∧ info.oldState ≠ .connecting then
    .error .disconnectedOldState
  else
    match core.socketClientsMap.lookup info.listenSocket with
    | none => .error .disconnectedSocketMissing
    | some socketInfo =>
        if socketInfo.allConnections.any (isConnection info.hConn) then
          .ok ((core.updateConnections info.listenSocket fun connections =>
              connections.eraseP (isConnection info.hConn)).record
            (.adapter (.closeConnection info.hConn 0)))
        else .error .disconnectedConnectionMissing

def callbackManager (core : NetworkManagerCore Listener)
    (info : SteamNetConnectionStatusChangedCallback)
    (accepted : EResult) (grouped : Bool) :
    Except Fault (NetworkManagerCore Listener) :=
  match info.state with
  | .none => .ok core
  | .connecting => core.connecting info accepted grouped
  | .connected => .ok core
  | .problemDetectedLocally => core.disconnected info
  | .closedByPeer => core.disconnected info
  | _ => .ok core

section Inversion

variable {core next : NetworkManagerCore Listener} {listener : HListener}
  {socket : HSteamListenSocket} {connection : HSteamNetConnection} {result : Result Unit}
  {info : SteamNetConnectionStatusChangedCallback} {accepted : EResult} {grouped : Bool}

theorem isValidListenerHandler_eq_ok {info : ListenerInfo Listener} :
    core.isValidListenerHandler listener = .ok info ↔
      core.listeners.lookup listener = some info := by
  unfold isValidListenerHandler
  cases core.listeners.lookup listener with
  | none => simp
  | some present => simp

theorem lookup_of_invalid {err : ErrorValue}
    (invalid : core.isValidListenerHandler listener = .error err) :
    core.listeners.lookup listener = none := by
  unfold isValidListenerHandler at invalid
  cases found : core.listeners.lookup listener with
  | none => rfl
  | some present =>
      rw [found] at invalid
      cases invalid

/-- The entry of a new listener. -/
def newInfo [IListener Listener] (listenerName : Option CString) : ListenerInfo Listener :=
  match listenerName with
  | none => { listener := IListener.createListener }
  | some name => { listener := IListener.createListener, listenerName := strncpy name }

/-- A new listener gets the handle of the counter. -/
theorem createListener_eq_ok [IListener Listener] {name : Option CString} :
    core.createListener name = .ok (listener, next) ↔
      core.listeners.lookup listener = none ∧ listener = core.listenerHandlerIndex ∧
        next = { core with
          listeners := emplace core.listeners listener (newInfo name)
          listenerHandlerIndex := core.listenerHandlerIndex + 1 } := by
  unfold createListener
  constructor
  · intro creates
    split at creates
    · cases creates
    next free =>
      obtain ⟨rfl, rfl⟩ := Prod.mk.inj (Except.ok.inj creates)
      exact ⟨free, rfl, rfl⟩
  · rintro ⟨free, rfl, rfl⟩
    rw [free]
    rfl

/-- `startListening` is refused, or calls `initSocket`, and where that succeeds adopts its
handles and returns what the start of the listener does. -/
inductive StartingStep (core : NetworkManagerCore Listener) (listener : HListener)
    (port : UInt16) :
    Result SocketHandlers → Result Unit → Result Unit → NetworkManagerCore Listener → Prop where
  | refused {initSocket : Result SocketHandlers} {started : Result Unit} {err : ErrorValue}
      (busy : ∀ info, core.listeners.lookup listener = some info →
        info.socket ≠ hSteamListenSocketInvalid) :
      StartingStep core listener port initSocket started (.error err) core
  | failed {info : ListenerInfo Listener} {err : ErrorValue} {started : Result Unit}
      (found : core.listeners.lookup listener = some info)
      (idle : info.socket = hSteamListenSocketInvalid) :
      StartingStep core listener port (.error err) started (.error err)
        (core.record (.initSocket listener port))
  | adopted {info : ListenerInfo Listener} {handlers : SocketHandlers} {started : Result Unit}
      (found : core.listeners.lookup listener = some info)
      (idle : info.socket = hSteamListenSocketInvalid) :
      StartingStep core listener port (.ok handlers) started started
        (((core.record (.initSocket listener port)).adoptSocket listener handlers).record
          (.startListening listener))

theorem startingStep_of_startListening {port : UInt16} {initSocket : Result SocketHandlers}
    {started : Result Unit}
    (starts : core.startListening listener port initSocket started = (result, next)) :
    StartingStep core listener port initSocket started result next := by
  unfold startListening at starts
  split at starts
  next err invalid =>
    cases starts
    refine .refused fun info found => ?_
    cases (lookup_of_invalid invalid).symm.trans found
  next info valid =>
    have found := isValidListenerHandler_eq_ok.mp valid
    split at starts
    next busy =>
      cases starts
      refine .refused fun other foundOther => ?_
      obtain rfl := Option.some.inj (found.symm.trans foundOther)
      exact busy
    next idle =>
      rw [ne_eq, not_not] at idle
      cases initSocket with
      | error err =>
          cases starts
          exact .failed found idle
      | ok handlers =>
          cases started with
          | error err =>
              cases starts
              exact .adopted found idle
          | ok =>
              cases starts
              exact .adopted found idle

/-- Taking an element out of a queue changes the listener object at most. -/
theorem next_of_tryPopReceived [IListener Listener] {result : Result (Option Request)}
    (pops : core.tryPopReceivedMessageQueue listener = (result, next)) :
    next = core ∨ ∃ object,
      next = (core.updateListener listener fun info =>
        { info with listener := object }).record (.getReceivedQueue listener) := by
  unfold tryPopReceivedMessageQueue at pops
  split at pops
  · exact Or.inl (Prod.mk.inj pops).2.symm
  · exact Or.inr ⟨_, (Prod.mk.inj pops).2.symm⟩

theorem next_of_tryPopError [IListener Listener] {result : Result (Option ErrorValue)}
    (pops : core.tryPopErrorQueue listener = (result, next)) :
    next = core ∨ ∃ object,
      next = (core.updateListener listener fun info =>
        { info with listener := object }).record (.getErrorQueue listener) := by
  unfold tryPopErrorQueue at pops
  split at pops
  · exact Or.inl (Prod.mk.inj pops).2.symm
  · exact Or.inr ⟨_, (Prod.mk.inj pops).2.symm⟩

/-- `push_OutgoingMessageQueue` changes nothing or queues the message. -/
theorem next_of_pushOutgoing [IListener Listener] {message : Request}
    (pushes : core.pushOutgoingMessageQueue listener message = .ok (result, next)) :
    next = core ∨ next = (core.updateListener listener fun info =>
      { info with listener := IListener.pushOutgoing info.listener message }).record
        (.getOutgoingQueue listener) := by
  unfold pushOutgoingMessageQueue at pushes
  split at pushes
  · exact Or.inl (Prod.mk.inj (Except.ok.inj pushes)).2.symm
  split at pushes
  · exact Or.inl (Prod.mk.inj (Except.ok.inj pushes)).2.symm
  split at pushes
  · cases pushes
  split at pushes
  · exact Or.inr (Prod.mk.inj (Except.ok.inj pushes)).2.symm
  · exact Or.inl (Prod.mk.inj (Except.ok.inj pushes)).2.symm

/-- `stopListening` finds no socket stored and does nothing, or drops the table of the
socket. -/
theorem stopListening_cases (stops : core.stopListening listener = .ok (result, next)) :
    ((∃ err, result = .error err) ∧ next = core ∧ ∀ info,
      core.listeners.lookup listener = some info → info.socket = hSteamListenSocketInvalid) ∨
    ∃ info socketInfo, core.listeners.lookup listener = some info ∧
      info.socket ≠ hSteamListenSocketInvalid ∧
      core.socketClientsMap.lookup info.socket = some socketInfo ∧ result = .ok () ∧
      next = (core.dropSocket listener info.socket socketInfo).record
        (.stopListening listener) := by
  unfold stopListening at stops
  split at stops
  next err invalid =>
    cases stops
    refine Or.inl ⟨⟨err, rfl⟩, rfl, fun info found => ?_⟩
    cases (lookup_of_invalid invalid).symm.trans found
  next info valid =>
    have found := isValidListenerHandler_eq_ok.mp valid
    split at stops
    next idle =>
      cases stops
      refine Or.inl ⟨⟨_, rfl⟩, rfl, fun other foundOther => ?_⟩
      obtain rfl := Option.some.inj (found.symm.trans foundOther)
      exact idle
    next bound =>
      split at stops
      · cases stops
      next socketInfo table =>
        cases stops
        exact Or.inr ⟨info, socketInfo, found, bound, table, rfl, rfl⟩

/-- `DestroyListener` finds no listener and does nothing, or erases it once it is stopped. -/
theorem destroyListener_cases (destroys : core.destroyListener listener = .ok (result, next)) :
    ((∃ err, result = .error err) ∧ next = core ∧ core.listeners.lookup listener = none) ∨
    ∃ inner stopped, core.stopListening listener = .ok (inner, stopped) ∧ result = .ok () ∧
      next = { stopped.record (.destroy listener) with
        listeners := stopped.listeners.erase listener } := by
  unfold destroyListener at destroys
  split at destroys
  next err invalid =>
    cases destroys
    exact Or.inl ⟨⟨err, rfl⟩, rfl, lookup_of_invalid invalid⟩
  next =>
    cases stops : core.stopListening listener with
    | error fault =>
        rw [stops] at destroys
        cases destroys
    | ok stopped =>
        rw [stops] at destroys
        cases destroys
        exact Or.inr ⟨stopped.1, stopped.2, rfl, rfl, rfl⟩

/-- The flag of the connection's entry is set. -/
theorem connectionServed_eq_ok :
    core.connectionServed socket connection = .ok next ↔
      ∃ socketInfo, core.socketClientsMap.lookup socket = some socketInfo ∧
        socketInfo.allConnections.any (isConnection connection) = true ∧
        next = core.updateConnections socket fun connections =>
          connections.replaceF fun entry =>
            if isConnection connection entry then some { entry with isServed := true }
            else none := by
  unfold connectionServed
  constructor
  · intro serves
    split at serves
    · cases serves
    next socketInfo found =>
      split at serves
      next present => exact ⟨socketInfo, found, present, (Except.ok.inj serves).symm⟩
      · cases serves
  · rintro ⟨socketInfo, found, present, rfl⟩
    rw [found]
    exact if_pos present

/-- The connection is refused, or joins no poll group, or is entered into the table of its
socket. -/
inductive ConnectingStep (core : NetworkManagerCore Listener)
    (info : SteamNetConnectionStatusChangedCallback) :
    EResult → Bool → NetworkManagerCore Listener → Prop where
  | refused {accepted : EResult} {grouped : Bool} (refused : accepted ≠ .ok) :
      ConnectingStep core info accepted grouped
        ((core.record (.adapter (.acceptConnection info.hConn))).record
          (.adapter (.closeConnection info.hConn 0)))
  | ungrouped {socketInfo : SocketInfo}
      (found : core.socketClientsMap.lookup info.listenSocket = some socketInfo) :
      ConnectingStep core info .ok false
        (((core.record (.adapter (.acceptConnection info.hConn))).record
          (.adapter (.setConnectionPollGroup info.hConn socketInfo.pollGroup))).record
          (.adapter (.closeConnection info.hConn 0)))
  | entered {socketInfo : SocketInfo}
      (found : core.socketClientsMap.lookup info.listenSocket = some socketInfo) :
      ConnectingStep core info .ok true
        (((core.record (.adapter (.acceptConnection info.hConn))).record
          (.adapter (.setConnectionPollGroup info.hConn socketInfo.pollGroup)))
          |>.updateConnections info.listenSocket fun connections =>
            connections ++ [{ connection := info.hConn }])

theorem connectingStep_of_connecting (connects : core.connecting info accepted grouped = .ok next) :
    ConnectingStep core info accepted grouped next := by
  unfold connecting at connects
  dsimp only at connects
  split at connects
  next refused =>
    obtain rfl := Except.ok.inj connects
    exact .refused refused
  next isOk =>
    obtain rfl := not_not.mp isOk
    split at connects
    · cases connects
    next socketInfo found =>
      cases grouped with
      | false =>
          obtain rfl := Except.ok.inj connects
          exact .ungrouped found
      | true =>
          obtain rfl := Except.ok.inj connects
          exact .entered found

/-- The connection leaves the table of its socket. -/
theorem disconnected_eq_ok :
    core.disconnected info = .ok next ↔
      (info.oldState = .connected ∨ info.oldState = .connecting) ∧ ∃ socketInfo,
        core.socketClientsMap.lookup info.listenSocket = some socketInfo ∧
        socketInfo.allConnections.any (isConnection info.hConn) = true ∧
        next = (core.updateConnections info.listenSocket fun connections =>
          connections.eraseP (isConnection info.hConn)).record
            (.adapter (.closeConnection info.hConn 0)) := by
  unfold disconnected
  constructor
  · intro disconnects
    split at disconnects
    · cases disconnects
    next expected =>
      split at disconnects
      · cases disconnects
      next socketInfo found =>
        split at disconnects
        next present =>
          exact ⟨by simpa [or_iff_not_imp_left] using expected, socketInfo, found, present,
            (Except.ok.inj disconnects).symm⟩
        · cases disconnects
  · rintro ⟨oldState, socketInfo, found, present, rfl⟩
    rw [if_neg (by rcases oldState with old | old <;> simp [old]), found]
    exact if_pos present

/-- A status change of no interest does nothing. -/
theorem callbackManager_cases (changes : core.callbackManager info accepted grouped = .ok next) :
    next = core ∨
      info.state = .connecting ∧ core.connecting info accepted grouped = .ok next ∨
      (info.state = .problemDetectedLocally ∨ info.state = .closedByPeer) ∧
        core.disconnected info = .ok next := by
  unfold callbackManager at changes
  split at changes
  · exact Or.inl (Except.ok.inj changes).symm
  next state => exact Or.inr (Or.inl ⟨state, changes⟩)
  · exact Or.inl (Except.ok.inj changes).symm
  next state => exact Or.inr (Or.inr ⟨Or.inl state, changes⟩)
  next state => exact Or.inr (Or.inr ⟨Or.inr state, changes⟩)
  · exact Or.inl (Except.ok.inj changes).symm

end Inversion

end NetworkManagerCore

end HttpServer
