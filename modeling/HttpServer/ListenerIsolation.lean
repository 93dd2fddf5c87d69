import HttpServer.LiveConnections
import HttpServer.ManagerRepresentation
import HttpServer.Library.Footprint
import Mathlib.Data.Set.Insert

/-!
# Listeners do not interfere

All listeners share the two maps of the manager core, and the socket is the only
link from an event to its listener.  Every operation on a listener, and every
event for its socket, has a footprint of two cells: the listener's entry and the
table of its socket.  Since no two listeners have a socket in common, what is
done to one of them is not seen by another.
-/

namespace HttpServer

open UnorderedMap NetworkManagerCore Footprint

/-- An entry of `m_Listeners` or one of `m_SocketClientsMap`. -/
inductive CoreCell where
  | listener (listener : HListener)
  | socket (socket : HSteamListenSocket)

def CoreCell.Value (Listener : Type) : CoreCell → Type
  | listener _ => Option (ListenerInfo Listener)
  | socket _ => Option SocketInfo

namespace NetworkManagerCore

variable {Listener : Type} {cells : Set CoreCell} {listener : HListener}
  {socket : HSteamListenSocket}

/-- What the core holds in a cell. -/
def look (core : NetworkManagerCore Listener) : (cell : CoreCell) → cell.Value Listener
  | .listener listener => core.listeners.lookup listener
  | .socket socket => core.socketClientsMap.lookup socket

/-- An update that is given by what it does to each entry of both maps. -/
theorem pointwise_of_lookups
    {update : NetworkManagerCore Listener → NetworkManagerCore Listener}
    (onListener : HListener → Option (ListenerInfo Listener) → Option (ListenerInfo Listener))
    (onSocket : HSteamListenSocket → Option SocketInfo → Option SocketInfo)
    (listeners : ∀ core key,
      (update core).listeners.lookup key = onListener key (core.listeners.lookup key))
    (sockets : ∀ core key,
      (update core).socketClientsMap.lookup key =
        onSocket key (core.socketClientsMap.lookup key))
    (otherListeners : ∀ key, CoreCell.listener key ∉ cells → ∀ value,
      onListener key value = value)
    (otherSockets : ∀ key, CoreCell.socket key ∉ cells → ∀ value,
      onSocket key value = value) :
    Pointwise look update cells := by
  refine ⟨⟨fun cell => match cell with
    | .listener key => onListener key
    | .socket key => onSocket key, ?_, ?_⟩⟩
  · intro core cell
    cases cell with
    | listener key => exact listeners core key
    | socket key => exact sockets core key
  · intro cell outside value
    cases cell with
    | listener key => exact otherListeners key outside value
    | socket key => exact otherSockets key outside value

theorem pointwise_record (call : CoreCall) :
    Pointwise look (fun core : NetworkManagerCore Listener => core.record call) cells :=
  pointwise_of_lookups (fun _ value => value) (fun _ value => value) (fun _ _ => rfl)
    (fun _ _ => rfl) (fun _ _ _ => rfl) (fun _ _ _ => rfl)

theorem pointwise_updateListener (member : CoreCell.listener listener ∈ cells)
    (update : ListenerInfo Listener → ListenerInfo Listener) :
    Pointwise look (fun core => core.updateListener listener update) cells := by
  refine pointwise_of_lookups
    (fun key value => if key = listener then value.map update else value)
    (fun _ value => value) ?_ (fun _ _ => rfl) ?_ (fun _ _ _ => rfl)
  · intro core key
    rw [updateListener, lookup_modify]
    split
    next same => rw [same]
    next => rfl
  · intro key outside value
    rw [if_neg]
    rintro rfl
    exact outside member

theorem pointwise_updateConnections (member : CoreCell.socket socket ∈ cells)
    (update : List Connections → List Connections) :
    Pointwise look
      (fun core : NetworkManagerCore Listener => core.updateConnections socket update)
      cells := by
  refine pointwise_of_lookups (fun _ value => value)
    (fun key value => if key = socket then value.map fun info =>
      { info with allConnections := update info.allConnections } else value)
    (fun _ _ => rfl) ?_ (fun _ _ _ => rfl) ?_
  · intro core key
    rw [updateConnections, lookup_modify]
    split
    next same => rw [same]
    next => rfl
  · intro key outside value
    rw [if_neg]
    rintro rfl
    exact outside member

theorem pointwise_adoptSocket {handlers : SocketHandlers}
    (memberListener : CoreCell.listener listener ∈ cells)
    (memberSocket : CoreCell.socket handlers.socket ∈ cells) :
    Pointwise look
      (fun core : NetworkManagerCore Listener => core.adoptSocket listener handlers)
      cells := by
  refine pointwise_of_lookups
    (fun key value => if key = listener then value.map fun info =>
      { info with socket := handlers.socket } else value)
    (fun key value => if key = handlers.socket then
      value.or (some { pollGroup := handlers.pollGroup }) else value) ?_ ?_ ?_ ?_
  · intro core key
    rw [adoptSocket, updateListener, lookup_modify]
    split
    next same => rw [same]
    next => rfl
  · intro core key
    rw [adoptSocket, lookup_emplace]
    by_cases same : key = handlers.socket
    · subst key
      cases found : core.socketClientsMap.lookup handlers.socket with
      | none => simp [AList.lookup_eq_none.mp found]
      | some info => simp [mem_iff_lookup.mpr ⟨info, found⟩]
    · simp [same]
  · intro key outside value
    rw [if_neg]
    rintro rfl
    exact outside memberListener
  · intro key outside value
    rw [if_neg]
    rintro rfl
    exact outside memberSocket

theorem pointwise_dropSocket {socketInfo : SocketInfo}
    (memberListener : CoreCell.listener listener ∈ cells)
    (memberSocket : CoreCell.socket socket ∈ cells) :
    Pointwise look
      (fun core : NetworkManagerCore Listener => core.dropSocket listener socket socketInfo)
      cells := by
  refine pointwise_of_lookups
    (fun key value => if key = listener then value.map fun info =>
      { info with socket := hSteamListenSocketInvalid } else value)
    (fun key value => if key = socket then none else value) ?_ ?_ ?_ ?_
  · intro core key
    rw [dropSocket, updateListener, lookup_modify]
    split
    next same => rw [same]
    next => rfl
  · intro core key
    rw [dropSocket, lookup_erase_eq_ite]
  · intro key outside value
    rw [if_neg]
    rintro rfl
    exact outside memberListener
  · intro key outside value
    rw [if_neg]
    rintro rfl
    exact outside memberSocket

theorem pointwise_eraseListener (member : CoreCell.listener listener ∈ cells) :
    Pointwise look (fun core : NetworkManagerCore Listener =>
      { core with listeners := core.listeners.erase listener }) cells := by
  refine pointwise_of_lookups (fun key value => if key = listener then none else value)
    (fun _ value => value) ?_ (fun _ _ => rfl) ?_ (fun _ _ _ => rfl)
  · intro core key
    rw [lookup_erase_eq_ite]
  · intro key outside value
    rw [if_neg]
    rintro rfl
    exact outside member

end NetworkManagerCore

namespace CoreOperation

variable {Listener : Type}

/-- The listener an operation is addressed to, or whose object changes. -/
def owner? : CoreOperation Listener → Option HListener
  | listenerChanges listener _ => some listener
  | operation => operation.target?

/-- The socket that a notification or a status event names. -/
def named? : CoreOperation Listener → Option HSteamListenSocket
  | connectionServed socket _ => some socket
  | callbackManager info _ _ => some info.listenSocket
  | _ => none

/-- The operation is addressed to the listener or names its socket. -/
def IsFor (core : NetworkManagerCore Listener) (listener : HListener)
    (operation : CoreOperation Listener) : Prop :=
  operation.owner? = some listener ∨ ∃ socket, operation.named? = some socket ∧
    socket ≠ hSteamListenSocketInvalid ∧ core.socketOf listener = some socket

/-- The socket whose table the operation reads or writes, if there is one. -/
def table? (core : NetworkManagerCore Listener) :
    CoreOperation Listener → Option HSteamListenSocket
  | stopListening listener | destroyListener listener
  | pushOutgoingMessageQueue listener _ =>
      (core.socketOf listener).filter fun socket => socket ≠ hSteamListenSocketInvalid
  | connectionServed socket _ => some socket
  | callbackManager info _ _ => some info.listenSocket
  | operation => operation.opens core

/-- The entry of the listener, and the table of its socket. -/
def footprint (core : NetworkManagerCore Listener) (listener : HListener)
    (operation : CoreOperation Listener) : Set CoreCell :=
  {cell | cell = .listener listener ∨
    ∃ socket, operation.table? core = some socket ∧ cell = .socket socket}

end CoreOperation

namespace NetworkManagerCore

variable {Listener : Type} {core : NetworkManagerCore Listener} {cells : Set CoreCell}
  {listener : HListener} {socket : HSteamListenSocket}

theorem isValidListenerHandler_of_agreeOn {other : NetworkManagerCore Listener}
    (agree : AgreeOn look cells core other) (member : CoreCell.listener listener ∈ cells) :
    other.isValidListenerHandler listener = core.isValidListenerHandler listener := by
  have same : core.listeners.lookup listener = other.listeners.lookup listener :=
    agree (.listener listener) member
  rw [isValidListenerHandler, isValidListenerHandler, same]

theorem lookup_of_agreeOn {other : NetworkManagerCore Listener}
    (agree : AgreeOn look cells core other) (member : CoreCell.socket socket ∈ cells) :
    other.socketClientsMap.lookup socket = core.socketClientsMap.lookup socket :=
  (agree (.socket socket) member).symm

section Operations

variable (member : CoreCell.listener listener ∈ cells)
include member

theorem startListening_local [IListener Listener] {port : UInt16}
    {initSocket : Result SocketHandlers} {started : Result Unit}
    (table : ∀ socket, CoreOperation.opens core
      (.startListening listener port initSocket started) = some socket →
        CoreCell.socket socket ∈ cells) :
    LocalAt look
      (CoreOperation.startListening listener port initSocket started).perform cells core := by
  cases valid : core.isValidListenerHandler listener with
  | error err =>
      refine .of_pointwise (.done (.error err)) (fun core => core) .id fun other agree => ?_
      simp only [CoreOperation.perform, startListening,
        isValidListenerHandler_of_agreeOn agree member, valid]
  | ok info =>
      by_cases idle : info.socket = hSteamListenSocketInvalid
      · cases initSocket with
        | error err =>
            refine .of_pointwise (.done (.error err))
              (fun core => core.record (.initSocket listener port))
              (pointwise_record _) fun other agree => ?_
            simp [CoreOperation.perform, startListening,
              isValidListenerHandler_of_agreeOn agree member, valid, idle]
        | ok handlers =>
            have opened := table handlers.socket (by
              simp [CoreOperation.opens, isValidListenerHandler_eq_ok.mp valid, idle])
            have adopts : Pointwise look (fun core : NetworkManagerCore Listener =>
                ((core.record (.initSocket listener port)).adoptSocket listener
                  handlers).record (.startListening listener)) cells :=
              (pointwise_record _).comp ((pointwise_adoptSocket member opened).comp
                (pointwise_record _))
            refine .of_pointwise (.done (started.mapError fun err =>
              makeError err.errorCode err.message)) _ adopts fun other agree => ?_
            cases started <;>
              simp [CoreOperation.perform, startListening,
                isValidListenerHandler_of_agreeOn agree member, valid, idle, Except.mapError]
      · refine .of_pointwise (.done (.error (makeError .eInvalidCall
          "Already Listening on this Scoket -> Socket/Pollgroup Valid")))
          (fun core => core) .id fun other agree => ?_
        simp [CoreOperation.perform, startListening,
          isValidListenerHandler_of_agreeOn agree member, valid, idle]

theorem stopListening_local
    (table : ∀ socket, (core.socketOf listener).filter
      (fun socket => socket ≠ hSteamListenSocketInvalid) = some socket →
        CoreCell.socket socket ∈ cells) :
    LocalAt look (fun core => core.stopListening listener) cells core := by
  cases valid : core.isValidListenerHandler listener with
  | error err =>
      refine .of_pointwise (.error err) (fun core => core) .id fun other agree => ?_
      simp only [stopListening, isValidListenerHandler_of_agreeOn agree member, valid]
  | ok info =>
      by_cases idle : info.socket = hSteamListenSocketInvalid
      · refine .of_pointwise (.error (makeError .eInvalidCall
          "Not currently Listening (Double Call?)")) (fun core => core) .id
          fun other agree => ?_
        simp [stopListening, isValidListenerHandler_of_agreeOn agree member, valid, idle]
      · have bound := table info.socket (by
          simp [socketOf, isValidListenerHandler_eq_ok.mp valid, idle])
        cases found : core.socketClientsMap.lookup info.socket with
        | none =>
            have fails : core.stopListening listener = .error .stopListeningSocketMissing := by
              simp [stopListening, valid, idle, found]
            exact .of_error fails
        | some socketInfo =>
            refine .of_pointwise (.ok ()) (fun core =>
              (core.dropSocket listener info.socket socketInfo).record
                (.stopListening listener))
              ((pointwise_record _).comp (pointwise_dropSocket member bound))
              fun other agree => ?_
            simp [stopListening, isValidListenerHandler_of_agreeOn agree member, valid, idle,
              lookup_of_agreeOn agree bound, found]

theorem destroyListener_local
    (table : ∀ socket, (core.socketOf listener).filter
      (fun socket => socket ≠ hSteamListenSocketInvalid) = some socket →
        CoreCell.socket socket ∈ cells) :
    LocalAt look (fun core => core.destroyListener listener) cells core := by
  cases valid : core.isValidListenerHandler listener with
  | error err =>
      refine .of_pointwise (.error err) (fun core => core) .id fun other agree => ?_
      simp only [destroyListener, isValidListenerHandler_of_agreeOn agree member, valid]
  | ok info =>
      have stops := (stopListening_local member table).followed
        (fun _ => (.ok () : Result Unit))
        ((pointwise_eraseListener member).comp (pointwise_record (.destroy listener)))
      refine stops.congr fun other agree => ?_
      simp only [destroyListener, isValidListenerHandler_of_agreeOn agree member, valid]
      cases other.stopListening listener <;> rfl

variable [IListener Listener]

theorem pushOutgoingMessageQueue_local {message : Request}
    (table : ∀ socket, (core.socketOf listener).filter
      (fun socket => socket ≠ hSteamListenSocketInvalid) = some socket →
        CoreCell.socket socket ∈ cells) :
    LocalAt look (fun core => core.pushOutgoingMessageQueue listener message) cells core := by
  cases valid : core.isValidListenerHandler listener with
  | error err =>
      refine .of_pointwise (.error (makeError err.errorCode err.message)) (fun core => core)
        .id fun other agree => ?_
      simp only [pushOutgoingMessageQueue, isValidListenerHandler_of_agreeOn agree member, valid]
  | ok info =>
      by_cases idle : info.socket = hSteamListenSocketInvalid
      · refine .of_pointwise (.error (makeError .eInvalidCall
          "Tryed pushing Outgoing message without listening")) (fun core => core) .id
          fun other agree => ?_
        simp [pushOutgoingMessageQueue, isValidListenerHandler_of_agreeOn agree member, valid,
          idle]
      · have bound := table info.socket
          (by simp [socketOf, isValidListenerHandler_eq_ok.mp valid, idle])
        cases found : core.socketClientsMap.lookup info.socket with
        | none =>
            have fails : core.pushOutgoingMessageQueue listener message =
                .error .pushOutgoingSocketMissing := by
              simp [pushOutgoingMessageQueue, valid, idle, found]
            exact .of_error fails
        | some socketInfo =>
            by_cases entered :
                socketInfo.allConnections.any (isConnection message.connection) = true
            · refine .of_pointwise (.ok ()) _
                ((pointwise_record (.getOutgoingQueue listener)).comp
                  (pointwise_updateListener member fun info =>
                    { info with listener := IListener.pushOutgoing info.listener message }))
                fun other agree => ?_
              simp only [pushOutgoingMessageQueue,
                isValidListenerHandler_of_agreeOn agree member, valid, if_neg idle,
                lookup_of_agreeOn agree bound, found, if_pos entered]
            · refine .of_pointwise (.error (makeError .eInvalidConnection
                "No connection on this listener with te gicen connection"))
                (fun core => core) .id fun other agree => ?_
              simp only [pushOutgoingMessageQueue,
                isValidListenerHandler_of_agreeOn agree member, valid, if_neg idle,
                lookup_of_agreeOn agree bound, found, if_neg entered]

theorem tryPopReceivedMessageQueue_local :
    LocalAt look (CoreOperation.tryPopReceivedMessageQueue listener).perform cells core := by
  cases valid : core.isValidListenerHandler listener with
  | error err =>
      refine .of_pointwise (.message (.error (makeError err.errorCode err.message)))
        (fun core => core) .id fun other agree => ?_
      simp only [CoreOperation.perform, tryPopReceivedMessageQueue,
        isValidListenerHandler_of_agreeOn agree member, valid]
  | ok info =>
      refine .of_pointwise (.message (.ok (IListener.tryPopReceived info.listener).1)) _
        ((pointwise_record (.getReceivedQueue listener)).comp
          (pointwise_updateListener member fun entry =>
            { entry with listener := (IListener.tryPopReceived info.listener).2 }))
        fun other agree => ?_
      simp only [CoreOperation.perform, tryPopReceivedMessageQueue,
        isValidListenerHandler_of_agreeOn agree member, valid]

theorem tryPopErrorQueue_local :
    LocalAt look (CoreOperation.tryPopErrorQueue listener).perform cells core := by
  cases valid : core.isValidListenerHandler listener with
  | error err =>
      refine .of_pointwise (.error (.error (makeError err.errorCode err.message)))
        (fun core => core) .id fun other agree => ?_
      simp only [CoreOperation.perform, tryPopErrorQueue,
        isValidListenerHandler_of_agreeOn agree member, valid]
  | ok info =>
      refine .of_pointwise (.error (.ok (IListener.tryPopError info.listener).1)) _
        ((pointwise_record (.getErrorQueue listener)).comp
          (pointwise_updateListener member fun entry =>
            { entry with listener := (IListener.tryPopError info.listener).2 }))
        fun other agree => ?_
      simp only [CoreOperation.perform, tryPopErrorQueue,
        isValidListenerHandler_of_agreeOn agree member, valid]

end Operations

section Events

variable (member : CoreCell.socket socket ∈ cells)
include member

theorem connectionServed_local {connection : HSteamNetConnection} :
    LocalAt look (fun core : NetworkManagerCore Listener =>
      (core.connectionServed socket connection).map fun next => (Outcome.nothing, next))
      cells core := by
  cases found : core.socketClientsMap.lookup socket with
  | none =>
      have fails : (core.connectionServed socket connection).map
          (fun next => (Outcome.nothing, next)) = .error .connectionServedSocketMissing := by
        simp [connectionServed, found, Except.map]
      exact .of_error fails
  | some socketInfo =>
      by_cases entered : socketInfo.allConnections.any (isConnection connection) = true
      · refine .of_pointwise .nothing _ (pointwise_updateConnections member fun connections =>
          connections.replaceF fun entry =>
            if isConnection connection entry then some { entry with isServed := true }
            else none) fun other agree => ?_
        simp only [connectionServed, lookup_of_agreeOn agree member, found, if_pos entered]
        rfl
      · have fails : (core.connectionServed socket connection).map
            (fun next => (Outcome.nothing, next)) =
            .error .connectionServedConnectionMissing := by
          simp only [connectionServed, found, if_neg entered]
          rfl
        exact .of_error fails

theorem disconnected_local {info : SteamNetConnectionStatusChangedCallback}
    (named : info.listenSocket = socket) :
    LocalAt look (fun core : NetworkManagerCore Listener =>
      (core.disconnected info).map fun next => (Outcome.nothing, next)) cells core := by
  subst named
  cases disconnects : core.disconnected info with
  | error fault =>
      have fails : (core.disconnected info).map (fun next => (Outcome.nothing, next)) =
          .error fault := by
        rw [disconnects]
        rfl
      exact .of_error fails
  | ok next =>
      obtain ⟨oldState, socketInfo, found, present, _⟩ := disconnected_eq_ok.mp disconnects
      have expected : ¬ (info.oldState ≠ .connected ∧ info.oldState ≠ .connecting) := by
        rcases oldState with old | old <;> simp [old]
      refine .of_pointwise .nothing _ ((pointwise_record
        (.adapter (.closeConnection info.hConn 0))).comp
        (pointwise_updateConnections member fun connections =>
          connections.eraseP (isConnection info.hConn))) fun other agree => ?_
      simp only [disconnected, if_neg expected, lookup_of_agreeOn agree member, found,
        if_pos present]
      rfl

theorem connecting_local {info : SteamNetConnectionStatusChangedCallback}
    (named : info.listenSocket = socket) {accepted : EResult} {grouped : Bool} :
    LocalAt look (fun core : NetworkManagerCore Listener =>
      (core.connecting info accepted grouped).map fun next => (Outcome.nothing, next))
      cells core := by
  subst named
  have refuses (first second : CoreCall) : Pointwise look
      (fun core : NetworkManagerCore Listener => (core.record first).record second) cells :=
    (pointwise_record second).comp (pointwise_record first)
  by_cases wasAccepted : accepted = .ok
  · cases found : core.socketClientsMap.lookup info.listenSocket with
    | none =>
        have fails : (core.connecting info accepted grouped).map
            (fun next => (Outcome.nothing, next)) = .error .connectingSocketMissing := by
          rw [wasAccepted, connecting_eq_error (AList.lookup_eq_none.mp found)]
          rfl
        exact .of_error fails
    | some socketInfo =>
        have foundIn (other : NetworkManagerCore Listener)
            (agree : AgreeOn look cells core other) :
            (other.record (.adapter (.acceptConnection info.hConn))
              ).socketClientsMap.lookup info.listenSocket = some socketInfo :=
          (lookup_of_agreeOn agree member).trans found
        cases grouped with
        | false =>
            refine .of_pointwise .nothing _ ((pointwise_record
              (.adapter (.closeConnection info.hConn 0))).comp
              (refuses (.adapter (.acceptConnection info.hConn))
                (.adapter (.setConnectionPollGroup info.hConn socketInfo.pollGroup))))
              fun other agree => ?_
            simp [connecting, wasAccepted, foundIn other agree, Except.map]
        | true =>
            refine .of_pointwise .nothing _ ((pointwise_updateConnections member
              fun connections => connections ++ [{ connection := info.hConn }]).comp
              (refuses (.adapter (.acceptConnection info.hConn))
                (.adapter (.setConnectionPollGroup info.hConn socketInfo.pollGroup))))
              fun other agree => ?_
            simp [connecting, wasAccepted, foundIn other agree, Except.map]
  · refine .of_pointwise .nothing _ (refuses (.adapter (.acceptConnection info.hConn))
      (.adapter (.closeConnection info.hConn 0))) fun other agree => ?_
    simp [connecting, wasAccepted, Except.map]

theorem callbackManager_local {info : SteamNetConnectionStatusChangedCallback}
    (named : info.listenSocket = socket) {accepted : EResult} {grouped : Bool} :
    LocalAt look (fun core : NetworkManagerCore Listener =>
      (core.callbackManager info accepted grouped).map fun next => (Outcome.nothing, next))
      cells core := by
  unfold callbackManager
  cases info.state with
  | connecting => exact connecting_local member named
  | closedByPeer | problemDetectedLocally => exact disconnected_local member named
  | none | findingRoute | connected | finWait | linger | dead | other =>
      exact .of_pointwise .nothing (fun core => core) .id fun other agree => rfl

end Events

end NetworkManagerCore

namespace CoreOperation

variable {Listener : Type} [IListener Listener] {core : NetworkManagerCore Listener}
  {listener : HListener} {operation : CoreOperation Listener}

omit [IListener Listener] in
theorem owner_of_isFor {owner : HListener} (isFor : operation.IsFor core listener)
    (owned : operation.owner? = some owner) : owner = listener := by
  rcases isFor with forListener | ⟨socket, named, _⟩
  · exact Option.some.inj (owned.symm.trans forListener)
  · cases operation <;> simp [owner?, target?, named?] at owned named

/-- Every operation for a listener reads and writes its footprint only. -/
theorem perform_local (isFor : operation.IsFor core listener) :
    LocalAt look operation.perform (operation.footprint core listener) core := by
  have member : CoreCell.listener listener ∈ operation.footprint core listener := Or.inl rfl
  have table (socket : HSteamListenSocket) (reads : operation.table? core = some socket) :
      CoreCell.socket socket ∈ operation.footprint core listener :=
    Or.inr ⟨socket, reads, rfl⟩
  cases operation with
  | createListener name => rcases isFor with owner | ⟨_, named, _⟩ <;> contradiction
  | destroyListener other =>
      obtain rfl := owner_of_isFor isFor rfl
      exact (destroyListener_local member table).followed Outcome.done .id
  | startListening other port initSocket started =>
      obtain rfl := owner_of_isFor isFor rfl
      exact startListening_local member table
  | stopListening other =>
      obtain rfl := owner_of_isFor isFor rfl
      exact (stopListening_local member table).followed Outcome.done .id
  | tryPopReceivedMessageQueue other =>
      obtain rfl := owner_of_isFor isFor rfl
      exact tryPopReceivedMessageQueue_local member
  | pushOutgoingMessageQueue other message =>
      obtain rfl := owner_of_isFor isFor rfl
      exact (pushOutgoingMessageQueue_local member table).followed Outcome.done .id
  | tryPopErrorQueue other =>
      obtain rfl := owner_of_isFor isFor rfl
      exact tryPopErrorQueue_local member
  | connectionServed socket connection => exact connectionServed_local (table socket rfl)
  | callbackManager info accepted grouped =>
      exact callbackManager_local (table info.listenSocket rfl) rfl
  | listenerChanges other object =>
      obtain rfl := owner_of_isFor isFor rfl
      exact .of_pointwise .nothing _ (pointwise_updateListener member fun info =>
        { info with listener := object }) fun _ _ => rfl

end CoreOperation

/-- The listener object that a call is made on. -/
def CoreCall.listener? : CoreCall → Option HListener
  | adapter _ => none
  | initSocket listener _ | startListening listener | stopListening listener
  | destroy listener | getReceivedQueue listener | getOutgoingQueue listener
  | getErrorQueue listener => some listener

/-- The calls made from one core to the next are on no listener object but this
one. -/
def CallsOnly {Listener : Type} (listener : HListener)
    (core next : NetworkManagerCore Listener) : Prop :=
  ∃ calls, next.calls = core.calls ++ calls ∧
    ∀ call ∈ calls, call.listener? = none ∨ call.listener? = some listener

namespace CallsOnly

variable {Listener : Type} {core middle next : NetworkManagerCore Listener}
  {listener : HListener}

theorem of_eq (same : next.calls = core.calls) : CallsOnly listener core next :=
  ⟨[], by simp [same], by simp⟩

theorem updateListener {update : ListenerInfo Listener → ListenerInfo Listener}
    {other : HListener} : CallsOnly listener core (core.updateListener other update) :=
  of_eq rfl

theorem record {call : CoreCall} (calls : CallsOnly listener core next)
    (only : call.listener? = none ∨ call.listener? = some listener) :
    CallsOnly listener core (next.record call) := by
  obtain ⟨made, extends', others⟩ := calls
  refine ⟨made ++ [call], by simp [NetworkManagerCore.record, extends'], ?_⟩
  intro other member
  rcases List.mem_append.mp member with before | last
  · exact others other before
  · rwa [List.mem_singleton.mp last]

theorem startListening {port : UInt16} {initSocket : Result SocketHandlers}
    {started result : Result Unit}
    (starts : core.startListening listener port initSocket started = (result, next)) :
    CallsOnly listener core next := by
  have begun : CallsOnly listener core (core.record (.initSocket listener port)) :=
    (of_eq rfl).record (Or.inr rfl)
  cases startingStep_of_startListening starts with
  | refused => exact of_eq rfl
  | failed => exact begun
  | @adopted _ handlers =>
      have adopted : CallsOnly listener core
          ((core.record (.initSocket listener port)).adoptSocket listener handlers) := begun
      exact adopted.record (Or.inr rfl)

theorem stopListening {result : Result Unit}
    (stops : core.stopListening listener = .ok (result, next)) :
    CallsOnly listener core next := by
  rcases stopListening_cases stops with ⟨_, rfl, _⟩ | ⟨info, socketInfo, _, _, _, _, rfl⟩
  · exact of_eq rfl
  · have dropped : CallsOnly listener core
        (core.dropSocket listener info.socket socketInfo) := by
      refine ⟨_, rfl, ?_⟩
      intro call member
      obtain ⟨connection, _, rfl⟩ := List.mem_map.mp member
      exact Or.inl rfl
    exact dropped.record (Or.inr rfl)

theorem destroyListener {result : Result Unit}
    (destroys : core.destroyListener listener = .ok (result, next)) :
    CallsOnly listener core next := by
  rcases destroyListener_cases destroys with ⟨_, rfl, _⟩ | ⟨_, _, stops, _, rfl⟩
  · exact of_eq rfl
  · exact (stopListening stops).record (Or.inr rfl)

theorem connecting {info : SteamNetConnectionStatusChangedCallback} {accepted : EResult}
    {grouped : Bool} (connects : core.connecting info accepted grouped = .ok next) :
    CallsOnly listener core next := by
  have begun : CallsOnly listener core
      (core.record (.adapter (.acceptConnection info.hConn))) :=
    (of_eq rfl).record (Or.inl rfl)
  cases connectingStep_of_connecting connects with
  | refused | entered => exact begun.record (Or.inl rfl)
  | ungrouped => exact (begun.record (Or.inl rfl)).record (Or.inl rfl)

theorem disconnected {info : SteamNetConnectionStatusChangedCallback}
    (disconnects : core.disconnected info = .ok next) : CallsOnly listener core next := by
  obtain ⟨_, _, _, _, rfl⟩ := disconnected_eq_ok.mp disconnects
  exact ⟨_, rfl, by simp [CoreCall.listener?]⟩

theorem callbackManager {info : SteamNetConnectionStatusChangedCallback}
    {accepted : EResult} {grouped : Bool}
    (handles : core.callbackManager info accepted grouped = .ok next) :
    CallsOnly listener core next := by
  rcases callbackManager_cases handles with rfl | ⟨_, connects⟩ | ⟨_, disconnects⟩
  · exact of_eq rfl
  · exact connecting connects
  · exact disconnected disconnects

variable [IListener Listener]

/-- An operation for a listener calls the methods of no other listener. -/
theorem perform {operation : CoreOperation Listener} {outcome : Outcome}
    (isFor : operation.IsFor core listener)
    (performs : operation.perform core = .ok (outcome, next)) :
    CallsOnly listener core next := by
  cases operationStep_of_perform performs with
  | createListener => rcases isFor with owner | ⟨_, named, _⟩ <;> contradiction
  | destroyListener destroys =>
      obtain rfl := CoreOperation.owner_of_isFor isFor rfl
      exact destroyListener destroys
  | startListening starts =>
      obtain rfl := CoreOperation.owner_of_isFor isFor rfl
      exact startListening starts
  | stopListening stops =>
      obtain rfl := CoreOperation.owner_of_isFor isFor rfl
      exact stopListening stops
  | tryPopReceivedMessageQueue pops =>
      obtain rfl := CoreOperation.owner_of_isFor isFor rfl
      rcases next_of_tryPopReceived pops with rfl | ⟨_, rfl⟩
      · exact of_eq rfl
      · exact updateListener.record (Or.inr rfl)
  | pushOutgoingMessageQueue pushes =>
      obtain rfl := CoreOperation.owner_of_isFor isFor rfl
      rcases next_of_pushOutgoing pushes with rfl | rfl
      · exact of_eq rfl
      · exact updateListener.record (Or.inr rfl)
  | tryPopErrorQueue pops =>
      obtain rfl := CoreOperation.owner_of_isFor isFor rfl
      rcases next_of_tryPopError pops with rfl | ⟨_, rfl⟩
      · exact of_eq rfl
      · exact updateListener.record (Or.inr rfl)
  | connectionServed serves =>
      obtain ⟨_, _, _, rfl⟩ := connectionServed_eq_ok.mp serves
      exact of_eq rfl
  | callbackManager changes => exact callbackManager changes
  | listenerChanges => exact of_eq rfl

end CallsOnly

/-- Every socket that a listener has stored has a table, and no two listeners have
the same one. -/
structure SocketsApart {Listener : Type} (core : NetworkManagerCore Listener) : Prop where
  present : ∀ listener socket, core.socketOf listener = some socket →
    socket ≠ hSteamListenSocketInvalid → socket ∈ core.socketClientsMap
  unique : ∀ first second socket, core.socketOf first = some socket →
    core.socketOf second = some socket → socket ≠ hSteamListenSocketInvalid →
    first = second

/-- Steam's part of the contract: a socket for which a table is opened is not a key
of the map yet. -/
def OpensNew {Listener : Type} (core : NetworkManagerCore Listener)
    (operation : CoreOperation Listener) : Prop :=
  ∀ socket ∈ operation.opens core, socket ∉ core.socketClientsMap

def SteamOpensNew {Listener : Type} :
    Except Fault (NetworkManagerCore Listener) → CoreOperation Listener → Prop
  | .ok core, operation => OpensNew core operation
  | .error _, _ => True

instance {Listener : Type} : ∀ (state : Except Fault (NetworkManagerCore Listener))
    (operation : CoreOperation Listener), Decidable (SteamOpensNew state operation)
  | .ok core, operation => Option.decidableForallMem (operation.opens core)
  | .error _, _ => inferInstanceAs (Decidable True)

section Entries

variable {Listener : Type} {core next : NetworkManagerCore Listener}
  {listener : HListener} {socket : HSteamListenSocket}
  {operation : CoreOperation Listener} {outcome : Outcome}

theorem mem_callbackManager {info : SteamNetConnectionStatusChangedCallback}
    {accepted : EResult} {grouped : Bool}
    (handles : core.callbackManager info accepted grouped = .ok next) :
    socket ∈ next.socketClientsMap ↔ socket ∈ core.socketClientsMap := by
  rcases callbackManager_cases handles with rfl | ⟨_, connects⟩ | ⟨_, disconnects⟩
  · exact Iff.rfl
  · cases connectingStep_of_connecting connects with
    | refused | ungrouped => exact Iff.rfl
    | entered => exact mem_updateConnections
  · obtain ⟨_, _, _, _, rfl⟩ := disconnected_eq_ok.mp disconnects
    exact mem_updateConnections

/-- The listener whose table an operation closes is the one it is addressed to. -/
theorem owner_of_closes (closes : operation.closes core = some socket) :
    ∃ owner, operation.owner? = some owner ∧ core.socketOf owner = some socket ∧
      socket ≠ hSteamListenSocketInvalid := by
  cases operation with
  | stopListening owner | destroyListener owner =>
      unfold CoreOperation.closes at closes
      dsimp only at closes
      split at closes
      · cases closes
      next info found =>
        split at closes
        · cases closes
        next bound =>
          obtain rfl := Option.some.inj closes
          exact ⟨owner, rfl, by simp [socketOf, found], bound⟩
  | _ => cases closes

variable [IListener Listener]

/-- The entries of the other listeners stay as they are. -/
theorem lookup_perform (notOwner : operation.owner? ≠ some listener)
    (notCreate : operation.isCreate = false)
    (performs : operation.perform core = .ok (outcome, next)) :
    next.listeners.lookup listener = core.listeners.lookup listener := by
  have ofEvent {socket : HSteamListenSocket}
      (isLocal : LocalAt look operation.perform {CoreCell.socket socket} core) :
      next.listeners.lookup listener = core.listeners.lookup listener :=
    (isLocal.frame performs (.listener listener) (by simp)).symm
  cases owned : operation.owner? with
  | some owner =>
      have different : listener ≠ owner := by
        rintro rfl
        exact notOwner owned
      have framed := (CoreOperation.perform_local (Or.inl owned)).frame performs
      exact (framed (.listener listener) (by simp [CoreOperation.footprint, different])).symm
  | none =>
      cases operation with
      | createListener => cases notCreate
      | connectionServed socket connection =>
        exact ofEvent (connectionServed_local (Set.mem_singleton _))
      | callbackManager info accepted grouped =>
          exact ofEvent (callbackManager_local (Set.mem_singleton _) rfl)
      | _ => cases owned

theorem socketOf_owner (owner : operation.owner? = some listener)
    (performs : operation.perform core = .ok (outcome, next)) :
    (next.socketOf listener = core.socketOf listener ∧ operation.closes core = none) ∨
      (∃ socket, operation.opens core = some socket ∧
        next.socketOf listener = some socket) ∨
      ∀ socket, next.socketOf listener = some socket →
        socket = hSteamListenSocketInvalid := by
  cases operationStep_of_perform performs with
  | createListener | connectionServed | callbackManager => cases owner
  | @startListening other port initSocket _ _ _ starts =>
      obtain rfl := Option.some.inj owner
      cases startingStep_of_startListening starts with
      | refused | failed => exact Or.inl ⟨rfl, rfl⟩
      | @adopted info handlers _ found idle =>
          refine Or.inr (Or.inl ⟨handlers.socket, ?_, ?_⟩)
          · simp [CoreOperation.opens, found, idle]
          · rw [socketOf_record, socketOf_adoptSocket, if_pos rfl, socketOf_record]
            simp [socketOf, found]
  | @stopListening other result next stops =>
      obtain rfl := Option.some.inj owner
      rcases stopListening_cases stops with
        ⟨_, rfl, idle⟩ | ⟨info, socketInfo, _, _, _, _, rfl⟩
      · refine Or.inl ⟨rfl, ?_⟩
        cases found : next.listeners.lookup other with
        | none => simp [CoreOperation.closes, found]
        | some info => simp [CoreOperation.closes, found, idle info found]
      · refine Or.inr (Or.inr fun socket stored => ?_)
        rw [socketOf_record, socketOf_dropSocket, if_pos rfl] at stored
        obtain ⟨_, _, rfl⟩ := Option.map_eq_some_iff.mp stored
        rfl
  | destroyListener destroys =>
      obtain rfl := Option.some.inj owner
      refine Or.inr (Or.inr fun socket stored => ?_)
      rcases destroyListener_cases destroys with ⟨_, rfl, unknown⟩ | ⟨_, _, _, _, rfl⟩
      · simp [socketOf, unknown] at stored
      · simp [socketOf] at stored
  | tryPopReceivedMessageQueue pops =>
      refine Or.inl ⟨?_, rfl⟩
      rcases next_of_tryPopReceived pops with rfl | ⟨_, rfl⟩
      · rfl
      · exact socketOf_updateListener fun _ => rfl
  | tryPopErrorQueue pops =>
      refine Or.inl ⟨?_, rfl⟩
      rcases next_of_tryPopError pops with rfl | ⟨_, rfl⟩
      · rfl
      · exact socketOf_updateListener fun _ => rfl
  | pushOutgoingMessageQueue pushes =>
      refine Or.inl ⟨?_, rfl⟩
      rcases next_of_pushOutgoing pushes with rfl | rfl
      · rfl
      · exact socketOf_updateListener fun _ => rfl
  | listenerChanges => exact Or.inl ⟨socketOf_updateListener fun _ => rfl, rfl⟩

/-- Where a socket that is stored after an operation comes from: it was stored
before and its table has not been closed, or the operation has opened it. -/
theorem stored_perform (unique : ∀ first second socket,
      core.socketOf first = some socket → core.socketOf second = some socket →
      socket ≠ hSteamListenSocketInvalid → first = second)
    (performs : operation.perform core = .ok (outcome, next))
    (stored : next.socketOf listener = some socket)
    (valid : socket ≠ hSteamListenSocketInvalid) :
    (core.socketOf listener = some socket ∧ operation.closes core ≠ some socket) ∨
      (operation.opens core = some socket ∧ operation.owner? = some listener) := by
  cases notCreate : operation.isCreate with
  | true =>
      cases operationStep_of_perform performs with
      | @createListener name _ _ creates =>
          refine Or.inl ⟨?_, nofun⟩
          obtain ⟨_, _, rfl⟩ := createListener_eq_ok.mp creates
          rw [socketOf, lookup_emplace] at stored
          split at stored
          · cases name <;> exact absurd (Option.some.inj stored).symm valid
          · exact stored
      | _ => cases notCreate
  | false =>
      by_cases owner : operation.owner? = some listener
      · rcases socketOf_owner owner performs with ⟨same, kept⟩ | ⟨opened, opens, storedNow⟩ | none
        · exact Or.inl ⟨same ▸ stored, by simp [kept]⟩
        · obtain rfl := Option.some.inj (storedNow.symm.trans stored)
          exact Or.inr ⟨opens, owner⟩
        · exact absurd (none socket stored) valid
      · have same := lookup_perform owner notCreate performs
        have before : core.socketOf listener = some socket := by
          rwa [socketOf, same] at stored
        refine Or.inl ⟨before, fun closes => owner ?_⟩
        obtain ⟨closer, owned, closed, _⟩ := owner_of_closes closes
        rw [unique listener closer socket before closed valid]
        exact owned

namespace SocketsApart

omit [IListener Listener] in
theorem initial : SocketsApart ({} : NetworkManagerCore Listener) := by
  constructor <;> simp [socketOf]

theorem mem_perform (performs : operation.perform core = .ok (outcome, next)) :
    socket ∈ next.socketClientsMap ↔ operation.closes core ≠ some socket ∧
      (operation.opens core = some socket ∨ socket ∈ core.socketClientsMap) := by
  cases notCallback : operation.isCallback with
  | false => exact mem_socketClientsMap_perform notCallback performs
  | true =>
      cases operationStep_of_perform performs with
      | callbackManager changes =>
          rw [mem_callbackManager changes]
          simp [CoreOperation.closes, CoreOperation.opens]
      | _ => cases notCallback

theorem step (apart : SocketsApart core) (fresh : OpensNew core operation)
    (performs : operation.perform core = .ok (outcome, next)) : SocketsApart next where
  present listener socket stored valid := by
    rw [mem_perform performs]
    rcases stored_perform apart.unique performs stored valid with ⟨before, kept⟩ | ⟨opens, _⟩
    · exact ⟨kept, Or.inr (apart.present listener socket before valid)⟩
    · refine ⟨fun closes => ?_, Or.inl opens⟩
      cases operation <;> simp [CoreOperation.opens, CoreOperation.closes] at opens closes
  unique first second socket storedFirst storedSecond valid := by
    have notBoth {listener : HListener} (opens : operation.opens core = some socket)
        (before : core.socketOf listener = some socket) : False :=
      fresh socket opens (apart.present listener socket before valid)
    rcases stored_perform apart.unique performs storedFirst valid with
      ⟨beforeFirst, _⟩ | ⟨opensFirst, ownerFirst⟩
    · rcases stored_perform apart.unique performs storedSecond valid with
        ⟨beforeSecond, _⟩ | ⟨opensSecond, _⟩
      · exact apart.unique first second socket beforeFirst beforeSecond valid
      · exact (notBoth opensSecond beforeFirst).elim
    · rcases stored_perform apart.unique performs storedSecond valid with
        ⟨beforeSecond, _⟩ | ⟨_, ownerSecond⟩
      · exact (notBoth opensFirst beforeSecond).elim
      · exact Option.some.inj (ownerFirst.symm.trans ownerSecond)

end SocketsApart

end Entries

/-- In every run in which `initSocket` returns fresh sockets, no two listeners have
a socket in common. -/
theorem socketsApart_of_steps {Listener : Type} [IListener Listener]
    {operations : List (CoreOperation Listener)} {core : NetworkManagerCore Listener}
    (steps : (coreSystem Listener).StepsWhere SteamOpensNew (.ok {}) operations (.ok core)) :
    SocketsApart core := by
  refine steps.kept (fun state => ∀ core, state = .ok core → SocketsApart core) ?_ ?_ core rfl
  · rintro _ ⟨⟩
    exact SocketsApart.initial
  · intro state operation last apart fresh moves next ends
    rw [ends] at moves
    obtain ⟨core, outcome, rfl, performs⟩ := performs_of_step moves
    exact (apart core rfl).step fresh performs

section Isolation

variable {Listener : Type} {core next last : NetworkManagerCore Listener}
  {first second : HListener} {socket : HSteamListenSocket}
  {operation further : CoreOperation Listener} {outcome result : Outcome}

/-- The table that an operation for a listener uses is the one of its socket, or
the one it opens. -/
theorem table_of_isFor (isFor : operation.IsFor core first)
    (table : operation.table? core = some socket) :
    (core.socketOf first = some socket ∧ socket ≠ hSteamListenSocketInvalid) ∨
      operation.opens core = some socket := by
  cases operation with
  | stopListening owner | destroyListener owner | pushOutgoingMessageQueue owner message =>
      obtain rfl := CoreOperation.owner_of_isFor isFor rfl
      simpa [CoreOperation.table?, Option.filter_eq_some_iff] using Or.inl table
  | connectionServed | callbackManager =>
      rcases isFor with owner | ⟨named, names, valid, stored⟩
      · cases owner
      · obtain rfl : named = socket := Option.some.inj (names.symm.trans table)
        exact Or.inl ⟨stored, valid⟩
  | _ => exact Or.inr table

/-- The entry of the listener, its queues with it, and the table of its socket are
as they were. -/
def Untouched (listener : HListener) (core next : NetworkManagerCore Listener) : Prop :=
  next.listeners.lookup listener = core.listeners.lookup listener ∧
    ∀ socket, core.socketOf listener = some socket → socket ≠ hSteamListenSocketInvalid →
      next.socketClientsMap.lookup socket = core.socketClientsMap.lookup socket

/-- The two maps hold the same entries. -/
def SameMaps (core next : NetworkManagerCore Listener) : Prop :=
  (∀ listener, next.listeners.lookup listener = core.listeners.lookup listener) ∧
    ∀ socket, next.socketClientsMap.lookup socket = core.socketClientsMap.lookup socket

variable [IListener Listener]

namespace SocketsApart

omit [IListener Listener] in
/-- The table of another listener's socket is not the one that the operation
uses. -/
theorem table_of_other (apart : SocketsApart core) (different : first ≠ second)
    (isFor : operation.IsFor core first) (fresh : OpensNew core operation)
    (stored : core.socketOf second = some socket)
    (valid : socket ≠ hSteamListenSocketInvalid) : operation.table? core ≠ some socket := by
  intro table
  rcases table_of_isFor isFor table with ⟨storedFirst, _⟩ | opens
  · exact different (apart.unique first second socket storedFirst stored valid)
  · exact fresh socket opens (apart.present second socket stored valid)

/-- An operation for one listener leaves the entry and the table of another
alone. -/
theorem untouched (apart : SocketsApart core) (different : first ≠ second)
    (isFor : operation.IsFor core first) (fresh : OpensNew core operation)
    (performs : operation.perform core = .ok (outcome, next)) : Untouched second core next := by
  have framed := (CoreOperation.perform_local isFor).frame performs
  refine ⟨(framed (.listener second) ?_).symm, fun socket stored valid =>
    (framed (.socket socket) ?_).symm⟩
  · simp [CoreOperation.footprint, different.symm]
  · simpa [CoreOperation.footprint] using
      apart.table_of_other different isFor fresh stored valid

end SocketsApart

omit [IListener Listener] in
/-- What an operation is for is decided by the entry of the listener. -/
theorem isFor_congr (same : next.listeners.lookup second = core.listeners.lookup second)
    (isFor : further.IsFor core second) : further.IsFor next second := by
  rcases isFor with owner | ⟨socket, named, valid, stored⟩
  · exact Or.inl owner
  · exact Or.inr ⟨socket, named, valid, by rwa [socketOf, same]⟩

omit [IListener Listener] in
theorem opens_congr (isFor : further.IsFor core second)
    (same : next.listeners.lookup second = core.listeners.lookup second) :
    further.opens next = further.opens core := by
  cases further with
  | startListening owner port initSocket started =>
      obtain rfl := CoreOperation.owner_of_isFor isFor rfl
      cases initSocket with
      | error err => rfl
      | ok handlers => simp only [CoreOperation.opens, same]
  | _ => rfl

/-- Operations for two listeners use different cells, the second in the state that
the first one leaves. -/
theorem disjoint_footprints (apart : SocketsApart core) (different : first ≠ second)
    (isFor : operation.IsFor core first) (furtherFor : further.IsFor core second)
    (fresh : OpensNew core operation) (freshNext : OpensNew next further)
    (freshFurther : OpensNew core further)
    (performs : operation.perform core = .ok (outcome, next)) :
    Disjoint (operation.footprint core first) (further.footprint next second) := by
  have same := (apart.untouched different isFor fresh performs).1
  have furtherForNext := isFor_congr same furtherFor
  rw [Set.disjoint_left]
  rintro cell (rfl | ⟨socket, table, rfl⟩) (atListener | ⟨other, tableNext, atSocket⟩)
  · exact different (CoreCell.listener.inj atListener)
  · cases atSocket
  · cases atListener
  · obtain rfl := CoreCell.socket.inj atSocket
    rcases table_of_isFor furtherForNext tableNext with ⟨stored, valid⟩ | opens
    · rw [socketOf, same] at stored
      exact apart.table_of_other different isFor fresh stored valid table
    · rcases table_of_isFor isFor table with ⟨stored, valid⟩ | opensFirst
      · refine freshFurther socket ?_ (apart.present first socket stored valid)
        rwa [← opens_congr furtherFor same]
      · refine freshNext socket opens ((SocketsApart.mem_perform performs).mpr
          ⟨fun closes => ?_, Or.inl opensFirst⟩)
        cases operation <;> simp [CoreOperation.opens, CoreOperation.closes] at opensFirst closes

/-- Operations for two listeners commute, where the sockets that they open are new in
either order. -/
theorem commute_of_isFor (apart : SocketsApart core) (different : first ≠ second)
    (isFor : operation.IsFor core first) (furtherFor : further.IsFor core second)
    (fresh : OpensNew core operation) (freshNext : OpensNew next further)
    (freshFurther : OpensNew core further)
    (performs : operation.perform core = .ok (outcome, next))
    (performsFurther : further.perform next = .ok (result, last)) :
    ∃ middle final, further.perform core = .ok (result, middle) ∧
      operation.perform middle = .ok (outcome, final) ∧ SameMaps last final := by
  have same := (apart.untouched different isFor fresh performs).1
  obtain ⟨middle, final, performsFirst, performsSecond, alike⟩ :=
    (CoreOperation.perform_local isFor).commute
      (CoreOperation.perform_local (isFor_congr same furtherFor))
      (disjoint_footprints apart different isFor furtherFor fresh freshNext freshFurther
        performs) performs performsFurther
  exact ⟨middle, final, performsFirst, performsSecond,
    fun listener => alike (.listener listener), fun socket => alike (.socket socket)⟩

end Isolation

section Origin

variable {Listener : Type} [IListener Listener] {core next : NetworkManagerCore Listener}
  {listener : HListener} {socket : HSteamListenSocket}
  {connection : HSteamNetConnection} {operations : List (CoreOperation Listener)}

/-- A message is queued only when its connection is in the table of the
listener's socket. -/
theorem inTable_of_pushed {message : Request}
    (pushed : core.pushOutgoingMessageQueue listener message = .ok (.ok (), next)) :
    ∃ socket, core.socketOf listener = some socket ∧ socket ≠ hSteamListenSocketInvalid ∧
      core.InTable socket message.connection := by
  unfold pushOutgoingMessageQueue at pushed
  cases valid : core.isValidListenerHandler listener with
  | error err => simp [valid] at pushed
  | ok info =>
      rw [valid] at pushed
      dsimp only at pushed
      split at pushed
      · simp at pushed
      next listening =>
        split at pushed
        · cases pushed
        next socketInfo found =>
          split at pushed
          next entered =>
            refine ⟨info.socket, ?_, listening, ?_⟩
            · simp [socketOf, isValidListenerHandler_eq_ok.mp valid]
            · exact ⟨socketInfo.allConnections.map Connections.connection,
                by simp [tableOf, found], any_isConnection.mp entered⟩
          · simp at pushed

/-- The step of a run that has entered a connection into the table of the socket
that the listener has, then and now. -/
def AcceptedFor (operations : List (CoreOperation Listener)) (listener : HListener)
    (socket : HSteamListenSocket) (connection : HSteamNetConnection) : Prop :=
  ∃ before operation after core, operations = before ++ operation :: after ∧
    (coreSystem Listener).StepsWhere SteamOpensNew (.ok {}) before (.ok core) ∧
    operation.accepts socket = some connection ∧ core.socketOf listener = some socket

theorem acceptedFor_of_inTable
    (steps : (coreSystem Listener).StepsWhere SteamOpensNew (.ok {}) operations (.ok core))
    (once : ReportedOnce operations) (stored : core.socketOf listener = some socket)
    (valid : socket ≠ hSteamListenSocketInvalid) (inTable : core.InTable socket connection) :
    AcceptedFor operations listener socket connection := by
  refine steps.invariant (fun operations state => ReportedOnce operations →
    ∀ core, state = .ok core → core.socketOf listener = some socket →
      core.InTable socket connection → AcceptedFor operations listener socket connection)
    ?_ ?_ once core rfl stored inTable
  · rintro _ _ ⟨⟩ stored
    simp [socketOf] at stored
  · intro before state operation last run ih fresh moves once next ends stored inTable
    rw [ends] at moves
    obtain ⟨core, outcome, rfl, performs⟩ := performs_of_step moves
    have accounted := (steps_accounted (run.mono fun _ _ _ => trivial) once.of_concat).1
    have apart := socketsApart_of_steps run
    have entered := ((inTable_step accounted.toApart performs).mp inTable).2
    have present : socket ∈ core.socketClientsMap := by
      rcases entered with ⟨already, _⟩ | ⟨present, _⟩
      · exact already.mem_socketClientsMap
      · exact present
    have storedBefore : core.socketOf listener = some socket := by
      rcases stored_perform apart.unique performs stored valid with ⟨kept, _⟩ | ⟨opens, _⟩
      · exact kept
      · exact absurd present (fresh socket opens)
    rcases entered with ⟨already, _⟩ | ⟨_, accepts⟩
    · obtain ⟨earlier, accepting, later, then', rfl, reaches, accepts, bound⟩ :=
        ih once.of_concat core rfl storedBefore already
      exact ⟨earlier, accepting, later ++ [operation], then', by simp, reaches, accepts, bound⟩
    · exact ⟨before, operation, [], core, rfl, run, accepts, storedBefore⟩

end Origin

/-- In every run in which `initSocket` returns new sockets, what is done for one
listener leaves the entry, the queues and the table of another as they are and calls
none of its methods.  What is done for two listeners commutes.  Where the connections
have handles of their own, a message is queued only on the listener on whose socket
its connection was accepted. -/
theorem listeners_do_not_interfere (Listener : Type) [IListener Listener]
    (operations : List (CoreOperation Listener)) (core : NetworkManagerCore Listener)
    (steps : (coreSystem Listener).StepsWhere SteamOpensNew (.ok {}) operations (.ok core)) :
    (∀ first second operation outcome next, first ≠ second →
        operation.IsFor core first → OpensNew core operation →
        operation.perform core = .ok (outcome, next) →
        Untouched second core next ∧ CallsOnly first core next) ∧
      (∀ first second operation further outcome result next last, first ≠ second →
        operation.IsFor core first → further.IsFor core second →
        OpensNew core operation → OpensNew next further → OpensNew core further →
        operation.perform core = .ok (outcome, next) →
        further.perform next = .ok (result, last) →
        ∃ middle final, further.perform core = .ok (result, middle) ∧
          operation.perform middle = .ok (outcome, final) ∧ SameMaps last final) ∧
      (ReportedOnce operations → ∀ listener message next,
        core.pushOutgoingMessageQueue listener message = .ok (.ok (), next) →
        ∃ socket, AcceptedFor operations listener socket message.connection ∧
          core.socketOf listener = some socket ∧
          ∀ other, core.socketOf other = some socket → other = listener) := by
  have apart := socketsApart_of_steps steps
  refine ⟨?_, ?_, ?_⟩
  · intro first second operation outcome next different isFor fresh performs
    exact ⟨apart.untouched different isFor fresh performs, .perform isFor performs⟩
  · intro first second operation further outcome result next last different isFor
      furtherFor fresh freshNext freshFurther performs performsFurther
    exact commute_of_isFor apart different isFor furtherFor fresh freshNext freshFurther
      performs performsFurther
  · intro once listener message next pushed
    obtain ⟨socket, stored, valid, inTable⟩ := inTable_of_pushed pushed
    refine ⟨socket, acceptedFor_of_inTable steps once stored valid inTable, stored, ?_⟩
    exact fun other storedOther => apart.unique other listener socket storedOther stored valid

/-- Two listeners are started, and a connection arrives on the socket of the first. -/
def twoListeners : List (CoreOperation ListenerQueues) :=
  [.createListener none, .createListener none,
    .startListening 1 80 (.ok ⟨5, 6⟩) (.ok ()),
    .startListening 2 81 (.ok ⟨7, 8⟩) (.ok ()),
    .callbackManager ⟨9, 5, .connecting, .none⟩ .ok true]

theorem listeners_do_not_interfere_twoListeners :
    ∃ core stopped : NetworkManagerCore ListenerQueues,
      (coreSystem ListenerQueues).StepsWhere SteamOpensNew (.ok {}) twoListeners (.ok core) ∧
      (CoreOperation.stopListening 2).perform core = .ok (.done (.ok ()), stopped) ∧
      Untouched 1 core stopped ∧ AcceptedFor twoListeners 1 5 9 := by
  have steps : (coreSystem ListenerQueues).StepsWhere SteamOpensNew (.ok {}) twoListeners
      (.ok _) := TransitionSystem.runWhere_eq_some_iff.mp rfl
  obtain ⟨frame, _, origin⟩ := listeners_do_not_interfere ListenerQueues twoListeners _ steps
  have once : ReportedOnce twoListeners := by
    intro connection
    by_cases arrived : (9 : HSteamNetConnection) = connection
    · subst connection
      decide
    · simp [twoListeners, CoreOperation.reports, arrived]
  obtain ⟨socket, accepted, stored, _⟩ := origin once 1 ⟨9, []⟩ _ rfl
  obtain rfl : 5 = socket := Option.some.inj stored
  exact ⟨_, _, steps, rfl, (frame 2 1 (.stopListening 2) _ _ (by decide) (Or.inl rfl)
    (by simp [OpensNew, CoreOperation.opens]) rfl).1, accepted⟩

end HttpServer
