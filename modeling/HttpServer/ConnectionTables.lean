import HttpServer.ManagerRuns

/-!
# What the operations do to the connection tables

The manager holds a table of connections for every socket it regards as open.
Seen from outside, the tables are a partial function from sockets to lists of
connections.  Starting a listener opens an empty table, stopping or destroying
one closes its table, a successful `Connecting` callback enters a connection and
`Disconnected` takes it out.  There is one equation for each.
-/

namespace HttpServer

open UnorderedMap

namespace NetworkManagerCore

variable {Listener : Type} {core next : NetworkManagerCore Listener}
  {listener : HListener} {socket other : HSteamListenSocket}
  {connection : HSteamNetConnection}

/-- The connections in the table of a socket, if the socket has one. -/
def tableOf (core : NetworkManagerCore Listener) (socket : HSteamListenSocket) :
    Option (List HSteamNetConnection) :=
  (core.socketClientsMap.lookup socket).map fun info =>
    info.allConnections.map Connections.connection

/-- The socket has a table, and the connection is in it. -/
def InTable (core : NetworkManagerCore Listener) (socket : HSteamListenSocket)
    (connection : HSteamNetConnection) : Prop :=
  ∃ table, core.tableOf socket = some table ∧ connection ∈ table

theorem mem_socketClientsMap_iff :
    socket ∈ core.socketClientsMap ↔ ∃ table, core.tableOf socket = some table := by
  rw [mem_iff_lookup]
  simp [tableOf]

theorem tableOf_eq_none : core.tableOf socket = none ↔ socket ∉ core.socketClientsMap := by
  simp [tableOf, AList.lookup_eq_none]

theorem mem_socketClientsMap_congr
    (same : (next.tableOf socket).isSome = (core.tableOf socket).isSome) :
    socket ∈ next.socketClientsMap ↔ socket ∈ core.socketClientsMap := by
  rw [mem_socketClientsMap_iff, mem_socketClientsMap_iff, ← Option.isSome_iff_exists,
    ← Option.isSome_iff_exists, same]

theorem inTable_iff_of_eq_some {table : List HSteamNetConnection}
    (found : core.tableOf socket = some table) :
    core.InTable socket connection ↔ connection ∈ table := by
  simp [InTable, found]

theorem InTable.mem_socketClientsMap (inTable : core.InTable socket connection) :
    socket ∈ core.socketClientsMap := by
  obtain ⟨table, found, _⟩ := inTable
  exact mem_socketClientsMap_iff.mpr ⟨table, found⟩

theorem any_isConnection {connections : List Connections} :
    connections.any (isConnection connection) = true ↔
      connection ∈ connections.map Connections.connection := by
  simp [isConnection]

theorem map_connection_eraseP (connections : List Connections) :
    (connections.eraseP (isConnection connection)).map Connections.connection =
      (connections.map Connections.connection).erase connection := by
  induction connections with
  | nil => rfl
  | cons entry connections ih =>
      by_cases same : entry.connection = connection
      · simp [isConnection, same]
      · simp [isConnection, same, ih]

/-- Marking a connection as served leaves the table's connections alone. -/
theorem map_connection_replaceF (connections : List Connections) :
    (connections.replaceF fun entry =>
        if isConnection connection entry then some { entry with isServed := true }
        else none).map Connections.connection =
      connections.map Connections.connection := by
  induction connections with
  | nil => rfl
  | cons entry connections ih =>
      by_cases same : isConnection connection entry = true
      · simp [List.replaceF, same]
      · simp [List.replaceF, same, ih]

@[simp]
theorem tableOf_record (call : CoreCall) :
    (core.record call).tableOf socket = core.tableOf socket := rfl

@[simp]
theorem tableOf_updateListener
    (update : ListenerInfo Listener → ListenerInfo Listener) :
    (core.updateListener listener update).tableOf socket = core.tableOf socket := rfl

theorem tableOf_adoptSocket {handlers : SocketHandlers} :
    (core.adoptSocket listener handlers).tableOf socket =
      if socket = handlers.socket ∧ handlers.socket ∉ core.socketClientsMap then some []
      else core.tableOf socket := by
  simp only [tableOf, adoptSocket, lookup_emplace]
  split
  · rfl
  · rfl

theorem tableOf_dropSocket {socketInfo : SocketInfo} :
    (core.dropSocket listener other socketInfo).tableOf socket =
      if socket = other then none else core.tableOf socket := by
  simp only [tableOf, dropSocket, lookup_erase_eq_ite]
  split
  · rfl
  · rfl

theorem tableOf_updateConnections {update : List Connections → List Connections}
    (changed : List HSteamNetConnection → List HSteamNetConnection)
    (changes : ∀ connections, (update connections).map Connections.connection =
      changed (connections.map Connections.connection)) :
    (core.updateConnections other update).tableOf socket =
      if socket = other then (core.tableOf other).map changed
      else core.tableOf socket := by
  simp only [tableOf, updateConnections, lookup_modify]
  split
  next same =>
      subst other
      simp [Option.map_map, Function.comp_def, changes]
  next => rfl

end NetworkManagerCore

namespace CoreOperation

variable {Listener : Type}

def isCallback : CoreOperation Listener → Bool
  | callbackManager _ _ _ => true
  | _ => false

/-- The socket whose table the operation closes: the one of the listener that
it stops or destroys. -/
def closes (core : NetworkManagerCore Listener) :
    CoreOperation Listener → Option HSteamListenSocket
  | stopListening listener | destroyListener listener =>
      match core.listeners.lookup listener with
      | none => none
      | some info =>
          if info.socket = hSteamListenSocketInvalid then none else some info.socket
  | _ => none

/-- The socket for which the operation opens a table: the one that an idle
listener obtains when it is started. -/
def opens (core : NetworkManagerCore Listener) :
    CoreOperation Listener → Option HSteamListenSocket
  | startListening listener _ (.ok handlers) _ =>
      match core.listeners.lookup listener with
      | none => none
      | some info =>
          if info.socket = hSteamListenSocketInvalid then some handlers.socket else none
  | _ => none

end CoreOperation

namespace NetworkManagerCore

variable {Listener : Type} {core next : NetworkManagerCore Listener}
  {socket : HSteamListenSocket} {connection : HSteamNetConnection}

theorem tableOf_startListening {listener : HListener} {port : UInt16}
    {initSocket : Result SocketHandlers} {started result : Result Unit}
    (starts : core.startListening listener port initSocket started = (result, next)) :
    next.tableOf socket =
      if CoreOperation.opens core (.startListening listener port initSocket started) =
          some socket ∧ socket ∉ core.socketClientsMap then some []
      else core.tableOf socket := by
  cases startingStep_of_startListening starts with
  | refused busy =>
      have opensNone : CoreOperation.opens core
          (.startListening listener port initSocket started) = none := by
        cases initSocket with
        | error err => rfl
        | ok handlers =>
            cases found : core.listeners.lookup listener with
            | none => simp [CoreOperation.opens, found]
            | some info => simp [CoreOperation.opens, found, busy info found]
      simp [opensNone]
  | failed => simp [CoreOperation.opens]
  | @adopted info handlers _ found idle =>
      rw [tableOf_record, tableOf_adoptSocket]
      simp only [CoreOperation.opens, found, idle, if_true, Option.some.injEq]
      by_cases same : socket = handlers.socket
      · subst same
        simp [record, tableOf]
      · simp [same, Ne.symm same]

theorem tableOf_stopListening {listener : HListener} {result : Result Unit}
    (stops : core.stopListening listener = .ok (result, next)) :
    next.tableOf socket =
      if CoreOperation.closes core (.stopListening listener) = some socket then none
      else core.tableOf socket := by
  rcases stopListening_cases stops with
    ⟨_, rfl, idle⟩ | ⟨info, socketInfo, found, bound, _, _, rfl⟩
  · cases found : next.listeners.lookup listener with
    | none => simp [CoreOperation.closes, found]
    | some info => simp [CoreOperation.closes, found, idle info found]
  · simp only [CoreOperation.closes, found, if_neg bound, tableOf_record, tableOf_dropSocket,
      Option.some.injEq, eq_comm]

theorem tableOf_destroyListener {listener : HListener} {result : Result Unit}
    (destroys : core.destroyListener listener = .ok (result, next)) :
    next.tableOf socket =
      if CoreOperation.closes core (.destroyListener listener) = some socket then none
      else core.tableOf socket := by
  rcases destroyListener_cases destroys with ⟨_, rfl, unknown⟩ | ⟨_, stopped, stops, _, rfl⟩
  · simp [CoreOperation.closes, unknown]
  · have dropped : stopped.tableOf socket = _ := tableOf_stopListening stops
    exact dropped

theorem tableOf_connectionServed {served : HSteamListenSocket}
    (serves : core.connectionServed served connection = .ok next) :
    next.tableOf socket = core.tableOf socket := by
  obtain ⟨_, _, _, rfl⟩ := connectionServed_eq_ok.mp serves
  rw [tableOf_updateConnections id]
  · split
    next same => simp [same]
    next => rfl
  · exact map_connection_replaceF

variable [IListener Listener]

theorem tableOf_createListener {name : Option CString} {handler : HListener}
    (creates : core.createListener name = .ok (handler, next)) :
    next.tableOf socket = core.tableOf socket := by
  obtain ⟨_, _, rfl⟩ := createListener_eq_ok.mp creates
  rfl

@[simp]
theorem tableOf_tryPopReceivedMessageQueue {listener : HListener} :
    (core.tryPopReceivedMessageQueue listener).2.tableOf socket = core.tableOf socket := by
  unfold tryPopReceivedMessageQueue
  split
  · rfl
  · rfl

@[simp]
theorem tableOf_tryPopErrorQueue {listener : HListener} :
    (core.tryPopErrorQueue listener).2.tableOf socket = core.tableOf socket := by
  unfold tryPopErrorQueue
  split
  · rfl
  · rfl

theorem tableOf_pushOutgoingMessageQueue {listener : HListener} {message : Request}
    {result : Result Unit}
    (pushes : core.pushOutgoingMessageQueue listener message = .ok (result, next)) :
    next.tableOf socket = core.tableOf socket := by
  rcases next_of_pushOutgoing pushes with rfl | rfl
  · rfl
  · rfl

/-- Every operation but the status callback closes at most one table, opens at
most one, and leaves all others as they are. -/
theorem tableOf_perform {operation : CoreOperation Listener} {outcome : Outcome}
    (notCallback : operation.isCallback = false)
    (performs : operation.perform core = .ok (outcome, next)) :
    next.tableOf socket =
      if operation.closes core = some socket then none
      else if operation.opens core = some socket ∧ socket ∉ core.socketClientsMap then
        some []
      else core.tableOf socket := by
  cases operationStep_of_perform performs with
  | createListener creates =>
      rw [tableOf_createListener creates]
      simp [CoreOperation.closes, CoreOperation.opens]
  | destroyListener destroys =>
      rw [tableOf_destroyListener destroys]
      simp [CoreOperation.opens]
  | startListening starts =>
      rw [tableOf_startListening starts]
      simp [CoreOperation.closes]
  | stopListening stops =>
      rw [tableOf_stopListening stops]
      simp [CoreOperation.opens]
  | tryPopReceivedMessageQueue pops =>
      obtain rfl := congrArg Prod.snd pops
      rw [tableOf_tryPopReceivedMessageQueue]
      simp [CoreOperation.closes, CoreOperation.opens]
  | pushOutgoingMessageQueue pushes =>
      rw [tableOf_pushOutgoingMessageQueue pushes]
      simp [CoreOperation.closes, CoreOperation.opens]
  | tryPopErrorQueue pops =>
      obtain rfl := congrArg Prod.snd pops
      rw [tableOf_tryPopErrorQueue]
      simp [CoreOperation.closes, CoreOperation.opens]
  | connectionServed serves =>
      rw [tableOf_connectionServed serves]
      simp [CoreOperation.closes, CoreOperation.opens]
  | callbackManager => cases notCallback
  | listenerChanges => simp [CoreOperation.closes, CoreOperation.opens]

theorem inTable_perform {operation : CoreOperation Listener} {outcome : Outcome}
    (notCallback : operation.isCallback = false)
    (performs : operation.perform core = .ok (outcome, next)) :
    next.InTable socket connection ↔
      operation.closes core ≠ some socket ∧ core.InTable socket connection := by
  rw [InTable, tableOf_perform notCallback performs]
  split
  next closed => simp [closed]
  next kept =>
    split
    next opened => simp [InTable, tableOf_eq_none.mpr opened.2]
    next => simp [InTable, kept]

theorem mem_socketClientsMap_perform {operation : CoreOperation Listener}
    {outcome : Outcome} (notCallback : operation.isCallback = false)
    (performs : operation.perform core = .ok (outcome, next)) :
    socket ∈ next.socketClientsMap ↔ operation.closes core ≠ some socket ∧
      (operation.opens core = some socket ∨ socket ∈ core.socketClientsMap) := by
  rw [mem_socketClientsMap_iff, tableOf_perform notCallback performs]
  split
  next closed => simp [closed]
  next kept =>
    split
    next opened => simp [kept, opened.1]
    next unopened =>
      rw [← mem_socketClientsMap_iff]
      by_cases present : socket ∈ core.socketClientsMap
      · simp [kept, present]
      · have notOpened : operation.opens core ≠ some socket :=
          fun opened => unopened ⟨opened, present⟩
        simp [present, notOpened]

omit [IListener Listener]

/-- A refused connection leaves all tables alone; an accepted one needs the
table of its socket, and is entered there when it also joins the poll group. -/
theorem tableOf_connecting (info : SteamNetConnectionStatusChangedCallback)
    (accepted : EResult) (grouped : Bool)
    (present : accepted = .ok → info.listenSocket ∈ core.socketClientsMap) :
    ∃ next, core.connecting info accepted grouped = .ok next ∧
      ∀ socket, next.tableOf socket =
        if accepted = .ok ∧ grouped = true ∧ socket = info.listenSocket then
          (core.tableOf socket).map (· ++ [info.hConn])
        else core.tableOf socket := by
  unfold connecting
  by_cases wasAccepted : accepted = .ok
  · obtain ⟨socketInfo, found⟩ := mem_iff_lookup.mp (present wasAccepted)
    have foundLater : (core.record (.adapter (.acceptConnection info.hConn))
        ).socketClientsMap.lookup info.listenSocket = some socketInfo := found
    cases grouped with
    | false =>
        refine ⟨_, by simp [wasAccepted, foundLater]; rfl, ?_⟩
        intro socket
        simp
    | true =>
        refine ⟨_, by simp [wasAccepted, foundLater]; rfl, ?_⟩
        intro socket
        rw [tableOf_updateConnections (· ++ [info.hConn]) (by simp)]
        by_cases same : socket = info.listenSocket
        · simp [wasAccepted, same]
        · simp [same]
  · refine ⟨_, by simp [wasAccepted]; rfl, ?_⟩
    intro socket
    simp [wasAccepted]

theorem connecting_eq_error {info : SteamNetConnectionStatusChangedCallback}
    (absent : info.listenSocket ∉ core.socketClientsMap) (grouped : Bool) :
    core.connecting info .ok grouped = .error .connectingSocketMissing := by
  have notFound : (core.record (.adapter (.acceptConnection info.hConn))
      ).socketClientsMap.lookup info.listenSocket = none := AList.lookup_eq_none.mpr absent
  simp [connecting, notFound]

/-- The connection is taken out of the table of its socket. -/
theorem tableOf_disconnected {info : SteamNetConnectionStatusChangedCallback}
    (oldState : info.oldState = .connected ∨ info.oldState = .connecting)
    (inTable : core.InTable info.listenSocket info.hConn) :
    ∃ next, core.disconnected info = .ok next ∧
      ∀ socket, next.tableOf socket =
        if socket = info.listenSocket then
          (core.tableOf socket).map (·.erase info.hConn)
        else core.tableOf socket := by
  have expected : ¬ (info.oldState ≠ .connected ∧ info.oldState ≠ .connecting) := by
    rcases oldState with connected | connecting <;> simp [*]
  obtain ⟨table, tabled, member⟩ := inTable
  obtain ⟨socketInfo, found, rfl⟩ := Option.map_eq_some_iff.mp tabled
  unfold disconnected
  refine ⟨_, by
    rw [if_neg expected, found]
    dsimp only
    rw [if_pos (any_isConnection.mpr member)], ?_⟩
  intro socket
  rw [tableOf_record,
    tableOf_updateConnections (·.erase info.hConn) map_connection_eraseP]
  by_cases same : socket = info.listenSocket
  · simp [same]
  · simp [same]

theorem disconnected_eq_error {info : SteamNetConnectionStatusChangedCallback}
    (absent : ¬ core.InTable info.listenSocket info.hConn) :
    ∃ fault, core.disconnected info = .error fault ∧
      (fault = .disconnectedOldState ∨ fault = .disconnectedSocketMissing ∨
        fault = .disconnectedConnectionMissing) := by
  unfold disconnected
  split
  · exact ⟨_, rfl, by simp⟩
  split
  · exact ⟨_, rfl, by simp⟩
  next socketInfo found =>
    split
    next entered =>
        exact absurd ⟨_, Option.map_eq_some_iff.mpr ⟨socketInfo, found, rfl⟩,
          any_isConnection.mp entered⟩ absent
    next => exact ⟨_, rfl, by simp⟩

/-- An accepted connection goes into the table of its socket. -/
theorem present_of_connecting {info : SteamNetConnectionStatusChangedCallback}
    {accepted : EResult} {grouped : Bool}
    (connects : core.connecting info accepted grouped = .ok next)
    (wasAccepted : accepted = .ok) : info.listenSocket ∈ core.socketClientsMap := by
  cases connectingStep_of_connecting connects with
  | refused refused => exact absurd wasAccepted refused
  | ungrouped found | entered found => exact mem_iff_lookup.mpr ⟨_, found⟩

theorem tableOf_of_connecting {info : SteamNetConnectionStatusChangedCallback}
    {accepted : EResult} {grouped : Bool}
    (connects : core.connecting info accepted grouped = .ok next)
    (socket : HSteamListenSocket) :
    next.tableOf socket =
      if accepted = .ok ∧ grouped = true ∧ socket = info.listenSocket then
        (core.tableOf socket).map (· ++ [info.hConn])
      else core.tableOf socket := by
  obtain ⟨_, alike, tables⟩ :=
    tableOf_connecting info accepted grouped (present_of_connecting connects)
  obtain rfl := Except.ok.inj (connects.symm.trans alike)
  exact tables socket

theorem inTable_of_disconnected {info : SteamNetConnectionStatusChangedCallback}
    (disconnects : core.disconnected info = .ok next) :
    core.InTable info.listenSocket info.hConn := by
  obtain ⟨_, socketInfo, found, present, _⟩ := disconnected_eq_ok.mp disconnects
  exact ⟨_, Option.map_eq_some_iff.mpr ⟨socketInfo, found, rfl⟩, any_isConnection.mp present⟩

theorem tableOf_of_disconnected {info : SteamNetConnectionStatusChangedCallback}
    (disconnects : core.disconnected info = .ok next) (socket : HSteamListenSocket) :
    next.tableOf socket =
      if socket = info.listenSocket then (core.tableOf socket).map (·.erase info.hConn)
      else core.tableOf socket := by
  obtain ⟨_, alike, tables⟩ := tableOf_disconnected (disconnected_eq_ok.mp disconnects).1
    (inTable_of_disconnected disconnects)
  obtain rfl := Except.ok.inj (disconnects.symm.trans alike)
  exact tables socket

end NetworkManagerCore

end HttpServer
