import HttpServer.ConnectionTables
import Mathlib.Data.List.DropRight

/-!
# The connection tables and the live connections

What a run has done to a connection can be read off its history: the status
events the core handled and the stops between them.  The table of a socket holds
the connections that were accepted on it since it was opened and have not ended
since, in the order in which they were accepted.  The core closes a connection
once it is told of it and does not have it in a table.
-/

namespace HttpServer

open UnorderedMap NetworkManagerCore

namespace CoreOperation

variable {Listener : Type}

/-- The operation handles the `Connecting` event of the connection. -/
def reports (connection : HSteamNetConnection) : CoreOperation Listener → Bool
  | callbackManager info _ _ =>
      decide (info.hConn = connection ∧ info.state = .connecting)
  | _ => false

/-- The operation handles a `Connecting` event that it does not enter, since
accepting the connection or grouping it fails. -/
def refuses (connection : HSteamNetConnection) : CoreOperation Listener → Bool
  | callbackManager info accepted grouped =>
      decide (info.hConn = connection ∧ info.state = .connecting ∧
        ¬ (accepted = .ok ∧ grouped = true))
  | _ => false

/-- The connection of a `Connecting` event on the socket for which accepting and
grouping succeed. -/
def accepts (socket : HSteamListenSocket) :
    CoreOperation Listener → Option HSteamNetConnection
  | callbackManager info accepted grouped =>
      if info.state = .connecting ∧ info.listenSocket = socket ∧ accepted = .ok ∧
          grouped = true then some info.hConn
      else none
  | _ => none

/-- The operation handles an event that the connection was closed by its peer or
has a problem. -/
def ends (connection : HSteamNetConnection) : CoreOperation Listener → Bool
  | callbackManager info _ _ =>
      decide (info.hConn = connection ∧
        (info.state = .closedByPeer ∨ info.state = .problemDetectedLocally))
  | _ => false

/-- A table of the socket after the operation: the connections that end are
gone, and the one that is accepted comes last. -/
def changes (operation : CoreOperation Listener) (socket : HSteamListenSocket)
    (table : List HSteamNetConnection) : List HSteamNetConnection :=
  table.filter (fun connection => !operation.ends connection) ++
    (operation.accepts socket).toList

end CoreOperation

section History

variable {Listener : Type}

/-- The socket has a table. -/
def isOpen (socket : HSteamListenSocket) :
    Except Fault (NetworkManagerCore Listener) → Bool
  | .ok core => (core.tableOf socket).isSome
  | .error _ => false

/-- The operations of a trace since the socket last entered the map. -/
def sinceOpened (socket : HSteamListenSocket)
    (trace : List (Except Fault (NetworkManagerCore Listener) × CoreOperation Listener)) :
    List (CoreOperation Listener) :=
  (trace.rtakeWhile fun step => isOpen socket step.1).map Prod.snd

/-- The connections accepted on the socket, in the order of their acceptance,
without those that end later. -/
def liveConnections (socket : HSteamListenSocket) :
    List (CoreOperation Listener) → List HSteamNetConnection
  | [] => []
  | operation :: later =>
      (operation.accepts socket).toList.filter
          (fun connection => !later.any (CoreOperation.ends connection)) ++
        liveConnections socket later

theorem liveConnections_concat {socket : HSteamListenSocket}
    {operations : List (CoreOperation Listener)} {operation : CoreOperation Listener} :
    liveConnections socket (operations ++ [operation]) =
      operation.changes socket (liveConnections socket operations) := by
  induction operations with
  | nil => simp [liveConnections, CoreOperation.changes]
  | cons first operations ih =>
      rw [CoreOperation.changes] at ih ⊢
      simp only [List.cons_append, liveConnections, ih, List.filter_append,
        List.filter_filter, List.any_append, List.any_cons, List.any_nil, Bool.or_false,
        Bool.not_or, Bool.and_comm, List.append_assoc]

theorem sinceOpened_concat {socket : HSteamListenSocket}
    {trace : List (Except Fault (NetworkManagerCore Listener) × CoreOperation Listener)}
    {state : Except Fault (NetworkManagerCore Listener)}
    {operation : CoreOperation Listener} :
    sinceOpened socket (trace ++ [(state, operation)]) =
      if isOpen socket state then sinceOpened socket trace ++ [operation] else [] := by
  unfold sinceOpened
  rw [List.rtakeWhile_concat]
  split <;> simp [*]

end History

/-- The call closes the connection. -/
def CoreCall.closes (connection : HSteamNetConnection) : CoreCall → Bool
  | .adapter (.closeConnection closed _) => closed == connection
  | _ => false

/-- The connections of the table that the operation closes. -/
def CoreOperation.closedTable {Listener : Type} (core : NetworkManagerCore Listener)
    (operation : CoreOperation Listener) : List HSteamNetConnection :=
  ((operation.closes core).bind core.tableOf).getD []

namespace NetworkManagerCore

variable {Listener : Type} {core next : NetworkManagerCore Listener}
  {listener : HListener} {connection : HSteamNetConnection}

/-- How often the core has closed the connection. -/
def closeCount (core : NetworkManagerCore Listener) (connection : HSteamNetConnection) :
    Nat :=
  core.calls.countP (CoreCall.closes connection)

@[simp]
theorem closeCount_record (call : CoreCall) :
    (core.record call).closeCount connection =
      core.closeCount connection + if call.closes connection then 1 else 0 := by
  simp [closeCount, record, List.countP_append, List.countP_singleton]

@[simp]
theorem closeCount_updateListener (update : ListenerInfo Listener → ListenerInfo Listener) :
    (core.updateListener listener update).closeCount connection =
      core.closeCount connection := rfl

@[simp]
theorem closeCount_updateConnections {socket : HSteamListenSocket}
    (update : List Connections → List Connections) :
    (core.updateConnections socket update).closeCount connection =
      core.closeCount connection := rfl

@[simp]
theorem closeCount_adoptSocket {handlers : SocketHandlers} :
    (core.adoptSocket listener handlers).closeCount connection =
      core.closeCount connection := rfl

/-- Every connection of the dropped table is closed. -/
theorem closeCount_dropSocket {socket : HSteamListenSocket} {socketInfo : SocketInfo} :
    (core.dropSocket listener socket socketInfo).closeCount connection =
      core.closeCount connection +
        (socketInfo.allConnections.map Connections.connection).count connection := by
  simp only [closeCount, dropSocket, List.countP_append, List.countP_map, List.count,
    Nat.add_left_cancel_iff]
  rfl

theorem closeCount_startListening {port : UInt16} {initSocket : Result SocketHandlers}
    {started result : Result Unit}
    (starts : core.startListening listener port initSocket started = (result, next)) :
    next.closeCount connection = core.closeCount connection := by
  cases startingStep_of_startListening starts with
  | refused => rfl
  | failed | adopted => simp [CoreCall.closes]

theorem closeCount_stopListening {result : Result Unit}
    (stops : core.stopListening listener = .ok (result, next)) :
    next.closeCount connection = core.closeCount connection +
      (CoreOperation.closedTable core (.stopListening listener)).count connection := by
  rcases stopListening_cases stops with
    ⟨_, rfl, idle⟩ | ⟨info, socketInfo, found, bound, table, _, rfl⟩
  · cases found : next.listeners.lookup listener with
    | none => simp [CoreOperation.closedTable, CoreOperation.closes, found]
    | some info => simp [CoreOperation.closedTable, CoreOperation.closes, found, idle info found]
  · have tabled : CoreOperation.closedTable core (.stopListening listener) =
        socketInfo.allConnections.map Connections.connection := by
      simp [CoreOperation.closedTable, CoreOperation.closes, found, bound, tableOf, table]
    rw [closeCount_record, closeCount_dropSocket, tabled]
    simp [CoreCall.closes]

theorem closeCount_destroyListener {result : Result Unit}
    (destroys : core.destroyListener listener = .ok (result, next)) :
    next.closeCount connection = core.closeCount connection +
      (CoreOperation.closedTable core (.destroyListener listener)).count connection := by
  rcases destroyListener_cases destroys with ⟨_, rfl, unknown⟩ | ⟨_, stopped, stops, _, rfl⟩
  · simp [CoreOperation.closedTable, CoreOperation.closes, unknown]
  · have counted : (stopped.record (.destroy listener)).closeCount connection =
        stopped.closeCount connection := by
      simp [CoreCall.closes]
    exact counted.trans (closeCount_stopListening stops)

theorem closeCount_connectionServed {socket : HSteamListenSocket}
    {served : HSteamNetConnection}
    (serves : core.connectionServed socket served = .ok next) :
    next.closeCount connection = core.closeCount connection := by
  obtain ⟨_, _, _, rfl⟩ := connectionServed_eq_ok.mp serves
  rfl

/-- A `Connecting` event that does not enter its connection closes it. -/
theorem closeCount_connecting {info : SteamNetConnectionStatusChangedCallback}
    {accepted : EResult} {grouped : Bool}
    (connects : core.connecting info accepted grouped = .ok next) :
    next.closeCount connection = core.closeCount connection +
      if info.hConn = connection ∧ ¬ (accepted = .ok ∧ grouped = true) then 1 else 0 := by
  cases connectingStep_of_connecting connects with
  | refused refused => simp [CoreCall.closes, refused]
  | ungrouped | entered => simp [CoreCall.closes]

theorem closeCount_disconnected {info : SteamNetConnectionStatusChangedCallback}
    (disconnects : core.disconnected info = .ok next) :
    next.closeCount connection = core.closeCount connection +
      if info.hConn = connection then 1 else 0 := by
  obtain ⟨_, _, _, _, rfl⟩ := disconnected_eq_ok.mp disconnects
  simp [CoreCall.closes]

/-- The other operations close the connections of the table that they drop. -/
theorem closeCount_perform [IListener Listener] {operation : CoreOperation Listener}
    {outcome : Outcome} (notCallback : operation.isCallback = false)
    (performs : operation.perform core = .ok (outcome, next)) :
    next.closeCount connection = core.closeCount connection +
      (operation.closedTable core).count connection := by
  cases operationStep_of_perform performs with
  | createListener creates =>
      obtain ⟨_, _, rfl⟩ := createListener_eq_ok.mp creates
      rfl
  | destroyListener destroys => exact closeCount_destroyListener destroys
  | startListening starts => exact closeCount_startListening starts
  | stopListening stops => exact closeCount_stopListening stops
  | tryPopReceivedMessageQueue pops =>
      rcases next_of_tryPopReceived pops with rfl | ⟨_, rfl⟩
      · rfl
      · simp [CoreCall.closes, CoreOperation.closedTable, CoreOperation.closes]
  | pushOutgoingMessageQueue pushes =>
      rcases next_of_pushOutgoing pushes with rfl | rfl
      · rfl
      · simp [CoreCall.closes, CoreOperation.closedTable, CoreOperation.closes]
  | tryPopErrorQueue pops =>
      rcases next_of_tryPopError pops with rfl | ⟨_, rfl⟩
      · rfl
      · simp [CoreCall.closes, CoreOperation.closedTable, CoreOperation.closes]
  | connectionServed serves => exact closeCount_connectionServed serves
  | callbackManager => cases notCallback
  | listenerChanges => rfl

end NetworkManagerCore

/-- No connection is in two tables, or twice in one. -/
structure Apart {Listener : Type} (core : NetworkManagerCore Listener) : Prop where
  nodup : ∀ socket table, core.tableOf socket = some table → table.Nodup
  exclusive : ∀ socket other connection, core.InTable socket connection →
    core.InTable other connection → socket = other

section Step

variable {Listener : Type} {core next : NetworkManagerCore Listener}
  {socket : HSteamListenSocket} {connection : HSteamNetConnection}
  {operation : CoreOperation Listener} {outcome : Outcome}

theorem changes_of_notCallback (notCallback : operation.isCallback = false)
    (table : List HSteamNetConnection) : operation.changes socket table = table := by
  cases operation <;>
    simp_all [CoreOperation.changes, CoreOperation.ends, CoreOperation.accepts,
      CoreOperation.isCallback]

/-- Two tables never share a connection, so taking one connection out of one
table takes it out of all. -/
theorem tableOf_disconnected_eq_filter (apart : Apart core)
    {info : SteamNetConnectionStatusChangedCallback}
    (disconnects : core.disconnected info = .ok next) :
    next.tableOf socket = (core.tableOf socket).map
      (List.filter fun connection => !decide (info.hConn = connection)) := by
  have inTable := inTable_of_disconnected disconnects
  rw [tableOf_of_disconnected disconnects]
  cases tabled : core.tableOf socket with
  | none => simp
  | some table =>
      split
      next same =>
        simp only [Option.map_some, Option.some.injEq]
        rw [(apart.nodup socket table tabled).erase_eq_filter]
        exact List.filter_congr fun connection _ => by
          simp [bne, beq_eq_decide, eq_comm]
      next different =>
        have elsewhere : info.hConn ∉ table := fun member =>
          different (apart.exclusive _ _ _ ⟨table, tabled, member⟩ inTable)
        simp only [Option.map_some, Option.some.injEq]
        symm
        rw [List.filter_eq_self]
        intro connection member
        simp only [Bool.not_eq_true', decide_eq_false_iff_not]
        rintro rfl
        exact elsewhere member

/-- A status event leaves a table alone but for its own connection. -/
theorem tableOf_callbackManager (apart : Apart core)
    {info : SteamNetConnectionStatusChangedCallback} {accepted : EResult} {grouped : Bool}
    (handles : core.callbackManager info accepted grouped = .ok next) :
    next.tableOf socket = (core.tableOf socket).map
      ((CoreOperation.callbackManager info accepted grouped :
        CoreOperation Listener).changes socket) := by
  unfold callbackManager at handles
  unfold CoreOperation.changes
  cases state : info.state with
  | connecting =>
      rw [state] at handles
      rw [tableOf_of_connecting handles]
      by_cases enters : accepted = .ok ∧ grouped = true ∧ socket = info.listenSocket
      · obtain ⟨rfl, rfl, rfl⟩ := enters
        simp [CoreOperation.ends, CoreOperation.accepts, state]
      · have refused : ¬ (info.listenSocket = socket ∧ accepted = .ok ∧ grouped = true) :=
          fun ⟨same, ok, joined⟩ => enters ⟨ok, joined, same.symm⟩
        simp [CoreOperation.ends, CoreOperation.accepts, state,
          enters, refused]
  | closedByPeer | problemDetectedLocally =>
      rw [state] at handles
      rw [tableOf_disconnected_eq_filter apart handles]
      simp [CoreOperation.ends, CoreOperation.accepts, state]
  | none | findingRoute | connected | finWait | linger | dead | other =>
      rw [state] at handles
      obtain rfl := Except.ok.inj handles
      simp [CoreOperation.ends, CoreOperation.accepts, state]

/-- What each operation does to the table of a socket. -/
theorem tableOf_step [IListener Listener] (apart : Apart core)
    (performs : operation.perform core = .ok (outcome, next)) :
    next.tableOf socket =
      if operation.closes core = some socket then none
      else if operation.opens core = some socket ∧ socket ∉ core.socketClientsMap then
        some []
      else (core.tableOf socket).map (operation.changes socket) := by
  cases notCallback : operation.isCallback with
  | false =>
      have same : operation.changes socket = id :=
        funext fun table => changes_of_notCallback notCallback table
      rw [tableOf_perform notCallback performs, same, Option.map_id_apply]
  | true =>
      cases operationStep_of_perform performs with
      | callbackManager changes =>
          rw [tableOf_callbackManager apart changes]
          simp [CoreOperation.closes, CoreOperation.opens]
      | _ => cases notCallback

/-- A connection is in a table after the operation when it was and neither ended
nor lost its table, or when it has just been accepted. -/
theorem inTable_step [IListener Listener] (apart : Apart core)
    (performs : operation.perform core = .ok (outcome, next)) :
    next.InTable socket connection ↔ operation.closes core ≠ some socket ∧
      (core.InTable socket connection ∧ operation.ends connection = false ∨
        socket ∈ core.socketClientsMap ∧ operation.accepts socket = some connection) := by
  rw [InTable, tableOf_step apart performs]
  split
  next closed => simp [closed]
  next kept =>
    split
    next opened => simp [InTable, tableOf_eq_none.mpr opened.2, opened.2]
    next =>
      cases tabled : core.tableOf socket with
      | none => simp [InTable, tabled, tableOf_eq_none.mp tabled]
      | some table =>
          have present : socket ∈ core.socketClientsMap :=
            mem_socketClientsMap_iff.mpr ⟨table, tabled⟩
          simp [InTable, tabled, present, kept, CoreOperation.changes]

/-- An event that ends a connection finds it in a table, else an assert fails. -/
theorem inTable_of_ends [IListener Listener]
    (performs : operation.perform core = .ok (outcome, next))
    (ended : operation.ends connection = true) :
    ∃ socket, core.InTable socket connection := by
  cases operationStep_of_perform performs with
  | @callbackManager info accepted grouped _ handles =>
      obtain ⟨rfl, closedByPeer | problem⟩ :
          info.hConn = connection ∧ (info.state = .closedByPeer ∨
            info.state = .problemDetectedLocally) := by
        simpa [CoreOperation.ends] using ended
      · rw [callbackManager, closedByPeer] at handles
        exact ⟨_, inTable_of_disconnected handles⟩
      · rw [callbackManager, problem] at handles
        exact ⟨_, inTable_of_disconnected handles⟩
  | _ => simp [CoreOperation.ends] at ended

/-- A `Connecting` event is refused, or enters its connection. -/
theorem accepts_of_reports [IListener Listener]
    (performs : operation.perform core = .ok (outcome, next))
    (reported : operation.reports connection = true)
    (entered : operation.refuses connection = false) :
    ∃ socket ∈ core.socketClientsMap, operation.accepts socket = some connection := by
  cases operationStep_of_perform performs with
  | @callbackManager info accepted grouped _ handles =>
      obtain ⟨rfl, connecting⟩ : info.hConn = connection ∧ info.state = .connecting := by
        simpa [CoreOperation.reports] using reported
      obtain ⟨rfl, rfl⟩ : accepted = .ok ∧ grouped = true := by
        simpa [CoreOperation.refuses, connecting] using entered
      rw [callbackManager, connecting] at handles
      exact ⟨info.listenSocket, present_of_connecting handles rfl,
        by simp [CoreOperation.accepts, connecting]⟩
  | _ => simp [CoreOperation.reports] at reported

/-- What each operation adds to the calls that close a connection. -/
theorem closeCount_step [IListener Listener]
    (performs : operation.perform core = .ok (outcome, next)) :
    next.closeCount connection = core.closeCount connection +
      ((operation.closedTable core).count connection +
        ((if operation.refuses connection then 1 else 0) +
          if operation.ends connection then 1 else 0)) := by
  cases notCallback : operation.isCallback with
  | false =>
      rw [closeCount_perform notCallback performs]
      cases operation with
      | callbackManager => cases notCallback
      | _ => rfl
  | true =>
      cases operationStep_of_perform performs with
      | @callbackManager info accepted grouped _ handles =>
          unfold callbackManager at handles
          have kept : (CoreOperation.callbackManager info accepted grouped :
              CoreOperation Listener).closedTable core = [] := rfl
          cases state : info.state with
          | connecting =>
              rw [state] at handles
              rw [closeCount_connecting handles, kept]
              simp [CoreOperation.refuses, CoreOperation.ends, state, imp_iff_not_or]
          | closedByPeer | problemDetectedLocally =>
              rw [state] at handles
              rw [closeCount_disconnected handles, kept]
              simp [CoreOperation.refuses, CoreOperation.ends, state]
          | none | findingRoute | connected | finWait | linger | dead | other =>
              rw [state] at handles
              obtain rfl := Except.ok.inj handles
              rw [kept]
              simp [CoreOperation.refuses, CoreOperation.ends, state]
      | _ => cases notCallback

end Step

/-- The core knows the connections of its tables from their `Connecting` events.
It has closed a connection that it was told of and that is in no table, once, and
no other. -/
structure ConnectionAccount {Listener : Type} (operations : List (CoreOperation Listener))
    (core : NetworkManagerCore Listener) : Prop extends Apart core where
  reported : ∀ socket connection, core.InTable socket connection →
    operations.any (CoreOperation.reports connection) = true
  unclosed : ∀ connection, operations.any (CoreOperation.reports connection) = false ∨
    (∃ socket, core.InTable socket connection) → core.closeCount connection = 0
  closed : ∀ connection, operations.any (CoreOperation.reports connection) = true →
    (¬ ∃ socket, core.InTable socket connection) → core.closeCount connection = 1

/-- Every connection handle gets at most one `Connecting` event. -/
def ReportedOnce {Listener : Type} (operations : List (CoreOperation Listener)) : Prop :=
  ∀ connection, operations.countP (CoreOperation.reports connection) ≤ 1

section Account

variable {Listener : Type} {core next : NetworkManagerCore Listener}
  {operations : List (CoreOperation Listener)} {operation : CoreOperation Listener}
  {outcome : Outcome} {connection : HSteamNetConnection}

theorem ReportedOnce.of_concat (once : ReportedOnce (operations ++ [operation])) :
    ReportedOnce operations := by
  intro connection
  have counted := once connection
  rw [List.countP_append] at counted
  omega

theorem ReportedOnce.unreported (once : ReportedOnce (operations ++ [operation]))
    (reports : operation.reports connection = true) :
    operations.any (CoreOperation.reports connection) = false := by
  have counted := once connection
  rw [List.countP_append, List.countP_singleton, if_pos reports] at counted
  have never : operations.countP (CoreOperation.reports connection) = 0 := by omega
  rw [List.countP_eq_zero] at never
  simpa using never

theorem accounted_initial : ConnectionAccount [] ({} : NetworkManagerCore Listener) where
  nodup socket table tabled := by simp [tableOf] at tabled
  exclusive socket other connection inTable _ := by simp [InTable, tableOf] at inTable
  reported socket connection inTable := by simp [InTable, tableOf] at inTable
  unclosed connection _ := rfl
  closed connection reported := by simp at reported

theorem reports_of_refuses (refuses : operation.refuses connection = true) :
    operation.reports connection = true := by
  cases operation with
  | callbackManager info accepted grouped =>
      simp only [CoreOperation.refuses, decide_eq_true_eq] at refuses
      simp [CoreOperation.reports, refuses.1, refuses.2.1]
  | _ => simp [CoreOperation.refuses] at refuses

theorem reports_of_accepts {socket : HSteamListenSocket}
    (accepts : operation.accepts socket = some connection) :
    operation.reports connection = true := by
  cases operation with
  | callbackManager info accepted grouped =>
      simp only [CoreOperation.accepts, Option.ite_none_right_eq_some,
        Option.some.injEq] at accepts
      simp [CoreOperation.reports, accepts.1.1, accepts.2]
  | _ => simp [CoreOperation.accepts] at accepts

theorem refuses_of_accepts {socket : HSteamListenSocket}
    (accepts : operation.accepts socket = some connection) :
    operation.refuses connection = false := by
  cases operation with
  | callbackManager info accepted grouped =>
      simp only [CoreOperation.accepts, Option.ite_none_right_eq_some] at accepts
      simp [CoreOperation.refuses, accepts.1]
  | _ => rfl

theorem accepts_unique {socket other : HSteamListenSocket}
    (accepts : operation.accepts socket = some connection)
    (also : operation.accepts other = some connection) : socket = other := by
  cases operation with
  | callbackManager info accepted grouped =>
      simp only [CoreOperation.accepts, Option.ite_none_right_eq_some] at accepts also
      exact accepts.1.2.1.symm.trans also.1.2.1
  | _ => simp [CoreOperation.accepts] at accepts

/-- An operation that closes a table handles no status event. -/
theorem ends_of_closes {socket : HSteamListenSocket}
    (closes : operation.closes core = some socket) :
    operation.ends connection = false ∧ operation.reports connection = false := by
  cases operation with
  | callbackManager => simp [CoreOperation.closes] at closes
  | _ => exact ⟨rfl, rfl⟩

namespace Apart

theorem count_of_closes (apart : Apart core) {socket : HSteamListenSocket}
    (closes : operation.closes core = some socket)
    (inTable : core.InTable socket connection) :
    (operation.closedTable core).count connection = 1 := by
  obtain ⟨table, tabled, member⟩ := inTable
  have dropped : operation.closedTable core = table := by
    simp [CoreOperation.closedTable, closes, tabled]
  rw [dropped]
  exact List.count_eq_one_of_mem (apart.nodup socket table tabled) member

end Apart

theorem count_of_not_closes
    (kept : ∀ socket, operation.closes core = some socket →
      ¬ core.InTable socket connection) :
    (operation.closedTable core).count connection = 0 := by
  rw [List.count_eq_zero]
  intro member
  unfold CoreOperation.closedTable at member
  cases closes : operation.closes core with
  | none => simp [closes] at member
  | some socket =>
      cases tabled : core.tableOf socket with
      | none => simp [closes, tabled] at member
      | some table =>
          exact kept socket closes ⟨table, tabled, by simpa [closes, tabled] using member⟩

namespace ConnectionAccount

/-- Before its `Connecting` event nothing has happened to a connection. -/
theorem fresh (accounted : ConnectionAccount operations core)
    (unreported : operations.any (CoreOperation.reports connection) = false) :
    core.closeCount connection = 0 ∧ ∀ socket, ¬ core.InTable socket connection := by
  refine ⟨accounted.unclosed connection (Or.inl unreported), ?_⟩
  intro socket inTable
  rw [accounted.reported socket connection inTable] at unreported
  cases unreported

variable [IListener Listener]

theorem apart_step (accounted : ConnectionAccount operations core)
    (once : ReportedOnce (operations ++ [operation]))
    (performs : operation.perform core = .ok (outcome, next)) : Apart next where
  nodup socket table tabled := by
    rw [tableOf_step accounted.toApart performs] at tabled
    split at tabled
    · cases tabled
    split at tabled
    · obtain rfl := Option.some.inj tabled
      exact List.nodup_nil
    · obtain ⟨before, tabledBefore, rfl⟩ := Option.map_eq_some_iff.mp tabled
      unfold CoreOperation.changes
      have kept := (accounted.nodup socket before tabledBefore).filter
        fun connection => !operation.ends connection
      cases accepts : operation.accepts socket with
      | none => simpa using kept
      | some connection =>
          have unreported := once.unreported (reports_of_accepts accepts)
          have absent : connection ∉ before := fun member =>
            (accounted.fresh unreported).2 socket ⟨before, tabledBefore, member⟩
          rw [Option.toList_some, ← List.concat_eq_append, List.nodup_concat]
          exact ⟨fun member => absent (List.mem_of_mem_filter member), kept⟩
  exclusive socket other connection inTable inOther := by
    rcases ((inTable_step accounted.toApart performs).mp inTable).2 with
      ⟨before, _⟩ | ⟨_, accepts⟩
    · rcases ((inTable_step accounted.toApart performs).mp inOther).2 with
        ⟨beforeOther, _⟩ | ⟨_, accepts⟩
      · exact accounted.exclusive _ _ _ before beforeOther
      · exact absurd before
          ((accounted.fresh (once.unreported (reports_of_accepts accepts))).2 socket)
    · rcases ((inTable_step accounted.toApart performs).mp inOther).2 with
        ⟨beforeOther, _⟩ | ⟨_, acceptsOther⟩
      · exact absurd beforeOther
          ((accounted.fresh (once.unreported (reports_of_accepts accepts))).2 other)
      · exact accepts_unique accepts acceptsOther

/-- A connection is closed in the step in which it is refused or leaves its
table. -/
theorem closeCount_of_leaves (accounted : ConnectionAccount operations core)
    (once : ReportedOnce (operations ++ [operation]))
    (performs : operation.perform core = .ok (outcome, next))
    (leaves : operation.refuses connection = true ∨
      (∃ socket, core.InTable socket connection) ∧
        ¬ ∃ socket, next.InTable socket connection) :
    next.closeCount connection = core.closeCount connection + 1 := by
  rw [closeCount_step performs]
  rcases leaves with refuses | ⟨⟨socket, inTable⟩, gone⟩
  · have unreported := once.unreported (reports_of_refuses refuses)
    obtain ⟨_, absent⟩ := accounted.fresh unreported
    have notEnds : operation.ends connection = false := by
      by_contra ends
      obtain ⟨socket, inTable⟩ := inTable_of_ends performs (by simpa using ends)
      exact absent socket inTable
    rw [count_of_not_closes fun socket _ => absent socket, refuses, notEnds]
    rfl
  · have notRefuses : operation.refuses connection = false := by
      by_contra refuses
      have unreported := once.unreported (reports_of_refuses (by simpa using refuses))
      exact (accounted.fresh unreported).2 socket inTable
    by_cases closes : operation.closes core = some socket
    · rw [accounted.count_of_closes closes inTable, notRefuses, (ends_of_closes closes).1]
      rfl
    · have ends : operation.ends connection = true := by
        by_contra stays
        exact gone ⟨socket, (inTable_step accounted.toApart performs).mpr
          ⟨closes, Or.inl ⟨inTable, by simpa using stays⟩⟩⟩
      have kept : (operation.closedTable core).count connection = 0 := by
        refine count_of_not_closes fun other closesOther inOther => closes ?_
        rw [accounted.exclusive _ _ _ inTable inOther]
        exact closesOther
      rw [kept, notRefuses, ends]
      rfl

theorem closeCount_of_stays (accounted : ConnectionAccount operations core)
    (once : ReportedOnce (operations ++ [operation]))
    (performs : operation.perform core = .ok (outcome, next))
    (stays : ¬ (operation.refuses connection = true ∨
      (∃ socket, core.InTable socket connection) ∧
        ¬ ∃ socket, next.InTable socket connection)) :
    next.closeCount connection = core.closeCount connection := by
  obtain ⟨notRefuses, stays⟩ := not_or.mp stays
  rw [closeCount_step performs, if_neg notRefuses]
  by_cases entered : ∃ socket, core.InTable socket connection
  · obtain ⟨socket, inTable⟩ := entered
    obtain ⟨other, inNext⟩ : ∃ socket, next.InTable socket connection := by
      by_contra gone
      exact stays ⟨⟨socket, inTable⟩, gone⟩
    obtain ⟨notClosed, ⟨inOther, notEnds⟩ | ⟨_, accepts⟩⟩ :=
      (inTable_step accounted.toApart performs).mp inNext
    · have kept : (operation.closedTable core).count connection = 0 := by
        refine count_of_not_closes fun closed closes inClosed => notClosed ?_
        rw [accounted.exclusive _ _ _ inOther inClosed]
        exact closes
      rw [kept, notEnds]
      rfl
    · exact absurd inTable
        ((accounted.fresh (once.unreported (reports_of_accepts accepts))).2 socket)
  · have notEnds : operation.ends connection = false := by
      by_contra ends
      exact entered (inTable_of_ends performs (by simpa using ends))
    have kept : (operation.closedTable core).count connection = 0 :=
      count_of_not_closes fun socket _ inTable => entered ⟨socket, inTable⟩
    rw [kept, notEnds]
    rfl

theorem step (accounted : ConnectionAccount operations core)
    (once : ReportedOnce (operations ++ [operation]))
    (performs : operation.perform core = .ok (outcome, next)) :
    ConnectionAccount (operations ++ [operation]) next where
  toApart := accounted.apart_step once performs
  reported socket connection inTable := by
    rw [List.any_append, Bool.or_eq_true]
    rcases ((inTable_step accounted.toApart performs).mp inTable).2 with
      ⟨before, _⟩ | ⟨_, accepts⟩
    · exact Or.inl (accounted.reported socket connection before)
    · exact Or.inr (by simpa using reports_of_accepts accepts)
  unclosed connection untouched := by
    rcases untouched with unreported | ⟨socket, inTable⟩
    · rw [List.any_append, Bool.or_eq_false_iff, List.any_cons, List.any_nil,
        Bool.or_false] at unreported
      obtain ⟨unclosed, absent⟩ := accounted.fresh unreported.1
      rw [accounted.closeCount_of_stays once performs ?_, unclosed]
      rintro (refuses | ⟨⟨socket, inTable⟩, _⟩)
      · rw [reports_of_refuses refuses] at unreported
        cases unreported.2
      · exact absent socket inTable
    · have entered := (inTable_step accounted.toApart performs).mp inTable
      have notRefuses : operation.refuses connection = false := by
        rcases entered.2 with ⟨before, _⟩ | ⟨_, accepts⟩
        · by_contra refuses
          have unreported := once.unreported (reports_of_refuses (by simpa using refuses))
          exact (accounted.fresh unreported).2 socket before
        · exact refuses_of_accepts accepts
      rw [accounted.closeCount_of_stays once performs
        (by simpa [notRefuses] using fun _ _ => ⟨socket, inTable⟩)]
      rcases entered.2 with ⟨before, _⟩ | ⟨_, accepts⟩
      · exact accounted.unclosed connection (Or.inr ⟨socket, before⟩)
      · exact (accounted.fresh (once.unreported (reports_of_accepts accepts))).1
  closed connection reported absent := by
    by_cases leaves : operation.refuses connection = true ∨
        (∃ socket, core.InTable socket connection) ∧
          ¬ ∃ socket, next.InTable socket connection
    · rw [accounted.closeCount_of_leaves once performs leaves]
      rcases leaves with refuses | ⟨entered, _⟩
      · rw [(accounted.fresh (once.unreported (reports_of_refuses refuses))).1]
      · rw [accounted.unclosed connection (Or.inr entered)]
    · rw [accounted.closeCount_of_stays once performs leaves]
      obtain ⟨notRefuses, stays⟩ := not_or.mp leaves
      refine accounted.closed connection ?_ fun entered => stays ⟨entered, absent⟩
      by_contra unreported
      have reports : operation.reports connection = true := by
        simpa [unreported] using reported
      obtain ⟨socket, present, accepts⟩ :=
        accepts_of_reports performs reports (by simpa using notRefuses)
      refine absent ⟨socket, (inTable_step accounted.toApart performs).mpr
        ⟨fun closes => ?_, Or.inr ⟨present, accepts⟩⟩⟩
      rw [(ends_of_closes closes).2] at reports
      cases reports

end ConnectionAccount

end Account

section Runs

variable {Listener : Type} [IListener Listener] {core next : NetworkManagerCore Listener}
  {operations : List (CoreOperation Listener)} {operation : CoreOperation Listener}

/-- A step after which no assert has failed performs its operation. -/
theorem performs_of_step {state : Except Fault (NetworkManagerCore Listener)}
    (moves : (coreSystem Listener).step state operation = some (.ok next)) :
    ∃ core outcome, state = .ok core ∧
      operation.perform core = .ok (outcome, next) := by
  cases state with
  | error fault => cases moves
  | ok core =>
      obtain ⟨⟨outcome, _⟩, performs, rfl⟩ :=
        map_eq_ok_iff.mp (Option.some.inj moves)
      exact ⟨core, outcome, rfl, performs⟩

/-- The table of a socket after one more operation, by its history. -/
theorem tableOf_history {outcome : Outcome} {socket : HSteamListenSocket}
    {trace : List (Except Fault (NetworkManagerCore Listener) × CoreOperation Listener)}
    (apart : Apart core) (performs : operation.perform core = .ok (outcome, next))
    (history : socket ∈ core.socketClientsMap →
      core.tableOf socket = some (liveConnections socket (sinceOpened socket trace)))
    (present : socket ∈ next.socketClientsMap) :
    next.tableOf socket =
      some (liveConnections socket (sinceOpened socket (trace ++ [(.ok core, operation)]))) := by
  obtain ⟨after, tabled⟩ := mem_socketClientsMap_iff.mp present
  rw [sinceOpened_concat]
  rw [tableOf_step apart performs] at tabled ⊢
  split at tabled
  · cases tabled
  next kept =>
    rw [if_neg kept]
    split at tabled
    next opened =>
        have shut : isOpen socket (.ok core) = false := by
          simp [isOpen, tableOf_eq_none.mpr opened.2]
        rw [if_pos opened, shut]
        rfl
    next notOpened =>
        obtain ⟨before, tabledBefore, _⟩ := Option.map_eq_some_iff.mp tabled
        have already : socket ∈ core.socketClientsMap :=
          mem_socketClientsMap_iff.mpr ⟨before, tabledBefore⟩
        have isOpened : isOpen socket (.ok core) = true := by simp [isOpen, tabledBefore]
        rw [if_neg notOpened, isOpened, if_pos rfl, history already, Option.map_some,
          liveConnections_concat]

/-- The account of the connections and the history of the tables, along a run. -/
theorem steps_accounted
    (steps : (coreSystem Listener).Steps (.ok {}) operations (.ok core))
    (once : ReportedOnce operations) :
    ConnectionAccount operations core ∧ ∀ socket ∈ core.socketClientsMap,
      core.tableOf socket = some (liveConnections socket
        (sinceOpened socket ((coreSystem Listener).trace (.ok {}) operations))) := by
  refine steps.invariant (fun operations state => ReportedOnce operations →
    ∀ core, state = .ok core → ConnectionAccount operations core ∧
      ∀ socket ∈ core.socketClientsMap, core.tableOf socket = some (liveConnections socket
        (sinceOpened socket ((coreSystem Listener).trace (.ok {}) operations))))
    ?_ ?_ once core rfl
  · rintro _ _ ⟨⟩
    exact ⟨accounted_initial, fun socket present => absurd present (by simp)⟩
  · intro before state operation last run ih _ moves once next ends
    rw [ends] at moves
    obtain ⟨core, outcome, rfl, performs⟩ := performs_of_step moves
    obtain ⟨accounted, history⟩ := ih once.of_concat core rfl
    refine ⟨accounted.step once performs, fun socket present => ?_⟩
    rw [run.trace_concat]
    exact tableOf_history accounted.toApart performs (history socket) present

end Runs

/-- In every run in which no assert fails and each connection gets at most one
`Connecting` event, the table of a socket holds the live connections, a connection
is at most once in at most one table, and the core has closed exactly the
connections that it was told of and that are in no table, each once.  The step that
closes a connection is the one that refuses it or takes it out of its table: the
event of its end, or the stop or destruction of the listener on its socket. -/
theorem live_connections (Listener : Type) [IListener Listener]
    (operations : List (CoreOperation Listener)) (core : NetworkManagerCore Listener)
    (steps : (coreSystem Listener).Steps (.ok {}) operations (.ok core))
    (once : ReportedOnce operations) :
    (∀ socket ∈ core.socketClientsMap, core.tableOf socket = some (liveConnections socket
        (sinceOpened socket ((coreSystem Listener).trace (.ok {}) operations)))) ∧
      (∀ socket table, core.tableOf socket = some table → table.Nodup) ∧
      (∀ socket other connection, core.InTable socket connection →
        core.InTable other connection → socket = other) ∧
      (∀ connection, (∃ socket, core.InTable socket connection) →
        core.closeCount connection = 0) ∧
      (∀ connection, operations.any (CoreOperation.reports connection) = true →
        (¬ ∃ socket, core.InTable socket connection) →
        core.closeCount connection = 1) ∧
      (∀ connection, operations.any (CoreOperation.reports connection) = false →
        core.closeCount connection = 0) ∧
      ∀ operation outcome next, operation.perform core = .ok (outcome, next) →
        ReportedOnce (operations ++ [operation]) → ∀ connection,
        (next.closeCount connection = core.closeCount connection + 1 ↔
          operation.refuses connection = true ∨
            (∃ socket, core.InTable socket connection) ∧
              ¬ ∃ socket, next.InTable socket connection) ∧
        (∀ socket, core.InTable socket connection →
          ¬ next.InTable socket connection →
          operation.ends connection = true ∨ operation.closes core = some socket) := by
  obtain ⟨accounted, history⟩ := steps_accounted steps once
  refine ⟨history, accounted.nodup, accounted.exclusive,
    fun connection entered => accounted.unclosed connection (Or.inr entered),
    accounted.closed,
    fun connection unreported => accounted.unclosed connection (Or.inl unreported), ?_⟩
  intro operation outcome next performs onceMore connection
  refine ⟨⟨fun closed => ?_, accounted.closeCount_of_leaves onceMore performs⟩, ?_⟩
  · by_contra stays
    rw [accounted.closeCount_of_stays onceMore performs stays] at closed
    omega
  · intro socket inTable gone
    by_contra neither
    obtain ⟨notEnds, notCloses⟩ := not_or.mp neither
    exact gone ((inTable_step accounted.toApart performs).mpr
      ⟨notCloses, Or.inl ⟨inTable, by simpa using notEnds⟩⟩)

/-- Three connections arrive; the last is refused, and then the first ends. -/
def arrivals : List (CoreOperation ListenerQueues) :=
  [.createListener none,
    .startListening 1 80 (.ok ⟨5, 6⟩) (.ok ()),
    .callbackManager ⟨7, 5, .connecting, .none⟩ .ok true,
    .callbackManager ⟨8, 5, .connecting, .none⟩ .ok true,
    .callbackManager ⟨9, 5, .connecting, .none⟩ (.other 1) true,
    .callbackManager ⟨7, 5, .closedByPeer, .connecting⟩ .ok true]

theorem reportedOnce_arrivals : ReportedOnce arrivals := by
  intro connection
  simp only [arrivals, List.countP_cons, List.countP_nil, CoreOperation.reports]
  by_cases first : (7 : HSteamNetConnection) = connection
  · subst connection
    decide
  · by_cases second : (8 : HSteamNetConnection) = connection
    · subst connection
      decide
    · by_cases third : (9 : HSteamNetConnection) = connection
      · subst connection
        decide
      · simp [first, second, third]

theorem live_connections_after_arrivals :
    ∃ core : NetworkManagerCore ListenerQueues,
      (coreSystem ListenerQueues).Steps (.ok {}) arrivals (.ok core) ∧
      core.tableOf 5 = some [8] ∧ core.closeCount 8 = 0 := by
  have steps : (coreSystem ListenerQueues).Steps (.ok {}) arrivals (.ok _) :=
    TransitionSystem.runWhere_eq_some_iff.mp rfl
  obtain ⟨live, _, _, stays, _⟩ :=
    live_connections ListenerQueues arrivals _ steps reportedOnce_arrivals
  exact ⟨_, steps, live 5 (mem_socketClientsMap_iff.mpr ⟨[8], rfl⟩),
    stays 8 ⟨5, [8], rfl, by decide⟩⟩

end HttpServer
