import HttpServer.ConnectionTables
import HttpServer.ManagerRepresentation
import HttpServer.Switchboard

/-!
# The manager core implements the switchboard

The core keeps a line in two places: the entry of `m_Listeners` with the socket stored there,
and the table of that socket in `m_SocketClientsMap`.  Because of its representation
invariant the two together are a line of the switchboard, and every operation does to the
tables what the switchboard does to its lines.
-/

namespace HttpServer

open UnorderedMap NetworkManagerCore

/-- The served flag of a connection, if the table has the connection. -/
def flagsOf (connections : List Connections) (connection : HSteamNetConnection) : Option Bool :=
  (connections.find? (isConnection connection)).map Connections.isServed

namespace NetworkManagerCore

variable {Listener : Type}

def sessionOf (core : NetworkManagerCore Listener) (socket : HSteamListenSocket) :
    Option Session :=
  if socket = hSteamListenSocketInvalid then none
  else (core.socketClientsMap.lookup socket).map fun info =>
    { socket, pollGroup := info.pollGroup, connections := flagsOf info.allConnections }

def lineOf (core : NetworkManagerCore Listener) (info : ListenerInfo Listener) :
    Line Listener where
  listener := info.listener
  listenerName := info.listenerName
  session := core.sessionOf info.socket

/-- The lines are the entries of `m_Listeners`, and the handles below the counter are those
given out. -/
def board (core : NetworkManagerCore Listener) : Switchboard Listener where
  lines listener := (core.listeners.lookup listener).map core.lineOf
  issued := {listener | listener ≠ hListenerInvalid ∧ listener < core.listenerHandlerIndex}

end NetworkManagerCore

section Flags

variable {connections : List Connections} {connection other : HSteamNetConnection}

@[simp]
theorem flagsOf_nil : flagsOf [] = fun _ => none := rfl

theorem isSome_flagsOf :
    (flagsOf connections connection).isSome = connections.any (isConnection connection) := by
  rw [flagsOf, Option.isSome_map, List.isSome_find?]

theorem flagsOf_eq_none : flagsOf connections connection = none ↔
    connection ∉ connections.map Connections.connection := by
  rw [← any_isConnection, ← isSome_flagsOf, Option.not_isSome_iff_eq_none]

theorem flagsOf_cons {first : Connections} {rest : List Connections} :
    flagsOf (first :: rest) connection =
      if first.connection = connection then some first.isServed
      else flagsOf rest connection := by
  by_cases same : first.connection = connection
  · simp [flagsOf, isConnection, same]
  · simp [flagsOf, isConnection, same]

/-- A new connection comes behind the others. -/
theorem flagsOf_concat (absent : connection ∉ connections.map Connections.connection) :
    flagsOf (connections ++ [{ connection := connection }]) =
      Function.update (flagsOf connections) connection (some false) := by
  funext asked
  induction connections with
  | nil =>
      by_cases same : asked = connection
      · simp [flagsOf_cons, same]
      · simp [flagsOf_cons, same, Ne.symm same]
  | cons first rest ih =>
      rw [List.map_cons, List.mem_cons, not_or] at absent
      rw [List.cons_append, flagsOf_cons, ih absent.2]
      by_cases same : asked = connection
      · subst asked
        simp [Ne.symm absent.1]
      · simp [same, flagsOf_cons]

/-- The first entry of the connection goes, and there is no other. -/
theorem flagsOf_eraseP (nodup : (connections.map Connections.connection).Nodup) :
    flagsOf (connections.eraseP (isConnection connection)) =
      Function.update (flagsOf connections) connection none := by
  funext asked
  induction connections with
  | nil => by_cases same : asked = connection <;> simp [same]
  | cons first rest ih =>
      rw [List.map_cons, List.nodup_cons] at nodup
      by_cases isFirst : first.connection = connection
      · subst connection
        rw [List.eraseP_cons_of_pos (by simp [isConnection])]
        by_cases same : asked = first.connection
        · subst asked
          simpa using flagsOf_eq_none.mpr nodup.1
        · simp [same, flagsOf_cons, Ne.symm same]
      · rw [List.eraseP_cons_of_neg (by simp [isConnection, isFirst]), flagsOf_cons, ih nodup.2]
        by_cases same : asked = connection
        · subst asked
          simp [isFirst]
        · simp [same, flagsOf_cons]

theorem flagsOf_replaceF (present : connections.any (isConnection connection) = true) :
    flagsOf (connections.replaceF fun entry =>
        if isConnection connection entry then some { entry with isServed := true } else none) =
      Function.update (flagsOf connections) connection (some true) := by
  funext asked
  induction connections with
  | nil => simp at present
  | cons first rest ih =>
      by_cases isFirst : first.connection = connection
      · subst connection
        by_cases same : asked = first.connection
        · simp [List.replaceF, isConnection, flagsOf_cons, same]
        · simp [List.replaceF, isConnection, flagsOf_cons, same, Ne.symm same]
      · have later : rest.any (isConnection connection) = true := by
          simpa [isConnection, isFirst] using present
        have notFirst : isConnection connection first = false := by
          simp [isConnection, isFirst]
        simp only [List.replaceF, notFirst, Bool.false_eq_true, if_false, flagsOf_cons, ih later]
        by_cases same : asked = connection
        · subst asked
          simp [isFirst]
        · simp [same, flagsOf_cons]

end Flags

section Board

variable {Listener : Type} {core next : NetworkManagerCore Listener} {created : Nat}
  {listener other : HListener} {info : ListenerInfo Listener}
  {socket : HSteamListenSocket} {socketInfo : SocketInfo}

@[simp]
theorem board_record (call : CoreCall) : (core.record call).board = core.board := rfl

theorem lines_board :
    core.board.lines listener = (core.listeners.lookup listener).map core.lineOf := rfl

theorem lines_of_lookup (found : core.listeners.lookup listener = some info) :
    core.board.lines listener = some (core.lineOf info) := by
  rw [lines_board, found]
  rfl

theorem lines_of_absent (absent : core.listeners.lookup listener = none) :
    core.board.lines listener = none := by
  rw [lines_board, absent]
  rfl

@[simp]
theorem sessionOf_invalid : core.sessionOf hSteamListenSocketInvalid = none := if_pos rfl

theorem sessionOf_eq (valid : socket ≠ hSteamListenSocketInvalid)
    (table : core.socketClientsMap.lookup socket = some socketInfo) :
    core.sessionOf socket = some
      { socket, pollGroup := socketInfo.pollGroup,
        connections := flagsOf socketInfo.allConnections } := by
  rw [sessionOf, if_neg valid, table]
  rfl

/-- The session of a line whose socket is stored. -/
theorem session_lineOf (bound : info.socket ≠ hSteamListenSocketInvalid)
    (table : core.socketClientsMap.lookup info.socket = some socketInfo) :
    (core.lineOf info).session = some
      { socket := info.socket, pollGroup := socketInfo.pollGroup,
        connections := flagsOf socketInfo.allConnections } :=
  sessionOf_eq bound table

theorem quiet_lineOf (idle : info.socket = hSteamListenSocketInvalid) :
    (core.lineOf info).session = none :=
  if_pos idle

/-- A table belongs to the line that has its socket stored. -/
theorem lookup_of_table (represents : Represents created core)
    (table : core.socketClientsMap.lookup socket = some socketInfo) :
    socket ≠ hSteamListenSocketInvalid ∧ ∃ listener info,
      core.listeners.lookup listener = some info ∧ info.socket = socket := by
  obtain ⟨valid, listener, stored⟩ :=
    (represents.keys socket).mp (mem_iff_lookup.mpr ⟨socketInfo, table⟩)
  obtain ⟨info, found, same⟩ := Option.map_eq_some_iff.mp stored
  exact ⟨valid, listener, info, found, same⟩

theorem table_of_lookup (represents : Represents created core)
    (found : core.listeners.lookup listener = some info)
    (bound : info.socket ≠ hSteamListenSocketInvalid) :
    ∃ socketInfo, core.socketClientsMap.lookup info.socket = some socketInfo :=
  represents.socket_present (by rw [socketOf, found]; rfl) bound

/-- Two lines do not share a socket. -/
theorem socket_ne_of_ne (represents : Represents created core)
    (found : core.listeners.lookup listener = some info)
    (bound : info.socket ≠ hSteamListenSocketInvalid) (different : other ≠ listener)
    {entry : ListenerInfo Listener} (foundOther : core.listeners.lookup other = some entry) :
    entry.socket ≠ info.socket := by
  intro same
  exact different (represents.unique other listener info.socket
    (by rw [socketOf, foundOther, ← same]; rfl) (by rw [socketOf, found]; rfl) bound)

theorem board_setObject {object : Listener} :
    (core.updateListener listener fun info => { info with listener := object }).board =
      core.board.setObject listener object := by
  refine Switchboard.ext (funext fun asked => ?_) rfl
  rw [lines_board, updateListener, lookup_modify, Switchboard.setObject,
    Switchboard.lines_updateLine]
  split
  · rw [lines_board, Option.map_map, Option.map_map]
    rfl
  · rfl

/-- An update that changes the session of one line. -/
theorem board_setSession (socket : HSteamListenSocket) {session : Option Session}
    (found : core.listeners.lookup listener = some info)
    (lookups : ∀ other, next.listeners.lookup other =
      if other = listener then some { info with socket } else core.listeners.lookup other)
    (index : next.listenerHandlerIndex = core.listenerHandlerIndex)
    (own : next.sessionOf socket = session)
    (others : ∀ other entry, other ≠ listener → core.listeners.lookup other = some entry →
      next.sessionOf entry.socket = core.sessionOf entry.socket) :
    next.board = core.board.setSession listener session := by
  refine Switchboard.ext (funext fun asked => ?_) ?_
  · rw [lines_board, lookups, Switchboard.setSession, Switchboard.lines_updateLine]
    split
    next =>
      rw [lines_of_lookup found, Option.map_some, Option.map_some, ← own]
      rfl
    next different =>
      refine Option.map_congr fun entry member => ?_
      rw [lineOf, lineOf, others asked entry different member]
  · rw [board, index]
    rfl

theorem board_adoptSocket (represents : Represents created core) {handlers : SocketHandlers}
    (found : core.listeners.lookup listener = some info)
    (valid : handlers.socket ≠ hSteamListenSocketInvalid)
    (fresh : handlers.socket ∉ core.socketClientsMap) :
    (core.adoptSocket listener handlers).board = core.board.setSession listener
      (some { socket := handlers.socket, pollGroup := handlers.pollGroup }) := by
  have tables (key : HSteamListenSocket) :
      (core.adoptSocket listener handlers).socketClientsMap.lookup key =
        if key = handlers.socket then some { pollGroup := handlers.pollGroup }
        else core.socketClientsMap.lookup key := by
    rw [adoptSocket, lookup_emplace]
    simp [fresh]
  refine board_setSession handlers.socket found ?_ rfl ?_ ?_
  · intro other
    rw [adoptSocket, updateListener, lookup_modify, found]
    rfl
  · exact sessionOf_eq valid (by rw [tables, if_pos rfl])
  · intro other entry _ foundOther
    by_cases idle : entry.socket = hSteamListenSocketInvalid
    · rw [idle, sessionOf_invalid, sessionOf_invalid]
    obtain ⟨_, table⟩ := table_of_lookup represents foundOther idle
    have different : entry.socket ≠ handlers.socket := fun same =>
      fresh (mem_iff_lookup.mpr ⟨_, same ▸ table⟩)
    rw [sessionOf, sessionOf, tables, if_neg different]

theorem board_dropSocket (represents : Represents created core)
    (found : core.listeners.lookup listener = some info)
    (bound : info.socket ≠ hSteamListenSocketInvalid) (socketInfo : SocketInfo) :
    (core.dropSocket listener info.socket socketInfo).board =
      core.board.setSession listener none := by
  refine board_setSession hSteamListenSocketInvalid found ?_ rfl sessionOf_invalid ?_
  · intro other
    rw [dropSocket, updateListener, lookup_modify, found]
    rfl
  · intro other entry different foundOther
    rw [sessionOf, sessionOf, dropSocket, lookup_erase_eq_ite,
      if_neg (socket_ne_of_ne represents found bound different foundOther)]

theorem board_updateConnections (represents : Represents created core)
    {update : List Connections → List Connections}
    (found : core.listeners.lookup listener = some info) (stored : info.socket = socket)
    (valid : socket ≠ hSteamListenSocketInvalid)
    (table : core.socketClientsMap.lookup socket = some socketInfo) :
    (core.updateConnections socket update).board = core.board.setSession listener (some
      { socket, pollGroup := socketInfo.pollGroup,
        connections := flagsOf (update socketInfo.allConnections) }) := by
  subst stored
  refine board_setSession info.socket found ?_ rfl ?_ ?_
  · intro other
    split
    next same => rw [same, ← found]; rfl
    next => rfl
  · have updated : (core.updateConnections info.socket update).socketClientsMap.lookup
        info.socket =
        some { socketInfo with allConnections := update socketInfo.allConnections } := by
      rw [updateConnections, lookup_modify, if_pos rfl, table]
      rfl
    exact sessionOf_eq valid updated
  · intro other entry different foundOther
    rw [sessionOf, sessionOf, updateConnections, lookup_modify,
      if_neg (socket_ne_of_ne represents found valid different foundOther)]

theorem board_eraseListener :
    ({ core with listeners := core.listeners.erase listener } : NetworkManagerCore Listener).board =
      core.board.remove listener := by
  refine Switchboard.ext (funext fun asked => ?_) rfl
  rw [lines_board, lookup_erase_eq_ite, Switchboard.lines_remove]
  split
  · rfl
  · rfl

/-- The counter has not wrapped. -/
theorem toNat_index (represents : Represents created core) (few : created + 1 < 2 ^ 64) :
    core.listenerHandlerIndex.toNat = created + 1 := by
  rw [represents.index, UInt64.toNat_ofNat_of_lt' (by simpa using few)]

theorem board_createListener [IListener Listener] (represents : Represents created core)
    (few : created + 2 < 2 ^ 64) (name : Option CString) :
    ({ core with
        listeners := emplace core.listeners core.listenerHandlerIndex (newInfo name)
        listenerHandlerIndex := core.listenerHandlerIndex + 1 } :
      NetworkManagerCore Listener).board =
      core.board.install core.listenerHandlerIndex (newLine name) := by
  have unused := represents.index_unused (by omega)
  have index := toNat_index represents (by omega)
  refine Switchboard.ext (funext fun asked => ?_) (Set.ext fun asked => ?_)
  · rw [lines_board, lookup_emplace, Switchboard.lines_install]
    by_cases same : asked = core.listenerHandlerIndex
    · rw [if_pos ⟨same, unused⟩, if_pos same]
      cases name with
      | none => rfl
      | some name => rfl
    · rw [if_neg fun both => same both.1, if_neg same]
      rfl
  · have following : (core.listenerHandlerIndex + 1).toNat = created + 2 := by
      rw [UInt64.toNat_add, index]
      exact Nat.mod_eq_of_lt few
    change asked ≠ 0 ∧ asked < core.listenerHandlerIndex + 1 ↔
      asked = core.listenerHandlerIndex ∨ asked ≠ 0 ∧ asked < core.listenerHandlerIndex
    rw [UInt64.lt_iff_toNat_lt, UInt64.lt_iff_toNat_lt, following, index, ← UInt64.toNat_inj,
      index, ne_eq, ← UInt64.toNat_inj]
    change ¬ asked.toNat = 0 ∧ _ ↔ _ ∨ ¬ asked.toNat = 0 ∧ _
    omega

end Board

/-- A connection that reports that it is connecting is not held by its socket. -/
def FreshConnection {Listener : Type} (core : NetworkManagerCore Listener) :
    CoreOperation Listener → Prop
  | .callbackManager info _ _ =>
      info.state = .connecting → info.hConn ∉ (core.tableOf info.listenSocket).getD []
  | _ => True

/-- The counter does not wrap. -/
def CounterLasts {Listener : Type} (core : NetworkManagerCore Listener) :
    CoreOperation Listener → Prop
  | .createListener _ => core.listenerHandlerIndex + 1 ≠ 0
  | _ => True

/-- What Steam promises of an operation, and that the counter does not wrap. -/
structure SteamContract {Listener : Type} (core : NetworkManagerCore Listener)
    (operation : CoreOperation Listener) : Prop where
  freshSocket : FreshSocket core operation
  freshConnection : FreshConnection core operation
  counterLasts : CounterLasts core operation

section Decide

variable {Listener : Type} (core : NetworkManagerCore Listener)

instance : ∀ operation, Decidable (FreshSocket core operation)
  | .startListening _ _ (.ok _) _ => inferInstanceAs (Decidable (_ ∧ _))
  | .startListening _ _ (.error _) _ | .createListener _ | .destroyListener _
  | .stopListening _ | .tryPopReceivedMessageQueue _ | .pushOutgoingMessageQueue _ _
  | .tryPopErrorQueue _ | .connectionServed _ _ | .callbackManager _ _ _
  | .listenerChanges _ _ => isTrue trivial

instance : ∀ operation, Decidable (FreshConnection core operation)
  | .callbackManager _ _ _ => inferInstanceAs (Decidable (_ → _))
  | .startListening _ _ _ _ | .createListener _ | .destroyListener _
  | .stopListening _ | .tryPopReceivedMessageQueue _ | .pushOutgoingMessageQueue _ _
  | .tryPopErrorQueue _ | .connectionServed _ _ | .listenerChanges _ _ => isTrue trivial

instance : ∀ operation, Decidable (CounterLasts core operation)
  | .createListener _ => inferInstanceAs (Decidable (_ ≠ _))
  | .startListening _ _ _ _ | .callbackManager _ _ _ | .destroyListener _
  | .stopListening _ | .tryPopReceivedMessageQueue _ | .pushOutgoingMessageQueue _ _
  | .tryPopErrorQueue _ | .connectionServed _ _ | .listenerChanges _ _ => isTrue trivial

instance (operation : CoreOperation Listener) : Decidable (SteamContract core operation) :=
  decidable_of_iff
    (FreshSocket core operation ∧ FreshConnection core operation ∧ CounterLasts core operation)
    ⟨fun ⟨socket, connection, counter⟩ => ⟨socket, connection, counter⟩,
      fun ⟨socket, connection, counter⟩ => ⟨socket, connection, counter⟩⟩

end Decide

theorem FreshConnection.notInTable {Listener : Type} {core : NetworkManagerCore Listener}
    {info : SteamNetConnectionStatusChangedCallback} {accepted : EResult} {grouped : Bool}
    (fresh : FreshConnection core (.callbackManager info accepted grouped))
    (state : info.state = .connecting) : ¬ core.InTable info.listenSocket info.hConn := by
  rintro ⟨table, found, member⟩
  apply fresh state
  rw [found]
  exact member

/-- What every core keeps that has been used under the contract. -/
structure Lined {Listener : Type} (created : Nat) (core : NetworkManagerCore Listener) : Prop where
  represents : Represents created core
  few : created + 1 < 2 ^ 64
  apart : ∀ socket table, core.tableOf socket = some table → table.Nodup

/-- The switchboard can do what the core has done. -/
def Implements {Listener : Type} [IListener Listener] (core : NetworkManagerCore Listener)
    (operation : CoreOperation Listener) (outcome : Outcome)
    (next : NetworkManagerCore Listener) : Prop :=
  ∃ made, next.calls = core.calls ++ made ∧ Serves core.board operation outcome made next.board

namespace Lined

variable {Listener : Type} [IListener Listener] {core next : NetworkManagerCore Listener}
  {created : Nat} {listener : HListener} {result : Result Unit} (lined : Lined created core)
include lined

omit [IListener Listener] in
theorem few_of_lasts (lasts : core.listenerHandlerIndex + 1 ≠ 0) : created + 2 < 2 ^ 64 := by
  have bound := lined.few
  by_contra wraps
  refine lasts (UInt64.toNat_inj.mp ?_)
  rw [UInt64.toNat_add, toNat_index lined.represents bound]
  have full : created + 1 + (1 : UInt64).toNat = 2 ^ 64 := by
    change created + 1 + 1 = 2 ^ 64
    omega
  rw [full]
  rfl

theorem createListener {name : Option CString} {handler : HListener}
    (lasts : core.listenerHandlerIndex + 1 ≠ 0)
    (creates : core.createListener name = .ok (handler, next)) :
    Implements core (.createListener name) (.handle handler) next := by
  obtain ⟨unbound, rfl, rfl⟩ := createListener_eq_ok.mp creates
  have index := toNat_index lined.represents lined.few
  have few := lined.few_of_lasts lasts
  refine ⟨[], (List.append_nil _).symm, ?_⟩
  rw [board_createListener lined.represents few]
  refine .created ?_ fun issued => ?_
  · intro invalid
    rw [← UInt64.toNat_inj, index] at invalid
    exact absurd invalid (Nat.succ_ne_zero created)
  · exact UInt64.lt_irrefl _ issued.2

omit [IListener Listener] in
theorem lists {info : ListenerInfo Listener} {socketInfo : SocketInfo}
    (table : core.socketClientsMap.lookup info.socket = some socketInfo) :
    Session.Lists
      { socket := info.socket, pollGroup := socketInfo.pollGroup,
        connections := flagsOf socketInfo.allConnections }
      (socketInfo.allConnections.map Connections.connection) := by
  refine ⟨lined.apart info.socket _ (by rw [tableOf, table]; rfl), fun connection => ?_⟩
  rw [← any_isConnection, ← isSome_flagsOf]

theorem stopListening (stops : core.stopListening listener = .ok (result, next)) :
    Implements core (.stopListening listener) (.done result) next := by
  unfold NetworkManagerCore.stopListening at stops
  split at stops
  next err invalid =>
    cases stops
    have absent := lookup_of_invalid invalid
    rw [isValidListenerHandler, absent] at invalid
    cases invalid
    exact ⟨[], (List.append_nil _).symm, .unknown rfl (lines_of_absent absent)⟩
  next info valid =>
    have found := isValidListenerHandler_eq_ok.mp valid
    have line := lines_of_lookup found
    split at stops
    next idle =>
      cases stops
      exact ⟨[], (List.append_nil _).symm, .stopRefused line (quiet_lineOf idle)⟩
    next bound =>
      split at stops
      · cases stops
      next socketInfo table =>
        cases stops
        refine ⟨Session.closeCalls listener
          (socketInfo.allConnections.map Connections.connection), ?_, ?_⟩
        · simp [Session.closeCalls, NetworkManagerCore.record, dropSocket]
        · rw [board_record, board_dropSocket lined.represents found bound]
          exact .stopped line (session_lineOf bound table) (lined.lists table)

theorem destroyListener (destroys : core.destroyListener listener = .ok (result, next)) :
    Implements core (.destroyListener listener) (.done result) next := by
  unfold NetworkManagerCore.destroyListener at destroys
  split at destroys
  next err invalid =>
    cases destroys
    have absent := lookup_of_invalid invalid
    rw [isValidListenerHandler, absent] at invalid
    cases invalid
    exact ⟨[], (List.append_nil _).symm, .unknown rfl (lines_of_absent absent)⟩
  next info valid =>
    have found := isValidListenerHandler_eq_ok.mp valid
    have line := lines_of_lookup found
    cases stops : core.stopListening listener with
    | error fault =>
        rw [stops] at destroys
        cases destroys
    | ok stopped =>
        obtain ⟨inner, stopped⟩ := stopped
        rw [stops] at destroys
        cases destroys
        rcases stopListening_cases stops with ⟨_, rfl, idle⟩ |
          ⟨same, socketInfo, foundToo, bound, table, _, rfl⟩
        · refine ⟨[.destroy listener], rfl, ?_⟩
          rw [board_eraseListener, board_record]
          exact .destroyed line (quiet_lineOf (idle info found))
        · obtain rfl := Option.some.inj (found.symm.trans foundToo)
          refine ⟨Session.closeCalls listener
            (socketInfo.allConnections.map Connections.connection) ++ [.destroy listener], ?_, ?_⟩
          · simp [Session.closeCalls, NetworkManagerCore.record, dropSocket]
          · rw [board_eraseListener, board_record, board_record,
              board_dropSocket lined.represents found bound, Switchboard.remove_setSession]
            exact .hungUp line (session_lineOf bound table) (lined.lists table)

theorem startListening {port : UInt16} {initSocket : Result SocketHandlers}
    {started : Result Unit}
    (fresh : FreshSocket core (.startListening listener port initSocket started))
    (starts : core.startListening listener port initSocket started = (result, next)) :
    Implements core (.startListening listener port initSocket started) (.done result) next := by
  unfold NetworkManagerCore.startListening at starts
  split at starts
  next err invalid =>
    cases starts
    have absent := lookup_of_invalid invalid
    rw [isValidListenerHandler, absent] at invalid
    cases invalid
    exact ⟨[], (List.append_nil _).symm, .unknown rfl (lines_of_absent absent)⟩
  next info valid =>
    have found := isValidListenerHandler_eq_ok.mp valid
    have line := lines_of_lookup found
    split at starts
    next bound =>
      cases starts
      obtain ⟨socketInfo, table⟩ := table_of_lookup lined.represents found bound
      exact ⟨[], (List.append_nil _).symm, .startRefused line (session_lineOf bound table)⟩
    next idle =>
      have quiet : (core.lineOf info).session = none := quiet_lineOf (not_not.mp idle)
      cases initSocket with
      | error err =>
          cases starts
          exact ⟨[.initSocket listener port], rfl, .startFailed line quiet⟩
      | ok handlers =>
          obtain ⟨valid, unused⟩ := fresh
          have adopted : (((core.record (.initSocket listener port)).adoptSocket listener
              handlers).record (.startListening listener)).board = core.board.setSession listener
              (some { socket := handlers.socket, pollGroup := handlers.pollGroup }) :=
            board_adoptSocket (lined.represents.record _) found valid unused
          have served : Implements core
              (.startListening listener port (.ok handlers) started) (.done started)
              (((core.record (.initSocket listener port)).adoptSocket listener
                handlers).record (.startListening listener)) := by
            refine ⟨[.initSocket listener port, .startListening listener], ?_, ?_⟩
            · simp [NetworkManagerCore.record, adoptSocket, updateListener]
            · rw [adopted]
              exact .started line quiet
          cases started with
          | error err =>
              cases starts
              exact served
          | ok =>
              cases starts
              exact served

omit lined in
theorem tryPopReceivedMessageQueue {result : Result (Option Request)}
    (pops : core.tryPopReceivedMessageQueue listener = (result, next)) :
    Implements core (.tryPopReceivedMessageQueue listener) (.message result) next := by
  unfold NetworkManagerCore.tryPopReceivedMessageQueue at pops
  split at pops
  next err invalid =>
    cases pops
    have absent := lookup_of_invalid invalid
    rw [isValidListenerHandler, absent] at invalid
    cases invalid
    exact ⟨[], (List.append_nil _).symm, .unknown rfl (lines_of_absent absent)⟩
  next info valid =>
    cases pops
    have line := lines_of_lookup (isValidListenerHandler_eq_ok.mp valid)
    refine ⟨_, rfl, ?_⟩
    rw [board_record, board_setObject]
    exact .poppedReceived line

omit lined in
theorem tryPopErrorQueue {result : Result (Option ErrorValue)}
    (pops : core.tryPopErrorQueue listener = (result, next)) :
    Implements core (.tryPopErrorQueue listener) (.error result) next := by
  unfold NetworkManagerCore.tryPopErrorQueue at pops
  split at pops
  next err invalid =>
    cases pops
    have absent := lookup_of_invalid invalid
    rw [isValidListenerHandler, absent] at invalid
    cases invalid
    exact ⟨[], (List.append_nil _).symm, .unknown rfl (lines_of_absent absent)⟩
  next info valid =>
    cases pops
    have line := lines_of_lookup (isValidListenerHandler_eq_ok.mp valid)
    refine ⟨_, rfl, ?_⟩
    rw [board_record, board_setObject]
    exact .poppedError line

omit lined in
theorem pushOutgoingMessageQueue {message : Request}
    (pushes : core.pushOutgoingMessageQueue listener message = .ok (result, next)) :
    Implements core (.pushOutgoingMessageQueue listener message) (.done result) next := by
  unfold NetworkManagerCore.pushOutgoingMessageQueue at pushes
  split at pushes
  next err invalid =>
    cases pushes
    have absent := lookup_of_invalid invalid
    rw [isValidListenerHandler, absent] at invalid
    cases invalid
    exact ⟨[], (List.append_nil _).symm, .unknown rfl (lines_of_absent absent)⟩
  next info valid =>
    have found := isValidListenerHandler_eq_ok.mp valid
    have line := lines_of_lookup found
    split at pushes
    next idle =>
      cases pushes
      exact ⟨[], (List.append_nil _).symm, .pushRefused line (quiet_lineOf idle)⟩
    next bound =>
      split at pushes
      · cases pushes
      next socketInfo table =>
        have session := session_lineOf bound table
        split at pushes
        next present =>
          cases pushes
          obtain ⟨flag, held⟩ := Option.isSome_iff_exists.mp (isSome_flagsOf.trans present)
          have queued : (core.updateListener listener fun info => { info with
              listener := IListener.pushOutgoing info.listener message }).board =
              core.board.setObject listener (IListener.pushOutgoing info.listener message) := by
            rw [← board_setObject]
            simp only [updateListener, UnorderedMap.modify, found]
          refine ⟨_, rfl, ?_⟩
          rw [board_record, queued]
          exact .pushed line session held
        next absent =>
          cases pushes
          rw [← isSome_flagsOf, Option.not_isSome_iff_eq_none] at absent
          exact ⟨[], (List.append_nil _).symm, .pushUnconnected line session absent⟩

omit [IListener Listener] in
/-- A table of the core is the session of a line. -/
theorem session {socket : HSteamListenSocket} {socketInfo : SocketInfo}
    (table : core.socketClientsMap.lookup socket = some socketInfo) :
    ∃ listener info, core.listeners.lookup listener = some info ∧ info.socket = socket ∧
      socket ≠ hSteamListenSocketInvalid ∧
      (core.lineOf info).IsOn
        { socket, pollGroup := socketInfo.pollGroup,
          connections := flagsOf socketInfo.allConnections } socket := by
  obtain ⟨valid, listener, info, found, rfl⟩ := lookup_of_table lined.represents table
  exact ⟨listener, info, found, rfl, valid, session_lineOf valid table, rfl⟩

theorem connectionServed {socket : HSteamListenSocket} {connection : HSteamNetConnection}
    (serves : core.connectionServed socket connection = .ok next) :
    Implements core (.connectionServed socket connection) .nothing next := by
  obtain ⟨socketInfo, table, present, rfl⟩ := connectionServed_eq_ok.mp serves
  obtain ⟨listener, info, found, stored, valid, isOn⟩ := lined.session table
  obtain ⟨flag, held⟩ := Option.isSome_iff_exists.mp (isSome_flagsOf.trans present)
  refine ⟨[], (List.append_nil _).symm, ?_⟩
  rw [board_updateConnections lined.represents found stored valid table,
    flagsOf_replaceF present]
  exact .served (lines_of_lookup found) isOn held

theorem connecting {info : SteamNetConnectionStatusChangedCallback} {accepted : EResult}
    {grouped : Bool} (state : info.state = .connecting)
    (fresh : ¬ core.InTable info.listenSocket info.hConn)
    (connects : core.connecting info accepted grouped = .ok next) :
    Implements core (.callbackManager info accepted grouped) .nothing next := by
  cases connectingStep_of_connecting connects with
  | refused refused =>
      refine ⟨_, ?_, .turnedAway state refused⟩
      simp [NetworkManagerCore.record]
  | ungrouped table =>
      obtain ⟨listener, entry, found, _, _, isOn⟩ := lined.session table
      refine ⟨_, ?_, .ungrouped state (lines_of_lookup found) isOn⟩
      simp [NetworkManagerCore.record]
  | @entered socketInfo table =>
      obtain ⟨listener, entry, found, stored, valid, isOn⟩ := lined.session table
      have absent : info.hConn ∉ socketInfo.allConnections.map Connections.connection :=
        fun member => fresh ⟨_, by rw [tableOf, table]; rfl, member⟩
      refine ⟨[.adapter (.acceptConnection info.hConn),
        .adapter (.setConnectionPollGroup info.hConn socketInfo.pollGroup)], ?_, ?_⟩
      · simp [NetworkManagerCore.record, updateConnections]
      · rw [board_updateConnections ((lined.represents.record _).record _) found stored valid
          table, flagsOf_concat absent]
        exact .connected state (lines_of_lookup found) isOn

theorem disconnected {info : SteamNetConnectionStatusChangedCallback} {accepted : EResult}
    {grouped : Bool} (state : info.state = .closedByPeer ∨ info.state = .problemDetectedLocally)
    (disconnects : core.disconnected info = .ok next) :
    Implements core (.callbackManager info accepted grouped) .nothing next := by
  obtain ⟨oldState, socketInfo, table, present, rfl⟩ := disconnected_eq_ok.mp disconnects
  obtain ⟨listener, entry, found, stored, valid, isOn⟩ := lined.session table
  obtain ⟨flag, held⟩ := Option.isSome_iff_exists.mp (isSome_flagsOf.trans present)
  have nodup := lined.apart info.listenSocket _ (by rw [tableOf, table]; rfl)
  refine ⟨[.adapter (.closeConnection info.hConn 0)], rfl, ?_⟩
  rw [board_record, board_updateConnections lined.represents found stored valid table,
    flagsOf_eraseP nodup]
  exact .disconnected state oldState (lines_of_lookup found) isOn held

theorem callbackManager {info : SteamNetConnectionStatusChangedCallback} {accepted : EResult}
    {grouped : Bool}
    (fresh : info.state = .connecting → ¬ core.InTable info.listenSocket info.hConn)
    (changes : core.callbackManager info accepted grouped = .ok next) :
    Implements core (.callbackManager info accepted grouped) .nothing next := by
  unfold NetworkManagerCore.callbackManager at changes
  cases state : info.state with
  | connecting =>
      rw [state] at changes
      exact lined.connecting state (fresh state) changes
  | problemDetectedLocally =>
      rw [state] at changes
      exact lined.disconnected (Or.inr state) changes
  | closedByPeer =>
      rw [state] at changes
      exact lined.disconnected (Or.inl state) changes
  | _ =>
      rw [state] at changes
      cases changes
      refine ⟨[], (List.append_nil _).symm, .ignored ?_⟩
      rw [state]
      exact ⟨nofun, nofun, nofun⟩

/-- Every operation that comes back does what the switchboard may do. -/
theorem implements {operation : CoreOperation Listener} {outcome : Outcome}
    (contract : SteamContract core operation)
    (performs : operation.perform core = .ok (outcome, next)) :
    Implements core operation outcome next := by
  cases operationStep_of_perform performs with
  | createListener creates => exact lined.createListener contract.counterLasts creates
  | destroyListener destroys => exact lined.destroyListener destroys
  | startListening starts => exact lined.startListening contract.freshSocket starts
  | stopListening stops => exact lined.stopListening stops
  | tryPopReceivedMessageQueue pops => exact tryPopReceivedMessageQueue pops
  | pushOutgoingMessageQueue pushes => exact pushOutgoingMessageQueue pushes
  | tryPopErrorQueue pops => exact tryPopErrorQueue pops
  | connectionServed serves => exact lined.connectionServed serves
  | callbackManager changes =>
      exact lined.callbackManager contract.freshConnection.notInTable changes
  | listenerChanges =>
      refine ⟨[], (List.append_nil _).symm, ?_⟩
      rw [board_setObject]
      exact .changed

/-- Each operation keeps what a core keeps under the contract. -/
theorem perform {operation : CoreOperation Listener} {outcome : Outcome}
    (contract : SteamContract core operation)
    (performs : operation.perform core = .ok (outcome, next)) :
    Lined (created + creations [operation]) next := by
  have few : created + creations [operation] + 1 < 2 ^ 64 := by
    have bound := lined.few
    cases operation with
    | createListener name => exact lined.few_of_lasts contract.counterLasts
    | _ => exact bound
  have represents := (perform_represents lined.represents (by omega) contract.freshSocket).1
  rw [performs] at represents
  refine ⟨represents, few, fun socket table tabled => ?_⟩
  cases callback : operation.isCallback with
  | false =>
      rw [tableOf_perform callback performs] at tabled
      split at tabled
      · cases tabled
      split at tabled
      · cases tabled
        exact List.nodup_nil
      · exact lined.apart socket table tabled
  | true =>
      cases operationStep_of_perform performs with
      | callbackManager changes =>
          rcases callbackManager_cases changes with rfl | ⟨state, connects⟩ | ⟨_, disconnects⟩
          · exact lined.apart socket table tabled
          · rw [tableOf_of_connecting connects] at tabled
            split at tabled
            next entered =>
              obtain ⟨before, tabledBefore, rfl⟩ := Option.map_eq_some_iff.mp tabled
              rw [← List.concat_eq_append, List.nodup_concat]
              refine ⟨fun member => ?_, lined.apart socket before tabledBefore⟩
              exact contract.freshConnection.notInTable state
                ⟨before, entered.2.2 ▸ tabledBefore, member⟩
            next => exact lined.apart socket table tabled
          · rw [tableOf_of_disconnected disconnects] at tabled
            split at tabled
            next =>
              obtain ⟨before, tabledBefore, rfl⟩ := Option.map_eq_some_iff.mp tabled
              exact (lined.apart socket before tabledBefore).erase _
            next => exact lined.apart socket table tabled
      | _ => cases callback

omit [IListener Listener] in
/-- The session of a line is the table of its socket. -/
theorem table_of_isOn {line : Line Listener} {session : Session}
    {socket : HSteamListenSocket} (found : core.board.lines listener = some line)
    (isOn : line.IsOn session socket) :
    ∃ socketInfo, core.socketClientsMap.lookup socket = some socketInfo ∧
      session.connections = flagsOf socketInfo.allConnections := by
  obtain ⟨info, stored, rfl⟩ := Option.map_eq_some_iff.mp found
  obtain ⟨listening, rfl⟩ := isOn
  by_cases idle : info.socket = hSteamListenSocketInvalid
  · cases (quiet_lineOf idle).symm.trans listening
  · obtain ⟨socketInfo, table⟩ := table_of_lookup lined.represents stored idle
    obtain rfl := Option.some.inj ((session_lineOf idle table).symm.trans listening)
    exact ⟨socketInfo, table, rfl⟩

omit [IListener Listener] in
theorem any_of_isOn {line : Line Listener} {session : Session}
    {socket : HSteamListenSocket} {connection : HSteamNetConnection} {flag : Bool}
    (found : core.board.lines listener = some line) (isOn : line.IsOn session socket)
    (held : session.connections connection = some flag) :
    ∃ socketInfo, core.socketClientsMap.lookup socket = some socketInfo ∧
      socketInfo.allConnections.any (isConnection connection) = true := by
  obtain ⟨socketInfo, table, flags⟩ := lined.table_of_isOn found isOn
  refine ⟨socketInfo, table, ?_⟩
  rw [← isSome_flagsOf, ← flags, held]
  rfl

/-- Where the switchboard may do something, the core fails no assert. -/
theorem performs_of_serves {operation : CoreOperation Listener} {outcome : Outcome}
    {made : List CoreCall} {after : Switchboard Listener}
    (serves : Serves core.board operation outcome made after) :
    ∃ outcome next, operation.perform core = .ok (outcome, next) := by
  cases operation with
  | createListener name =>
      obtain ⟨next, creates, _⟩ :=
        lined.represents.createListener lined.few name
      exact ⟨_, next, by rw [CoreOperation.perform, creates]; rfl⟩
  | destroyListener listener =>
      obtain ⟨result, next, destroys, _⟩ := lined.represents.destroyListener listener
      exact ⟨_, next, by rw [CoreOperation.perform, destroys]; rfl⟩
  | startListening | tryPopReceivedMessageQueue | tryPopErrorQueue | listenerChanges =>
      exact ⟨_, _, rfl⟩
  | stopListening listener =>
      obtain ⟨result, next, stops, _⟩ := lined.represents.stopListening listener
      exact ⟨_, next, by rw [CoreOperation.perform, stops]; rfl⟩
  | pushOutgoingMessageQueue listener message =>
      obtain ⟨result, next, pushes, _⟩ :=
        lined.represents.pushOutgoingMessageQueue listener message
      exact ⟨_, next, by rw [CoreOperation.perform, pushes]; rfl⟩
  | connectionServed socket connection =>
      cases serves with
      | unknown target => cases target
      | served found isOn held =>
          obtain ⟨socketInfo, table, present⟩ := lined.any_of_isOn found isOn held
          have serves := connectionServed_eq_ok.mpr ⟨socketInfo, table, present, rfl⟩
          exact ⟨_, _, by rw [CoreOperation.perform, serves]; rfl⟩
  | callbackManager info accepted grouped =>
      have comes (changes : ∃ next, core.callbackManager info accepted grouped = .ok next) :
          ∃ outcome next, (CoreOperation.callbackManager info accepted grouped).perform core =
            .ok (outcome, next) := by
        obtain ⟨next, changes⟩ := changes
        exact ⟨_, next, by rw [CoreOperation.perform, changes]; rfl⟩
      have connects (state : info.state = .connecting)
          (present : accepted = .ok → info.listenSocket ∈ core.socketClientsMap) :
          ∃ next, core.callbackManager info accepted grouped = .ok next := by
        obtain ⟨next, connects, _⟩ := tableOf_connecting info accepted grouped present
        exact ⟨next, by rw [NetworkManagerCore.callbackManager, state]; exact connects⟩
      cases serves with
      | unknown target => cases target
      | ignored state =>
          refine comes ⟨core, ?_⟩
          unfold NetworkManagerCore.callbackManager
          split
          · rfl
          next connecting => exact absurd connecting state.1
          · rfl
          next problem => exact absurd problem state.2.2
          next closed => exact absurd closed state.2.1
          · rfl
      | turnedAway state refused =>
          exact comes (connects state fun accepted => absurd accepted refused)
      | ungrouped state found isOn | connected state found isOn =>
          obtain ⟨socketInfo, table, _⟩ := lined.table_of_isOn found isOn
          exact comes (connects state fun _ => mem_iff_lookup.mpr ⟨socketInfo, table⟩)
      | disconnected state oldState found isOn held =>
          obtain ⟨socketInfo, table, present⟩ := lined.any_of_isOn found isOn held
          have disconnects := disconnected_eq_ok.mpr ⟨oldState, socketInfo, table, present, rfl⟩
          have changes : core.callbackManager info accepted grouped = core.disconnected info := by
            rw [NetworkManagerCore.callbackManager]
            rcases state with closed | problem
            · rw [closed]
            · rw [problem]
          exact comes ⟨_, changes.trans disconnects⟩

/-- The core comes to an assert exactly where the switchboard has nothing that it may do. -/
theorem fault_iff {operation : CoreOperation Listener}
    (contract : SteamContract core operation) :
    (∃ fault, operation.perform core = .error fault) ↔
      ∀ outcome made after, ¬ Serves core.board operation outcome made after := by
  constructor
  · rintro ⟨fault, fails⟩ outcome made after serves
    obtain ⟨_, _, performs⟩ := lined.performs_of_serves serves
    cases fails.symm.trans performs
  · intro nothing
    cases performs : operation.perform core with
    | error fault => exact ⟨fault, rfl⟩
    | ok result =>
        obtain ⟨made, _, serves⟩ := lined.implements contract performs
        exact absurd serves (nothing _ made _)

end Lined

section Runs

variable {Listener : Type} [IListener Listener] {core : NetworkManagerCore Listener}
  {operations : List (CoreOperation Listener)}

def InContract : Except Fault (NetworkManagerCore Listener) → CoreOperation Listener → Prop
  | .ok core, operation => SteamContract core operation
  | .error _, _ => True

instance : ∀ (state : Except Fault (NetworkManagerCore Listener)) operation,
    Decidable (InContract state operation)
  | .ok core, operation => inferInstanceAs (Decidable (SteamContract core operation))
  | .error _, _ => isTrue trivial

/-- What can be seen of a step. -/
def exchanges : Except Fault (NetworkManagerCore Listener) → CoreOperation Listener →
    List (Exchange Listener)
  | .ok core, operation =>
      match operation.perform core with
      | .ok (outcome, next) => [⟨operation, outcome, next.calls.drop core.calls.length⟩]
      | .error _ => []
  | .error _, _ => []

variable (Listener) in
omit [IListener Listener] in
theorem board_empty : ({} : NetworkManagerCore Listener).board = {} := by
  refine Switchboard.ext rfl (Set.eq_empty_of_forall_notMem fun listener issued => issued.1 ?_)
  have less := UInt64.lt_iff_toNat_lt.mp issued.2
  exact UInt64.toNat_inj.mp (Nat.lt_one_iff.mp less)

theorem lined_of_reachable
    (reaches : (coreSystem Listener).ReachableWhere InContract (.ok core)) :
    ∃ created, Lined created core := by
  refine reaches.invariant (fun state => ∀ core, state = .ok core → ∃ created, Lined created core)
    ?_ ?_ core rfl
  · rintro state rfl core starts
    cases starts
    refine ⟨0, .initial, by decide, fun socket table tabled => ?_⟩
    simp [tableOf] at tabled
  · rintro state operation next _ lined contract steps core rfl
    cases state with
    | error fault => cases steps
    | ok before =>
        obtain ⟨created, kept⟩ := lined before rfl
        obtain ⟨⟨outcome, _⟩, performs, rfl⟩ := map_eq_ok_iff.mp (Option.some.inj steps)
        exact ⟨_, kept.perform contract performs⟩

variable (Listener) in
/-- The state of the core is its switchboard, until an assert ends the process. -/
def switchboardSimulation : Specification.ForwardSimulation (coreSystem Listener)
    (switchboard Listener) InContract where
  Related state board := ∀ core, state = .ok core → board = core.board
  events := exchanges
  initial := by
    rintro state rfl
    exact ⟨_, rfl, fun core starts => by cases starts; exact (board_empty Listener).symm⟩
  simulates := by
    intro state operation next image reaches contract steps related
    cases state with
    | error fault => cases steps
    | ok core =>
        obtain rfl := related core rfl
        obtain ⟨created, lined⟩ := lined_of_reachable reaches
        obtain rfl := Option.some.inj steps
        cases performs : operation.perform core with
        | error fault =>
            refine ⟨core.board, ?_, nofun⟩
            rw [exchanges, performs]
            exact .refl
        | ok result =>
            obtain ⟨made, calls, serves⟩ := lined.implements contract performs
            refine ⟨result.2.board, ?_, fun next ends => by cases ends; rfl⟩
            rw [exchanges, performs]
            dsimp only
            rw [calls, List.drop_left]
            exact .single serves

/-- A run shows each of its operations, with the calls that it makes. -/
theorem shown_of_steps
    (steps : (coreSystem Listener).StepsWhere InContract (.ok {}) operations (.ok core)) :
    (((coreSystem Listener).trace (.ok {}) operations).flatMap
        fun step => exchanges step.1 step.2).map Exchange.operation = operations ∧
      (((coreSystem Listener).trace (.ok {}) operations).flatMap
        fun step => exchanges step.1 step.2).flatMap Exchange.calls = core.calls := by
  refine steps.invariant (fun operations state => ∀ core, state = .ok core →
    (((coreSystem Listener).trace (.ok {}) operations).flatMap
        fun step => exchanges step.1 step.2).map Exchange.operation = operations ∧
      (((coreSystem Listener).trace (.ok {}) operations).flatMap
        fun step => exchanges step.1 step.2).flatMap Exchange.calls = core.calls) ?_ ?_ core rfl
  · rintro core ⟨⟩
    exact ⟨rfl, rfl⟩
  · rintro operations state operation next before shown contract moves core rfl
    cases state with
    | error fault => cases moves
    | ok middle =>
        obtain ⟨whole, calls⟩ := shown middle rfl
        obtain ⟨created, lined⟩ := lined_of_reachable ⟨_, _, rfl, before⟩
        obtain ⟨⟨outcome, _⟩, performs, rfl⟩ := map_eq_ok_iff.mp (Option.some.inj moves)
        obtain ⟨made, grown, _⟩ := lined.implements contract performs
        have last : exchanges (.ok middle) operation = [⟨operation, outcome, made⟩] := by
          rw [exchanges, performs]
          dsimp only
          rw [grown, List.drop_left]
        rw [before.trace_concat, List.flatMap_append, List.flatMap_singleton, last,
          List.map_append, List.flatMap_append, whole, calls, List.map_singleton,
          List.flatMap_singleton, grown]
        exact ⟨rfl, rfl⟩

/-- Under Steam's contract the core is a switchboard in every run: some run of the switchboard
has the same operations, each with what the core returned and the calls it made, and leads
to the lines of the core; and the core comes to an assert exactly where the switchboard has
nothing that it may do. -/
theorem core_implements_switchboard
    (steps : (coreSystem Listener).StepsWhere InContract (.ok {}) operations (.ok core)) :
    ∃ shown, (switchboard Listener).Runs {} shown core.board ∧
      shown = ((coreSystem Listener).trace (.ok {}) operations).flatMap
        (fun step => exchanges step.1 step.2) ∧
      shown.map Exchange.operation = operations ∧
      shown.flatMap Exchange.calls = core.calls ∧
      ∀ operation, SteamContract core operation →
        ((∃ fault, operation.perform core = .error fault) ↔
          ∀ outcome made after, ¬ Serves core.board operation outcome made after) := by
  obtain ⟨board, runs, related⟩ := (switchboardSimulation Listener).implements rfl
    (fun start starts => by cases starts; exact (board_empty Listener).symm) steps
  obtain rfl := related core rfl
  obtain ⟨created, lined⟩ := lined_of_reachable ⟨_, _, rfl, steps⟩
  obtain ⟨whole, calls⟩ := shown_of_steps steps
  exact ⟨_, runs, rfl, whole, calls, fun operation contract => lined.fault_iff contract⟩

end Runs

/-- A listener is created and started, a connection comes and is answered, and the listener
is stopped. -/
def conversation : List (CoreOperation ListenerQueues) :=
  [.createListener none, .startListening 1 80 (.ok ⟨5, 6⟩) (.ok ()),
    .callbackManager ⟨7, 5, .connecting, .none⟩ .ok true,
    .pushOutgoingMessageQueue 1 ⟨7, [72]⟩, .connectionServed 5 7, .stopListening 1]

theorem core_implements_switchboard_conversation :
    ∃ core : NetworkManagerCore ListenerQueues, ∃ shown,
      (switchboard ListenerQueues).Runs {} shown core.board ∧
      shown.map Exchange.operation = conversation ∧
      shown.flatMap Exchange.calls = core.calls ∧ core.board.lines 1 ≠ none := by
  have steps : (coreSystem ListenerQueues).StepsWhere InContract (.ok {}) conversation (.ok _) :=
    TransitionSystem.runWhere_eq_some_iff.mp rfl
  obtain ⟨shown, runs, _, whole, calls, _⟩ := core_implements_switchboard steps
  exact ⟨_, shown, runs, whole, calls, nofun⟩

end HttpServer
