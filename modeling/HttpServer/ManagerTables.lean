import HttpServer.ManagerEntries

/-!
# The tables while listeners come and go

What a step of the manager with its listeners does to the connection tables: one is
opened when `startListening` has a socket, and dropped by a stop, and connections
enter and leave it by status changes.
-/

namespace HttpServer

open UnorderedMap Listener ManagerWorld

namespace NetworkManagerCore

variable {core next : NetworkManagerCore Listener} {socket : HSteamListenSocket}
  {connection : HSteamNetConnection}

/-- The poll group of a socket, if there is a table for it. -/
def pollGroupOf (core : NetworkManagerCore Listener) (socket : HSteamListenSocket) :
    Option HSteamNetPollGroup :=
  (core.socketClientsMap.lookup socket).map SocketInfo.pollGroup

theorem pollGroupOf_of_same (same : next.socketClientsMap = core.socketClientsMap) :
    next.pollGroupOf socket = core.pollGroupOf socket := by
  rw [pollGroupOf, pollGroupOf, same]

theorem pollGroupOf_updateConnections {target : HSteamListenSocket}
    {update : List Connections → List Connections} :
    (core.updateConnections target update).pollGroupOf socket = core.pollGroupOf socket := by
  simp only [pollGroupOf, updateConnections, lookup_modify]
  split
  next same =>
    subst same
    simp [Option.map_map, Function.comp_def]
  · rfl

theorem pollGroupOf_connectionServed {served : HSteamListenSocket}
    (serves : core.connectionServed served connection = .ok next) :
    next.pollGroupOf socket = core.pollGroupOf socket := by
  obtain ⟨_, _, _, rfl⟩ := connectionServed_eq_ok.mp serves
  exact pollGroupOf_updateConnections

theorem pollGroupOf_callbackManager {info : SteamNetConnectionStatusChangedCallback}
    {accepted : EResult} {grouped : Bool}
    (delivers : core.callbackManager info accepted grouped = .ok next) :
    next.pollGroupOf socket = core.pollGroupOf socket := by
  rcases callbackManager_cases delivers with rfl | ⟨_, connects⟩ | ⟨_, disconnects⟩
  · rfl
  · cases connectingStep_of_connecting connects with
    | refused | ungrouped => rfl
    | entered => exact pollGroupOf_updateConnections
  · obtain ⟨_, _, _, _, rfl⟩ := disconnected_eq_ok.mp disconnects
    exact pollGroupOf_updateConnections

theorem socketClientsMap_tryPopReceived (core : NetworkManagerCore Listener)
    (listener : HListener) :
    (core.tryPopReceivedMessageQueue listener).2.socketClientsMap = core.socketClientsMap := by
  unfold tryPopReceivedMessageQueue
  split
  · rfl
  · rfl

theorem socketClientsMap_tryPopError (core : NetworkManagerCore Listener)
    (listener : HListener) :
    (core.tryPopErrorQueue listener).2.socketClientsMap = core.socketClientsMap := by
  unfold tryPopErrorQueue
  split
  · rfl
  · rfl

theorem inTable_of_same (same : next.socketClientsMap = core.socketClientsMap)
    (inTable : core.InTable socket connection) : next.InTable socket connection := by
  unfold InTable tableOf at inTable ⊢
  rw [same]
  exact inTable

theorem inTable_adoptSocket (listener : HListener) (handlers : SocketHandlers)
    (inTable : core.InTable socket connection) :
    (core.adoptSocket listener handlers).InTable socket connection := by
  obtain ⟨table, found, member⟩ := inTable
  refine ⟨table, ?_, member⟩
  rw [tableOf_adoptSocket, if_neg]
  · exact found
  · rintro ⟨rfl, absent⟩
    exact absent (mem_socketClientsMap_iff.mpr ⟨table, found⟩)

theorem inTable_dropSocket {dropped : HSteamListenSocket} (listener : HListener)
    (socketInfo : SocketInfo) (inTable : core.InTable socket connection)
    (other : socket ≠ dropped) :
    (core.dropSocket listener dropped socketInfo).InTable socket connection := by
  obtain ⟨table, found, member⟩ := inTable
  refine ⟨table, ?_, member⟩
  rw [tableOf_dropSocket, if_neg other]
  exact found

theorem inTable_connectionServed {served : HSteamListenSocket}
    {servedConnection : HSteamNetConnection}
    (serves : core.connectionServed served servedConnection = .ok next)
    (inTable : core.InTable socket connection) : next.InTable socket connection := by
  obtain ⟨table, found, member⟩ := inTable
  exact ⟨table, (tableOf_connectionServed serves).trans found, member⟩

/-- Only the connection of a disconnect leaves its table. -/
theorem inTable_callbackManager {info : SteamNetConnectionStatusChangedCallback}
    {accepted : EResult} {grouped : Bool}
    (delivers : core.callbackManager info accepted grouped = .ok next)
    (inTable : core.InTable socket connection)
    (other : info.state = .problemDetectedLocally ∨ info.state = .closedByPeer →
      socket ≠ info.listenSocket ∨ connection ≠ info.hConn) :
    next.InTable socket connection := by
  rcases callbackManager_cases delivers with rfl | ⟨_, connects⟩ | ⟨state, disconnects⟩
  · exact inTable
  · obtain ⟨table, found, member⟩ := inTable
    have tables := tableOf_of_connecting connects socket
    split at tables
    next entered =>
      refine ⟨table ++ [info.hConn], ?_, List.mem_append_left _ member⟩
      rw [tables, found]
      rfl
    next => exact ⟨table, tables.trans found, member⟩
  · obtain ⟨table, found, member⟩ := inTable
    have tables := tableOf_of_disconnected disconnects socket
    split at tables
    next same =>
      refine ⟨table.erase info.hConn, ?_, ?_⟩
      · rw [tables, found]
        rfl
      · exact (List.mem_erase_of_ne ((other state).resolve_left (not_not.mpr same))).mpr member
    next => exact ⟨table, tables.trans found, member⟩

end NetworkManagerCore

/-- The status change that an action delivers. -/
def ManagerAction.event? : ManagerAction → Option SteamNetConnectionStatusChangedCallback
  | runCallback info _ _ => some info
  | _ => none

open NetworkManagerCore

/-- What a step that makes the step `acted` of an entry and delivers `event` does to the
tables. -/
inductive TableChange (world next : ManagerWorld) (acted : Option (HListener × EntryAction))
    (event : Option SteamNetConnectionStatusChangedCallback) : Prop where
  | same (tables : next.core.socketClientsMap = world.core.socketClientsMap)
      (noStop : ∀ listener info, acted = some (listener, .beginStop) →
        world.core.listeners.lookup listener = some info →
        info.socket = hSteamListenSocketInvalid)
  | opened {listener : HListener} {info : ListenerInfo Listener} {handlers : SocketHandlers}
      (acts : acted = some (listener, .adopt))
      (found : world.core.listeners.lookup listener = some info)
      (call : info.listener.call = .initReturned (.ok handlers))
      (stored : next.core.socketOf listener = some handlers.socket)
      (tables : next.core.socketClientsMap = emplace world.core.socketClientsMap handlers.socket
        { pollGroup := handlers.pollGroup })
  | dropped {listener : HListener} {info : ListenerInfo Listener}
      (acts : acted = some (listener, .beginStop))
      (found : world.core.listeners.lookup listener = some info)
      (bound : info.socket ≠ hSteamListenSocketInvalid)
      (tables : next.core.socketClientsMap = world.core.socketClientsMap.erase info.socket)
  | served {socket : HSteamListenSocket} {connection : HSteamNetConnection} (none : acted = none)
      (serves : world.core.connectionServed socket connection = .ok next.core)
  | delivered {info : SteamNetConnectionStatusChangedCallback} {accepted : EResult}
      {grouped : Bool} (none : acted = none) (delivers : event = some info)
      (changes : world.core.callbackManager info accepted grouped = .ok next.core)

/-- No table changes, and nothing is stopped. -/
theorem TableChange.quiet {world next : ManagerWorld} {acted : Option (HListener × EntryAction)}
    {event : Option SteamNetConnectionStatusChangedCallback}
    (tables : next.core.socketClientsMap = world.core.socketClientsMap)
    (noStop : ∀ listener, acted ≠ some (listener, .beginStop)) :
    TableChange world next acted event :=
  .same tables fun listener _ acts => absurd acts (noStop listener)

namespace TableChange

variable {world next : ManagerWorld} {acted : Option (HListener × EntryAction)}
  {event : Option SteamNetConnectionStatusChangedCallback} {socket : HSteamListenSocket}

/-- A connection leaves its table when it is closed, and when the listener of its socket
begins to stop. -/
theorem inTable (change : TableChange world next acted event) {connection : HSteamNetConnection}
    (present : world.core.InTable socket connection)
    (noStop : ∀ listener info, acted = some (listener, .beginStop) →
      world.core.listeners.lookup listener = some info → socket ≠ info.socket)
    (notClosed : ∀ info, event = some info →
      info.state = .problemDetectedLocally ∨ info.state = .closedByPeer →
      connection ≠ info.hConn) : next.core.InTable socket connection := by
  cases change with
  | same tables => exact inTable_of_same tables present
  | @opened listener _ handlers _ _ _ _ tables =>
      have opened := inTable_adoptSocket listener handlers present
      exact inTable_of_same tables opened
  | @dropped listener info acts found _ tables =>
      obtain ⟨table, same, member⟩ := present
      refine ⟨table, ?_, member⟩
      rw [tableOf, tables, AList.lookup_erase_ne (noStop listener info acts found)]
      exact same
  | served _ serves => exact inTable_connectionServed serves present
  | @delivered info _ _ _ delivers changes =>
      exact inTable_callbackManager changes present fun closes =>
        Or.inr (notClosed info delivers closes)

/-- A table is new, or was there with the same poll group and is not of a socket whose
listener begins to stop. -/
theorem pollGroupOf (change : TableChange world next acted event)
    {pollGroup : HSteamNetPollGroup}
    (found : next.core.pollGroupOf socket = some pollGroup) :
    (world.core.pollGroupOf socket = some pollGroup ∧
      ∀ listener info, acted = some (listener, .beginStop) →
        world.core.listeners.lookup listener = some info →
        info.socket ≠ hSteamListenSocketInvalid → socket ≠ info.socket) ∨
      ∃ listener info handlers, acted = some (listener, .adopt) ∧
        world.core.listeners.lookup listener = some info ∧
        info.listener.call = .initReturned (.ok handlers) ∧
        next.core.socketOf listener = some handlers.socket ∧ socket = handlers.socket ∧
        pollGroup = handlers.pollGroup := by
  cases change with
  | same tables noStop =>
      rw [pollGroupOf_of_same tables] at found
      exact Or.inl ⟨found, fun listener info acts foundInfo bound =>
        absurd (noStop listener info acts foundInfo) bound⟩
  | @opened listener info handlers acts foundInfo call stored tables =>
      rw [NetworkManagerCore.pollGroupOf, tables, lookup_emplace] at found
      split at found
      next fresh =>
        obtain rfl : handlers.pollGroup = pollGroup := by simpa using found
        exact Or.inr ⟨listener, info, handlers, acts, foundInfo, call, stored, fresh.1, rfl⟩
      · refine Or.inl ⟨found, ?_⟩
        rintro other _ stops
        cases acts.symm.trans stops
  | @dropped listener info acts foundInfo bound tables =>
      rw [NetworkManagerCore.pollGroupOf, tables, lookup_erase_eq_ite] at found
      split at found
      · cases found
      next different =>
        refine Or.inl ⟨found, ?_⟩
        intro other otherInfo stops foundOther _
        cases acts.symm.trans stops
        obtain rfl := Option.some.inj (foundInfo.symm.trans foundOther)
        exact different
  | served none serves =>
      rw [pollGroupOf_connectionServed serves] at found
      refine Or.inl ⟨found, ?_⟩
      intro listener info acts
      cases none.symm.trans acts
  | delivered none _ changes =>
      rw [pollGroupOf_callbackManager changes] at found
      refine Or.inl ⟨found, ?_⟩
      intro listener info acts
      cases none.symm.trans acts

end TableChange

namespace ManagerWorld

variable {world next : ManagerWorld}

theorem socketClientsMap_createListener {core after : NetworkManagerCore Listener}
    {name : Option CString} {handler : HListener}
    (creates : core.createListener name = .ok (handler, after)) :
    after.socketClientsMap = core.socketClientsMap := by
  obtain ⟨_, _, rfl⟩ := NetworkManagerCore.createListener_eq_ok.mp creates
  rfl

theorem tableChange_begin {call : FunctionCall} (begins : BeginStep world call next) :
    TableChange world next (world.callAction call) none := by
  cases begins with
  | creates creates =>
      exact .quiet (socketClientsMap_createListener creates) fun _ acts => by cases acts
  | refused _ noStop => exact .same rfl noStop
  | starts => exact .quiet rfl fun _ acts => by cases acts
  | drops acts found bound => exact .dropped acts found bound rfl
  | destructs acts =>
      rw [acts]
      exact .quiet rfl fun _ acts => by cases acts
  | @popsReceived listener =>
      exact .quiet (socketClientsMap_tryPopReceived _ listener) fun _ acts => by cases acts
  | pushes acts _ _ _ tables =>
      rw [acts]
      exact .quiet tables fun _ acts => by cases acts
  | @popsError listener =>
      exact .quiet (socketClientsMap_tryPopError _ listener) fun _ acts => by cases acts
  | serves serves => exact .served rfl serves

theorem tableChange_proceed {listener : HListener} {info : ListenerInfo Listener}
    {call : ListenerCall} (found : world.core.listeners.lookup listener = some info)
    (called : info.listener.call = call) (proceeds : ProceedStep world listener call next) :
    TableChange world next ((resumeAction world.net call).map fun move => (listener, move))
      none := by
  cases proceeds with
  | initFails net | startFails net | started net | stopped net | destructs net | erases net =>
      rw [net]
      exact .quiet rfl fun _ acts => by cases acts
  | adopts net =>
      rw [net]
      refine .opened rfl found called ?_ rfl
      simp only [socketOf, lookup_callListener, listeners_record, lookup_adoptSocket, found]
      rfl

theorem tableChange {action : ManagerAction}
    (steps : managerSystem.step world action = some next) :
    TableChange world next (world.entryAction action) action.event? := by
  cases step_of_step steps with
  | request | run | wake => exact .quiet rfl fun _ acts => by cases acts
  | @pollFunctionCall call rest _ net calls begins =>
      rw [entryAction, calls]
      cases tableChange_begin begins with
      | same tables noStop => exact .same tables noStop
      | opened acts found call stored tables => exact .opened acts found call stored tables
      | dropped acts found bound tables => exact .dropped acts found bound tables
      | served none serves => exact .served none serves
      | delivered none delivers => cases delivers
  | listenerCall target =>
      rw [entryAction, target]
      exact .quiet rfl fun _ acts => by cases acts
  | returns net =>
      rw [entryAction, net]
      exact .quiet rfl fun _ acts => by cases acts
  | proceed target found proceeds =>
      rw [entryAction, target, Option.bind_some, found, Option.bind_some]
      exact tableChange_proceed found rfl proceeds
  | runCallback net delivers => exact .delivered rfl rfl delivers

end ManagerWorld

end HttpServer
