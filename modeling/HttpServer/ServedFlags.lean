import HttpServer.Library.RefinementMapping
import HttpServer.ServedNotifications

/-!
# What the served flag of a connection says

`pollOutMessages` does not look at what `SendMessageToConnection` returns: it notifies the
manager in any case, and much later the network thread sets the flag of the connection.
The runs of the manager are taken here with the results of the sends, and with a note of
the connections for which one has succeeded.

Steam reports a new connection under a handle that no connection in a table has.
-/

namespace HttpServer

open UnorderedMap Listener ManagerWorld NetworkManagerCore

/-- The manager with its listeners, and the connections to which a non-empty message has
been sent successfully since they were accepted. -/
structure SendingWorld where
  world : ManagerWorld := {}
  delivered : List HSteamNetConnection := []

/-- A step of the manager; `sent` is what `SendMessageToConnection` returns, if the step
calls it. -/
structure SendingAction where
  action : ManagerAction
  sent : EResult := .ok

namespace NetworkManagerCore

/-- Some table has an entry for the connection. -/
def isConnected (core : NetworkManagerCore Listener) (connection : HSteamNetConnection) :
    Bool :=
  core.socketClientsMap.entries.any fun entry =>
    entry.2.allConnections.any (isConnection connection)

/-- The table of the socket has the entry. -/
def HasEntry (core : NetworkManagerCore Listener) (socket : HSteamListenSocket)
    (entry : Connections) : Prop :=
  ∃ info, core.socketClientsMap.lookup socket = some info ∧ entry ∈ info.allConnections

end NetworkManagerCore

namespace ManagerWorld

/-- The message with which the step calls `SendMessageToConnection`. -/
def sends? (world : ManagerWorld) : ManagerAction → Option Request
  | .run listener _ =>
      (world.core.listeners.lookup listener).bind fun info =>
        match info.listener.thread with
        | .send message => some message.request.sized
        | _ => none
  | _ => none

/-- The connection that the step accepts. -/
def accepts? : ManagerAction → Option HSteamNetConnection
  | .runCallback info .ok _ => if info.state = .connecting then some info.hConn else none
  | _ => none

/-- The `ConnectionServed` that the step executes. -/
def executes? (world : ManagerWorld) :
    ManagerAction → Option (HSteamListenSocket × HSteamNetConnection)
  | .pollFunctionCall =>
      match world.net, world.functionCalls with
      | .idle, .connectionServed socket connection _ :: _ => some (socket, connection)
      | _, _ => none
  | _ => none

/-- Steam reports a new connection under a free handle. -/
def steamReports (world : ManagerWorld) : ManagerAction → Bool
  | .runCallback info _ _ =>
      decide (info.state ≠ .connecting) || !world.core.isConnected info.hConn
  | _ => true

end ManagerWorld

namespace SendingWorld

/-- The connections noted after the step. -/
def deliveredAfter (state : SendingWorld) (action : SendingAction) :
    List HSteamNetConnection :=
  match accepts? action.action with
  | some connection => state.delivered.filter (· ≠ connection)
  | none =>
      match state.world.sends? action.action with
      | some message =>
          if action.sent = .ok ∧ message.message ≠ [] then
            message.connection :: state.delivered
          else state.delivered
      | none => state.delivered

end SendingWorld

def sendingSystem : TransitionSystem SendingWorld SendingAction where
  Initial state := state = {}
  step state action :=
    if state.world.steamReports action.action then
      (managerSystem.step state.world action.action).map fun world =>
        { world, delivered := state.deliveredAfter action }
    else none

namespace NetworkManagerCore

variable {core next : NetworkManagerCore Listener} {socket : HSteamListenSocket}
  {connection : HSteamNetConnection} {entry : Connections}

theorem isConnected_eq_true : core.isConnected connection = true ↔
    ∃ socket entry, core.HasEntry socket entry ∧ entry.connection = connection := by
  unfold isConnected
  simp only [List.any_eq_true, isConnection, beq_iff_eq]
  constructor
  · rintro ⟨⟨socket, info⟩, found, entry, member, same⟩
    exact ⟨socket, entry, ⟨info, AList.mem_lookup_iff.mpr found, member⟩, same⟩
  · rintro ⟨socket, entry, ⟨info, found, member⟩, same⟩
    exact ⟨⟨socket, info⟩, AList.mem_lookup_iff.mp found, entry, member, same⟩

/-- No connection has two entries in a table. -/
def OneEntry (core : NetworkManagerCore Listener) : Prop :=
  ∀ socket table, core.tableOf socket = some table → table.Nodup

theorem OneEntry.eq (one : core.OneEntry) {other : Connections}
    (has : core.HasEntry socket entry) (hasOther : core.HasEntry socket other)
    (same : entry.connection = other.connection) : entry = other := by
  obtain ⟨info, found, member⟩ := has
  obtain ⟨otherInfo, foundOther, memberOther⟩ := hasOther
  obtain rfl := Option.some.inj (found.symm.trans foundOther)
  have nodup := one socket _ (by simp [tableOf, found]; rfl)
  exact List.inj_on_of_nodup_map nodup member memberOther same

theorem mem_replaceF {connections : List Connections}
    (nodup : (connections.map Connections.connection).Nodup)
    (member : entry ∈ connections.replaceF fun entry =>
      if isConnection connection entry then some { entry with isServed := true } else none) :
    entry ∈ connections ∧ entry.connection ≠ connection ∨
      entry.connection = connection ∧ entry.isServed = true := by
  induction connections with
  | nil => cases member
  | cons first rest ih =>
      rw [List.map_cons, List.nodup_cons] at nodup
      by_cases same : isConnection connection first = true
      · have isFirst : first.connection = connection := by simpa [isConnection] using same
        simp only [List.replaceF, same, if_true, List.mem_cons] at member
        rcases member with rfl | later
        · exact Or.inr ⟨isFirst, rfl⟩
        · refine Or.inl ⟨List.mem_cons_of_mem _ later, ?_⟩
          rintro rfl
          rw [isFirst] at nodup
          exact nodup.1 (List.mem_map_of_mem later)
      · simp only [List.replaceF, same, Bool.false_eq_true, if_false, List.mem_cons] at member
        rcases member with rfl | later
        · refine Or.inl ⟨List.mem_cons_self, ?_⟩
          simpa [isConnection] using same
        · rcases ih nodup.2 later with ⟨before, other⟩ | set
          · exact Or.inl ⟨List.mem_cons_of_mem _ before, other⟩
          · exact Or.inr set

variable {served : HSteamListenSocket} {info : SteamNetConnectionStatusChangedCallback}
  {accepted : EResult} {grouped : Bool}

theorem hasEntry_updateConnections {update : List Connections → List Connections} :
    (core.updateConnections served update).HasEntry socket entry ↔
      (∃ info, core.socketClientsMap.lookup socket = some info ∧
        entry ∈ if socket = served then update info.allConnections else info.allConnections) := by
  simp only [HasEntry, updateConnections, lookup_modify]
  by_cases same : socket = served
  · subst same
    simp [Option.map_eq_some_iff]
  · simp [same]

/-- A `ConnectionServed` sets the flag of the one entry of its connection. -/
theorem hasEntry_connectionServed (one : core.OneEntry)
    (serves : core.connectionServed served connection = .ok next)
    (has : next.HasEntry socket entry) :
    core.HasEntry socket entry ∧ (socket, entry.connection) ≠ (served, connection) ∨
      (socket, entry.connection) = (served, connection) ∧ entry.isServed = true := by
  obtain ⟨_, _, _, rfl⟩ := connectionServed_eq_ok.mp serves
  obtain ⟨info, found, member⟩ := hasEntry_updateConnections.mp has
  by_cases same : socket = served
  · subst same
    rw [if_pos rfl] at member
    rcases mem_replaceF (one socket _ (by simp [tableOf, found])) member with
      ⟨before, other⟩ | ⟨rfl, set⟩
    · exact Or.inl ⟨⟨info, found, before⟩, by simp [other]⟩
    · exact Or.inr ⟨rfl, set⟩
  · rw [if_neg same] at member
    exact Or.inl ⟨⟨info, found, member⟩, by simp [same]⟩

/-- After a `ConnectionServed` its connection has an entry. -/
theorem inTable_of_connectionServed
    (serves : core.connectionServed served connection = .ok next) :
    next.InTable served connection := by
  refine inTable_connectionServed serves ?_
  obtain ⟨socketInfo, found, present, _⟩ := connectionServed_eq_ok.mp serves
  exact ⟨_, by rw [tableOf, found]; rfl, any_isConnection.mp present⟩

theorem hasEntry_connecting (connects : core.connecting info accepted grouped = .ok next)
    (has : next.HasEntry socket entry) :
    core.HasEntry socket entry ∨ accepted = .ok ∧ entry = { connection := info.hConn } := by
  cases connectingStep_of_connecting connects with
  | refused | ungrouped => exact Or.inl has
  | entered =>
      obtain ⟨socketInfo, found, member⟩ := hasEntry_updateConnections.mp has
      split at member
      · rcases List.mem_append.mp member with before | new
        · exact Or.inl ⟨socketInfo, found, before⟩
        · exact Or.inr ⟨rfl, List.mem_singleton.mp new⟩
      · exact Or.inl ⟨socketInfo, found, member⟩

theorem hasEntry_disconnected (disconnects : core.disconnected info = .ok next)
    (has : next.HasEntry socket entry) : core.HasEntry socket entry := by
  obtain ⟨_, _, _, _, rfl⟩ := disconnected_eq_ok.mp disconnects
  obtain ⟨socketInfo, found, member⟩ := hasEntry_updateConnections.mp has
  refine ⟨socketInfo, found, ?_⟩
  split at member
  · exact List.mem_of_mem_eraseP member
  · exact member

theorem oneEntry_record (one : core.OneEntry) (call : CoreCall) : (core.record call).OneEntry :=
  one

theorem oneEntry_updateConnections (one : core.OneEntry)
    {update : List Connections → List Connections}
    (updated : ∀ info, core.socketClientsMap.lookup served = some info →
      ((update info.allConnections).map Connections.connection).Nodup) :
    (core.updateConnections served update).OneEntry := by
  intro socket table inAfter
  obtain ⟨info, found, rfl⟩ := Option.map_eq_some_iff.mp inAfter
  rw [updateConnections, lookup_modify] at found
  split at found
  · obtain ⟨before, inBefore, rfl⟩ := Option.map_eq_some_iff.mp found
    exact updated before inBefore
  · exact one socket _ (by rw [tableOf, found]; rfl)

/-- A status change that reports no connection of a table keeps the connections apart. -/
theorem oneEntry_callbackManager (one : core.OneEntry)
    (free : info.state = .connecting → core.isConnected info.hConn = false)
    (changes : core.callbackManager info accepted grouped = .ok next) : next.OneEntry := by
  rcases callbackManager_cases changes with rfl | ⟨state, connects⟩ | ⟨_, disconnects⟩
  · exact one
  · cases connectingStep_of_connecting connects with
    | refused | ungrouped => exact one
    | entered =>
        refine oneEntry_updateConnections
          (oneEntry_record (oneEntry_record one _) _) fun socketInfo found => ?_
        rw [List.map_append, List.map_singleton, ← List.concat_eq_append, List.nodup_concat]
        refine ⟨fun member => ?_, one _ _ (by rw [tableOf]; exact congrArg _ found)⟩
        obtain ⟨entry, member, same⟩ := List.mem_map.mp member
        have connected := isConnected_eq_true.mpr ⟨_, entry, ⟨socketInfo, found, member⟩, same⟩
        cases connected.symm.trans (free state)
  · obtain ⟨_, _, _, _, rfl⟩ := disconnected_eq_ok.mp disconnects
    refine oneEntry_updateConnections (oneEntry_record one _) fun socketInfo found => ?_
    rw [map_connection_eraseP]
    exact (one _ _ (by rw [tableOf]; exact congrArg _ found)).erase _

/-- A status change enters at most the connection that it accepts. -/
theorem hasEntry_callbackManager (changes : core.callbackManager info accepted grouped = .ok next)
    (has : next.HasEntry socket entry) :
    core.HasEntry socket entry ∨
      (info.state = .connecting ∧ accepted = .ok) ∧ entry = { connection := info.hConn } := by
  rcases callbackManager_cases changes with rfl | ⟨state, connects⟩ | ⟨_, disconnects⟩
  · exact Or.inl has
  · rcases hasEntry_connecting connects has with before | ⟨ok, new⟩
    · exact Or.inl before
    · exact Or.inr ⟨⟨state, ok⟩, new⟩
  · exact Or.inl (hasEntry_disconnected disconnects has)

end NetworkManagerCore

section Steps

variable {world next : ManagerWorld} {action : ManagerAction}

/-- A function that is addressed to no entry and is no `ConnectionServed` leaves the tables
alone. -/
theorem socketClientsMap_begin {call : FunctionCall} (begins : BeginStep world call next)
    (noEntry : world.callAction call = none) (notServed : call.isConnectionServed = false) :
    next.core.socketClientsMap = world.core.socketClientsMap := by
  cases begins with
  | creates creates => exact socketClientsMap_createListener creates
  | refused => rfl
  | starts | popsReceived | popsError => cases noEntry
  | drops acts | destructs acts | pushes acts => cases acts.symm.trans noEntry
  | serves => cases notServed

/-- The rest of an operation that makes no step of an entry leaves the tables alone. -/
theorem socketClientsMap_proceed {listener : HListener} {call : ListenerCall}
    (proceeds : ProceedStep world listener call next)
    (noEntry : resumeAction world.net call = none) :
    next.core.socketClientsMap = world.core.socketClientsMap := by
  cases proceeds with
  | adopts net =>
      rw [net] at noEntry
      cases noEntry
  | initFails | startFails | started | stopped | destructs | erases => rfl

/-- A step that makes no step of an entry, delivers no status change and executes no
`ConnectionServed` leaves the tables alone. -/
theorem socketClientsMap_of_quiet (steps : managerSystem.step world action = some next)
    (noEntry : world.entryAction action = none) (noEvent : action.event? = none)
    (notServed : world.executes? action = none) :
    next.core.socketClientsMap = world.core.socketClientsMap := by
  cases step_of_step steps with
  | request | returns => rfl
  | @pollFunctionCall call rest _ net calls begins =>
      rw [entryAction, calls] at noEntry
      have other : call.isConnectionServed = false := by
        cases call with
        | connectionServed => simp [executes?, net, calls] at notServed
        | _ => rfl
      have same := socketClientsMap_begin begins noEntry other
      exact same
  | listenerCall target =>
      rw [entryAction, target] at noEntry
      cases noEntry
  | proceed target found proceeds =>
      rw [entryAction, target, Option.bind_some, found, Option.bind_some] at noEntry
      exact socketClientsMap_proceed proceeds (Option.map_eq_none_iff.mp noEntry)
  | runCallback => cases noEvent
  | run | wake => cases noEntry

/-- The step runs the operation that it executes. -/
theorem connectionServed_of_executes (steps : managerSystem.step world action = some next)
    {socket : HSteamListenSocket} {connection : HSteamNetConnection}
    (executes : world.executes? action = some (socket, connection)) :
    world.core.connectionServed socket connection = .ok next.core := by
  cases step_of_step steps with
  | pollFunctionCall net calls begins =>
      dsimp only [executes?] at executes
      rw [net, calls] at executes
      split at executes
      next queued =>
        cases executes
        cases queued
        cases begins with
        | refused target => cases target
        | drops acts => cases acts
        | serves serves => exact serves
      · cases executes
  | _ => cases executes

theorem hasEntry_of_same {core after : NetworkManagerCore Listener}
    {socket : HSteamListenSocket} {entry : Connections}
    (same : after.socketClientsMap = core.socketClientsMap)
    (has : after.HasEntry socket entry) : core.HasEntry socket entry := by
  unfold HasEntry at has ⊢
  rw [← same]
  exact has

/-- A step of an entry brings no connection into a table. -/
theorem hasEntry_of_entryStep (steps : managerSystem.step world action = some next)
    {acted : HListener × EntryAction} (acts : world.entryAction action = some acted)
    {socket : HSteamListenSocket} {entry : Connections}
    (has : next.core.HasEntry socket entry) : world.core.HasEntry socket entry := by
  cases tableChange steps with
  | same tables => exact hasEntry_of_same tables has
  | opened _ _ _ _ tables =>
      obtain ⟨info, found, member⟩ := has
      rw [tables, lookup_emplace] at found
      split at found
      · cases found
        cases member
      · exact ⟨info, found, member⟩
  | dropped _ _ _ tables =>
      obtain ⟨info, found, member⟩ := has
      rw [tables, lookup_erase_eq_ite] at found
      split at found
      · cases found
      · exact ⟨info, found, member⟩
  | served none => cases none.symm.trans acts
  | delivered none => cases none.symm.trans acts

/-- Every entry was there before, or its flag is set, or its connection has been
accepted. -/
theorem hasEntry_of_step (steps : managerSystem.step world action = some next)
    (one : world.core.OneEntry) {socket : HSteamListenSocket} {entry : Connections}
    (has : next.core.HasEntry socket entry) :
    world.core.HasEntry socket entry ∧
        world.executes? action ≠ some (socket, entry.connection) ∨
      world.executes? action = some (socket, entry.connection) ∧ entry.isServed = true ∨
      accepts? action = some entry.connection ∧ entry.isServed = false := by
  cases executes : world.executes? action with
  | some executed =>
      have serves := connectionServed_of_executes steps executes
      rcases hasEntry_connectionServed one serves has with ⟨before, other⟩ | ⟨same, set⟩
      · exact Or.inl ⟨before, fun same => other (Option.some.inj same).symm⟩
      · exact Or.inr (Or.inl ⟨congrArg some same.symm, set⟩)
  | none =>
      have unchanged (before : world.core.HasEntry socket entry) :
          world.core.HasEntry socket entry ∧ none ≠ some (socket, entry.connection) :=
        ⟨before, nofun⟩
      cases event : action.event? with
      | some info =>
          cases step_of_step steps with
          | runCallback net delivers =>
              rcases hasEntry_callbackManager delivers has with before | ⟨⟨state, rfl⟩, rfl⟩
              · exact Or.inl (unchanged before)
              · exact Or.inr (Or.inr ⟨if_pos state, rfl⟩)
          | _ => cases event
      | none =>
          refine Or.inl (unchanged ?_)
          cases acts : world.entryAction action with
          | none => exact hasEntry_of_same (socketClientsMap_of_quiet steps acts event executes) has
          | some acted => exact hasEntry_of_entryStep steps acts has

/-- A connection that is not reported again while it is in a table has one entry there. -/
theorem oneEntry_of_step (steps : managerSystem.step world action = some next)
    (reports : world.steamReports action = true) (one : world.core.OneEntry) :
    next.core.OneEntry := by
  cases tableChange steps with
  | same tables =>
      intro socket table found
      rw [tableOf, tables] at found
      exact one socket table found
  | opened _ _ _ _ tables =>
      intro socket table inAfter
      obtain ⟨info, found, rfl⟩ := Option.map_eq_some_iff.mp inAfter
      rw [tables, lookup_emplace] at found
      split at found
      · cases found
        exact List.nodup_nil
      · exact one socket _ (by rw [tableOf, found]; rfl)
  | dropped _ _ _ tables =>
      intro socket table inAfter
      obtain ⟨info, found, rfl⟩ := Option.map_eq_some_iff.mp inAfter
      rw [tables, lookup_erase_eq_ite] at found
      split at found
      · cases found
      · exact one socket _ (by rw [tableOf, found]; rfl)
  | served _ serves =>
      intro socket table found
      rw [tableOf_connectionServed serves] at found
      exact one socket table found
  | @delivered info _ _ _ event changes =>
      refine oneEntry_callbackManager one (fun state => ?_) changes
      cases action with
      | runCallback reported accepted grouped =>
          cases event
          simpa [steamReports, state] using reports
      | _ => cases event

end Steps

namespace SendingWorld

variable {state next : SendingWorld} {action : SendingAction}

/-- Every flag that is set stands for a message that was sent. -/
def FlagsFit (state : SendingWorld) : Prop :=
  ∀ socket entry, state.world.core.HasEntry socket entry → entry.isServed = true →
    entry.connection ∈ state.delivered

/-- What a step has to do with the flags: those set after it stand for messages sent, the
one of a `ConnectionServed` that it executes is set, and none is reset. -/
structure FlagsSound (state : SendingWorld) (action : SendingAction) (next : SendingWorld) :
    Prop where
  fit : next.FlagsFit
  set : ∀ socket connection,
    state.world.executes? action.action = some (socket, connection) →
    next.world.core.HasEntry socket { connection, isServed := true }
  stays : ∀ socket connection isServed,
    state.world.core.HasEntry socket { connection, isServed := true } ∨
      state.world.executes? action.action = some (socket, connection) →
    next.world.core.HasEntry socket { connection, isServed } → isServed = true

/-- A `ConnectionServed` that is executed follows a successful send to its connection, since
that was accepted. -/
def ReportsSuccess (state : SendingWorld) (action : SendingAction) : Prop :=
  ∀ served ∈ state.world.executes? action.action, served.2 ∈ state.delivered

instance (state : SendingWorld) (action : SendingAction) :
    Decidable (state.ReportsSuccess action) :=
  Option.decidableForallMem (state.world.executes? action.action)

/-- The step is one of the manager, and Steam reports no connection of a table. -/
theorem step_cases (steps : sendingSystem.step state action = some next) :
    state.world.steamReports action.action = true ∧
      managerSystem.step state.world action.action = some next.world ∧
      next.delivered = state.deliveredAfter action := by
  dsimp only [sendingSystem] at steps
  split at steps
  next reports =>
    obtain ⟨world, stepTo, rfl⟩ := Option.map_eq_some_iff.mp steps
    exact ⟨reports, stepTo, rfl⟩
  · cases steps

/-- A connection that is accepted has no entry yet. -/
theorem not_hasEntry_of_accepts (reports : state.world.steamReports action.action = true)
    {connection : HSteamNetConnection} (accepts : accepts? action.action = some connection)
    {socket : HSteamListenSocket} {entry : Connections}
    (same : entry.connection = connection) : ¬ state.world.core.HasEntry socket entry := by
  intro has
  obtain ⟨taken, sent⟩ := action
  cases taken with
  | runCallback info accepted grouped =>
      have connected := isConnected_eq_true.mpr ⟨socket, entry, has, same⟩
      cases accepted with
      | ok =>
          dsimp only [accepts?] at accepts
          split at accepts
          next connecting =>
            cases accepts
            simp [steamReports, connecting, connected] at reports
          · cases accepts
      | _ => cases accepts
  | _ => cases accepts

/-- The note of a connection goes only when the connection is accepted. -/
theorem mem_deliveredAfter {connection : HSteamNetConnection}
    (noted : connection ∈ state.delivered)
    (kept : accepts? action.action ≠ some connection) :
    connection ∈ state.deliveredAfter action := by
  unfold deliveredAfter
  split
  next other accepts =>
    rw [accepts] at kept
    have ne : connection ≠ other := fun same => kept (congrArg some same.symm)
    simpa [ne] using noted
  · split
    · split
      · exact List.mem_cons_of_mem _ noted
      · exact noted
    · exact noted

/-- A step that executes a `ConnectionServed` accepts and sends nothing. -/
theorem deliveredAfter_of_executes {served : HSteamListenSocket × HSteamNetConnection}
    (executes : state.world.executes? action.action = some served) :
    accepts? action.action = none ∧ state.deliveredAfter action = state.delivered := by
  obtain ⟨taken, sent⟩ := action
  cases taken with
  | pollFunctionCall => exact ⟨rfl, rfl⟩
  | _ => cases executes

/-- Every flag set after the step stands for a message sent, if the `ConnectionServed` that
the step executes does. -/
theorem flagsFit_of_step (fit : state.FlagsFit) (one : state.world.core.OneEntry)
    (steps : sendingSystem.step state action = some next)
    (reportsSuccess : state.ReportsSuccess action) : next.FlagsFit := by
  obtain ⟨reports, stepTo, delivered⟩ := step_cases steps
  intro socket entry has set
  rw [delivered]
  rcases hasEntry_of_step stepTo one has with
    ⟨before, _⟩ | ⟨executes, _⟩ | ⟨_, unset⟩
  · refine mem_deliveredAfter (fit socket entry before set) fun accepts => ?_
    exact not_hasEntry_of_accepts reports accepts rfl before
  · rw [(deliveredAfter_of_executes executes).2]
    exact reportsSuccess _ executes
  · cases set.symm.trans unset

/-- The flag of the connection is set once its `ConnectionServed` has been executed. -/
theorem hasEntry_of_executes (one : state.world.core.OneEntry)
    (steps : sendingSystem.step state action = some next)
    {socket : HSteamListenSocket} {connection : HSteamNetConnection}
    (executes : state.world.executes? action.action = some (socket, connection)) :
    next.world.core.HasEntry socket { connection, isServed := true } := by
  obtain ⟨_, stepTo, _⟩ := step_cases steps
  have serves := connectionServed_of_executes stepTo executes
  obtain ⟨table, found, member⟩ := inTable_of_connectionServed serves
  obtain ⟨info, inMap, rfl⟩ := Option.map_eq_some_iff.mp found
  obtain ⟨entry, inInfo, rfl⟩ := List.mem_map.mp member
  have has : next.world.core.HasEntry socket entry := ⟨info, inMap, inInfo⟩
  rcases hasEntry_connectionServed one serves has with ⟨_, other⟩ | ⟨_, set⟩
  · exact absurd rfl other
  · obtain ⟨connection, isServed⟩ := entry
    cases set
    exact has

/-- No step resets a flag. -/
theorem isServed_of_step (one : state.world.core.OneEntry)
    (steps : sendingSystem.step state action = some next)
    {socket : HSteamListenSocket} {connection : HSteamNetConnection} {isServed : Bool}
    (set : state.world.core.HasEntry socket { connection, isServed := true } ∨
      state.world.executes? action.action = some (socket, connection))
    (has : next.world.core.HasEntry socket { connection, isServed }) : isServed = true := by
  obtain ⟨reports, stepTo, _⟩ := step_cases steps
  rcases hasEntry_of_step stepTo one has with
    ⟨before, notExecuted⟩ | ⟨_, isSet⟩ | ⟨accepts, _⟩
  · rcases set with earlier | executes
    · exact congrArg Connections.isServed (one.eq before earlier rfl)
    · exact absurd executes notExecuted
  · exact isSet
  · rcases set with earlier | executes
    · exact absurd earlier (not_hasEntry_of_accepts reports accepts rfl)
    · cases (deliveredAfter_of_executes executes).1.symm.trans accepts

theorem flagsSound_iff (fit : state.FlagsFit) (one : state.world.core.OneEntry)
    (steps : sendingSystem.step state action = some next) :
    state.FlagsSound action next ↔ state.ReportsSuccess action := by
  constructor
  · rintro sound ⟨socket, connection⟩ executes
    obtain ⟨_, _, delivered⟩ := step_cases steps
    have noted := sound.fit socket _ (sound.set socket connection executes) rfl
    rwa [delivered, (deliveredAfter_of_executes executes).2] at noted
  · intro reportsSuccess
    exact {
      fit := flagsFit_of_step fit one steps reportsSuccess
      set := fun socket connection executes => hasEntry_of_executes one steps executes
      stays := fun socket connection isServed set has => isServed_of_step one steps set has }

/-- Whatever the step leads to, the flags are sound after it. -/
def KeepsFlags (state : SendingWorld) (action : SendingAction) : Prop :=
  ∀ next, sendingSystem.step state action = some next → state.FlagsSound action next

end SendingWorld

section Runs

open SendingWorld

variable {actions : List SendingAction} {last : SendingWorld}

/-- The flags of a run stand for messages sent, are set by the `ConnectionServed` that the
network thread executes, and stay set, exactly when each `ConnectionServed` that it executes
follows a successful send to the connection since that was accepted. -/
theorem flags_sound_iff (steps : sendingSystem.Steps {} actions last) :
    (∀ step ∈ sendingSystem.trace {} actions, KeepsFlags step.1 step.2) ↔
      ∀ step ∈ sendingSystem.trace {} actions, ReportsSuccess step.1 step.2 := by
  refine steps.forall_trace_iff
    (fun state => state.FlagsFit ∧ state.world.core.OneEntry) ⟨?_, ?_⟩ ?_ ?_
  · rintro socket entry ⟨info, found, _⟩
    cases found
  · intro socket table found
    cases found
  · rintro state action next ⟨fit, one⟩ _ stepTo
    constructor
    · intro keeps
      exact (flagsSound_iff fit one stepTo).mp (keeps next stepTo)
    · intro reportsSuccess other stepToOther
      exact (flagsSound_iff fit one stepToOther).mpr reportsSuccess
  · rintro state action next ⟨_, one⟩ _ keeps stepTo
    obtain ⟨reports, moves, _⟩ := step_cases stepTo
    exact ⟨(keeps next stepTo).fit, oneEntry_of_step moves reports one⟩

end Runs

namespace Listener

variable {listener next : Listener} {message : QueuedMessage}

/-- A notification to come was to come before, or its message has just been sent. -/
theorem served_of_run {received : ReceivedMessages} (steps : listener.run received = some next)
    (place : next.thread = .served message) : listener.thread = .send message := by
  cases runStep_of_run steps with
  | send sends =>
      cases place
      exact sends
  | _ => simp_all [goTo, Listener.record]

theorem served_of_notify (place : listener.notify.thread = .served message) :
    listener.thread = .served message := by
  unfold notify at place
  split at place
  · cases place
  · exact place

theorem served_of_callStep {handle : UInt32} (steps : listener.callStep handle = some next)
    (place : next.thread = .served message) : listener.thread = .served message := by
  cases callStep_of_callStep steps with
  | startSet | stopSet =>
      have before := served_of_notify place
      exact before
  | dtorNotify =>
      have before := served_of_notify place
      exact before
  | _ => exact place

end Listener

theorem served_of_entryStep {info next : ListenerInfo Listener} {move : EntryAction}
    {message : QueuedMessage} (steps : entryStep info move = some next)
    (place : next.listener.thread = .served message) :
    info.listener.thread = .served message ∨
      info.listener.thread = .send message ∧ ∃ received, move = .run received := by
  cases entryStep_of_entryStep steps with
  | @run received _ runs => exact Or.inr ⟨served_of_run runs place, received, rfl⟩
  | wake => cases place
  | callStep calls => exact Or.inl (served_of_callStep calls place)
  | _ => exact Or.inl place

/-- The manager's part of a run is a run of the manager. -/
def managerMapping {condition : SendingWorld → SendingAction → Prop} :
    TransitionSystem.RefinementMapping sendingSystem managerSystem condition where
  abstract := SendingWorld.world
  events _ action := [action.action]
  initial := by
    rintro state rfl
    rfl
  simulates := by
    intro state action next _ _ steps
    exact .single trivial (SendingWorld.step_cases steps).2.1

namespace SendingWorld

variable {state next : SendingWorld} {action : SendingAction}

/-- A send returns OK, and Steam gives no connection a handle to which a message has been
sent before. -/
def SendSucceeds (state : SendingWorld) (action : SendingAction) : Prop :=
  (∀ message ∈ state.world.sends? action.action, action.sent = .ok ∧ message.message ≠ []) ∧
    ∀ connection ∈ accepts? action.action, connection ∉ state.delivered

instance (state : SendingWorld) (action : SendingAction) :
    Decidable (state.SendSucceeds action) :=
  @instDecidableAnd _ _ (Option.decidableForallMem (state.world.sends? action.action))
    (Option.decidableForallMem (accepts? action.action))

/-- Every notification that is to come or is queued is for a connection to which a message
has been sent. -/
structure NotificationsFit (state : SendingWorld) : Prop where
  served : ∀ listener info message,
    state.world.core.listeners.lookup listener = some info →
    info.listener.thread = .served message → message.request.connection ∈ state.delivered
  queued : ∀ socket connection mark,
    .connectionServed socket connection mark ∈ state.world.functionCalls →
    connection ∈ state.delivered

/-- No note goes as long as no such handle is given again. -/
theorem mem_deliveredAfter_of_succeeds {connection : HSteamNetConnection}
    (succeeds : state.SendSucceeds action) (noted : connection ∈ state.delivered) :
    connection ∈ state.deliveredAfter action :=
  mem_deliveredAfter noted fun accepts => succeeds.2 connection accepts noted

theorem notificationsFit_of_step (fit : state.NotificationsFit)
    (reaches : managerSystem.Reachable state.world)
    (succeeds : state.SendSucceeds action)
    (steps : sendingSystem.step state action = some next) : next.NotificationsFit := by
  obtain ⟨_, stepTo, delivered⟩ := step_cases steps
  constructor
  · intro listener info message found place
    rw [delivered]
    rcases ((entriesStep (callsFit_of_reachable reaches) stepTo).entry listener info found).2
      with created | ⟨before, foundBefore, rfl | ⟨move, acts, moves⟩⟩
    · rw [created.1.1] at place
      cases place
    · exact mem_deliveredAfter_of_succeeds succeeds (fit.served _ _ _ foundBefore place)
    · rcases served_of_entryStep moves place with earlier | ⟨sending, received, rfl⟩
      · exact mem_deliveredAfter_of_succeeds succeeds (fit.served _ _ _ foundBefore earlier)
      · have sends : state.world.sends? action.action = some message.request.sized := by
          rw [run_of_entryAction acts, sends?, foundBefore, Option.bind_some, sending]
        obtain ⟨sent, nonempty⟩ := succeeds.1 _ sends
        have none : accepts? action.action = none := by
          rw [run_of_entryAction acts]
          rfl
        rw [deliveredAfter, none]
        dsimp only
        rw [sends]
        dsimp only
        rw [if_pos ⟨sent, nonempty⟩]
        exact List.mem_cons_self
  · intro socket connection mark called
    rw [delivered]
    rcases step_functionCalls stepTo rfl called with
      before | ⟨listener, info, message, found, place, same⟩
    · exact mem_deliveredAfter_of_succeeds succeeds (fit.queued _ _ _ before)
    · cases same
      exact mem_deliveredAfter_of_succeeds succeeds (fit.served _ _ _ found place)

theorem reportsSuccess_of_fit (fit : state.NotificationsFit) : state.ReportsSuccess action := by
  intro served executes
  unfold executes? at executes
  split at executes
  · split at executes
    next calls =>
      cases executes
      exact fit.queued _ _ _ (by rw [calls]; exact List.mem_cons_self)
    · cases executes
  · cases executes

end SendingWorld

section Runs

open SendingWorld

variable {actions : List SendingAction} {last : SendingWorld}

theorem notificationsFit_of_reachable
    (reaches : sendingSystem.ReachableWhere SendSucceeds last) : last.NotificationsFit := by
  refine reaches.invariant NotificationsFit ?_ ?_
  · rintro state rfl
    constructor
    · intro listener info message found
      cases found
    · intro socket connection mark called
      cases called
  · rintro state action next ⟨initial, actions, starts, run⟩ fit succeeds steps
    have manager := managerMapping.refines starts run
    exact notificationsFit_of_step fit ⟨_, _, managerMapping.initial _ starts, manager⟩
      succeeds steps

/-- Where every send succeeds, every `ConnectionServed` reports a success. -/
theorem reportsSuccess_of_sendSucceeds
    (steps : sendingSystem.StepsWhere SendSucceeds {} actions last) :
    ∀ step ∈ sendingSystem.trace {} actions, ReportsSuccess step.1 step.2 := by
  intro step member
  obtain ⟨earlier, later, split⟩ := List.append_of_mem member
  obtain ⟨before, next, runs, _, _, _⟩ := steps.step_of_trace split
  exact reportsSuccess_of_fit (notificationsFit_of_reachable ⟨{}, before, rfl, runs⟩)

/-- Connection 9 is accepted, and a response is sent to it with this result. -/
def respondWith (sent : EResult) : List SendingAction :=
  (respond ++ sendResponse).map fun action => { action, sent }

theorem flags_sound_iff_served :
    ∃ last, sendingSystem.Steps {} (respondWith .ok ++ [⟨.pollFunctionCall, .ok⟩]) last ∧
      last.world.core.HasEntry 5 { connection := 9, isServed := true } ∧
      ∀ step ∈ sendingSystem.trace {} (respondWith .ok ++ [⟨.pollFunctionCall, .ok⟩]),
        KeepsFlags step.1 step.2 := by
  have executes : ∃ last,
      sendingSystem.runWhere SendSucceeds {}
          (respondWith .ok ++ [⟨.pollFunctionCall, .ok⟩]) = some last ∧
        last.world.core.HasEntry 5 { connection := 9, isServed := true } :=
    ⟨_, rfl, _, rfl, List.mem_singleton.mpr rfl⟩
  obtain ⟨last, executes, has⟩ := executes
  have succeeds := TransitionSystem.runWhere_eq_some_iff.mp executes
  have steps : sendingSystem.Steps {} (respondWith .ok ++ [⟨.pollFunctionCall, .ok⟩]) last :=
    succeeds.mono fun _ _ _ => trivial
  exact ⟨last, steps, has, (flags_sound_iff steps).mpr (reportsSuccess_of_sendSucceeds succeeds)⟩

/-- `SendMessageToConnection` finds its buffer full, and the flag is set all the same. -/
theorem flags_sound_fails :
    ∃ last,
      sendingSystem.Steps {} (respondWith (.other 25) ++ [⟨.pollFunctionCall, .ok⟩]) last ∧
      last.delivered = [] ∧ last.world.core.HasEntry 5 { connection := 9, isServed := true } ∧
      ¬ ∀ step ∈ sendingSystem.trace {} (respondWith (.other 25) ++ [⟨.pollFunctionCall, .ok⟩]),
        KeepsFlags step.1 step.2 := by
  have executes : ∃ middle last, sendingSystem.run {} (respondWith (.other 25)) = some middle ∧
      sendingSystem.step middle ⟨.pollFunctionCall, .ok⟩ = some last ∧ last.delivered = [] ∧
      last.world.core.HasEntry 5 { connection := 9, isServed := true } :=
    ⟨_, _, rfl, rfl, rfl, _, rfl, List.mem_singleton.mpr rfl⟩
  obtain ⟨middle, last, executes, stepTo, none, has⟩ := executes
  have steps := TransitionSystem.runWhere_eq_some_iff.mp executes
  refine ⟨last, steps.tail trivial stepTo, none, has, fun keeps => ?_⟩
  rw [steps.trace_concat] at keeps
  have sound := keeps _ (List.mem_append_right _ List.mem_cons_self) last stepTo
  have noted : 9 ∈ last.delivered := sound.fit 5 _ has rfl
  rw [none] at noted
  cases noted

end Runs

end HttpServer
