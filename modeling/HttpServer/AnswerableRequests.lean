import HttpServer.ManagerTables
import HttpServer.PollingHandles
import HttpServer.ServedNotifications
import HttpServer.Library.HandleLog

/-!
# Answering the requests received

`Connecting` puts a connection into the poll group of its socket before it puts it
into the table, and the listener's thread may receive a message of the connection in
between.  A client gets the message by a function that the network thread runs, so
not before `Connecting` has returned.  From then on the connection stays in the table
of the listener's socket until it is closed or the listener is stopped, and until then
a response is accepted.
-/

namespace HttpServer

open Listener ManagerWorld NetworkManagerCore

/-- The manager, whose network thread may be inside of `Connecting`: `accepting` is
the event, once the connection is in its poll group.  `assigned` are the poll groups
that connections have been put into, and `sockets` and `pollGroups` the handles that
Steam has created. -/
structure AcceptingManager where
  manager : ManagerWorld := {}
  accepting : Option SteamNetConnectionStatusChangedCallback := none
  assigned : List (HSteamNetConnection × HSteamNetPollGroup) := []
  sockets : List HSteamListenSocket := []
  pollGroups : List HSteamNetPollGroup := []

inductive AcceptingAction where
  | manager (action : ManagerAction)
  | setConnectionPollGroup (info : SteamNetConnectionStatusChangedCallback)
  | pushBack

namespace ManagerAction

/-- An action of a client or of a listener's thread. -/
def isElsewhere : ManagerAction → Bool
  | request _ | run _ _ | wake _ => true
  | _ => false

/-- A whole `Connecting` that puts the connection into its poll group. -/
def isAccepting : ManagerAction → Bool
  | runCallback info accepted grouped =>
      decide (info.state = .connecting ∧ accepted = .ok ∧ grouped = true)
  | _ => false

end ManagerAction

namespace ManagerWorld

/-- The call on a listener that the network thread waits for. -/
def callInProgress (world : ManagerWorld) : Option ListenerCall :=
  world.net.listener?.bind fun listener =>
    (world.core.listeners.lookup listener).map fun info => info.listener.call

def createdSocket (world : ManagerWorld) : ManagerAction → List HSteamListenSocket
  | .listenerCall handle =>
      match world.callInProgress with
      | some (.createSocket _) => [handle]
      | _ => []
  | _ => []

def createdPollGroup (world : ManagerWorld) : ManagerAction → List HSteamNetPollGroup
  | .listenerCall handle =>
      match world.callInProgress with
      | some .createPollGroup => [handle]
      | _ => []
  | _ => []

end ManagerWorld

/-- `AcceptConnection` has returned `k_EResultOK` and `SetConnectionPollGroup` true.
While the network thread has not put the connection into the table yet, the other
threads go on. -/
def acceptingSystem : TransitionSystem AcceptingManager AcceptingAction where
  Initial world := world = {}
  step world
    | .manager action =>
        if action.isAccepting || world.accepting.isSome && !action.isElsewhere then none
        else (managerSystem.step world.manager action).map fun manager =>
          { world with
            manager
            sockets := world.sockets ++ world.manager.createdSocket action
            pollGroups := world.pollGroups ++ world.manager.createdPollGroup action }
    | .setConnectionPollGroup info =>
        match world.manager.net, world.accepting, info.state with
        | .idle, none, .connecting =>
            (world.manager.core.socketClientsMap.lookup info.listenSocket).map
              fun socketInfo =>
                { world with
                  accepting := some info
                  assigned := world.assigned ++ [(info.hConn, socketInfo.pollGroup)] }
        | _, _, _ => none
    | .pushBack =>
        world.accepting.bind fun info =>
          (world.manager.runCallback info .ok true).map fun manager =>
            { world with manager, accepting := none }

/-- A handle that is created is invalid or was not created before, and a message that
is received is of a connection in the poll group. -/
def keepsContract (world : AcceptingManager) : AcceptingAction → Bool
  | .manager (.listenerCall handle) =>
      match world.manager.callInProgress with
      | some (.createSocket _) =>
          decide (handle = hSteamListenSocketInvalid ∨ handle ∉ world.sockets)
      | some .createPollGroup =>
          decide (handle = hSteamNetPollGroupInvalid ∨ handle ∉ world.pollGroups)
      | _ => true
  | .manager (.run listener (.message message)) =>
      match world.manager.core.listeners.lookup listener with
      | some info =>
          !info.listener.thread.isReceiving ||
            decide ((message.connection, info.listener.core.pollGroup) ∈ world.assigned)
      | none => true
  | _ => true

abbrev KeepsContract (world : AcceptingManager) (action : AcceptingAction) : Prop :=
  keepsContract world action = true

/-- The connection is put into the table of the listener's socket. -/
def acceptsOn (listener : HListener) (connection : HSteamNetConnection) :
    AcceptingManager × AcceptingAction → Bool
  | (world, .pushBack) =>
      match world.accepting with
      | some info =>
          decide (info.hConn = connection ∧ info.listenSocket ≠ hSteamListenSocketInvalid ∧
            world.manager.core.socketOf listener = some info.listenSocket)
      | none => false
  | _ => false

/-- The request that `try_PoPReceivedMessageQueue` of the listener returns. -/
def requestFrom? (listener : HListener) : AcceptingManager × AcceptingAction → Option Request
  | (world, .manager .pollFunctionCall) =>
      match world.manager.functionCalls with
      | .tryPopReceivedMessageQueue target :: _ =>
          if target = listener then
            match (world.manager.core.tryPopReceivedMessageQueue listener).1 with
            | .ok request => request
            | .error _ => none
          else none
      | _ => none
  | _ => none

/-- The network thread handles that the connection is closed, or begins to stop or to
destroy the listener. -/
def endsConnection (listener : HListener) (connection : HSteamNetConnection) :
    AcceptingManager × AcceptingAction → Bool
  | (world, .manager .pollFunctionCall) =>
      match world.manager.functionCalls with
      | .stopListening target :: _ | .destroyListener target :: _ => decide (target = listener)
      | _ => false
  | (_, .manager (.runCallback info _ _)) =>
      decide (info.hConn = connection ∧
        (info.state = .closedByPeer ∨ info.state = .problemDetectedLocally))
  | _ => false

/-- When the network thread takes up the response, it is accepted and appended to the
outgoing queue of the listener. -/
def TakesResponse (world : AcceptingManager) (listener : HListener) (response : Request) :
    Prop :=
  ∀ rest, world.manager.functionCalls = .pushOutgoingMessageQueue listener response :: rest →
    world.manager.net = .idle → world.accepting = none →
    ∃ next info changed, acceptingSystem.step world (.manager .pollFunctionCall) = some next ∧
      next.manager.net = .returned (.done (.ok ())) ∧
      world.manager.core.listeners.lookup listener = some info ∧
      next.manager.core.listeners.lookup listener = some changed ∧
      changed.listener.core.outgoingMessages.map QueuedMessage.request =
        info.listener.core.outgoingMessages.map QueuedMessage.request ++ [response]

/-- The manager or the listener has the socket stored. -/
def ListenerInfo.Has (info : ListenerInfo Listener) (socket : HSteamListenSocket) : Prop :=
  info.socket = socket ∨ info.listener.core.socket = socket

/-- A message of the connection waits to be stored or to be popped. -/
def Listener.Brings (listener : Listener) (connection : HSteamNetConnection) : Prop :=
  (∃ message ∈ listener.core.receivedMessages, message.request.connection = connection) ∨
    ∃ message, listener.thread = .store message ∧ message.request.connection = connection

section Entry

variable {listener object : Listener} {received : ReceivedMessages} {handle : UInt32}
  {connection : HSteamNetConnection}

/-- A message that the thread brings was there before, or it has just received it. -/
theorem run_brings (steps : listener.run received = some object)
    (brings : object.Brings connection) : listener.Brings connection ∨
      listener.thread.isReceiving = true ∧
        ∃ message, received = .message message ∧ message.connection = connection := by
  unfold Listener.Brings at brings ⊢
  cases runStep_of_run steps with
  | receive place isMessage =>
      simp only [goTo, Listener.record, ListenThread.store.injEq, exists_eq_left'] at brings
      rcases brings with queued | same
      · exact Or.inl (Or.inl queued)
      · exact Or.inr ⟨by rw [place]; rfl, _, isMessage, same⟩
  | @store message place =>
      refine Or.inl ?_
      rcases brings with ⟨stored, queued, same⟩ | ⟨_, elsewhere, _⟩
      · rcases ThreadSaveQueue.mem_push.mp queued with before | rfl
        · exact Or.inl ⟨stored, before, same⟩
        · exact Or.inr ⟨stored, place, same⟩
      · cases elsewhere
  | _ => simp_all [goTo, Listener.record]

theorem notify_brings (brings : listener.notify.Brings connection) :
    listener.Brings connection := by
  unfold notify at brings
  split at brings
  · refine Or.inl (brings.resolve_right ?_)
    rintro ⟨_, elsewhere, _⟩
    cases elsewhere
  · exact brings

theorem callStep_brings (steps : listener.callStep handle = some object)
    (brings : object.Brings connection) : listener.Brings connection := by
  cases callStep_of_callStep steps with
  | startSet | stopSet =>
      rw [notify_listening] at brings
      have before := notify_brings brings
      exact before
  | dtorNotify =>
      have before := notify_brings brings
      exact before
  | _ => exact brings

/-- A call stores the socket that it creates, and no other. -/
theorem callStep_socket (steps : listener.callStep handle = some object)
    (valid : object.core.socket ≠ hSteamListenSocketInvalid) :
    object.core.socket = listener.core.socket ∨
      object.core.socket = handle ∧ ∃ port, listener.call = .createSocket port := by
  cases callStep_of_callStep steps with
  | socketFailed call | createSocket call => exact Or.inr ⟨rfl, _, call⟩
  | resetSocket => exact absurd rfl valid
  | startSet | stopSet | dtorNotify => exact Or.inl (by simp [callGoTo])
  | _ => exact Or.inl rfl

theorem callStep_pollGroup (steps : listener.callStep handle = some object) :
    object.core.pollGroup = listener.core.pollGroup ∨
      object.core.pollGroup = handle ∧ listener.call = .createPollGroup := by
  cases callStep_of_callStep steps with
  | pollGroupFailed call | createPollGroup call => exact Or.inr ⟨rfl, call⟩
  | startSet | stopSet | dtorNotify => exact Or.inl (by simp [callGoTo])
  | _ => exact Or.inl rfl

variable {info next : ListenerInfo Listener} {move : EntryAction}
  (steps : entryStep info move = some next)
include steps

theorem entryStep_brings (brings : next.listener.Brings connection) :
    info.listener.Brings connection ∨ info.listener.thread.isReceiving = true ∧
      ∃ message, move = .run (.message message) ∧ message.connection = connection := by
  cases entryStep_of_entryStep steps with
  | run runs =>
      rcases run_brings runs brings with before | ⟨receives, message, rfl, same⟩
      · exact Or.inl before
      · exact Or.inr ⟨receives, message, rfl, same⟩
  | wake =>
      refine Or.inl (Or.inl (brings.resolve_right ?_))
      rintro ⟨_, elsewhere, _⟩
      cases elsewhere
  | callStep calls => exact Or.inl (callStep_brings calls brings)
  | popReceived =>
      refine Or.inl ?_
      rcases brings with ⟨message, queued, same⟩ | storing
      · exact Or.inl ⟨message, ThreadSaveQueue.mem_of_mem_tryPop queued, same⟩
      · exact Or.inr storing
  | _ => exact Or.inl brings

theorem entryStep_has (coherent : Coherent info) {socket : HSteamListenSocket}
    (valid : socket ≠ hSteamListenSocketInvalid) (has : next.Has socket) :
    info.Has socket ∨ move = .callStep socket ∧
      ∃ port, info.listener.call = .createSocket port := by
  cases entryStep_of_entryStep steps with
  | run runs =>
      refine Or.inl (has.imp_right fun same => ?_)
      rw [← same] at valid ⊢
      have socket := run_socket runs
      split at socket
      · exact absurd socket valid
      · exact socket.symm
  | callStep calls =>
      rcases has with stored | rfl
      · exact Or.inl (Or.inl stored)
      · rcases callStep_socket calls valid with same | ⟨created, call⟩
        · exact Or.inl (Or.inr same.symm)
        · exact Or.inr ⟨congrArg _ created.symm, call⟩
  | adopt call =>
      have fits := coherent.handles
      unfold ListenerInfo.HandlesFit at fits
      rw [call] at fits
      refine Or.inl (Or.inr ?_)
      rcases has with rfl | same
      · rw [fits.2]
      · exact same
  | beginStop =>
      refine Or.inl (Or.inr ?_)
      rcases has with rfl | same
      · exact absurd rfl valid
      · exact same
  | _ => exact Or.inl has

theorem entryStep_pollGroup
    (valid : next.listener.core.pollGroup ≠ hSteamNetPollGroupInvalid) :
    next.listener.core.pollGroup = info.listener.core.pollGroup ∨
      move = .callStep next.listener.core.pollGroup ∧
        info.listener.call = .createPollGroup := by
  cases entryStep_of_entryStep steps with
  | run runs =>
      have pollGroup := run_pollGroup runs
      split at pollGroup
      · exact absurd pollGroup valid
      · exact Or.inl pollGroup
  | callStep calls =>
      rcases callStep_pollGroup calls with same | ⟨created, call⟩
      · exact Or.inl same
      · exact Or.inr ⟨congrArg _ created.symm, call⟩
  | _ => exact Or.inl rfl

end Entry

namespace ManagerWorld

/-- The socket is stored for the listener, or in it. -/
def OwnsSocket (world : ManagerWorld) (listener : HListener) (socket : HSteamListenSocket) :
    Prop :=
  socket ≠ hSteamListenSocketInvalid ∧
    ∃ info, world.core.listeners.lookup listener = some info ∧ info.Has socket

/-- The poll group is stored in the listener or with its socket. -/
def OwnsPollGroup (world : ManagerWorld) (listener : HListener)
    (pollGroup : HSteamNetPollGroup) : Prop :=
  pollGroup ≠ hSteamNetPollGroupInvalid ∧
    ∃ info, world.core.listeners.lookup listener = some info ∧
      (info.listener.core.pollGroup = pollGroup ∨
        world.core.pollGroupOf info.socket = some pollGroup)

/-- Every table is the one of a listener's socket, with a valid poll group. -/
def TablesOwned (world : ManagerWorld) : Prop :=
  ∀ socket pollGroup, world.core.pollGroupOf socket = some pollGroup →
    socket ≠ hSteamListenSocketInvalid ∧ pollGroup ≠ hSteamNetPollGroupInvalid ∧
      ∃ listener, world.core.socketOf listener = some socket

variable {world next : ManagerWorld} {action : ManagerAction} {listener : HListener}
  {socket : HSteamListenSocket} {pollGroup : HSteamNetPollGroup}

theorem socketOf_eq_some : world.core.socketOf listener = some socket ↔
    ∃ info, world.core.listeners.lookup listener = some info ∧ info.socket = socket :=
  Option.map_eq_some_iff

theorem ownsSocket_of_socketOf (stored : world.core.socketOf listener = some socket)
    (valid : socket ≠ hSteamListenSocketInvalid) : world.OwnsSocket listener socket := by
  obtain ⟨info, found, same⟩ := socketOf_eq_some.mp stored
  exact ⟨valid, info, found, Or.inl same⟩

/-- A statement of a call is made by the network thread. -/
theorem callInProgress_of_entryAction {handle : UInt32} {info : ListenerInfo Listener}
    (acts : world.entryAction action = some (listener, .callStep handle))
    (found : world.core.listeners.lookup listener = some info) :
    action = .listenerCall handle ∧ world.net.listener? = some listener ∧
      world.callInProgress = some info.listener.call := by
  obtain rfl := listenerCall_of_entryAction acts
  obtain ⟨target, on, same⟩ := Option.map_eq_some_iff.mp acts
  cases same
  exact ⟨rfl, on, by rw [callInProgress, on, Option.bind_some, found]; rfl⟩

theorem ownsSocket_step (reaches : managerSystem.Reachable world)
    (steps : managerSystem.step world action = some next)
    (owns : next.OwnsSocket listener socket) :
    world.OwnsSocket listener socket ∨
      world.net.listener? = some listener ∧ socket ∈ world.createdSocket action := by
  obtain ⟨valid, info, found, has⟩ := owns
  rcases ((entriesStep (callsFit_of_reachable reaches) steps).entry listener info found).2 with
    ⟨⟨fresh, unbound⟩, _⟩ | ⟨before, foundBefore, rfl | ⟨move, acts, moves⟩⟩
  · rcases has with rfl | rfl
    · exact absurd unbound valid
    · rw [fresh] at valid
      exact absurd rfl valid
  · exact Or.inl ⟨valid, _, foundBefore, has⟩
  · rcases entryStep_has moves (coherent_of_found reaches foundBefore) valid has with
      had | ⟨rfl, port, call⟩
    · exact Or.inl ⟨valid, before, foundBefore, had⟩
    · obtain ⟨rfl, on, inProgress⟩ := callInProgress_of_entryAction acts foundBefore
      refine Or.inr ⟨on, ?_⟩
      simp [createdSocket, inProgress, call]

/-- The socket that a stored one was before the step. -/
theorem socketOf_step (reaches : managerSystem.Reachable world)
    (steps : managerSystem.step world action = some next) {info : ListenerInfo Listener}
    (found : world.core.listeners.lookup listener = some info)
    (bound : info.socket ≠ hSteamListenSocketInvalid) :
    ∃ changed, next.core.listeners.lookup listener = some changed ∧
      (changed.socket = info.socket ∨ world.entryAction action = some (listener, .beginStop)) := by
  have coherent := coherent_of_found reaches found
  have fits := callsFit_of_reachable reaches
  rcases kept_of_step fits steps found with ⟨changed, foundChanged⟩ | ⟨_, _, destroyed⟩
  · refine ⟨changed, foundChanged, ?_⟩
    rcases ((entriesStep fits steps).entry listener changed foundChanged).2 with
      ⟨_, absent⟩ | ⟨before, foundBefore, rfl | ⟨move, acts, moves⟩⟩
    · cases absent.symm.trans found
    · obtain rfl := Option.some.inj (foundBefore.symm.trans found)
      exact Or.inl rfl
    · obtain rfl := Option.some.inj (foundBefore.symm.trans found)
      rcases entryStep_socket moves with same | ⟨_, unbound⟩ | rfl
      · exact Or.inl same
      · exact absurd (coherent.unbound unbound) bound
      · exact Or.inr acts
  · refine absurd (coherent.unbound ?_) bound
    cases call : info.listener.call <;> rw [call] at destroyed <;> first | rfl | cases destroyed

theorem TablesOwned.step (owned : world.TablesOwned) (reaches : managerSystem.Reachable world)
    (steps : managerSystem.step world action = some next) : next.TablesOwned := by
  intro socket pollGroup found
  rcases (tableChange steps).pollGroupOf found with
    ⟨before, noStop⟩ | ⟨listener, info, handlers, acts, foundInfo, call, stored, rfl, rfl⟩
  · obtain ⟨valid, validGroup, listener, stored⟩ := owned socket pollGroup before
    obtain ⟨info, foundInfo, rfl⟩ := socketOf_eq_some.mp stored
    refine ⟨valid, validGroup, listener, ?_⟩
    obtain ⟨changed, foundChanged, same | stops⟩ := socketOf_step reaches steps foundInfo valid
    · exact socketOf_eq_some.mpr ⟨changed, foundChanged, same⟩
    · exact absurd rfl (noStop listener info stops foundInfo valid)
  · have fits := (coherent_of_found reaches foundInfo).handles
    unfold ListenerInfo.HandlesFit at fits
    rw [call] at fits
    obtain ⟨⟨valid, validGroup⟩, same⟩ := fits
    rw [same] at stored ⊢
    exact ⟨valid, validGroup, listener, stored⟩

/-- The handles that a step creates are invalid or new. -/
theorem sockets_step {sockets : List HSteamListenSocket} (reaches : managerSystem.Reachable world)
    (steps : managerSystem.step world action = some next)
    (apart : HandedOut world.OwnsSocket sockets)
    (fresh : ∀ handle ∈ world.createdSocket action,
      handle = hSteamListenSocketInvalid ∨ handle ∉ sockets) :
    HandedOut next.OwnsSocket (sockets ++ world.createdSocket action) := by
  refine apart.step (fun _ _ owns => ownsSocket_step reaches steps owns) ?_
  intro listener handle owns created
  exact (fresh handle created).resolve_left owns.1

/-- A stored socket with a table was stored before, unless its table is new. -/
theorem stored_of_pollGroupOf {sockets : List HSteamListenSocket} {info : ListenerInfo Listener}
    (reaches : managerSystem.Reachable world) (owned : world.TablesOwned)
    (apart : HandedOut world.OwnsSocket sockets)
    (steps : managerSystem.step world action = some next)
    (found : next.core.listeners.lookup listener = some info)
    (before : world.core.pollGroupOf info.socket = some pollGroup) :
    world.core.socketOf listener = some info.socket := by
  obtain ⟨valid, _, owner, stored⟩ := owned _ _ before
  have owns := ownsSocket_of_socketOf stored valid
  rcases ((entriesStep (callsFit_of_reachable reaches) steps).entry listener info found).2 with
    ⟨⟨_, unbound⟩, _⟩ | ⟨earlier, foundBefore, rfl | ⟨move, acts, moves⟩⟩
  · exact absurd unbound valid
  · exact socketOf_eq_some.mpr ⟨_, foundBefore, rfl⟩
  · rcases entryStep_socket moves with same | ⟨rfl, _⟩ | rfl
    · exact socketOf_eq_some.mpr ⟨earlier, foundBefore, same.symm⟩
    · have coherent := coherent_of_found reaches foundBefore
      rcases entryStep_has moves coherent valid (Or.inl rfl) with had | ⟨calls, _⟩
      · rw [apart.apart ⟨valid, earlier, foundBefore, had⟩ owns]
        exact stored
      · cases calls
    · cases entryStep_of_entryStep moves with
      | beginStop => exact absurd rfl valid

theorem ownsPollGroup_step {sockets further : List HSteamListenSocket}
    (reaches : managerSystem.Reachable world) (owned : world.TablesOwned)
    (apart : HandedOut world.OwnsSocket sockets) (apartNext : HandedOut next.OwnsSocket further)
    (steps : managerSystem.step world action = some next)
    (owns : next.OwnsPollGroup listener pollGroup) :
    world.OwnsPollGroup listener pollGroup ∨
      world.net.listener? = some listener ∧ pollGroup ∈ world.createdPollGroup action := by
  obtain ⟨valid, info, found, rfl | withTable⟩ := owns
  · rcases ((entriesStep (callsFit_of_reachable reaches) steps).entry listener info found).2 with
      ⟨⟨fresh, _⟩, _⟩ | ⟨before, foundBefore, rfl | ⟨move, acts, moves⟩⟩
    · rw [fresh] at valid
      exact absurd rfl valid
    · exact Or.inl ⟨valid, _, foundBefore, Or.inl rfl⟩
    · rcases entryStep_pollGroup moves valid with same | ⟨rfl, call⟩
      · exact Or.inl ⟨valid, before, foundBefore, Or.inl same.symm⟩
      · obtain ⟨rfl, on, inProgress⟩ := callInProgress_of_entryAction acts foundBefore
        refine Or.inr ⟨on, ?_⟩
        simp [createdPollGroup, inProgress, call]
  · refine Or.inl ⟨valid, ?_⟩
    rcases (tableChange steps).pollGroupOf withTable with
      ⟨before, _⟩ | ⟨opener, opened, handlers, acts, foundOpened, call, stored, same, rfl⟩
    · obtain ⟨earlier, foundBefore, same⟩ := socketOf_eq_some.mp
        (stored_of_pollGroupOf reaches owned apart steps found before)
      exact ⟨earlier, foundBefore, Or.inr (same ▸ before)⟩
    · have fits := (coherent_of_found reaches foundOpened).handles
      unfold ListenerInfo.HandlesFit at fits
      rw [call] at fits
      obtain ⟨⟨validSocket, _⟩, handles⟩ := fits
      have here : next.core.socketOf listener = some handlers.socket :=
        socketOf_eq_some.mpr ⟨info, found, same⟩
      rw [handles] at here stored
      obtain rfl := apartNext.apart (ownsSocket_of_socketOf here validSocket)
        (ownsSocket_of_socketOf stored validSocket)
      exact ⟨opened, foundOpened, Or.inl (by rw [handles])⟩

theorem pollGroups_step {sockets further : List HSteamListenSocket}
    {pollGroups : List HSteamNetPollGroup} (reaches : managerSystem.Reachable world)
    (owned : world.TablesOwned) (apart : HandedOut world.OwnsSocket sockets)
    (apartNext : HandedOut next.OwnsSocket further)
    (steps : managerSystem.step world action = some next)
    (groups : HandedOut world.OwnsPollGroup pollGroups)
    (fresh : ∀ handle ∈ world.createdPollGroup action,
      handle = hSteamNetPollGroupInvalid ∨ handle ∉ pollGroups) :
    HandedOut next.OwnsPollGroup (pollGroups ++ world.createdPollGroup action) := by
  refine groups.step
    (fun _ _ owns => ownsPollGroup_step reaches owned apart apartNext steps owns) ?_
  intro listener handle owns created
  exact (fresh handle created).resolve_left owns.1

end ManagerWorld

/-- Everything that a step can do. -/
inductive AcceptingStep (world : AcceptingManager) :
    AcceptingAction → AcceptingManager → Prop where
  | manager {action : ManagerAction} {manager : ManagerWorld}
      (free : world.accepting = none ∨ action.isElsewhere = true)
      (steps : managerSystem.step world.manager action = some manager) :
      AcceptingStep world (.manager action) { world with
        manager
        sockets := world.sockets ++ world.manager.createdSocket action
        pollGroups := world.pollGroups ++ world.manager.createdPollGroup action }
  | assign {info : SteamNetConnectionStatusChangedCallback} {pollGroup : HSteamNetPollGroup}
      (connecting : info.state = .connecting) (none : world.accepting = none)
      (found : world.manager.core.pollGroupOf info.listenSocket = some pollGroup) :
      AcceptingStep world (.setConnectionPollGroup info) { world with
        accepting := some info
        assigned := world.assigned ++ [(info.hConn, pollGroup)] }
  | pushBack {info : SteamNetConnectionStatusChangedCallback} {manager : ManagerWorld}
      (accepting : world.accepting = some info)
      (steps : managerSystem.step world.manager (.runCallback info .ok true) = some manager) :
      AcceptingStep world .pushBack { world with manager, accepting := none }

theorem acceptingStep {world next : AcceptingManager} {action : AcceptingAction}
    (steps : acceptingSystem.step world action = some next) :
    AcceptingStep world action next := by
  cases action with
  | manager action =>
      dsimp only [acceptingSystem] at steps
      split at steps
      · cases steps
      next free =>
        obtain ⟨manager, moves, rfl⟩ := Option.map_eq_some_iff.mp steps
        refine .manager ?_ moves
        cases accepting : world.accepting with
        | none => exact Or.inl rfl
        | some info =>
            have both : action.isAccepting = false ∧ action.isElsewhere = true := by
              simpa [accepting] using free
            exact Or.inr both.2
  | setConnectionPollGroup info =>
      dsimp only [acceptingSystem] at steps
      split at steps
      next none connecting =>
        obtain ⟨socketInfo, found, rfl⟩ := Option.map_eq_some_iff.mp steps
        exact .assign connecting none (by rw [pollGroupOf, found]; rfl)
      · cases steps
  | pushBack =>
      obtain ⟨info, accepting, rest⟩ := Option.bind_eq_some_iff.mp steps
      obtain ⟨manager, moves, rfl⟩ := Option.map_eq_some_iff.mp rest
      exact .pushBack accepting moves

/-- The listeners own their handles, and connections have been put into poll groups of
theirs. -/
structure HandlesApart (world : AcceptingManager) : Prop where
  reached : managerSystem.Reachable world.manager
  tables : world.manager.TablesOwned
  sockets : HandedOut world.manager.OwnsSocket world.sockets
  pollGroups : HandedOut world.manager.OwnsPollGroup world.pollGroups
  assigned : ∀ connection pollGroup, (connection, pollGroup) ∈ world.assigned →
    pollGroup ∈ world.pollGroups
  accepting : ∀ info, world.accepting = some info → info.state = .connecting

section Fresh

variable {world : AcceptingManager} {action : ManagerAction}
  (meets : KeepsContract world (.manager action))
include meets

theorem freshSocket : ∀ handle ∈ world.manager.createdSocket action,
    handle = hSteamListenSocketInvalid ∨ handle ∉ world.sockets := by
  intro handle created
  unfold createdSocket at created
  split at created
  next given =>
    split at created
    next port call =>
      obtain rfl := List.mem_singleton.mp created
      simpa [KeepsContract, keepsContract, call] using meets
    · cases created
  · cases created

theorem freshPollGroup : ∀ handle ∈ world.manager.createdPollGroup action,
    handle = hSteamNetPollGroupInvalid ∨ handle ∉ world.pollGroups := by
  intro handle created
  unfold createdPollGroup at created
  split at created
  next given =>
    split at created
    next call =>
      obtain rfl := List.mem_singleton.mp created
      simpa [KeepsContract, keepsContract, call] using meets
    · cases created
  · cases created

end Fresh

namespace HandlesApart

variable {world next : AcceptingManager} {action : AcceptingAction}

theorem initial : HandlesApart {} where
  reached := .initial rfl
  tables socket pollGroup found := by cases found
  sockets := .none fun listener socket owns => by
    obtain ⟨_, info, found, _⟩ := owns
    cases found
  pollGroups := .none fun listener pollGroup owns => by
    obtain ⟨_, info, found, _⟩ := owns
    cases found
  assigned connection pollGroup member := by cases member
  accepting info accepts := by cases accepts

/-- The poll group of a table is owned by the listener of its socket. -/
theorem ownsPollGroup (apart : HandlesApart world) {socket : HSteamListenSocket}
    {pollGroup : HSteamNetPollGroup}
    (found : world.manager.core.pollGroupOf socket = some pollGroup) :
    ∃ listener, world.manager.core.socketOf listener = some socket ∧
      world.manager.OwnsPollGroup listener pollGroup := by
  obtain ⟨_, valid, listener, stored⟩ := apart.tables socket pollGroup found
  obtain ⟨info, foundInfo, rfl⟩ := socketOf_eq_some.mp stored
  exact ⟨listener, stored, valid, info, foundInfo, Or.inr found⟩

theorem manager (apart : HandlesApart world) {action : ManagerAction} {manager : ManagerWorld}
    (meets : KeepsContract world (.manager action))
    (steps : managerSystem.step world.manager action = some manager) :
    HandlesApart { world with
      manager
      sockets := world.sockets ++ world.manager.createdSocket action
      pollGroups := world.pollGroups ++ world.manager.createdPollGroup action } := by
  have sockets := sockets_step apart.reached steps apart.sockets (freshSocket meets)
  refine ⟨apart.reached.step trivial steps, apart.tables.step apart.reached steps, sockets,
    pollGroups_step apart.reached apart.tables apart.sockets sockets steps apart.pollGroups
      (freshPollGroup meets), ?_, apart.accepting⟩
  intro connection pollGroup member
  exact List.mem_append_left _ (apart.assigned connection pollGroup member)

theorem step (apart : HandlesApart world) (meets : KeepsContract world action)
    (steps : acceptingSystem.step world action = some next) : HandlesApart next := by
  cases acceptingStep steps with
  | manager _ moves => exact apart.manager meets moves
  | @assign info pollGroup connecting _ found =>
      refine ⟨apart.reached, apart.tables, apart.sockets, apart.pollGroups, ?_, ?_⟩
      · intro connection group member
        rcases List.mem_append.mp member with before | added
        · exact apart.assigned connection group before
        · obtain ⟨rfl, rfl⟩ := Prod.mk.inj (List.mem_singleton.mp added)
          obtain ⟨listener, _, owns⟩ := apart.ownsPollGroup found
          exact apart.pollGroups.member owns
      · rintro _ ⟨⟩
        exact connecting
  | @pushBack event _ _ moves =>
      have contract : KeepsContract world (.manager (.runCallback event .ok true)) := rfl
      have moved := apart.manager contract moves
      refine ⟨moved.reached, moved.tables, ?_, ?_, apart.assigned, nofun⟩
      · simpa [createdSocket] using moved.sockets
      · simpa [createdPollGroup] using moved.pollGroups

end HandlesApart

theorem handlesApart_of_reachable {world : AcceptingManager}
    (reaches : acceptingSystem.ReachableWhere KeepsContract world) : HandlesApart world := by
  refine reaches.invariant HandlesApart ?_ ?_
  · rintro _ rfl
    exact .initial
  · intro world action next _ apart meets steps
    exact apart.step meets steps

/-- The connection is in the poll group of the listener's socket, and about to be put
into the table. -/
def Entering (world : AcceptingManager) (listener : HListener)
    (connection : HSteamNetConnection) : Prop :=
  ∃ info, world.accepting = some info ∧ info.hConn = connection ∧
    info.listenSocket ≠ hSteamListenSocketInvalid ∧
    world.manager.core.socketOf listener = some info.listenSocket

/-- The connection was accepted on a socket of the listener, or is being accepted. -/
def Introduced (trace : List (AcceptingManager × AcceptingAction)) (world : AcceptingManager)
    (listener : HListener) (connection : HSteamNetConnection) : Prop :=
  (∃ step ∈ trace, acceptsOn listener connection step = true) ∨
    Entering world listener connection

section Introduced

variable {trace : List (AcceptingManager × AcceptingAction)} {world next : AcceptingManager}
  {action : AcceptingAction} {listener : HListener} {connection : HSteamNetConnection}

/-- Other threads do not stop a listener. -/
theorem not_beginStop_of_isElsewhere {world : ManagerWorld} {action : ManagerAction}
    (elsewhere : action.isElsewhere = true) :
    world.entryAction action ≠ some (listener, .beginStop) := by
  intro acts
  cases action with
  | request | run | wake => cases acts
  | _ => cases elsewhere

/-- A connection that is being put into the table has been put there when `Connecting`
returns. -/
theorem Introduced.step (introduced : Introduced trace world listener connection)
    (apart : HandlesApart world) (steps : acceptingSystem.step world action = some next) :
    Introduced (trace ++ [(world, action)]) next listener connection := by
  rcases introduced with ⟨step, member, accepts⟩ | ⟨info, accepting, same, valid, stored⟩
  · exact Or.inl ⟨step, List.mem_append_left _ member, accepts⟩
  · cases acceptingStep steps with
    | manager free moves =>
        rcases free with none | elsewhere
        · cases accepting.symm.trans none
        · obtain ⟨entry, found, bound⟩ := socketOf_eq_some.mp stored
          obtain ⟨changed, foundChanged, kept⟩ :=
            socketOf_step apart.reached moves found (bound ▸ valid)
          have kept := kept.resolve_right (not_beginStop_of_isElsewhere elsewhere)
          exact Or.inr ⟨info, accepting, same, valid,
            socketOf_eq_some.mpr ⟨changed, foundChanged, kept.trans bound⟩⟩
    | assign _ none => cases accepting.symm.trans none
    | pushBack =>
        refine Or.inl ⟨(world, .pushBack), by simp, ?_⟩
        simp [acceptsOn, accepting, same, valid, stored]

/-- Connections in a listener's poll group, and those that a message has come from,
were accepted on its socket or are being accepted. -/
structure RequestsIntroduced (trace : List (AcceptingManager × AcceptingAction))
    (world : AcceptingManager) : Prop where
  assigned : ∀ connection listener info,
    (connection, info.listener.core.pollGroup) ∈ world.assigned →
    info.listener.core.pollGroup ≠ hSteamNetPollGroupInvalid →
    world.manager.core.listeners.lookup listener = some info →
    Introduced trace world listener connection
  received : ∀ connection listener info, info.listener.Brings connection →
    world.manager.core.listeners.lookup listener = some info →
    Introduced trace world listener connection

namespace RequestsIntroduced

/-- A step of the manager brings messages of connections in the poll group only. -/
theorem manager {further : List (AcceptingManager × AcceptingAction)} {action : ManagerAction}
    (requests : RequestsIntroduced trace world) (apart : HandlesApart world)
    (meets : KeepsContract world (.manager action))
    (steps : managerSystem.step world.manager action = some next.manager)
    (assigned : next.assigned = world.assigned)
    (carries : ∀ listener connection, Introduced trace world listener connection →
      Introduced further next listener connection) : RequestsIntroduced further next := by
  have entries := entriesStep (callsFit_of_reachable apart.reached) steps
  constructor
  · intro connection listener info member valid found
    rw [assigned] at member
    rcases (entries.entry listener info found).2 with
      ⟨⟨fresh, _⟩, _⟩ | ⟨before, foundBefore, rfl | ⟨move, acts, moves⟩⟩
    · rw [fresh] at valid
      exact absurd rfl valid
    · exact carries _ _ (requests.assigned connection listener _ member valid foundBefore)
    · rcases entryStep_pollGroup moves valid with same | ⟨rfl, call⟩
      · rw [same] at member valid
        exact carries _ _ (requests.assigned connection listener before member valid foundBefore)
      · obtain ⟨rfl, _, inProgress⟩ := callInProgress_of_entryAction acts foundBefore
        have created : info.listener.core.pollGroup ∈ world.manager.createdPollGroup
            (.listenerCall info.listener.core.pollGroup) := by
          simp [createdPollGroup, inProgress, call]
        have new := (freshPollGroup meets _ created).resolve_left valid
        exact absurd (apart.assigned connection _ member) new
  · intro connection listener info brings found
    rcases (entries.entry listener info found).2 with
      ⟨⟨fresh, _⟩, _⟩ | ⟨before, foundBefore, rfl | ⟨move, acts, moves⟩⟩
    · rw [fresh] at brings
      rcases brings with ⟨message, queued, _⟩ | ⟨message, place, _⟩
      · cases queued
      · cases place
    · exact carries _ _ (requests.received connection listener _ brings foundBefore)
    · rcases entryStep_brings moves brings with before' | ⟨receives, message, rfl, rfl⟩
      · exact carries _ _ (requests.received connection listener before before' foundBefore)
      · obtain rfl := run_of_entryAction acts
        have isOpen := (coherent_of_found apart.reached foundBefore).uses (by
          cases place : before.listener.thread <;> rw [place] at receives <;>
            first | rfl | cases receives)
        have member : (message.connection, before.listener.core.pollGroup) ∈ world.assigned := by
          simpa [KeepsContract, keepsContract, foundBefore, receives] using meets
        exact carries _ _ (requests.assigned _ listener before member isOpen.2 foundBefore)

theorem step (requests : RequestsIntroduced trace world) (apart : HandlesApart world)
    (meets : KeepsContract world action) (steps : acceptingSystem.step world action = some next) :
    RequestsIntroduced (trace ++ [(world, action)]) next := by
  have carries (listener : HListener) (connection : HSteamNetConnection)
      (introduced : Introduced trace world listener connection) :=
    introduced.step apart steps
  cases acceptingStep steps with
  | manager _ moves => exact requests.manager apart meets moves rfl carries
  | @assign event pollGroup connecting _ foundTable =>
      constructor
      · intro connection listener info member valid found
        rcases List.mem_append.mp member with before | added
        · exact carries _ _ (requests.assigned connection listener info before valid found)
        · obtain ⟨rfl, rfl⟩ := Prod.mk.inj (List.mem_singleton.mp added)
          obtain ⟨owner, stored, owns⟩ := apart.ownsPollGroup foundTable
          have ownsToo : world.manager.OwnsPollGroup listener info.listener.core.pollGroup :=
            ⟨valid, info, found, Or.inl rfl⟩
          obtain rfl := apart.pollGroups.apart owns ownsToo
          exact Or.inr ⟨event, rfl, rfl, (apart.tables _ _ foundTable).1, stored⟩
      · intro connection listener info brings found
        exact carries _ _ (requests.received connection listener info brings found)
  | @pushBack event _ _ moves =>
      have contract : KeepsContract world (.manager (.runCallback event .ok true)) := rfl
      exact requests.manager apart contract moves rfl carries

end RequestsIntroduced

end Introduced

/-- The connection is in the table of the listener's socket. -/
def Connected (world : AcceptingManager) (listener : HListener)
    (connection : HSteamNetConnection) : Prop :=
  ∃ info, world.manager.core.listeners.lookup listener = some info ∧
    info.socket ≠ hSteamListenSocketInvalid ∧
    world.manager.core.InTable info.socket connection

section Connected

variable {world next : AcceptingManager} {action : AcceptingAction} {listener : HListener}
  {connection : HSteamNetConnection}

/-- A listener begins to stop when its stop or its destruction is taken up. -/
theorem endsConnection_of_beginStop {action : ManagerAction}
    (acts : world.manager.entryAction action = some (listener, .beginStop)) :
    endsConnection listener connection (world, .manager action) = true := by
  cases action with
  | pollFunctionCall =>
      obtain ⟨call, head, acts⟩ := Option.bind_eq_some_iff.mp acts
      obtain ⟨rest, calls⟩ := List.head?_eq_some_iff.mp head
      rw [endsConnection, calls]
      cases call with
      | stopListening target =>
          cases acts
          simp
      | destroyListener target =>
          rw [callAction] at acts
          split at acts
          · cases acts
          · cases acts
            simp
      | pushOutgoingMessageQueue target message =>
          rw [callAction] at acts
          split at acts
          · cases acts
          · cases acts
      | _ => cases acts
  | proceed =>
      obtain ⟨target, _, acts⟩ := Option.bind_eq_some_iff.mp acts
      obtain ⟨info, _, acts⟩ := Option.bind_eq_some_iff.mp acts
      obtain ⟨move, resumes, acts⟩ := Option.map_eq_some_iff.mp acts
      cases acts
      exact absurd rfl (resumeAction_quiet resumes).1
  | listenerCall handle =>
      obtain ⟨target, _, acts⟩ := Option.map_eq_some_iff.mp acts
      cases acts
  | _ => cases acts

theorem Connected.manager (connected : Connected world listener connection)
    (apart : HandlesApart world) {action : ManagerAction}
    (steps : managerSystem.step world.manager action = some next.manager)
    (stays : endsConnection listener connection (world, .manager action) = false) :
    Connected next listener connection := by
  have noStop : world.manager.entryAction action ≠ some (listener, .beginStop) := fun acts =>
    absurd (stays.symm.trans (endsConnection_of_beginStop acts)) Bool.false_ne_true
  obtain ⟨info, found, bound, present⟩ := connected
  obtain ⟨changed, foundChanged, kept⟩ := socketOf_step apart.reached steps found bound
  have kept := kept.resolve_right noStop
  refine ⟨changed, foundChanged, kept ▸ bound, ?_⟩
  rw [kept]
  refine (tableChange steps).inTable present ?_ ?_
  · intro other otherInfo acts foundOther same
    have owns : world.manager.OwnsSocket listener info.socket :=
      ⟨bound, info, found, Or.inl rfl⟩
    have ownsToo : world.manager.OwnsSocket other info.socket :=
      ⟨bound, otherInfo, foundOther, Or.inl same.symm⟩
    obtain rfl := apart.sockets.apart owns ownsToo
    exact noStop acts
  · intro event delivers closes same
    cases action with
    | runCallback info accepted grouped =>
        obtain rfl := Option.some.inj delivers
        simp [endsConnection, same, closes.symm] at stays
    | _ => cases delivers

theorem Connected.step (connected : Connected world listener connection)
    (apart : HandlesApart world) (steps : acceptingSystem.step world action = some next)
    (stays : endsConnection listener connection (world, action) = false) :
    Connected next listener connection := by
  cases acceptingStep steps with
  | manager _ moves => exact connected.manager apart moves stays
  | assign => exact connected
  | @pushBack event _ accepting moves =>
      have stays : endsConnection listener connection
          (world, .manager (.runCallback event .ok true)) = false := by
        simp [endsConnection, apart.accepting event accepting]
      exact connected.manager apart moves stays

/-- `push_back`. -/
theorem connected_of_acceptsOn (apart : HandlesApart world)
    (accepts : acceptsOn listener connection (world, action) = true)
    (steps : acceptingSystem.step world action = some next) :
    Connected next listener connection := by
  cases acceptingStep steps with
  | manager | assign => cases accepts
  | @pushBack event manager accepting moves =>
      obtain ⟨rfl, valid, stored⟩ : event.hConn = connection ∧
          event.listenSocket ≠ hSteamListenSocketInvalid ∧
          world.manager.core.socketOf listener = some event.listenSocket := by
        simpa [acceptsOn, accepting] using accepts
      obtain ⟨info, found, same⟩ := socketOf_eq_some.mp stored
      cases step_of_step moves with
      | runCallback _ delivers =>
          have sameListeners := listeners_callbackManager delivers
          rw [callbackManager, apart.accepting event accepting] at delivers
          obtain ⟨table, foundTable⟩ :=
            mem_socketClientsMap_iff.mp (present_of_connecting delivers rfl)
          refine ⟨info, sameListeners ▸ found, same ▸ valid, table ++ [event.hConn], ?_, by simp⟩
          rw [same, tableOf_of_connecting delivers, if_pos ⟨rfl, rfl, rfl⟩, foundTable]
          rfl

theorem pushOutgoing_of_inTable {world : ManagerWorld} {info : ListenerInfo Listener}
    {response : Request} (found : world.core.listeners.lookup listener = some info)
    (bound : info.socket ≠ hSteamListenSocketInvalid)
    (present : world.core.InTable info.socket response.connection) :
    ∃ next, world.pushOutgoing listener response = some next ∧
      next.net = .returned (.done (.ok ())) ∧
      next.core.listeners.lookup listener =
        some (info.setListener (IListener.pushOutgoing
          { info.listener with mark := world.accepted + 1 } response)) := by
  have foundMarked : (world.core.callListener listener fun object =>
      { object with mark := world.accepted + 1 }).listeners.lookup listener =
      some (info.setListener { info.listener with mark := world.accepted + 1 }) :=
    lookup_callListener.trans (by rw [if_pos rfl, found]; rfl)
  have accepts := pushOutgoing_eq_ok.mpr ⟨_, foundMarked, bound, present, rfl⟩
  unfold pushOutgoing
  dsimp only
  rw [accepts]
  exact ⟨_, rfl, rfl, lookup_updateListener.trans (by rw [if_pos rfl, foundMarked]; rfl)⟩

/-- A response for a connection in the table is accepted. -/
theorem Connected.takesResponse {response : Request}
    (connected : Connected world listener response.connection) :
    TakesResponse world listener response := by
  obtain ⟨info, found, bound, present⟩ := connected
  intro rest calls idle free
  have steps : ∃ manager, managerSystem.step world.manager .pollFunctionCall = some manager ∧
      manager.net = .returned (.done (.ok ())) ∧
      manager.core.listeners.lookup listener =
        some (info.setListener (IListener.pushOutgoing
          { info.listener with mark := world.manager.accepted + 1 } response)) := by
    change ∃ manager, world.manager.pollFunctionCall = some manager ∧ _
    rw [pollFunctionCall, idle, calls]
    exact pushOutgoing_of_inTable found bound present
  obtain ⟨manager, moves, returns, lookup⟩ := steps
  refine ⟨{ world with
    manager
    sockets := world.sockets ++ []
    pollGroups := world.pollGroups ++ [] }, info, _, ?_, returns, found, lookup, ?_⟩
  · dsimp only [acceptingSystem]
    rw [free, moves]
    rfl
  · exact List.map_append

end Connected

variable {world : AcceptingManager} {actions : List AcceptingAction} {listener : HListener}

theorem requestsIntroduced_of_run
    (steps : acceptingSystem.StepsWhere KeepsContract {} actions world) :
    RequestsIntroduced (acceptingSystem.trace {} actions) world := by
  refine steps.invariant
    (fun actions world => RequestsIntroduced (acceptingSystem.trace {} actions) world) ?_ ?_
  · constructor
    · intro connection listener info member
      cases member
    · intro connection listener info _ found
      cases found
  · intro actions middle action last before requests meets stepTo
    rw [before.trace_concat]
    exact requests.step (handlesApart_of_reachable ⟨_, actions, rfl, before⟩) meets stepTo

/-- When the network thread pops a request, its connection has been accepted. -/
theorem accepted_of_popped {earlier later : List (AcceptingManager × AcceptingAction)}
    {popping : AcceptingManager × AcceptingAction} {request : Request}
    (steps : acceptingSystem.StepsWhere KeepsContract {} actions world)
    (split : acceptingSystem.trace {} actions = earlier ++ popping :: later)
    (pops : requestFrom? listener popping = some request) :
    ∃ step ∈ earlier, acceptsOn listener request.connection step = true := by
  obtain ⟨before, next, run, rfl, _, stepTo⟩ := steps.step_of_trace split
  obtain ⟨state, action⟩ := popping
  have requests := requestsIntroduced_of_run run
  cases action with
  | setConnectionPollGroup | pushBack => cases pops
  | manager action =>
      cases action with
      | pollFunctionCall =>
          dsimp only [requestFrom?] at pops
          split at pops
          next target rest calls =>
            split at pops
            next same =>
              subst same
              have brings : ∃ info, state.manager.core.listeners.lookup target = some info ∧
                  info.listener.Brings request.connection := by
                unfold tryPopReceivedMessageQueue at pops
                split at pops
                next given popped =>
                  split at popped
                  · cases popped
                  next info valid =>
                    rw [isValidListenerHandler_eq_ok] at valid
                    have queued : (IListener.tryPopReceived info.listener).1 = some request :=
                      (Except.ok.inj popped).trans pops
                    obtain ⟨message, head, rfl⟩ := Option.map_eq_some_iff.mp queued
                    exact ⟨info, valid, Or.inl ⟨message,
                      ThreadSaveQueue.mem_of_tryPop_eq_some head, rfl⟩⟩
                · cases pops
              obtain ⟨info, found, brings⟩ := brings
              rcases requests.received _ _ info brings found with accepted | ⟨_, accepting, _⟩
              · exact accepted
              · cases acceptingStep stepTo with
                | manager free =>
                    rcases free with none | elsewhere
                    · cases accepting.symm.trans none
                    · cases elsewhere
            · cases pops
          · cases pops
      | _ => cases pops

/-- Every request that a client pops was accepted on a socket of its listener before.
From then on, until the connection is closed or the listener is stopped or destroyed,
a response is accepted. -/
theorem requests_can_be_answered
    (steps : acceptingSystem.StepsWhere KeepsContract {} actions world)
    (earlier later : List (AcceptingManager × AcceptingAction))
    (popping : AcceptingManager × AcceptingAction) (request : Request)
    (split : acceptingSystem.trace {} actions = earlier ++ popping :: later)
    (pops : requestFrom? listener popping = some request) :
    (∃ step ∈ earlier, acceptsOn listener request.connection step = true) ∧
      ∀ before accepting after,
        acceptingSystem.trace {} actions = before ++ accepting :: after →
        acceptsOn listener request.connection accepting = true →
        (∀ step ∈ after, endsConnection listener request.connection step = false) →
        ∀ response : Request, response.connection = request.connection →
          TakesResponse world listener response := by
  refine ⟨accepted_of_popped steps split pops, ?_⟩
  intro before accepting after splitAccepting accepts stays response same
  apply Connected.takesResponse
  rw [same]
  refine steps.since (fun step => acceptsOn listener request.connection step = true)
    (fun step => endsConnection listener request.connection step = true)
    (fun world => Connected world listener request.connection) ?_ ?_ splitAccepting accepts ?_
  · intro actions state action next run opens stepTo
    exact connected_of_acceptsOn (handlesApart_of_reachable ⟨_, actions, rfl, run⟩) opens stepTo
  · intro actions state action next run connected _ stays stepTo
    exact connected.step (handlesApart_of_reachable ⟨_, actions, rfl, run⟩) stepTo
      (eq_false_of_ne_true stays)
  · intro step member ends
    exact absurd ((stays step member).symm.trans ends) Bool.false_ne_true

/-- Listener 1 is started on socket 5.  Its thread receives and stores a message of
connection 9 while the network thread has not put the connection into the table yet.
A client pops the message and answers. -/
def answerEarly : List AcceptingAction :=
  (createParked ++ startParked).map .manager ++
    [.setConnectionPollGroup ⟨9, 5, .connecting, .none⟩] ++
    List.replicate 7 (.manager (.run 1 .none)) ++
    [.manager (.run 1 (.message ⟨9, [71]⟩)), .manager (.run 1 .none), .pushBack,
      .manager (.request (.tryPopReceivedMessageQueue 1)), .manager .pollFunctionCall,
      .manager .proceed, .manager (.request (.pushOutgoingMessageQueue 1 ⟨9, [72]⟩))]

theorem requests_can_be_answered_early :
    ∃ world next, acceptingSystem.StepsWhere KeepsContract {} answerEarly world ∧
      acceptingSystem.step world (.manager .pollFunctionCall) = some next ∧
      next.manager.net = .returned (.done (.ok ())) := by
  have executes : ∃ world,
      acceptingSystem.runWhere KeepsContract {} answerEarly = some world ∧
      world.manager.functionCalls = [.pushOutgoingMessageQueue 1 ⟨9, [72]⟩] ∧
      world.manager.net = .idle ∧ world.accepting = none :=
    ⟨_, rfl, rfl, rfl, rfl⟩
  obtain ⟨world, executes, calls, idle, free⟩ := executes
  have steps := TransitionSystem.runWhere_eq_some_iff.mp executes
  have pops : ∃ popping, acceptingSystem.trace {} answerEarly =
        (acceptingSystem.trace {} answerEarly).take 31 ++ popping ::
          (acceptingSystem.trace {} answerEarly).drop 32 ∧
      requestFrom? 1 popping = some ⟨9, [71]⟩ :=
    ⟨_, rfl, rfl⟩
  have accepts : ∃ accepting, acceptingSystem.trace {} answerEarly =
        (acceptingSystem.trace {} answerEarly).take 29 ++ accepting ::
          (acceptingSystem.trace {} answerEarly).drop 30 ∧
      acceptsOn 1 9 accepting = true ∧
      (((acceptingSystem.trace {} answerEarly).drop 30).all
        fun step => !endsConnection 1 9 step) = true :=
    ⟨_, rfl, rfl, rfl⟩
  obtain ⟨popping, split, pops⟩ := pops
  obtain ⟨accepting, splitAccepting, accepts, stays⟩ := accepts
  have answers := (requests_can_be_answered steps _ _ popping _ split pops).2 _ accepting _
    splitAccepting accepts (fun step member => by simpa using List.all_eq_true.mp stays step member)
    ⟨9, [72]⟩ rfl
  obtain ⟨next, _, _, pushes, returns, _⟩ := answers [] calls idle free
  exact ⟨world, next, steps, pushes, returns⟩

end HttpServer
