import HttpServer.ConnectionTables
import Mathlib.Logic.Function.Basic

/-!
# Status events and the callbacks they reach

Steam queues a status event when a connection changes its state and delivers it
at a later `RunCallbacks`, in order and to the manager core as it is by then.
A run interleaves the operations of the core with Steam queueing events and
`RunCallbacks` delivering them.  Two things can come between a connection's
events: its socket is stopped, or its `Connecting` callback refuses it.  The
asserts of `Connecting` and `Disconnected` fail exactly when an event is
delivered that one of these has overtaken.
-/

namespace HttpServer

open NetworkManagerCore

/-- The asserts of `Connecting` and `Disconnected`. -/
def Fault.isCallback : Fault → Bool
  | .connectingSocketMissing | .disconnectedOldState | .disconnectedSocketMissing
  | .disconnectedConnectionMissing => true
  | _ => false

/-- What Steam has reported of a connection so far: nothing, that it arrived on
a socket and perhaps that it connected, or also that it ended. -/
inductive SteamConnection where
  | unknown
  | opened (socket : HSteamListenSocket) (connected : Bool)
  | closed (socket : HSteamListenSocket) (connected byPeer : Bool)
deriving DecidableEq

def connectingEvent (connection : HSteamNetConnection) (socket : HSteamListenSocket) :
    SteamNetConnectionStatusChangedCallback :=
  { hConn := connection, listenSocket := socket, state := .connecting, oldState := .none }

def connectedEvent (connection : HSteamNetConnection) (socket : HSteamListenSocket) :
    SteamNetConnectionStatusChangedCallback :=
  { hConn := connection, listenSocket := socket, state := .connected,
    oldState := .connecting }

def closedEvent (connection : HSteamNetConnection) (socket : HSteamListenSocket)
    (connected byPeer : Bool) : SteamNetConnectionStatusChangedCallback :=
  { hConn := connection, listenSocket := socket
    state := if byPeer then .closedByPeer else .problemDetectedLocally
    oldState := if connected then .connected else .connecting }

namespace SteamConnection

variable {steam : SteamConnection} {connection : HSteamNetConnection}

def socket? : SteamConnection → Option HSteamListenSocket
  | unknown => none
  | opened socket _ | closed socket _ _ => some socket

def isClosed : SteamConnection → Bool
  | closed _ _ _ => true
  | _ => false

def openedEvents (connection : HSteamNetConnection) (socket : HSteamListenSocket) :
    Bool → List SteamNetConnectionStatusChangedCallback
  | false => [connectingEvent connection socket]
  | true => [connectingEvent connection socket, connectedEvent connection socket]

/-- All events that were queued for a connection, oldest first. -/
def history (connection : HSteamNetConnection) :
    SteamConnection → List SteamNetConnectionStatusChangedCallback
  | unknown => []
  | opened socket connected => openedEvents connection socket connected
  | closed socket connected byPeer =>
      openedEvents connection socket connected ++
        [closedEvent connection socket connected byPeer]

/-- The next event to be delivered for a connection is its first one, or the
report that it connected, or the last one. -/
theorem history_cases {event : SteamNetConnectionStatusChangedCallback}
    {rest : List SteamNetConnectionStatusChangedCallback}
    (awaits : event :: rest <:+ steam.history connection) :
    ∃ socket, steam.socket? = some socket ∧ event.hConn = connection ∧
      event.listenSocket = socket ∧
      ((event.state = .connecting ∧ event :: rest = steam.history connection) ∨
        (event.state = .connected ∧ event :: rest ≠ steam.history connection) ∨
        ((event.state = .closedByPeer ∨ event.state = .problemDetectedLocally) ∧
          (event.oldState = .connected ∨ event.oldState = .connecting) ∧
          event :: rest ≠ steam.history connection ∧ steam.isClosed = true ∧
          rest = [])) := by
  cases steam with
  | unknown => simp [history] at awaits
  | opened socket connected =>
      refine ⟨socket, rfl, ?_⟩
      cases connected with
      | false =>
          have whole : event = connectingEvent connection socket ∧ rest = [] := by
            simpa [history, openedEvents, List.suffix_cons_iff] using awaits
          obtain ⟨rfl, rfl⟩ := whole
          exact ⟨rfl, rfl, Or.inl ⟨rfl, rfl⟩⟩
      | true =>
          have parts : (event = connectingEvent connection socket ∧
              rest = [connectedEvent connection socket]) ∨
              event = connectedEvent connection socket ∧ rest = [] := by
            simpa [history, openedEvents, List.suffix_cons_iff] using awaits
          rcases parts with ⟨rfl, rfl⟩ | ⟨rfl, rfl⟩
          · exact ⟨rfl, rfl, Or.inl ⟨rfl, rfl⟩⟩
          · exact ⟨rfl, rfl, Or.inr (Or.inl ⟨rfl, by simp [history, openedEvents]⟩)⟩
  | closed socket connected byPeer =>
      refine ⟨socket, rfl, ?_⟩
      have ended : (closedEvent connection socket connected byPeer).state = .closedByPeer ∨
          (closedEvent connection socket connected byPeer).state =
            .problemDetectedLocally := by
        cases byPeer <;> simp [closedEvent]
      have before : (closedEvent connection socket connected byPeer).oldState =
          .connected ∨ (closedEvent connection socket connected byPeer).oldState =
            .connecting := by
        cases connected <;> simp [closedEvent]
      cases connected with
      | false =>
          have parts : (event = connectingEvent connection socket ∧
              rest = [closedEvent connection socket false byPeer]) ∨
              event = closedEvent connection socket false byPeer ∧ rest = [] := by
            simpa [history, openedEvents, List.suffix_cons_iff] using awaits
          rcases parts with ⟨rfl, rfl⟩ | ⟨rfl, rfl⟩
          · exact ⟨rfl, rfl, Or.inl ⟨rfl, rfl⟩⟩
          · exact ⟨rfl, rfl, Or.inr (Or.inr
              ⟨ended, before, by simp [history, openedEvents], rfl, rfl⟩)⟩
      | true =>
          have parts : (event = connectingEvent connection socket ∧
              rest = [connectedEvent connection socket,
                closedEvent connection socket true byPeer]) ∨
              (event = connectedEvent connection socket ∧
                rest = [closedEvent connection socket true byPeer]) ∨
              event = closedEvent connection socket true byPeer ∧ rest = [] := by
            simpa [history, openedEvents, List.suffix_cons_iff] using awaits
          rcases parts with ⟨rfl, rfl⟩ | ⟨rfl, rfl⟩ | ⟨rfl, rfl⟩
          · exact ⟨rfl, rfl, Or.inl ⟨rfl, rfl⟩⟩
          · exact ⟨rfl, rfl, Or.inr (Or.inl ⟨rfl, by simp [history, openedEvents]⟩)⟩
          · exact ⟨rfl, rfl, Or.inr (Or.inr
              ⟨ended, before, by simp [history, openedEvents], rfl, rfl⟩)⟩

end SteamConnection

/-- The manager core between Steam's queue `pendingCallbacks` and the list
`listTemp` that `RunCallbacks` is working through.  Three fields record what has
happened: what Steam has reported of each connection, which sockets have been
stopped since they were last started, and which connections the manager gave up
after it had been told of them. -/
structure StatusState (Listener : Type) where
  core : NetworkManagerCore Listener := {}
  listTemp : List SteamNetConnectionStatusChangedCallback := []
  pendingCallbacks : List SteamNetConnectionStatusChangedCallback := []
  fault : Option Fault := none
  steam : HSteamNetConnection → SteamConnection := fun _ => .unknown
  stopped : HSteamListenSocket → Bool := fun _ => false
  givenUp : HSteamNetConnection → Bool := fun _ => false

inductive StatusAction (Listener : Type) where
  | operation (operation : CoreOperation Listener)
  | connecting (connection : HSteamNetConnection) (socket : HSteamListenSocket)
  | connected (connection : HSteamNetConnection)
  | closed (connection : HSteamNetConnection) (byPeer : Bool)
  | runCallbacks
  | dispatch (accepted : EResult) (grouped : Bool)

namespace StatusState

variable {Listener : Type}

/-- The events of a connection that have not been delivered. -/
def awaiting (state : StatusState Listener) (connection : HSteamNetConnection) :
    List SteamNetConnectionStatusChangedCallback :=
  (state.listTemp ++ state.pendingCallbacks).filter fun event =>
    event.hConn == connection

/-- Whether an event of the connection has been delivered, so at least its
first. -/
def reported (state : StatusState Listener) (connection : HSteamNetConnection) : Bool :=
  decide (state.awaiting connection ≠ (state.steam connection).history connection)

/-- Steam queues an event and remembers what it has reported. -/
def queueCallback (state : StatusState Listener) (steam : SteamConnection)
    (event : SteamNetConnectionStatusChangedCallback) : StatusState Listener :=
  { state with
    steam := Function.update state.steam event.hConn steam
    pendingCallbacks := state.pendingCallbacks ++ [event] }

/-- An operation that closes a table gives up the connections reported on it. -/
def afterOperation (state : StatusState Listener) (operation : CoreOperation Listener)
    (next : NetworkManagerCore Listener) : StatusState Listener :=
  { state with
    core := next
    stopped := fun socket =>
      decide (operation.closes state.core = some socket) ||
        (state.stopped socket && decide (operation.opens state.core ≠ some socket))
    givenUp := fun connection =>
      state.givenUp connection ||
        (state.reported connection && (operation.closes state.core).isSome &&
          decide ((state.steam connection).socket? = operation.closes state.core)) }

/-- A `Connecting` callback that does not enter its connection gives it up. -/
def afterDispatch (state : StatusState Listener)
    (event : SteamNetConnectionStatusChangedCallback)
    (rest : List SteamNetConnectionStatusChangedCallback) (accepted : EResult)
    (grouped : Bool) (next : NetworkManagerCore Listener) : StatusState Listener :=
  { state with
    core := next
    listTemp := rest
    givenUp :=
      if event.state = .connecting ∧ ¬ (accepted = .ok ∧ grouped = true) then
        Function.update state.givenUp event.hConn true
      else state.givenUp }

end StatusState

/-- The runs of the core under Steam's callbacks.  A status change is queued
only while its socket is a key of the map, and a connection's changes come in
order.  Operations and deliveries share the network thread, so an operation
runs only between two calls of `RunCallbacks`. -/
def statusSystem (Listener : Type) [IListener Listener] :
    TransitionSystem (StatusState Listener) (StatusAction Listener) where
  Initial state := state = {}
  step state action :=
    if state.fault.isSome then none
    else match action with
      | .operation operation =>
          if operation.isCallback ∨ state.listTemp ≠ [] then none
          else match operation.perform state.core with
            | .error fault => some { state with fault := some fault }
            | .ok (_, next) => some (state.afterOperation operation next)
      | .connecting connection socket =>
          if state.steam connection = .unknown ∧ socket ∈ state.core.socketClientsMap then
            some (state.queueCallback (.opened socket false)
              (connectingEvent connection socket))
          else none
      | .connected connection =>
          match state.steam connection with
          | .opened socket false =>
              if socket ∈ state.core.socketClientsMap then
                some (state.queueCallback (.opened socket true)
                  (connectedEvent connection socket))
              else none
          | _ => none
      | .closed connection byPeer =>
          match state.steam connection with
          | .opened socket connected =>
              if socket ∈ state.core.socketClientsMap then
                some (state.queueCallback (.closed socket connected byPeer)
                  (closedEvent connection socket connected byPeer))
              else none
          | _ => none
      | .runCallbacks =>
          if state.listTemp = [] then
            some { state with listTemp := state.pendingCallbacks, pendingCallbacks := [] }
          else none
      | .dispatch accepted grouped =>
          match state.listTemp with
          | [] => none
          | event :: rest =>
              match state.core.callbackManager event accepted grouped with
              | .error fault => some { state with listTemp := rest, fault := some fault }
              | .ok next => some (state.afterDispatch event rest accepted grouped next)

/-- Nothing has overtaken the event that is delivered: no accepted `Connecting`
comes after a stop of its socket, and no end of a connection comes after the
manager gave the connection up. -/
def Undisturbed {Listener : Type} (state : StatusState Listener) :
    StatusAction Listener → Prop
  | .dispatch accepted _ =>
      ∀ event ∈ state.listTemp.head?,
        (event.state = .connecting → accepted = .ok →
          state.stopped event.listenSocket = false) ∧
        (event.state = .closedByPeer ∨ event.state = .problemDetectedLocally →
          state.givenUp event.hConn = false)
  | _ => True

instance {Listener : Type} (state : StatusState Listener) :
    (action : StatusAction Listener) → Decidable (Undisturbed state action)
  | .dispatch accepted _ =>
      inferInstanceAs (Decidable (∀ event ∈ state.listTemp.head?,
        (event.state = .connecting → accepted = .ok →
          state.stopped event.listenSocket = false) ∧
        (event.state = .closedByPeer ∨ event.state = .problemDetectedLocally →
          state.givenUp event.hConn = false)))
  | .operation _ | .connecting _ _ | .connected _ | .closed _ _ | .runCallbacks =>
      inferInstanceAs (Decidable True)

theorem undisturbed_dispatch {Listener : Type} {state : StatusState Listener}
    {event : SteamNetConnectionStatusChangedCallback}
    {rest : List SteamNetConnectionStatusChangedCallback} {accepted : EResult}
    {grouped : Bool} (head : state.listTemp = event :: rest) :
    Undisturbed state (.dispatch accepted grouped) ↔
      (event.state = .connecting → accepted = .ok →
        state.stopped event.listenSocket = false) ∧
      (event.state = .closedByPeer ∨ event.state = .problemDetectedLocally →
        state.givenUp event.hConn = false) := by
  simp [Undisturbed, head]

end HttpServer
