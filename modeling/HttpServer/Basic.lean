import Mathlib.Algebra.Group.Nat.Defs
import Mathlib.Data.List.Basic

/-!
# Data shared by the network components

Handles of GameNetworkingSockets, the error type of every fallible call, the
request that travels through the queues, the thread-safe queue itself, and the
calls that cross the Steam adapter.
-/

namespace HttpServer

abbrev HListener := UInt64
abbrev HSteamListenSocket := UInt32
abbrev HSteamNetConnection := UInt32
abbrev HSteamNetPollGroup := UInt32

abbrev hListenerInvalid : HListener := 0
abbrev hSteamListenSocketInvalid : HSteamListenSocket := 0
abbrev hSteamNetPollGroupInvalid : HSteamNetPollGroup := 0

/-- What `initSocket` hands out. -/
structure SocketHandlers where
  socket : HSteamListenSocket
  pollGroup : HSteamNetPollGroup
deriving DecidableEq

inductive HTTPErrors where
  | bsp
  | eSocketInitializationFailed
  | ePollingGroupInitializationFailed
  | ePollGroupHandlerInvalid
  | eInvalidSocket
  | eInvalidListener
  | eInvalidCall
  | eInvalidConnection
  | eInternalError
deriving DecidableEq

/-- An error code with its message.  The source location is the same constant
for every error, since `make_error` records its own, and nothing reads it. -/
structure ErrorValue where
  errorCode : HTTPErrors
  message : String
deriving DecidableEq

abbrev Result (Value : Type) := Except ErrorValue Value

def makeError (code : HTTPErrors) (message : String) : ErrorValue :=
  ⟨code, message⟩

theorem map_eq_ok_iff {Err Value Other : Type} {function : Value → Other}
    {result : Except Err Value} {other : Other} :
    result.map function = .ok other ↔ ∃ value, result = .ok value ∧ function value = other := by
  cases result with
  | error err => simp [Except.map]
  | ok value => simp [Except.map]

theorem map_eq_error_iff {Err Value Other : Type} {function : Value → Other}
    {result : Except Err Value} {err : Err} :
    result.map function = .error err ↔ result = .error err := by
  cases result with
  | error other => simp [Except.map]
  | ok value => simp [Except.map]

/-- The asserts of `NetworkManagerCore`.  A failed one ends the process; with
asserts compiled out the `at` that follows each map test throws instead. -/
inductive Fault where
  | createListenerIndexTaken
  | stopListeningSocketMissing
  | pushOutgoingSocketMissing
  | connectionServedSocketMissing
  | connectionServedConnectionMissing
  | connectingSocketMissing
  | disconnectedOldState
  | disconnectedSocketMissing
  | disconnectedConnectionMissing
deriving DecidableEq

/-- A request or a response; the message is a byte string, NUL bytes
included. -/
structure Request where
  connection : HSteamNetConnection
  message : List UInt8
deriving DecidableEq

/-- The bytes of the message that `SendMessageToConnection` is given: its size is
converted to a `u_int32_t`. -/
def Request.sized (request : Request) : Request :=
  { request with message := request.message.take (request.message.length % 2 ^ 32) }

theorem Request.sized_eq {request : Request} (short : request.message.length < 2 ^ 32) :
    request.sized = request := by
  rw [sized, Nat.mod_eq_of_lt short, List.take_length]

/-- `ThreadSaveQueue`: each member function runs under the queue's own mutex,
so each is one atomic step on the content, oldest element first. -/
abbrev ThreadSaveQueue (Item : Type) := List Item

namespace ThreadSaveQueue

variable {Item : Type}

def push (queue : ThreadSaveQueue Item) (item : Item) : ThreadSaveQueue Item :=
  queue ++ [item]

def tryPop : ThreadSaveQueue Item → Option Item × ThreadSaveQueue Item
  | [] => (none, [])
  | item :: rest => (some item, rest)

def clear (_ : ThreadSaveQueue Item) : ThreadSaveQueue Item := []

@[simp]
theorem mem_push {queue : ThreadSaveQueue Item} {item other : Item} :
    other ∈ push queue item ↔ other ∈ queue ∨ other = item := by
  simp [push]

@[simp]
theorem clear_eq (queue : ThreadSaveQueue Item) : clear queue = [] := rfl

theorem mem_of_mem_tryPop {queue : ThreadSaveQueue Item} {other : Item}
    (member : other ∈ (tryPop queue).2) : other ∈ queue := by
  cases queue with
  | nil => simp [tryPop] at member
  | cons item rest => exact List.mem_cons_of_mem item member

theorem mem_of_tryPop_eq_some {queue : ThreadSaveQueue Item} {item : Item}
    (popped : (tryPop queue).1 = some item) : item ∈ queue := by
  cases queue with
  | nil => simp [tryPop] at popped
  | cons first rest =>
      simp only [tryPop, Option.some.injEq] at popped
      simp [popped]

end ThreadSaveQueue

/-- Steam's result codes, of which the code only tells `k_EResultOK` apart. -/
inductive EResult where
  | ok
  | other (code : Nat)
deriving DecidableEq

inductive ESteamNetworkingConnectionState where
  | none
  | connecting
  | findingRoute
  | connected
  | closedByPeer
  | problemDetectedLocally
  | finWait
  | linger
  | dead
  | other (code : Int)
deriving DecidableEq

/-- A queued status change: the connection, the listen socket and the new state
of `m_info`, and the state before.  The description and the end reason are only
logged. -/
structure SteamNetConnectionStatusChangedCallback where
  hConn : HSteamNetConnection
  listenSocket : HSteamListenSocket
  state : ESteamNetworkingConnectionState
  oldState : ESteamNetworkingConnectionState
deriving DecidableEq

/-- A call that reached the Steam adapter or a message it returned, with the handle
where it creates one. -/
inductive AdapterCall where
  | createListenSocketIP (port : UInt16) (socket : HSteamListenSocket)
  | closeListenSocket (socket : HSteamListenSocket)
  | createPollGroup (pollGroup : HSteamNetPollGroup)
  | destroyPollGroup (pollGroup : HSteamNetPollGroup)
  | acceptConnection (connection : HSteamNetConnection)
  | setConnectionPollGroup (connection : HSteamNetConnection)
      (pollGroup : HSteamNetPollGroup)
  | closeConnection (connection : HSteamNetConnection) (reason : Int)
  | receiveMessagesOnPollGroup (pollGroup : HSteamNetPollGroup)
  | sendMessageToConnection (message : Request)
  | releaseMessage (message : Request)
deriving DecidableEq

end HttpServer
