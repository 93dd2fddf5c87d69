import HttpServer.ManagedListener
import HttpServer.ManagerRepresentation
import HttpServer.ConnectionTables

/-!
# The manager core with its listeners

The network thread takes one function at a time from `m_FunctionCalls` and runs
it to its end; between two functions it delivers the status changes that
`RunCallbacks` finds.  Starting, stopping and destroying a listener are several
statements each, because they wait for calls on the listener object, and the
listeners' threads go on between them.  A listener's thread that has sent a
response queues a `ConnectionServed` behind the functions that wait.

An operation that fails an assert ends the process and has no successor.
-/

namespace HttpServer

open UnorderedMap

/-- A function on `m_FunctionCalls`.  `mark` tells which accepted response a
`ConnectionServed` reports. -/
inductive FunctionCall where
  | createListener (listenerName : Option CString)
  | destroyListener (listener : HListener)
  | startListening (listener : HListener) (port : UInt16)
  | stopListening (listener : HListener)
  | tryPopReceivedMessageQueue (listener : HListener)
  | pushOutgoingMessageQueue (listener : HListener) (message : Request)
  | tryPopErrorQueue (listener : HListener)
  | connectionServed (socket : HSteamListenSocket) (connection : HSteamNetConnection)
      (mark : Nat)

/-- The operation that the network thread is in, or what the last one
returned. -/
inductive NetThread where
  | idle
  | starting (listener : HListener)
  | stopping (listener : HListener)
  | destroying (listener : HListener)
  | returned (outcome : Outcome)

/-- A response that `push_OutgoingMessageQueue` has accepted, and the connection
it is for. -/
structure AcceptedResponse where
  mark : Nat
  socket : HSteamListenSocket
  connection : HSteamNetConnection

/-- The manager core, what its thread is doing, and the functions that wait for
it.  `stopped` tells whether the last operation on a handle was a
`stopListening` that returned OK.  `standing` are the accepted responses whose
connection has not been closed since, neither by a `Disconnected` nor by a stop
of its socket; `accepted` counts all of them. -/
structure ManagerWorld where
  core : NetworkManagerCore Listener := {}
  net : NetThread := .idle
  functionCalls : ThreadSaveQueue FunctionCall := []
  stopped : HListener → Bool := fun _ => false
  accepted : Nat := 0
  standing : List AcceptedResponse := []

namespace FunctionCall

/-- The listener handle an operation is addressed to. -/
def target? : FunctionCall → Option HListener
  | destroyListener listener | startListening listener _ | stopListening listener
  | tryPopReceivedMessageQueue listener | pushOutgoingMessageQueue listener _
  | tryPopErrorQueue listener => some listener
  | _ => none

def isConnectionServed : FunctionCall → Bool
  | connectionServed _ _ _ => true
  | _ => false

end FunctionCall

namespace NetThread

/-- The listener on which an operation is in progress. -/
def listener? : NetThread → Option HListener
  | starting listener | stopping listener | destroying listener => some listener
  | _ => none

end NetThread

namespace NetworkManagerCore

variable {Listener : Type}

/-- A call on the listener object of an entry. -/
def callListener (core : NetworkManagerCore Listener) (listener : HListener)
    (call : Listener → Listener) : NetworkManagerCore Listener :=
  core.updateListener listener fun info => info.setListener (call info.listener)

end NetworkManagerCore

namespace ManagerWorld

def returns (world : ManagerWorld) (outcome : Outcome) : ManagerWorld :=
  { world with net := .returned outcome }

/-- The operation on the handle has returned, and its listener is left alone. -/
def finish (world : ManagerWorld) (listener : HListener) (result : Result Unit) :
    ManagerWorld :=
  { world with
    core := world.core.callListener listener fun object => object.callGoTo .idle
    net := .returned (.done result) }

def beginStart (world : ManagerWorld) (listener : HListener) (port : UInt16) :
    ManagerWorld :=
  match world.core.isValidListenerHandler listener with
  | .error err => world.returns (.done (.error err))
  | .ok info =>
      if info.socket ≠ hSteamListenSocketInvalid then
        world.returns (.done (.error (makeError .eInvalidCall
          "Already Listening on this Scoket -> Socket/Pollgroup Valid")))
      else
        { world with
          core := (world.core.record (.initSocket listener port)).callListener listener
            fun object => object.callGoTo (.initTest port)
          net := .starting listener }

/-- `stopListening` up to the call on the listener object. -/
def dropSocket (world : ManagerWorld) (listener : HListener)
    (socket : HSteamListenSocket) (socketInfo : SocketInfo) : ManagerWorld :=
  { world with
    core := ((world.core.dropSocket listener socket socketInfo).record
      (.stopListening listener)).callListener listener fun object =>
        object.callGoTo .stopSet
    standing := world.standing.filter fun response => response.socket ≠ socket }

def beginStop (world : ManagerWorld) (listener : HListener) : Option ManagerWorld :=
  match world.core.isValidListenerHandler listener with
  | .error err => some (world.returns (.done (.error err)))
  | .ok info =>
      if info.socket = hSteamListenSocketInvalid then
        some (world.returns (.done (.error (makeError .eInvalidCall
          "Not currently Listening (Double Call?)"))))
      else
        (world.core.socketClientsMap.lookup info.socket).map fun socketInfo =>
          { world.dropSocket listener info.socket socketInfo with net := .stopping listener }

/-- The destructor of the listener object begins. -/
def beginDestructor (world : ManagerWorld) (listener : HListener) : ManagerWorld :=
  { world with
    core := (world.core.record (.destroy listener)).callListener listener fun object =>
      object.callGoTo .dtorFlag
    net := .destroying listener }

def beginDestroy (world : ManagerWorld) (listener : HListener) : Option ManagerWorld :=
  match world.core.isValidListenerHandler listener with
  | .error err => some (world.returns (.done (.error err)))
  | .ok info =>
      if info.socket = hSteamListenSocketInvalid then some (world.beginDestructor listener)
      else
        (world.core.socketClientsMap.lookup info.socket).map fun socketInfo =>
          { world.dropSocket listener info.socket socketInfo with
            net := .destroying listener }

/-- The response that is accepted gets the next mark. -/
def pushOutgoing (world : ManagerWorld) (listener : HListener) (message : Request) :
    Option ManagerWorld :=
  let mark := world.accepted + 1
  let marked := world.core.callListener listener fun object => { object with mark := mark }
  match marked.pushOutgoingMessageQueue listener message with
  | .error _ => none
  | .ok (.error err, _) => some (world.returns (.done (.error err)))
  | .ok (.ok (), core) =>
      let socket := (world.core.socketOf listener).getD hSteamListenSocketInvalid
      some { world.returns (.done (.ok ())) with
        core
        accepted := mark
        standing := world.standing ++ [⟨mark, socket, message.connection⟩] }

/-- The network thread takes up a function. -/
def begin (world : ManagerWorld) : FunctionCall → Option ManagerWorld
  | .createListener name =>
      match world.core.createListener name with
      | .error _ => none
      | .ok (handler, core) => some { world.returns (.handle handler) with core }
  | .destroyListener listener => world.beginDestroy listener
  | .startListening listener port => some (world.beginStart listener port)
  | .stopListening listener => world.beginStop listener
  | .tryPopReceivedMessageQueue listener =>
      let (result, core) := world.core.tryPopReceivedMessageQueue listener
      some { world.returns (.message result) with core }
  | .pushOutgoingMessageQueue listener message => world.pushOutgoing listener message
  | .tryPopErrorQueue listener =>
      let (result, core) := world.core.tryPopErrorQueue listener
      some { world.returns (.error result) with core }
  | .connectionServed socket connection _ =>
      match world.core.connectionServed socket connection with
      | .error _ => none
      | .ok core => some { world.returns .nothing with core }

def pollFunctionCall (world : ManagerWorld) : Option ManagerWorld :=
  match world.net, world.functionCalls with
  | .idle, call :: rest =>
      let stopped := match call.target? with
        | some listener => Function.update world.stopped listener false
        | none => world.stopped
      { world with functionCalls := rest, stopped := stopped }.begin call
  | _, _ => none

/-- The network thread goes on after the call on the listener object it has
waited for has returned. -/
def proceedWith (world : ManagerWorld) (listener : HListener)
    (call : ListenerCall) : Option ManagerWorld :=
  match world.net, call with
  | .starting _, .initReturned (.error err) => some (world.finish listener (.error err))
  | .starting _, .initReturned (.ok handlers) =>
      some { world with
        core := ((world.core.adoptSocket listener handlers).record
          (.startListening listener)).callListener listener fun object =>
            { object.callGoTo .startTest with session := object.session + 1 } }
  | .starting _, .startReturned (.error err) =>
      some (world.finish listener (.error (makeError err.errorCode err.message)))
  | .starting _, .startReturned (.ok ()) => some (world.finish listener (.ok ()))
  | .stopping _, .stopReturned =>
      some { world.finish listener (.ok ()) with
        stopped := Function.update world.stopped listener true }
  | .destroying _, .stopReturned => some (world.beginDestructor listener)
  | .destroying _, .destroyed =>
      some { world.returns (.done (.ok ())) with
        core := { world.core with listeners := world.core.listeners.erase listener } }
  | _, _ => none

def proceed (world : ManagerWorld) : Option ManagerWorld :=
  match world.net with
  | .returned _ => some { world with net := .idle }
  | net =>
      net.listener?.bind fun listener =>
        (world.core.listeners.lookup listener).bind fun info =>
          world.proceedWith listener info.listener.call

/-- A statement of the call on the listener object that the network thread
waits for. -/
def listenerCall (world : ManagerWorld) (handle : UInt32) : Option ManagerWorld :=
  world.net.listener?.bind fun listener =>
    (world.core.listeners.lookup listener).bind fun info =>
      (info.listener.callStep handle).map fun object =>
        { world with core := world.core.callListener listener fun _ => object }

/-- `RunCallbacks` delivers a status change. -/
def runCallback (world : ManagerWorld) (info : SteamNetConnectionStatusChangedCallback)
    (accepted : EResult) (grouped : Bool) : Option ManagerWorld :=
  match world.net, world.core.callbackManager info accepted grouped with
  | .idle, .ok core =>
      let closes := match info.state with
        | .problemDetectedLocally | .closedByPeer => true
        | _ => false
      some { world with
        core
        standing := world.standing.filter fun response =>
          !closes || response.socket ≠ info.listenSocket ||
            response.connection ≠ info.hConn }
  | _, _ => none

/-- A statement of a listener's thread; one that has sent a response goes on with
`m_ConnectionServedCallback`. -/
def run (world : ManagerWorld) (listener : HListener) (received : ReceivedMessages) :
    Option ManagerWorld :=
  (world.core.listeners.lookup listener).bind fun info =>
    (info.listener.run received).map fun object =>
      { world with
        core := world.core.callListener listener fun _ => object
        functionCalls := match info.listener.thread with
          | .served message =>
              ThreadSaveQueue.push world.functionCalls
                (.connectionServed info.listener.core.socket message.request.connection
                  message.mark)
          | _ => world.functionCalls }

def wake (world : ManagerWorld) (listener : HListener) : Option ManagerWorld :=
  (world.core.listeners.lookup listener).bind fun info =>
    info.listener.wake.map fun object =>
      { world with core := world.core.callListener listener fun _ => object }

end ManagerWorld

inductive ManagerAction where
  | request (call : FunctionCall)
  | pollFunctionCall
  | listenerCall (handle : UInt32)
  | proceed
  | runCallback (info : SteamNetConnectionStatusChangedCallback)
      (accepted : EResult) (grouped : Bool)
  | run (listener : HListener) (received : ReceivedMessages)
  | wake (listener : HListener)

/-- Clients queue functions at any time, and all threads go on in any order. -/
def managerSystem : TransitionSystem ManagerWorld ManagerAction where
  Initial world := world = {}
  step world
    | .request call =>
        if call.isConnectionServed then none
        else some { world with
          functionCalls := ThreadSaveQueue.push world.functionCalls call }
    | .pollFunctionCall => world.pollFunctionCall
    | .listenerCall handle => world.listenerCall handle
    | .proceed => world.proceed
    | .runCallback info accepted grouped => world.runCallback info accepted grouped
    | .run listener received => world.run listener received
    | .wake listener => world.wake listener

/-- Listener 1 is created, and its thread parks. -/
def createParked : List ManagerAction :=
  [.request (.createListener none), .pollFunctionCall, .proceed] ++
    List.replicate 4 (.run 1 .none)

/-- The manager starts listener 1 on socket 5, and its thread is woken. -/
def startParked : List ManagerAction :=
  [.request (.startListening 1 80), .pollFunctionCall, .listenerCall 0, .listenerCall 0,
    .listenerCall 5, .listenerCall 6, .listenerCall 0, .proceed, .listenerCall 0,
    .listenerCall 0, .proceed, .proceed]

def stopOne : List ManagerAction :=
  [.request (.stopListening 1), .pollFunctionCall, .listenerCall 0, .proceed, .proceed]

/-- A response for connection `connection` is accepted. -/
def pushOne (connection : HSteamNetConnection) : List ManagerAction :=
  [.request (.pushOutgoingMessageQueue 1 ⟨connection, [72]⟩), .pollFunctionCall, .proceed]

end HttpServer
