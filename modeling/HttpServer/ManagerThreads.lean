import HttpServer.Basic
import HttpServer.Library.ThreadCode

/-!
# The threads of the manager

The functions of `NetworkManager`, `NetworkManagerCore`, `Listener`, the queues and
the logger, by what they do to mutexes, to threads, and to what a shutdown takes from
them.  Every statement that locks, unlocks, waits, joins or starts a thread is there,
every log call and every call on the adapter, under the flags, the function queue, the
promises and the map of listeners that decide which of them is reached.  What depends
on anything else (what Steam returns, what a queue of a listener holds, which
connections there are) is left open, so that the runs of the code are among the runs
of this model.
-/

namespace HttpServer

open ThreadCode

inductive ListenerQueue where
  | received
  | outgoing
  | error
deriving DecidableEq

inductive ManagerMutex where
  | manager
  | functionCalls
  | log
  | listen (listener : HListener)
  | queue (listener : HListener) (queue : ListenerQueue)
deriving DecidableEq

/-- `control` is the thread that calls `init` and `kill`, `server` the one of a
`Server`, and `log` the one of `AsyncLoggerCore`. -/
inductive ManagerThread where
  | network
  | control
  | server
  | client (client : Nat)
  | listener (listener : HListener)
  | log
deriving DecidableEq

/-- A call on the manager that goes through `executeFunktion`. -/
inductive ApiCall where
  | createListener
  | destroyListener (listener : HListener)
  | startListening (listener : HListener)
  | stopListening (listener : HListener)
  | tryPopReceivedMessageQueue (listener : HListener)
  | pushOutgoingMessageQueue (listener : HListener)
  | tryPopErrorQueue (listener : HListener)
deriving DecidableEq

/-- A `Result`: the handle of a new listener, another value, or an error. -/
inductive CallResult where
  | listener (handler : HListener)
  | value
  | error
deriving DecidableEq

/-- What the last call of a thread has come to. -/
inductive CallState where
  | pending
  | returned (result : CallResult)
deriving DecidableEq

/-- What is on `m_FunctionCalls`. -/
inductive SharedFunction where
  | funktion (caller : ManagerThread) (call : ApiCall)
  | connectionServed
deriving DecidableEq

/-- What must not happen in a shutdown: `Log::pInstance` is null when it is dereferenced,
the adapter calls into Steam after `GameNetworkingSockets_Kill`, and the value of an error
is taken. -/
inductive ShutdownFault where
  | logAfterDestroy
  | adapterAfterKill
  | valueOfError
deriving DecidableEq

/-- The two flags of a `Listener`. -/
structure ListenerFlags where
  listening : Bool := false
  running : Bool := true

/-- `taken` is what the last `try_pop` of `m_FunctionCalls` returned, and `result` what
the function that runs returns.  `logger` tells whether `Log::pInstance` is set, with
`logging` the `m_running` of the logger and `messages` the length of its queue, and
`steam` whether Steam is initialised.  `quit` and `serverListener` are `m_bQuit` and
`m_Listener` of the `Server`.  The program does not have the last two: the faults so
far, and how many ticks have ended since Steam is gone. -/
structure SharedData where
  initialized : Bool := false
  running : Bool := false
  busy : Bool := true
  functionCalls : ThreadSaveQueue SharedFunction := []
  taken : Option SharedFunction := none
  result : CallResult := .value
  calls : ManagerThread → CallState := fun _ => .pending
  listeners : List HListener := []
  listenerHandlerIndex : HListener := 1
  flags : HListener → ListenerFlags := fun _ => {}
  logger : Bool := false
  logging : Bool := true
  messages : Nat := 0
  steam : Bool := false
  isHTTPInitialized : Bool := false
  serverListener : HListener := 0
  quit : Bool := false
  faults : List ShutdownFault := []
  ticksAfterKill : Nat := 0

abbrev ManagerCode := Code ManagerMutex ManagerThread SharedData

namespace SharedData

def setListening (data : SharedData) (listener : HListener) (listening : Bool) : SharedData :=
  { data with
    flags := Function.update data.flags listener
      { data.flags listener with listening := listening } }

def setRunning (data : SharedData) (listener : HListener) (running : Bool) : SharedData :=
  { data with
    flags := Function.update data.flags listener
      { data.flags listener with running := running } }

def isServing (data : SharedData) (listener : HListener) : Bool :=
  (data.flags listener).listening && (data.flags listener).running

end SharedData

namespace ManagerCode

open Code

/-- The environment decides whether the code is run. -/
def maybe (code : ManagerCode) : ManagerCode := choose code skip

def fault (kind : ShutdownFault) : ManagerCode :=
  assign fun data => { data with faults := kind :: data.faults }

def write : ManagerCode :=
  guarded .log (assign fun data => { data with messages := data.messages + 1 })

/-- A log call, which the log level may suppress. -/
def log : ManagerCode :=
  read fun data => if data.logger then maybe write else fault .logAfterDestroy

def writeMessages : ManagerCode :=
  loop (fun data => decide (0 < data.messages)) (all
    [assign fun data => { data with messages := data.messages - 1 },
      unlock .log, lock .log])

def logThread : ManagerCode :=
  loop (fun data => data.logging || decide (0 < data.messages)) (all
    [lock .log,
      wait .log fun data => decide (0 < data.messages) || !data.logging,
      writeMessages, release .log])

/-- A call on the adapter, which goes to Steam. -/
def adapter : ManagerCode :=
  read fun data => if data.steam then skip else fault .adapterAfterKill

def notifyFunktionCall : ManagerCode :=
  guarded .manager (assign fun data => { data with busy := true })

/-- `push` of a function. -/
def pushFunction (function : SharedFunction) : ManagerCode :=
  guarded .functionCalls (assign fun data =>
    { data with functionCalls := ThreadSaveQueue.push data.functionCalls function })

/-- The call of the thread has come to this. -/
def setCall (thread : ManagerThread) (call : SharedData → CallState) : ManagerCode :=
  assign fun data => { data with calls := Function.update data.calls thread (call data) }

/-- A member function that goes through `executeFunktion`. -/
def executeFunktion (caller : ManagerThread) (call : ApiCall) : ManagerCode :=
  read fun data =>
    if data.initialized then
      all [setCall caller fun _ => .pending,
        pushFunction (.funktion caller call), notifyFunktionCall,
        await .network fun data => decide (data.calls caller ≠ .pending)]
    else setCall caller fun _ => .returned .error

def connectionServed : ManagerCode :=
  read fun data =>
    if data.initialized then all [notifyFunktionCall, pushFunction .connectionServed]
    else skip

section Listener

variable (listener : HListener)

/-- A `push`, `try_pop` or `clear` of one of the queues. -/
def useQueue (queue : ListenerQueue) : ManagerCode := guarded (.queue listener queue) skip

def initSocket : ManagerCode :=
  maybe (all [adapter, choose log (all [adapter, maybe (all [adapter, log])])])

def listenerStartListening : ManagerCode :=
  maybe (guarded (.listen listener) (assign fun data => data.setListening listener true))

def listenerStopListening : ManagerCode :=
  guarded (.listen listener) (all
    [assign fun data => data.setListening listener false, log])

def pollOutMessages : ManagerCode :=
  all [useQueue listener .outgoing, maybe (all [adapter, connectionServed])]

/-- `failed` is what the caller does when this returns an error. -/
def pollIncMessages (failed : ManagerCode) : ManagerCode :=
  all [adapter, choose skip
    (choose (useQueue listener .received) (all [log, useQueue listener .error, failed]))]

def pollOnce (failed : ManagerCode) : ManagerCode :=
  all [pollOutMessages listener, pollIncMessages listener failed]

/-- The last `exit` is the end of the loop after a poll that found nothing. -/
def pollMessages : ManagerCode :=
  loop (fun data => data.isServing listener) (all
    [pollOnce listener (all [listenerStopListening listener, exit]), maybe exit])

def destroySocket : ManagerCode :=
  all [adapter, adapter,
    useQueue listener .outgoing, useQueue listener .received, useQueue listener .error]

/-- `Listener::run`; its `unique_lock` gives up the mutex at the end. -/
def listenerRun : ManagerCode :=
  all
    [lock (.listen listener),
      loop (fun data => (data.flags listener).running) (all
        [wait (.listen listener) fun data =>
            !(data.flags listener).running || (data.flags listener).listening,
          unlock (.listen listener),
          read fun data => if (data.flags listener).running then skip else exit,
          log,
          loop (fun data => data.isServing listener) (pollMessages listener),
          log,
          destroySocket listener,
          lock (.listen listener)]),
      release (.listen listener)]

/-- The destructor of a `Listener`. -/
def listenerDestroy : ManagerCode :=
  all [assign fun data => data.setRunning listener false, join (.listener listener), log]

def returns (result : CallResult) : ManagerCode :=
  assign fun data => { data with result := result }

/-- The listener handle is tested before an operation. -/
def whenValid (code : ManagerCode) : ManagerCode :=
  read fun data => if listener ∈ data.listeners then code else returns .error

/-- Any number of calls on the adapter, one for a connection. -/
def closeConnections : ManagerCode := loop (fun _ => true) (all [maybe exit, adapter])

def coreStopListening : ManagerCode :=
  whenValid listener (choose (returns .error) (all
    [closeConnections, listenerStopListening listener, log, returns .value]))

def coreDestroyListener : ManagerCode :=
  whenValid listener (all
    [coreStopListening listener, log, listenerDestroy listener,
      assign fun data => { data with listeners := data.listeners.erase listener },
      returns .value])

def coreStartListening : ManagerCode :=
  whenValid listener (choose (returns .error) (all
    [initSocket, choose (returns .error) (all
      [listenerStartListening listener,
        choose (returns .error) (all [log, returns .value])])]))

end Listener

def coreCreateListener : ManagerCode :=
  read fun data =>
    let handler := data.listenerHandlerIndex
    all [assign fun data => { data with flags := Function.update data.flags handler {} },
      log, spawn (.listener handler) (listenerRun handler),
      assign fun data => { data with
        listeners := handler :: data.listeners
        listenerHandlerIndex := handler + 1
        result := .listener handler }]

def apiCall : ApiCall → ManagerCode
  | .createListener => coreCreateListener
  | .destroyListener listener => coreDestroyListener listener
  | .startListening listener => coreStartListening listener
  | .stopListening listener => coreStopListening listener
  | .tryPopReceivedMessageQueue listener =>
      whenValid listener (all [useQueue listener .received, returns .value])
  | .pushOutgoingMessageQueue listener =>
      whenValid listener (choose (returns .error)
        (all [useQueue listener .outgoing, returns .value]))
  | .tryPopErrorQueue listener =>
      whenValid listener (all [useQueue listener .error, returns .value])

/-- A popped function runs, and sets its promise. -/
def callFunction : SharedFunction → ManagerCode
  | .funktion caller call =>
      all [apiCall call, setCall caller fun data => .returned data.result]
  | .connectionServed => skip

def tryPopFunction : ManagerCode :=
  guarded .functionCalls (assign fun data =>
    let (taken, rest) := ThreadSaveQueue.tryPop data.functionCalls
    { data with taken := taken, functionCalls := rest })

/-- The loop ends where `try_pop` returned nothing. -/
def callTaken : ManagerCode :=
  read fun data =>
    match data.taken with
    | none => exit
    | some function => callFunction function

/-- The `exit` is the end of the loop, for an empty queue or after
`MAX_FUNCTIONS_PER_SESSION` functions. -/
def pollFunctionCalls : ManagerCode :=
  loop (fun _ => true) (all
    [guarded .functionCalls skip, maybe exit, tryPopFunction, callTaken])

/-- Any number of callbacks, each of which logs and calls the adapter. -/
def callbacks : ManagerCode := loop (fun _ => true) (all [maybe exit, choose log adapter])

def pollConnectionChanges : ManagerCode := all [adapter, callbacks]

/-- The ticks that end without Steam are counted. -/
def tick : ManagerCode :=
  all [pollFunctionCalls, pollConnectionChanges,
    assign fun data =>
      { data with ticksAfterKill := if data.steam then 0 else data.ticksAfterKill + 1 }]

/-- `NetworkManager::run`; its `unique_lock` gives up the mutex at the end. -/
def networkRun : ManagerCode :=
  all
    [lock .manager,
      loop (fun data => data.running) (all
        [wait .manager fun data => data.busy || !data.running,
          read fun data => if data.running then skip else exit,
          unlock .manager,
          loop (fun data => data.busy || data.running) (all
            [tick,
              maybe (all [guarded .functionCalls skip,
                maybe (assign fun data => { data with busy := false })])]),
          lock .manager]),
      release .manager]

def init : ManagerCode :=
  read fun data =>
    if data.initialized then skip
    else all [adapter, maybe (all
      [assign fun data => { data with running := true },
        assign fun data => { data with initialized := true },
        spawn .network networkRun])]

def destroyFirst : ManagerCode :=
  read fun data =>
    match data.listeners with
    | [] => skip
    | listener :: rest =>
        all [listenerDestroy listener, assign fun data => { data with listeners := rest }]

/-- The destruction of the core destroys the listeners, in any order. -/
def destroyCore : ManagerCode :=
  loop (fun data => !data.listeners.isEmpty) (choose
    (assign fun data => { data with listeners := data.listeners.rotate 1 }) destroyFirst)

/-- A caller whose function is thrown away waits for its promise for ever. -/
def kill : ManagerCode :=
  all
    [guarded .manager (assign fun data => { data with running := false }),
      join .network,
      destroyCore,
      assign fun data => { data with listenerHandlerIndex := 1 },
      assign fun data => { data with initialized := false },
      guarded .functionCalls (assign fun data =>
        { data with functionCalls := ThreadSaveQueue.clear data.functionCalls })]

end ManagerCode

end HttpServer
