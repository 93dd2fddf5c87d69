import HttpServer.NetworkManagerCore
import HttpServer.Library.TransitionSystem

/-!
# Runs of the manager core

Every operation of `NetworkManagerCore` as an action that carries what its
listener and adapter calls return, and the transition system of all sequences
of such actions.  A listener object may also change between two operations,
since its own thread shares its queues.
-/

namespace HttpServer

/-- An operation together with the results of the calls it makes. -/
inductive CoreOperation (Listener : Type) where
  | createListener (listenerName : Option CString)
  | destroyListener (listener : HListener)
  | startListening (listener : HListener) (port : UInt16)
      (initSocket : Result SocketHandlers) (started : Result Unit)
  | stopListening (listener : HListener)
  | tryPopReceivedMessageQueue (listener : HListener)
  | pushOutgoingMessageQueue (listener : HListener) (message : Request)
  | tryPopErrorQueue (listener : HListener)
  | connectionServed (socket : HSteamListenSocket) (connection : HSteamNetConnection)
  | callbackManager (info : SteamNetConnectionStatusChangedCallback)
      (accepted : EResult) (grouped : Bool)
  | listenerChanges (listener : HListener) (object : Listener)

/-- What an operation returns. -/
inductive Outcome where
  | handle (listener : HListener)
  | done (result : Result Unit)
  | message (result : Result (Option Request))
  | error (result : Result (Option ErrorValue))
  | nothing

/-- The code of the error an operation returned, if it returned one. -/
def Outcome.errorCode? : Outcome → Option HTTPErrors
  | .done (.error err) | .message (.error err) | .error (.error err) =>
      some err.errorCode
  | _ => none

namespace CoreOperation

variable {Listener : Type}

/-- The listener handle an operation is addressed to. -/
def target? : CoreOperation Listener → Option HListener
  | destroyListener listener | startListening listener _ _ _
  | stopListening listener | tryPopReceivedMessageQueue listener
  | pushOutgoingMessageQueue listener _ | tryPopErrorQueue listener => some listener
  | _ => none

def isCreate : CoreOperation Listener → Bool
  | createListener _ => true
  | _ => false

def perform [IListener Listener] (core : NetworkManagerCore Listener) :
    CoreOperation Listener → Except Fault (Outcome × NetworkManagerCore Listener)
  | createListener name =>
      (core.createListener name).map fun (handler, next) => (.handle handler, next)
  | destroyListener listener =>
      (core.destroyListener listener).map fun (result, next) => (.done result, next)
  | startListening listener port initSocket started =>
      let (result, next) := core.startListening listener port initSocket started
      .ok (.done result, next)
  | stopListening listener =>
      (core.stopListening listener).map fun (result, next) => (.done result, next)
  | tryPopReceivedMessageQueue listener =>
      let (result, next) := core.tryPopReceivedMessageQueue listener
      .ok (.message result, next)
  | pushOutgoingMessageQueue listener message =>
      (core.pushOutgoingMessageQueue listener message).map
        fun (result, next) => (.done result, next)
  | tryPopErrorQueue listener =>
      let (result, next) := core.tryPopErrorQueue listener
      .ok (.error result, next)
  | connectionServed socket connection =>
      (core.connectionServed socket connection).map fun next => (.nothing, next)
  | callbackManager info accepted grouped =>
      (core.callbackManager info accepted grouped).map fun next => (.nothing, next)
  | listenerChanges listener object =>
      .ok (.nothing, core.updateListener listener fun info =>
        { info with listener := object })

end CoreOperation

/-- What each operation that comes back does, with the equation of the function that it
calls. -/
inductive OperationStep {Listener : Type} [IListener Listener]
    (core : NetworkManagerCore Listener) :
    CoreOperation Listener → Outcome → NetworkManagerCore Listener → Prop where
  | createListener {name : Option CString} {handler : HListener}
      {next : NetworkManagerCore Listener}
      (creates : core.createListener name = .ok (handler, next)) :
      OperationStep core (.createListener name) (.handle handler) next
  | destroyListener {listener : HListener} {result : Result Unit}
      {next : NetworkManagerCore Listener}
      (destroys : core.destroyListener listener = .ok (result, next)) :
      OperationStep core (.destroyListener listener) (.done result) next
  | startListening {listener : HListener} {port : UInt16} {initSocket : Result SocketHandlers}
      {started result : Result Unit} {next : NetworkManagerCore Listener}
      (starts : core.startListening listener port initSocket started = (result, next)) :
      OperationStep core (.startListening listener port initSocket started) (.done result) next
  | stopListening {listener : HListener} {result : Result Unit}
      {next : NetworkManagerCore Listener}
      (stops : core.stopListening listener = .ok (result, next)) :
      OperationStep core (.stopListening listener) (.done result) next
  | tryPopReceivedMessageQueue {listener : HListener} {result : Result (Option Request)}
      {next : NetworkManagerCore Listener}
      (pops : core.tryPopReceivedMessageQueue listener = (result, next)) :
      OperationStep core (.tryPopReceivedMessageQueue listener) (.message result) next
  | pushOutgoingMessageQueue {listener : HListener} {message : Request} {result : Result Unit}
      {next : NetworkManagerCore Listener}
      (pushes : core.pushOutgoingMessageQueue listener message = .ok (result, next)) :
      OperationStep core (.pushOutgoingMessageQueue listener message) (.done result) next
  | tryPopErrorQueue {listener : HListener} {result : Result (Option ErrorValue)}
      {next : NetworkManagerCore Listener}
      (pops : core.tryPopErrorQueue listener = (result, next)) :
      OperationStep core (.tryPopErrorQueue listener) (.error result) next
  | connectionServed {socket : HSteamListenSocket} {connection : HSteamNetConnection}
      {next : NetworkManagerCore Listener}
      (serves : core.connectionServed socket connection = .ok next) :
      OperationStep core (.connectionServed socket connection) .nothing next
  | callbackManager {info : SteamNetConnectionStatusChangedCallback} {accepted : EResult}
      {grouped : Bool} {next : NetworkManagerCore Listener}
      (changes : core.callbackManager info accepted grouped = .ok next) :
      OperationStep core (.callbackManager info accepted grouped) .nothing next
  | listenerChanges {listener : HListener} {object : Listener} :
      OperationStep core (.listenerChanges listener object) .nothing
        (core.updateListener listener fun info => { info with listener := object })

theorem operationStep_of_perform {Listener : Type} [IListener Listener]
    {core next : NetworkManagerCore Listener} {operation : CoreOperation Listener}
    {outcome : Outcome} (performs : operation.perform core = .ok (outcome, next)) :
    OperationStep core operation outcome next := by
  cases operation with
  | createListener name =>
      obtain ⟨_, creates, ends⟩ := map_eq_ok_iff.mp performs
      cases ends
      exact .createListener creates
  | destroyListener listener =>
      obtain ⟨_, destroys, ends⟩ := map_eq_ok_iff.mp performs
      cases ends
      exact .destroyListener destroys
  | startListening listener port initSocket started =>
      cases performs
      exact .startListening rfl
  | stopListening listener =>
      obtain ⟨_, stops, ends⟩ := map_eq_ok_iff.mp performs
      cases ends
      exact .stopListening stops
  | tryPopReceivedMessageQueue listener =>
      cases performs
      exact .tryPopReceivedMessageQueue rfl
  | pushOutgoingMessageQueue listener message =>
      obtain ⟨_, pushes, ends⟩ := map_eq_ok_iff.mp performs
      cases ends
      exact .pushOutgoingMessageQueue pushes
  | tryPopErrorQueue listener =>
      cases performs
      exact .tryPopErrorQueue rfl
  | connectionServed socket connection =>
      obtain ⟨_, serves, ends⟩ := map_eq_ok_iff.mp performs
      cases ends
      exact .connectionServed serves
  | callbackManager info accepted grouped =>
      obtain ⟨_, changes, ends⟩ := map_eq_ok_iff.mp performs
      cases ends
      exact .callbackManager changes
  | listenerChanges listener object =>
      cases performs
      exact .listenerChanges

/-- All runs of a manager core from its construction.  A state is the core, or
the assert that ended the process. -/
def coreSystem (Listener : Type) [IListener Listener] :
    TransitionSystem (Except Fault (NetworkManagerCore Listener))
      (CoreOperation Listener) where
  Initial state := state = .ok {}
  step
    | .error _, _ => none
    | .ok core, operation => some ((operation.perform core).map Prod.snd)

/-- How many listeners a list of operations creates. -/
def creations {Listener : Type} (operations : List (CoreOperation Listener)) : Nat :=
  operations.countP CoreOperation.isCreate

@[simp]
theorem creations_append {Listener : Type}
    (first second : List (CoreOperation Listener)) :
    creations (first ++ second) = creations first + creations second :=
  List.countP_append

end HttpServer
