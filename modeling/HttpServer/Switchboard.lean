import HttpServer.Library.Specification
import HttpServer.ManagerRuns
import Mathlib.Data.Set.Insert
import Mathlib.Logic.Function.Basic

/-!
# The manager as a switchboard

What the manager is for, without its tables: it gives out lines, each with a listener, and a
line may be in a session, which holds the connections of one listen socket and knows of each
whether it has been served.  A status event belongs to the line whose session is on its
socket.  The order in which a session closes its connections is left open, and so is the
handle of a new line.
-/

namespace HttpServer

/-- A session on a listen socket, with the connections it holds; the flag of each tells
whether it has been served. -/
structure Session where
  socket : HSteamListenSocket
  pollGroup : HSteamNetPollGroup
  connections : HSteamNetConnection → Option Bool := fun _ => none

structure Line (Listener : Type) where
  listener : Listener
  listenerName : Vector UInt8 512
  session : Option Session := none

/-- The lines by their handles, with all handles that were ever given out. -/
@[ext]
structure Switchboard (Listener : Type) where
  lines : HListener → Option (Line Listener) := fun _ => none
  issued : Set HListener := ∅

def unknownListener : ErrorValue :=
  makeError .eInvalidListener "Listener Handler not found in Listeners Map"

def alreadyStarted : ErrorValue :=
  makeError .eInvalidCall "Already Listening on this Scoket -> Socket/Pollgroup Valid"

def notListening : ErrorValue :=
  makeError .eInvalidCall "Not currently Listening (Double Call?)"

def pushWithoutListening : ErrorValue :=
  makeError .eInvalidCall "Tryed pushing Outgoing message without listening"

def unknownConnection : ErrorValue :=
  makeError .eInvalidConnection "No connection on this listener with te gicen connection"

/-- An error as the operation returns it. -/
def CoreOperation.refusal {Listener : Type} (operation : CoreOperation Listener)
    (err : ErrorValue) : Outcome :=
  match operation with
  | tryPopReceivedMessageQueue _ => .message (.error err)
  | tryPopErrorQueue _ => .error (.error err)
  | _ => .done (.error err)

namespace Session

/-- The connections of the session, each once. -/
def Lists (session : Session) (order : List HSteamNetConnection) : Prop :=
  order.Nodup ∧ ∀ connection, connection ∈ order ↔ (session.connections connection).isSome

/-- The calls that end a session. -/
def closeCalls (listener : HListener) (order : List HSteamNetConnection) : List CoreCall :=
  order.map (fun connection => .adapter (.closeConnection connection 1)) ++
    [.stopListening listener]

/-- The flag of a connection, or that it is no longer held. -/
def set (session : Session) (connection : HSteamNetConnection) (flag : Option Bool) :
    Session :=
  { session with connections := Function.update session.connections connection flag }

end Session

namespace Line

variable {Listener : Type}

/-- The session of the line is on the socket. -/
def IsOn (line : Line Listener) (session : Session) (socket : HSteamListenSocket) : Prop :=
  line.session = some session ∧ session.socket = socket

end Line

namespace Switchboard

variable {Listener : Type}

/-- Change one line, if it is there. -/
def updateLine (board : Switchboard Listener) (listener : HListener)
    (update : Line Listener → Line Listener) : Switchboard Listener :=
  { board with
    lines := Function.update board.lines listener ((board.lines listener).map update) }

def install (board : Switchboard Listener) (handler : HListener) (line : Line Listener) :
    Switchboard Listener where
  lines := Function.update board.lines handler (some line)
  issued := insert handler board.issued

def remove (board : Switchboard Listener) (listener : HListener) : Switchboard Listener :=
  { board with lines := Function.update board.lines listener none }

def setSession (board : Switchboard Listener) (listener : HListener)
    (session : Option Session) : Switchboard Listener :=
  board.updateLine listener fun line => { line with session }

def setObject (board : Switchboard Listener) (listener : HListener) (object : Listener) :
    Switchboard Listener :=
  board.updateLine listener fun line => { line with listener := object }

variable {board : Switchboard Listener} {listener other : HListener}

theorem lines_updateLine {update : Line Listener → Line Listener} :
    (board.updateLine listener update).lines other =
      if other = listener then (board.lines listener).map update else board.lines other :=
  Function.update_apply ..

theorem lines_install {line : Line Listener} :
    (board.install listener line).lines other =
      if other = listener then some line else board.lines other :=
  Function.update_apply ..

theorem lines_remove : (board.remove listener).lines other =
    if other = listener then none else board.lines other :=
  Function.update_apply ..

/-- The session of a line that goes does not matter. -/
theorem remove_setSession {session : Option Session} :
    (board.setSession listener session).remove listener = board.remove listener := by
  refine Switchboard.ext (funext fun asked => ?_) rfl
  rw [lines_remove, lines_remove, setSession, lines_updateLine]
  split
  · rfl
  · rfl

end Switchboard

/-- The line of a new listener. -/
def newLine {Listener : Type} [IListener Listener] (listenerName : Option CString) :
    Line Listener where
  listener := IListener.createListener
  listenerName := match listenerName with
    | none => Vector.replicate 512 0
    | some name => strncpy name

section Serves

variable {Listener : Type} [IListener Listener]

/-- The operation may return the outcome, make the calls and leave the second board. -/
inductive Serves (board : Switchboard Listener) :
    CoreOperation Listener → Outcome → List CoreCall → Switchboard Listener → Prop where
  | created {name : Option CString} {handler : HListener}
      (valid : handler ≠ hListenerInvalid) (fresh : handler ∉ board.issued) :
      Serves board (.createListener name) (.handle handler) []
        (board.install handler (newLine name))
  | unknown {operation : CoreOperation Listener} {listener : HListener}
      (target : operation.target? = some listener) (absent : board.lines listener = none) :
      Serves board operation (operation.refusal unknownListener) [] board
  | destroyed {listener : HListener} {line : Line Listener}
      (found : board.lines listener = some line) (quiet : line.session = none) :
      Serves board (.destroyListener listener) (.done (.ok ())) [.destroy listener]
        (board.remove listener)
  | hungUp {listener : HListener} {line : Line Listener} {session : Session}
      {order : List HSteamNetConnection} (found : board.lines listener = some line)
      (listening : line.session = some session) (lists : session.Lists order) :
      Serves board (.destroyListener listener) (.done (.ok ()))
        (Session.closeCalls listener order ++ [.destroy listener]) (board.remove listener)
  | startRefused {listener : HListener} {port : UInt16} {initSocket : Result SocketHandlers}
      {started : Result Unit} {line : Line Listener} {session : Session}
      (found : board.lines listener = some line) (listening : line.session = some session) :
      Serves board (.startListening listener port initSocket started)
        (.done (.error alreadyStarted)) [] board
  | startFailed {listener : HListener} {port : UInt16} {err : ErrorValue}
      {started : Result Unit} {line : Line Listener}
      (found : board.lines listener = some line) (quiet : line.session = none) :
      Serves board (.startListening listener port (.error err) started)
        (.done (.error err)) [.initSocket listener port] board
  | started {listener : HListener} {port : UInt16} {handlers : SocketHandlers}
      {started : Result Unit} {line : Line Listener}
      (found : board.lines listener = some line) (quiet : line.session = none) :
      Serves board (.startListening listener port (.ok handlers) started) (.done started)
        [.initSocket listener port, .startListening listener]
        (board.setSession listener
          (some { socket := handlers.socket, pollGroup := handlers.pollGroup }))
  | stopRefused {listener : HListener} {line : Line Listener}
      (found : board.lines listener = some line) (quiet : line.session = none) :
      Serves board (.stopListening listener) (.done (.error notListening)) [] board
  | stopped {listener : HListener} {line : Line Listener} {session : Session}
      {order : List HSteamNetConnection} (found : board.lines listener = some line)
      (listening : line.session = some session) (lists : session.Lists order) :
      Serves board (.stopListening listener) (.done (.ok ()))
        (Session.closeCalls listener order) (board.setSession listener none)
  | poppedReceived {listener : HListener} {line : Line Listener}
      (found : board.lines listener = some line) :
      Serves board (.tryPopReceivedMessageQueue listener)
        (.message (.ok (IListener.tryPopReceived line.listener).1))
        [.getReceivedQueue listener]
        (board.setObject listener (IListener.tryPopReceived line.listener).2)
  | pushRefused {listener : HListener} {message : Request} {line : Line Listener}
      (found : board.lines listener = some line) (quiet : line.session = none) :
      Serves board (.pushOutgoingMessageQueue listener message)
        (.done (.error pushWithoutListening)) [] board
  | pushUnconnected {listener : HListener} {message : Request} {line : Line Listener}
      {session : Session} (found : board.lines listener = some line)
      (listening : line.session = some session)
      (absent : session.connections message.connection = none) :
      Serves board (.pushOutgoingMessageQueue listener message)
        (.done (.error unknownConnection)) [] board
  | pushed {listener : HListener} {message : Request} {line : Line Listener}
      {session : Session} {flag : Bool} (found : board.lines listener = some line)
      (listening : line.session = some session)
      (connected : session.connections message.connection = some flag) :
      Serves board (.pushOutgoingMessageQueue listener message) (.done (.ok ()))
        [.getOutgoingQueue listener]
        (board.setObject listener (IListener.pushOutgoing line.listener message))
  | poppedError {listener : HListener} {line : Line Listener}
      (found : board.lines listener = some line) :
      Serves board (.tryPopErrorQueue listener)
        (.error (.ok (IListener.tryPopError line.listener).1)) [.getErrorQueue listener]
        (board.setObject listener (IListener.tryPopError line.listener).2)
  | served {socket : HSteamListenSocket} {connection : HSteamNetConnection}
      {listener : HListener} {line : Line Listener} {session : Session} {flag : Bool}
      (found : board.lines listener = some line) (isOn : line.IsOn session socket)
      (connected : session.connections connection = some flag) :
      Serves board (.connectionServed socket connection) .nothing []
        (board.setSession listener (some (session.set connection (some true))))
  | ignored {info : SteamNetConnectionStatusChangedCallback} {accepted : EResult}
      {grouped : Bool} (state : info.state ≠ .connecting ∧ info.state ≠ .closedByPeer ∧
        info.state ≠ .problemDetectedLocally) :
      Serves board (.callbackManager info accepted grouped) .nothing [] board
  | turnedAway {info : SteamNetConnectionStatusChangedCallback} {accepted : EResult}
      {grouped : Bool} (state : info.state = .connecting) (refused : accepted ≠ .ok) :
      Serves board (.callbackManager info accepted grouped) .nothing
        [.adapter (.acceptConnection info.hConn), .adapter (.closeConnection info.hConn 0)] board
  | ungrouped {info : SteamNetConnectionStatusChangedCallback} {listener : HListener}
      {line : Line Listener} {session : Session} (state : info.state = .connecting)
      (found : board.lines listener = some line) (isOn : line.IsOn session info.listenSocket) :
      Serves board (.callbackManager info .ok false) .nothing
        [.adapter (.acceptConnection info.hConn),
          .adapter (.setConnectionPollGroup info.hConn session.pollGroup),
          .adapter (.closeConnection info.hConn 0)] board
  | connected {info : SteamNetConnectionStatusChangedCallback} {listener : HListener}
      {line : Line Listener} {session : Session} (state : info.state = .connecting)
      (found : board.lines listener = some line) (isOn : line.IsOn session info.listenSocket) :
      Serves board (.callbackManager info .ok true) .nothing
        [.adapter (.acceptConnection info.hConn),
          .adapter (.setConnectionPollGroup info.hConn session.pollGroup)]
        (board.setSession listener (some (session.set info.hConn (some false))))
  | disconnected {info : SteamNetConnectionStatusChangedCallback} {accepted : EResult}
      {grouped : Bool} {listener : HListener} {line : Line Listener} {session : Session}
      {flag : Bool} (state : info.state = .closedByPeer ∨ info.state = .problemDetectedLocally)
      (oldState : info.oldState = .connected ∨ info.oldState = .connecting)
      (found : board.lines listener = some line) (isOn : line.IsOn session info.listenSocket)
      (held : session.connections info.hConn = some flag) :
      Serves board (.callbackManager info accepted grouped) .nothing
        [.adapter (.closeConnection info.hConn 0)]
        (board.setSession listener (some (session.set info.hConn none)))
  | changed {listener : HListener} {object : Listener} :
      Serves board (.listenerChanges listener object) .nothing []
        (board.setObject listener object)

end Serves

/-- An operation with what can be seen of it: what it returns and the calls it makes. -/
structure Exchange (Listener : Type) where
  operation : CoreOperation Listener
  outcome : Outcome
  calls : List CoreCall

/-- The switchboard as a specification. -/
def switchboard (Listener : Type) [IListener Listener] :
    Specification (Switchboard Listener) (Exchange Listener) where
  Initial board := board = {}
  Step board exchange next :=
    Serves board exchange.operation exchange.outcome exchange.calls next

theorem runs_of_serves {Listener : Type} [IListener Listener] {board next : Switchboard Listener}
    {operation : CoreOperation Listener} {outcome : Outcome} {calls : List CoreCall}
    (serves : Serves board operation outcome calls next) :
    (switchboard Listener).Runs board [⟨operation, outcome, calls⟩] next :=
  Specification.Runs.refl.tail serves

end HttpServer
