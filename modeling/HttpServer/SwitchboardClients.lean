import HttpServer.LiveConnections
import HttpServer.SerializedCalls
import HttpServer.SwitchboardRefinement

/-!
# The clients of the switchboard

The core that the network thread runs is a switchboard, and the thread runs one function
after the other.  The clients of the manager therefore share one switchboard: all that they
are told is what a single run of it answers, in the order in which they have pushed their
requests.  Between two requests the listeners' threads change their objects, and
`RunCallbacks` reports what happens to the connections.
-/

namespace HttpServer

open NetworkManager Replay

/-- A call on the manager that waits for its result. -/
inductive ClientRequest where
  | createListener (listenerName : Option CString)
  | destroyListener (listener : HListener)
  | startListening (listener : HListener) (port : UInt16)
  | stopListening (listener : HListener)
  | tryPopReceivedMessageQueue (listener : HListener)
  | pushOutgoingMessageQueue (listener : HListener) (message : Request)
  | tryPopErrorQueue (listener : HListener)

/-- What is only decided when the function runs: the listener objects that their threads
have changed, and what `initSocket` and `startListening` of a listener return. -/
structure Circumstances (Listener : Type) where
  changes : List (HListener × Listener) := []
  initSocket : Result SocketHandlers := .ok ⟨1, 1⟩
  started : Result Unit := .ok ()

namespace ClientRequest

def operation {Listener : Type} (request : ClientRequest) (now : Circumstances Listener) :
    CoreOperation Listener :=
  match request with
  | createListener listenerName => .createListener listenerName
  | destroyListener listener => .destroyListener listener
  | startListening listener port => .startListening listener port now.initSocket now.started
  | stopListening listener => .stopListening listener
  | tryPopReceivedMessageQueue listener => .tryPopReceivedMessageQueue listener
  | pushOutgoingMessageQueue listener message => .pushOutgoingMessageQueue listener message
  | tryPopErrorQueue listener => .tryPopErrorQueue listener

end ClientRequest

/-- What a client has asked for with the operation. -/
def CoreOperation.request? {Listener : Type} : CoreOperation Listener → Option ClientRequest
  | createListener listenerName => some (.createListener listenerName)
  | destroyListener listener => some (.destroyListener listener)
  | startListening listener port _ _ => some (.startListening listener port)
  | stopListening listener => some (.stopListening listener)
  | tryPopReceivedMessageQueue listener => some (.tryPopReceivedMessageQueue listener)
  | pushOutgoingMessageQueue listener message => some (.pushOutgoingMessageQueue listener message)
  | tryPopErrorQueue listener => some (.tryPopErrorQueue listener)
  | connectionServed _ _ | callbackManager _ _ _ | listenerChanges _ _ => none

/-- A status event, or a change of a listener object by its thread. -/
def CoreOperation.isEvent {Listener : Type} : CoreOperation Listener → Bool
  | callbackManager _ _ _ | listenerChanges _ _ => true
  | _ => false

def Exchange.isRequest {Listener : Type} (exchange : Exchange Listener) : Bool :=
  exchange.operation.request?.isSome

namespace NetworkManagerCore

variable {Listener : Type}

/-- The core with the listener objects that have changed. -/
def changed (core : NetworkManagerCore Listener) (changes : List (HListener × Listener)) :
    NetworkManagerCore Listener :=
  changes.foldl (fun core (listener, object) =>
    core.updateListener listener fun info => { info with listener := object }) core

end NetworkManagerCore

variable {Listener Interface : Type} [IListener Listener]

/-- The function that is pushed for a request.  Its value is noted together with the
operation and the calls that it makes. -/
def ClientRequest.funktion (request : ClientRequest)
    (circumstances : NetworkManagerCore Listener → Circumstances Listener)
    (core : NetworkManagerCore Listener) :
    Except Fault (Exchange Listener × NetworkManagerCore Listener) :=
  let operation := request.operation (circumstances core)
  let core := core.changed (circumstances core).changes
  (operation.perform core).map fun (outcome, next) =>
    (⟨operation, outcome, next.calls.drop core.calls.length⟩, next)

abbrev SwitchboardManager (Listener Interface : Type) :=
  NetworkManager (NetworkManagerCore Listener) Interface (Exchange Listener)

abbrev SwitchboardAction (Listener Interface : Type) :=
  NetworkManagerAction (NetworkManagerCore Listener) Interface (Exchange Listener)

abbrev SwitchboardTrace (Listener Interface : Type) :=
  ManagerTrace (NetworkManagerCore Listener) Interface (Exchange Listener)

/-- The manager is given a new core and not killed, clients make requests, the listeners'
threads call `ConnectionServed`, and Steam keeps its contract in every operation that is
performed and in every event that is delivered. -/
def InUse (manager : SwitchboardManager Listener Interface) :
    SwitchboardAction Listener Interface → Prop
  | .init core _ => core = {}
  | .kill => False
  | .call _ func => ∃ request circumstances, func = ClientRequest.funktion request circumstances
  | .connectionServed _ served =>
      ∃ socket connection, served = fun core => core.connectionServed socket connection
  | .network callbacks =>
      ∀ core, manager.core = some core →
        (∀ counter promise func kills exchange next,
          manager.thread = .call counter (.funktion promise func kills) →
          func core = .ok (exchange, next) → SteamContract core exchange.operation) ∧
        (manager.thread = .pollConnectionChanges → ∃ events : List (CoreOperation Listener),
          (∀ event ∈ events, event.isEvent = true) ∧
          (coreSystem Listener).StepsWhere InContract (.ok core) events (callbacks core))
  | _ => True

/-- The request that the step performs, with its promise and what came of it. -/
def execution? : SwitchboardManager Listener Interface × SwitchboardAction Listener Interface →
    Option (Nat × Exchange Listener)
  | (manager, .network _) =>
      match manager.thread, manager.core with
      | .call _ (.funktion promise func _), some core =>
          match func core with
          | .ok (exchange, _) => some (promise, exchange)
          | .error _ => none
      | _, _ => none
  | _ => none

def executions (trace : SwitchboardTrace Listener Interface) : List (Nat × Exchange Listener) :=
  trace.filterMap execution?

section Changes

variable {core next : NetworkManagerCore Listener} {created : Nat}

omit [IListener Listener] in
theorem request_operation (request : ClientRequest) (now : Circumstances Listener) :
    (request.operation now).request? = some request := by
  cases request <;> rfl

/-- The changed objects are changed on the switchboard. -/
theorem runs_changed (changes : List (HListener × Listener)) :
    (switchboard Listener).Runs core.board
      (changes.map fun (listener, object) => ⟨.listenerChanges listener object, .nothing, []⟩)
      (core.changed changes).board := by
  induction changes generalizing core with
  | nil => exact .refl
  | cons change changes ih =>
      have first : (switchboard Listener).Runs core.board
          [⟨.listenerChanges change.1 change.2, .nothing, []⟩]
          (core.updateListener change.1 fun info =>
            { info with listener := change.2 }).board := by
        rw [board_setObject]
        exact runs_of_serves .changed
      exact first.trans ih

omit [IListener Listener] in
/-- Nothing of what the contract is about has changed. -/
theorem frame_changed (core : NetworkManagerCore Listener) (changes : List (HListener × Listener)) :
    (core.changed changes).socketClientsMap = core.socketClientsMap ∧
      (core.changed changes).listenerHandlerIndex = core.listenerHandlerIndex := by
  induction changes generalizing core with
  | nil => exact ⟨rfl, rfl⟩
  | cons change changes ih => exact ih _

omit [IListener Listener] in
theorem Lined.changed (lined : Lined created core) (changes : List (HListener × Listener)) :
    Lined created (core.changed changes) := by
  induction changes generalizing core with
  | nil => exact lined
  | cons change changes ih =>
      exact ih ⟨lined.represents.updateListener fun _ => rfl, lined.few, lined.apart⟩

omit [IListener Listener] in
/-- The contract does not look at the listener objects. -/
theorem contract_changed {operation : CoreOperation Listener}
    (contract : SteamContract core operation) (changes : List (HListener × Listener)) :
    SteamContract (core.changed changes) operation := by
  obtain ⟨tables, index⟩ := frame_changed core changes
  obtain ⟨socket, connection, counter⟩ := contract
  constructor
  · cases operation with
    | startListening listener port initSocket started =>
        cases initSocket with
        | error err => trivial
        | ok handlers =>
            change _ ∧ _ ∉ (core.changed changes).socketClientsMap
            rw [tables]
            exact socket
    | _ => trivial
  · cases operation with
    | callbackManager info accepted grouped =>
        change _ → _ ∉ ((core.changed changes).tableOf _).getD []
        rw [NetworkManagerCore.tableOf, tables]
        exact connection
    | _ => trivial
  · cases operation with
    | createListener name =>
        change (core.changed changes).listenerHandlerIndex + 1 ≠ 0
        rw [index]
        exact counter
    | _ => trivial

theorem request_of_funktion {request : ClientRequest}
    {circumstances : NetworkManagerCore Listener → Circumstances Listener}
    {exchange : Exchange Listener}
    (performs : request.funktion circumstances core = .ok (exchange, next)) :
    exchange.operation.request? = some request := by
  obtain ⟨_, _, ends⟩ := map_eq_ok_iff.mp performs
  cases ends
  exact request_operation request _

/-- What a request does to the switchboard. -/
theorem runs_funktion {request : ClientRequest}
    {circumstances : NetworkManagerCore Listener → Circumstances Listener}
    {exchange : Exchange Listener} (lined : Lined created core)
    (performs : request.funktion circumstances core = .ok (exchange, next))
    (contract : SteamContract core exchange.operation) :
    (∃ created, Lined created next) ∧
      ∃ shown, (switchboard Listener).Runs core.board shown next.board ∧
        shown.filter Exchange.isRequest = [exchange] := by
  have asked := request_of_funktion performs
  obtain ⟨⟨outcome, _⟩, comes, ends⟩ := map_eq_ok_iff.mp performs
  cases ends
  have meets := contract_changed contract (circumstances core).changes
  have changed := lined.changed (circumstances core).changes
  obtain ⟨made, calls, serves⟩ := changed.implements meets comes
  have quiet : ((circumstances core).changes.map fun (listener, object) =>
      (⟨.listenerChanges listener object, .nothing, []⟩ : Exchange Listener)).filter
        Exchange.isRequest = [] := by
    rw [List.filter_eq_nil_iff]
    intro exchange member
    obtain ⟨change, _, rfl⟩ := List.mem_map.mp member
    exact nofun
  refine ⟨⟨_, changed.perform meets comes⟩, _,
    (runs_changed (circumstances core).changes).trans (runs_of_serves serves), ?_⟩
  rw [List.filter_append, quiet, calls, List.drop_left, List.nil_append]
  apply List.filter_cons_of_pos
  rw [Exchange.isRequest, asked]
  rfl

theorem runs_connectionServed {socket : HSteamListenSocket} {connection : HSteamNetConnection}
    (lined : Lined created core) (serves : core.connectionServed socket connection = .ok next) :
    (∃ created, Lined created next) ∧
      ∃ shown, (switchboard Listener).Runs core.board shown next.board ∧
        shown.filter Exchange.isRequest = [] := by
  have performs : (CoreOperation.connectionServed socket connection).perform core =
      .ok (.nothing, next) := by
    rw [CoreOperation.perform, serves]
    rfl
  obtain ⟨made, calls, step⟩ := lined.connectionServed serves
  have contract : SteamContract core (.connectionServed socket connection) :=
    ⟨trivial, trivial, trivial⟩
  exact ⟨⟨_, lined.perform contract performs⟩, _, runs_of_serves step, rfl⟩

/-- What `RunCallbacks` does to the switchboard. -/
theorem runs_events {events : List (CoreOperation Listener)} (lined : Lined created core)
    (isEvent : ∀ event ∈ events, event.isEvent = true)
    (steps : (coreSystem Listener).StepsWhere InContract (.ok core) events (.ok next)) :
    (∃ created, Lined created next) ∧
      ∃ shown, (switchboard Listener).Runs core.board shown next.board ∧
        shown.filter Exchange.isRequest = [] := by
  refine steps.invariant (fun events state => (∀ event ∈ events, event.isEvent = true) →
    ∀ next, state = .ok next → (∃ created, Lined created next) ∧
      ∃ shown, (switchboard Listener).Runs core.board shown next.board ∧
        shown.filter Exchange.isRequest = []) ?_ ?_ isEvent next rfl
  · rintro _ next ⟨⟩
    exact ⟨⟨created, lined⟩, [], .refl, rfl⟩
  · rintro before state event last _ ih contract moves isEvent next rfl
    rw [List.forall_mem_append, List.forall_mem_singleton] at isEvent
    obtain ⟨middle, outcome, rfl, performs⟩ := performs_of_step moves
    obtain ⟨⟨count, kept⟩, shown, runs, quiet⟩ := ih isEvent.1 middle rfl
    obtain ⟨made, _, serves⟩ := kept.implements contract performs
    refine ⟨⟨_, kept.perform contract performs⟩, _,
      runs.trans (runs_of_serves serves), ?_⟩
    rw [List.filter_append, quiet, List.nil_append, List.filter_eq_nil_iff,
      List.forall_mem_singleton]
    cases event with
    | callbackManager | listenerChanges => exact nofun
    | _ => cases isEvent.2

end Changes

/-- The function is one of a request or of a `ConnectionServed`. -/
def QueuedFunction.IsOperation :
    QueuedFunction (NetworkManagerCore Listener) (Exchange Listener) → Prop
  | .funktion _ func _ =>
      ∃ request circumstances, func = ClientRequest.funktion request circumstances
  | .connectionServed served _ =>
      ∃ socket connection, served = fun core => core.connectionServed socket connection

/-- What the caller is about to push is such a function. -/
def Caller.IsOperation : Caller (NetworkManagerCore Listener) (Exchange Listener) → Prop
  | .push func => ∃ request circumstances, func = ClientRequest.funktion request circumstances
  | .notifyServed func | .pushServed func =>
      ∃ socket connection, func = fun core => core.connectionServed socket connection
  | _ => True

/-- All that waits for the core is meant for a switchboard, and so is the core that is being
installed. -/
structure Requested (manager : SwitchboardManager Listener Interface) : Prop where
  items : ∀ item ∈ manager.unfinished, item.IsOperation
  callers : ∀ caller, (manager.callers caller).IsOperation
  installing : ∀ core, (manager.control = .setCore core ∨
    ∃ pInterface, manager.control = .setInterface core pInterface) → core = {}

section Steps

variable {manager next : SwitchboardManager Listener Interface}
  {action : SwitchboardAction Listener Interface}
  {actions : List (SwitchboardAction Listener Interface)}
  {trace : SwitchboardTrace Listener Interface}

theorem NotKilled.of_inUse (inUse : InUse manager action) : NotKilled manager action := by
  cases action with
  | kill => exact inUse
  | _ => trivial

namespace Requested

theorem initial : Requested ({} : SwitchboardManager Listener Interface) where
  items item member := by cases member
  callers _ := trivial
  installing _ places := by simp at places

/-- A caller goes on. -/
theorem setCaller (requested : Requested manager) {caller : Nat}
    {place : Caller (NetworkManagerCore Listener) (Exchange Listener)}
    (isOperation : place.IsOperation) : ∀ other,
      ((manager.setCaller caller place).callers other).IsOperation := by
  intro other
  by_cases same : other = caller
  · subst other
    rw [setCaller_self]
    exact isOperation
  · rw [setCaller_of_ne same]
    exact requested.callers other

theorem runStep {callbacks : NetworkManagerCore Listener →
      Except Fault (NetworkManagerCore Listener)} (requested : Requested manager)
    (runs : RunStep callbacks manager next) : Requested next := by
  have frame := runs.frame
  have rest := requested.items
  refine ⟨fun item member => rest item ?_, ?_, ?_⟩
  · cases runs with
    | move place moves =>
        obtain ⟨-, -, held, heldAfter⟩ := moves.isRunning
        simpa [unfinished, moveTo, place, held, heldAfter] using member
    | tick place =>
        rcases place with ⟨place, -⟩ | ⟨place, -⟩ <;>
          simpa [unfinished, beginTick, place, NetworkThread.held?] using member
    | pop place queue =>
        simpa [unfinished, place, queue, NetworkThread.held?] using member
    | call place =>
        apply List.mem_append_right _
        simpa [unfinished, NetworkThread.held?] using member
    | callbacks place | usedMap place | clearBusy place =>
        simpa [unfinished, moveTo, place, NetworkThread.held?] using member
  · rw [frame.callers]
    exact requested.callers
  · rw [frame.control]
    exact requested.installing

theorem callerStep {caller : Nat} (requested : Requested manager)
    (steps : CallerStep manager caller next) : Requested next := by
  have isOperation := requested.callers caller
  cases steps with
  | @push func place =>
      rw [place] at isOperation
      refine ⟨fun item member => ?_, requested.setCaller trivial, requested.installing⟩
      simp only [unfinished, NetworkManager.setCaller, ThreadSaveQueue.push,
        List.mem_append, List.mem_singleton] at member
      rcases member with held | before | rfl
      · exact requested.items item (List.mem_append_left _ held)
      · exact requested.items item (List.mem_append_right _ before)
      · exact isOperation
  | notify place =>
      refine ⟨fun item member => requested.items item ?_, requested.setCaller trivial,
        requested.installing⟩
      simpa [unfinished, notified, NetworkManager.setCaller, held_wakeUp] using member
  | notifyServed place =>
      rw [place] at isOperation
      refine ⟨fun item member => requested.items item ?_, requested.setCaller isOperation,
        requested.installing⟩
      simpa [unfinished, notified, NetworkManager.setCaller, held_wakeUp] using member
  | get place =>
      exact ⟨requested.items, requested.setCaller trivial, requested.installing⟩
  | @pushServed served place =>
      rw [place] at isOperation
      refine ⟨fun item member => ?_, requested.setCaller trivial, requested.installing⟩
      simp only [unfinished, NetworkManager.setCaller, ThreadSaveQueue.push,
        List.mem_append, List.mem_singleton] at member
      rcases member with held | before | rfl
      · exact requested.items item (List.mem_append_left _ held)
      · exact requested.items item (List.mem_append_right _ before)
      · exact isOperation

theorem controlStep {callbackSet : Bool} (requested : Requested manager)
    (alive : manager.control.isKill = false) (cycle : LifeCycle manager)
    (steps : ControlStep manager callbackSet next) : Requested next := by
  have absent := cycle.noThread
  cases steps with
  | clearRunning place | notifyAll place | join place | resetCore place
  | resetInterface place | clearInitialized place | clearFunctionCalls place =>
      rw [place] at alive
      cases alive
  | setInterface place =>
      refine ⟨requested.items, requested.callers, fun core places => ?_⟩
      obtain rfl : _ = core := by simpa using places
      exact requested.installing _ (Or.inr ⟨_, place⟩)
  | startThread place =>
      rw [place] at absent
      refine ⟨fun item member => requested.items item ?_, requested.callers,
        fun _ places => by simp at places⟩
      simpa [unfinished, absent rfl, NetworkThread.held?] using member
  | setCore | setGlobalCallback | callbackFailed | setRunning | setInitialized =>
      exact ⟨requested.items, requested.callers, fun _ places => by simp at places⟩

theorem step (requested : Requested manager) (cycle : LifeCycle manager)
    (alive : manager.control.isKill = false) (inUse : InUse manager action)
    (steps : (networkManagerSystem (NetworkManagerCore Listener) Interface
      (Exchange Listener)).step manager action = some next) : Requested next := by
  cases managerStep_of_step steps with
  | network runs => exact requested.runStep runs
  | wake parked =>
      refine ⟨fun item member => requested.items item ?_, requested.callers,
        requested.installing⟩
      simpa [unfinished, moveTo, parked, NetworkThread.held?] using member
  | initRefused =>
      exact ⟨requested.items, requested.callers, fun _ places => by simp at places⟩
  | init place =>
      refine ⟨requested.items, requested.callers, fun core places => ?_⟩
      obtain rfl : _ = core := by simpa using places
      exact inUse
  | kill => exact inUse.elim
  | control steps => exact requested.controlStep alive cycle steps
  | call | connectionServed =>
      exact ⟨requested.items, requested.setCaller inUse, requested.installing⟩
  | callRefused | servedRefused =>
      exact ⟨requested.items, requested.setCaller trivial, requested.installing⟩
  | caller steps => exact requested.callerStep steps

end Requested

/-- A run of the switchboard has answered the requests, and the core shows what has come of
it. -/
def Answered (core : NetworkManagerCore Listener) (requests : List (Exchange Listener)) : Prop :=
  (∃ created, Lined created core) ∧ ∃ shown,
    (switchboard Listener).Runs {} shown core.board ∧ shown.filter Exchange.isRequest = requests

theorem Answered.trans {core changed : NetworkManagerCore Listener}
    {requests more shown : List (Exchange Listener)} (answered : Answered core requests)
    (lined : ∃ created, Lined created changed)
    (runs : (switchboard Listener).Runs core.board shown changed.board)
    (answers : shown.filter Exchange.isRequest = more) : Answered changed (requests ++ more) := by
  obtain ⟨_, before, reaches, same⟩ := answered
  refine ⟨lined, _, reaches.trans runs, ?_⟩
  rw [List.filter_append, same, answers]

theorem answered_initial : Answered ({} : NetworkManagerCore Listener) [] := by
  refine ⟨lined_of_reachable ⟨_, [], rfl, .refl⟩, [], ?_, rfl⟩
  rw [board_empty]
  exact .refl

omit [IListener Listener] in
theorem executions_concat : executions (trace ++ [(manager, action)]) =
    executions trace ++ (execution? (manager, action)).toList :=
  filterMap_concat

omit [IListener Listener] in
/-- The step that performs a request runs its function, and no other step does so. -/
theorem promised_execution
    (steps : (networkManagerSystem (NetworkManagerCore Listener) Interface
      (Exchange Listener)).step manager action = some next) :
    (execution? (manager, action)).map Prod.fst =
      ((coreEvent? (manager, action)).bind CoreEvent.function?).bind
        QueuedFunction.promise? := by
  cases managerStep_of_step steps with
  | network runs =>
      cases runs with
      | @call counter item core changed value place installed runs =>
          cases item with
          | connectionServed served kills =>
              simp [execution?, coreEvent?, place, CoreEvent.function?, QueuedFunction.promise?]
          | funktion promise func kills =>
              obtain ⟨⟨exchange, last⟩, performs, -⟩ := map_eq_ok_iff.mp runs
              simp [execution?, coreEvent?, place, installed, performs, CoreEvent.function?,
                QueuedFunction.promise?]
      | @move before after place moves =>
          rw [execution?, coreEvent?, place]
          cases moves <;> rfl
      | tick place =>
          rcases place with ⟨place, -⟩ | ⟨place, -⟩ <;> simp [execution?, coreEvent?, place]
      | pop place | callbacks place | usedMap place | clearBusy place =>
          simp [execution?, coreEvent?, place, CoreEvent.function?]
  | _ => rfl

omit [IListener Listener] in
theorem execution?_eq_some {execution : Nat × Exchange Listener}
    (performs : execution? (manager, action) = some execution) :
    ∃ callbacks counter func kills core changed, action = .network callbacks ∧
      manager.thread = .call counter (.funktion execution.1 func kills) ∧
      manager.core = some core ∧ func core = .ok (execution.2, changed) := by
  cases action with
  | network callbacks =>
      unfold execution? at performs
      dsimp only at performs
      split at performs
      next counter promise func kills core place installed =>
        split at performs
        next exchange changed comes =>
          cases performs
          exact ⟨callbacks, counter, func, kills, core, changed, rfl, place, installed, comes⟩
        next => cases performs
      next => cases performs
  | _ => cases performs

/-- The switchboard has answered all requests that were performed.  Every one of them was
pushed by a client, and every client is given its answer. -/
structure Attended (trace : SwitchboardTrace Listener Interface)
    (manager : SwitchboardManager Listener Interface) : Prop where
  requested : Requested manager
  answered : ∀ core, manager.core = some core →
    Answered core ((executions trace).map Prod.snd)
  promised : (executions trace).map Prod.fst =
    (executed trace).filterMap QueuedFunction.promise?
  asked : ∀ execution ∈ executions trace, ∃ client request circumstances,
    execution.2.operation.request? = some request ∧
      (execution.1, ClientRequest.funktion request circumstances) ∈
        trace.filterMap (pushedBy? client)
  set : ∀ promise exchange, manager.promises promise = some exchange →
    (promise, exchange) ∈ executions trace
  returned : ∀ client, ∀ response ∈ trace.filterMap (returnedCall? client),
    response ∈ executions trace

namespace Attended

theorem initial : Attended [] ({} : SwitchboardManager Listener Interface) where
  requested := .initial
  answered _ installed := by cases installed
  promised := rfl
  asked _ member := by cases member
  set _ _ isSet := by cases isSet
  returned _ _ member := by cases member

/-- Nothing is performed before the core does anything. -/
theorem executions_eq_nil (attended : Attended trace manager) (idle : coreEvents trace = []) :
    executions trace = [] := by
  have none := attended.promised
  rw [executed, idle] at none
  exact List.map_eq_nil_iff.mp none

/-- The core is that of a switchboard which has also answered the request of this step. -/
theorem answered_step (attended : Attended trace manager) (cycle : LifeCycle manager)
    (account : CallAccount actions trace manager) (inUse : InUse manager action)
    (steps : (networkManagerSystem (NetworkManagerCore Listener) Interface
      (Exchange Listener)).step manager action = some next) : ∀ core, next.core = some core →
    Answered core ((executions trace).map Prod.snd ++
      ((execution? (manager, action)).map Prod.snd).toList) := by
  have promised := promised_execution steps
  have keeps (event : coreEvent? (manager, action) = none) (same : next.core = manager.core) :
      ∀ core, next.core = some core → Answered core ((executions trace).map Prod.snd ++
        ((execution? (manager, action)).map Prod.snd).toList) := by
    intro core installed
    rw [event] at promised
    rw [Option.map_eq_none_iff.mp promised]
    exact (List.append_nil _).symm ▸ attended.answered core (same ▸ installed)
  cases managerStep_of_step steps with
  | network runs =>
      cases runs with
      | @call counter item core changed value place installed runs =>
          rintro _ ⟨⟩
          have answered := attended.answered core installed
          obtain ⟨created, lined⟩ := answered.1
          have isOperation := attended.requested.items item (by
            simp [unfinished, place, NetworkThread.held?])
          cases item with
          | connectionServed served kills =>
              obtain ⟨socket, connection, rfl⟩ := isOperation
              obtain ⟨last, serves, pair⟩ := map_eq_ok_iff.mp runs
              cases pair
              obtain ⟨kept, shown, reaches, quiet⟩ := runs_connectionServed lined serves
              simpa [execution?, place] using answered.trans kept reaches quiet
          | funktion promise func kills =>
              obtain ⟨request, circumstances, rfl⟩ := isOperation
              obtain ⟨⟨exchange, last⟩, performs, pair⟩ := map_eq_ok_iff.mp runs
              cases pair
              have contract := (inUse core installed).1 counter promise _ kills exchange changed
                place performs
              obtain ⟨kept, shown, reaches, answers⟩ := runs_funktion lined performs contract
              simpa [execution?, place, installed, performs] using
                answered.trans kept reaches answers
      | @callbacks core changed place installed runs =>
          rintro _ ⟨⟩
          have answered := attended.answered core installed
          obtain ⟨created, lined⟩ := answered.1
          obtain ⟨events, isEvent, handles⟩ := (inUse core installed).2 place
          rw [runs] at handles
          obtain ⟨kept, shown, reaches, quiet⟩ := runs_events lined isEvent handles
          simpa [execution?, place] using answered.trans kept reaches quiet
      | @move before after place moves =>
          refine keeps ?_ rfl
          rw [coreEvent?, place]
          cases moves <;> rfl
      | tick place =>
          refine keeps ?_ rfl
          rcases place with ⟨place, -⟩ | ⟨place, -⟩ <;> simp [coreEvent?, place]
      | pop place | usedMap place | clearBusy place =>
          exact keeps (by simp [coreEvent?, place]) rfl
  | control steps =>
      cases steps with
      | setCore place =>
          rintro core ⟨⟩
          have absent := cycle.noThread (by rw [place]; rfl)
          obtain rfl := attended.requested.installing _ (Or.inl place)
          rw [attended.executions_eq_nil (account.unstarted absent)]
          exact answered_initial
      | clearRunning place | notifyAll place | join place | resetCore place
      | resetInterface place | clearInitialized place | clearFunctionCalls place =>
          have alive := account.alive
          rw [place] at alive
          cases alive
      | _ => exact keeps rfl rfl
  | caller steps => exact keeps rfl (by cases steps <;> rfl)
  | _ => exact keeps rfl rfl

/-- The function that runs was pushed by a client, and is that of a request. -/
theorem asked_step (attended : Attended trace manager) (account : CallAccount actions trace manager)
    {execution : Nat × Exchange Listener}
    (performs : execution? (manager, action) = some execution) :
    ∃ client request circumstances, execution.2.operation.request? = some request ∧
      (execution.1, ClientRequest.funktion request circumstances) ∈
        trace.filterMap (pushedBy? client) := by
  obtain ⟨_, _, func, kills, core, changed, -, place, -, comes⟩ := execution?_eq_some performs
  have held : .funktion execution.1 func kills ∈ manager.unfinished := by
    simp [unfinished, place, NetworkThread.held?]
  obtain ⟨request, circumstances, rfl⟩ := attended.requested.items _ held
  have pushed : .funktion execution.1 (request.funktion circumstances) kills ∈
      (pushedCalls trace).map Prod.snd := account.queue ▸ List.mem_append_right _ held
  obtain ⟨⟨client, _⟩, pushes, rfl⟩ := List.mem_map.mp pushed
  obtain ⟨step, member, same⟩ := List.mem_filterMap.mp pushes
  refine ⟨client, request, circumstances, request_of_funktion comes,
    List.mem_filterMap.mpr ⟨step, member, ?_⟩⟩
  simp [pushedBy?, same, QueuedFunction.funktion?]

omit [IListener Listener] in
/-- A promise has its value from the request that is performed. -/
theorem set_step {promise : Nat} {exchange : Exchange Listener}
    (steps : (networkManagerSystem (NetworkManagerCore Listener) Interface
      (Exchange Listener)).step manager action = some next)
    (isSet : next.promises promise = some exchange) :
    manager.promises promise = some exchange ∨
      execution? (manager, action) = some (promise, exchange) := by
  cases managerStep_of_step steps with
  | network runs =>
      cases runs with
      | @call counter item core changed value place installed runs =>
          refine (promises_of_call isSet).imp_right fun own => ?_
          cases item with
          | connectionServed served kills => cases own
          | funktion promise func kills =>
              obtain ⟨⟨exchange, last⟩, performs, pair⟩ := map_eq_ok_iff.mp runs
              cases pair
              cases own
              simp [execution?, place, installed, performs]
      | _ => exact Or.inl isSet
  | control steps => cases steps <;> exact Or.inl isSet
  | caller steps => cases steps <;> exact Or.inl isSet
  | _ => exact Or.inl isSet

theorem step (attended : Attended trace manager) (cycle : LifeCycle manager)
    (account : CallAccount actions trace manager) (inUse : InUse manager action)
    (steps : (networkManagerSystem (NetworkManagerCore Listener) Interface
      (Exchange Listener)).step manager action = some next) :
    Attended (trace ++ [(manager, action)]) next := by
  refine ⟨attended.requested.step cycle account.alive inUse steps, ?_, ?_, ?_, ?_, ?_⟩
  · rw [executions_concat, List.map_append, map_toList]
    exact attended.answered_step cycle account inUse steps
  · rw [executions_concat, executed_concat, List.map_append, map_toList, List.filterMap_append,
      attended.promised, promised_execution steps]
    cases (coreEvent? (manager, action)).bind CoreEvent.function? with
    | none => rfl
    | some item => cases promised : item.promise? <;> simp [promised]
  · intro execution member
    rw [executions_concat] at member
    have pushed := (List.mem_append.mp member).elim (attended.asked execution) fun last =>
      attended.asked_step account (Option.mem_toList.mp last)
    obtain ⟨client, request, circumstances, asked, pushes⟩ := pushed
    refine ⟨client, request, circumstances, asked, ?_⟩
    rw [filterMap_concat]
    exact List.mem_append_left _ pushes
  · intro promise exchange isSet
    rw [executions_concat, List.mem_append]
    exact (set_step steps isSet).imp (attended.set promise exchange) Option.mem_toList.mpr
  · intro client response member
    rw [filterMap_concat] at member
    rw [executions_concat]
    refine List.mem_append_left _ ((List.mem_append.mp member).elim
      (attended.returned client response) fun last => ?_)
    exact attended.set _ _ (promise_of_returned (Option.mem_toList.mp last))

end Attended

end Steps

/-- A run of the manager, whose every request the switchboard has answered. -/
theorem attended_of_steps {actions : List (SwitchboardAction Listener Interface)}
    {manager : SwitchboardManager Listener Interface}
    (steps : (networkManagerSystem (NetworkManagerCore Listener) Interface
      (Exchange Listener)).StepsWhere InUse {} actions manager) :
    Attended (managerTrace actions) manager := by
  refine steps.invariant (fun actions manager => Attended (managerTrace actions) manager)
    .initial ?_
  intro before middle action last run attended inUse moves
  have account := callAccount_of_steps (run.mono fun _ _ => NotKilled.of_inUse)
  have cycle := lifeCycle_of_reachable ⟨_, before, rfl, run.mono fun _ _ _ => trivial⟩
  rw [managerTrace, run.trace_concat]
  exact attended.step cycle account inUse moves

/-- In every run of the manager in use, of any number of clients, there is one run of the
switchboard that answers exactly the requests that were performed, in the order in which they
were pushed, and ends with the switchboard of the core.  Every one of them is the request that
a client has pushed with this promise, and what a client is told is the answer of that run. -/
theorem clients_share_switchboard
    (actions : List (SwitchboardAction Listener Interface))
    (manager : SwitchboardManager Listener Interface)
    (steps : (networkManagerSystem (NetworkManagerCore Listener) Interface
      (Exchange Listener)).StepsWhere InUse {} actions manager) :
    ∃ shown, (switchboard Listener).Runs {} shown
        ((manager.core.map NetworkManagerCore.board).getD {}) ∧
      shown.filter Exchange.isRequest = (executions (managerTrace actions)).map Prod.snd ∧
      (executions (managerTrace actions)).map Prod.fst <+: List.range manager.promiseCount ∧
      (∀ execution ∈ executions (managerTrace actions), ∃ client request circumstances,
        execution.2.operation.request? = some request ∧
          (execution.1, ClientRequest.funktion request circumstances) ∈
            (managerTrace actions).filterMap (pushedBy? client)) ∧
      ∀ client, ∀ response ∈ (managerTrace actions).filterMap (returnedCall? client),
        response ∈ executions (managerTrace actions) := by
  have attended := attended_of_steps steps
  have account := callAccount_of_steps (steps.mono fun _ _ => NotKilled.of_inUse)
  have inOrder : (executions (managerTrace actions)).map Prod.fst <+:
      List.range manager.promiseCount := by
    have pushed : (pushedCalls (managerTrace actions)).filterMap (fun (_, item) => item.promise?) =
        ((pushedCalls (managerTrace actions)).map Prod.snd).filterMap QueuedFunction.promise? :=
      by rw [List.filterMap_map]; rfl
    rw [account.promises, pushed, ← account.queue, List.filterMap_append, attended.promised]
    exact List.prefix_append _ _
  cases installed : manager.core with
  | some core =>
      obtain ⟨_, shown, reaches, answers⟩ := attended.answered core installed
      exact ⟨shown, reaches, answers, inOrder, attended.asked, attended.returned⟩
  | none =>
      have executes := account.executes
      rw [installed] at executes
      refine ⟨[], .refl, ?_, inOrder, attended.asked, attended.returned⟩
      rw [attended.executions_eq_nil executes.1]
      rfl

/-- The step neither enters a call nor runs anything on the core. -/
def IsQuiet (manager : SwitchboardManager Listener Interface) :
    SwitchboardAction Listener Interface → Bool
  | .network _ =>
      match manager.thread with
      | .call _ _ | .pollConnectionChanges => false
      | _ => true
  | .control _ | .caller _ => true
  | _ => false

theorem inUse_of_isQuiet {manager : SwitchboardManager Listener Interface}
    {action : SwitchboardAction Listener Interface} (quiet : IsQuiet manager action = true) :
    InUse manager action := by
  cases action with
  | network callbacks =>
      intro core installed
      refine ⟨fun counter promise func kills exchange next place _ => ?_, fun place => ?_⟩
      · rw [IsQuiet, place] at quiet
        cases quiet
      · rw [IsQuiet, place] at quiet
        cases quiet
  | control | caller => trivial
  | wake | init | kill | call | connectionServed => cases quiet

abbrev createListenerCall (client : Nat) : SwitchboardAction ListenerQueues Unit :=
  .call client ((ClientRequest.createListener none).funktion fun _ => {})

/-- Two clients ask for a listener each, and take its handle. -/
def oneListenerEach : List (SwitchboardAction ListenerQueues Unit) :=
  [.init {} ()] ++ (List.replicate 6 (.control true) ++ List.replicate 4 (.network .ok)) ++
    [createListenerCall 0] ++ [createListenerCall 1] ++
    [.caller 0, .caller 1, .caller 0, .caller 1, .network .ok, .network .ok] ++
    [.network .ok] ++ [.network .ok] ++ [.network .ok] ++ [.caller 1, .caller 0]

theorem clients_share_switchboard_oneListenerEach :
    ∃ manager : SwitchboardManager ListenerQueues Unit, ∃ shown,
      (switchboard ListenerQueues).Runs {} shown
        ((manager.core.map NetworkManagerCore.board).getD {}) ∧
      (shown.filter Exchange.isRequest).map Exchange.outcome = [.handle 1, .handle 2] ∧
      (∀ response ∈ (managerTrace oneListenerEach).filterMap (returnedCall? 1),
        response ∈ executions (managerTrace oneListenerEach)) ∧
      ((managerTrace oneListenerEach).filterMap (returnedCall? 1)).map
        (fun response => response.2.outcome) = [.handle 2] := by
  let system := networkManagerSystem (NetworkManagerCore ListenerQueues) Unit
    (Exchange ListenerQueues)
  have quietly {first last} (actions)
      (runs : system.runWhere (IsQuiet · · = true) first actions = some last) :
      system.StepsWhere InUse first actions last :=
    (TransitionSystem.runWhere_eq_some_iff.mp runs).mono fun _ _ => inUse_of_isQuiet
  have begins : system.StepsWhere InUse {} [.init {} ()] _ := .single rfl rfl
  have ready := begins.trans
    (quietly (List.replicate 6 (.control true) ++ List.replicate 4 (.network .ok)) rfl)
  have called := ready.trans
    (.single (show InUse _ (createListenerCall 0) from ⟨_, _, rfl⟩) rfl)
  have calledBoth := called.trans
    (.single (show InUse _ (createListenerCall 1) from ⟨_, _, rfl⟩) rfl)
  have popped := calledBoth.trans
    (quietly [.caller 0, .caller 1, .caller 0, .caller 1, .network .ok, .network .ok] rfl)
  have ran := popped.trans (.single (show InUse _ (.network .ok) by
    rintro core ⟨⟩
    refine ⟨?_, nofun⟩
    rintro counter promise func kills exchange next ⟨⟩ ⟨⟩
    decide) rfl)
  have poppedNext := ran.trans (quietly [.network .ok] rfl)
  have ranNext := poppedNext.trans (.single (show InUse _ (.network .ok) by
    rintro core ⟨⟩
    refine ⟨?_, nofun⟩
    rintro counter promise func kills exchange next ⟨⟩ ⟨⟩
    decide) rfl)
  have steps := ranNext.trans (quietly [.caller 1, .caller 0] rfl)
  obtain ⟨shown, runs, answers, _, _, told⟩ := clients_share_switchboard oneListenerEach _ steps
  exact ⟨_, shown, runs, by rw [answers]; rfl, told 1, rfl⟩

end HttpServer
