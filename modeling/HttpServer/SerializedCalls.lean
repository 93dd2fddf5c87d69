import HttpServer.Library.Replay
import HttpServer.NetworkManager

/-!
# The calls of all clients as one sequential execution

While the manager is not killed, the functions that clients hand to the network
thread run one after the other, in the order in which they were pushed, with the
event callbacks between them.  A client gets the value of its own function, and
not before the function has run.  What the clients see is therefore one sequential
execution on the core that the manager was initialised with.
-/

namespace HttpServer

open NetworkManager Replay

/-- The function of a client, with its promise. -/
def QueuedFunction.funktion? {Core Value : Type} :
    QueuedFunction Core Value → Option (Nat × (Core → Except Fault (Value × Core)))
  | funktion promise func _ => some (promise, func)
  | connectionServed _ _ => none

/-- What the network thread does to the core. -/
inductive CoreEvent (Core Value : Type) where
  | function (item : QueuedFunction Core Value)
  | runCallbacks (callbacks : Core → Except Fault Core)

namespace CoreEvent

variable {Core Value : Type}

def function? : CoreEvent Core Value → Option (QueuedFunction Core Value)
  | function item => some item
  | runCallbacks _ => none

/-- The event on a given core.  A client's function responds with its value,
under the number of its promise. -/
def perform (core : Core) : CoreEvent Core Value → Except Fault (Option (Nat × Value) × Core)
  | function (.funktion promise func _) =>
      (func core).map fun (value, next) => (some (promise, value), next)
  | function (.connectionServed served _) => (served core).map fun next => (none, next)
  | runCallbacks callbacks => (callbacks core).map fun next => (none, next)

end CoreEvent

/-- `kill` is not called. -/
def NotKilled {Core Interface Value : Type} (_ : NetworkManager Core Interface Value) :
    NetworkManagerAction Core Interface Value → Prop
  | .kill => False
  | _ => True

instance {Core Interface Value : Type} : ∀ (manager : NetworkManager Core Interface Value)
    (action : NetworkManagerAction Core Interface Value), Decidable (NotKilled manager action)
  | _, .kill => isFalse id
  | _, .network _ | _, .wake | _, .init _ _ | _, .control _ | _, .call _ _
  | _, .connectionServed _ _ | _, .caller _ => isTrue trivial

abbrev ManagerTrace (Core Interface Value : Type) :=
  List (NetworkManager Core Interface Value × NetworkManagerAction Core Interface Value)

/-- The steps of a run from the static instance on. -/
abbrev managerTrace {Core Interface Value : Type} [INetworkManagerCore Core]
    (actions : List (NetworkManagerAction Core Interface Value)) :
    ManagerTrace Core Interface Value :=
  (networkManagerSystem Core Interface Value).trace {} actions

section Readings

variable {Core Interface Value : Type}

/-- The function that the step pushes on `m_FunctionCalls`, and the caller that
pushes it. -/
def pushedCall? : NetworkManager Core Interface Value × NetworkManagerAction Core Interface Value →
    Option (Nat × QueuedFunction Core Value)
  | (manager, .caller caller) =>
      match manager.callers caller with
      | .push func => some (caller, .funktion manager.promiseCount func manager.kills)
      | .pushServed served => some (caller, .connectionServed served manager.kills)
      | _ => none
  | _ => none

/-- What the step does to the core. -/
def coreEvent? : NetworkManager Core Interface Value × NetworkManagerAction Core Interface Value →
    Option (CoreEvent Core Value)
  | (manager, .network callbacks) =>
      match manager.thread with
      | .call _ item => some (.function item)
      | .pollConnectionChanges => some (.runCallbacks callbacks)
      | _ => none
  | _ => none

/-- The function with which the client enters `executeFunktion` in the step. -/
def called? (client : Nat) :
    NetworkManager Core Interface Value × NetworkManagerAction Core Interface Value →
    Option (Core → Except Fault (Value × Core))
  | (manager, .call caller func) =>
      if caller = client ∧ manager.initialized = true then some func else none
  | _ => none

/-- The function that the client pushes in the step, with its promise. -/
def pushedBy? (client : Nat)
    (step : NetworkManager Core Interface Value × NetworkManagerAction Core Interface Value) :
    Option (Nat × (Core → Except Fault (Value × Core))) :=
  (pushedCall? step).bind fun (caller, item) =>
    if caller = client then item.funktion? else none

/-- The value that the client's call returns in the step, with its promise. -/
def returnedCall? (client : Nat) :
    NetworkManager Core Interface Value × NetworkManagerAction Core Interface Value →
    Option (Nat × Value)
  | (manager, .caller caller) =>
      if caller = client then
        match manager.callers caller with
        | .get promise => (manager.promises promise).map fun value => (promise, value)
        | _ => none
      else none
  | _ => none

end Readings

namespace Caller

variable {Core Value : Type}

/-- The function that the caller is about to push. -/
def toPush : Caller Core Value → List (Core → Except Fault (Value × Core))
  | push func => [func]
  | _ => []

/-- The promise that the caller has pushed and whose value it has not taken. -/
def awaited : Caller Core Value → List Nat
  | notify promise | get promise => [promise]
  | _ => []

end Caller

/-- `kill` is being carried out. -/
def ControlThread.isKill {Core Interface : Type} : ControlThread Core Interface → Bool
  | clearRunning | notifyAll | join | resetCore | resetInterface | clearInitialized
  | clearFunctionCalls => true
  | _ => false

namespace NetworkManager

variable {Core Interface Value : Type} {manager next : NetworkManager Core Interface Value}
  {action : NetworkManagerAction Core Interface Value}

/-- The functions that are pushed and have not run to their end, in the order in
which they were pushed. -/
def unfinished (manager : NetworkManager Core Interface Value) :
    List (QueuedFunction Core Value) :=
  manager.thread.held?.toList ++ manager.functionCalls

/-- What one step does to the functions and the callers. -/
structure CallFlow (manager next : NetworkManager Core Interface Value)
    (action : NetworkManagerAction Core Interface Value) : Prop where
  queue : ((coreEvent? (manager, action)).bind CoreEvent.function?).toList ++
      next.unfinished =
    manager.unfinished ++ ((pushedCall? (manager, action)).map Prod.snd).toList
  promises : List.range next.promiseCount = List.range manager.promiseCount ++
    ((pushedCall? (manager, action)).bind fun (_, item) => item.promise?).toList
  called : ∀ client, ((pushedBy? client (manager, action)).map Prod.snd).toList ++
      (next.callers client).toPush =
    (manager.callers client).toPush ++ (called? client (manager, action)).toList
  returned : ∀ client, ((returnedCall? client (manager, action)).map Prod.fst).toList ++
      (next.callers client).awaited =
    (manager.callers client).awaited ++
      ((pushedBy? client (manager, action)).map Prod.fst).toList

/-- A step that neither runs a function nor is one of a caller. -/
theorem CallFlow.quiet (callers : next.callers = manager.callers)
    (promises : next.promiseCount = manager.promiseCount)
    (queue : next.unfinished = manager.unfinished)
    (event : (coreEvent? (manager, action)).bind CoreEvent.function? = none)
    (pushed : pushedCall? (manager, action) = none)
    (called : ∀ client, called? client (manager, action) = none)
    (returned : ∀ client, returnedCall? client (manager, action) = none) :
    CallFlow manager next action where
  queue := by simp [event, queue, pushed]
  promises := by simp [promises, pushed]
  called client := by simp [pushedBy?, pushed, called, callers]
  returned client := by simp [pushedBy?, pushed, returned, callers]

theorem callFlow_of_runStep [INetworkManagerCore Core] {callbacks : Core → Except Fault Core}
    (runs : RunStep callbacks manager next) : CallFlow manager next (.network callbacks) := by
  cases runs with
  | @move before after place moves =>
      obtain ⟨-, -, held, heldAfter⟩ := moves.isRunning
      refine .quiet rfl rfl ?_ ?_ rfl (fun _ => rfl) fun _ => rfl
      · simp [unfinished, place, held, heldAfter, moveTo]
      · rw [coreEvent?, place]
        cases moves <;> rfl
  | tick place =>
      refine .quiet rfl rfl ?_ ?_ rfl (fun _ => rfl) fun _ => rfl
      · rcases place with ⟨place, -⟩ | ⟨place, -⟩ <;>
          simp [unfinished, beginTick, place, NetworkThread.held?]
      · rcases place with ⟨place, -⟩ | ⟨place, -⟩ <;> simp [coreEvent?, place]
  | pop place queue =>
      refine .quiet rfl rfl ?_ ?_ rfl (fun _ => rfl) fun _ => rfl
      · simp [unfinished, place, queue, NetworkThread.held?]
      · simp [coreEvent?, place]
  | call place installed runs =>
      refine ⟨?_, by simp [pushedCall?], fun client => ?_, fun client => ?_⟩
      · simp [unfinished, place, NetworkThread.held?, coreEvent?, CoreEvent.function?,
          pushedCall?]
      · simp [pushedBy?, pushedCall?, called?]
      · simp [pushedBy?, pushedCall?, returnedCall?]
  | callbacks place | usedMap place | clearBusy place =>
      refine .quiet rfl rfl ?_ ?_ rfl (fun _ => rfl) fun _ => rfl
      · simp [unfinished, place, moveTo, NetworkThread.held?]
      · simp [coreEvent?, place, CoreEvent.function?]

theorem callFlow_of_controlStep {callbackSet : Bool} (cycle : LifeCycle manager)
    (alive : manager.control.isKill = false)
    (steps : ControlStep manager callbackSet next) :
    CallFlow manager next (.control callbackSet) := by
  have absent := cycle.noThread
  cases steps with
  | clearRunning place | notifyAll place | join place | resetCore place
  | resetInterface place | clearInitialized place | clearFunctionCalls place =>
      rw [place] at alive
      cases alive
  | startThread place =>
      rw [place] at absent
      refine .quiet rfl rfl ?_ rfl rfl (fun _ => rfl) fun _ => rfl
      simp [unfinished, absent rfl, NetworkThread.held?]
  | _ => exact .quiet rfl rfl rfl rfl rfl (fun _ => rfl) fun _ => rfl

theorem pushedBy?_of_ne {caller client : Nat} (different : client ≠ caller) :
    pushedBy? client (manager, .caller caller) = none := by
  unfold pushedBy? pushedCall?
  dsimp only
  cases manager.callers caller <;> simp [different.symm]

/-- A statement of a caller leaves the other callers alone. -/
theorem CallFlow.ofCaller {caller : Nat} {place : Caller Core Value}
    (callers : next.callers = Function.update manager.callers caller place)
    (queue : next.unfinished =
      manager.unfinished ++ ((pushedCall? (manager, .caller caller)).map Prod.snd).toList)
    (promises : List.range next.promiseCount = List.range manager.promiseCount ++
      ((pushedCall? (manager, .caller caller)).bind fun (_, item) => item.promise?).toList)
    (called : ((pushedBy? caller (manager, .caller caller)).map Prod.snd).toList ++
      place.toPush = (manager.callers caller).toPush)
    (returned : ((returnedCall? caller (manager, .caller caller)).map Prod.fst).toList ++
        place.awaited =
      (manager.callers caller).awaited ++
        ((pushedBy? caller (manager, .caller caller)).map Prod.fst).toList) :
    CallFlow manager next (.caller caller) where
  queue := by simpa [coreEvent?] using queue
  promises := promises
  called client := by
    by_cases same : client = caller
    · subst client
      simpa [callers, called?] using called
    · simp [callers, same, called?, pushedBy?_of_ne same]
  returned client := by
    by_cases same : client = caller
    · subst client
      simpa [callers] using returned
    · simp [callers, same, returnedCall?, pushedBy?_of_ne same, Ne.symm same]

theorem callFlow_of_callerStep {caller : Nat} (steps : CallerStep manager caller next) :
    CallFlow manager next (.caller caller) := by
  cases steps with
  | push place =>
      refine .ofCaller rfl ?_ ?_ ?_ ?_
      · simp [unfinished, setCaller, pushedCall?, place, ThreadSaveQueue.push]
      · simp [pushedCall?, place, QueuedFunction.promise?, List.range_succ]
      · simp [pushedBy?, pushedCall?, place, QueuedFunction.funktion?, Caller.toPush]
      · simp [pushedBy?, pushedCall?, returnedCall?, place, QueuedFunction.funktion?,
          Caller.awaited]
  | notify place unlocked | notifyServed place unlocked =>
      refine .ofCaller rfl ?_ ?_ ?_ ?_
      · simp [unfinished, notified, setCaller, pushedCall?, place, held_wakeUp]
      · simp [pushedCall?, place, notified, setCaller]
      · simp [pushedBy?, pushedCall?, place, Caller.toPush]
      · simp [pushedBy?, pushedCall?, returnedCall?, place, Caller.awaited]
  | get place set =>
      refine .ofCaller rfl ?_ ?_ ?_ ?_
      · simp [unfinished, setCaller, pushedCall?, place]
      · simp [pushedCall?, place, setCaller]
      · simp [pushedBy?, pushedCall?, place, Caller.toPush]
      · simp [pushedBy?, pushedCall?, returnedCall?, place, set, Caller.awaited]
  | pushServed place =>
      refine .ofCaller rfl ?_ ?_ ?_ ?_
      · simp [unfinished, setCaller, pushedCall?, place, ThreadSaveQueue.push]
      · simp [pushedCall?, place, setCaller, QueuedFunction.promise?]
      · simp [pushedBy?, pushedCall?, place, QueuedFunction.funktion?, Caller.toPush]
      · simp [pushedBy?, pushedCall?, returnedCall?, place, QueuedFunction.funktion?,
          Caller.awaited]

/-- A thread at rest enters a member function. -/
theorem CallFlow.enter {caller : Nat} {place : Caller Core Value}
    (rests : (manager.callers caller).isAtRest = true) (event : coreEvent? (manager, action) = none)
    (pushed : pushedCall? (manager, action) = none)
    (returned : ∀ client, returnedCall? client (manager, action) = none)
    (awaits : place.awaited = [])
    (called : (called? caller (manager, action)).toList = place.toPush)
    (others : ∀ client, client ≠ caller → called? client (manager, action) = none) :
    CallFlow manager (manager.setCaller caller place) action := by
  have idle : (manager.callers caller).toPush = [] ∧ (manager.callers caller).awaited = [] := by
    cases before : manager.callers caller <;>
      simp_all [Caller.isAtRest, Caller.toPush, Caller.awaited]
  refine ⟨by simp [event, pushed, unfinished, setCaller], by simp [pushed, setCaller], ?_, ?_⟩
  · intro client
    by_cases same : client = caller
    · subst client
      simp [pushedBy?, pushed, setCaller, idle.1, called]
    · simp [pushedBy?, pushed, setCaller, same, others client same]
  · intro client
    by_cases same : client = caller
    · subst client
      simp [pushedBy?, pushed, returned, setCaller, idle.2, awaits]
    · simp [pushedBy?, pushed, returned, setCaller, same]

/-- While `kill` is not carried out, nothing is lost on the way from the callers
through the queue to the core. -/
theorem callFlow_of_step [INetworkManagerCore Core] (cycle : LifeCycle manager)
    (alive : manager.control.isKill = false)
    (steps : (networkManagerSystem Core Interface Value).step manager action = some next) :
    CallFlow manager next action := by
  cases managerStep_of_step steps with
  | network runs => exact callFlow_of_runStep runs
  | wake parked =>
      refine .quiet rfl rfl ?_ rfl rfl (fun _ => rfl) fun _ => rfl
      simp [unfinished, moveTo, parked, NetworkThread.held?]
  | initRefused | init | kill => exact .quiet rfl rfl rfl rfl rfl (fun _ => rfl) fun _ => rfl
  | control steps => exact callFlow_of_controlStep cycle alive steps
  | call rests initialized =>
      refine .enter rests rfl rfl (fun _ => rfl) rfl ?_ fun client different => ?_
      · simp [called?, initialized, Caller.toPush]
      · simp [called?, different.symm]
  | callRefused rests uninitialized =>
      refine .enter rests rfl rfl (fun _ => rfl) rfl ?_ fun client different => ?_
      · simp [called?, uninitialized, Caller.toPush]
      · simp [called?, uninitialized]
  | connectionServed rests | servedRefused rests =>
      exact .enter rests rfl rfl (fun _ => rfl) rfl rfl fun _ _ => rfl
  | caller steps => exact callFlow_of_callerStep steps

end NetworkManager

section Account

variable {Core Interface Value : Type}

def coreEvents (trace : ManagerTrace Core Interface Value) : List (CoreEvent Core Value) :=
  trace.filterMap coreEvent?

def pushedCalls (trace : ManagerTrace Core Interface Value) :
    List (Nat × QueuedFunction Core Value) :=
  trace.filterMap pushedCall?

/-- The functions that the network thread has run, in order. -/
def executed (trace : ManagerTrace Core Interface Value) : List (QueuedFunction Core Value) :=
  (coreEvents trace).filterMap CoreEvent.function?

/-- The core is what the events make of one that `init` was called with, and every
value that a promise has or a client was given is a response of this execution. -/
def Executed (actions : List (NetworkManagerAction Core Interface Value))
    (trace : ManagerTrace Core Interface Value)
    (manager : NetworkManager Core Interface Value) : Option Core → Prop
  | none => coreEvents trace = [] ∧ (∀ promise, manager.promises promise = none) ∧
      ∀ client, trace.filterMap (returnedCall? client) = []
  | some core => ∃ installed pInterface results,
      .init installed pInterface ∈ actions ∧
      replay CoreEvent.perform installed (coreEvents trace) = .ok (results, core) ∧
      (∀ promise value, manager.promises promise = some value → (promise, value) ∈ results) ∧
      ∀ client, ∀ response ∈ trace.filterMap (returnedCall? client), response ∈ results

/-- What a run without `kill` has done to the functions, the promises and the
core. -/
structure CallAccount (actions : List (NetworkManagerAction Core Interface Value))
    (trace : ManagerTrace Core Interface Value)
    (manager : NetworkManager Core Interface Value) : Prop where
  alive : manager.control.isKill = false
  queue : executed trace ++ manager.unfinished = (pushedCalls trace).map Prod.snd
  promises : List.range manager.promiseCount =
    (pushedCalls trace).filterMap fun (_, item) => item.promise?
  called : ∀ client, (trace.filterMap (pushedBy? client)).map Prod.snd ++
    (manager.callers client).toPush = trace.filterMap (called? client)
  returned : ∀ client, (trace.filterMap (returnedCall? client)).map Prod.fst ++
    (manager.callers client).awaited = (trace.filterMap (pushedBy? client)).map Prod.fst
  installing : ∀ core, (manager.control = .setCore core ∨
      ∃ pInterface, manager.control = .setInterface core pInterface) →
    ∃ pInterface, .init core pInterface ∈ actions
  unstarted : manager.thread = .none → coreEvents trace = []
  ready : manager.initialized = true → manager.core.isSome = true
  executes : Executed actions trace manager manager.core

variable {actions : List (NetworkManagerAction Core Interface Value)}
  {trace : ManagerTrace Core Interface Value}
  {manager next : NetworkManager Core Interface Value}
  {action : NetworkManagerAction Core Interface Value}

theorem coreEvents_concat : coreEvents (trace ++ [(manager, action)]) =
    coreEvents trace ++ (coreEvent? (manager, action)).toList :=
  filterMap_concat

theorem executed_concat : executed (trace ++ [(manager, action)]) =
    executed trace ++ ((coreEvent? (manager, action)).bind CoreEvent.function?).toList := by
  rw [executed, executed, coreEvents_concat, List.filterMap_append]
  cases coreEvent? (manager, action) with
  | none => rfl
  | some event => cases event <;> rfl

theorem map_toList {Item Other : Type} {function : Item → Other} {value : Option Item} :
    value.toList.map function = (value.map function).toList := by
  cases value <;> rfl

/-- A popped function runs on the core as it would run alone. -/
theorem perform_of_run {item : QueuedFunction Core Value} {core changed : Core}
    {value : Option Value} (runs : item.run core = .ok (value, changed)) :
    (CoreEvent.function item).perform core =
      .ok (item.promise?.bind fun promise => value.map fun value => (promise, value),
        changed) := by
  cases item with
  | funktion promise func kills =>
      obtain ⟨⟨result, last⟩, performs, pair⟩ := map_eq_ok_iff.mp runs
      cases pair
      simp [CoreEvent.perform, performs, Except.map, QueuedFunction.promise?]
  | connectionServed served kills =>
      obtain ⟨last, performs, pair⟩ := map_eq_ok_iff.mp runs
      cases pair
      simp [CoreEvent.perform, performs, Except.map, QueuedFunction.promise?]

theorem perform_of_callbacks {callbacks : Core → Except Fault Core} {core changed : Core}
    (runs : callbacks core = .ok changed) :
    (CoreEvent.runCallbacks callbacks : CoreEvent Core Value).perform core =
      .ok (none, changed) := by
  rw [CoreEvent.perform, runs]
  rfl

/-- Where a promise has its value from when a function has run. -/
theorem promises_of_call {item : QueuedFunction Core Value} {result : Option Value}
    {promises : Nat → Option Value} {promise : Nat} {value : Value}
    (set : (match item.promise? with
      | some promise => Function.update promises promise result
      | none => promises) promise = some value) :
    promises promise = some value ∨
      (item.promise?.bind fun promise => result.map fun value => (promise, value)) =
        some (promise, value) := by
  cases promised : item.promise? with
  | none =>
      rw [promised] at set
      exact Or.inl set
  | some own =>
      rw [promised] at set
      by_cases same : promise = own
      · subst promise
        dsimp only at set
        rw [Function.update_self] at set
        exact Or.inr (by simp [set])
      · dsimp only at set
        rw [Function.update_of_ne same] at set
        exact Or.inl set

/-- A client takes the value that its promise has. -/
theorem promise_of_returned {client : Nat} {response : Nat × Value}
    (returned : returnedCall? client (manager, action) = some response) :
    manager.promises response.1 = some response.2 := by
  cases action with
  | caller caller =>
      unfold returnedCall? at returned
      dsimp only at returned
      split at returned
      · split at returned
        · obtain ⟨value, set, rfl⟩ := Option.map_eq_some_iff.mp returned
          exact set
        · cases returned
      · cases returned
  | _ => cases returned

namespace Executed

/-- A step that leaves the core and the promises alone. -/
theorem keep (executes : Executed actions trace manager manager.core)
    (event : coreEvent? (manager, action) = none) (core : next.core = manager.core)
    (promises : next.promises = manager.promises)
    (returned : ∀ client response, returnedCall? client (manager, action) = some response →
      manager.promises response.1 = some response.2) :
    Executed (actions ++ [action]) (trace ++ [(manager, action)]) next next.core := by
  have sameEvents : coreEvents (trace ++ [(manager, action)]) = coreEvents trace := by
    simp [coreEvents_concat, event]
  rw [core]
  cases held : manager.core with
  | none =>
      rw [held] at executes
      obtain ⟨none, unset, nothing⟩ := executes
      refine ⟨sameEvents.trans none, fun promise => promises ▸ unset promise, fun client => ?_⟩
      rw [filterMap_concat, nothing client, List.nil_append]
      cases returns : returnedCall? client (manager, action) with
      | none => rfl
      | some response =>
          have set := returned client response returns
          rw [unset] at set
          cases set
  | some current =>
      rw [held] at executes
      obtain ⟨installed, pInterface, results, given, replays, set, responded⟩ := executes
      refine ⟨installed, pInterface, results, List.mem_append_left _ given,
        sameEvents ▸ replays, fun promise value => promises ▸ set promise value, ?_⟩
      intro client response member
      rw [filterMap_concat] at member
      rcases List.mem_append.mp member with before | last
      · exact responded client response before
      · exact set response.1 response.2 (returned client response (by simpa using last))

/-- A step in which the network thread does something to the core. -/
theorem event {event : CoreEvent Core Value} {core changed : Core}
    {response : Option (Nat × Value)}
    (executes : Executed actions trace manager manager.core)
    (installed : manager.core = some core) (happens : coreEvent? (manager, action) = some event)
    (performs : event.perform core = .ok (response, changed))
    (promises : ∀ promise value, next.promises promise = some value →
      manager.promises promise = some value ∨ response = some (promise, value))
    (returned : ∀ client, returnedCall? client (manager, action) = none) :
    Executed (actions ++ [action]) (trace ++ [(manager, action)]) next (some changed) := by
  rw [installed] at executes
  obtain ⟨first, pInterface, results, given, replays, set, responded⟩ := executes
  refine ⟨first, pInterface, results ++ response.toList, List.mem_append_left _ given, ?_,
    ?_, ?_⟩
  · rw [coreEvents_concat, happens]
    exact replay_concat replays performs
  · intro promise value isSet
    rcases promises promise value isSet with before | rfl
    · exact List.mem_append_left _ (set promise value before)
    · exact List.mem_append_right _ (by simp)
  · intro client other member
    rw [filterMap_concat, returned client, Option.toList_none, List.append_nil] at member
    exact List.mem_append_left _ (responded client other member)

/-- `init` sets a core before anything has happened to one. -/
theorem install {core : Core} {pInterface : Interface} {held : Option Core}
    (executes : Executed actions trace manager held) (idle : coreEvents trace = [])
    (event : coreEvent? (manager, action) = none)
    (returned : ∀ client, returnedCall? client (manager, action) = none)
    (given : .init core pInterface ∈ actions) (promises : next.promises = manager.promises) :
    Executed (actions ++ [action]) (trace ++ [(manager, action)]) next (some core) := by
  have unset : (∀ promise, manager.promises promise = none) ∧
      ∀ client, trace.filterMap (returnedCall? client) = [] := by
    cases held with
    | none => exact executes.2
    | some before =>
        obtain ⟨installed, _, results, _, replays, set, responded⟩ := executes
        rw [idle, replay_nil] at replays
        obtain ⟨rfl, _⟩ := Prod.mk.inj (Except.ok.inj replays)
        constructor
        · intro promise
          cases isSet : manager.promises promise with
          | none => rfl
          | some value => cases set promise value isSet
        · intro client
          exact List.eq_nil_iff_forall_not_mem.mpr fun response member =>
            nomatch responded client response member
  refine ⟨core, pInterface, [], List.mem_append_left _ given, ?_, ?_, ?_⟩
  · rw [coreEvents_concat, idle, event]
    rfl
  · intro promise value isSet
    rw [promises, unset.1] at isSet
    cases isSet
  · intro client response member
    rw [filterMap_concat, unset.2, returned client] at member
    cases member

end Executed

theorem executed_step [INetworkManagerCore Core] (cycle : LifeCycle manager)
    (account : CallAccount actions trace manager)
    (steps : (networkManagerSystem Core Interface Value).step manager action = some next) :
    Executed (actions ++ [action]) (trace ++ [(manager, action)]) next next.core := by
  have executes := account.executes
  cases managerStep_of_step steps with
  | network runs =>
      cases runs with
      | call place installed runs =>
          refine executes.event installed (by simp [coreEvent?, place]) (perform_of_run runs)
            ?_ fun _ => rfl
          exact fun promise value set => promises_of_call set
      | callbacks place installed runs =>
          exact executes.event installed (by simp [coreEvent?, place])
            (perform_of_callbacks runs) (fun _ _ set => Or.inl set) fun _ => rfl
      | move place moves =>
          refine executes.keep ?_ rfl rfl nofun
          rw [coreEvent?, place]
          cases moves <;> rfl
      | tick place =>
          refine executes.keep ?_ rfl rfl nofun
          rcases place with ⟨place, -⟩ | ⟨place, -⟩ <;> simp [coreEvent?, place]
      | pop place | usedMap place | clearBusy place =>
          exact executes.keep (by simp [coreEvent?, place]) rfl rfl nofun
  | control steps =>
      cases steps with
      | setCore place =>
          have absent := cycle.noThread (by rw [place]; rfl)
          obtain ⟨pInterface, given⟩ := account.installing _ (Or.inl place)
          exact executes.install (account.unstarted absent) rfl (fun _ => rfl) given rfl
      | clearRunning place | notifyAll place | join place | resetCore place
      | resetInterface place | clearInitialized place | clearFunctionCalls place =>
          have alive := account.alive
          rw [place] at alive
          cases alive
      | _ => exact executes.keep rfl rfl rfl nofun
  | caller steps =>
      have kept : next.core = manager.core ∧ next.promises = manager.promises := by
        cases steps <;> exact ⟨rfl, rfl⟩
      exact executes.keep rfl kept.1 kept.2 fun client response => promise_of_returned
  | _ => exact executes.keep rfl rfl rfl nofun

theorem CallAccount.initial : CallAccount [] [] ({} : NetworkManager Core Interface Value) where
  alive := rfl
  queue := rfl
  promises := rfl
  called _ := rfl
  returned _ := rfl
  installing _ places := by simp at places
  unstarted _ := rfl
  ready := nofun
  executes := ⟨rfl, fun _ => rfl, fun _ => rfl⟩

/-- The thread that carries out `init` does not carry out `kill` instead. -/
theorem isKill_step [INetworkManagerCore Core] (alive : manager.control.isKill = false)
    (notKilled : NotKilled manager action)
    (steps : (networkManagerSystem Core Interface Value).step manager action = some next) :
    next.control.isKill = false := by
  cases managerStep_of_step steps with
  | network runs => rwa [runs.frame.control]
  | kill => exact notKilled.elim
  | control steps => cases steps <;> simp_all [ControlThread.isKill]
  | caller steps => cases steps <;> exact alive
  | wake | call | connectionServed | callRefused | servedRefused => exact alive
  | initRefused | init => rfl

theorem installing_step [INetworkManagerCore Core]
    (installing : ∀ core, (manager.control = .setCore core ∨
        ∃ pInterface, manager.control = .setInterface core pInterface) →
      ∃ pInterface, .init core pInterface ∈ actions)
    (steps : (networkManagerSystem Core Interface Value).step manager action = some next) :
    ∀ core, (next.control = .setCore core ∨
        ∃ pInterface, next.control = .setInterface core pInterface) →
      ∃ pInterface, .init core pInterface ∈ actions ++ [action] := by
  intro core places
  have kept (same : next.control = manager.control) :
      ∃ pInterface, .init core pInterface ∈ actions ++ [action] := by
    rw [same] at places
    obtain ⟨pInterface, given⟩ := installing core places
    exact ⟨pInterface, List.mem_append_left _ given⟩
  cases managerStep_of_step steps with
  | network runs => exact kept runs.frame.control
  | @init other pInterface _ place fresh =>
      obtain rfl : other = core := by simpa using places
      exact ⟨pInterface, by simp⟩
  | control steps =>
      cases steps with
      | setInterface place =>
          obtain rfl : _ = core := by simpa using places
          obtain ⟨pInterface, given⟩ := installing _ (Or.inr ⟨_, place⟩)
          exact ⟨pInterface, List.mem_append_left _ given⟩
      | _ => simp at places
  | caller steps => exact kept (by cases steps <;> rfl)
  | wake | call | connectionServed | callRefused | servedRefused => exact kept rfl
  | initRefused | kill => simp at places

/-- As long as there is no network thread nothing happens to the core. -/
theorem unstarted_step [INetworkManagerCore Core] (alive : manager.control.isKill = false)
    (steps : (networkManagerSystem Core Interface Value).step manager action = some next)
    (absent : next.thread = .none) :
    manager.thread = .none ∧ coreEvent? (manager, action) = none := by
  cases managerStep_of_step steps with
  | network runs => exact (runs.frame.present absent).elim
  | wake => cases absent
  | control steps =>
      cases steps with
      | startThread => cases absent
      | notifyAll place | join place =>
          rw [place] at alive
          cases alive
      | _ => exact ⟨absent, rfl⟩
  | caller steps =>
      cases steps with
      | notify | notifyServed => exact ⟨wakeUp_eq_none_iff.mp absent, rfl⟩
      | push | get | pushServed => exact ⟨absent, rfl⟩
  | _ => exact ⟨absent, rfl⟩

theorem ready_step [INetworkManagerCore Core] (cycle : LifeCycle manager)
    (alive : manager.control.isKill = false)
    (ready : manager.initialized = true → manager.core.isSome = true)
    (steps : (networkManagerSystem Core Interface Value).step manager action = some next) :
    next.initialized = true → next.core.isSome = true := by
  intro initialized
  cases managerStep_of_step steps with
  | network runs => exact runs.frame.core (ready (runs.frame.initialized ▸ initialized))
  | control steps =>
      cases steps with
      | setCore => rfl
      | setInitialized place => exact cycle.hasCore (by rw [place]; rfl)
      | resetCore place | resetInterface place | clearInitialized place =>
          rw [place] at alive
          cases alive
      | _ => exact ready initialized
  | caller steps => cases steps <;> exact ready initialized
  | _ => exact ready initialized

theorem CallAccount.step [INetworkManagerCore Core] (cycle : LifeCycle manager)
    (account : CallAccount actions trace manager) (notKilled : NotKilled manager action)
    (steps : (networkManagerSystem Core Interface Value).step manager action = some next) :
    CallAccount (actions ++ [action]) (trace ++ [(manager, action)]) next := by
  have flow := callFlow_of_step cycle account.alive steps
  refine ⟨isKill_step account.alive notKilled steps, ?_, ?_, fun client => ?_,
    fun client => ?_, installing_step account.installing steps, fun absent => ?_,
    ready_step cycle account.alive account.ready steps, executed_step cycle account steps⟩
  · rw [executed_concat, pushedCalls, filterMap_concat, List.map_append, map_toList]
    exact account_concat account.queue flow.queue
  · rw [pushedCalls, filterMap_concat, List.filterMap_append, flow.promises, account.promises,
      pushedCalls]
    cases pushedCall? (manager, action) with
    | none => rfl
    | some pushed => cases promised : pushed.2.promise? <;> simp [promised]
  · rw [filterMap_concat, filterMap_concat, List.map_append, map_toList]
    exact account_concat (account.called client) (flow.called client)
  · rw [filterMap_concat, filterMap_concat, List.map_append, List.map_append, map_toList,
      map_toList]
    exact account_concat (account.returned client) (flow.returned client)
  · obtain ⟨absentBefore, event⟩ := unstarted_step account.alive steps absent
    rw [coreEvents_concat, account.unstarted absentBefore, event]
    rfl

/-- In every run without `kill` the account is kept. -/
theorem callAccount_of_steps [INetworkManagerCore Core]
    (steps : (networkManagerSystem Core Interface Value).StepsWhere NotKilled {} actions
      manager) :
    CallAccount actions (managerTrace actions) manager := by
  refine steps.invariant (fun actions manager =>
    CallAccount actions (managerTrace actions) manager) .initial ?_
  intro before middle action last run account notKilled moves
  have cycle := lifeCycle_of_reachable ⟨_, before, rfl, run.mono fun _ _ _ => trivial⟩
  rw [managerTrace, run.trace_concat]
  exact account.step cycle notKilled moves

theorem response_of_perform {event : CoreEvent Core Value} {core next : Core}
    {response : Option (Nat × Value)} (performs : event.perform core = .ok (response, next)) :
    response.map Prod.fst = event.function?.bind QueuedFunction.promise? := by
  unfold CoreEvent.perform at performs
  split at performs
  · obtain ⟨_, _, pair⟩ := map_eq_ok_iff.mp performs
    cases pair
    rfl
  · obtain ⟨_, _, pair⟩ := map_eq_ok_iff.mp performs
    cases pair
    rfl
  · obtain ⟨_, _, pair⟩ := map_eq_ok_iff.mp performs
    cases pair
    rfl

/-- A sequential execution responds once to each client's function, in order. -/
theorem responses_of_replay {events : List (CoreEvent Core Value)} {core last : Core}
    {results : List (Nat × Value)}
    (replays : replay CoreEvent.perform core events = .ok (results, last)) :
    results.map Prod.fst =
      (events.filterMap CoreEvent.function?).filterMap QueuedFunction.promise? := by
  induction events generalizing core results with
  | nil =>
      obtain ⟨rfl, _⟩ := Prod.mk.inj (Except.ok.inj replays)
      rfl
  | cons event events ih =>
      obtain ⟨response, next, others, performs, continues, rfl⟩ :=
        replay_cons_eq_ok_iff.mp replays
      have own := response_of_perform performs
      rw [List.map_append, map_toList, ih continues, own]
      cases function : event.function? with
      | none => simp [function]
      | some item => cases promised : item.promise? <;> simp [function, promised]

end Account

/-- In every run without `kill`, of any number of callers, the functions that the
network thread has run, the one it holds and those in the queue are the pushed ones, in
the order of their pushes, and each client's has a promise of its own.  What this makes
of the core that `init` was given, one function or callback after the other, is the
core; its responses are one for each client's function that has run, and every value
that a client was given or can take is the response under its promise.  A client's calls
are pushed in their order, and its call returns with the promise that it has pushed. -/
theorem calls_are_serialized (Core Interface Value : Type) [INetworkManagerCore Core]
    (actions : List (NetworkManagerAction Core Interface Value))
    (manager : NetworkManager Core Interface Value)
    (steps : (networkManagerSystem Core Interface Value).StepsWhere NotKilled {} actions
      manager) :
    executed (managerTrace actions) ++ (manager.thread.held?.toList ++ manager.functionCalls) =
        (pushedCalls (managerTrace actions)).map Prod.snd ∧
      ((pushedCalls (managerTrace actions)).filterMap fun (_, item) => item.promise?) =
        List.range manager.promiseCount ∧
      (manager.initialized = true → ∃ core installed pInterface results,
        manager.core = some core ∧ .init installed pInterface ∈ actions ∧
        replay CoreEvent.perform installed (coreEvents (managerTrace actions)) =
          .ok (results, core) ∧
        results.map Prod.fst =
          (executed (managerTrace actions)).filterMap QueuedFunction.promise? ∧
        (∀ client, ∀ response ∈ (managerTrace actions).filterMap (returnedCall? client),
          response ∈ results) ∧
        ∀ client promise value, manager.callers client = .get promise →
          manager.promises promise = some value → (promise, value) ∈ results) ∧
      (∀ client, ((managerTrace actions).filterMap (pushedBy? client)).map Prod.snd ++
        (manager.callers client).toPush = (managerTrace actions).filterMap (called? client)) ∧
      ∀ client, ((managerTrace actions).filterMap (returnedCall? client)).map Prod.fst ++
        (manager.callers client).awaited =
          ((managerTrace actions).filterMap (pushedBy? client)).map Prod.fst := by
  have account := callAccount_of_steps steps
  refine ⟨account.queue, account.promises.symm, ?_, account.called, account.returned⟩
  intro initialized
  obtain ⟨core, held⟩ := Option.isSome_iff_exists.mp (account.ready initialized)
  have executes := account.executes
  rw [held] at executes
  obtain ⟨installed, pInterface, results, given, replays, set, responded⟩ := executes
  exact ⟨core, installed, pInterface, results, held, given, replays,
    responses_of_replay replays, responded, fun _ promise value _ => set promise value⟩

/-- Client 0 creates a listener and client 1 asks to stop one that does not exist.
Client 1 pushes first, and client 0 takes its value first. -/
def twoClients :
    List (NetworkManagerAction (NetworkManagerCore ListenerQueues) Unit Outcome) :=
  initManager ++
    [.call 0 fun core => (CoreOperation.createListener none).perform core,
      .call 1 fun core => (CoreOperation.stopListening 7).perform core,
      .caller 1, .caller 0, .caller 0, .caller 1] ++
    List.replicate 5 (.network .ok) ++ [.caller 0, .caller 1]

theorem calls_are_serialized_twoClients :
    ∃ manager, ∃ results : List (Nat × Outcome),
      (networkManagerSystem (NetworkManagerCore ListenerQueues) Unit Outcome).StepsWhere
        NotKilled {} twoClients manager ∧
      results.map Prod.fst = [0, 1] ∧ (1, Outcome.handle 1) ∈ results := by
  have steps : (networkManagerSystem (NetworkManagerCore ListenerQueues) Unit
      Outcome).StepsWhere NotKilled {} twoClients _ :=
    TransitionSystem.runWhere_eq_some_iff.mp rfl
  obtain ⟨_, _, sequential, _⟩ := calls_are_serialized _ _ _ twoClients _ steps
  obtain ⟨core, installed, _, results, _, _, _, responses, given, _⟩ := sequential rfl
  have taken : (1, Outcome.handle 1) ∈ [(1, Outcome.handle 1)] := List.mem_singleton.mpr rfl
  exact ⟨_, results, steps, responses, given 0 _ taken⟩

end HttpServer
