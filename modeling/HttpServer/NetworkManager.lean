import HttpServer.ManagerRuns
import Mathlib.Logic.Function.Basic

/-!
# The network manager

`NetworkManager` owns the core and the network thread that runs it.  Clients
hand their functions to the thread through `m_FunctionCalls` and wait for a
promise; the listeners' threads do the same for `ConnectionServed` and do not
wait.  One thread calls `init` and `kill`.  Each statement that touches what
the threads share is a step of its own, in any order of the threads.

The critical sections of `notifyFunktionCall` and `kill` make no other
statement, so each is one step, possible while the network thread does not own
`m_ManagerMutex`.
-/

namespace HttpServer

/-- What the network thread asks its core, besides the functions and the
callbacks that it runs on it. -/
class INetworkManagerCore (Core : Type) where
  isSocketClientsMapEmpty : Core → Bool

instance {Listener : Type} : INetworkManagerCore (NetworkManagerCore Listener) where
  isSocketClientsMapEmpty := NetworkManagerCore.isSocketClientsMapEmpty

/-- A function on `m_FunctionCalls`: the one of `executeFunktion` sets a promise,
the one of `ConnectionServed` does not.  One that fails an assert, or that never
returns, like a `DestroyListener` whose join waits for ever, has a fault.  `kills` is
how many calls of `kill` had come to their end when it was pushed. -/
inductive QueuedFunction (Core Value : Type) where
  | funktion (promise : Nat) (func : Core → Except Fault (Value × Core)) (kills : Nat)
  | connectionServed (served : Core → Except Fault Core) (kills : Nat)

/-- Where the network thread is in `run`, or in the `tick` called from there.
`none` is a thread object that is not joinable. -/
inductive NetworkThread (Core Value : Type) where
  | none
  | lock
  | outerTest
  | waitTest
  | parked
  | notified
  | breakTest
  | busyTest
  | runningTest
  | pollFunctionCalls (counter : Nat)
  | call (counter : Nat) (item : QueuedFunction Core Value)
  | pollConnectionChanges
  | mapTest
  | queueTest
  | clearBusy
  | exited

/-- Where the thread that calls `init` and `kill` is in them; `returned` is the
result of its last call. -/
inductive ControlThread (Core Interface : Type) where
  | returned (result : Result Unit)
  | setInterface (core : Core) (pInterface : Interface)
  | setCore (core : Core)
  | setGlobalCallback
  | setRunning
  | setInitialized
  | startThread
  | clearRunning
  | notifyAll
  | join
  | resetCore
  | resetInterface
  | clearInitialized
  | clearFunctionCalls

/-- Where a thread is in a call on the manager, or how its last call ended. -/
inductive Caller (Core Value : Type) where
  | idle
  | refused (err : ErrorValue)
  | push (func : Core → Except Fault (Value × Core))
  | notify (promise : Nat)
  | get (promise : Nat)
  | returned (value : Value)
  | notifyServed (served : Core → Except Fault Core)
  | pushServed (served : Core → Except Fault Core)
  | served

/-- `serving` are the callers that are in `ConnectionServed`.  `ticks` counts the
ticks begun, `kills` the calls of `kill` that have come to their end, and
`installed` is their number when `m_Core` was last set.
`delays` counts two events that keep `m_Busy` set: the thread has drained the
queue and finds a socket in the map, or a caller sets a reset `m_Busy` again. -/
structure NetworkManager (Core Interface Value : Type) where
  core : Option Core := none
  pInterface : Option Interface := none
  initialized : Bool := false
  running : Bool := false
  busy : Bool := true
  functionCalls : ThreadSaveQueue (QueuedFunction Core Value) := []
  thread : NetworkThread Core Value := .none
  control : ControlThread Core Interface := .returned (.ok ())
  callers : Nat → Caller Core Value := fun _ => .idle
  serving : List Nat := []
  promises : Nat → Option Value := fun _ => none
  promiseCount : Nat := 0
  ticks : Nat := 0
  kills : Nat := 0
  installed : Nat := 0
  delays : Nat := 0

namespace QueuedFunction

variable {Core Value : Type}

def kills : QueuedFunction Core Value → Nat
  | funktion _ _ kills | connectionServed _ kills => kills

def promise? : QueuedFunction Core Value → Option Nat
  | funktion promise _ _ => some promise
  | connectionServed _ _ => none

/-- The function runs on the core, and may have a value for its promise. -/
def run (core : Core) : QueuedFunction Core Value → Except Fault (Option Value × Core)
  | funktion _ func _ => (func core).map fun (value, next) => (some value, next)
  | connectionServed served _ => (served core).map fun next => (none, next)

end QueuedFunction

namespace NetworkThread

variable {Core Value : Type}

/-- The places at which the thread owns `m_ManagerMutex`. -/
def isLocked : NetworkThread Core Value → Bool
  | outerTest | waitTest | breakTest => true
  | _ => false

/-- The thread is in `run`. -/
def isRunning : NetworkThread Core Value → Bool
  | none | exited => false
  | _ => true

def isParked : NetworkThread Core Value → Bool
  | parked => true
  | _ => false

/-- What a notification of `m_callbackCV` does to the thread. -/
def wakeUp : NetworkThread Core Value → NetworkThread Core Value
  | parked => notified
  | place => place

/-- The function that the thread has popped and not run to its end. -/
def held? : NetworkThread Core Value → Option (QueuedFunction Core Value)
  | call _ item => some item
  | _ => Option.none

end NetworkThread

namespace ControlThread

variable {Core Interface : Type}

/-- `init` can no longer fail, and has not started the thread yet. -/
def isStarting : ControlThread Core Interface → Bool
  | setRunning | setInitialized | startThread => true
  | _ => false

/-- The places of `init` behind the assignment of `m_Core`. -/
def hasCore : ControlThread Core Interface → Bool
  | setGlobalCallback | setRunning | setInitialized | startThread => true
  | _ => false

/-- The places of `init`, and those of `kill` behind the join. -/
def hasNoThread : ControlThread Core Interface → Bool
  | setInterface _ _ | setCore _ | setGlobalCallback | setRunning | setInitialized
  | startThread | resetCore | resetInterface | clearInitialized | clearFunctionCalls => true
  | _ => false

/-- The places of `init`. -/
def isInit : ControlThread Core Interface → Bool
  | setInterface _ _ | setCore _ | setGlobalCallback | setRunning | setInitialized
  | startThread => true
  | _ => false

end ControlThread

namespace Caller

variable {Core Value : Type}

/-- The thread is in no call on the manager. -/
def isAtRest : Caller Core Value → Bool
  | idle | refused _ | returned _ | served => true
  | _ => false

/-- The next statement pushes a function. -/
def isPushing : Caller Core Value → Bool
  | push _ | pushServed _ => true
  | _ => false

/-- The thread of a listener is in `ConnectionServed`. -/
def isServing : Caller Core Value → Bool
  | notifyServed _ | pushServed _ => true
  | _ => false

end Caller

def maxFunctionsPerSession : Nat := 20

namespace NetworkManager

variable {Core Interface Value : Type}

def moveTo (manager : NetworkManager Core Interface Value)
    (place : NetworkThread Core Value) : NetworkManager Core Interface Value :=
  { manager with thread := place }

def beginTick (manager : NetworkManager Core Interface Value) :
    NetworkManager Core Interface Value :=
  { manager with thread := .pollFunctionCalls 0, ticks := manager.ticks + 1 }

/-- The popped function runs, and its promise gets the value. -/
def callItem (manager : NetworkManager Core Interface Value) (counter : Nat)
    (item : QueuedFunction Core Value) : Option (NetworkManager Core Interface Value) :=
  manager.core.bind fun core =>
    match item.run core with
    | .error _ => none
    | .ok (value, next) =>
        some { manager with
          core := some next
          promises := match item.promise? with
            | some promise => Function.update manager.promises promise value
            | none => manager.promises
          thread := .pollFunctionCalls (counter + 1) }

/-- The next statement of `run` or `tick`, if the thread can make it.
`callbacks` is what `RunCallbacks` does to the core. -/
def run [INetworkManagerCore Core] (manager : NetworkManager Core Interface Value)
    (callbacks : Core → Except Fault Core) :
    Option (NetworkManager Core Interface Value) :=
  match manager.thread with
  | .none | .parked | .exited => none
  | .lock => some (manager.moveTo .outerTest)
  | .outerTest => some (manager.moveTo (if manager.running then .waitTest else .exited))
  | .waitTest =>
      some (manager.moveTo
        (if manager.busy ∨ manager.running = false then .breakTest else .parked))
  | .notified => some (manager.moveTo .waitTest)
  | .breakTest => some (manager.moveTo (if manager.running then .busyTest else .exited))
  | .busyTest =>
      if manager.busy then some manager.beginTick else some (manager.moveTo .runningTest)
  | .runningTest =>
      if manager.running then some manager.beginTick else some (manager.moveTo .lock)
  | .pollFunctionCalls counter =>
      match manager.functionCalls with
      | [] => some (manager.moveTo .pollConnectionChanges)
      | item :: rest =>
          if counter < maxFunctionsPerSession then
            some { manager with functionCalls := rest, thread := .call counter item }
          else some (manager.moveTo .pollConnectionChanges)
  | .call counter item => manager.callItem counter item
  | .pollConnectionChanges =>
      manager.core.bind fun core =>
        match callbacks core with
        | .error _ => none
        | .ok next => some { manager with core := some next, thread := .mapTest }
  | .mapTest =>
      manager.core.map fun core =>
        if INetworkManagerCore.isSocketClientsMapEmpty core then manager.moveTo .queueTest
        else { manager.moveTo .busyTest with
          delays := if manager.functionCalls = [] ∧ manager.busy then manager.delays + 1
            else manager.delays }
  | .queueTest =>
      some (manager.moveTo (if manager.functionCalls = [] then .clearBusy else .busyTest))
  | .clearBusy => some { manager with busy := false, thread := .busyTest }

def init (manager : NetworkManager Core Interface Value) (core : Core)
    (pInterface : Interface) : Option (NetworkManager Core Interface Value) :=
  match manager.control with
  | .returned _ =>
      some { manager with
        control :=
          if manager.initialized then
            .returned (.error (makeError .eInvalidCall
              "NetworkManager Already initialized need to call Kill first"))
          else .setInterface core pInterface }
  | _ => none

def kill (manager : NetworkManager Core Interface Value) :
    Option (NetworkManager Core Interface Value) :=
  match manager.control with
  | .returned _ => some { manager with control := .clearRunning }
  | _ => none

/-- The next statement of `init` or `kill`.  `callbackSet` is what
`SetGlobalCallback_SteamNetConnectionStatusChanged` returns. -/
def controlStep (manager : NetworkManager Core Interface Value) (callbackSet : Bool) :
    Option (NetworkManager Core Interface Value) :=
  match manager.control with
  | .returned _ => none
  | .setInterface core pInterface =>
      some { manager with pInterface := some pInterface, control := .setCore core }
  | .setCore core =>
      some { manager with
        core := some core
        installed := manager.kills
        control := .setGlobalCallback }
  | .setGlobalCallback =>
      some { manager with
        control :=
          if callbackSet then .setRunning
          else .returned (.error (makeError .eInternalError
            "Callback function couldnt be set")) }
  | .setRunning => some { manager with running := true, control := .setInitialized }
  | .setInitialized => some { manager with initialized := true, control := .startThread }
  | .startThread => some { manager with thread := .lock, control := .returned (.ok ()) }
  | .clearRunning =>
      if manager.thread.isLocked then none
      else some { manager with running := false, control := .notifyAll }
  | .notifyAll => some { manager with thread := manager.thread.wakeUp, control := .join }
  | .join =>
      if manager.thread.isRunning then none
      else some { manager with thread := .none, control := .resetCore }
  | .resetCore =>
      -- `~Listener` joins the listener's thread, which may be in `ConnectionServed`.
      if manager.serving = [] then some { manager with core := none, control := .resetInterface }
      else none
  | .resetInterface => some { manager with pInterface := none, control := .clearInitialized }
  | .clearInitialized =>
      some { manager with initialized := false, control := .clearFunctionCalls }
  | .clearFunctionCalls =>
      some { manager with
        functionCalls := ThreadSaveQueue.clear manager.functionCalls
        kills := manager.kills + 1
        control := .returned (.ok ()) }

def setCaller (manager : NetworkManager Core Interface Value) (caller : Nat)
    (place : Caller Core Value) : NetworkManager Core Interface Value :=
  { manager with
    callers := Function.update manager.callers caller place
    serving := if place.isServing then caller :: manager.serving
      else manager.serving.filter (· ≠ caller) }

/-- A thread enters a member function, which begins with the test of
`m_initialized`. -/
def enter (manager : NetworkManager Core Interface Value) (caller : Nat)
    (place : Caller Core Value) : Option (NetworkManager Core Interface Value) :=
  if (manager.callers caller).isAtRest then
    some (manager.setCaller caller
      (if manager.initialized then place
        else .refused (makeError .eInvalidCall "Called bevor init. Call init first")))
  else none

def notifyFunktionCall (manager : NetworkManager Core Interface Value) :
    Option (NetworkManager Core Interface Value) :=
  if manager.thread.isLocked then none
  else some { manager with
    busy := true
    thread := manager.thread.wakeUp
    delays := if manager.busy then manager.delays else manager.delays + 1 }

/-- The next statement of a call on the manager. -/
def callerStep (manager : NetworkManager Core Interface Value) (caller : Nat) :
    Option (NetworkManager Core Interface Value) :=
  match manager.callers caller with
  | .idle | .refused _ | .returned _ | .served => none
  | .push func =>
      some { manager.setCaller caller (.notify manager.promiseCount) with
        functionCalls := ThreadSaveQueue.push manager.functionCalls
          (.funktion manager.promiseCount func manager.kills)
        promiseCount := manager.promiseCount + 1 }
  | .notify promise =>
      manager.notifyFunktionCall.map fun next => next.setCaller caller (.get promise)
  | .get promise =>
      (manager.promises promise).map fun value => manager.setCaller caller (.returned value)
  | .notifyServed served =>
      manager.notifyFunktionCall.map fun next => next.setCaller caller (.pushServed served)
  | .pushServed served =>
      some { manager.setCaller caller .served with
        functionCalls := ThreadSaveQueue.push manager.functionCalls
          (.connectionServed served manager.kills) }

end NetworkManager

/-- `call` and `connectionServed` are the calls of `executeFunktion` and of
`ConnectionServed` by a thread other than the network thread; `wake` is a
spurious wakeup. -/
inductive NetworkManagerAction (Core Interface Value : Type) where
  | network (callbacks : Core → Except Fault Core)
  | wake
  | init (core : Core) (pInterface : Interface)
  | kill
  | control (callbackSet : Bool)
  | call (caller : Nat) (func : Core → Except Fault (Value × Core))
  | connectionServed (caller : Nat) (served : Core → Except Fault Core)
  | caller (caller : Nat)

/-- All interleavings of any number of callers with the network thread and with
`init` and `kill`, from the static instance on. -/
def networkManagerSystem (Core Interface Value : Type) [INetworkManagerCore Core] :
    TransitionSystem (NetworkManager Core Interface Value)
      (NetworkManagerAction Core Interface Value) where
  Initial manager := manager = {}
  step manager
    | .network callbacks => manager.run callbacks
    | .wake =>
        if manager.thread.isParked then some (manager.moveTo .notified) else none
    | .init core pInterface => manager.init core pInterface
    | .kill => manager.kill
    | .control callbackSet => manager.controlStep callbackSet
    | .call caller func => manager.enter caller (.push func)
    | .connectionServed caller served => manager.enter caller (.notifyServed served)
    | .caller caller => manager.callerStep caller

/-- `init` with a new core, and the network thread up to its first test of
`m_Busy`. -/
def initManager : List (NetworkManagerAction (NetworkManagerCore ListenerQueues) Unit Outcome) :=
  [.init {} ()] ++ List.replicate 6 (.control true) ++ List.replicate 4 (.network .ok)

/-- Client 0 hands an operation to the network thread, which makes `statements`
statements, and takes the result. -/
def executeFunktion (operation : CoreOperation ListenerQueues) (statements : Nat) :
    List (NetworkManagerAction (NetworkManagerCore ListenerQueues) Unit Outcome) :=
  [.call 0 fun core => operation.perform core, .caller 0, .caller 0] ++
    List.replicate statements (.network .ok) ++ [.caller 0]

namespace NetworkManager

variable {Core Interface Value : Type} {manager next : NetworkManager Core Interface Value}

/-- The statements that only bring the thread to another place. -/
inductive Move [INetworkManagerCore Core] (manager : NetworkManager Core Interface Value) :
    NetworkThread Core Value → NetworkThread Core Value → Prop where
  | lock : Move manager .lock .outerTest
  | enter (running : manager.running = true) : Move manager .outerTest .waitTest
  | leave (stopped : manager.running = false) : Move manager .outerTest .exited
  | wakes (ready : manager.busy = true ∨ manager.running = false) :
      Move manager .waitTest .breakTest
  | park (calm : manager.busy = false) (running : manager.running = true) :
      Move manager .waitTest .parked
  | notified : Move manager .notified .waitTest
  | unlock (running : manager.running = true) : Move manager .breakTest .busyTest
  | breaks (stopped : manager.running = false) : Move manager .breakTest .exited
  | calm (calm : manager.busy = false) : Move manager .busyTest .runningTest
  | relock (stopped : manager.running = false) : Move manager .runningTest .lock
  | drained {counter : Nat} (none : manager.functionCalls = []) :
      Move manager (.pollFunctionCalls counter) .pollConnectionChanges
  | session {counter : Nat} (enough : maxFunctionsPerSession ≤ counter) :
      Move manager (.pollFunctionCalls counter) .pollConnectionChanges
  | emptyMap {core : Core} (installed : manager.core = some core)
      (empty : INetworkManagerCore.isSocketClientsMapEmpty core = true) :
      Move manager .mapTest .queueTest
  | emptyQueue (none : manager.functionCalls = []) : Move manager .queueTest .clearBusy
  | queued (some : manager.functionCalls ≠ []) : Move manager .queueTest .busyTest

/-- Everything that a statement of the network thread can do. -/
inductive RunStep [INetworkManagerCore Core] (callbacks : Core → Except Fault Core)
    (manager : NetworkManager Core Interface Value) :
    NetworkManager Core Interface Value → Prop where
  | move {before after : NetworkThread Core Value} (place : manager.thread = before)
      (moves : manager.Move before after) : RunStep callbacks manager (manager.moveTo after)
  | tick (place : manager.thread = .busyTest ∧ manager.busy = true ∨
        manager.thread = .runningTest ∧ manager.running = true) :
      RunStep callbacks manager manager.beginTick
  | pop {counter : Nat} {item : QueuedFunction Core Value}
      {rest : ThreadSaveQueue (QueuedFunction Core Value)}
      (place : manager.thread = .pollFunctionCalls counter)
      (queue : manager.functionCalls = item :: rest)
      (more : counter < maxFunctionsPerSession) :
      RunStep callbacks manager
        { manager with functionCalls := rest, thread := .call counter item }
  | call {counter : Nat} {item : QueuedFunction Core Value} {core changed : Core}
      {value : Option Value} (place : manager.thread = .call counter item)
      (installed : manager.core = some core) (runs : item.run core = .ok (value, changed)) :
      RunStep callbacks manager { manager with
        core := some changed
        promises := match item.promise? with
          | some promise => Function.update manager.promises promise value
          | none => manager.promises
        thread := .pollFunctionCalls (counter + 1) }
  | callbacks {core changed : Core} (place : manager.thread = .pollConnectionChanges)
      (installed : manager.core = some core) (runs : callbacks core = .ok changed) :
      RunStep callbacks manager { manager with core := some changed, thread := .mapTest }
  | usedMap {core : Core} (place : manager.thread = .mapTest)
      (installed : manager.core = some core)
      (used : INetworkManagerCore.isSocketClientsMapEmpty core = false) :
      RunStep callbacks manager { manager.moveTo .busyTest with
        delays := if manager.functionCalls = [] ∧ manager.busy then manager.delays + 1
          else manager.delays }
  | clearBusy (place : manager.thread = .clearBusy) :
      RunStep callbacks manager { manager with busy := false, thread := .busyTest }

theorem runStep_of_callItem [INetworkManagerCore Core]
    {callbacks : Core → Except Fault Core} {counter : Nat} {item : QueuedFunction Core Value}
    (place : manager.thread = .call counter item)
    (calls : manager.callItem counter item = some next) :
    RunStep callbacks manager next := by
  obtain ⟨core, installed, calls⟩ := Option.bind_eq_some_iff.mp calls
  cases outcome : item.run core with
  | error fault =>
      rw [outcome] at calls
      cases calls
  | ok result =>
      rw [outcome] at calls
      cases calls
      exact .call place installed outcome

theorem runStep_of_run [INetworkManagerCore Core] {callbacks : Core → Except Fault Core}
    (runs : manager.run callbacks = some next) : RunStep callbacks manager next := by
  unfold run at runs
  cases place : manager.thread with
  | none | parked | exited =>
      rw [place] at runs
      cases runs
  | lock =>
      rw [place] at runs
      cases runs
      exact .move place .lock
  | outerTest =>
      rw [place] at runs
      cases runs
      cases flag : manager.running with
      | false => exact .move place (.leave flag)
      | true => exact .move place (.enter flag)
  | waitTest =>
      rw [place] at runs
      cases runs
      split
      next ready => exact .move place (.wakes ready)
      next waits =>
        obtain ⟨calm, running⟩ := not_or.mp waits
        exact .move place (.park (by simpa using calm) (by simpa using running))
  | notified =>
      rw [place] at runs
      cases runs
      exact .move place .notified
  | breakTest =>
      rw [place] at runs
      cases runs
      cases flag : manager.running with
      | false => exact .move place (.breaks flag)
      | true => exact .move place (.unlock flag)
  | busyTest =>
      rw [place] at runs
      dsimp only at runs
      split at runs
      next busy =>
        cases runs
        exact .tick (.inl ⟨place, busy⟩)
      next calm =>
        cases runs
        exact .move place (.calm (by simpa using calm))
  | runningTest =>
      rw [place] at runs
      dsimp only at runs
      split at runs
      next running =>
        cases runs
        exact .tick (.inr ⟨place, running⟩)
      next stopped =>
        cases runs
        exact .move place (.relock (by simpa using stopped))
  | pollFunctionCalls counter =>
      rw [place] at runs
      dsimp only at runs
      split at runs
      next queue =>
        cases runs
        exact .move place (.drained queue)
      next item rest queue =>
        split at runs
        next more =>
          cases runs
          exact .pop place queue more
        next enough =>
          cases runs
          exact .move place (.session (by omega))
  | call counter item =>
      rw [place] at runs
      exact runStep_of_callItem place runs
  | pollConnectionChanges =>
      rw [place] at runs
      obtain ⟨core, installed, calls⟩ := Option.bind_eq_some_iff.mp runs
      cases outcome : callbacks core with
      | error fault =>
          rw [outcome] at calls
          cases calls
      | ok changed =>
          rw [outcome] at calls
          cases calls
          exact .callbacks place installed outcome
  | mapTest =>
      rw [place] at runs
      obtain ⟨core, installed, rfl⟩ := Option.map_eq_some_iff.mp runs
      split
      next empty => exact .move place (.emptyMap installed empty)
      next used => exact .usedMap place installed (by simpa using used)
  | queueTest =>
      rw [place] at runs
      cases runs
      split
      next empty => exact .move place (.emptyQueue empty)
      next queued => exact .move place (.queued queued)
  | clearBusy =>
      rw [place] at runs
      cases runs
      exact .clearBusy place

theorem Move.isRunning [INetworkManagerCore Core] {place after : NetworkThread Core Value}
    (moves : manager.Move place after) :
    place.isRunning = true ∧ after ≠ .none ∧ place.held? = none ∧ after.held? = none := by
  cases moves <;> exact ⟨rfl, nofun, rfl, rfl⟩

/-- The network thread leaves what `init`, `kill` and the callers write alone,
and keeps its core. -/
structure RunFrame (manager next : NetworkManager Core Interface Value) : Prop where
  control : next.control = manager.control
  initialized : next.initialized = manager.initialized
  running : next.running = manager.running
  callers : next.callers = manager.callers
  kills : next.kills = manager.kills
  installed : next.installed = manager.installed
  core : manager.core.isSome = true → next.core.isSome = true
  isRunning : manager.thread.isRunning = true
  present : next.thread ≠ .none

theorem RunStep.frame [INetworkManagerCore Core] {callbacks : Core → Except Fault Core}
    (runs : RunStep callbacks manager next) : RunFrame manager next := by
  cases runs with
  | move place moves =>
      obtain ⟨running, present, -, -⟩ := moves.isRunning
      exact ⟨rfl, rfl, rfl, rfl, rfl, rfl, id, by rwa [place], present⟩
  | tick place =>
      refine ⟨rfl, rfl, rfl, rfl, rfl, rfl, id, ?_, nofun⟩
      rcases place with ⟨place, -⟩ | ⟨place, -⟩ <;> rw [place] <;> rfl
  | pop place | usedMap place | clearBusy place =>
      exact ⟨rfl, rfl, rfl, rfl, rfl, rfl, id, by rw [place]; rfl, nofun⟩
  | call place | callbacks place =>
      exact ⟨rfl, rfl, rfl, rfl, rfl, rfl, fun _ => rfl, by rw [place]; rfl, nofun⟩

/-- Everything that a statement of `init` or `kill` can do. -/
inductive ControlStep (manager : NetworkManager Core Interface Value) (callbackSet : Bool) :
    NetworkManager Core Interface Value → Prop where
  | setInterface {core : Core} {pInterface : Interface}
      (place : manager.control = .setInterface core pInterface) :
      ControlStep manager callbackSet
        { manager with pInterface := some pInterface, control := .setCore core }
  | setCore {core : Core} (place : manager.control = .setCore core) :
      ControlStep manager callbackSet { manager with
        core := some core
        installed := manager.kills
        control := .setGlobalCallback }
  | setGlobalCallback (place : manager.control = .setGlobalCallback) (set : callbackSet = true) :
      ControlStep manager callbackSet { manager with control := .setRunning }
  | callbackFailed (place : manager.control = .setGlobalCallback)
      (failed : callbackSet = false) :
      ControlStep manager callbackSet { manager with
        control := .returned (.error (makeError .eInternalError
          "Callback function couldnt be set")) }
  | setRunning (place : manager.control = .setRunning) :
      ControlStep manager callbackSet { manager with
        running := true
        control := .setInitialized }
  | setInitialized (place : manager.control = .setInitialized) :
      ControlStep manager callbackSet { manager with
        initialized := true
        control := .startThread }
  | startThread (place : manager.control = .startThread) :
      ControlStep manager callbackSet { manager with
        thread := .lock
        control := .returned (.ok ()) }
  | clearRunning (place : manager.control = .clearRunning)
      (unlocked : manager.thread.isLocked = false) :
      ControlStep manager callbackSet { manager with
        running := false
        control := .notifyAll }
  | notifyAll (place : manager.control = .notifyAll) :
      ControlStep manager callbackSet { manager with
        thread := manager.thread.wakeUp
        control := .join }
  | join (place : manager.control = .join) (ended : manager.thread.isRunning = false) :
      ControlStep manager callbackSet { manager with thread := .none, control := .resetCore }
  | resetCore (place : manager.control = .resetCore) (joined : manager.serving = []) :
      ControlStep manager callbackSet { manager with core := none, control := .resetInterface }
  | resetInterface (place : manager.control = .resetInterface) :
      ControlStep manager callbackSet { manager with
        pInterface := none
        control := .clearInitialized }
  | clearInitialized (place : manager.control = .clearInitialized) :
      ControlStep manager callbackSet { manager with
        initialized := false
        control := .clearFunctionCalls }
  | clearFunctionCalls (place : manager.control = .clearFunctionCalls) :
      ControlStep manager callbackSet { manager with
        functionCalls := ThreadSaveQueue.clear manager.functionCalls
        kills := manager.kills + 1
        control := .returned (.ok ()) }

theorem controlStep_of_controlStep {callbackSet : Bool}
    (steps : manager.controlStep callbackSet = some next) :
    ControlStep manager callbackSet next := by
  unfold controlStep at steps
  cases place : manager.control with
  | returned result =>
      rw [place] at steps
      cases steps
  | setInterface core pInterface =>
      rw [place] at steps
      cases steps
      exact .setInterface place
  | setCore core =>
      rw [place] at steps
      cases steps
      exact .setCore place
  | setGlobalCallback =>
      rw [place] at steps
      cases steps
      cases callbackSet with
      | false => exact .callbackFailed place rfl
      | true => exact .setGlobalCallback place rfl
  | setRunning =>
      rw [place] at steps
      cases steps
      exact .setRunning place
  | setInitialized =>
      rw [place] at steps
      cases steps
      exact .setInitialized place
  | startThread =>
      rw [place] at steps
      cases steps
      exact .startThread place
  | clearRunning =>
      rw [place] at steps
      dsimp only at steps
      split at steps
      · cases steps
      next unlocked =>
        cases steps
        exact .clearRunning place (eq_false_of_ne_true unlocked)
  | notifyAll =>
      rw [place] at steps
      cases steps
      exact .notifyAll place
  | join =>
      rw [place] at steps
      dsimp only at steps
      split at steps
      · cases steps
      next ended =>
        cases steps
        exact .join place (eq_false_of_ne_true ended)
  | resetCore =>
      rw [place] at steps
      dsimp only at steps
      split at steps
      next joined =>
        cases steps
        exact .resetCore place joined
      · cases steps
  | resetInterface =>
      rw [place] at steps
      cases steps
      exact .resetInterface place
  | clearInitialized =>
      rw [place] at steps
      cases steps
      exact .clearInitialized place
  | clearFunctionCalls =>
      rw [place] at steps
      cases steps
      exact .clearFunctionCalls place

/-- The notification of a caller, which leaves `caller` at `place`. -/
def notified (manager : NetworkManager Core Interface Value) (caller : Nat)
    (place : Caller Core Value) : NetworkManager Core Interface Value :=
  { manager.setCaller caller place with
    busy := true
    thread := manager.thread.wakeUp
    delays := if manager.busy then manager.delays else manager.delays + 1 }

theorem setCaller_self {caller : Nat} {place : Caller Core Value} :
    (manager.setCaller caller place).callers caller = place :=
  Function.update_self ..

theorem setCaller_of_ne {caller other : Nat} {place : Caller Core Value}
    (different : other ≠ caller) :
    (manager.setCaller caller place).callers other = manager.callers other :=
  Function.update_of_ne different ..

/-- Everything that a statement of a caller can do. -/
inductive CallerStep (manager : NetworkManager Core Interface Value) (caller : Nat) :
    NetworkManager Core Interface Value → Prop where
  | push {func : Core → Except Fault (Value × Core)}
      (place : manager.callers caller = .push func) :
      CallerStep manager caller
        { manager.setCaller caller (.notify manager.promiseCount) with
          functionCalls := ThreadSaveQueue.push manager.functionCalls
            (.funktion manager.promiseCount func manager.kills)
          promiseCount := manager.promiseCount + 1 }
  | notify {promise : Nat} (place : manager.callers caller = .notify promise)
      (unlocked : manager.thread.isLocked = false) :
      CallerStep manager caller (manager.notified caller (.get promise))
  | get {promise : Nat} {value : Value} (place : manager.callers caller = .get promise)
      (set : manager.promises promise = some value) :
      CallerStep manager caller (manager.setCaller caller (.returned value))
  | notifyServed {served : Core → Except Fault Core}
      (place : manager.callers caller = .notifyServed served)
      (unlocked : manager.thread.isLocked = false) :
      CallerStep manager caller (manager.notified caller (.pushServed served))
  | pushServed {served : Core → Except Fault Core}
      (place : manager.callers caller = .pushServed served) :
      CallerStep manager caller { manager.setCaller caller .served with
        functionCalls := ThreadSaveQueue.push manager.functionCalls
          (.connectionServed served manager.kills) }

theorem notifyFunktionCall_eq_some {caller : Nat} {place : Caller Core Value}
    (notifies : (manager.notifyFunktionCall.map fun next => next.setCaller caller place) =
      some next) :
    manager.thread.isLocked = false ∧ next = manager.notified caller place := by
  obtain ⟨woken, wakes, rfl⟩ := Option.map_eq_some_iff.mp notifies
  unfold notifyFunktionCall at wakes
  split at wakes
  · cases wakes
  next unlocked =>
    cases wakes
    exact ⟨eq_false_of_ne_true unlocked, rfl⟩

theorem callerStep_of_callerStep {caller : Nat}
    (steps : manager.callerStep caller = some next) : CallerStep manager caller next := by
  unfold callerStep at steps
  cases place : manager.callers caller with
  | idle | refused | returned | served =>
      rw [place] at steps
      cases steps
  | push func =>
      rw [place] at steps
      cases steps
      exact .push place
  | notify promise =>
      rw [place] at steps
      obtain ⟨unlocked, rfl⟩ := notifyFunktionCall_eq_some steps
      exact .notify place unlocked
  | get promise =>
      rw [place] at steps
      obtain ⟨value, set, rfl⟩ := Option.map_eq_some_iff.mp steps
      exact .get place set
  | notifyServed served =>
      rw [place] at steps
      obtain ⟨unlocked, rfl⟩ := notifyFunktionCall_eq_some steps
      exact .notifyServed place unlocked
  | pushServed served =>
      rw [place] at steps
      cases steps
      exact .pushServed place

/-- Everything that a step of the manager can do. -/
inductive ManagerStep [INetworkManagerCore Core]
    (manager : NetworkManager Core Interface Value) :
    NetworkManagerAction Core Interface Value → NetworkManager Core Interface Value → Prop where
  | network {callbacks : Core → Except Fault Core} {next : NetworkManager Core Interface Value}
      (runs : RunStep callbacks manager next) : ManagerStep manager (.network callbacks) next
  | wake (parked : manager.thread = .parked) :
      ManagerStep manager .wake (manager.moveTo .notified)
  | initRefused {core : Core} {pInterface : Interface} {result : Result Unit}
      (place : manager.control = .returned result) (initialized : manager.initialized = true) :
      ManagerStep manager (.init core pInterface) { manager with
        control := .returned (.error (makeError .eInvalidCall
          "NetworkManager Already initialized need to call Kill first")) }
  | init {core : Core} {pInterface : Interface} {result : Result Unit}
      (place : manager.control = .returned result) (fresh : manager.initialized = false) :
      ManagerStep manager (.init core pInterface)
        { manager with control := .setInterface core pInterface }
  | kill {result : Result Unit} (place : manager.control = .returned result) :
      ManagerStep manager .kill { manager with control := .clearRunning }
  | control {callbackSet : Bool} {next : NetworkManager Core Interface Value}
      (steps : ControlStep manager callbackSet next) :
      ManagerStep manager (.control callbackSet) next
  | call {caller : Nat} {func : Core → Except Fault (Value × Core)}
      (rests : (manager.callers caller).isAtRest = true)
      (initialized : manager.initialized = true) :
      ManagerStep manager (.call caller func) (manager.setCaller caller (.push func))
  | connectionServed {caller : Nat} {served : Core → Except Fault Core}
      (rests : (manager.callers caller).isAtRest = true)
      (initialized : manager.initialized = true) :
      ManagerStep manager (.connectionServed caller served)
        (manager.setCaller caller (.notifyServed served))
  | callRefused {caller : Nat} {func : Core → Except Fault (Value × Core)}
      (rests : (manager.callers caller).isAtRest = true)
      (uninitialized : manager.initialized = false) :
      ManagerStep manager (.call caller func) (manager.setCaller caller
        (.refused (makeError .eInvalidCall "Called bevor init. Call init first")))
  | servedRefused {caller : Nat} {served : Core → Except Fault Core}
      (rests : (manager.callers caller).isAtRest = true)
      (uninitialized : manager.initialized = false) :
      ManagerStep manager (.connectionServed caller served) (manager.setCaller caller
        (.refused (makeError .eInvalidCall "Called bevor init. Call init first")))
  | caller {caller : Nat} {next : NetworkManager Core Interface Value}
      (steps : CallerStep manager caller next) : ManagerStep manager (.caller caller) next

/-- Entering a member function changes the place of the caller only. -/
theorem enter_eq_some {caller : Nat} {place : Caller Core Value}
    (enters : manager.enter caller place = some next) :
    (manager.callers caller).isAtRest = true ∧
      (manager.initialized = true ∧ next = manager.setCaller caller place ∨
        manager.initialized = false ∧ next = manager.setCaller caller
          (.refused (makeError .eInvalidCall "Called bevor init. Call init first"))) := by
  unfold enter at enters
  split at enters
  next rests =>
    cases enters
    by_cases flag : manager.initialized = true
    · exact ⟨rests, .inl ⟨flag, by rw [if_pos flag]⟩⟩
    · exact ⟨rests, .inr ⟨eq_false_of_ne_true flag, by rw [if_neg flag]⟩⟩
  · cases enters

theorem managerStep_of_step [INetworkManagerCore Core]
    {action : NetworkManagerAction Core Interface Value}
    (steps : (networkManagerSystem Core Interface Value).step manager action = some next) :
    ManagerStep manager action next := by
  cases action with
  | network callbacks => exact .network (runStep_of_run steps)
  | wake =>
      dsimp only [networkManagerSystem] at steps
      split at steps
      next parked =>
        cases steps
        refine .wake ?_
        cases place : manager.thread <;> simp_all [NetworkThread.isParked]
      · cases steps
  | init core pInterface =>
      dsimp only [networkManagerSystem, init] at steps
      split at steps
      next result place =>
        cases steps
        by_cases flag : manager.initialized = true
        · rw [if_pos flag]
          exact .initRefused place flag
        · rw [if_neg flag]
          exact .init place (eq_false_of_ne_true flag)
      · cases steps
  | kill =>
      dsimp only [networkManagerSystem, kill] at steps
      split at steps
      next result place =>
        cases steps
        exact .kill place
      · cases steps
  | control callbackSet => exact .control (controlStep_of_controlStep steps)
  | call caller func =>
      obtain ⟨rests, ⟨initialized, rfl⟩ | ⟨uninitialized, rfl⟩⟩ := enter_eq_some steps
      · exact .call rests initialized
      · exact .callRefused rests uninitialized
  | connectionServed caller served =>
      obtain ⟨rests, ⟨initialized, rfl⟩ | ⟨uninitialized, rfl⟩⟩ := enter_eq_some steps
      · exact .connectionServed rests initialized
      · exact .servedRefused rests uninitialized
  | caller caller => exact .caller (callerStep_of_callerStep steps)

/-- There is a network thread only between a successful `init` and the join of
`kill`, and it has a core. -/
structure LifeCycle (manager : NetworkManager Core Interface Value) : Prop where
  core : manager.thread ≠ .none → manager.core.isSome = true
  hasCore : manager.control.hasCore = true → manager.core.isSome = true
  noThread : manager.control.hasNoThread = true → manager.thread = .none
  starts : manager.control = .startThread → manager.initialized = true
  idle : ∀ result, manager.control = .returned result → manager.initialized = false →
    manager.thread = .none

theorem wakeUp_eq_none_iff {place : NetworkThread Core Value} :
    place.wakeUp = .none ↔ place = .none := by
  cases place <;> simp [NetworkThread.wakeUp]

theorem held_wakeUp {place : NetworkThread Core Value} : place.wakeUp.held? = place.held? := by
  cases place <;> rfl

namespace LifeCycle

theorem initial : LifeCycle ({} : NetworkManager Core Interface Value) where
  core absurd := (absurd rfl).elim
  hasCore := nofun
  noThread _ := rfl
  starts := nofun
  idle _ _ _ := rfl

theorem keep (cycle : LifeCycle manager) (control : next.control = manager.control)
    (initialized : next.initialized = manager.initialized)
    (thread : next.thread = .none ↔ manager.thread = .none)
    (core : manager.core.isSome = true → next.core.isSome = true) : LifeCycle next where
  core present := core (cycle.core (mt thread.mpr present))
  hasCore place := core (cycle.hasCore (control ▸ place))
  noThread place := thread.mpr (cycle.noThread (control ▸ place))
  starts place := initialized.trans (cycle.starts (control ▸ place))
  idle result place uninitialized :=
    thread.mpr (cycle.idle result (control ▸ place) (initialized ▸ uninitialized))

theorem runStep [INetworkManagerCore Core] {callbacks : Core → Except Fault Core}
    (cycle : LifeCycle manager) (runs : RunStep callbacks manager next) :
    LifeCycle next := by
  have frame := runs.frame
  apply cycle.keep frame.control frame.initialized _ frame.core
  constructor
  · intro absent
    exact (frame.present absent).elim
  · intro absent
    have running := frame.isRunning
    rw [absent] at running
    cases running

theorem controlStep {callbackSet : Bool} (cycle : LifeCycle manager)
    (steps : ControlStep manager callbackSet next) : LifeCycle next := by
  have absent := cycle.noThread
  have present := cycle.hasCore
  cases steps with
  | setInterface place =>
      rw [place] at absent
      exact ⟨cycle.core, nofun, fun _ => absent rfl, nofun, nofun⟩
  | setCore place =>
      rw [place] at absent
      exact ⟨fun _ => rfl, fun _ => rfl, fun _ => absent rfl, nofun, nofun⟩
  | setGlobalCallback place | setRunning place =>
      rw [place] at absent present
      exact ⟨cycle.core, fun _ => present rfl, fun _ => absent rfl, nofun, nofun⟩
  | callbackFailed place =>
      rw [place] at absent
      exact ⟨cycle.core, nofun, nofun, nofun, fun _ _ _ => absent rfl⟩
  | setInitialized place =>
      rw [place] at absent present
      exact ⟨cycle.core, fun _ => present rfl, fun _ => absent rfl, fun _ => rfl, nofun⟩
  | startThread place =>
      rw [place] at present
      refine ⟨fun _ => present rfl, nofun, nofun, nofun, ?_⟩
      intro result returned off
      exact nomatch (cycle.starts place).symm.trans off
  | clearRunning => exact ⟨cycle.core, nofun, nofun, nofun, nofun⟩
  | notifyAll =>
      exact ⟨fun present => cycle.core (mt wakeUp_eq_none_iff.mpr present), nofun, nofun,
        nofun, nofun⟩
  | join => exact ⟨fun present => (present rfl).elim, nofun, fun _ => rfl, nofun, nofun⟩
  | resetCore place | resetInterface place | clearInitialized place =>
      rw [place] at absent
      exact ⟨fun present => (present (absent rfl)).elim, nofun, fun _ => absent rfl, nofun,
        nofun⟩
  | clearFunctionCalls place =>
      rw [place] at absent
      exact ⟨fun present => (present (absent rfl)).elim, nofun, nofun, nofun,
        fun _ _ _ => absent rfl⟩

theorem callerStep {caller : Nat} (cycle : LifeCycle manager)
    (steps : CallerStep manager caller next) : LifeCycle next := by
  cases steps with
  | push | get | pushServed => exact cycle.keep rfl rfl Iff.rfl id
  | notify | notifyServed => exact cycle.keep rfl rfl wakeUp_eq_none_iff id

theorem step [INetworkManagerCore Core] {action : NetworkManagerAction Core Interface Value}
    (cycle : LifeCycle manager)
    (steps : (networkManagerSystem Core Interface Value).step manager action = some next) :
    LifeCycle next := by
  cases managerStep_of_step steps with
  | network runs => exact cycle.runStep runs
  | wake parked => exact cycle.keep rfl rfl (by simp [moveTo, parked]) id
  | initRefused place initialized =>
      refine ⟨cycle.core, nofun, nofun, nofun, ?_⟩
      intro _ _ off
      exact nomatch initialized.symm.trans off
  | init place fresh =>
      have absent := cycle.idle _ place fresh
      exact ⟨cycle.core, nofun, fun _ => absent, nofun, nofun⟩
  | kill => exact ⟨cycle.core, nofun, nofun, nofun, nofun⟩
  | control steps => exact cycle.controlStep steps
  | call | connectionServed | callRefused | servedRefused =>
      exact cycle.keep rfl rfl Iff.rfl id
  | caller steps => exact cycle.callerStep steps

end LifeCycle

theorem lifeCycle_of_reachable [INetworkManagerCore Core]
    (reached : (networkManagerSystem Core Interface Value).Reachable manager) :
    LifeCycle manager := by
  apply reached.invariant
  · rintro _ rfl
    exact LifeCycle.initial
  · exact fun _ _ _ _ cycle _ steps => cycle.step steps

end NetworkManager

end HttpServer
