import HttpServer.ListenerTeardown
import HttpServer.Logger
import HttpServer.ThreadPool
import HttpServer.Library.StoppableLoop

/-!
# The wakeup at the end of a loop

The destructors of `Listener` and `ThreadPool` and the `stop` of the logger reset
`m_running` without the mutex under which the loops test it, notify, and join.  A
thread that has tested the flag before its reset and parks after the notification
is never woken, and the join never ends.  This is the only way in which a wakeup
is lost: where no notification falls between such a test and the park, no thread
is parked while it is joined.
-/

namespace HttpServer

namespace ListenThread

/-- The thread has found nothing to do and calls the plain `wait`. -/
def isParking : ListenThread → Bool
  | park => true
  | _ => false

theorem eq_park_of_isParking {place : ListenThread} (parking : place.isParking = true) :
    place = park := by
  cases place <;> first | rfl | cases parking

end ListenThread

namespace ListenerCall

def isNotifying : ListenerCall → Bool
  | dtorNotify => true
  | _ => false

/-- The destructor has notified the listener's thread. -/
def isJoining : ListenerCall → Bool
  | dtorJoin | destroyed => true
  | _ => false

theorem isJoining_eq_false {call : ListenerCall} (notEnding : call.isEnding = false) :
    call.isJoining = false := by
  cases call <;> first | rfl | cases notEnding

end ListenerCall

/-- The destructor does not notify while the listener's thread is about to
park. -/
def listenerNoticed (state : ControlledListener) : ControlAction → Bool
  | .callStep _ => !(state.listener.call.isNotifying && state.listener.thread.isParking)
  | _ => true

def listenerLoop : StoppableLoop Listener Unit where
  running listener := listener.running
  notified listener := listener.call.isJoining
  parked listener _ := listener.thread = .parked
  parking listener _ := listener.thread = .park

namespace Listener

variable {listener next : Listener}

theorem notify_running (listener : Listener) : listener.notify.running = listener.running := by
  unfold notify
  split <;> rfl

/-- After a notification the thread is not parked, and it is about to park where
it was before. -/
theorem notify_thread (listener : Listener) :
    listener.notify.thread ≠ .parked ∧
      (listener.notify.thread = .park → listener.thread = .park) := by
  unfold notify
  split
  · exact ⟨nofun, nofun⟩
  next awake =>
    refine ⟨?_, id⟩
    intro parked
    rw [parked] at awake
    exact awake rfl

theorem RunStep.loopStep {received : ReceivedMessages}
    (steps : RunStep listener received next) : listenerLoop.Step listener next := by
  cases steps with
  | waits place running => exact ⟨id, nofun, fun _ _ => .inr running, .inl⟩
  | park place => exact ⟨id, fun _ _ => .inr place, nofun, .inl⟩
  | _ => exact .same rfl rfl nofun nofun

/-- A statement of a call leaves the flag and the thread alone, unless it belongs
to the destructor or notifies the thread. -/
theorem CallStep.loopStep {handle : UInt32}
    (ended : listener.call.isEnding = true → listener.running = false)
    (steps : CallStep listener handle next) : listenerLoop.Step listener next := by
  cases steps with
  | startSet call | stopSet call =>
      refine .same (notify_running _) ?_ (fun _ parked => ((notify_thread _).1 parked).elim)
        fun _ => (notify_thread _).2
      simp [listenerLoop, callGoTo, call, ListenerCall.isJoining]
  | dtorFlag call =>
      refine ⟨fun _ => rfl, fun _ => .inl, fun _ => .inl, ?_⟩
      simp [listenerLoop, callGoTo, ListenerCall.isJoining]
  | dtorNotify call =>
      have stopped := ended (by rw [call]; rfl)
      have awake := notify_thread (listener.callGoTo .dtorJoin)
      exact ⟨fun _ => (notify_running _).trans stopped, fun _ parked => (awake.1 parked).elim,
        fun _ parking => .inl (awake.2 parking), fun _ => .inr ⟨stopped, fun _ => awake.1⟩⟩
  | dtorJoin call =>
      have joining : listener.call.isJoining = true := by
        rw [call]
        rfl
      exact ⟨id, fun _ => .inl, fun _ => .inl, fun _ => .inl joining⟩
  | _ =>
      refine .same rfl ?_ (fun _ => id) (fun _ => id)
      simp [*, listenerLoop, callGoTo, record, ListenerCall.isJoining]

end Listener

namespace ControlledListener

open Listener

variable {state next : ControlledListener}

/-- What a step does to the listener. -/
inductive ListenerStep (listener : Listener) : Listener → Prop where
  | begin {call : ListenerCall} (ready : listener.call.isReady = true)
      (notEnding : call.isEnding = false) : ListenerStep listener (listener.callGoTo call)
  | callStep {handle : UInt32} {next : Listener} (steps : CallStep listener handle next) :
      ListenerStep listener next
  | run {received : ReceivedMessages} {next : Listener}
      (steps : RunStep listener received next) : ListenerStep listener next
  | wake (parked : listener.thread = .parked) : ListenerStep listener (listener.goTo .notified)

theorem listenerStep_of_step {action : ControlAction}
    (stepTo : controlSystem.step state action = some next) :
    ListenerStep state.listener next.listener := by
  have begins {call : ListenerCall} (notEnding : call.isEnding = false)
      (steps : state.begin call = some next) : ListenerStep state.listener next.listener := by
    unfold ControlledListener.begin at steps
    split at steps
    next ready =>
      cases steps
      exact .begin ready notEnding
    · cases steps
  cases action with
  | initSocket | startListening | stopListening | destroy => exact begins rfl stepTo
  | callStep handle =>
      obtain ⟨listener, steps, rfl⟩ := Option.map_eq_some_iff.mp stepTo
      exact .callStep (callStep_of_callStep steps)
  | run received =>
      obtain ⟨listener, steps, rfl⟩ := Option.map_eq_some_iff.mp stepTo
      exact .run (runStep_of_run steps)
  | wake =>
      obtain ⟨listener, wakes, rfl⟩ := Option.map_eq_some_iff.mp stepTo
      obtain ⟨parked, rfl⟩ := Listener.wake_eq_some.mp wakes
      exact .wake parked

/-- The flag is reset when the destructor begins, and stays reset. -/
theorem running_of_reachable {condition : ControlledListener → ControlAction → Prop}
    (reaches : controlSystem.ReachableWhere condition state) :
    state.listener.running = !state.listener.call.isEnding := by
  apply reaches.invariant (fun state => state.listener.running = !state.listener.call.isEnding)
  · rintro _ rfl
    rfl
  · intro state action next _ alive _ stepTo
    have steps := listenerStep_of_step stepTo
    generalize next.listener = after at steps
    cases steps with
    | begin ready notEnding =>
        have before : state.listener.call.isEnding = false := by
          cases call : state.listener.call <;> rw [call] at ready <;> first | rfl | cases ready
        rw [before] at alive
        rw [callGoTo, alive, notEnding]
    | callStep steps =>
        cases steps <;>
          simp_all [ListenerCall.isEnding, callGoTo, record, notify_running]
    | run steps =>
        obtain ⟨call, running⟩ : after.call = state.listener.call ∧
            after.running = state.listener.running := by
          cases steps <;> exact ⟨rfl, rfl⟩
        rw [call, running, alive]
    | wake => exact alive

theorem ListenerStep.loopStep {listener next : Listener}
    (ended : listener.call.isEnding = true → listener.running = false)
    (steps : ListenerStep listener next) : listenerLoop.Step listener next := by
  cases steps with
  | @begin call ready notEnding =>
      refine .same rfl ?_ (fun _ => id) (fun _ => id)
      have before : listener.call.isJoining = false := by
        cases place : listener.call <;> rw [place] at ready <;> first | rfl | cases ready
      exact (ListenerCall.isJoining_eq_false notEnding).trans before.symm
  | callStep steps => exact steps.loopStep ended
  | run steps => exact steps.loopStep
  | wake parked => exact .same rfl rfl nofun nofun

/-- Only the destructor issues the notification. -/
theorem notifies_eq {action : ControlAction}
    (stepTo : controlSystem.step state action = some next)
    (notifies : (listenerLoop.comap ControlledListener.listener).Notifies state next) :
    (∃ handle, action = .callStep handle) ∧ state.listener.call = .dtorNotify := by
  obtain ⟨before, after⟩ : state.listener.call.isJoining = false ∧
      next.listener.call.isJoining = true := notifies
  have begins {call : ListenerCall} (notEnding : call.isEnding = false)
      (steps : state.begin call = some next) : False := by
    unfold ControlledListener.begin at steps
    split at steps
    · cases steps
      cases after.symm.trans (ListenerCall.isJoining_eq_false notEnding)
    · cases steps
  cases action with
  | initSocket | startListening | stopListening | destroy => exact (begins rfl stepTo).elim
  | callStep handle =>
      refine ⟨⟨handle, rfl⟩, ?_⟩
      obtain ⟨listener, steps, rfl⟩ := Option.map_eq_some_iff.mp stepTo
      cases callStep_of_callStep steps with
      | dtorNotify call => exact call
      | _ => simp_all [callGoTo, record, ListenerCall.isJoining]
  | run received =>
      obtain ⟨listener, steps, rfl⟩ := Option.map_eq_some_iff.mp stepTo
      rw [(run_frame steps).1] at after
      cases before.symm.trans after
  | wake =>
      obtain ⟨listener, wakes, rfl⟩ := Option.map_eq_some_iff.mp stepTo
      obtain ⟨_, rfl⟩ := Listener.wake_eq_some.mp wakes
      cases before.symm.trans after

/-- In a run whose notifications are noticed, the listener's thread is not parked
while it is joined. -/
theorem stopped_of_reachable
    (reaches : controlSystem.ReachableWhere
      (fun state action => listenerNoticed state action = true) state) :
    (listenerLoop.comap ControlledListener.listener).Stopped state := by
  refine StoppableLoop.stopped_of_reachable ?_ ?_ ?_ reaches
  · rintro _ rfl
    rfl
  · intro state action next reaches stepTo
    have alive := running_of_reachable reaches
    refine StoppableLoop.Step.comap ((listenerStep_of_step stepTo).loopStep ?_)
    intro ending
    rw [alive, ending]
    rfl
  · intro state action next noticed stepTo notifies _ parking
    obtain ⟨⟨handle, rfl⟩, notifying⟩ := notifies_eq stepTo notifies
    have parks : state.listener.thread = .park := parking
    simp [listenerNoticed, notifying, parks, ListenerCall.isNotifying,
      ListenThread.isParking] at noticed

end ControlledListener

/-- Where the thread that destroys the pool is in the destructor. -/
inductive PoolDestructor where
  | clearRunning
  | notifyAll
  | join
  | ended
deriving DecidableEq

structure DestroyedPool (numWorkers : Nat) (Task : Type) where
  pool : ThreadPool numWorkers Task := {}
  destructor : PoolDestructor := .clearRunning

inductive DestroyedPoolAction (numWorkers : Nat) (Task : Type) where
  | pool (action : PoolAction numWorkers Task)
  | destructor

namespace PoolAction

/-- A statement of the destructor. -/
def isDestructor {numWorkers : Nat} {Task : Type} : PoolAction numWorkers Task → Bool
  | destroy | notifyAll => true
  | _ => false

end PoolAction

namespace WorkerLoop

variable {Task : Type}

def isParking : WorkerLoop Task → Bool
  | park => true
  | _ => false

theorem eq_park_of_isParking {place : WorkerLoop Task} (parking : place.isParking = true) :
    place = park := by
  cases place <;> first | rfl | cases parking

def isExited : WorkerLoop Task → Bool
  | exited => true
  | _ => false

end WorkerLoop

namespace DestroyedPool

variable {numWorkers : Nat} {Task : Type}

/-- The next statement of the destructor. -/
def destructorStep (state : DestroyedPool numWorkers Task) :
    Option (DestroyedPool numWorkers Task) :=
  match state.destructor with
  | .clearRunning =>
      ((threadPoolSystem numWorkers Task).step state.pool .destroy).map fun pool =>
        { pool, destructor := .notifyAll }
  | .notifyAll =>
      ((threadPoolSystem numWorkers Task).step state.pool .notifyAll).map fun pool =>
        { pool, destructor := .join }
  | .join =>
      if ∀ worker, (state.pool.workers worker).isExited = true then
        some { state with destructor := .ended }
      else none
  | .ended => none

end DestroyedPool

/-- All interleavings of the destructor of the pool with its workers and with
`assignTask` from other threads. -/
def destructorSystem (numWorkers : Nat) (Task : Type) :
    TransitionSystem (DestroyedPool numWorkers Task) (DestroyedPoolAction numWorkers Task) where
  Initial state := state = {}
  step state
    | .pool action =>
        if action.isDestructor then none
        else ((threadPoolSystem numWorkers Task).step state.pool action).map fun pool =>
          { state with pool }
    | .destructor => state.destructorStep

/-- The destructor does not notify while a worker is about to park, whether or not it
has the mutex. -/
def poolNoticed {numWorkers : Nat} {Task : Type} (state : DestroyedPool numWorkers Task) :
    DestroyedPoolAction numWorkers Task → Bool
  | .destructor =>
      !(decide (state.destructor = .notifyAll) &&
        decide (∃ worker, (state.pool.workers worker).isParking = true))
  | .pool _ => true

def poolLoop (numWorkers : Nat) (Task : Type) :
    StoppableLoop (DestroyedPool numWorkers Task) (Fin numWorkers) where
  running state := state.pool.running
  notified state := decide (state.destructor = .join ∨ state.destructor = .ended)
  parked state worker := state.pool.workers worker = .parked
  parking state worker := state.pool.workers worker = .park

namespace ThreadPool

variable {numWorkers : Nat} {Task : Type} {pool next : ThreadPool numWorkers Task}

/-- A worker that moves elsewhere parks nobody. -/
theorem moved_apart {worker : Fin numWorkers} {place after : WorkerLoop Task}
    (moved : next.workers = Function.update pool.workers worker place)
    (different : place ≠ after) (other : Fin numWorkers)
    (reached : next.workers other = after) : pool.workers other = after := by
  rw [moved] at reached
  by_cases same : other = worker
  · subst other
    rw [Function.update_self] at reached
    exact (different reached).elim
  · rwa [Function.update_of_ne same] at reached

end ThreadPool

namespace DestroyedPool

open ThreadPool

variable {numWorkers : Nat} {Task : Type} {state next : DestroyedPool numWorkers Task}

/-- What a step of the pool that is not one of the destructor does to the
workers. -/
theorem poolStep_loop {pool after : ThreadPool numWorkers Task}
    {action : PoolAction numWorkers Task} (apart : action.isDestructor = false)
    (steps : PoolStep pool action after) :
    after.running = pool.running ∧ ∀ worker,
      (after.workers worker = .parked →
        pool.workers worker = .parked ∨ pool.workers worker = .park) ∧
      (after.workers worker = .park →
        pool.workers worker = .park ∨ pool.running = true) := by
  cases steps with
  | destroy | notifyAll => cases apart
  | assignTask | notifyNone => exact ⟨rfl, fun _ => ⟨.inl, .inl⟩⟩
  | notifyOne | wakeSpuriously | taskReturns =>
      exact ⟨rfl, fun worker => ⟨fun parked => .inl (moved_apart rfl (by simp) worker parked),
        fun parking => .inl (moved_apart rfl (by simp) worker parking)⟩⟩
  | @workerLoop mover after steps =>
      cases steps with
      | waits place tasks running =>
          exact ⟨rfl, fun worker => ⟨fun parked => .inl (moved_apart rfl (by simp) worker parked),
            fun _ => .inr running⟩⟩
      | park place =>
          refine ⟨rfl, fun worker => ⟨?_, fun parking =>
            .inl (moved_apart rfl (by simp) worker parking)⟩⟩
          intro parked
          by_cases same : worker = mover
          · subst worker
            exact .inr place
          · exact .inl ((Function.update_of_ne same ..).symm.trans parked)
      | frontEmpty | popEmpty | unlockUnowned | badCall =>
          exact ⟨rfl, fun _ => ⟨.inl, .inl⟩⟩
      | _ =>
          exact ⟨rfl, fun worker => ⟨fun parked => .inl (moved_apart rfl (by simp) worker parked),
            fun parking => .inl (moved_apart rfl (by simp) worker parking)⟩⟩

/-- Everything that a step of a pool and its destructor can do. -/
inductive Step (state : DestroyedPool numWorkers Task) :
    DestroyedPoolAction numWorkers Task → DestroyedPool numWorkers Task → Prop where
  | pool {action : PoolAction numWorkers Task} {pool : ThreadPool numWorkers Task}
      (apart : action.isDestructor = false) (steps : PoolStep state.pool action pool) :
      Step state (.pool action) { state with pool }
  | clearRunning (place : state.destructor = .clearRunning) :
      Step state .destructor
        { pool := { state.pool with running := false }, destructor := .notifyAll }
  | notifyAll {pool : ThreadPool numWorkers Task} (place : state.destructor = .notifyAll)
      (running : pool.running = state.pool.running)
      (workers : ∀ worker, pool.workers worker =
        if (state.pool.workers worker).isParked then .notified else state.pool.workers worker) :
      Step state .destructor { pool, destructor := .join }
  | join (place : state.destructor = .join) :
      Step state .destructor { state with destructor := .ended }

theorem step_of_step {action : DestroyedPoolAction numWorkers Task}
    (stepTo : (destructorSystem numWorkers Task).step state action = some next) :
    Step state action next := by
  cases action with
  | pool action =>
      dsimp only [destructorSystem] at stepTo
      split at stepTo
      · cases stepTo
      next apart =>
        obtain ⟨pool, steps, rfl⟩ := Option.map_eq_some_iff.mp stepTo
        exact .pool (eq_false_of_ne_true apart) (poolStep_of_step steps)
  | destructor =>
      dsimp only [destructorSystem, destructorStep] at stepTo
      cases place : state.destructor with
      | clearRunning =>
          rw [place] at stepTo
          obtain ⟨pool, steps, rfl⟩ := Option.map_eq_some_iff.mp stepTo
          cases poolStep_of_step steps
          exact .clearRunning place
      | notifyAll =>
          rw [place] at stepTo
          obtain ⟨pool, steps, rfl⟩ := Option.map_eq_some_iff.mp stepTo
          cases poolStep_of_step steps
          exact .notifyAll place rfl fun _ => rfl
      | join =>
          rw [place] at stepTo
          dsimp only at stepTo
          split at stepTo
          · cases stepTo
            exact .join place
          · cases stepTo
      | ended =>
          rw [place] at stepTo
          cases stepTo

/-- The flag is reset before the notification and stays reset. -/
theorem running_of_reachable
    (reaches : (destructorSystem numWorkers Task).Reachable state)
    (ending : state.destructor ≠ .clearRunning) : state.pool.running = false := by
  refine reaches.invariant
    (fun state => state.destructor ≠ .clearRunning → state.pool.running = false) ?_ ?_ ending
  · rintro _ rfl absurd
    exact (absurd rfl).elim
  · intro state action next _ ended _ stepTo
    cases step_of_step stepTo with
    | pool apart steps => exact fun ending => (poolStep_loop apart steps).1.trans (ended ending)
    | clearRunning => exact fun _ => rfl
    | notifyAll place running => exact fun _ => running.trans (ended (by rw [place]; nofun))
    | join place => exact fun _ => ended (by rw [place]; nofun)

theorem loopStep {action : DestroyedPoolAction numWorkers Task}
    (reaches : (destructorSystem numWorkers Task).Reachable state)
    (stepTo : (destructorSystem numWorkers Task).step state action = some next) :
    (poolLoop numWorkers Task).Step state next := by
  cases step_of_step stepTo with
  | pool apart steps =>
      obtain ⟨running, workers⟩ := poolStep_loop apart steps
      exact ⟨running.trans, fun worker => (workers worker).1, fun worker => (workers worker).2,
        .inl⟩
  | clearRunning => exact ⟨fun _ => rfl, fun _ => .inl, fun _ => .inl, by simp [poolLoop]⟩
  | @notifyAll pool place running workers =>
      have stopped := running_of_reachable reaches (by simp [place])
      have awake (worker : Fin numWorkers) : pool.workers worker ≠ .parked ∧
          (pool.workers worker = .park → state.pool.workers worker = .park) := by
        rw [workers]
        cases state.pool.workers worker <;> simp [WorkerLoop.isParked]
      exact ⟨running.trans, fun worker parked => ((awake worker).1 parked).elim,
        fun worker parking => .inl ((awake worker).2 parking),
        fun _ => .inr ⟨stopped, fun worker => (awake worker).1⟩⟩
  | join place => exact .same rfl (by simp [poolLoop, place]) (fun _ => id) fun _ => id

/-- A worker that is about to park parks. -/
theorem step_park {pool : ThreadPool numWorkers Task} {worker : Fin numWorkers}
    (destructor : PoolDestructor) (faultless : pool.fault.isSome = false)
    (place : pool.workers worker = .park) :
    (destructorSystem numWorkers Task).step { pool, destructor } (.pool (.workerLoop worker)) =
      some { pool := { pool.moveTo worker .parked with owner := none }, destructor } := by
  simp [destructorSystem, threadPoolSystem, PoolAction.isDestructor, faultless, workerLoop,
    place]

theorem stopped_of_reachable
    (reaches : (destructorSystem numWorkers Task).ReachableWhere
      (fun state action => poolNoticed state action = true) state) :
    (poolLoop numWorkers Task).Stopped state := by
  refine StoppableLoop.stopped_of_reachable ?_ (fun _ _ _ => loopStep) ?_ reaches
  · rintro _ rfl
    rfl
  · rintro state action next noticed stepTo ⟨before, after⟩ worker parking
    have parks : state.pool.workers worker = .park := parking
    cases step_of_step stepTo with
    | pool => exact nomatch before.symm.trans after
    | clearRunning => cases after
    | notifyAll place =>
        have none : ∀ worker, (state.pool.workers worker).isParking = false := by
          simpa [poolNoticed, place] using noticed
        have apart := none worker
        rw [parks] at apart
        cases apart
    | join place => simp [poolLoop, place] at before

end DestroyedPool

namespace LogThread

variable {Entry : Type}

def isParking : LogThread Entry → Bool
  | park => true
  | _ => false

theorem eq_park_of_isParking {place : LogThread Entry} (parking : place.isParking = true) :
    place = park := by
  cases place <;> first | rfl | cases parking

end LogThread

/-- `stop` does not notify while the log thread is about to park. -/
def loggerNoticed {Entry : Type} (logger : AsyncLoggerCore Entry) :
    LoggerAction Entry → Bool
  | .stopStep => !(decide (logger.stop = .notifyAll) && logger.logThread.isParking)
  | _ => true

def loggerLoop (Entry : Type) : StoppableLoop (AsyncLoggerCore Entry) Unit where
  running logger := logger.running
  notified logger := decide (logger.stop = .join ∨ logger.stop = .returned)
  parked logger _ := logger.logThread = .parked
  parking logger _ := logger.logThread = .park

namespace AsyncLoggerCore

variable {Entry : Type} {logger next : AsyncLoggerCore Entry}

/-- The flag is reset before the notification and stays reset. -/
theorem running_of_reachable
    (reaches : (loggerSystem Entry).Reachable logger)
    (stopping : logger.stop ≠ .idle ∧ logger.stop ≠ .clearRunning) :
    logger.running = false := by
  refine reaches.invariant
    (fun logger => logger.stop ≠ .idle ∧ logger.stop ≠ .clearRunning → logger.running = false)
    ?_ ?_ stopping
  · rintro _ rfl ⟨absurd, -⟩
    exact (absurd rfl).elim
  · intro logger action next _ ended _ stepTo
    cases loggerStep_of_step stepTo with
    | logThread runs => cases runs <;> exact ended
    | stop => exact fun stopping => (stopping.2 rfl).elim
    | clearRunning => exact fun _ => rfl
    | notifyAll place | join place => exact fun _ => ended (by simp [place])
    | _ => exact ended

theorem loopStep {action : LoggerAction Entry}
    (reaches : (loggerSystem Entry).Reachable logger)
    (stepTo : (loggerSystem Entry).step logger action = some next) :
    (loggerLoop Entry).Step logger next := by
  have woken : logger.logThread.wakeUp ≠ .parked ∧
      (logger.logThread.wakeUp = .park → logger.logThread = .park) := by
    cases logger.logThread <;> simp [LogThread.wakeUp]
  cases loggerStep_of_step stepTo with
  | write =>
      exact .same rfl rfl (fun _ parked => (woken.1 parked).elim) fun _ => woken.2
  | logThread runs =>
      cases runs with
      | waits place queue running => exact ⟨id, nofun, fun _ _ => .inr running, .inl⟩
      | park place => exact ⟨id, fun _ _ => .inr place, nofun, .inl⟩
      | _ => exact .same rfl rfl nofun nofun
  | wake => exact .same rfl rfl nofun nofun
  | stop place => exact ⟨id, fun _ => .inl, fun _ => .inl, by simp [loggerLoop]⟩
  | clearRunning place => exact ⟨fun _ => rfl, fun _ => .inl, fun _ => .inl, by simp [loggerLoop]⟩
  | notifyAll place =>
      have stopped := running_of_reachable reaches (by simp [place])
      exact ⟨id, fun _ parked => (woken.1 parked).elim, fun _ parking => .inl (woken.2 parking),
        fun _ => .inr ⟨stopped, fun _ => woken.1⟩⟩
  | join place =>
      exact .same rfl (by simp [loggerLoop, place]) (fun _ => id) fun _ => id

theorem stopped_of_reachable
    (reaches : (loggerSystem Entry).ReachableWhere
      (fun logger action => loggerNoticed logger action = true) logger) :
    (loggerLoop Entry).Stopped logger := by
  refine StoppableLoop.stopped_of_reachable ?_ (fun _ _ _ => loopStep) ?_ reaches
  · rintro _ rfl
    rfl
  · rintro logger action next noticed stepTo ⟨before, after⟩ _ parking
    have parks : logger.logThread = .park := parking
    cases loggerStep_of_step stepTo with
    | notifyAll place => simp [loggerNoticed, place, parks, LogThread.isParking] at noticed
    | stop | clearRunning => cases after
    | join place => simp [loggerLoop, place] at before
    | logThread runs =>
        cases runs <;> exact nomatch before.symm.trans after
    | _ => exact nomatch before.symm.trans after

end AsyncLoggerCore

/-- In a run of each of the three loops in which no notification of the stopping
thread falls between a failed test of a loop thread and its park, no loop thread
is parked while the stopping thread waits in `join`. -/
theorem no_lost_shutdown_wakeup {numWorkers : Nat} {Task Entry : Type}
    (listener : ControlledListener) (pool : DestroyedPool numWorkers Task)
    (logger : AsyncLoggerCore Entry) :
    (controlSystem.ReachableWhere (fun state action => listenerNoticed state action = true)
        listener →
      ¬ (listener.listener.call = .dtorJoin ∧ listener.listener.thread = .parked)) ∧
    ((destructorSystem numWorkers Task).ReachableWhere
        (fun state action => poolNoticed state action = true) pool →
      ¬ (pool.destructor = .join ∧ ∃ worker, pool.pool.workers worker = .parked)) ∧
    ((loggerSystem Entry).ReachableWhere
        (fun logger action => loggerNoticed logger action = true) logger →
      ¬ (logger.stop = .join ∧ logger.logThread = .parked)) := by
  refine ⟨?_, ?_, ?_⟩
  · rintro reaches ⟨joins, parked⟩
    have joining : listener.listener.call.isJoining = true := by
      rw [joins]
      rfl
    exact ((ControlledListener.stopped_of_reachable reaches joining).2 ()).1 parked
  · rintro reaches ⟨joins, worker, parked⟩
    have joining : (poolLoop numWorkers Task).notified pool = true := by
      simp [poolLoop, joins]
    exact ((DestroyedPool.stopped_of_reachable reaches joining).2 worker).1 parked
  · rintro reaches ⟨joins, parked⟩
    have joining : (loggerLoop Entry).notified logger = true := by
      simp [loggerLoop, joins]
    exact ((AsyncLoggerCore.stopped_of_reachable reaches joining).2 ()).1 parked

/-- A notification that does fall into that window is lost: the loop thread's next
statement parks it for the join to wait for. -/
theorem shutdown_wakeup_lost {numWorkers : Nat} {Task Entry : Type}
    (listener : ControlledListener) (pool : DestroyedPool numWorkers Task)
    (logger : AsyncLoggerCore Entry) :
    (∀ handle next, listenerNoticed listener (.callStep handle) = false →
      controlSystem.step listener (.callStep handle) = some next →
      ∃ last, controlSystem.step next (.run .none) = some last ∧
        last.listener.call = .dtorJoin ∧ last.listener.thread = .parked) ∧
    (∀ next, poolNoticed pool .destructor = false →
      (destructorSystem numWorkers Task).step pool .destructor = some next →
      ∃ worker last, (destructorSystem numWorkers Task).step next
          (.pool (.workerLoop worker)) = some last ∧
        last.destructor = .join ∧ last.pool.workers worker = .parked) ∧
    (∀ next, loggerNoticed logger .stopStep = false →
      (loggerSystem Entry).step logger .stopStep = some next →
      ∃ last, (loggerSystem Entry).step next .logThread = some last ∧
        last.stop = .join ∧ last.logThread = .parked) := by
  refine ⟨?_, ?_, ?_⟩
  · intro handle next missed stepTo
    obtain ⟨notifying, parking⟩ : listener.listener.call.isNotifying = true ∧
        listener.listener.thread.isParking = true := by
      simpa [listenerNoticed] using missed
    have place := ListenThread.eq_park_of_isParking parking
    obtain ⟨after, steps, rfl⟩ := Option.map_eq_some_iff.mp stepTo
    cases Listener.callStep_of_callStep steps with
    | dtorNotify call =>
        have still : (listener.listener.callGoTo .dtorJoin).notify =
            listener.listener.callGoTo .dtorJoin :=
          if_neg (by simp [Listener.callGoTo, place, ListenThread.isParked])
        rw [still]
        exact ⟨_, by simp [controlSystem, ControlledListener.run, Listener.run,
          Listener.callGoTo, place]; rfl, rfl, rfl⟩
    | _ => simp_all [ListenerCall.isNotifying]
  · intro next missed stepTo
    obtain ⟨notifying, worker, parking⟩ : pool.destructor = .notifyAll ∧
        ∃ worker, (pool.pool.workers worker).isParking = true := by
      simpa [poolNoticed] using missed
    have place := WorkerLoop.eq_park_of_isParking parking
    dsimp only [destructorSystem, DestroyedPool.destructorStep] at stepTo
    rw [notifying] at stepTo
    obtain ⟨after, steps, rfl⟩ := Option.map_eq_some_iff.mp stepTo
    dsimp only [threadPoolSystem] at steps
    split at steps
    · cases steps
    next faultless =>
      split at steps
      · cases steps
      · cases steps
        refine ⟨worker, _, DestroyedPool.step_park .join ?_ ?_, rfl,
          Function.update_self ..⟩
        · exact eq_false_of_ne_true faultless
        · simp [place, WorkerLoop.isParked]
  · intro next missed stepTo
    obtain ⟨notifying, parking⟩ : logger.stop = .notifyAll ∧
        logger.logThread.isParking = true := by
      simpa [loggerNoticed] using missed
    have place := LogThread.eq_park_of_isParking parking
    cases AsyncLoggerCore.loggerStep_of_step stepTo with
    | notifyAll =>
        rw [place]
        exact ⟨_, rfl, rfl, rfl⟩
    | clearRunning stop | join stop => cases notifying.symm.trans stop

/-- The listener's thread, a worker and the log thread are woken. -/
theorem no_lost_shutdown_wakeup_noticed :
    ∃ (listener : ControlledListener) (pool : DestroyedPool 1 Nat)
      (logger : AsyncLoggerCore Nat),
      (listener.listener.call = .dtorJoin ∧ listener.listener.thread ≠ .parked) ∧
      (pool.destructor = .join ∧ ¬ ∃ worker, pool.pool.workers worker = .parked) ∧
      (logger.stop = .join ∧ logger.logThread ≠ .parked) := by
  have destroys : ∃ listener, controlSystem.runWhere
      (fun state action => listenerNoticed state action = true) {}
      (List.replicate 4 (.run .none) ++ [.destroy, .callStep 0, .callStep 0]) = some listener ∧
      listener.listener.call = .dtorJoin :=
    ⟨_, rfl, rfl⟩
  have empties : ∃ pool : DestroyedPool 1 Nat, (destructorSystem 1 Nat).runWhere
      (fun state action => poolNoticed state action = true) {}
      (List.replicate 4 (.pool (.workerLoop 0)) ++ [.destructor, .destructor]) = some pool ∧
      pool.destructor = .join :=
    ⟨_, rfl, rfl⟩
  have stops : ∃ logger : AsyncLoggerCore Nat, (loggerSystem Nat).runWhere
      (fun logger action => loggerNoticed logger action = true) {}
      (List.replicate 4 .logThread ++ [.stop, .stopStep, .stopStep]) = some logger ∧
      logger.stop = .join :=
    ⟨_, rfl, rfl⟩
  obtain ⟨listener, destroys, listenerJoins⟩ := destroys
  obtain ⟨pool, empties, poolJoins⟩ := empties
  obtain ⟨logger, stops, loggerJoins⟩ := stops
  obtain ⟨ofListener, ofPool, ofLogger⟩ := no_lost_shutdown_wakeup listener pool logger
  refine ⟨listener, pool, logger, ⟨listenerJoins, ?_⟩, ⟨poolJoins, ?_⟩, loggerJoins, ?_⟩
  · exact fun parked => ofListener (TransitionSystem.reachableWhere_of_run rfl destroys)
      ⟨listenerJoins, parked⟩
  · exact fun parked => ofPool (TransitionSystem.reachableWhere_of_run rfl empties)
      ⟨poolJoins, parked⟩
  · exact fun parked => ofLogger (TransitionSystem.reachableWhere_of_run rfl stops)
      ⟨loggerJoins, parked⟩

/-- Each of the three loop threads has tested its predicate when the flag is reset
and the notification issued, and parks afterwards. -/
theorem no_lost_shutdown_wakeup_fails :
    (∃ listener, controlSystem.Reachable listener ∧ listener.listener.running = false ∧
      listener.listener.call = .dtorJoin ∧ listener.listener.thread = .parked) ∧
    (∃ pool, (destructorSystem 1 Nat).Reachable pool ∧ pool.pool.running = false ∧
      pool.destructor = .join ∧ pool.pool.workers 0 = .parked) ∧
    ∃ logger, (loggerSystem Nat).Reachable logger ∧ logger.running = false ∧
      logger.stop = .join ∧ logger.logThread = .parked := by
  have destroys : ∃ listener, controlSystem.run {}
      (List.replicate 3 (.run .none) ++ [.destroy, .callStep 0, .callStep 0, .run .none]) =
        some listener ∧ listener.listener.running = false ∧
      listener.listener.call = .dtorJoin ∧ listener.listener.thread = .parked :=
    ⟨_, rfl, rfl, rfl, rfl⟩
  have empties : ∃ pool : DestroyedPool 1 Nat, (destructorSystem 1 Nat).run {}
      (List.replicate 3 (.pool (.workerLoop 0)) ++
        [.destructor, .destructor, .pool (.workerLoop 0)]) = some pool ∧
      pool.pool.running = false ∧ pool.destructor = .join ∧ pool.pool.workers 0 = .parked :=
    ⟨_, rfl, rfl, rfl, rfl⟩
  have stops : ∃ logger : AsyncLoggerCore Nat, (loggerSystem Nat).run {}
      (List.replicate 3 .logThread ++ [.stop, .stopStep, .stopStep, .logThread]) =
        some logger ∧ logger.running = false ∧ logger.stop = .join ∧
      logger.logThread = .parked :=
    ⟨_, rfl, rfl, rfl, rfl⟩
  obtain ⟨listener, destroys, lost⟩ := destroys
  obtain ⟨pool, empties, missed⟩ := empties
  obtain ⟨logger, stops, slept⟩ := stops
  exact ⟨⟨listener, TransitionSystem.reachable_of_run rfl destroys, lost⟩,
    ⟨pool, TransitionSystem.reachable_of_run rfl empties, missed⟩,
    ⟨logger, TransitionSystem.reachable_of_run rfl stops, slept⟩⟩

end HttpServer
