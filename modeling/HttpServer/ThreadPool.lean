import HttpServer.Library.TransitionSystem
import Mathlib.Data.List.Basic
import Mathlib.Logic.Function.Basic

/-!
# The thread pool

`numWorkers` threads run `workerLoop` over one queue of tasks, one mutex and one
condition variable, while any threads call `assignTask`.  Each statement of the
loop that touches the shared state is a step of its own.  The loop releases its
`unique_lock` before it calls the task and never takes it again, so what a
worker does after its first task it does without the lock.

A `wait` on a lock that is not owned is undefined.  It is taken to be what it is on
Linux: the mutex is unlocked, whoever has it, and locked again when the worker is
woken, while the `unique_lock` goes on saying that it does not own it.
-/

namespace HttpServer

/-- Where a worker is in `workerLoop`.  `waitTest` is the predicate of `wait`,
`park` the call of the plain `wait` under it; at `call` the worker calls the task,
and at `inTask` it is in it. -/
inductive WorkerLoop (Task : Type) where
  | lock
  | loopTest
  | waitTest
  | park
  | parked
  | notified
  | breakTest
  | front
  | pop (task : Option Task)
  | unlock (task : Option Task)
  | call (task : Option Task)
  | inTask (task : Task)
  | exited

/-- What no run goes beyond: the exceptions of an `unlock` on a lock that is not owned
and of the call of an empty function, which end the process, and an access to an
empty queue, which is undefined. -/
inductive PoolFault where
  | unlockWithoutLock
  | frontOfEmpty
  | popOfEmpty
  | badFunctionCall
deriving DecidableEq

namespace WorkerLoop

variable {Task : Type}

/-- The places in the loop between taking the lock and giving it back. -/
def isLocked : WorkerLoop Task → Bool
  | loopTest | waitTest | park | breakTest | front | pop _ | unlock _ => true
  | _ => false

/-- The same with those inside of `wait`, during which the `unique_lock` goes on
saying that it owns the mutex. -/
def isInside : WorkerLoop Task → Bool
  | parked | notified => true
  | place => place.isLocked

/-- The places at which the worker evaluates the predicate, reads or pops the
queue, or hands its lock to `wait` or `unlock`. -/
def needsLock : WorkerLoop Task → Bool
  | waitTest | park | front | pop _ | unlock _ => true
  | _ => false

/-- What a worker has in its local variable `task`. -/
def task? : WorkerLoop Task → Option (Option Task)
  | pop task | unlock task | call task => some task
  | inTask task => some (some task)
  | _ => none

def isParked : WorkerLoop Task → Bool
  | parked => true
  | _ => false

theorem isLocked_of_needsLock {place : WorkerLoop Task}
    (needs : place.needsLock = true) : place.isLocked = true := by
  cases place <;> simp_all [needsLock, isLocked]

theorem isInside_of_isLocked {place : WorkerLoop Task}
    (locked : place.isLocked = true) : place.isInside = true := by
  cases place <;> first | rfl | cases locked

end WorkerLoop

/-- A task that was moved out of the queue leaves an empty function behind until
it is popped.  `owner` has locked the mutex, and `owns` is what the `unique_lock` of
each worker says.  `assigned` and `taken` record the two ends of the queue, and
`returned` the workers of which a task has returned. -/
structure ThreadPool (numWorkers : Nat) (Task : Type) where
  running : Bool := true
  tasks : List (Option Task) := []
  owner : Option (Fin numWorkers) := none
  owns : Fin numWorkers → Bool := fun _ => false
  workers : Fin numWorkers → WorkerLoop Task := fun _ => .lock
  notifications : Nat := 0
  fault : Option PoolFault := none
  assigned : List Task := []
  taken : List (Fin numWorkers × Option Task) := []
  returned : Fin numWorkers → Bool := fun _ => false

/-- `assignTask` is the push under the mutex and then `notify_one`, which wakes
one parked worker if there is one.  A parked worker may also wake by itself. -/
inductive PoolAction (numWorkers : Nat) (Task : Type) where
  | assignTask (task : Task)
  | notifyOne (woken : Option (Fin numWorkers))
  | wakeSpuriously (worker : Fin numWorkers)
  | workerLoop (worker : Fin numWorkers)
  | taskReturns (worker : Fin numWorkers)
  | destroy
  | notifyAll

namespace ThreadPool

variable {numWorkers : Nat} {Task : Type}

def moveTo (pool : ThreadPool numWorkers Task) (worker : Fin numWorkers)
    (place : WorkerLoop Task) : ThreadPool numWorkers Task :=
  { pool with workers := Function.update pool.workers worker place }

def fail (pool : ThreadPool numWorkers Task) (fault : PoolFault) :
    ThreadPool numWorkers Task :=
  { pool with fault := some fault }

/-- The destructor of the `unique_lock` when a worker leaves the loop. -/
def leave (pool : ThreadPool numWorkers Task) (worker : Fin numWorkers) :
    ThreadPool numWorkers Task :=
  { pool.moveTo worker .exited with
    owner := if pool.owns worker then none else pool.owner
    owns := Function.update pool.owns worker false }

/-- The next statement of `workerLoop`, if the worker can make it. -/
def workerLoop (pool : ThreadPool numWorkers Task) (worker : Fin numWorkers) :
    Option (ThreadPool numWorkers Task) :=
  match pool.workers worker with
  | .lock =>
      if pool.owner = none then
        some { pool.moveTo worker .loopTest with
          owner := some worker
          owns := Function.update pool.owns worker true }
      else none
  | .loopTest =>
      if pool.running then some (pool.moveTo worker .waitTest)
      else some (pool.leave worker)
  | .waitTest =>
      if pool.tasks ≠ [] ∨ pool.running = false then some (pool.moveTo worker .breakTest)
      else some (pool.moveTo worker .park)
  | .park => some { pool.moveTo worker .parked with owner := none }
  | .parked => none
  | .notified =>
      if pool.owner = none then
        some { pool.moveTo worker .waitTest with owner := some worker }
      else none
  | .breakTest =>
      if pool.running then some (pool.moveTo worker .front)
      else some (pool.leave worker)
  | .front =>
      match pool.tasks with
      | [] => some (pool.fail .frontOfEmpty)
      | task :: rest =>
          some { pool.moveTo worker (.pop task) with
            tasks := none :: rest
            taken := pool.taken ++ [(worker, task)] }
  | .pop task =>
      match pool.tasks with
      | [] => some (pool.fail .popOfEmpty)
      | _ :: rest => some { pool.moveTo worker (.unlock task) with tasks := rest }
  | .unlock task =>
      if pool.owns worker then
        some { pool.moveTo worker (.call task) with
          owner := none
          owns := Function.update pool.owns worker false }
      else some (pool.fail .unlockWithoutLock)
  | .call none => some (pool.fail .badFunctionCall)
  | .call (some task) => some (pool.moveTo worker (.inTask task))
  | .inTask _ => none
  | .exited => none

end ThreadPool

/-- All interleavings of the workers with `assignTask` from any threads and with
the destructor's `m_running = false` and `notify_all`. -/
def threadPoolSystem (numWorkers : Nat) (Task : Type) :
    TransitionSystem (ThreadPool numWorkers Task) (PoolAction numWorkers Task) where
  Initial pool := pool = {}
  step pool action :=
    if pool.fault.isSome then none
    else match action with
      | .assignTask task =>
          if pool.owner = none then
            some { pool with
              tasks := pool.tasks ++ [some task]
              assigned := pool.assigned ++ [task]
              notifications := pool.notifications + 1 }
          else none
      | .notifyOne woken =>
          if 0 < pool.notifications then
            let pool := { pool with notifications := pool.notifications - 1 }
            match woken with
            | none =>
                if ∃ worker, (pool.workers worker).isParked = true then none else some pool
            | some worker =>
                if (pool.workers worker).isParked then some (pool.moveTo worker .notified)
                else none
          else none
      | .wakeSpuriously worker =>
          if (pool.workers worker).isParked then some (pool.moveTo worker .notified)
          else none
      | .workerLoop worker => pool.workerLoop worker
      | .taskReturns worker =>
          match pool.workers worker with
          | .inTask _ =>
              some { pool.moveTo worker .loopTest with
                returned := Function.update pool.returned worker true }
          | _ => none
      | .destroy =>
          if pool.running then some { pool with running := false } else none
      | .notifyAll =>
          if pool.running then none
          else some { pool with
            workers := fun worker =>
              if (pool.workers worker).isParked then .notified else pool.workers worker }

namespace ThreadPool

variable {numWorkers : Nat} {Task : Type} {pool next : ThreadPool numWorkers Task}
  {worker : Fin numWorkers}

/-- Everything that a statement of `workerLoop` can do. -/
inductive WorkerStep (pool : ThreadPool numWorkers Task) (worker : Fin numWorkers) :
    ThreadPool numWorkers Task → Prop where
  | lock (place : pool.workers worker = .lock) (free : pool.owner = none) :
      WorkerStep pool worker { pool.moveTo worker .loopTest with
        owner := some worker
        owns := Function.update pool.owns worker true }
  | enter (place : pool.workers worker = .loopTest) (running : pool.running = true) :
      WorkerStep pool worker (pool.moveTo worker .waitTest)
  | ends (place : pool.workers worker = .loopTest) (stopped : pool.running = false) :
      WorkerStep pool worker (pool.leave worker)
  | proceed (place : pool.workers worker = .waitTest)
      (ready : pool.tasks ≠ [] ∨ pool.running = false) :
      WorkerStep pool worker (pool.moveTo worker .breakTest)
  | waits (place : pool.workers worker = .waitTest) (tasks : pool.tasks = [])
      (running : pool.running = true) : WorkerStep pool worker (pool.moveTo worker .park)
  | park (place : pool.workers worker = .park) :
      WorkerStep pool worker { pool.moveTo worker .parked with owner := none }
  | notified (place : pool.workers worker = .notified) (free : pool.owner = none) :
      WorkerStep pool worker { pool.moveTo worker .waitTest with owner := some worker }
  | goesOn (place : pool.workers worker = .breakTest) (running : pool.running = true) :
      WorkerStep pool worker (pool.moveTo worker .front)
  | breaks (place : pool.workers worker = .breakTest) (stopped : pool.running = false) :
      WorkerStep pool worker (pool.leave worker)
  | frontEmpty (place : pool.workers worker = .front) (tasks : pool.tasks = []) :
      WorkerStep pool worker (pool.fail .frontOfEmpty)
  | front {task : Option Task} {rest : List (Option Task)} (place : pool.workers worker = .front)
      (tasks : pool.tasks = task :: rest) :
      WorkerStep pool worker { pool.moveTo worker (.pop task) with
        tasks := none :: rest
        taken := pool.taken ++ [(worker, task)] }
  | popEmpty {task : Option Task} (place : pool.workers worker = .pop task)
      (tasks : pool.tasks = []) : WorkerStep pool worker (pool.fail .popOfEmpty)
  | pop {task first : Option Task} {rest : List (Option Task)}
      (place : pool.workers worker = .pop task) (tasks : pool.tasks = first :: rest) :
      WorkerStep pool worker { pool.moveTo worker (.unlock task) with tasks := rest }
  | unlock {task : Option Task} (place : pool.workers worker = .unlock task)
      (owned : pool.owns worker = true) :
      WorkerStep pool worker { pool.moveTo worker (.call task) with
        owner := none
        owns := Function.update pool.owns worker false }
  | unlockUnowned {task : Option Task} (place : pool.workers worker = .unlock task)
      (notOwned : pool.owns worker = false) :
      WorkerStep pool worker (pool.fail .unlockWithoutLock)
  | call {task : Task} (place : pool.workers worker = .call (some task)) :
      WorkerStep pool worker (pool.moveTo worker (.inTask task))
  | badCall (place : pool.workers worker = .call none) :
      WorkerStep pool worker (pool.fail .badFunctionCall)

theorem workerStep_of_workerLoop (steps : pool.workerLoop worker = some next) :
    WorkerStep pool worker next := by
  unfold workerLoop at steps
  cases place : pool.workers worker with
  | parked | inTask | exited =>
      rw [place] at steps
      cases steps
  | lock =>
      rw [place] at steps
      dsimp only at steps
      split at steps
      next free =>
        cases steps
        exact .lock place free
      · cases steps
  | loopTest =>
      rw [place] at steps
      dsimp only at steps
      split at steps
      next running =>
        cases steps
        exact .enter place running
      next stopped =>
        cases steps
        exact .ends place (eq_false_of_ne_true stopped)
  | waitTest =>
      rw [place] at steps
      dsimp only at steps
      split at steps
      next ready =>
        cases steps
        exact .proceed place ready
      next waits =>
        cases steps
        obtain ⟨tasks, running⟩ : pool.tasks = [] ∧ pool.running = true := by
          simpa using waits
        exact .waits place tasks running
  | park =>
      rw [place] at steps
      cases steps
      exact .park place
  | notified =>
      rw [place] at steps
      dsimp only at steps
      split at steps
      next free =>
        cases steps
        exact .notified place free
      · cases steps
  | breakTest =>
      rw [place] at steps
      dsimp only at steps
      split at steps
      next running =>
        cases steps
        exact .goesOn place running
      next stopped =>
        cases steps
        exact .breaks place (eq_false_of_ne_true stopped)
  | front =>
      rw [place] at steps
      dsimp only at steps
      split at steps
      next tasks =>
        cases steps
        exact .frontEmpty place tasks
      next task rest tasks =>
        cases steps
        exact .front place tasks
  | pop task =>
      rw [place] at steps
      dsimp only at steps
      split at steps
      next tasks =>
        cases steps
        exact .popEmpty place tasks
      next first rest tasks =>
        cases steps
        exact .pop place tasks
  | unlock task =>
      rw [place] at steps
      dsimp only at steps
      split at steps
      next owned =>
        cases steps
        exact .unlock place owned
      next notOwned =>
        cases steps
        exact .unlockUnowned place (eq_false_of_ne_true notOwned)
  | call task =>
      rw [place] at steps
      cases task with
      | none =>
          cases steps
          exact .badCall place
      | some task =>
          cases steps
          exact .call place

/-- Everything that a step of the pool can do. -/
inductive PoolStep (pool : ThreadPool numWorkers Task) :
    PoolAction numWorkers Task → ThreadPool numWorkers Task → Prop where
  | assignTask {task : Task} (free : pool.owner = none) :
      PoolStep pool (.assignTask task) { pool with
        tasks := pool.tasks ++ [some task]
        assigned := pool.assigned ++ [task]
        notifications := pool.notifications + 1 }
  | notifyNone :
      PoolStep pool (.notifyOne none) { pool with notifications := pool.notifications - 1 }
  | notifyOne {worker : Fin numWorkers} (parked : pool.workers worker = .parked) :
      PoolStep pool (.notifyOne (some worker))
        { pool.moveTo worker .notified with notifications := pool.notifications - 1 }
  | wakeSpuriously {worker : Fin numWorkers} (parked : pool.workers worker = .parked) :
      PoolStep pool (.wakeSpuriously worker) (pool.moveTo worker .notified)
  | workerLoop {worker : Fin numWorkers} {next : ThreadPool numWorkers Task}
      (steps : WorkerStep pool worker next) : PoolStep pool (.workerLoop worker) next
  | taskReturns {worker : Fin numWorkers} {task : Task}
      (calls : pool.workers worker = .inTask task) :
      PoolStep pool (.taskReturns worker) { pool.moveTo worker .loopTest with
        returned := Function.update pool.returned worker true }
  | destroy : PoolStep pool .destroy { pool with running := false }
  | notifyAll : PoolStep pool .notifyAll { pool with
      workers := fun worker =>
        if (pool.workers worker).isParked then .notified else pool.workers worker }

theorem poolStep_of_step {action : PoolAction numWorkers Task}
    (stepTo : (threadPoolSystem numWorkers Task).step pool action = some next) :
    PoolStep pool action next := by
  have parkedOf {worker : Fin numWorkers} (parked : (pool.workers worker).isParked = true) :
      pool.workers worker = .parked := by
    cases place : pool.workers worker <;> simp_all [WorkerLoop.isParked]
  simp only [threadPoolSystem] at stepTo
  split at stepTo
  · cases stepTo
  cases action with
  | assignTask task =>
      dsimp only at stepTo
      split at stepTo
      next free =>
        cases stepTo
        exact .assignTask free
      · cases stepTo
  | notifyOne woken =>
      dsimp only at stepTo
      split at stepTo
      · cases woken with
        | none =>
            dsimp only at stepTo
            split at stepTo
            · cases stepTo
            · cases stepTo
              exact .notifyNone
        | some worker =>
            dsimp only at stepTo
            split at stepTo
            next parked =>
              cases stepTo
              exact .notifyOne (parkedOf parked)
            · cases stepTo
      · cases stepTo
  | wakeSpuriously worker =>
      dsimp only at stepTo
      split at stepTo
      next parked =>
        cases stepTo
        exact .wakeSpuriously (parkedOf parked)
      · cases stepTo
  | workerLoop worker => exact .workerLoop (workerStep_of_workerLoop stepTo)
  | taskReturns worker =>
      dsimp only at stepTo
      split at stepTo
      next task calls =>
        cases stepTo
        exact .taskReturns calls
      · cases stepTo
  | destroy =>
      dsimp only at stepTo
      split at stepTo
      · cases stepTo
        exact .destroy
      · cases stepTo
  | notifyAll =>
      dsimp only at stepTo
      split at stepTo
      · cases stepTo
      · cases stepTo
        exact .notifyAll

/-- A `unique_lock` owns the mutex from `lock` to `unlock`, unless a task of its worker
has returned. -/
structure Discipline (pool : ThreadPool numWorkers Task) : Prop where
  owns : ∀ worker, pool.owns worker = true ↔
    (pool.workers worker).isInside = true ∧ pool.returned worker = false
  returned : ∀ worker, pool.returned worker = true →
    (pool.workers worker).isInside = true ∨ pool.workers worker = .exited

namespace Discipline

theorem initial : Discipline ({} : ThreadPool numWorkers Task) where
  owns _ := by simp [WorkerLoop.isInside, WorkerLoop.isLocked]
  returned _ := nofun

theorem congr (discipline : Discipline pool) (owns : next.owns = pool.owns)
    (workers : next.workers = pool.workers) (returned : next.returned = pool.returned) :
    Discipline next := by
  constructor
  · rw [owns, workers, returned]
    exact discipline.owns
  · rw [workers, returned]
    exact discipline.returned

/-- One worker moves, and the lock of no other one changes. -/
theorem move (discipline : Discipline pool) (place : WorkerLoop Task)
    (workers : next.workers = Function.update pool.workers worker place)
    (others : ∀ other, other ≠ worker → next.owns other = pool.owns other ∧
      next.returned other = pool.returned other)
    (self : next.owns worker = true ↔
      place.isInside = true ∧ next.returned worker = false)
    (after : next.returned worker = true → place.isInside = true ∨ place = .exited) :
    Discipline next := by
  constructor
  · intro other
    by_cases same : other = worker
    · subst other
      rw [workers, Function.update_self]
      exact self
    · rw [workers, Function.update_of_ne same, (others other same).1, (others other same).2]
      exact discipline.owns other
  · intro other
    by_cases same : other = worker
    · subst other
      rw [workers, Function.update_self]
      exact after
    · rw [workers, Function.update_of_ne same, (others other same).2]
      exact discipline.returned other

/-- A worker moves, and its lock is as it was. -/
theorem stay (discipline : Discipline pool) {place : WorkerLoop Task}
    (same : place.isInside = (pool.workers worker).isInside)
    (goesOn : pool.workers worker ≠ .exited)
    (workers : next.workers = Function.update pool.workers worker place)
    (owns : next.owns = pool.owns) (returned : next.returned = pool.returned) :
    Discipline next := by
  apply discipline.move place workers
  · exact fun other _ => ⟨congrFun owns other, congrFun returned other⟩
  · rw [owns, returned, discipline.owns, same]
  · intro later
    rw [returned] at later
    exact Or.inl (same.trans ((discipline.returned worker later).resolve_right goesOn))

/-- A worker gives its lock up, if it owns it. -/
theorem give (discipline : Discipline pool) {place : WorkerLoop Task}
    (outside : place.isInside = false)
    (ends : pool.owns worker = true ∨ place = .exited)
    (workers : next.workers = Function.update pool.workers worker place)
    (owns : next.owns = Function.update pool.owns worker false)
    (returned : next.returned = pool.returned) : Discipline next := by
  apply discipline.move place workers
  · intro other different
    rw [owns]
    exact ⟨Function.update_of_ne different .., congrFun returned other⟩
  · simp [owns, outside]
  · intro later
    apply Or.inr (ends.resolve_left fun owned => ?_)
    rw [returned, ((discipline.owns worker).mp owned).2] at later
    cases later

theorem workerStep (discipline : Discipline pool) (steps : WorkerStep pool worker next) :
    Discipline next := by
  cases steps with
  | lock place free =>
      have fresh : pool.returned worker = false := by
        refine eq_false_of_ne_true fun returned => ?_
        have reached := discipline.returned worker returned
        rw [place] at reached
        rcases reached with reached | reached <;> cases reached
      apply discipline.move .loopTest rfl
      · exact fun other different => ⟨Function.update_of_ne different .., rfl⟩
      · simp [moveTo, fresh, WorkerLoop.isInside, WorkerLoop.isLocked]
      · exact fun _ => Or.inl rfl
  | ends | breaks => exact discipline.give rfl (Or.inr rfl) rfl rfl rfl
  | unlock place owned => exact discipline.give rfl (Or.inl owned) rfl rfl rfl
  | frontEmpty | popEmpty | unlockUnowned | badCall => exact discipline.congr rfl rfl rfl
  | enter place | proceed place | waits place | park place | notified place | goesOn place
  | front place | pop place | call place =>
      exact discipline.stay (by rw [place]; rfl) (by simp [place]) rfl rfl rfl

theorem wake (discipline : Discipline pool) (parked : pool.workers worker = .parked) :
    Discipline (pool.moveTo worker .notified) :=
  discipline.stay (by rw [parked]; rfl) (by simp [parked]) rfl rfl rfl

theorem taskReturns (discipline : Discipline pool) {task : Task}
    (calls : pool.workers worker = .inTask task) :
    Discipline { pool.moveTo worker .loopTest with
      returned := Function.update pool.returned worker true } := by
  have notOwned : pool.owns worker = false := by
    refine eq_false_of_ne_true fun owned => ?_
    have inside := ((discipline.owns worker).mp owned).1
    rw [calls] at inside
    cases inside
  apply discipline.move .loopTest rfl
  · exact fun other different => ⟨rfl, Function.update_of_ne different ..⟩
  · simp [moveTo, notOwned]
  · exact fun _ => Or.inl rfl

theorem notifyAll (discipline : Discipline pool) :
    Discipline { pool with
      workers := fun worker =>
        if (pool.workers worker).isParked then .notified else pool.workers worker } := by
  have inside (worker : Fin numWorkers) :
      (if (pool.workers worker).isParked then WorkerLoop.notified
        else pool.workers worker).isInside = (pool.workers worker).isInside := by
    cases pool.workers worker <;> rfl
  constructor
  · intro worker
    rw [inside]
    exact discipline.owns worker
  · intro worker returned
    rw [inside]
    apply (discipline.returned worker returned).imp_right
    intro exited
    simp [exited, WorkerLoop.isParked]

theorem step (discipline : Discipline pool) {action : PoolAction numWorkers Task}
    (stepTo : (threadPoolSystem numWorkers Task).step pool action = some next) :
    Discipline next := by
  cases poolStep_of_step stepTo with
  | assignTask | notifyNone | destroy => exact discipline.congr rfl rfl rfl
  | notifyOne parked => exact (discipline.wake parked).congr rfl rfl rfl
  | wakeSpuriously parked => exact discipline.wake parked
  | workerLoop steps => exact discipline.workerStep steps
  | taskReturns calls => exact discipline.taskReturns calls
  | notifyAll => exact discipline.notifyAll

end Discipline

/-- The mutex belongs to the one worker in the locked part of the loop. -/
def Exclusive (pool : ThreadPool numWorkers Task) : Prop :=
  ∀ worker, pool.owner = some worker ↔ (pool.workers worker).isLocked = true

namespace Exclusive

theorem congr (exclusive : Exclusive pool) (owner : next.owner = pool.owner)
    (workers : next.workers = pool.workers) : Exclusive next := by
  intro worker
  rw [owner, workers]
  exact exclusive worker

/-- A worker moves, and takes or gives the mutex with its place. -/
theorem move (exclusive : Exclusive pool) (place : WorkerLoop Task)
    (workers : next.workers = Function.update pool.workers worker place)
    (others : ∀ other, other ≠ worker →
      (next.owner = some other ↔ pool.owner = some other))
    (self : next.owner = some worker ↔ place.isLocked = true) : Exclusive next := by
  intro other
  by_cases same : other = worker
  · subst other
    rw [workers, Function.update_self]
    exact self
  · rw [workers, Function.update_of_ne same, others other same]
    exact exclusive other

theorem stay (exclusive : Exclusive pool) {place : WorkerLoop Task}
    (same : place.isLocked = (pool.workers worker).isLocked)
    (workers : next.workers = Function.update pool.workers worker place)
    (owner : next.owner = pool.owner) : Exclusive next := by
  apply exclusive.move place workers
  · intro other _
    rw [owner]
  · rw [owner, exclusive worker, same]

theorem take (exclusive : Exclusive pool) {place : WorkerLoop Task}
    (free : pool.owner = none) (locked : place.isLocked = true)
    (workers : next.workers = Function.update pool.workers worker place)
    (owner : next.owner = some worker) : Exclusive next := by
  apply exclusive.move place workers
  · intro other different
    simp [owner, free, Ne.symm different]
  · simp [owner, locked]

theorem give (exclusive : Exclusive pool) {place : WorkerLoop Task}
    (owned : (pool.workers worker).isLocked = true) (unlocked : place.isLocked = false)
    (workers : next.workers = Function.update pool.workers worker place)
    (owner : next.owner = none) : Exclusive next := by
  have owns := (exclusive worker).mpr owned
  apply exclusive.move place workers
  · intro other different
    simp [owner, owns, Ne.symm different]
  · simp [owner, unlocked]

theorem workerStep (exclusive : Exclusive pool) (discipline : Discipline pool)
    (fresh : ∀ worker, pool.returned worker = false) (steps : WorkerStep pool worker next) :
    Exclusive next := by
  have owns (locked : (pool.workers worker).isLocked = true) : pool.owns worker = true :=
    (discipline.owns worker).mpr ⟨WorkerLoop.isInside_of_isLocked locked, fresh worker⟩
  cases steps with
  | lock place free | notified place free => exact exclusive.take free rfl rfl rfl
  | enter place | proceed place | waits place | goesOn place | front place | pop place
  | call place => exact exclusive.stay (by rw [place]; rfl) rfl rfl
  | ends place | breaks place =>
      have locked : (pool.workers worker).isLocked = true := by
        rw [place]
        rfl
      exact exclusive.give locked rfl rfl (if_pos (owns locked))
  | park place | unlock place => exact exclusive.give (by rw [place]; rfl) rfl rfl rfl
  | frontEmpty | popEmpty | unlockUnowned | badCall => exact exclusive.congr rfl rfl

theorem wake (exclusive : Exclusive pool) (parked : pool.workers worker = .parked) :
    Exclusive (pool.moveTo worker .notified) :=
  exclusive.stay (by rw [parked]; rfl) rfl rfl

theorem notifyAll (exclusive : Exclusive pool) :
    Exclusive { pool with
      workers := fun worker =>
        if (pool.workers worker).isParked then .notified else pool.workers worker } := by
  intro worker
  have locked : (if (pool.workers worker).isParked then WorkerLoop.notified
      else pool.workers worker).isLocked = (pool.workers worker).isLocked := by
    cases pool.workers worker <;> rfl
  rw [locked]
  exact exclusive worker

theorem step (exclusive : Exclusive pool) (discipline : Discipline pool)
    (fresh : ∀ worker, pool.returned worker = false)
    (stillFresh : ∀ worker, next.returned worker = false)
    {action : PoolAction numWorkers Task}
    (stepTo : (threadPoolSystem numWorkers Task).step pool action = some next) :
    Exclusive next := by
  cases poolStep_of_step stepTo with
  | assignTask | notifyNone | destroy => exact exclusive.congr rfl rfl
  | notifyOne parked => exact (exclusive.wake parked).congr rfl rfl
  | wakeSpuriously parked => exact exclusive.wake parked
  | workerLoop steps => exact exclusive.workerStep discipline fresh steps
  | @taskReturns worker =>
      have returned := stillFresh worker
      simp at returned
  | notifyAll => exact exclusive.notifyAll

/-- At most one worker is in the locked part. -/
theorem locked_unique (exclusive : Exclusive pool) {other : Fin numWorkers}
    (first : (pool.workers worker).isLocked = true)
    (second : (pool.workers other).isLocked = true) : worker = other :=
  Option.some.inj (((exclusive worker).mpr first).symm.trans ((exclusive other).mpr second))

end Exclusive

/-- As long as no task has returned: what was taken, in its order, followed by
what is still queued is what was assigned, in its order. -/
structure Dispatch (pool : ThreadPool numWorkers Task) : Prop where
  safe : pool.fault = none
  log : pool.taken.map Prod.snd ++ pool.tasks.filter Option.isSome =
    pool.assigned.map some
  popping : ∀ worker task, pool.workers worker = .pop task →
    ∃ rest, pool.tasks = none :: rest ∧ ∀ other ∈ rest, other.isSome = true
  settled : (∀ worker task, pool.workers worker ≠ .pop task) →
    ∀ task ∈ pool.tasks, task.isSome = true
  nonempty : ∀ worker, pool.workers worker = .front ∨
    pool.workers worker = .breakTest ∧ pool.running = true → pool.tasks ≠ []
  carried : ∀ worker task, (pool.workers worker).task? = some task →
    task.isSome = true

namespace Dispatch

theorem initial : Dispatch ({} : ThreadPool numWorkers Task) where
  safe := rfl
  log := rfl
  popping _ _ := nofun
  settled _ _ := nofun
  nonempty _ := nofun
  carried _ _ := nofun

/-- A worker moves to a place other than `pop`, and the queue stays. -/
theorem move (dispatch : Dispatch pool) (place : WorkerLoop Task)
    (workers : next.workers = Function.update pool.workers worker place)
    (tasks : next.tasks = pool.tasks) (taken : next.taken = pool.taken)
    (assigned : next.assigned = pool.assigned) (fault : next.fault = pool.fault)
    (running : next.running = true → pool.running = true)
    (notPop : ∀ task, place ≠ .pop task)
    (wasNotPop : ∀ task, pool.workers worker ≠ .pop task)
    (nonempty : place = .front ∨ place = .breakTest ∧ next.running = true →
      pool.tasks ≠ [])
    (carried : ∀ task, place.task? = some task → task.isSome = true) :
    Dispatch next := by
  constructor
  case safe =>
    rw [fault]
    exact dispatch.safe
  case log =>
    rw [taken, tasks, assigned]
    exact dispatch.log
  case popping =>
    intro other task pops
    rw [workers, Function.update_apply] at pops
    split at pops
    · exact absurd pops (notPop task)
    · rw [tasks]
      exact dispatch.popping other task pops
  case settled =>
    intro none
    rw [tasks]
    apply dispatch.settled
    intro other task pops
    by_cases same : other = worker
    · subst other
      exact wasNotPop task pops
    · apply none other task
      rw [workers, Function.update_of_ne same]
      exact pops
  case nonempty =>
    intro other
    rw [workers, tasks, Function.update_apply]
    split
    · exact nonempty
    · rintro (front | ⟨breakTest, isRunning⟩)
      · exact dispatch.nonempty other (Or.inl front)
      · exact dispatch.nonempty other (Or.inr ⟨breakTest, running isRunning⟩)
  case carried =>
    intro other task
    rw [workers, Function.update_apply]
    split
    · exact carried task
    · exact dispatch.carried other task

/-- The owner at `front` takes the first task and leaves an empty function. -/
theorem front (dispatch : Dispatch pool) {task : Option Task} {rest : List (Option Task)}
    (tasks : pool.tasks = task :: rest)
    (full : ∀ other ∈ pool.tasks, other.isSome = true) :
    Dispatch { pool.moveTo worker (.pop task) with
      tasks := none :: rest
      taken := pool.taken ++ [(worker, task)] } := by
  rw [tasks] at full
  have isTask : task.isSome = true := full task (by simp)
  have restFull : ∀ other ∈ rest, other.isSome = true :=
    fun other member => full other (by simp [member])
  have log := dispatch.log
  rw [tasks, List.filter_cons_of_pos isTask] at log
  constructor
  case safe => exact dispatch.safe
  case log => simpa [moveTo] using log
  case popping =>
    intro other held _
    exact ⟨rest, rfl, restFull⟩
  case settled =>
    intro none
    exact absurd (Function.update_self _ _ _) (none worker task)
  case nonempty => exact fun _ _ => List.cons_ne_nil _ _
  case carried =>
    intro other held
    simp only [moveTo, Function.update_apply]
    split
    · intro same
      obtain rfl := Option.some.inj same
      exact isTask
    · exact dispatch.carried other held

/-- The owner at `pop` removes the empty function that it left. -/
theorem pop (dispatch : Dispatch pool) (exclusive : Exclusive pool) {task first : Option Task}
    {rest : List (Option Task)} (place : pool.workers worker = .pop task)
    (tasks : pool.tasks = first :: rest) :
    Dispatch { pool.moveTo worker (.unlock task) with tasks := rest } := by
  obtain ⟨others, sameTasks, full⟩ := dispatch.popping worker task place
  obtain ⟨rfl, rfl⟩ := List.cons.inj (tasks.symm.trans sameTasks)
  have locked : (pool.workers worker).isLocked = true := by
    rw [place]
    rfl
  have isTask := dispatch.carried worker task (by rw [place]; rfl)
  have log := dispatch.log
  rw [tasks] at log
  constructor
  case safe => exact dispatch.safe
  case log => simpa [moveTo] using log
  case popping =>
    intro other held pops
    simp only [moveTo, Function.update_apply] at pops
    split at pops
    · cases pops
    next different =>
      exact absurd (exclusive.locked_unique
        (show (pool.workers other).isLocked = true by rw [pops]; rfl) locked) different
  case settled => exact fun _ => full
  case nonempty =>
    intro other
    simp only [moveTo, Function.update_apply]
    split
    · rintro (front | ⟨breakTest, _⟩)
      · cases front
      · cases breakTest
    next different =>
      intro reads
      refine absurd (exclusive.locked_unique ?_ locked) different
      rcases reads with front | ⟨breakTest, _⟩
      · rw [front]
        rfl
      · rw [breakTest]
        rfl
  case carried =>
    intro other held
    simp only [moveTo, Function.update_apply]
    split
    · intro same
      obtain rfl := Option.some.inj same
      exact isTask
    · exact dispatch.carried other held

theorem workerStep (dispatch : Dispatch pool) (discipline : Discipline pool)
    (exclusive : Exclusive pool) (fresh : ∀ worker, pool.returned worker = false)
    (steps : WorkerStep pool worker next) : Dispatch next := by
  cases steps with
  | lock place =>
      exact dispatch.move .loopTest rfl rfl rfl rfl rfl id nofun (by simp [place]) (by simp)
        nofun
  | enter place | notified place =>
      exact dispatch.move .waitTest rfl rfl rfl rfl rfl id nofun (by simp [place]) (by simp)
        nofun
  | ends place | breaks place =>
      exact dispatch.move .exited rfl rfl rfl rfl rfl id nofun (by simp [place]) (by simp)
        nofun
  | proceed place ready =>
      refine dispatch.move .breakTest rfl rfl rfl rfl rfl id nofun (by simp [place]) ?_ nofun
      rintro (front | ⟨_, running⟩)
      · cases front
      · rcases ready with queued | stopped
        · exact queued
        · exact absurd (running.symm.trans stopped) (by decide)
  | waits place =>
      exact dispatch.move .park rfl rfl rfl rfl rfl id nofun (by simp [place]) (by simp) nofun
  | park place =>
      exact dispatch.move .parked rfl rfl rfl rfl rfl id nofun (by simp [place]) (by simp)
        nofun
  | goesOn place running =>
      exact dispatch.move .front rfl rfl rfl rfl rfl id nofun (by simp [place])
        (fun _ => dispatch.nonempty worker (Or.inr ⟨place, running⟩)) nofun
  | frontEmpty place tasks => exact absurd tasks (dispatch.nonempty worker (Or.inl place))
  | front place tasks =>
      -- Whoever is at `front` is the only one that could be at `pop`.
      apply dispatch.front tasks
      apply dispatch.settled
      intro other task pops
      have locked : (pool.workers worker).isLocked = true := by
        rw [place]
        rfl
      obtain rfl := exclusive.locked_unique locked
        (show (pool.workers other).isLocked = true by rw [pops]; rfl)
      exact nomatch place.symm.trans pops
  | @popEmpty task place tasks =>
      obtain ⟨rest, queued, _⟩ := dispatch.popping worker task place
      exact nomatch tasks.symm.trans queued
  | pop place tasks => exact dispatch.pop exclusive place tasks
  | @unlock task place =>
      exact dispatch.move (.call task) rfl rfl rfl rfl rfl id nofun (by simp [place]) (by simp)
        fun other same => dispatch.carried worker other (by rw [place]; exact same)
  | @call task place =>
      exact dispatch.move (.inTask task) rfl rfl rfl rfl rfl id nofun (by simp [place]) (by simp)
        fun other same => dispatch.carried worker other (by rw [place]; exact same)
  | unlockUnowned place notOwned =>
      have owns := (discipline.owns worker).mpr ⟨by rw [place]; rfl, fresh worker⟩
      exact nomatch owns.symm.trans notOwned
  | badCall place => exact nomatch dispatch.carried worker none (by rw [place]; rfl)

theorem wake (dispatch : Dispatch pool) (parked : pool.workers worker = .parked) :
    Dispatch (pool.moveTo worker .notified) :=
  dispatch.move .notified rfl rfl rfl rfl rfl id nofun (by simp [parked]) (by simp) nofun

/-- The invariant ignores the notifications and the returns. -/
theorem congr (dispatch : Dispatch pool) (workers : next.workers = pool.workers)
    (tasks : next.tasks = pool.tasks) (taken : next.taken = pool.taken)
    (assigned : next.assigned = pool.assigned) (fault : next.fault = pool.fault)
    (running : next.running = true → pool.running = true) : Dispatch next := by
  constructor
  case safe =>
    rw [fault]
    exact dispatch.safe
  case log =>
    rw [taken, tasks, assigned]
    exact dispatch.log
  case popping =>
    rw [workers, tasks]
    exact dispatch.popping
  case settled =>
    rw [workers, tasks]
    exact dispatch.settled
  case nonempty =>
    intro other
    rw [workers, tasks]
    rintro (front | ⟨breakTest, isRunning⟩)
    · exact dispatch.nonempty other (Or.inl front)
    · exact dispatch.nonempty other (Or.inr ⟨breakTest, running isRunning⟩)
  case carried =>
    rw [workers]
    exact dispatch.carried

theorem assignTask (dispatch : Dispatch pool) (exclusive : Exclusive pool)
    (free : pool.owner = none) (task : Task) :
    Dispatch { pool with
      tasks := pool.tasks ++ [some task]
      assigned := pool.assigned ++ [task]
      notifications := pool.notifications + 1 } := by
  have noPop (worker : Fin numWorkers) (held : Option Task) :
      pool.workers worker ≠ .pop held := by
    intro pops
    have owns := (exclusive worker).mpr (by rw [pops]; rfl)
    rw [free] at owns
    cases owns
  have full := dispatch.settled noPop
  constructor
  case safe => exact dispatch.safe
  case log =>
    rw [List.filter_append, ← List.append_assoc, dispatch.log]
    simp
  case popping =>
    intro worker held pops
    exact absurd pops (noPop worker held)
  case settled =>
    intro _ other member
    rcases List.mem_append.mp member with queued | new
    · exact full other queued
    · rw [List.mem_singleton.mp new]
      rfl
  case nonempty =>
    intro worker _
    simp
  case carried => exact dispatch.carried

theorem notifyAll (dispatch : Dispatch pool) :
    Dispatch { pool with
      workers := fun worker =>
        if (pool.workers worker).isParked then .notified else pool.workers worker } := by
  have keeps (worker : Fin numWorkers) (place : WorkerLoop Task)
      (notNotified : place ≠ .notified)
      (woken : (if (pool.workers worker).isParked then .notified else pool.workers worker) =
        place) : pool.workers worker = place := by
    split at woken
    · exact absurd woken.symm notNotified
    · exact woken
  constructor
  case safe => exact dispatch.safe
  case log => exact dispatch.log
  case popping =>
    intro worker task pops
    exact dispatch.popping worker task (keeps worker _ nofun pops)
  case settled =>
    intro none
    apply dispatch.settled
    intro worker task pops
    apply none worker task
    simp [pops, WorkerLoop.isParked]
  case nonempty =>
    rintro worker (front | ⟨breakTest, running⟩)
    · exact dispatch.nonempty worker (Or.inl (keeps worker _ nofun front))
    · exact dispatch.nonempty worker (Or.inr ⟨keeps worker _ nofun breakTest, running⟩)
  case carried =>
    intro worker task
    dsimp only
    split
    · exact nofun
    · exact dispatch.carried worker task

theorem step (dispatch : Dispatch pool) (discipline : Discipline pool)
    (exclusive : Exclusive pool) (fresh : ∀ worker, pool.returned worker = false)
    (stillFresh : ∀ worker, next.returned worker = false)
    {action : PoolAction numWorkers Task}
    (stepTo : (threadPoolSystem numWorkers Task).step pool action = some next) :
    Dispatch next := by
  cases poolStep_of_step stepTo with
  | assignTask free => exact dispatch.assignTask exclusive free _
  | notifyNone => exact dispatch.congr rfl rfl rfl rfl rfl id
  | notifyOne parked => exact (dispatch.wake parked).congr rfl rfl rfl rfl rfl id
  | wakeSpuriously parked => exact dispatch.wake parked
  | workerLoop steps => exact dispatch.workerStep discipline exclusive fresh steps
  | @taskReturns worker =>
      have returned := stillFresh worker
      simp at returned
  | destroy => exact dispatch.congr rfl rfl rfl rfl rfl nofun
  | notifyAll => exact dispatch.notifyAll

end Dispatch

theorem discipline_of_reachable
    (reaches : (threadPoolSystem numWorkers Task).Reachable pool) : Discipline pool := by
  refine reaches.invariant Discipline ?_ ?_
  · rintro pool rfl
    exact Discipline.initial
  · intro pool action next _ discipline _ stepTo
    exact discipline.step stepTo

/-- A return is never taken back. -/
theorem returned_step {action : PoolAction numWorkers Task}
    (stepTo : (threadPoolSystem numWorkers Task).step pool action = some next)
    (fresh : next.returned worker = false) : pool.returned worker = false := by
  cases poolStep_of_step stepTo with
  | workerLoop steps => cases steps <;> exact fresh
  | @taskReturns other =>
      by_cases same : worker = other
      · subst other
        simp at fresh
      · simpa [moveTo, same] using fresh
  | _ => exact fresh

/-- Until the first return the workers exclude each other, and take the tasks in order. -/
theorem dispatch_of_reachable
    (reaches : (threadPoolSystem numWorkers Task).Reachable pool)
    (fresh : ∀ worker, pool.returned worker = false) : Exclusive pool ∧ Dispatch pool := by
  refine reaches.invariant (fun pool => (∀ worker, pool.returned worker = false) →
    Exclusive pool ∧ Dispatch pool) ?_ ?_ fresh
  · rintro pool rfl _
    exact ⟨fun _ => by simp [WorkerLoop.isLocked], Dispatch.initial⟩
  · intro pool action next reaches both _ stepTo stillFresh
    have fresh (worker : Fin numWorkers) := returned_step stepTo (stillFresh worker)
    have discipline := discipline_of_reachable reaches
    obtain ⟨exclusive, dispatch⟩ := both fresh
    exact ⟨exclusive.step discipline fresh stillFresh stepTo,
      dispatch.step discipline exclusive fresh stillFresh stepTo⟩

end ThreadPool

open ThreadPool

/-- The lock discipline of every run, for any number of workers.  The lock of a worker
that is at the predicate, at the queue, at `wait` or at `unlock` owns the mutex exactly
when none of its tasks has returned, and after a return it never owns it again.  As long
as no task has returned, nothing has failed, a worker at one of these places has the
mutex for itself, and the tasks were taken in the order in which they were assigned, each
once. -/
theorem lock_discipline {numWorkers : Nat} {Task : Type}
    {pool : ThreadPool numWorkers Task}
    (reaches : (threadPoolSystem numWorkers Task).Reachable pool) :
    (∀ worker, (pool.workers worker).needsLock = true →
      (pool.owns worker = true ↔ pool.returned worker = false)) ∧
    (∀ worker, pool.returned worker = true → pool.owns worker = false) ∧
    ((∀ worker, pool.returned worker = false) → pool.fault = none ∧
      (∀ worker, (pool.workers worker).needsLock = true → pool.owner = some worker) ∧
      pool.taken.map Prod.snd ++ pool.tasks.filter Option.isSome =
        pool.assigned.map some) := by
  have discipline := discipline_of_reachable reaches
  refine ⟨?_, ?_, ?_⟩
  · intro worker needs
    rw [discipline.owns worker]
    simp [WorkerLoop.isInside_of_isLocked (WorkerLoop.isLocked_of_needsLock needs)]
  · intro worker returned
    refine eq_false_of_ne_true fun owned => ?_
    have fresh := ((discipline.owns worker).mp owned).2
    rw [returned] at fresh
    cases fresh
  · intro fresh
    obtain ⟨exclusive, dispatch⟩ := dispatch_of_reachable reaches fresh
    refine ⟨dispatch.safe, fun worker needs => ?_, dispatch.log⟩
    exact (exclusive worker).mpr (WorkerLoop.isLocked_of_needsLock needs)

/-- One worker takes the task that was assigned, and calls it. -/
def firstTask : List (PoolAction 1 Nat) :=
  [.assignTask 7, .workerLoop 0, .workerLoop 0, .workerLoop 0, .workerLoop 0,
    .workerLoop 0, .workerLoop 0, .workerLoop 0, .workerLoop 0]

/-- While the first task runs, it is exactly what has been taken. -/
theorem lock_discipline_first :
    ∃ pool : ThreadPool 1 Nat, pool.workers 0 = .inTask 7 ∧
      pool.taken.map Prod.snd ++ pool.tasks.filter Option.isSome =
        pool.assigned.map some := by
  have executes : ∃ pool, (threadPoolSystem 1 Nat).run {} firstTask = some pool ∧
      pool.workers 0 = .inTask 7 ∧ ∀ worker, pool.returned worker = false :=
    ⟨_, rfl, rfl, fun _ => rfl⟩
  obtain ⟨pool, executes, calls, fresh⟩ := executes
  have discipline := lock_discipline (TransitionSystem.reachable_of_run rfl executes)
  exact ⟨pool, calls, (discipline.2.2 fresh).2.2⟩

/-- After its first task the worker evaluates the predicate without the lock,
and when there is a second task, it calls `unlock` on a lock that it does not
own. -/
theorem lock_discipline_fails :
    (∃ pool, (threadPoolSystem 1 Nat).Reachable pool ∧ pool.running = true ∧
      (pool.workers 0).needsLock = true ∧ pool.owns 0 = false ∧ pool.owner ≠ some 0) ∧
    ∃ pool, (threadPoolSystem 1 Nat).Reachable pool ∧ pool.running = true ∧
      pool.fault = some .unlockWithoutLock := by
  constructor
  · have executes : ∃ pool, (threadPoolSystem 1 Nat).run {} (firstTask ++
        [.taskReturns 0, .workerLoop 0]) = some pool ∧ pool.running = true ∧
          (pool.workers 0).needsLock = true ∧ pool.owns 0 = false ∧ pool.owner = none :=
      ⟨_, rfl, rfl, rfl, rfl, rfl⟩
    obtain ⟨pool, executes, running, needs, notOwned, free⟩ := executes
    exact ⟨pool, TransitionSystem.reachable_of_run rfl executes, running, needs, notOwned,
      by simp [free]⟩
  · have executes : ∃ pool, (threadPoolSystem 1 Nat).run {} (firstTask ++
        [.taskReturns 0, .assignTask 8, .workerLoop 0, .workerLoop 0, .workerLoop 0,
          .workerLoop 0, .workerLoop 0, .workerLoop 0]) = some pool ∧
          pool.running = true ∧ pool.fault = some .unlockWithoutLock :=
      ⟨_, rfl, rfl, rfl⟩
    obtain ⟨pool, executes, running, fails⟩ := executes
    exact ⟨pool, TransitionSystem.reachable_of_run rfl executes, running, fails⟩

end HttpServer
