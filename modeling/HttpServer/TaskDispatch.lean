import HttpServer.Library.QueueAccount
import HttpServer.ThreadPool
import Mathlib.Data.Fintype.Card
import Mathlib.Data.List.ReduceOption

/-!
# The tasks that the thread pool begins

A worker begins a task after it has given the mutex back.  When the task has returned it goes
through the loop without the mutex: it may still take tasks out of the queue, but it cannot
begin one, because `unlock` ends the process there.  So a pool begins at most one task for
each worker, whatever is assigned to it, and some of what is assigned is lost.  What is taken
is taken once and in order; two workers that have taken their tasks may begin them in either
order.
-/

namespace HttpServer

/-- The task that is assigned with the step. -/
def PoolAction.assigned? {numWorkers : Nat} {Task : Type} :
    PoolAction numWorkers Task → Option Task
  | .assignTask task => some task
  | _ => none

/-- The task that is begun with the step, with the worker that begins it. -/
def begun {numWorkers : Nat} {Task : Type} :
    ThreadPool numWorkers Task × PoolAction numWorkers Task → List (Fin numWorkers × Task)
  | (pool, .workerLoop worker) =>
      match pool.workers worker with
      | .call (some task) => [(worker, task)]
      | _ => []
  | _ => []

namespace ThreadPool

variable {numWorkers : Nat} {Task : Type} {pool next : ThreadPool numWorkers Task}
  {worker other : Fin numWorkers} {action : PoolAction numWorkers Task}

theorem mem_begun {step : ThreadPool numWorkers Task × PoolAction numWorkers Task}
    {task : Task} : (worker, task) ∈ begun step ↔
      step.2 = .workerLoop worker ∧ step.1.workers worker = .call (some task) := by
  obtain ⟨pool, action⟩ := step
  constructor
  · intro member
    unfold begun at member
    split at member
    next pool self same =>
      split at member
      next held place =>
        obtain ⟨rfl, rfl⟩ := Prod.mk.inj (List.mem_singleton.mp member)
        obtain ⟨rfl, rfl⟩ := Prod.mk.inj same
        exact ⟨rfl, place⟩
      · cases member
    · cases member
  · rintro ⟨rfl, place⟩
    dsimp only at place
    simp [begun, place]

/-- The worker has begun a task. -/
def HasBegun (pool : ThreadPool numWorkers Task) (worker : Fin numWorkers) : Prop :=
  pool.returned worker = true ∨ ∃ task, pool.workers worker = .inTask task

theorem HasBegun.step (begins : HasBegun pool worker)
    (stepTo : (threadPoolSystem numWorkers Task).step pool action = some next) :
    HasBegun next worker := by
  rcases begins with returned | ⟨task, calls⟩
  · refine Or.inl (by_contra fun fresh => ?_)
    have before := returned_step stepTo (eq_false_of_ne_true fresh)
    exact absurd (before.symm.trans returned) (by decide)
  cases poolStep_of_step stepTo with
  | assignTask | notifyNone | destroy => exact Or.inr ⟨task, calls⟩
  | @notifyOne other parked | @wakeSpuriously other parked =>
      have apart : worker ≠ other := by
        rintro rfl
        cases parked.symm.trans calls
      exact Or.inr ⟨task, (Function.update_of_ne apart ..).trans calls⟩
  | notifyAll =>
      refine Or.inr ⟨task, ?_⟩
      simp [calls, WorkerLoop.isParked]
  | @taskReturns other =>
      by_cases same : worker = other
      · rw [same]
        exact Or.inl (Function.update_self ..)
      · exact Or.inr ⟨task, (Function.update_of_ne same ..).trans calls⟩
  | @workerLoop other next steps =>
      have apart {place : WorkerLoop Task} (stands : pool.workers other = place)
          (different : ∀ task, place ≠ .inTask task) : worker ≠ other := by
        rintro rfl
        exact different task (stands.symm.trans calls)
      cases steps with
      | frontEmpty | popEmpty | unlockUnowned | badCall => exact Or.inr ⟨task, calls⟩
      | lock place | enter place | ends place | proceed place | waits place | park place
      | notified place | goesOn place | breaks place | front place | pop place
      | unlock place | call place =>
          refine Or.inr ⟨task, (Function.update_of_ne (apart place ?_) ..).trans calls⟩
          intro task same
          cases same

/-- A worker that begins a task has begun none before, and has begun one then. -/
theorem hasBegun_of_mem_begun {task : Task}
    (reaches : (threadPoolSystem numWorkers Task).Reachable pool)
    (stepTo : (threadPoolSystem numWorkers Task).step pool action = some next)
    (begins : (worker, task) ∈ begun (pool, action)) :
    ¬ HasBegun pool worker ∧ HasBegun next worker := by
  obtain ⟨rfl, place⟩ := mem_begun.mp begins
  constructor
  · rintro (returned | ⟨_, calls⟩)
    · -- Whose task has returned is never again outside of the locked part.
      have reached := (discipline_of_reachable reaches).returned worker returned
      rw [place] at reached
      rcases reached with reached | reached <;> cases reached
    · cases place.symm.trans calls
  · cases poolStep_of_step stepTo with
    | workerLoop steps =>
        cases steps with
        | @call called => exact Or.inr ⟨called, Function.update_self ..⟩
        | lock other | enter other | ends other | proceed other | waits other | park other
        | notified other | goesOn other | breaks other | front other | pop other
        | unlock other | frontEmpty other | popEmpty other | unlockUnowned other
        | badCall other => cases place.symm.trans other

/-- The tasks that a run begins, with the workers that begin them. -/
def tasksBegun (actions : List (PoolAction numWorkers Task)) : List (Fin numWorkers × Task) :=
  ((threadPoolSystem numWorkers Task).trace {} actions).flatMap begun

theorem tasksBegun_concat {actions : List (PoolAction numWorkers Task)}
    (steps : (threadPoolSystem numWorkers Task).Steps {} actions pool) :
    tasksBegun (actions ++ [action]) = tasksBegun actions ++ begun (pool, action) := by
  rw [tasksBegun, steps.trace_concat, List.flatMap_append, List.flatMap_singleton]
  rfl

/-- A step begins one task at most. -/
theorem begun_cases (step : ThreadPool numWorkers Task × PoolAction numWorkers Task) :
    begun step = [] ∨ ∃ worker task, begun step = [(worker, task)] := by
  obtain ⟨pool, action⟩ := step
  unfold begun
  split
  · split
    · exact Or.inr ⟨_, _, rfl⟩
    · exact Or.inl rfl
  · exact Or.inl rfl

/-- Those that have begun a task are all different. -/
theorem begins_once {actions : List (PoolAction numWorkers Task)}
    (steps : (threadPoolSystem numWorkers Task).Steps {} actions pool) :
    ((tasksBegun actions).map Prod.fst).Nodup ∧
      ∀ worker ∈ (tasksBegun actions).map Prod.fst, HasBegun pool worker := by
  refine steps.invariant (fun actions pool => ((tasksBegun actions).map Prod.fst).Nodup ∧
    ∀ worker ∈ (tasksBegun actions).map Prod.fst, HasBegun pool worker) ?_ ?_
  · exact ⟨List.nodup_nil, fun _ => nofun⟩
  intro actions pool action next before ⟨different, begins⟩ _ stepTo
  have still : ∀ worker ∈ (tasksBegun actions).map Prod.fst, HasBegun next worker :=
    fun worker member => (begins worker member).step stepTo
  rw [tasksBegun_concat before]
  rcases begun_cases (pool, action) with none | ⟨worker, task, one⟩
  · rw [none, List.append_nil]
    exact ⟨different, still⟩
  · have new := hasBegun_of_mem_begun ⟨{}, actions, rfl, before⟩ stepTo
      (one ▸ List.mem_singleton_self _)
    rw [one, List.map_append, List.map_singleton]
    constructor
    · rw [← List.concat_eq_append]
      exact List.Nodup.concat (fun member => new.1 (begins worker member)) different
    · simp only [List.mem_append, List.mem_singleton]
      rintro other (old | rfl)
      · exact still other old
      · exact new.2

/-- What a worker holds was taken by it, and what has been taken stays so. -/
structure Holds (pool next : ThreadPool numWorkers Task) : Prop where
  stays : pool.taken <+: next.taken
  held : ∀ worker task, (next.workers worker).task? = some task →
    (pool.workers worker).task? = some task ∨ (worker, task) ∈ next.taken

theorem Holds.move {place : WorkerLoop Task} (taken : next.taken = pool.taken)
    (workers : next.workers = Function.update pool.workers worker place)
    (same : ∀ task, place.task? = some task → (pool.workers worker).task? = some task) :
    Holds pool next where
  stays := by rw [taken]
  held other task held := by
    rw [workers, Function.update_apply] at held
    split at held
    next self => exact Or.inl (self ▸ same task held)
    · exact Or.inl held

/-- A worker that moves to a place without a task. -/
theorem Holds.moveEmpty {place : WorkerLoop Task} (taken : next.taken = pool.taken)
    (workers : next.workers = Function.update pool.workers worker place)
    (empty : place.task? = none) : Holds pool next :=
  .move taken workers fun task holds =>
    absurd (holds.symm.trans empty) (Option.some_ne_none task)

theorem holds_workerStep (steps : WorkerStep pool worker next) : Holds pool next := by
  cases steps with
  | @front task rest place tasks =>
      refine ⟨List.prefix_append _ _, fun other held holds => ?_⟩
      simp only [moveTo, Function.update_apply] at holds
      split at holds
      next self =>
        obtain rfl := Option.some.inj holds
        exact Or.inr (by simp [self])
      · exact Or.inl holds
  | frontEmpty | popEmpty | unlockUnowned | badCall =>
      exact ⟨List.prefix_refl _, fun _ _ => Or.inl⟩
  | pop place | unlock place | call place =>
      exact .move rfl rfl fun task same => by rw [place]; exact same
  | lock | enter | ends | proceed | waits | park | notified | goesOn | breaks =>
      exact .moveEmpty rfl rfl rfl

theorem holds_step
    (stepTo : (threadPoolSystem numWorkers Task).step pool action = some next) :
    Holds pool next := by
  cases poolStep_of_step stepTo with
  | assignTask | notifyNone | destroy => exact ⟨List.prefix_refl _, fun _ _ => Or.inl⟩
  | notifyOne | wakeSpuriously | taskReturns => exact .moveEmpty rfl rfl rfl
  | workerLoop steps => exact holds_workerStep steps
  | notifyAll =>
      refine ⟨List.prefix_refl _, fun worker task held => ?_⟩
      dsimp only at held
      split at held
      · cases held
      · exact Or.inl held

/-- Whatever task a worker holds was taken by it. -/
theorem held_mem_taken (reaches : (threadPoolSystem numWorkers Task).Reachable pool) :
    ∀ worker task, (pool.workers worker).task? = some task → (worker, task) ∈ pool.taken := by
  refine reaches.invariant (fun pool => ∀ worker task,
    (pool.workers worker).task? = some task → (worker, task) ∈ pool.taken) ?_ ?_
  · rintro pool rfl worker task held
    cases held
  · intro pool action next _ taken _ stepTo worker task held
    obtain ⟨stays, holds⟩ := holds_step stepTo
    exact (holds worker task held).elim (fun before => stays.subset (taken worker task before)) id

/-- What is begun was taken by the worker that begins it. -/
theorem begun_mem_taken {actions : List (PoolAction numWorkers Task)}
    (steps : (threadPoolSystem numWorkers Task).Steps {} actions pool) :
    ∀ begins ∈ tasksBegun actions, (begins.1, some begins.2) ∈ pool.taken := by
  refine steps.invariant (fun actions pool =>
    ∀ begins ∈ tasksBegun actions, (begins.1, some begins.2) ∈ pool.taken) ?_ ?_
  · exact fun _ => nofun
  · intro actions pool action next before taken _ stepTo begins member
    have stays := (holds_step stepTo).stays
    rw [tasksBegun_concat before] at member
    rcases List.mem_append.mp member with old | new
    · exact stays.subset (taken begins old)
    · have place := (mem_begun.mp new).2
      apply stays.subset (held_mem_taken ⟨{}, actions, rfl, before⟩ begins.1 _ ?_)
      rw [place]
      rfl

/-- Without the mutex tasks may be popped that nobody has taken. -/
theorem lossy_step (stepTo : (threadPoolSystem numWorkers Task).step pool action = some next) :
    ∃ took, next.taken = pool.taken ++ took ∧
      LossyStep pool.tasks.reduceOption (took.map Prod.snd).reduceOption
        action.assigned?.toList next.tasks.reduceOption := by
  have nothing (taken : next.taken = pool.taken)
      (remains : next.tasks.reduceOption.Sublist pool.tasks.reduceOption)
      (none : action.assigned? = none) : ∃ took, next.taken = pool.taken ++ took ∧
        LossyStep pool.tasks.reduceOption (took.map Prod.snd).reduceOption
          action.assigned?.toList next.tasks.reduceOption := by
    rw [none, taken]
    exact ⟨[], (List.append_nil _).symm, .drops remains⟩
  cases poolStep_of_step stepTo with
  | @assignTask task =>
      refine ⟨[], (List.append_nil _).symm, ?_⟩
      rw [LossyStep, List.reduceOption_append]
      exact List.Sublist.refl _
  | notifyNone | notifyOne | wakeSpuriously | taskReturns | destroy | notifyAll =>
      exact nothing rfl (List.Sublist.refl _) rfl
  | @workerLoop worker next steps =>
      cases steps with
      | @front task rest place tasks =>
          refine ⟨[(worker, task)], rfl, ?_⟩
          have queued : pool.tasks.reduceOption = task.toList ++ rest.reduceOption := by
            rw [tasks]
            cases task <;> rfl
          have took : (List.map Prod.snd [(worker, task)]).reduceOption = task.toList := by
            cases task <;> rfl
          rw [LossyStep, queued, took]
          exact List.sublist_append_left ..
      | @pop task first rest place tasks =>
          refine nothing rfl ?_ rfl
          rw [tasks]
          exact (List.sublist_cons_self first rest).filterMap id
      | _ => exact nothing rfl (List.Sublist.refl _) rfl

/-- What has been taken, followed by what is queued, is some of what was assigned. -/
theorem taken_sublist {actions : List (PoolAction numWorkers Task)}
    (steps : (threadPoolSystem numWorkers Task).Steps {} actions pool) :
    ((pool.taken.map Prod.snd).reduceOption ++ pool.tasks.reduceOption).Sublist
      (actions.filterMap PoolAction.assigned?) := by
  refine steps.invariant (fun actions pool =>
    ((pool.taken.map Prod.snd).reduceOption ++ pool.tasks.reduceOption).Sublist
      (actions.filterMap PoolAction.assigned?)) ?_ ?_
  · exact List.nil_sublist _
  · intro actions pool action next _ account _ stepTo
    obtain ⟨took, taken, lossy⟩ := lossy_step stepTo
    rw [taken, List.map_append, List.reduceOption_append, List.filterMap_append,
      List.filterMap_eq_flatMap_toList _ [action], List.flatMap_singleton]
    exact lossy.account account

end ThreadPool

open ThreadPool

/-- In every run of the pool each worker begins one task at most, which it has taken from the
queue, and the tasks that are taken are taken once and in the order in which they were
assigned, whatever is lost of them. -/
theorem tasks_begun_once {numWorkers : Nat} {Task : Type}
    {actions : List (PoolAction numWorkers Task)} {pool : ThreadPool numWorkers Task}
    (steps : (threadPoolSystem numWorkers Task).Steps {} actions pool) :
    ((tasksBegun actions).map Prod.fst).Nodup ∧ (tasksBegun actions).length ≤ numWorkers ∧
      ((tasksBegun actions).map fun begins => (begins.1, some begins.2)).Subperm pool.taken ∧
      (pool.taken.map Prod.snd).reduceOption.Sublist
        (actions.filterMap PoolAction.assigned?) := by
  have once := (begins_once steps).1
  refine ⟨once, ?_, ?_, (List.sublist_append_left ..).trans (taken_sublist steps)⟩
  · simpa using once.length_le_card
  · apply List.subperm_of_subset
    · exact once.of_map.map fun _ _ same => by simpa [Prod.ext_iff] using same
    · intro member taken
      obtain ⟨begins, member, rfl⟩ := List.mem_map.mp taken
      exact begun_mem_taken steps begins member

/-- The one worker has done its first task when the second is assigned. -/
def secondTask : List (PoolAction 1 Nat) :=
  firstTask ++ [.taskReturns (Fin.last 0), .assignTask 8] ++
    List.replicate 5 (.workerLoop (Fin.last 0))

theorem tasks_begun_once_secondTask :
    ∃ pool, (threadPoolSystem 1 Nat).Steps {} secondTask pool ∧
      secondTask.filterMap PoolAction.assigned? = [7, 8] ∧ tasksBegun secondTask = [(0, 7)] ∧
      pool.taken = [(0, some 7), (0, some 8)] ∧
      (pool.taken.map Prod.snd).reduceOption.Sublist
        (secondTask.filterMap PoolAction.assigned?) := by
  have steps : (threadPoolSystem 1 Nat).Steps {} secondTask _ :=
    TransitionSystem.runWhere_eq_some_iff.mp rfl
  exact ⟨_, steps, rfl, rfl, rfl, (tasks_begun_once steps).2.2.2⟩

end HttpServer
