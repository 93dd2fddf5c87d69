import HttpServer.NetworkShutdown
import HttpServer.SerializedCalls

/-!
# How long a client waits

While the manager is not killed, the network thread never leaves its loop again, and each
tick takes up to `maxFunctionsPerSession` functions from the front of the queue.  A client
that waits for its promise therefore waits for a number of statements of the network thread
that only depends on how many functions were in the queue before its own.  What the other
threads do meanwhile, and how much they push, makes no difference.  Until then the network
thread is not asleep, and can go on as long as the functions that it runs return.
-/

namespace HttpServer

open NetworkManager Replay

namespace NetworkThread

variable {Core Value : Type}

/-- The thread is in the inner loop of `run`, or in a tick. -/
def isLooping : NetworkThread Core Value → Bool
  | busyTest | runningTest | pollFunctionCalls _ | call _ _ | pollConnectionChanges | mapTest
  | queueTest | clearBusy => true
  | _ => false

/-- How many statements the thread makes at most before it next begins a tick, when it is in
none or has ended its session. -/
def untilTick : NetworkThread Core Value → Nat
  | none | lock => 6
  | outerTest | notified | parked | pollConnectionChanges => 5
  | waitTest | mapTest => 4
  | breakTest | queueTest | clearBusy => 3
  | busyTest => 2
  | runningTest => 1
  | pollFunctionCalls _ | call _ _ | exited => 0

/-- How many statements the thread makes at most from the beginning of a tick until it has
run the function that has `position` functions before it. -/
def statementsFor (position : Nat) : Nat :=
  46 * (position / maxFunctionsPerSession) + 2 * (position % maxFunctionsPerSession) + 2

/-- The same from any place on. -/
def statementsLeft (position : Nat) : NetworkThread Core Value → Nat
  | pollFunctionCalls counter => statementsFor (position + counter) - 2 * counter
  | call counter _ => statementsFor (position + counter + 1) - (2 * counter + 1)
  | place => place.untilTick + statementsFor position

/-- How many ticks the thread begins at most until it has run this function. -/
def ticksLeft (position : Nat) : NetworkThread Core Value → Nat
  | pollFunctionCalls counter => (position + counter) / maxFunctionsPerSession
  | call counter _ => (position + counter + 1) / maxFunctionsPerSession
  | _ => position / maxFunctionsPerSession + 1

/-- A session runs no more functions than it may. -/
def isInSession : NetworkThread Core Value → Bool
  | pollFunctionCalls counter => counter ≤ maxFunctionsPerSession
  | call counter _ => counter < maxFunctionsPerSession
  | _ => true

end NetworkThread

section Waiting

variable {Core Interface Value : Type}

/-- The thread that carries out `init` has set `m_running` and not started the network
thread. -/
def ControlThread.hasSetRunning : ControlThread Core Interface → Bool
  | setInitialized | startThread => true
  | _ => false

/-- The network thread has not stopped, and does not stop. -/
structure Serving (manager : NetworkManager Core Interface Value) : Prop where
  running : manager.thread ≠ .none → manager.running = true
  starting : manager.control.hasSetRunning = true → manager.running = true
  stays : manager.thread ≠ .exited
  session : manager.thread.isInSession = true

/-- A client is only in a call on a manager that has a network thread, or is about to. -/
structure Admitted (manager : NetworkManager Core Interface Value) : Prop where
  calm : manager.thread = .parked → manager.busy = false
  started : manager.initialized = true →
    manager.thread ≠ .none ∨ manager.control = .startThread
  calls : ∀ caller, (manager.callers caller).isAtRest = false → manager.initialized = true

/-- The network thread is in its loop, or does not go to sleep before it is. -/
def Awake (manager : NetworkManager Core Interface Value) : Prop :=
  manager.busy = true ∨ manager.thread.isLooping = true

/-- The function of the promise is run next, or is in the queue; `left` statements of the
network thread and no tick after `limit` are enough for it. -/
inductive Waiting (promise limit left : Nat) (manager : NetworkManager Core Interface Value) :
    Prop where
  | held {counter : Nat} {item : QueuedFunction Core Value}
      (place : manager.thread = .call counter item) (own : item.promise? = some promise)
      (statements : 1 ≤ left) (ticks : manager.ticks ≤ limit)
  | queued {before after : List (QueuedFunction Core Value)} {item : QueuedFunction Core Value}
      (queue : manager.functionCalls = before ++ item :: after)
      (own : item.promise? = some promise)
      (statements : manager.thread.statementsLeft before.length ≤ left)
      (ticks : manager.ticks + manager.thread.ticksLeft before.length ≤ limit)

/-- What is promised to the callers of the manager. -/
structure Owed (manager : NetworkManager Core Interface Value) : Prop where
  pending : ∀ promise < manager.promiseCount, (manager.promises promise).isSome = true ∨
    ∃ item ∈ manager.unfinished, item.promise? = some promise
  awaited : ∀ caller, ∀ promise ∈ (manager.callers caller).awaited,
    promise < manager.promiseCount
  awake : ∀ caller promise, manager.callers caller = .get promise → Awake manager

variable {manager next : NetworkManager Core Interface Value}
  {action : NetworkManagerAction Core Interface Value}

namespace Serving

theorem initial : Serving ({} : NetworkManager Core Interface Value) where
  running present := (present rfl).elim
  starting sets := by cases sets
  stays := by simp
  session := rfl

theorem run [INetworkManagerCore Core] {callbacks : Core → Except Fault Core}
    (serving : Serving manager) (runs : RunStep callbacks manager next) : Serving next := by
  have frame := runs.frame
  have running : manager.running = true := by
    refine serving.running fun absent => ?_
    have present := frame.isRunning
    rw [absent] at present
    cases present
  have session := serving.session
  refine ⟨fun _ => frame.running.trans running, fun _ => frame.running.trans running, ?_, ?_⟩
  · cases runs with
    | move place moves =>
        cases moves with
        | leave stopped | breaks stopped =>
            rw [running] at stopped
            cases stopped
        | _ => simp [moveTo]
    | _ => simp [beginTick, moveTo]
  · cases runs with
    | move place moves => cases moves <;> rfl
    | tick => rfl
    | pop place queue more => simpa [NetworkThread.isInSession] using more
    | call place =>
        rw [place] at session
        simpa [NetworkThread.isInSession, Nat.succ_le_iff] using session
    | callbacks | usedMap | clearBusy => rfl

/-- A step that leaves the thread at its place, or wakes it up. -/
theorem keep (serving : Serving manager)
    (thread : next.thread = manager.thread ∨ next.thread = manager.thread.wakeUp)
    (running : manager.running = true → next.running = true)
    (starting : next.control.hasSetRunning = true → next.running = true) : Serving next := by
  have stays := serving.stays
  have session := serving.session
  have present := serving.running
  rcases thread with thread | thread
  · exact ⟨fun here => running (present (thread ▸ here)), starting, thread ▸ stays,
      thread ▸ session⟩
  · refine ⟨fun here => running (present fun absent => here ?_), starting, ?_, ?_⟩
    · rw [thread, absent]
      rfl
    · rw [thread]
      cases place : manager.thread <;> simp_all [NetworkThread.wakeUp]
    · rw [thread]
      cases place : manager.thread <;> simp_all [NetworkThread.wakeUp, NetworkThread.isInSession]

theorem control {callbackSet : Bool} (serving : Serving manager)
    (alive : manager.control.isKill = false) (steps : ControlStep manager callbackSet next) :
    Serving next := by
  have starting := serving.starting
  cases steps with
  | clearRunning place | notifyAll place | join place | resetCore place
  | resetInterface place | clearInitialized place | clearFunctionCalls place =>
      rw [place] at alive
      cases alive
  | setInterface | setCore | setGlobalCallback | callbackFailed =>
      exact serving.keep (Or.inl rfl) id fun sets => by cases sets
  | setRunning => exact serving.keep (Or.inl rfl) (fun _ => rfl) fun _ => rfl
  | setInitialized place =>
      rw [place] at starting
      exact serving.keep (Or.inl rfl) id fun _ => starting rfl
  | startThread place =>
      rw [place] at starting
      exact ⟨fun _ => starting rfl, fun _ => starting rfl, by simp, rfl⟩

theorem step [INetworkManagerCore Core] (serving : Serving manager)
    (alive : manager.control.isKill = false) (notKilled : NotKilled manager action)
    (steps : (networkManagerSystem Core Interface Value).step manager action = some next) :
    Serving next := by
  have starting := serving.starting
  cases managerStep_of_step steps with
  | network runs => exact serving.run runs
  | wake parked =>
      have running := serving.running (by rw [parked]; simp)
      exact ⟨fun _ => running, fun _ => running, by simp [moveTo], rfl⟩
  | kill => exact notKilled.elim
  | control steps => exact serving.control alive steps
  | caller steps =>
      cases steps with
      | notify | notifyServed => exact serving.keep (Or.inr rfl) id starting
      | push | get | pushServed => exact serving.keep (Or.inl rfl) id starting
  | initRefused | init => exact serving.keep (Or.inl rfl) id fun sets => by cases sets
  | call | connectionServed | callRefused | servedRefused =>
      exact serving.keep (Or.inl rfl) id starting

end Serving

namespace Admitted

theorem initial : Admitted ({} : NetworkManager Core Interface Value) where
  calm parked := by cases parked
  started initialized := by cases initialized
  calls caller busy := by cases busy

theorem run [INetworkManagerCore Core] {callbacks : Core → Except Fault Core}
    (admitted : Admitted manager) (runs : RunStep callbacks manager next) : Admitted next := by
  have frame := runs.frame
  refine ⟨?_, fun _ => Or.inl frame.present, ?_⟩
  · cases runs with
    | move place moves =>
        cases moves with
        | park calm => exact fun _ => calm
        | _ => simp [moveTo]
    | _ => simp [beginTick, moveTo]
  · rw [frame.callers, frame.initialized]
    exact admitted.calls

theorem control {callbackSet : Bool} (admitted : Admitted manager)
    (alive : manager.control.isKill = false) (steps : ControlStep manager callbackSet next) :
    Admitted next := by
  have started := admitted.started
  cases steps with
  | clearRunning place | notifyAll place | join place | resetCore place
  | resetInterface place | clearInitialized place | clearFunctionCalls place =>
      rw [place] at alive
      cases alive
  | setInterface place | setCore place | setGlobalCallback place | callbackFailed place
  | setRunning place =>
      rw [place] at started
      exact ⟨admitted.calm, fun initialized => Or.inl ((started initialized).resolve_right nofun),
        admitted.calls⟩
  | setInitialized => exact ⟨admitted.calm, fun _ => Or.inr rfl, fun _ _ => rfl⟩
  | startThread => exact ⟨nofun, fun _ => Or.inl nofun, admitted.calls⟩

/-- A caller enters, or goes on in its call. -/
theorem setCaller (admitted : Admitted manager) {caller : Nat} {place : Caller Core Value}
    (initialized : place.isAtRest = false → manager.initialized = true) :
    Admitted (manager.setCaller caller place) := by
  refine ⟨admitted.calm, admitted.started, fun other busy => ?_⟩
  by_cases same : other = caller
  · subst other
    rw [setCaller_self] at busy
    exact initialized busy
  · rw [setCaller_of_ne same] at busy
    exact admitted.calls other busy

theorem congr (admitted : Admitted manager)
    (calm : next.thread = .parked → next.busy = false)
    (thread : manager.thread ≠ .none → next.thread ≠ .none)
    (control : next.control = manager.control)
    (initialized : next.initialized = manager.initialized)
    (callers : next.callers = manager.callers) : Admitted next := by
  refine ⟨calm, ?_, ?_⟩
  · rw [initialized, control]
    exact fun set => (admitted.started set).imp_left thread
  · rw [initialized, callers]
    exact admitted.calls

theorem callerStep {caller : Nat} (admitted : Admitted manager)
    (steps : CallerStep manager caller next) : Admitted next := by
  have goesOn (busy : (manager.callers caller).isAtRest = false) (place : Caller Core Value) :
      Admitted (manager.setCaller caller place) :=
    admitted.setCaller fun _ => admitted.calls caller busy
  have woken : manager.thread.wakeUp ≠ .parked := by
    cases manager.thread <;> simp [NetworkThread.wakeUp]
  have busy : (manager.callers caller).isAtRest = false := by
    cases steps with
    | push place | notify place | get place | notifyServed place | pushServed place =>
        rw [place]
        rfl
  cases steps with
  | push | pushServed => exact (goesOn busy _).congr admitted.calm id rfl rfl rfl
  | get => exact goesOn busy _
  | notify | notifyServed =>
      exact (goesOn busy _).congr (fun parked => (woken parked).elim)
        (mt wakeUp_eq_none_iff.mp) rfl rfl rfl

theorem step [INetworkManagerCore Core] (admitted : Admitted manager)
    (alive : manager.control.isKill = false) (notKilled : NotKilled manager action)
    (steps : (networkManagerSystem Core Interface Value).step manager action = some next) :
    Admitted next := by
  have started := admitted.started
  cases managerStep_of_step steps with
  | network runs => exact admitted.run runs
  | wake parked => exact ⟨nofun, fun _ => Or.inl nofun, admitted.calls⟩
  | kill => exact notKilled.elim
  | control steps => exact admitted.control alive steps
  | caller steps => exact admitted.callerStep steps
  | initRefused place | init place =>
      rw [place] at started
      exact ⟨admitted.calm, fun initialized => Or.inl ((started initialized).resolve_right nofun),
        admitted.calls⟩
  | call _ initialized | connectionServed _ initialized =>
      exact admitted.setCaller fun _ => initialized
  | callRefused | servedRefused => exact admitted.setCaller nofun

end Admitted

namespace Awake

/-- A thread that finds `m_Busy` set does not park, and one in its loop does not leave it. -/
theorem run [INetworkManagerCore Core] {callbacks : Core → Except Fault Core}
    (awake : Awake manager) (serving : Serving manager) (runs : RunStep callbacks manager next) :
    Awake next := by
  have running : manager.running = true := by
    refine serving.running fun absent => ?_
    have present := runs.frame.isRunning
    rw [absent] at present
    cases present
  cases runs with
  | move place moves =>
      cases moves with
      | leave stopped | breaks stopped | relock stopped =>
          rw [running] at stopped
          cases stopped
      | lock | enter | wakes | notified =>
          refine awake.imp_right fun loops => ?_
          rw [place] at loops
          cases loops
      | park calm =>
          rcases awake with busy | loops
          · rw [calm] at busy
            cases busy
          · rw [place] at loops
            cases loops
      | unlock | calm | drained | session | emptyMap | emptyQueue | queued => exact Or.inr rfl
  | tick | pop | call | callbacks | usedMap | clearBusy => exact Or.inr rfl

theorem step [INetworkManagerCore Core] (awake : Awake manager) (serving : Serving manager)
    (alive : manager.control.isKill = false) (cycle : LifeCycle manager)
    (notKilled : NotKilled manager action)
    (steps : (networkManagerSystem Core Interface Value).step manager action = some next) :
    Awake next := by
  have absent := cycle.noThread
  cases managerStep_of_step steps with
  | network runs => exact awake.run serving runs
  | wake parked =>
      refine awake.imp_right fun loops => ?_
      rw [parked] at loops
      cases loops
  | kill => exact notKilled.elim
  | control steps =>
      cases steps with
      | clearRunning place | notifyAll place | join place | resetCore place
      | resetInterface place | clearInitialized place | clearFunctionCalls place =>
          rw [place] at alive
          cases alive
      | startThread place =>
          rw [place] at absent
          refine awake.imp_right fun loops => ?_
          rw [absent rfl] at loops
          cases loops
      | _ => exact awake
  | caller steps =>
      cases steps with
      | notify | notifyServed => exact Or.inl rfl
      | push | get | pushServed => exact awake
  | _ => exact awake

end Awake

section Functions

variable {promise limit left : Nat} {before after : List (QueuedFunction Core Value)}
  {item : QueuedFunction Core Value}

/-- Its value is set, or it needs one statement of the network thread less. -/
def ComesCloser (promise limit left : Nat) (next : NetworkManager Core Interface Value) : Prop :=
  (next.promises promise).isSome = true ∨
    ∃ rest, Waiting promise limit rest next ∧ rest + 1 ≤ left

theorem comesCloser_queued (queue : next.functionCalls = before ++ item :: after)
    (own : item.promise? = some promise)
    (statements : next.thread.statementsLeft before.length + 1 ≤ left)
    (ticks : next.ticks + next.thread.ticksLeft before.length ≤ limit) :
    ComesCloser promise limit left next :=
  Or.inr ⟨left - 1, .queued queue own (Nat.le_sub_one_of_lt statements) ticks, by omega⟩

/-- The value of a promise is set when its function has run. -/
theorem isSome_of_run {core changed : Core} {value : Option Value}
    {promises : Nat → Option Value} (own : item.promise? = some promise)
    (runs : item.run core = .ok (value, changed)) :
    ((match item.promise? with
      | some promise => Function.update promises promise value
      | none => promises) promise).isSome = true := by
  cases item with
  | connectionServed served kills => cases own
  | funktion other func kills =>
      cases own
      obtain ⟨⟨result, last⟩, _, pair⟩ := map_eq_ok_iff.mp runs
      cases pair
      simp [QueuedFunction.promise?]

/-- A statement of the network thread, while the function is in the queue. -/
theorem comesCloser_run [INetworkManagerCore Core] {callbacks : Core → Except Fault Core}
    (awake : Awake manager) (serving : Serving manager)
    (queue : manager.functionCalls = before ++ item :: after)
    (own : item.promise? = some promise)
    (statements : manager.thread.statementsLeft before.length ≤ left)
    (ticks : manager.ticks + manager.thread.ticksLeft before.length ≤ limit)
    (runs : RunStep callbacks manager next) : ComesCloser promise limit left next := by
  have session := serving.session
  have running : manager.running = true := by
    refine serving.running fun absent => ?_
    have present := runs.frame.isRunning
    rw [absent] at present
    cases present
  cases runs with
  | move place moves =>
      rw [place] at statements ticks session
      cases moves with
      | leave stopped | breaks stopped | relock stopped =>
          rw [running] at stopped
          cases stopped
      | park calm =>
          rcases awake with busy | loops
          · rw [calm] at busy
            cases busy
          · rw [place] at loops
            cases loops
      | drained none | emptyQueue none =>
          rw [none] at queue
          simp at queue
      | @session counter enough =>
          have last : counter = maxFunctionsPerSession :=
            Nat.le_antisymm (by simpa [NetworkThread.isInSession] using session) enough
          subst last
          refine comesCloser_queued queue own ?_ ?_ <;>
            simp only [moveTo, NetworkThread.statementsLeft, NetworkThread.statementsFor,
              NetworkThread.ticksLeft, NetworkThread.untilTick, maxFunctionsPerSession]
              at statements ticks ⊢ <;> omega
      | _ =>
          refine comesCloser_queued queue own ?_ ?_ <;>
            simp only [moveTo, NetworkThread.statementsLeft, NetworkThread.ticksLeft,
              NetworkThread.untilTick] at statements ticks ⊢ <;> omega
  | tick place =>
      refine comesCloser_queued queue own ?_ ?_ <;>
        rcases place with ⟨place, -⟩ | ⟨place, -⟩ <;>
        simp only [place, beginTick, NetworkThread.statementsLeft, NetworkThread.ticksLeft,
          NetworkThread.untilTick, Nat.add_zero] at statements ticks ⊢ <;> omega
  | pop place queued more =>
      rw [place] at statements ticks
      rw [queued] at queue
      cases before with
      | nil =>
          obtain ⟨rfl, rfl⟩ := List.cons.inj queue
          refine Or.inr ⟨1, .held rfl own le_rfl (Nat.le_of_add_right_le ticks), ?_⟩
          simp only [NetworkThread.statementsLeft, NetworkThread.statementsFor,
            maxFunctionsPerSession, List.length_nil] at statements more
          omega
      | cons first before =>
          obtain ⟨rfl, rfl⟩ := List.cons.inj queue
          refine comesCloser_queued rfl own ?_ ?_ <;>
            simp only [NetworkThread.statementsLeft, NetworkThread.statementsFor,
              NetworkThread.ticksLeft, maxFunctionsPerSession, List.length_cons]
              at statements ticks more ⊢ <;> omega
  | @call counter _ _ _ _ place =>
      rw [place] at statements ticks session
      have more : counter < maxFunctionsPerSession := by
        simpa [NetworkThread.isInSession] using session
      refine comesCloser_queued queue own ?_ ?_ <;>
        simp only [NetworkThread.statementsLeft, NetworkThread.statementsFor,
          NetworkThread.ticksLeft, maxFunctionsPerSession, ← Nat.add_assoc]
          at statements ticks more ⊢ <;> omega
  | callbacks place | usedMap place | clearBusy place =>
      rw [place] at statements ticks
      refine comesCloser_queued queue own ?_ ?_ <;>
        simp only [moveTo, NetworkThread.statementsLeft, NetworkThread.ticksLeft,
          NetworkThread.untilTick] at statements ticks ⊢ <;> omega

/-- A step of another thread, or a call on the manager. -/
theorem Waiting.keep (waiting : Waiting promise limit left manager)
    (queue : ∃ pushed, next.functionCalls = manager.functionCalls ++ pushed)
    (thread : next.thread = manager.thread ∨ next.thread = manager.thread.wakeUp ∨
      manager.thread = .none ∧ next.thread = .lock)
    (ticks : next.ticks = manager.ticks) : Waiting promise limit left next := by
  obtain ⟨pushed, queue⟩ := queue
  cases waiting with
  | held place own statements begun =>
      have stays : next.thread = manager.thread := by
        rcases thread with thread | thread | ⟨absent, -⟩
        · exact thread
        · rw [thread, place]
          rfl
        · rw [absent] at place
          cases place
      exact .held (stays.trans place) own statements (ticks ▸ begun)
  | @queued before after item calls own statements begun =>
      have cheap : ∀ position,
          next.thread.statementsLeft position ≤ manager.thread.statementsLeft position ∧
            next.thread.ticksLeft position = manager.thread.ticksLeft position := by
        intro position
        rcases thread with thread | thread | ⟨absent, starts⟩
        · rw [thread]
          exact ⟨le_rfl, rfl⟩
        · rw [thread]
          cases manager.thread <;> exact ⟨le_rfl, rfl⟩
        · rw [absent, starts]
          exact ⟨le_rfl, rfl⟩
      have front : next.functionCalls = before ++ item :: (after ++ pushed) := by
        rw [queue, calls, List.append_assoc, List.cons_append]
      refine .queued front own (Nat.le_trans (cheap before.length).1 statements) ?_
      rw [ticks, (cheap before.length).2]
      exact begun

/-- A statement of the network thread. -/
theorem Waiting.run [INetworkManagerCore Core] {callbacks : Core → Except Fault Core}
    (waiting : Waiting promise limit left manager) (awake : Awake manager)
    (serving : Serving manager) (runs : RunStep callbacks manager next) :
    ComesCloser promise limit left next := by
  cases waiting with
  | queued queue own statements ticks =>
      exact comesCloser_run awake serving queue own statements ticks runs
  | held place own statements ticks =>
      cases runs with
      | call at_ installed runs =>
          rw [place] at at_
          cases at_
          exact Or.inl (isSome_of_run own runs)
      | move at_ moves =>
          obtain ⟨-, -, held, -⟩ := moves.isRunning
          rw [← at_, place] at held
          cases held
      | tick at_ =>
          rcases at_ with ⟨at_, -⟩ | ⟨at_, -⟩ <;> rw [place] at at_ <;> cases at_
      | pop at_ | callbacks at_ | usedMap at_ | clearBusy at_ =>
          rw [place] at at_
          cases at_

/-- A wait is never over before a last statement. -/
theorem Waiting.bounds (waiting : Waiting promise limit left manager) (serving : Serving manager) :
    1 ≤ left ∧ manager.ticks ≤ limit := by
  cases waiting with
  | held place own statements ticks => exact ⟨statements, ticks⟩
  | @queued before after item queue own statements ticks =>
      refine ⟨Nat.le_trans ?_ statements, Nat.le_of_add_right_le ticks⟩
      have session := serving.session
      cases place : manager.thread with
      | pollFunctionCalls counter | call counter =>
          rw [place] at session
          have more := of_decide_eq_true session
          simp only [NetworkThread.statementsLeft, NetworkThread.statementsFor,
            maxFunctionsPerSession] at more ⊢
          omega
      | _ =>
          simp only [NetworkThread.statementsLeft, NetworkThread.statementsFor]
          omega

theorem Waiting.step [INetworkManagerCore Core] (waiting : Waiting promise limit left manager)
    (awake : Awake manager) (serving : Serving manager)
    (alive : manager.control.isKill = false) (cycle : LifeCycle manager)
    (notKilled : NotKilled manager action)
    (steps : (networkManagerSystem Core Interface Value).step manager action = some next) :
    (next.promises promise).isSome = true ∨ ∃ rest, Waiting promise limit rest next ∧
      rest + (if action.isNetwork then 1 else 0) ≤ left := by
  have absent := cycle.noThread
  have quiet (kept : Waiting promise limit left next) : (next.promises promise).isSome = true ∨
      ∃ rest, Waiting promise limit rest next ∧ rest + 0 ≤ left := Or.inr ⟨left, kept, le_rfl⟩
  cases managerStep_of_step steps with
  | network runs => exact waiting.run awake serving runs
  | wake parked =>
      have wakes : NetworkThread.notified = manager.thread.wakeUp := by
        rw [parked]
        rfl
      exact quiet (waiting.keep ⟨[], (List.append_nil _).symm⟩ (Or.inr (Or.inl wakes)) rfl)
  | kill => exact notKilled.elim
  | control steps =>
      cases steps with
      | clearRunning place | notifyAll place | join place | resetCore place
      | resetInterface place | clearInitialized place | clearFunctionCalls place =>
          rw [place] at alive
          cases alive
      | startThread place =>
          rw [place] at absent
          exact quiet (waiting.keep ⟨[], (List.append_nil _).symm⟩
            (Or.inr (Or.inr ⟨absent rfl, rfl⟩)) rfl)
      | _ => exact quiet (waiting.keep ⟨[], (List.append_nil _).symm⟩ (Or.inl rfl) rfl)
  | caller steps =>
      cases steps with
      | push | pushServed => exact quiet (waiting.keep ⟨_, rfl⟩ (Or.inl rfl) rfl)
      | notify | notifyServed =>
          exact quiet (waiting.keep ⟨[], (List.append_nil _).symm⟩ (Or.inr (Or.inl rfl)) rfl)
      | get => exact quiet (waiting.keep ⟨[], (List.append_nil _).symm⟩ (Or.inl rfl) rfl)
  | _ => exact quiet (waiting.keep ⟨[], (List.append_nil _).symm⟩ (Or.inl rfl) rfl)

/-- A value that is set stays set. -/
theorem isSome_step [INetworkManagerCore Core]
    (set : (manager.promises promise).isSome = true)
    (steps : (networkManagerSystem Core Interface Value).step manager action = some next) :
    (next.promises promise).isSome = true := by
  cases managerStep_of_step steps with
  | network runs =>
      cases runs with
      | @call counter item core changed value place installed runs =>
          by_cases own : item.promise? = some promise
          · exact isSome_of_run own runs
          · dsimp only
            cases promised : item.promise? with
            | none => exact set
            | some other =>
                have different : promise ≠ other := fun same => own (same ▸ promised)
                exact (congrArg Option.isSome (Function.update_of_ne different ..)).trans set
      | _ => exact set
  | control steps => cases steps <;> exact set
  | caller steps => cases steps <;> exact set
  | _ => exact set

end Functions

namespace Owed

theorem initial : Owed ({} : NetworkManager Core Interface Value) where
  pending promise less := (Nat.not_lt_zero promise less).elim
  awaited _ promise member := by cases member
  awake _ _ place := by cases place

/-- The function that a step runs sets its promise. -/
theorem isSome_of_executed [INetworkManagerCore Core] {promise : Nat}
    {item : QueuedFunction Core Value}
    (runs : (coreEvent? (manager, action)).bind CoreEvent.function? = some item)
    (own : item.promise? = some promise)
    (steps : (networkManagerSystem Core Interface Value).step manager action = some next) :
    (next.promises promise).isSome = true := by
  obtain ⟨event, happens, function⟩ := Option.bind_eq_some_iff.mp runs
  cases managerStep_of_step steps with
  | network moves =>
      cases moves with
      | call place installed runs =>
          simp only [coreEvent?, place, Option.some.injEq] at happens
          subst happens
          cases function
          exact isSome_of_run own runs
      | callbacks place =>
          simp only [coreEvent?, place, Option.some.injEq] at happens
          subst happens
          cases function
      | move place moves =>
          rw [coreEvent?, place] at happens
          cases moves <;> cases happens
      | tick place =>
          rcases place with ⟨place, -⟩ | ⟨place, -⟩ <;> simp [coreEvent?, place] at happens
      | pop place | usedMap place | clearBusy place => simp [coreEvent?, place] at happens
  | _ => cases happens

/-- A promise whose function has run has its value, and the others stay in the queue. -/
theorem pending_step [INetworkManagerCore Core] (owed : Owed manager)
    (flow : CallFlow manager next action)
    (steps : (networkManagerSystem Core Interface Value).step manager action = some next) :
    ∀ promise < next.promiseCount, (next.promises promise).isSome = true ∨
      ∃ item ∈ next.unfinished, item.promise? = some promise := by
  intro promise less
  have pushed : promise < manager.promiseCount ∨
      ∃ item ∈ manager.unfinished ++ ((pushedCall? (manager, action)).map Prod.snd).toList,
        item.promise? = some promise := by
    have member := List.mem_range.mpr less
    rw [flow.promises] at member
    refine (List.mem_append.mp member).imp List.mem_range.mp fun new => ?_
    obtain ⟨⟨caller, item⟩, pushes, own⟩ :=
      Option.bind_eq_some_iff.mp (Option.mem_toList.mp new)
    refine ⟨item, List.mem_append_right _ ?_, own⟩
    rw [pushes]
    exact List.mem_singleton.mpr rfl
  have owes : (manager.promises promise).isSome = true ∨
      ∃ item ∈ manager.unfinished ++ ((pushedCall? (manager, action)).map Prod.snd).toList,
        item.promise? = some promise := by
    rcases pushed with before | new
    · apply (owed.pending promise before).imp_right
      rintro ⟨item, member, own⟩
      exact ⟨item, List.mem_append_left _ member, own⟩
    · exact Or.inr new
  rcases owes with set | ⟨item, member, own⟩
  · exact Or.inl (isSome_step set steps)
  · rw [← flow.queue] at member
    rcases List.mem_append.mp member with runs | waits
    · exact Or.inl (isSome_of_executed (Option.mem_toList.mp runs) own steps)
    · exact Or.inr ⟨item, waits, own⟩

theorem awaited_step [INetworkManagerCore Core] (owed : Owed manager)
    (flow : CallFlow manager next action) : ∀ caller, ∀ promise ∈ (next.callers caller).awaited,
    promise < next.promiseCount := by
  intro caller promise member
  have grows : ∀ before < manager.promiseCount, before < next.promiseCount := by
    intro before less
    rw [← List.mem_range, flow.promises]
    exact List.mem_append_left _ (List.mem_range.mpr less)
  have kept : promise ∈ (manager.callers caller).awaited ++
      ((pushedBy? caller (manager, action)).map Prod.fst).toList := by
    rw [← flow.returned caller]
    exact List.mem_append_right _ member
  rcases List.mem_append.mp kept with before | pushes
  · exact grows promise (owed.awaited caller promise before)
  · obtain ⟨⟨own, func⟩, pushed, rfl⟩ :=
      Option.map_eq_some_iff.mp (Option.mem_toList.mp pushes)
    obtain ⟨⟨other, item⟩, happens, function⟩ := Option.bind_eq_some_iff.mp pushed
    rw [← List.mem_range, flow.promises, happens]
    apply List.mem_append_right _
    dsimp only at function
    split at function
    · cases item with
      | connectionServed => cases function
      | funktion =>
          cases function
          exact List.mem_singleton.mpr rfl
    · cases function

/-- A caller that another statement has not brought to the promise was there before. -/
theorem get_of_setCaller {caller other promise : Nat} {reached : Caller Core Value}
    (elsewhere : reached ≠ .get promise)
    (place : (manager.setCaller other reached).callers caller = .get promise) :
    manager.callers caller = .get promise := by
  by_cases same : caller = other
  · subst caller
    rw [setCaller_self] at place
    exact (elsewhere place).elim
  · rwa [setCaller_of_ne same] at place

theorem awake_step [INetworkManagerCore Core] (owed : Owed manager) (serving : Serving manager)
    (cycle : LifeCycle manager) (alive : manager.control.isKill = false)
    (notKilled : NotKilled manager action)
    (steps : (networkManagerSystem Core Interface Value).step manager action = some next)
    (caller promise : Nat) (place : next.callers caller = .get promise) : Awake next := by
  have stays (before : manager.callers caller = .get promise) : Awake next :=
    (owed.awake caller promise before).step serving alive cycle notKilled steps
  cases managerStep_of_step steps with
  | network runs => exact stays (runs.frame.callers ▸ place)
  | control steps => exact stays (by cases steps <;> exact place)
  | wake | initRefused | init | kill => exact stays place
  | call | connectionServed | callRefused | servedRefused =>
      exact stays (get_of_setCaller (by simp) place)
  | caller steps =>
      cases steps with
      | notify | notifyServed => exact Or.inl rfl
      | push | get | pushServed => exact stays (get_of_setCaller (by simp) place)

theorem step [INetworkManagerCore Core] (owed : Owed manager) (serving : Serving manager)
    (cycle : LifeCycle manager) (alive : manager.control.isKill = false)
    (notKilled : NotKilled manager action)
    (steps : (networkManagerSystem Core Interface Value).step manager action = some next) :
    Owed next :=
  have flow := callFlow_of_step cycle alive steps
  ⟨owed.pending_step flow steps, owed.awaited_step flow,
    owed.awake_step serving cycle alive notKilled steps⟩

end Owed

/-- What holds of every run that is not killed. -/
theorem serving_of_steps [INetworkManagerCore Core]
    {actions : List (NetworkManagerAction Core Interface Value)}
    (steps : (networkManagerSystem Core Interface Value).StepsWhere NotKilled {} actions
      manager) :
    (LifeCycle manager ∧ manager.control.isKill = false) ∧ Serving manager ∧ Owed manager ∧
      Admitted manager := by
  refine steps.kept (fun manager => (LifeCycle manager ∧ manager.control.isKill = false) ∧
    Serving manager ∧ Owed manager ∧ Admitted manager)
    ⟨⟨.initial, rfl⟩, .initial, .initial, .initial⟩ ?_
  rintro manager action next ⟨⟨cycle, alive⟩, serving, owed, admitted⟩ notKilled moves
  exact ⟨⟨cycle.step moves, isKill_step alive notKilled moves⟩,
    serving.step alive notKilled moves, owed.step serving cycle alive notKilled moves,
    admitted.step alive notKilled moves⟩

/-- The network thread is awake for somebody who waits for it. -/
structure Working (manager : NetworkManager Core Interface Value) : Prop where
  cycle : LifeCycle manager
  alive : manager.control.isKill = false
  serving : Serving manager
  awake : Awake manager
  admitted : Admitted manager
  initialized : manager.initialized = true

namespace Working

theorem step [INetworkManagerCore Core] (working : Working manager)
    (notKilled : NotKilled manager action)
    (steps : (networkManagerSystem Core Interface Value).step manager action = some next) :
    Working next where
  cycle := working.cycle.step steps
  alive := isKill_step working.alive notKilled steps
  serving := working.serving.step working.alive notKilled steps
  awake := working.awake.step working.serving working.alive working.cycle notKilled steps
  admitted := working.admitted.step working.alive notKilled steps
  initialized := by
    have alive := working.alive
    have initialized := working.initialized
    cases managerStep_of_step steps with
    | network runs => exact runs.frame.initialized.trans initialized
    | control steps =>
        cases steps with
        | clearInitialized place =>
            rw [place] at alive
            cases alive
        | setInitialized => rfl
        | _ => exact initialized
    | caller steps => cases steps <;> exact initialized
    | _ => exact initialized

/-- It does not sleep, and can go on if its function returns, unless it is still to be
started. -/
theorem goesOn [INetworkManagerCore Core] (working : Working manager) :
    manager.thread ≠ .parked ∧
      (manager.CallReturns → manager.CanMove ∨ manager.control = .startThread) := by
  have unparked : manager.thread ≠ .parked := by
    intro parked
    rcases working.awake with busy | loops
    · exact nomatch (working.admitted.calm parked).symm.trans busy
    · rw [parked] at loops
      cases loops
  refine ⟨unparked, fun returns => ?_⟩
  have stays := working.serving.stays
  apply (working.admitted.started working.initialized).imp_left fun present => ?_
  refine canMove working.cycle ?_ ?_ returns <;>
    cases place : manager.thread <;> simp_all [NetworkThread.isRunning, NetworkThread.isParked]

end Working

/-- How many functions are in the queue before the one of the promise. -/
def functionsBefore (manager : NetworkManager Core Interface Value) (promise : Nat) : Nat :=
  manager.functionCalls.findIdx fun item => item.promise? = some promise

/-- No place costs a function more than the last call of a full session. -/
theorem statementsLeft_le {place : NetworkThread Core Value} (session : place.isInSession = true)
    (position : Nat) :
    place.statementsLeft position ≤ NetworkThread.statementsFor position + 7 ∧
      place.ticksLeft position ≤ position / maxFunctionsPerSession + 1 := by
  cases place with
  | pollFunctionCalls counter | call counter =>
      have more := of_decide_eq_true session
      constructor <;>
        simp only [NetworkThread.statementsLeft, NetworkThread.statementsFor,
          NetworkThread.ticksLeft, maxFunctionsPerSession] at more ⊢ <;> omega
  | _ =>
      refine ⟨?_, le_rfl⟩
      simp only [NetworkThread.statementsLeft, NetworkThread.untilTick]
      omega

/-- A caller that waits has its function ahead of it. -/
theorem Owed.waiting {caller promise : Nat} (owed : Owed manager) (serving : Serving manager)
    (place : manager.callers caller = .get promise) (unset : manager.promises promise = none) :
    Waiting promise
      (manager.ticks + (functionsBefore manager promise / maxFunctionsPerSession + 1))
      (NetworkThread.statementsFor (functionsBefore manager promise) + 7) manager := by
  have less := owed.awaited caller promise (by simp [place, Caller.awaited])
  have cheap := statementsLeft_le serving.session
  rcases owed.pending promise less with set | ⟨item, member, own⟩
  · rw [unset] at set
    cases set
  · rcases List.mem_append.mp member with held | queued
    · have popped := Option.mem_toList.mp held
      cases at_ : manager.thread with
      | call counter other =>
          rw [at_] at popped
          cases popped
          exact .held at_ own (by simp [NetworkThread.statementsFor]) (Nat.le_add_right ..)
      | _ =>
          rw [at_] at popped
          cases popped
    · have inside : functionsBefore manager promise < manager.functionCalls.length :=
        List.findIdx_lt_length_of_exists ⟨item, queued, by simpa using own⟩
      have found : (manager.functionCalls[functionsBefore manager promise]).promise? =
          some promise :=
        of_decide_eq_true (@List.findIdx_getElem _ _ manager.functionCalls inside)
      have front : manager.functionCalls =
          manager.functionCalls.take (functionsBefore manager promise) ++
            manager.functionCalls[functionsBefore manager promise] ::
              manager.functionCalls.drop (functionsBefore manager promise + 1) := by
        rw [List.getElem_cons_drop, List.take_append_drop]
      have before : (manager.functionCalls.take (functionsBefore manager promise)).length =
          functionsBefore manager promise := List.length_take_of_le (Nat.le_of_lt inside)
      refine .queued front found ?_ ?_
      · rw [before]
        exact (cheap _).1
      · rw [before]
        exact Nat.add_le_add_left (cheap _).2 _

end Waiting

/-- A client that waits for its promise in a run without `kill` has it after
`46 * (k / 20) + 2 * (k % 20) + 9` statements of the network thread, where `k` functions are
in the queue before its own.  Until then at most `k / 20 + 1` ticks begin, and the network
thread is never asleep and can always make its next statement, if the function that it is in
returns; `init` may still have to start it.  How the other threads run, what they push and
what the callbacks do in between makes no difference. -/
theorem clients_wait_boundedly (Core Interface Value : Type) [INetworkManagerCore Core]
    (before after : List (NetworkManagerAction Core Interface Value))
    (manager last : NetworkManager Core Interface Value) (client promise : Nat)
    (starts : (networkManagerSystem Core Interface Value).StepsWhere NotKilled {} before manager)
    (waits : manager.callers client = .get promise)
    (continues : (networkManagerSystem Core Interface Value).StepsWhere NotKilled manager after
      last) :
    (46 * (functionsBefore manager promise / 20) + 2 * (functionsBefore manager promise % 20) + 9 ≤
        after.countP NetworkManagerAction.isNetwork →
      ∃ value, last.promises promise = some value) ∧
    (last.promises promise = none →
      last.ticks ≤ manager.ticks + functionsBefore manager promise / 20 + 1 ∧
      last.thread ≠ .parked ∧
      (last.CallReturns → last.CanMove ∨ last.control = .startThread)) := by
  obtain ⟨⟨cycle, alive⟩, serving, owed, admitted⟩ := serving_of_steps starts
  cases set : manager.promises promise with
  | some value =>
      have stays := continues.kept (fun manager => (manager.promises promise).isSome = true)
        (by rw [set]; rfl) fun _ _ _ set _ steps => isSome_step set steps
      refine ⟨fun _ => Option.isSome_iff_exists.mp stays, fun none => ?_⟩
      rw [none] at stays
      cases stays
  | none =>
      have working : Working manager := by
        refine ⟨cycle, alive, serving, owed.awake client promise waits, admitted, ?_⟩
        exact admitted.calls client (by rw [waits]; rfl)
      have responds := continues.responds
        (fun manager => (manager.promises promise).isSome = true)
        (fun left manager => Working manager ∧ Waiting promise _ left manager)
        NetworkManagerAction.isNetwork ⟨working, owed.waiting serving waits set⟩ ?_
        fun _ _ _ set _ steps => isSome_step set steps
      · rcases responds with answered | ⟨left, ⟨working, waiting⟩, spent⟩
        · refine ⟨fun _ => Option.isSome_iff_exists.mp answered, fun none => ?_⟩
          rw [none] at answered
          cases answered
        · have bound := waiting.bounds working.serving
          simp only [NetworkThread.statementsFor, maxFunctionsPerSession] at spent bound
          exact ⟨fun enough => by omega, fun _ => ⟨by omega, working.goesOn⟩⟩
      · rintro left state action next ⟨working, waiting⟩ notKilled steps
        apply (waiting.step working.awake working.serving working.alive working.cycle notKilled
          steps).imp_right
        rintro ⟨rest, still, paid⟩
        exact ⟨rest, ⟨working.step notKilled steps, still⟩, paid⟩

/-- Client 0 waits for its listener, and client 1 asks for another one. -/
def waitingClient :
    List (NetworkManagerAction (NetworkManagerCore ListenerQueues) Unit Outcome) :=
  initManager ++ [.call 0 fun core => (CoreOperation.createListener none).perform core,
    .caller 0, .caller 0, .call 1 fun core => (CoreOperation.createListener none).perform core]

/-- The network thread can make its next statement when it has popped the function of client
0, and client 0 has its value nine statements after it has begun to wait. -/
theorem clients_wait_boundedly_waitingClient :
    ∃ manager called last : NetworkManager (NetworkManagerCore ListenerQueues) Unit Outcome,
      (networkManagerSystem _ _ _).StepsWhere NotKilled {} waitingClient manager ∧
      (networkManagerSystem _ _ _).StepsWhere NotKilled manager
        [.caller 1, .network .ok, .network .ok] called ∧
      called.thread.held?.isSome = true ∧ called.CanMove ∧
      (networkManagerSystem _ _ _).StepsWhere NotKilled called
        (List.replicate 7 (.network .ok)) last ∧
      ∃ value, last.promises 0 = some value := by
  have executes : ∃ manager called last : NetworkManager (NetworkManagerCore ListenerQueues) Unit
        Outcome,
      (networkManagerSystem _ _ _).runWhere NotKilled {} waitingClient = some manager ∧
      manager.callers 0 = .get 0 ∧ functionsBefore manager 0 = 0 ∧
      (networkManagerSystem _ _ _).runWhere NotKilled manager
        [.caller 1, .network .ok, .network .ok] = some called ∧
      called.thread.held?.isSome = true ∧ called.promises 0 = none ∧ called.CallReturns ∧
      called.control ≠ .startThread ∧
      (networkManagerSystem _ _ _).runWhere NotKilled called
        (List.replicate 7 (.network .ok)) = some last := by
    refine ⟨_, _, _, rfl, rfl, rfl, rfl, rfl, rfl, ?_, nofun, rfl⟩
    intro counter item core place installed
    cases place
    cases installed
    exact ⟨_, rfl⟩
  obtain ⟨manager, called, last, starts, waits, front, begins, held, unset, returns, started,
    ends⟩ := executes
  have starts := TransitionSystem.runWhere_eq_some_iff.mp starts
  have begins := TransitionSystem.runWhere_eq_some_iff.mp begins
  have ends := TransitionSystem.runWhere_eq_some_iff.mp ends
  have goesOn := (clients_wait_boundedly _ _ _ _ _ _ _ 0 0 starts waits begins).2 unset
  refine ⟨manager, called, last, starts, begins, held, (goesOn.2.2 returns).resolve_right started,
    ends, ?_⟩
  apply (clients_wait_boundedly _ _ _ _ _ _ _ 0 0 starts waits (begins.trans ends)).1
  rw [front]
  decide

end HttpServer
