import HttpServer.NetworkManager

/-!
# Callers that `kill` leaves behind

A client tests `m_initialized`, pushes its function, notifies and waits, and the
network thread may leave `run` between any two of these.  A function that is
pushed behind its back is dropped by the `clear` of `kill`, and its promise is
never set.  Where every push finds a thread that will still look at the queue,
and the thread leaves an empty queue behind, no client waits in vain.

A function never outlives the `kill` that follows its push: the queue is cleared
once the thread is gone.
-/

namespace HttpServer

namespace NetworkThread

/-- The tests at which the thread leaves `run` when the manager does not run. -/
def isLeaving {Core Value : Type} : NetworkThread Core Value → Bool
  | outerTest | breakTest => true
  | _ => false

end NetworkThread

namespace NetworkManager

variable {Core Interface Value : Type} {manager next : NetworkManager Core Interface Value}

/-- The function is in the queue, or popped and not run to its end. -/
def Outstanding (manager : NetworkManager Core Interface Value)
    (item : QueuedFunction Core Value) : Prop :=
  item ∈ manager.functionCalls ∨ manager.thread.held? = some item

def Pending (manager : NetworkManager Core Interface Value) (promise : Nat) : Prop :=
  ∃ item, manager.Outstanding item ∧ item.promise? = some promise

/-- A client waits in `future.get`, and its function has neither run nor is it
queued for, or held by, a running network thread. -/
def Stranded (manager : NetworkManager Core Interface Value) (caller : Nat) : Prop :=
  ∃ promise, manager.callers caller = .get promise ∧ manager.promises promise = none ∧
    ¬ (manager.thread.isRunning = true ∧ manager.Pending promise)

/-- A client pushes only while the network thread is in `run` or an `init` that
can no longer fail is about to start it, and in the latter case waits for its
promise only once the thread is started; and the thread leaves `run` with no
client's function in the queue. -/
def Orderly (manager : NetworkManager Core Interface Value) :
    NetworkManagerAction Core Interface Value → Prop
  | .network _ =>
      manager.running = false → manager.thread.isLeaving = true →
        ∀ item ∈ manager.functionCalls, item.promise? = none
  | .caller caller =>
      match manager.callers caller with
      | .push _ => manager.thread.isRunning = true ∨ manager.control.isStarting = true
      | .notify _ => manager.control.isStarting = false
      | _ => True
  | _ => True

instance : ∀ action, Decidable (manager.Orderly action)
  | .network _ => inferInstanceAs (Decidable (_ = false → _ = true → ∀ item ∈ _, _))
  | .caller caller =>
      match place : manager.callers caller with
      | .push _ => decidable_of_iff
          (manager.thread.isRunning = true ∨ manager.control.isStarting = true)
          (by simp [Orderly, place])
      | .notify _ => decidable_of_iff (manager.control.isStarting = false)
          (by simp [Orderly, place])
      | .idle | .refused _ | .get _ | .returned _ | .notifyServed _ | .pushServed _
      | .served => isTrue (by simp [Orderly, place])
  | .wake | .init _ _ | .kill | .control _ | .call _ _ | .connectionServed _ _ =>
      isTrue trivial

theorem isSome_of_run {item : QueuedFunction Core Value} {core changed : Core}
    {value : Option Value} {promise : Nat} (promised : item.promise? = some promise)
    (runs : item.run core = .ok (value, changed)) : value.isSome = true := by
  cases item with
  | funktion =>
      obtain ⟨result, -, pair⟩ := map_eq_ok_iff.mp runs
      cases pair
      rfl
  | connectionServed => cases promised

/-- A popped function that runs sets its own promise. -/
theorem promise_of_run {item : QueuedFunction Core Value} {core changed : Core}
    {value : Option Value} (runs : item.run core = .ok (value, changed))
    {promises : Nat → Option Value} {promise : Nat}
    (set : promises promise ≠ none ∨ item.promise? = some promise) :
    (match item.promise? with
      | some promise => Function.update promises promise value
      | none => promises) promise ≠ none := by
  cases promised : item.promise? with
  | none =>
      rw [promised] at set
      exact set.resolve_right nofun
  | some other =>
      have isSome := isSome_of_run promised runs
      dsimp only
      by_cases same : promise = other
      · rw [same, Function.update_self]
        exact Option.isSome_iff_ne_none.mp isSome
      · rw [Function.update_of_ne same]
        rw [promised] at set
        exact set.resolve_right fun other => same (Option.some.inj other).symm

/-- What a statement of the network thread does to the functions: nothing, or it
pops one, or it runs the one it has popped and sets its promise. -/
structure Forwards (manager next : NetworkManager Core Interface Value) : Prop where
  outstanding : ∀ item, next.Outstanding item → manager.Outstanding item
  promises : ∀ promise, manager.promises promise ≠ none → next.promises promise ≠ none
  pending : ∀ promise, manager.Pending promise →
    next.promises promise ≠ none ∨ next.Pending promise

namespace Forwards

theorem same (queue : next.functionCalls = manager.functionCalls)
    (held : next.thread.held? = manager.thread.held?)
    (promises : next.promises = manager.promises) : Forwards manager next := by
  have outstanding : next.Outstanding = manager.Outstanding := by
    funext item
    rw [Outstanding, Outstanding, queue, held]
  refine ⟨by simp [outstanding], by simp [promises], ?_⟩
  intro promise pending
  right
  rwa [Pending, outstanding]

theorem runStep [INetworkManagerCore Core] {callbacks : Core → Except Fault Core}
    (runs : RunStep callbacks manager next) : Forwards manager next := by
  cases runs with
  | move place moves =>
      obtain ⟨-, -, before, after⟩ := moves.isRunning
      exact same rfl (by rw [place]; exact after.trans before.symm) rfl
  | tick place =>
      rcases place with ⟨place, -⟩ | ⟨place, -⟩ <;>
        exact same rfl (by rw [place]; rfl) rfl
  | callbacks place | usedMap place | clearBusy place =>
      exact same rfl (by rw [place]; rfl) rfl
  | @pop counter item rest place queue more =>
      have outstanding : ∀ other, manager.Outstanding other ↔ NetworkManager.Outstanding
          { manager with functionCalls := rest, thread := .call counter item } other := by
        intro other
        simp [Outstanding, queue, place, NetworkThread.held?, or_comm, eq_comm]
      refine ⟨fun other => (outstanding other).mpr, fun _ => id, ?_⟩
      rintro promise ⟨other, waits, promised⟩
      exact .inr ⟨other, (outstanding other).mp waits, promised⟩
  | call place installed runs =>
      refine ⟨?_, fun promise set => promise_of_run runs (.inl set), ?_⟩
      · rintro item (queued | held)
        · exact .inl queued
        · cases held
      · rintro promise ⟨other, queued | held, promised⟩
        · exact .inr ⟨other, .inl queued, promised⟩
        · rw [place] at held
          cases held
          exact .inl (promise_of_run runs (.inr promised))

end Forwards

/-- The thread leaves `run` at two places only, and when the manager does not
run. -/
theorem RunStep.running [INetworkManagerCore Core] {callbacks : Core → Except Fault Core}
    (runs : RunStep callbacks manager next) :
    next.thread.isRunning = true ∨
      manager.running = false ∧ manager.thread.isLeaving = true := by
  cases runs with
  | move place moves =>
      cases moves with
      | leave stopped | breaks stopped => exact .inr ⟨stopped, by rw [place]; rfl⟩
      | _ => exact .inl rfl
  | _ => exact .inl rfl

theorem isRunning_wakeUp (place : NetworkThread Core Value) :
    place.wakeUp.isRunning = place.isRunning := by
  cases place <;> rfl

/-- The thread runs, or is certain to be started. -/
def Manned (manager : NetworkManager Core Interface Value) : Prop :=
  manager.thread.isRunning = true ∨ manager.control.isStarting = true

/-- The function of every client that has pushed has run, or is pending while
the network thread runs or, before the client waits, is started. -/
structure Attended (manager : NetworkManager Core Interface Value) : Prop where
  notify : ∀ caller promise, manager.callers caller = .notify promise →
    manager.promises promise ≠ none ∨ manager.Pending promise ∧ manager.Manned
  get : ∀ caller promise, manager.callers caller = .get promise →
    manager.promises promise ≠ none ∨
      manager.Pending promise ∧ manager.thread.isRunning = true

namespace Attended

theorem initial : Attended ({} : NetworkManager Core Interface Value) where
  notify := nofun
  get := nofun

theorem not_stranded (attended : Attended manager) (caller : Nat) :
    ¬ manager.Stranded caller := by
  rintro ⟨promise, waits, unset, alone⟩
  rcases attended.get caller promise waits with set | ⟨pending, running⟩
  · exact set unset
  · exact alone ⟨running, pending⟩

/-- No function is lost while a thread is there to run it. -/
theorem keep (attended : Attended manager) (callers : next.callers = manager.callers)
    (promises : ∀ promise, manager.promises promise ≠ none → next.promises promise ≠ none)
    (running : ∀ promise, manager.Pending promise → manager.thread.isRunning = true →
      next.promises promise ≠ none ∨
        next.Pending promise ∧ next.thread.isRunning = true)
    (starting : ∀ promise, manager.Pending promise → manager.control.isStarting = true →
      next.promises promise ≠ none ∨ next.Pending promise ∧ next.Manned) :
    Attended next where
  notify caller promise waits := by
    rcases attended.notify caller promise (callers ▸ waits) with
      set | ⟨pending, runs | starts⟩
    · exact .inl (promises promise set)
    · exact (running promise pending runs).imp_right (And.imp_right .inl)
    · exact starting promise pending starts
  get caller promise waits := by
    rcases attended.get caller promise (callers ▸ waits) with set | ⟨pending, runs⟩
    · exact .inl (promises promise set)
    · exact running promise pending runs

theorem setCaller (attended : Attended manager) {caller : Nat} {place : Caller Core Value}
    (notify : ∀ promise, place = .notify promise →
      manager.promises promise ≠ none ∨ manager.Pending promise ∧ manager.Manned)
    (get : ∀ promise, place = .get promise → manager.promises promise ≠ none ∨
      manager.Pending promise ∧ manager.thread.isRunning = true) :
    Attended (manager.setCaller caller place) where
  notify other promise waits := by
    by_cases same : other = caller
    · subst other
      exact notify promise (setCaller_self.symm.trans waits)
    · exact attended.notify other promise ((setCaller_of_ne same).symm.trans waits)
  get other promise waits := by
    by_cases same : other = caller
    · subst other
      exact get promise (setCaller_self.symm.trans waits)
    · exact attended.get other promise ((setCaller_of_ne same).symm.trans waits)

/-- A function more on the queue. -/
theorem push (attended : Attended manager) (item : QueuedFunction Core Value) (count : Nat) :
    Attended { manager with
      functionCalls := ThreadSaveQueue.push manager.functionCalls item
      promiseCount := count } := by
  have pending : ∀ promise, manager.Pending promise → NetworkManager.Pending
      { manager with
        functionCalls := ThreadSaveQueue.push manager.functionCalls item
        promiseCount := count } promise := by
    rintro promise ⟨other, queued | held, promised⟩
    · exact ⟨other, .inl (ThreadSaveQueue.mem_push.mpr (.inl queued)), promised⟩
    · exact ⟨other, .inr held, promised⟩
  exact attended.keep rfl (fun _ => id)
    (fun promise waits runs => .inr ⟨pending promise waits, runs⟩)
    fun promise waits starts => .inr ⟨pending promise waits, .inr starts⟩

/-- The functions are only forwarded, and no thread ends. -/
theorem forwarded (attended : Attended manager) (forwards : Forwards manager next)
    (callers : next.callers = manager.callers)
    (running : manager.thread.isRunning = true → next.thread.isRunning = true)
    (starting : manager.control.isStarting = true → next.Manned) : Attended next :=
  attended.keep callers forwards.promises
    (fun promise waits runs =>
      (forwards.pending promise waits).imp_right fun pending => ⟨pending, running runs⟩)
    fun promise waits starts =>
      (forwards.pending promise waits).imp_right fun pending => ⟨pending, starting starts⟩

/-- The network thread is gone, and so is nothing that a client waits for. -/
theorem unmanned (attended : Attended manager) (callers : next.callers = manager.callers)
    (promises : next.promises = manager.promises)
    (ended : manager.thread.isRunning = false)
    (noStart : manager.control.isStarting = false) : Attended next := by
  apply attended.keep callers
  · intro promise set
    rwa [promises]
  · intro promise _ running
    exact nomatch ended.symm.trans running
  · intro promise _ starting
    exact nomatch noStart.symm.trans starting

theorem run [INetworkManagerCore Core] {callbacks : Core → Except Fault Core}
    (attended : Attended manager)
    (orderly : manager.running = false → manager.thread.isLeaving = true →
      ∀ item ∈ manager.functionCalls, item.promise? = none)
    (runs : RunStep callbacks manager next) : Attended next := by
  have forwards := Forwards.runStep runs
  have frame := runs.frame
  rcases runs.running with running | ⟨stopped, leaving⟩
  · apply attended.forwarded forwards frame.callers fun _ => running
    exact fun _ => .inl running
  · have idle : ∀ promise, ¬ manager.Pending promise := by
      rintro promise ⟨item, queued | held, promised⟩
      · exact nomatch (orderly stopped leaving item queued).symm.trans promised
      · cases place : manager.thread <;> simp_all [NetworkThread.isLeaving, NetworkThread.held?]
    exact attended.keep frame.callers forwards.promises
      (fun promise waits => (idle promise waits).elim)
      fun promise waits => (idle promise waits).elim

theorem controlStep {callbackSet : Bool} (cycle : LifeCycle manager)
    (attended : Attended manager) (steps : ControlStep manager callbackSet next) :
    Attended next := by
  have absent := cycle.noThread
  cases steps with
  | setInterface place | setCore place | setGlobalCallback place | callbackFailed place
  | clearRunning place | resetCore place | resetInterface place | clearInitialized place =>
      exact attended.forwarded (.same rfl rfl rfl) rfl id (by rw [place]; nofun)
  | setRunning | setInitialized =>
      exact attended.forwarded (.same rfl rfl rfl) rfl id fun _ => .inr rfl
  | startThread place =>
      rw [place] at absent
      exact attended.forwarded (.same rfl (by rw [absent rfl]; rfl) rfl) rfl (fun _ => rfl)
        fun _ => .inl rfl
  | notifyAll place =>
      exact attended.forwarded (.same rfl held_wakeUp rfl) rfl
        (fun running => (isRunning_wakeUp _).trans running) (by rw [place]; nofun)
  | join place ended => exact attended.unmanned rfl rfl ended (by rw [place]; rfl)
  | clearFunctionCalls place =>
      rw [place] at absent
      exact attended.unmanned rfl rfl (by rw [absent rfl]; rfl) (by rw [place]; rfl)

/-- A client that is notified about goes on to wait or to push. -/
theorem notified (attended : Attended manager) {caller : Nat} {place : Caller Core Value}
    (push : ∀ promise, place ≠ .notify promise)
    (get : ∀ promise, place = .get promise → manager.promises promise ≠ none ∨
      manager.Pending promise ∧ manager.thread.isRunning = true) :
    Attended (manager.notified caller place) :=
  (attended.setCaller (fun promise notify => (push promise notify).elim) get).forwarded
    (.same rfl held_wakeUp rfl) rfl (isRunning_wakeUp _).trans .inr

theorem callerStep {caller : Nat} (attended : Attended manager)
    (orderly : manager.Orderly (.caller caller))
    (steps : CallerStep manager caller next) : Attended next := by
  dsimp only [Orderly] at orderly
  cases steps with
  | push place =>
      rw [place] at orderly
      refine (attended.push _ _).setCaller ?_ nofun
      intro promise pushed
      cases pushed
      exact .inr ⟨⟨_, .inl (ThreadSaveQueue.mem_push.mpr (.inr rfl)), rfl⟩, orderly⟩
  | notify place =>
      rw [place] at orderly
      refine attended.notified nofun ?_
      intro other waits
      cases waits
      refine (attended.notify caller _ place).imp_right ?_
      rintro ⟨pending, manned⟩
      exact ⟨pending, manned.resolve_right (by rw [orderly]; nofun)⟩
  | get => exact attended.setCaller nofun nofun
  | notifyServed => exact attended.notified nofun nofun
  | pushServed => exact (attended.push _ _).setCaller nofun nofun

theorem step [INetworkManagerCore Core] {action : NetworkManagerAction Core Interface Value}
    (cycle : LifeCycle manager) (attended : Attended manager)
    (orderly : manager.Orderly action)
    (steps : (networkManagerSystem Core Interface Value).step manager action = some next) :
    Attended next := by
  cases managerStep_of_step steps with
  | network runs => exact attended.run orderly runs
  | wake parked =>
      exact attended.forwarded (.same rfl (by rw [parked]; rfl) rfl) rfl (fun _ => rfl) .inr
  | initRefused place | init place | kill place =>
      exact attended.forwarded (.same rfl rfl rfl) rfl id (by rw [place]; nofun)
  | control steps => exact attended.controlStep cycle steps
  | call | connectionServed | callRefused | servedRefused =>
      exact attended.setCaller nofun nofun
  | caller steps => exact attended.callerStep orderly steps

end Attended

/-- Every function was pushed after the last `kill`, and the core was installed
before or after it. -/
structure Stamped (manager : NetworkManager Core Interface Value) : Prop where
  installed : manager.installed ≤ manager.kills
  kills : ∀ item, manager.Outstanding item → item.kills = manager.kills

namespace Stamped

theorem initial : Stamped ({} : NetworkManager Core Interface Value) where
  installed := le_rfl
  kills := by
    rintro item (queued | held)
    · cases queued
    · cases held

theorem keep (stamped : Stamped manager) (installed : next.installed = manager.installed)
    (kills : next.kills = manager.kills)
    (outstanding : ∀ item, next.Outstanding item → manager.Outstanding item) :
    Stamped next where
  installed := by
    rw [installed, kills]
    exact stamped.installed
  kills item waits := (stamped.kills item (outstanding item waits)).trans kills.symm

/-- Neither the queue nor the popped function changes. -/
theorem still (stamped : Stamped manager)
    (queue : next.functionCalls = manager.functionCalls)
    (held : next.thread.held? = manager.thread.held?)
    (installed : next.installed = manager.installed) (kills : next.kills = manager.kills) :
    Stamped next := by
  apply stamped.keep installed kills
  intro item waits
  rwa [Outstanding, queue, held] at waits

theorem push (stamped : Stamped manager) {item : QueuedFunction Core Value}
    (fresh : item.kills = manager.kills)
    (installed : next.installed = manager.installed) (kills : next.kills = manager.kills)
    (queue : next.functionCalls = ThreadSaveQueue.push manager.functionCalls item)
    (thread : next.thread = manager.thread) : Stamped next where
  installed := by
    rw [installed, kills]
    exact stamped.installed
  kills other waits := by
    rw [Outstanding, queue, thread, ThreadSaveQueue.mem_push, or_right_comm] at waits
    rw [kills]
    rcases waits with waits | rfl
    · exact stamped.kills other waits
    · exact fresh

theorem controlStep {callbackSet : Bool} (cycle : LifeCycle manager)
    (stamped : Stamped manager) (steps : ControlStep manager callbackSet next) :
    Stamped next := by
  have absent := cycle.noThread
  cases steps with
  | setCore => exact ⟨le_rfl, stamped.kills⟩
  | setInterface | setGlobalCallback | callbackFailed | setRunning | setInitialized
  | clearRunning | resetCore | resetInterface | clearInitialized =>
      exact stamped.still rfl rfl rfl rfl
  | startThread place =>
      rw [place] at absent
      exact stamped.still rfl (by rw [absent rfl]; rfl) rfl rfl
  | notifyAll => exact stamped.still rfl held_wakeUp rfl rfl
  | join => exact stamped.keep rfl rfl fun item waits => .inl (waits.resolve_right nofun)
  | clearFunctionCalls place =>
      rw [place] at absent
      refine ⟨Nat.le_succ_of_le stamped.installed, ?_⟩
      rintro item (queued | held)
      · cases queued
      · rw [absent rfl] at held
        cases held

theorem callerStep {caller : Nat} (stamped : Stamped manager)
    (steps : CallerStep manager caller next) : Stamped next := by
  cases steps with
  | push | pushServed => exact stamped.push rfl rfl rfl rfl rfl
  | get => exact stamped.still rfl rfl rfl rfl
  | notify | notifyServed => exact stamped.still rfl held_wakeUp rfl rfl

theorem step [INetworkManagerCore Core] {action : NetworkManagerAction Core Interface Value}
    (cycle : LifeCycle manager) (stamped : Stamped manager)
    (steps : (networkManagerSystem Core Interface Value).step manager action = some next) :
    Stamped next := by
  cases managerStep_of_step steps with
  | network runs =>
      exact stamped.keep runs.frame.installed runs.frame.kills (Forwards.runStep runs).outstanding
  | wake parked => exact stamped.still rfl (by rw [parked]; rfl) rfl rfl
  | initRefused | init | kill | call | connectionServed | callRefused | servedRefused =>
      exact stamped.still rfl rfl rfl rfl
  | control steps => exact stamped.controlStep cycle steps
  | caller steps => exact stamped.callerStep steps

end Stamped

end NetworkManager

open NetworkManager

variable {Core Interface Value : Type} [INetworkManagerCore Core]

/-- In a run whose steps are all orderly no client is stranded.  In every run the
function that the network thread calls was pushed after every `kill` that had
come to its end when the core it runs on was installed. -/
theorem no_stranded_caller (manager : NetworkManager Core Interface Value) :
    ((networkManagerSystem Core Interface Value).ReachableWhere Orderly manager →
      ∀ caller, ¬ manager.Stranded caller) ∧
    ((networkManagerSystem Core Interface Value).Reachable manager →
      ∀ counter item, manager.thread = .call counter item →
        manager.installed ≤ item.kills) := by
  constructor
  · intro reached
    have attended : Attended manager := by
      apply reached.invariant
      · rintro _ rfl
        exact .initial
      · exact fun _ _ _ before attended orderly steps =>
          attended.step (lifeCycle_of_reachable before.reachable) orderly steps
    exact attended.not_stranded
  · intro reached counter item calls
    have stamped : Stamped manager := by
      apply reached.invariant
      · rintro _ rfl
        exact .initial
      · exact fun _ _ _ before stamped _ steps =>
          stamped.step (lifeCycle_of_reachable before) steps
    rw [stamped.kills item (.inr (by rw [calls]; rfl))]
    exact stamped.installed

/-- A client waits while `kill` has begun, and the thread has popped its
function. -/
theorem no_stranded_caller_held :
    ∃ (manager : NetworkManager (NetworkManagerCore ListenerQueues) Unit Outcome)
      (item : QueuedFunction (NetworkManagerCore ListenerQueues) Outcome),
      manager.control = .notifyAll ∧ manager.callers 0 = .get 0 ∧
      manager.thread = .call 0 item ∧ ¬ manager.Stranded 0 ∧ manager.installed ≤ item.kills := by
  have executes : ∃ (manager : NetworkManager (NetworkManagerCore ListenerQueues) Unit Outcome)
      (item : QueuedFunction (NetworkManagerCore ListenerQueues) Outcome),
      (networkManagerSystem _ _ _).runWhere Orderly {} (initManager ++
        [.call 0 fun core => (CoreOperation.createListener none).perform core, .caller 0,
          .caller 0, .kill, .control true] ++ List.replicate 2 (.network .ok)) = some manager ∧
      manager.control = .notifyAll ∧ manager.callers 0 = .get 0 ∧
      manager.thread = .call 0 item :=
    ⟨_, _, rfl, rfl, rfl, rfl⟩
  obtain ⟨manager, item, executes, killing, waits, calls⟩ := executes
  have reached := TransitionSystem.reachableWhere_of_run rfl executes
  obtain ⟨attended, stamped⟩ := no_stranded_caller manager
  exact ⟨manager, item, killing, waits, calls, attended reached 0,
    stamped reached.reachable 0 item calls⟩

/-- A client tests `m_initialized` before `kill` and pushes behind the back of the
network thread. -/
theorem no_stranded_caller_fails :
    ∃ manager : NetworkManager (NetworkManagerCore ListenerQueues) Unit Outcome,
      (networkManagerSystem _ _ _).Reachable manager ∧ manager.kills = 1 ∧
      manager.control = .returned (.ok ()) ∧ manager.Stranded 0 := by
  have executes : ∃ manager : NetworkManager (NetworkManagerCore ListenerQueues) Unit Outcome,
      (networkManagerSystem _ _ _).run {} (initManager ++
        [.call 0 fun core => (CoreOperation.createListener none).perform core, .kill,
          .control true, .control true] ++ List.replicate 10 (.network .ok) ++
        [.caller 0] ++ List.replicate 5 (.control true) ++ [.caller 0]) = some manager ∧
      manager.kills = 1 ∧ manager.control = .returned (.ok ()) ∧
      manager.callers 0 = .get 0 ∧ manager.promises 0 = none ∧
      manager.thread.isRunning = false :=
    ⟨_, rfl, rfl, rfl, rfl, rfl, rfl⟩
  obtain ⟨manager, executes, kills, returned, waits, unset, ended⟩ := executes
  refine ⟨manager, TransitionSystem.reachable_of_run rfl executes, kills, returned, 0, waits,
    unset, ?_⟩
  rintro ⟨running, -⟩
  exact nomatch ended.symm.trans running

end HttpServer
