import HttpServer.NetworkManager

/-!
# The shutdown of the network thread

Once `kill` has cleared `m_running`, the thread leaves `run` when it finds
`m_Busy` reset, and only the thread itself resets it: after a tick that leaves
both the queue and the map empty.  A socket that stays in the map therefore
keeps the thread ticking for ever, and `kill` waits for it.

A run is measured by the ticks and statements that the thread has still to make.
They go down with every statement, but for the events that `delays` counts.
-/

namespace HttpServer

namespace NetworkThread

variable {Core Value : Type}

/-- The ticks that the thread still begins before it leaves `run`, with `queued`
functions on the queue, when nothing delays it. -/
def remainingTicks (queued : Nat) (busy : Bool) : NetworkThread Core Value → Nat
  | busyTest => max 1 ((queued + 19) / 20) - (!busy).toNat
  | pollFunctionCalls counter => (queued - (20 - counter) + 19) / 20
  | call counter _ => (queued - (19 - counter) + 19) / 20
  | pollConnectionChanges | mapTest | queueTest => (queued + 19) / 20
  | clearBusy => max 1 ((queued + 19) / 20) - 1
  | _ => 0

/-- The statements between the place and the end of a round of the loop. -/
def rank : NetworkThread Core Value → Nat
  | none | exited => 0
  | outerTest | breakTest => 1
  | lock | waitTest => 2
  | parked | notified | runningTest => 3
  | busyTest => 4
  | clearBusy => 5
  | queueTest => 6
  | mapTest => 7
  | pollConnectionChanges => 8
  | pollFunctionCalls _ => 9
  | call _ _ => 10

end NetworkThread

namespace NetworkManager

variable {Core Interface Value : Type} {manager : NetworkManager Core Interface Value}

def remainingTicks (manager : NetworkManager Core Interface Value) : Nat :=
  manager.thread.remainingTicks manager.functionCalls.length manager.busy

/-- A bound on the statements that the thread still makes. -/
def remainingMoves (manager : NetworkManager Core Interface Value) : Nat :=
  6 * manager.remainingTicks + 2 * manager.functionCalls.length + manager.thread.rank

/-- No function is pushed, and `init` starts no other thread. -/
def Quiet (manager : NetworkManager Core Interface Value) :
    NetworkManagerAction Core Interface Value → Prop
  | .init _ _ => False
  | .caller caller => (manager.callers caller).isPushing = false
  | _ => True

instance : ∀ action, Decidable (manager.Quiet action)
  | .init _ _ => isFalse id
  | .caller _ => inferInstanceAs (Decidable (_ = false))
  | .network _ | .wake | .kill | .control _ | .call _ _ | .connectionServed _ _ =>
      isTrue trivial

/-- The manager after `kill` has cleared `m_running`. -/
structure Draining (manager : NetworkManager Core Interface Value) : Prop where
  cycle : LifeCycle manager
  stopped : manager.running = false
  noInit : manager.control.isInit = false
  woken : manager.thread.isParked = true → manager.control = .notifyAll

/-- From `manager` to `next` the ticks begun and those remaining have grown by no
more than the delays, and the remaining statements pay for `moves`. -/
structure Drains (manager next : NetworkManager Core Interface Value) (moves : Nat) :
    Prop where
  ticks : next.ticks + next.remainingTicks + manager.delays ≤
    manager.ticks + manager.remainingTicks + next.delays
  moves : next.remainingMoves + moves + 6 * manager.delays ≤
    manager.remainingMoves + 6 * next.delays

end NetworkManager

def NetworkManagerAction.isNetwork {Core Interface Value : Type} :
    NetworkManagerAction Core Interface Value → Bool
  | network _ => true
  | _ => false

namespace NetworkManager

variable {Core Interface Value : Type} {manager next : NetworkManager Core Interface Value}

theorem remainingTicks_le (manager : NetworkManager Core Interface Value) :
    manager.remainingTicks ≤ manager.functionCalls.length / 20 + 1 := by
  unfold remainingTicks NetworkThread.remainingTicks
  cases manager.thread <;> dsimp only <;> omega

theorem remainingMoves_le (manager : NetworkManager Core Interface Value) :
    manager.remainingMoves ≤
      6 * (manager.functionCalls.length / 20 + 1) + 2 * manager.functionCalls.length + 10 := by
  have ticks := manager.remainingTicks_le
  have rank : manager.thread.rank ≤ 10 := by
    cases manager.thread <;> simp [NetworkThread.rank]
  unfold remainingMoves
  omega

/-- A statement that only moves the thread goes on in the round that remains. -/
theorem Move.drains [INetworkManagerCore Core] {place after : NetworkThread Core Value}
    (stopped : manager.running = false) (moves : manager.Move place after) :
    after.remainingTicks manager.functionCalls.length manager.busy ≤
        place.remainingTicks manager.functionCalls.length manager.busy ∧
      after.rank < place.rank := by
  cases moves with
  | enter running | park _ running | unlock running =>
      rw [stopped] at running
      cases running
  | drained none | emptyQueue none =>
      simp [NetworkThread.remainingTicks, NetworkThread.rank, none]
  | session enough =>
      simp only [NetworkThread.remainingTicks, NetworkThread.rank, maxFunctionsPerSession]
        at enough ⊢
      omega
  | queued some =>
      have nonempty := List.length_pos_of_ne_nil some
      simp only [NetworkThread.remainingTicks, NetworkThread.rank]
      omega
  | _ => simp [NetworkThread.remainingTicks, NetworkThread.rank]

namespace Drains

/-- Nothing that the measure reads has changed. -/
theorem same (ticks : next.ticks = manager.ticks) (delays : next.delays = manager.delays)
    (busy : next.busy = manager.busy) (thread : next.thread = manager.thread)
    (queue : next.functionCalls = manager.functionCalls) : Drains manager next 0 := by
  constructor <;> simp [remainingMoves, remainingTicks, ticks, delays, busy, thread, queue]

/-- Without a network thread, nothing remains whatever the queue loses. -/
theorem absent (ticks : next.ticks = manager.ticks) (delays : next.delays = manager.delays)
    (thread : next.thread = .none)
    (queue : next.functionCalls.length ≤ manager.functionCalls.length) :
    Drains manager next 0 := by
  constructor <;>
    simp only [remainingMoves, remainingTicks, ticks, delays, thread,
      NetworkThread.remainingTicks, NetworkThread.rank]
  · omega
  · omega

theorem wakeUp (ticks : next.ticks = manager.ticks) (thread : next.thread = manager.thread.wakeUp)
    (queue : next.functionCalls = manager.functionCalls)
    (busy : next.busy = manager.busy ∧ next.delays = manager.delays ∨
      next.busy = true ∧ next.delays = if manager.busy then manager.delays
        else manager.delays + 1) : Drains manager next 0 := by
  have rank : manager.thread.wakeUp.rank = manager.thread.rank := by
    cases manager.thread <;> rfl
  have remaining : next.remainingTicks + manager.delays ≤
      manager.remainingTicks + next.delays := by
    unfold remainingTicks
    rw [thread, queue]
    rcases busy with ⟨busy, delays⟩ | ⟨busy, delays⟩ <;> rw [busy, delays]
    · cases manager.thread <;> exact le_refl _
    · have reset : max 1 ((manager.functionCalls.length + 19) / 20) ≤
          max 1 ((manager.functionCalls.length + 19) / 20) - 1 + 1 := by omega
      cases manager.busy <;> cases manager.thread <;>
        simp [NetworkThread.wakeUp, NetworkThread.remainingTicks]
      omega
  constructor
  · omega
  · unfold remainingMoves
    rw [thread, rank, queue]
    omega

theorem run [INetworkManagerCore Core] {callbacks : Core → Except Fault Core}
    (stopped : manager.running = false) (runs : RunStep callbacks manager next) :
    Drains manager next 1 := by
  cases runs with
  | move place moves =>
      obtain ⟨ticks, rank⟩ := moves.drains stopped
      constructor <;> simp only [remainingMoves, remainingTicks, moveTo, place] <;> omega
  | tick place =>
      rcases place with ⟨place, busy⟩ | ⟨-, running⟩
      · constructor <;>
          simp only [remainingMoves, remainingTicks, beginTick, place, busy, Bool.not_true,
            Bool.toNat_false, NetworkThread.remainingTicks, NetworkThread.rank] <;> omega
      · rw [stopped] at running
        cases running
  | pop place queue more =>
      unfold maxFunctionsPerSession at more
      constructor <;>
        simp only [remainingMoves, remainingTicks, place, queue, List.length_cons,
          NetworkThread.remainingTicks, NetworkThread.rank] <;> omega
  | call place installed runs =>
      constructor <;>
        simp only [remainingMoves, remainingTicks, place, NetworkThread.remainingTicks,
          NetworkThread.rank] <;> omega
  | callbacks place installed runs =>
      constructor <;>
        simp only [remainingMoves, remainingTicks, place, NetworkThread.remainingTicks,
          NetworkThread.rank] <;> omega
  | usedMap place installed used =>
      have again : max 1 ((manager.functionCalls.length + 19) / 20) - (!manager.busy).toNat +
            manager.delays ≤ (manager.functionCalls.length + 19) / 20 +
          if manager.functionCalls = [] ∧ manager.busy = true then manager.delays + 1
          else manager.delays := by
        cases queue : manager.functionCalls with
        | nil => cases manager.busy <;> simp; omega
        | cons item rest => simp; omega
      constructor <;>
        simp only [remainingMoves, remainingTicks, moveTo, place, NetworkThread.remainingTicks,
          NetworkThread.rank] <;> omega
  | clearBusy place =>
      constructor <;>
        simp only [remainingMoves, remainingTicks, place, NetworkThread.remainingTicks,
          NetworkThread.rank, Bool.not_false, Bool.toNat_true] <;> omega

end Drains

/-- The thread parks only while the manager runs. -/
theorem RunStep.running_of_isParked [INetworkManagerCore Core]
    {callbacks : Core → Except Fault Core} (runs : RunStep callbacks manager next)
    (parked : next.thread.isParked = true) : manager.running = true := by
  cases runs with
  | move place moves => cases moves <;> first | assumption | cases parked
  | _ => cases parked

theorem wakeUp_isParked (place : NetworkThread Core Value) : place.wakeUp.isParked = false := by
  cases place <;> rfl

/-- What `kill` still does, or a second one, once the first has cleared
`m_running`. -/
theorem draining_controlStep {callbackSet : Bool} (draining : Draining manager)
    (steps : ControlStep manager callbackSet next) :
    Draining next ∧ Drains manager next 0 := by
  have cycle := draining.cycle.controlStep steps
  have noInit := draining.noInit
  have absent := draining.cycle.noThread
  have awake (elsewhere : manager.control ≠ .notifyAll) : manager.thread.isParked ≠ true :=
    fun parked => elsewhere (draining.woken parked)
  cases steps with
  | setInterface place | setCore place | setGlobalCallback place | callbackFailed place
  | setRunning place | setInitialized place | startThread place =>
      rw [place] at noInit
      cases noInit
  | clearRunning => exact ⟨⟨cycle, rfl, rfl, fun _ => rfl⟩, .same rfl rfl rfl rfl rfl⟩
  | notifyAll =>
      refine ⟨⟨cycle, draining.stopped, rfl, ?_⟩, .wakeUp rfl rfl rfl (.inl ⟨rfl, rfl⟩)⟩
      rw [wakeUp_isParked]
      nofun
  | join => exact ⟨⟨cycle, draining.stopped, rfl, nofun⟩, .absent rfl rfl rfl le_rfl⟩
  | resetCore place | resetInterface place | clearInitialized place =>
      rw [place] at awake
      exact ⟨⟨cycle, draining.stopped, rfl, fun parked => (awake nofun parked).elim⟩,
        .same rfl rfl rfl rfl rfl⟩
  | clearFunctionCalls place =>
      rw [place] at awake absent
      exact ⟨⟨cycle, draining.stopped, rfl, fun parked => (awake nofun parked).elim⟩,
        .absent rfl rfl (absent rfl) (by simp)⟩

/-- A statement of a caller that pushes nothing. -/
theorem draining_callerStep {caller : Nat} (draining : Draining manager)
    (quiet : (manager.callers caller).isPushing = false)
    (steps : CallerStep manager caller next) : Draining next ∧ Drains manager next 0 := by
  have cycle := draining.cycle.callerStep steps
  cases steps with
  | push place | pushServed place =>
      rw [place] at quiet
      cases quiet
  | get =>
      exact ⟨⟨cycle, draining.stopped, draining.noInit, draining.woken⟩,
        .same rfl rfl rfl rfl rfl⟩
  | notify | notifyServed =>
      refine ⟨⟨cycle, draining.stopped, draining.noInit, ?_⟩,
        .wakeUp rfl rfl rfl (.inr ⟨rfl, rfl⟩)⟩
      intro parked
      exact nomatch (wakeUp_isParked manager.thread).symm.trans parked

/-- One step of a run after `kill` has cleared `m_running`. -/
theorem draining_step [INetworkManagerCore Core]
    {action : NetworkManagerAction Core Interface Value} (draining : Draining manager)
    (quiet : manager.Quiet action)
    (steps : (networkManagerSystem Core Interface Value).step manager action = some next) :
    Draining next ∧ Drains manager next (if action.isNetwork then 1 else 0) := by
  have cycle := draining.cycle.step steps
  cases managerStep_of_step steps with
  | network runs =>
      have frame := runs.frame
      refine ⟨⟨cycle, frame.running.trans draining.stopped, ?_, ?_⟩,
        .run draining.stopped runs⟩
      · rw [frame.control]
        exact draining.noInit
      · intro parked
        exact nomatch (runs.running_of_isParked parked).symm.trans draining.stopped
  | wake parked =>
      refine ⟨⟨cycle, draining.stopped, draining.noInit, nofun⟩, ?_⟩
      exact .wakeUp rfl (by rw [parked]; rfl) rfl (.inl ⟨rfl, rfl⟩)
  | initRefused | init => cases quiet
  | kill place =>
      refine ⟨⟨cycle, draining.stopped, rfl, ?_⟩, .same rfl rfl rfl rfl rfl⟩
      intro parked
      exact nomatch place.symm.trans (draining.woken parked)
  | control steps => exact draining_controlStep draining steps
  | call | connectionServed | callRefused | servedRefused =>
      exact ⟨⟨cycle, draining.stopped, draining.noInit, draining.woken⟩,
        .same rfl rfl rfl rfl rfl⟩
  | caller steps => exact draining_callerStep draining quiet steps

/-- The function that the network thread is in comes to its end. -/
def CallReturns (manager : NetworkManager Core Interface Value) : Prop :=
  ∀ counter item core, manager.thread = .call counter item → manager.core = some core →
    ∃ result, item.run core = .ok result

/-- The thread can make its next statement, whatever the callbacks do to the core. -/
def CanMove [INetworkManagerCore Core] (manager : NetworkManager Core Interface Value) :
    Prop :=
  ∀ callbacks : Core → Except Fault Core,
    (∀ core, manager.core = some core → ∃ changed, callbacks core = .ok changed) →
      (manager.run callbacks).isSome = true

theorem canMove [INetworkManagerCore Core] (cycle : LifeCycle manager)
    (running : manager.thread.isRunning = true) (awake : manager.thread.isParked = false)
    (returns : manager.CallReturns) : manager.CanMove := by
  intro callbacks changes
  have present : manager.thread ≠ .none := by
    intro absent
    rw [absent] at running
    cases running
  obtain ⟨core, installed⟩ := Option.isSome_iff_exists.mp (cycle.core present)
  unfold NetworkManager.run
  cases place : manager.thread with
  | none | exited =>
      rw [place] at running
      cases running
  | parked =>
      rw [place] at awake
      cases awake
  | call counter item =>
      obtain ⟨result, outcome⟩ := returns counter item core place installed
      simp [callItem, installed, outcome]
  | busyTest | runningTest =>
      dsimp only
      split <;> rfl
  | pollFunctionCalls counter =>
      dsimp only
      split
      · rfl
      · split <;> rfl
  | pollConnectionChanges =>
      obtain ⟨changed, outcome⟩ := changes core installed
      simp [installed, outcome]
  | mapTest => simp [installed]
  | _ => rfl

/-- `kill` begins to drain the thread when it clears `m_running`. -/
theorem draining_of_clearRunning [INetworkManagerCore Core] {callbackSet : Bool}
    (reached : (networkManagerSystem Core Interface Value).Reachable manager)
    (killing : manager.control = .clearRunning)
    (clears : (networkManagerSystem Core Interface Value).step manager
      (.control callbackSet) = some next) : Draining next := by
  have cycle := (lifeCycle_of_reachable reached).step clears
  dsimp only [networkManagerSystem, controlStep] at clears
  rw [killing] at clears
  dsimp only at clears
  split at clears
  · cases clears
  · cases clears
    exact ⟨cycle, rfl, rfl, fun _ => rfl⟩

/-- A quiet run drains the thread, and every delay costs at most a tick. -/
theorem draining_run [INetworkManagerCore Core]
    {actions : List (NetworkManagerAction Core Interface Value)} (draining : Draining manager)
    (steps : (networkManagerSystem Core Interface Value).StepsWhere Quiet manager actions
      next) :
    Draining next ∧
      Drains manager next (actions.countP NetworkManagerAction.isNetwork) := by
  have stays : ∀ state action next, Draining state → state.Quiet action →
      (networkManagerSystem Core Interface Value).step state action = some next →
      Draining next :=
    fun _ _ _ draining quiet steps => (draining_step draining quiet steps).1
  refine ⟨steps.kept Draining draining stays, ?_, ?_⟩
  · have ticks := steps.amortized Draining (fun state => state.ticks + state.remainingTicks)
      NetworkManager.delays (fun _ => false) draining stays
      fun _ _ _ draining quiet steps => (draining_step draining quiet steps).2.ticks
    rwa [List.countP_false] at ticks
  · exact steps.amortized Draining remainingMoves (fun state => 6 * state.delays)
      NetworkManagerAction.isNetwork draining stays
      fun _ _ _ draining quiet steps => (draining_step draining quiet steps).2.moves

end NetworkManager

open NetworkManager

variable {Core Interface Value : Type} [INetworkManagerCore Core]

/-- After `kill` has cleared `m_running`, and while no function is pushed, the
thread begins at most `q / 20 + 2` more ticks when it is delayed at most once; it
makes a bounded number of statements, and if every queued function returns, there is
always one that it or the `notify_all` of `kill` can make until it has left `run`. -/
theorem shutdown {manager killed last : NetworkManager Core Interface Value}
    {callbackSet : Bool} {actions : List (NetworkManagerAction Core Interface Value)}
    (reached : (networkManagerSystem Core Interface Value).Reachable manager)
    (killing : manager.control = .clearRunning)
    (clears : (networkManagerSystem Core Interface Value).step manager
      (.control callbackSet) = some killed)
    (steps : (networkManagerSystem Core Interface Value).StepsWhere Quiet killed actions last)
    (undelayed : last.delays ≤ killed.delays + 1) :
    last.ticks ≤ killed.ticks + (killed.functionCalls.length / 20 + 2) ∧
      actions.countP NetworkManagerAction.isNetwork ≤
        6 * (killed.functionCalls.length / 20 + 2) + 2 * killed.functionCalls.length + 10 ∧
      (last.CallReturns → last.thread.isRunning = true →
        last.CanMove ∨ last.thread.isParked = true ∧ last.control = .notifyAll) := by
  have draining := draining_of_clearRunning reached killing clears
  obtain ⟨drained, ticks, moves⟩ := draining_run draining steps
  have remainingTicks := killed.remainingTicks_le
  have remainingMoves := killed.remainingMoves_le
  refine ⟨by omega, by omega, ?_⟩
  intro returns running
  cases parked : last.thread.isParked with
  | false => exact .inl (canMove drained.cycle running parked returns)
  | true => exact .inr ⟨rfl, drained.woken parked⟩

/-- A `createListener` that is still queued when `kill` clears `m_running` runs and
returns, and the thread leaves after one more tick. -/
theorem shutdown_queued :
    ∃ killed called last : NetworkManager (NetworkManagerCore ListenerQueues) Unit Outcome,
      killed.functionCalls.length = 1 ∧ called.thread.held?.isSome = true ∧ called.CanMove ∧
      (networkManagerSystem _ _ _).StepsWhere Quiet called
        (List.replicate 10 (.network .ok) ++ [.control true, .control true]) last ∧
      last.thread.isRunning = false ∧ last.ticks ≤ killed.ticks + 2 := by
  have executes : ∃ manager killed called last : NetworkManager
        (NetworkManagerCore ListenerQueues) Unit Outcome,
      (networkManagerSystem _ _ _).run {} (initManager ++
        [.call 0 fun core => (CoreOperation.createListener none).perform core, .caller 0,
          .kill]) = some manager ∧
      manager.control = .clearRunning ∧
      (networkManagerSystem _ _ _).step manager (.control true) = some killed ∧
      killed.functionCalls.length = 1 ∧
      (networkManagerSystem _ _ _).runWhere Quiet killed
        ([.caller 0] ++ List.replicate 2 (.network .ok)) = some called ∧
      called.thread.held?.isSome = true ∧ called.CallReturns ∧
      called.thread.isRunning = true ∧ called.thread.isParked = false ∧
      called.delays = killed.delays ∧
      (networkManagerSystem _ _ _).runWhere Quiet called
        (List.replicate 10 (.network .ok) ++ [.control true, .control true]) = some last ∧
      last.thread.isRunning = false ∧ last.delays = killed.delays := by
    refine ⟨_, _, _, _, rfl, rfl, rfl, rfl, rfl, rfl, ?_, rfl, rfl, rfl, rfl, rfl, rfl⟩
    intro counter item core place installed
    cases place
    cases installed
    exact ⟨_, rfl⟩
  obtain ⟨manager, killed, called, last, executes, killing, clears, queued, calls, held, returns,
    running, awake, undelayed, drains, left, delays⟩ := executes
  have reached := TransitionSystem.reachable_of_run rfl executes
  have begins := TransitionSystem.runWhere_eq_some_iff.mp calls
  have steps := TransitionSystem.runWhere_eq_some_iff.mp drains
  have goesOn := (shutdown reached killing clears begins (by omega)).2.2 returns running
  have bound := (shutdown reached killing clears (begins.trans steps) (by omega)).1
  rw [queued] at bound
  refine ⟨killed, called, last, queued, held, ?_, steps, left, bound⟩
  exact goesOn.resolve_right fun parked => nomatch awake.symm.trans parked.1

/-- The thread has made a tick and is about to begin the next one, with nothing
queued and a socket in the map. -/
structure Occupied (manager : NetworkManager Core Interface Value) : Prop where
  place : manager.thread = .busyTest
  busy : manager.busy = true
  drained : manager.functionCalls = []
  used : ∃ core, manager.core = some core ∧
    INetworkManagerCore.isSocketClientsMapEmpty core = false

/-- One more tick leaves everything as it was. -/
theorem Occupied.tick {manager : NetworkManager Core Interface Value}
    (occupied : Occupied manager) :
    ∃ last, (networkManagerSystem Core Interface Value).StepsWhere Quiet manager
        (List.replicate 4 (.network .ok)) last ∧
      last.ticks = manager.ticks + 1 ∧ last.control = manager.control ∧ Occupied last := by
  obtain ⟨core, installed, used⟩ := occupied.used
  refine ⟨{ manager with ticks := manager.ticks + 1, delays := manager.delays + 1 }, ?_, rfl,
    rfl, occupied.place, occupied.busy, occupied.drained, occupied.used⟩
  rw [← TransitionSystem.runWhere_eq_some_iff]
  have quiet : ∀ state : NetworkManager Core Interface Value, state.Quiet (.network .ok) :=
    fun _ => trivial
  simp [List.replicate, TransitionSystem.runWhere, quiet, networkManagerSystem, run, beginTick,
    moveTo, occupied.place, occupied.busy, occupied.drained, installed, used]

/-- So the thread ticks any number of times. -/
theorem Occupied.ticks {manager : NetworkManager Core Interface Value}
    (occupied : Occupied manager) (ticks : Nat) :
    ∃ actions last, (networkManagerSystem Core Interface Value).StepsWhere Quiet manager
        actions last ∧
      last.ticks = manager.ticks + ticks ∧ last.control = manager.control ∧ Occupied last := by
  induction ticks with
  | zero => exact ⟨[], manager, .refl, rfl, rfl, occupied⟩
  | succ ticks ih =>
      obtain ⟨actions, middle, steps, count, control, occupied⟩ := ih
      obtain ⟨last, further, again, still, occupied⟩ := occupied.tick
      exact ⟨_, last, steps.trans further, by omega, still.trans control, occupied⟩

/-- With listener 1 on socket 5, `kill` waits for a thread that never leaves. -/
theorem shutdown_fails :
    ∃ manager killed : NetworkManager (NetworkManagerCore ListenerQueues) Unit Outcome,
      (networkManagerSystem _ _ _).Reachable manager ∧ manager.control = .clearRunning ∧
      (networkManagerSystem _ _ _).step manager (.control true) = some killed ∧
      ∀ ticks, ∃ actions last,
        (networkManagerSystem _ _ _).StepsWhere Quiet killed actions last ∧
        last.ticks = killed.ticks + ticks ∧ last.control = .join ∧
        last.thread.isRunning = true := by
  have executes : ∃ manager killed joining : NetworkManager (NetworkManagerCore ListenerQueues)
        Unit Outcome,
      (networkManagerSystem _ _ _).run {} (initManager ++
        executeFunktion (.createListener none) 8 ++
        executeFunktion (.startListening 1 80 (.ok ⟨5, 6⟩) (.ok ())) 6 ++ [.kill]) =
          some manager ∧
      manager.control = .clearRunning ∧
      (networkManagerSystem _ _ _).step manager (.control true) = some killed ∧
      (networkManagerSystem _ _ _).step killed (.control true) = some joining ∧
      joining.ticks = killed.ticks ∧ joining.control = .join ∧ joining.thread = .busyTest ∧
      joining.busy = true ∧ joining.functionCalls = [] ∧
      ∃ core, joining.core = some core ∧ core.isSocketClientsMapEmpty = false :=
    ⟨_, _, _, rfl, rfl, rfl, rfl, rfl, rfl, rfl, rfl, rfl, _, rfl, rfl⟩
  obtain ⟨manager, killed, joining, executes, killing, clears, notifies, count, joins, place,
    busy, drained, used⟩ := executes
  refine ⟨manager, killed, TransitionSystem.reachable_of_run rfl executes, killing, clears, ?_⟩
  intro ticks
  have occupied : Occupied joining := ⟨place, busy, drained, used⟩
  obtain ⟨actions, last, steps, again, still, occupied⟩ := occupied.ticks ticks
  refine ⟨_, last, (TransitionSystem.StepsWhere.single trivial notifies).trans steps,
    by omega, still.trans joins, ?_⟩
  rw [occupied.place]
  rfl

end HttpServer
