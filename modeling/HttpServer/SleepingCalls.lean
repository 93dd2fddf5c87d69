import HttpServer.NetworkManager

/-!
# Queued functions and a parked thread

The network thread parks only before its first tick.  Until then only `init`,
`kill` and the callers write `m_Busy`, and the callers only set it: a client once
its function is in the queue, a listener's thread before it pushes.  A function
can then be in the queue with `m_Busy` reset only while its caller has still to
notify.

What `m_Busy` and the queue are when a thread starts was left behind by the last
`kill`.  It clears the queue after it has destroyed the core, and the destructor
of the core joins the threads of the listeners, so that none of them comes with a
push after its notification was used up by the thread that is gone.
-/

namespace HttpServer

namespace NetworkThread

/-- The places from the first test of `m_Busy` up to the first tick. -/
def isWaiting {Core Value : Type} : NetworkThread Core Value → Bool
  | waitTest | parked | notified | breakTest => true
  | _ => false

/-- The places before `run` tests `m_running`, for the first or the last time. -/
def isEntering {Core Value : Type} : NetworkThread Core Value → Bool
  | lock | outerTest => true
  | _ => false

end NetworkThread

namespace ControlThread

variable {Core Interface : Type}

/-- `kill` has destroyed the core and not come to its end. -/
def isClearing : ControlThread Core Interface → Bool
  | resetInterface | clearInitialized | clearFunctionCalls => true
  | _ => false

/-- Not in a call, or in `init`. -/
def isBetweenKills : ControlThread Core Interface → Bool
  | returned _ => true
  | control => control.isInit

end ControlThread

namespace Caller

variable {Core Value : Type}

/-- The next statement sets `m_Busy`. -/
def isNotifying : Caller Core Value → Bool
  | notify _ | notifyServed _ => true
  | _ => false

end Caller

namespace NetworkManager

variable {Core Interface Value : Type} {manager next : NetworkManager Core Interface Value}

/-- The callers in `ConnectionServed` are those that `m_Core.reset` waits for. -/
def Serves (manager : NetworkManager Core Interface Value) : Prop :=
  ∀ caller, caller ∈ manager.serving ↔ (manager.callers caller).isServing = true

namespace Serves

theorem initial : Serves ({} : NetworkManager Core Interface Value) := by
  intro caller
  simp [Caller.isServing]

theorem congr (serves : Serves manager) (callers : next.callers = manager.callers)
    (serving : next.serving = manager.serving) : Serves next := by
  intro caller
  rw [callers, serving]
  exact serves caller

theorem setCaller (serves : Serves manager) (caller : Nat) (place : Caller Core Value) :
    Serves (manager.setCaller caller place) := by
  intro other
  by_cases same : other = caller
  · subst other
    rw [setCaller_self]
    cases served : place.isServing <;> simp [NetworkManager.setCaller, served]
  · rw [setCaller_of_ne same, ← serves other]
    cases served : place.isServing <;> simp [NetworkManager.setCaller, served, same]

theorem step [INetworkManagerCore Core] {action : NetworkManagerAction Core Interface Value}
    (serves : Serves manager)
    (steps : (networkManagerSystem Core Interface Value).step manager action = some next) :
    Serves next := by
  cases managerStep_of_step steps with
  | network runs => cases runs <;> exact serves
  | control steps => cases steps <;> exact serves
  | wake | initRefused | init | kill => exact serves
  | call | connectionServed | callRefused | servedRefused => exact serves.setCaller _ _
  | caller steps => cases steps <;> exact (serves.setCaller _ _).congr rfl rfl

end Serves

/-- A function is queued, the network thread is parked with `m_Busy` reset, and no
caller is on its way to set it. -/
def Sleeps (manager : NetworkManager Core Interface Value) : Prop :=
  manager.functionCalls ≠ [] ∧ manager.thread = .parked ∧ manager.busy = false ∧
    ∀ caller, (manager.callers caller).isNotifying = false

/-- Where `m_Busy` is reset, no listener's thread has notified and not pushed. -/
def NonePushing (manager : NetworkManager Core Interface Value) : Prop :=
  manager.busy = false → ∀ caller served, manager.callers caller ≠ .pushServed served

/-- Where `m_Busy` is reset and a function queued, a client has pushed and not
notified. -/
def SomeNotifying (manager : NetworkManager Core Interface Value) : Prop :=
  manager.busy = false → manager.functionCalls ≠ [] →
    ∃ caller promise, manager.callers caller = .notify promise

/-- A network thread that has not begun its first tick, or is still to be
started, misses no function. -/
structure Alert (manager : NetworkManager Core Interface Value) : Prop where
  waiting : manager.thread.isWaiting = true → manager.NonePushing ∧ manager.SomeNotifying
  entering : manager.thread.isEntering = true → manager.running = true →
    manager.NonePushing ∧ manager.SomeNotifying
  absent : manager.thread = .none → manager.control.isBetweenKills = true →
    manager.NonePushing ∧ manager.SomeNotifying
  clearing : manager.control.isClearing = true → manager.NonePushing

namespace Alert

theorem initial : Alert ({} : NetworkManager Core Interface Value) where
  waiting := nofun
  entering := nofun
  absent _ _ := ⟨nofun, nofun⟩
  clearing := nofun

/-- Nothing that the callers are asked for changes. -/
theorem move (alert : Alert manager) (busy : next.busy = manager.busy)
    (queue : next.functionCalls = manager.functionCalls)
    (callers : next.callers = manager.callers)
    (waiting : next.thread.isWaiting = true → manager.thread.isWaiting = true ∨
      manager.thread.isEntering = true ∧ manager.running = true)
    (entering : next.thread.isEntering = true → next.running = true →
      manager.thread.isEntering = true ∧ manager.running = true ∨
        manager.thread = .none ∧ manager.control.isBetweenKills = true)
    (absent : next.thread = .none → next.control.isBetweenKills = true →
      manager.thread = .none ∧ manager.control.isBetweenKills = true)
    (clearing : next.control.isClearing = true → manager.control.isClearing = true) :
    Alert next := by
  have same : next.NonePushing = manager.NonePushing ∧
      next.SomeNotifying = manager.SomeNotifying := by
    simp [NonePushing, SomeNotifying, busy, queue, callers]
  constructor
  case waiting =>
    intro waits
    rw [same.1, same.2]
    rcases waiting waits with waits | ⟨enters, running⟩
    · exact alert.waiting waits
    · exact alert.entering enters running
  case entering =>
    intro enters running
    rw [same.1, same.2]
    rcases entering enters running with ⟨enters, running⟩ | ⟨gone, between⟩
    · exact alert.entering enters running
    · exact alert.absent gone between
  case absent =>
    intro gone between
    rw [same.1, same.2]
    obtain ⟨gone, between⟩ := absent gone between
    exact alert.absent gone between
  case clearing =>
    intro clears
    rw [same.1]
    exact alert.clearing (clearing clears)

/-- Only what the callers are asked for changes. -/
theorem callers (alert : Alert manager) (thread : next.thread = manager.thread)
    (running : next.running = manager.running) (control : next.control = manager.control)
    (nonePushing : manager.NonePushing → next.NonePushing)
    (someNotifying : manager.NonePushing → manager.SomeNotifying → next.SomeNotifying) :
    Alert next := by
  have both (met : manager.NonePushing ∧ manager.SomeNotifying) :
      next.NonePushing ∧ next.SomeNotifying :=
    ⟨nonePushing met.1, someNotifying met.1 met.2⟩
  constructor
  case waiting =>
    rw [thread]
    exact fun waits => both (alert.waiting waits)
  case entering =>
    rw [thread, running]
    exact fun enters running => both (alert.entering enters running)
  case absent =>
    rw [thread, control]
    exact fun gone between => both (alert.absent gone between)
  case clearing =>
    rw [control]
    exact fun clears => nonePushing (alert.clearing clears)

theorem nonePushing_setCaller {caller : Nat} {place : Caller Core Value}
    (none : manager.NonePushing) (noPush : ∀ served, place ≠ .pushServed served) :
    (manager.setCaller caller place).NonePushing := by
  intro calm other served
  by_cases same : other = caller
  · subst other
    rw [setCaller_self]
    exact noPush served
  · rw [setCaller_of_ne same]
    exact none calm other served

theorem setCaller (alert : Alert manager) {caller : Nat} {place : Caller Core Value}
    (noPush : ∀ served, place ≠ .pushServed served)
    (notNotify : ∀ promise, manager.callers caller ≠ .notify promise) :
    Alert (manager.setCaller caller place) := by
  refine alert.callers rfl rfl rfl (nonePushing_setCaller · noPush) ?_
  intro _ some calm queued
  obtain ⟨other, promise, notifies⟩ := some calm queued
  have different : other ≠ caller := by
    rintro rfl
    exact notNotify promise notifies
  exact ⟨other, promise, (setCaller_of_ne different).trans notifies⟩

/-- Where `m_Busy` is set, nothing else is asked for. -/
theorem busy (busy : manager.busy = true) : Alert manager := by
  have nonePushing : manager.NonePushing := fun calm => nomatch busy.symm.trans calm
  have someNotifying : manager.SomeNotifying := fun calm => nomatch busy.symm.trans calm
  exact ⟨fun _ => ⟨nonePushing, someNotifying⟩, fun _ _ => ⟨nonePushing, someNotifying⟩,
    fun _ _ => ⟨nonePushing, someNotifying⟩, fun _ => nonePushing⟩

theorem run [INetworkManagerCore Core] {callbacks : Core → Except Fault Core}
    (cycle : LifeCycle manager) (alert : Alert manager)
    (runs : RunStep callbacks manager next) : Alert next := by
  have frame := runs.frame
  cases runs with
  | move place moves =>
      refine alert.move rfl rfl rfl ?_ ?_ (fun gone => (frame.present gone).elim) id
      · rw [place]
        intro waits
        cases moves with
        | enter running => exact .inr ⟨rfl, running⟩
        | wakes | park | notified => exact .inl rfl
        | _ => cases waits
      · rw [place]
        intro enters running
        cases moves with
        | lock => exact .inl ⟨rfl, running⟩
        | relock stopped => exact nomatch stopped.symm.trans running
        | _ => cases enters
  | tick | call | callbacks | usedMap => exact alert.move rfl rfl rfl nofun nofun nofun id
  | pop => exact ⟨nofun, nofun, nofun, alert.clearing⟩
  | clearBusy place =>
      refine ⟨nofun, nofun, nofun, ?_⟩
      intro clears
      have gone : manager.thread = .none := by
        apply cycle.noThread
        cases control : manager.control <;> rw [control] at clears <;>
          first | rfl | cases clears
      exact nomatch place.symm.trans gone

theorem wakeUp_isWaiting {place : NetworkThread Core Value}
    (waits : place.wakeUp.isWaiting = true) : place.isWaiting = true := by
  cases place <;> first | rfl | cases waits

theorem wakeUp_isEntering {place : NetworkThread Core Value}
    (enters : place.wakeUp.isEntering = true) : place.isEntering = true := by
  cases place <;> first | rfl | cases enters

theorem controlStep {callbackSet : Bool} (cycle : LifeCycle manager)
    (serves : Serves manager) (alert : Alert manager)
    (steps : ControlStep manager callbackSet next) : Alert next := by
  have gone := cycle.noThread
  cases steps with
  | setInterface place | setCore place | setGlobalCallback place | callbackFailed place
  | setInitialized place =>
      refine alert.move rfl rfl rfl .inl (fun enters running => .inl ⟨enters, running⟩) ?_ nofun
      intro absent _
      exact ⟨absent, by rw [place]; rfl⟩
  | setRunning place =>
      rw [place] at gone
      have absent := gone rfl
      refine alert.move rfl rfl rfl .inl ?_ (fun _ _ => ⟨absent, by rw [place]; rfl⟩) nofun
      intro enters _
      dsimp only at enters
      rw [absent] at enters
      cases enters
  | startThread place =>
      rw [place] at gone
      exact alert.move rfl rfl rfl nofun
        (fun _ _ => .inr ⟨gone rfl, by rw [place]; rfl⟩) nofun nofun
  | clearRunning => exact alert.move rfl rfl rfl .inl nofun nofun nofun
  | notifyAll =>
      exact alert.move rfl rfl rfl (fun waits => .inl (wakeUp_isWaiting waits))
        (fun enters running => .inl ⟨wakeUp_isEntering enters, running⟩) nofun nofun
  | join => exact alert.move rfl rfl rfl nofun nofun nofun nofun
  | resetCore place joined =>
      rw [place] at gone
      have absent := gone rfl
      refine ⟨?_, ?_, nofun, ?_⟩
      · intro waits
        rw [absent] at waits
        cases waits
      · intro enters
        rw [absent] at enters
        cases enters
      · intro _ _ caller served pushes
        -- Its thread would still have to be joined.
        have waits := (serves caller).mpr (by rw [pushes]; rfl)
        rw [joined] at waits
        cases waits
  | resetInterface place | clearInitialized place =>
      exact alert.move rfl rfl rfl .inl (fun enters running => .inl ⟨enters, running⟩) nofun
        (fun _ => by rw [place]; rfl)
  | clearFunctionCalls place =>
      rw [place] at gone
      have absent := gone rfl
      have nonePushing := alert.clearing (by rw [place]; rfl)
      refine ⟨?_, ?_, fun _ _ => ⟨nonePushing, fun _ queued => (queued rfl).elim⟩, nofun⟩
      · intro waits
        rw [absent] at waits
        cases waits
      · intro enters
        rw [absent] at enters
        cases enters

theorem callerStep {caller : Nat} (alert : Alert manager)
    (steps : CallerStep manager caller next) : Alert next := by
  cases steps with
  | push =>
      refine alert.callers rfl rfl rfl (fun none => nonePushing_setCaller none nofun) ?_
      exact fun _ _ _ _ => ⟨caller, _, setCaller_self⟩
  | get place => exact alert.setCaller nofun (by rw [place]; nofun)
  | notify | notifyServed => exact busy rfl
  | pushServed place =>
      refine alert.callers rfl rfl rfl (fun none => nonePushing_setCaller none nofun) ?_
      intro none _ calm
      exact (none calm caller _ place).elim

theorem step [INetworkManagerCore Core] {action : NetworkManagerAction Core Interface Value}
    (cycle : LifeCycle manager) (serves : Serves manager) (alert : Alert manager)
    (steps : (networkManagerSystem Core Interface Value).step manager action = some next) :
    Alert next := by
  cases managerStep_of_step steps with
  | network runs => exact alert.run cycle runs
  | wake parked =>
      exact alert.move rfl rfl rfl (fun _ => .inl (by rw [parked]; rfl)) nofun nofun id
  | initRefused place | init place =>
      exact alert.move rfl rfl rfl .inl (fun enters running => .inl ⟨enters, running⟩)
        (fun absent _ => ⟨absent, by rw [place]; rfl⟩) nofun
  | kill =>
      exact alert.move rfl rfl rfl .inl (fun enters running => .inl ⟨enters, running⟩) nofun
        nofun
  | control steps => exact alert.controlStep cycle serves steps
  | call rests | connectionServed rests | callRefused rests | servedRefused rests =>
      refine alert.setCaller nofun ?_
      intro promise notifies
      rw [notifies] at rests
      cases rests
  | caller steps => exact alert.callerStep steps

end Alert

end NetworkManager

open NetworkManager

variable {Core Interface Value : Type} [INetworkManagerCore Core]

/-- In no state that is reached by any number of `init` and `kill` is a function
left to a thread that sleeps. -/
theorem no_sleeping_call {manager : NetworkManager Core Interface Value}
    (reached : (networkManagerSystem Core Interface Value).Reachable manager) :
    ¬ manager.Sleeps := by
  obtain ⟨-, alert⟩ : Serves manager ∧ Alert manager := by
    apply reached.invariant (fun manager => Serves manager ∧ Alert manager)
    · rintro _ rfl
      exact ⟨.initial, .initial⟩
    · rintro _ _ _ before ⟨serves, alert⟩ _ steps
      exact ⟨serves.step steps, alert.step (lifeCycle_of_reachable before) serves steps⟩
  rintro ⟨queued, parked, calm, none⟩
  obtain ⟨-, some⟩ := alert.waiting (by rw [parked]; rfl)
  obtain ⟨caller, promise, notifies⟩ := some calm queued
  have notNotifying := none caller
  rw [notifies] at notNotifying
  cases notNotifying

/-- The first network thread resets `m_Busy` behind the notification of a listener's
thread and ends, and the core is destroyed after this thread has pushed.  The second
network thread parks.  A client has pushed and not notified. -/
theorem no_sleeping_call_again :
    ∃ manager : NetworkManager (NetworkManagerCore ListenerQueues) Unit Outcome,
      manager.kills = 1 ∧ manager.functionCalls ≠ [] ∧ manager.thread = .parked ∧
      manager.busy = false ∧ ¬ manager.Sleeps := by
  have executes : ∃ manager : NetworkManager (NetworkManagerCore ListenerQueues) Unit Outcome,
      (networkManagerSystem _ _ _).run {}
        (initManager ++ [.connectionServed 1 .ok, .caller 1] ++
          List.replicate 6 (.network .ok) ++ [.kill, .control true, .control true] ++
          List.replicate 4 (.network .ok) ++ [.control true, .caller 1] ++
          List.replicate 4 (.control true) ++ [.init {} ()] ++
          List.replicate 6 (.control true) ++ List.replicate 3 (.network .ok) ++
          [.call 0 fun core => (CoreOperation.createListener none).perform core, .caller 0]) =
            some manager ∧
      manager.kills = 1 ∧ manager.functionCalls.length = 1 ∧ manager.thread = .parked ∧
      manager.busy = false :=
    ⟨_, rfl, rfl, rfl, rfl, rfl⟩
  obtain ⟨manager, executes, again, queued, parked, calm⟩ := executes
  refine ⟨manager, again, ?_, parked, calm,
    no_sleeping_call (TransitionSystem.reachable_of_run rfl executes)⟩
  exact List.length_pos_iff.mp (by omega)

end HttpServer
