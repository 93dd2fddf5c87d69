import HttpServer.ManagerEntries

/-!
# Starting a listener that was stopped

`stopListening` returns before the listener's thread has closed the handles, and
`initSocket` refuses as long as one of them is left.  A start after a stop
therefore succeeds exactly when the thread is done by the time `initSocket` looks
at the handles.
-/

namespace HttpServer

open Listener ManagerWorld NetworkManagerCore

namespace ManagerWorld

variable {world next : ManagerWorld}

theorem target_of_callAction {call : FunctionCall} {listener : HListener} {move : EntryAction}
    (acts : world.callAction call = some (listener, move)) : call.target? = some listener := by
  unfold callAction at acts
  split at acts <;> (try split at acts) <;> cases acts <;> rfl

/-- Taking up a function does not tell of a stop, queues nothing, and is in
progress on the function's own listener only. -/
theorem begin_frame {call : FunctionCall} (begins : BeginStep world call next) :
    next.stopped = world.stopped ∧ next.functionCalls = world.functionCalls ∧
      ∀ listener, next.net.listener? = some listener → call.target? = some listener := by
  cases begins with
  | creates | refused | popsReceived | pushes | popsError | serves => exact ⟨rfl, rfl, nofun⟩
  | starts | destructs => exact ⟨rfl, rfl, fun _ on => on⟩
  | drops acts _ _ nextNet =>
      refine ⟨rfl, rfl, fun listener on => ?_⟩
      rcases nextNet with rfl | rfl
      · exact (target_of_callAction acts).trans on
      · exact (target_of_callAction acts).trans on

/-- An operation in progress that goes on ends or stays on its listener, and only
the end of a stop is told. -/
theorem proceed_frame {listener : HListener} {call : ListenerCall}
    (target : world.net.listener? = some listener)
    (proceeds : ProceedStep world listener call next) :
    (∀ other, next.net.listener? = some other → other = listener) ∧
      (next.stopped = world.stopped ∨
        call = .stopReturned ∧
          next.stopped = Function.update world.stopped listener true ∧
          next.net.listener? = none ∧
          next.core = world.core.callListener listener fun object =>
            object.callGoTo .idle) := by
  cases proceeds with
  | initFails | startFails | started | erases => exact ⟨nofun, Or.inl rfl⟩
  | adopts => exact ⟨fun other on => Option.some.inj (on.symm.trans target), Or.inl rfl⟩
  | stopped => exact ⟨nofun, Or.inr ⟨rfl, rfl, rfl, rfl⟩⟩
  | destructs => exact ⟨fun other on => (Option.some.inj on).symm, Or.inl rfl⟩

/-- An entry without a socket stays without one while only its thread makes
steps. -/
theorem EntriesStep.unbound {acted : Option (HListener × EntryAction)}
    (step : EntriesStep world next acted) {listener : HListener}
    {info : ListenerInfo Listener}
    (found : world.core.listeners.lookup listener = some info)
    (unbound : info.socket = hSteamListenSocketInvalid)
    (free : world.net.listener? ≠ some listener)
    (threadOnly : ∀ move, acted = some (listener, move) →
      move = .wake ∨ ∃ received, move = .run received) :
    ∃ changed, next.core.listeners.lookup listener = some changed ∧
      changed.socket = hSteamListenSocketInvalid := by
  obtain ⟨changed, foundNext⟩ := step.kept listener info found free
  refine ⟨changed, foundNext, ?_⟩
  rcases (step.entry listener changed foundNext).2 with
    created | ⟨before, foundBefore, rfl | ⟨move, acts, moves⟩⟩
  · exact created.1.2
  · obtain rfl := Option.some.inj (found.symm.trans foundBefore)
    exact unbound
  · obtain rfl := Option.some.inj (found.symm.trans foundBefore)
    rcases threadOnly move acts with rfl | ⟨received, rfl⟩
    · obtain ⟨object, _, rfl⟩ := Option.map_eq_some_iff.mp moves
      exact unbound
    · obtain ⟨object, _, rfl⟩ := Option.map_eq_some_iff.mp moves
      exact unbound

/-- After a `stopListening` that has returned OK no operation is in progress on
the listener, and no socket is stored for it. -/
def StopsFit (world : ManagerWorld) : Prop :=
  ∀ listener, world.stopped listener = true → world.net.listener? ≠ some listener ∧
    ∃ info, world.core.listeners.lookup listener = some info ∧
      info.socket = hSteamListenSocketInvalid

theorem StopsFit.step (stops : world.StopsFit) {action : ManagerAction}
    (reaches : managerSystem.Reachable world)
    (steps : managerSystem.step world action = some next) : next.StopsFit := by
  have fits := callsFit_of_reachable reaches
  have entries := entriesStep fits steps
  intro listener stopped
  cases step_of_step steps with
  | request => exact stops listener stopped
  | @pollFunctionCall call rest _ net calls begins =>
      obtain ⟨sameStopped, _, target⟩ := begin_frame begins
      have acts : world.entryAction .pollFunctionCall = world.callAction call := by
        rw [entryAction, calls]
        rfl
      rw [sameStopped] at stopped
      dsimp only [takeUp] at stopped
      have other : call.target? ≠ some listener := by
        intro same
        simp [same] at stopped
      have before : world.stopped listener = true := by
        cases call' : call.target? with
        | none => simpa [call'] using stopped
        | some called =>
            have different : listener ≠ called := by
              rintro rfl
              exact other call'
            simpa [call', Function.update_of_ne different] using stopped
      obtain ⟨free, info, found, unbound⟩ := stops listener before
      refine ⟨fun on => other (target listener on),
        entries.unbound found unbound free fun move acted => ?_⟩
      rw [acts] at acted
      exact absurd (target_of_callAction acted) other
  | listenerCall target =>
      obtain ⟨free, info, found, unbound⟩ := stops listener stopped
      refine ⟨free, entries.unbound found unbound free fun move acted => ?_⟩
      rw [entryAction, target] at acted
      cases acted
      exact absurd target free
  | returns =>
      obtain ⟨free, info, found, unbound⟩ := stops listener stopped
      exact ⟨(by rintro ⟨⟩), info, found, unbound⟩
  | @proceed called calledInfo _ target foundCalled proceeds =>
      obtain ⟨onlyOn, sameStopped | ⟨call, told, ended, core⟩⟩ := proceed_frame target proceeds
      · rw [sameStopped] at stopped
        obtain ⟨free, info, found, unbound⟩ := stops listener stopped
        have different : listener ≠ called := by
          rintro rfl
          exact free target
        refine ⟨fun on => different (onlyOn listener on),
          entries.unbound found unbound free fun move acted => ?_⟩
        rw [entryAction, target, Option.bind_some, foundCalled, Option.bind_some] at acted
        obtain ⟨_, _, same⟩ := Option.map_eq_some_iff.mp acted
        cases same
        exact absurd rfl different
      · refine ⟨by rw [ended]; rintro ⟨⟩, ?_⟩
        by_cases same : listener = called
        · subst same
          have coherent := coherent_of_found reaches foundCalled
          refine ⟨calledInfo.setListener (calledInfo.listener.callGoTo .idle), ?_, ?_⟩
          · rw [core, lookup_callListener, if_pos rfl, foundCalled]
            rfl
          · exact coherent.unbound (by rw [call]; rfl)
        · rw [told, Function.update_of_ne same] at stopped
          obtain ⟨free, info, found, unbound⟩ := stops listener stopped
          refine ⟨info, ?_, unbound⟩
          rw [core, lookup_callListener, if_neg same, found]
  | runCallback =>
      obtain ⟨free, info, found, unbound⟩ := stops listener stopped
      exact ⟨free, entries.unbound found unbound free (by rintro _ ⟨⟩)⟩
  | @run _ received =>
      obtain ⟨free, info, found, unbound⟩ := stops listener stopped
      refine ⟨free, entries.unbound found unbound free fun move acted => ?_⟩
      cases acted
      exact Or.inr ⟨received, rfl⟩
  | wake =>
      obtain ⟨free, info, found, unbound⟩ := stops listener stopped
      refine ⟨free, entries.unbound found unbound free fun move acted => ?_⟩
      cases acted
      exact Or.inl rfl

theorem stopsFit_of_reachable (reaches : managerSystem.Reachable world) : world.StopsFit := by
  refine reaches.invariant StopsFit ?_ ?_
  · intro world starts listener stopped
    obtain rfl : world = {} := starts
    cases stopped
  · intro world action next reached stops _ steps
    exact stops.step reached steps

end ManagerWorld

/-- Every handle that `initSocket` creates is valid. -/
def createsValid (info : ListenerInfo Listener) : EntryAction → Bool
  | .callStep handle =>
      match info.listener.call with
      | .createSocket _ | .createPollGroup => handle ≠ 0
      | _ => true
  | _ => true

/-- `initSocket` finds both handles invalid when it looks at them. -/
def findsClosed (info : ListenerInfo Listener) : EntryAction → Bool
  | .callStep _ =>
      match info.listener.call with
      | .initGuard _ => !info.listener.core.isInitialized
      | _ => true
  | _ => true

/-- The error of an `initSocket` that finds a handle left. -/
def socketInitialized : ErrorValue :=
  makeError .eInvalidCall "A Socket is initialized try Calling DestroySocket first"

namespace NetThread

def isStarting (listener : HListener) : NetThread → Bool
  | starting other => other = listener
  | _ => false

theorem eq_starting {net : NetThread} {listener : HListener}
    (starts : net.isStarting listener = true) : net = .starting listener := by
  cases net with
  | starting other => rw [of_decide_eq_true starts]
  | _ => cases starts

end NetThread

namespace ListenerCall

/-- A point of a `startListening` that has met no obstacle. -/
def isUnhindered : ListenerCall → Bool
  | initTest _ | initGuard _ | createSocket _ | createPollGroup | initReturn
  | initReturned (.ok _) | startTest | startSet | startReturned (.ok ()) => true
  | _ => false

end ListenerCall

/-- A step of the manager while it starts the listener, every handle created being
valid. -/
def Starting (listener : HListener) (world : ManagerWorld) (action : ManagerAction) : Prop :=
  world.net.isStarting listener = true ∧ everywhere createsValid world action = true

/-- The same, `initSocket` finding both handles invalid. -/
def StartingClosed (listener : HListener) (world : ManagerWorld)
    (action : ManagerAction) : Prop :=
  Starting listener world action ∧ everywhere findsClosed world action = true

instance {listener : HListener} {world : ManagerWorld} {action : ManagerAction} :
    Decidable (Starting listener world action) :=
  inferInstanceAs (Decidable (_ = true ∧ _ = true))

instance {listener : HListener} {world : ManagerWorld} {action : ManagerAction} :
    Decidable (StartingClosed listener world action) :=
  inferInstanceAs (Decidable (_ ∧ _ = true))

namespace ManagerWorld

variable {world next : ManagerWorld} {listener : HListener} {info : ListenerInfo Listener}

/-- The start is at a point that fits, or has returned the result. -/
def OnWay (world : ManagerWorld) (listener : HListener)
    (fitting : ListenerCall → Prop) (result : Result Unit) : Prop :=
  (world.net = .starting listener ∧ ∃ info,
    world.core.listeners.lookup listener = some info ∧ fitting info.listener.call) ∨
  world.net = .returned (.done result)

/-- The start is on its way to OK. -/
def Succeeds (world : ManagerWorld) (listener : HListener) : Prop :=
  world.OnWay listener (fun call => call.isUnhindered = true) (.ok ())

/-- `initSocket` has refused the start. -/
def Refused (world : ManagerWorld) (listener : HListener) : Prop :=
  world.OnWay listener (fun call => call = .initReturned (.error socketInitialized))
    (.error socketInitialized)

/-- While a start is in progress an action leaves its call alone, or is the next
statement of the call, or takes up its result. -/
theorem step_of_starting {action : ManagerAction} (starts : world.net = .starting listener)
    (found : world.core.listeners.lookup listener = some info)
    (steps : managerSystem.step world action = some next) :
    (next.net = world.net ∧ (∀ handle, action ≠ .listenerCall handle) ∧ ∃ object,
      next.core.listeners.lookup listener = some (info.setListener object) ∧
      object.call = info.listener.call) ∨
    (∃ handle object, action = .listenerCall handle ∧
      info.listener.callStep handle = some object ∧ next.net = world.net ∧
      next.core.listeners.lookup listener = some (info.setListener object)) ∨
    (action = .proceed ∧ ProceedStep world listener info.listener.call next) := by
  have target : world.net.listener? = some listener := by
    rw [starts]
    rfl
  cases step_of_step steps with
  | request => exact Or.inl ⟨rfl, nofun, info.listener, found, rfl⟩
  | pollFunctionCall net | returns net | runCallback net => cases starts.symm.trans net
  | @listenerCall called _ handle object on foundCalled calls =>
      obtain rfl := Option.some.inj (on.symm.trans target)
      obtain rfl := Option.some.inj (found.symm.trans foundCalled)
      refine Or.inr (Or.inl ⟨handle, object, rfl, calls, rfl, ?_⟩)
      exact lookup_callListener.trans (by rw [if_pos rfl, found]; rfl)
  | proceed on foundCalled proceeds =>
      obtain rfl := Option.some.inj (on.symm.trans target)
      obtain rfl := Option.some.inj (found.symm.trans foundCalled)
      exact Or.inr (Or.inr ⟨rfl, proceeds⟩)
  | @run other _ _ object foundOther runs =>
      refine Or.inl ⟨rfl, nofun, ?_⟩
      by_cases same : listener = other
      · subst same
        obtain rfl := Option.some.inj (found.symm.trans foundOther)
        refine ⟨object, ?_, (run_frame runs).1⟩
        exact lookup_callListener.trans (by rw [if_pos rfl, found]; rfl)
      · refine ⟨info.listener, ?_, rfl⟩
        exact lookup_callListener.trans (by rw [if_neg same, found]; rfl)
  | @wake other _ object foundOther wakes =>
      refine Or.inl ⟨rfl, nofun, ?_⟩
      by_cases same : listener = other
      · subst same
        obtain rfl := Option.some.inj (found.symm.trans foundOther)
        refine ⟨object, ?_, ?_⟩
        · exact lookup_callListener.trans (by rw [if_pos rfl, found]; rfl)
        · obtain ⟨_, rfl⟩ := Listener.wake_eq_some.mp wakes
          rfl
      · refine ⟨info.listener, ?_, rfl⟩
        exact lookup_callListener.trans (by rw [if_neg same, found]; rfl)

end ManagerWorld

/-- The next statement of an unhindered start is hindered by a handle that
`initSocket` finds, and by nothing else. -/
theorem callStep_unhindered {info : ListenerInfo Listener} (coherent : Coherent info)
    {handle : UInt32} {object : Listener}
    (unhindered : info.listener.call.isUnhindered = true)
    (valid : createsValid info (.callStep handle) = true)
    (steps : info.listener.callStep handle = some object) :
    if findsClosed info (.callStep handle) = true then object.call.isUnhindered = true
    else object.call = .initReturned (.error socketInitialized) := by
  have quiet := coherent.quiet
  have fits := coherent.handles
  unfold ListenerInfo.HandlesFit at fits
  unfold createsValid at valid
  unfold findsClosed
  cases callStep_of_callStep steps with
  | initListening call listening =>
      rw [call] at quiet
      exact nomatch (quiet rfl).symm.trans listening
  | initInitialized call initialized =>
      simp only [call, initialized]
      rfl
  | initGuard call closed =>
      simp only [call, closed]
      rfl
  | socketFailed call failed | pollGroupFailed call failed =>
      rw [call] at valid
      exact absurd failed (of_decide_eq_true valid)
  | startInvalid call invalid =>
      rw [call] at fits
      rcases invalid with invalid | invalid
      · exact absurd invalid fits.1.1
      · exact absurd invalid fits.1.2
  | startSet call =>
      simp only [call]
      rw [if_pos trivial, notify_call]
      rfl
  | initTest call | createSocket call | createPollGroup call | initReturn call
  | startTest call =>
      simp only [call]
      rfl
  | closeSocket call | resetSocket call | stopSet call | dtorFlag call | dtorNotify call
  | dtorJoin call =>
      rw [call] at unhindered
      cases unhindered

namespace ManagerWorld

variable {world next : ManagerWorld} {listener : HListener} {info : ListenerInfo Listener}
  {action : ManagerAction}

/-- A condition on the statements of a call says nothing of other actions. -/
theorem everywhere_of_ne_listenerCall {condition : ListenerInfo Listener → EntryAction → Bool}
    (callsOnly : ∀ info move, (∀ handle, move ≠ .callStep handle) → condition info move = true)
    (other : ∀ handle, action ≠ .listenerCall handle) :
    everywhere condition world action = true := by
  by_contra fails
  rw [Bool.not_eq_true, everywhere_eq_false] at fails
  obtain ⟨called, move, info, acts, _, fails⟩ := fails
  by_cases isCall : ∃ handle, move = .callStep handle
  · obtain ⟨handle, rfl⟩ := isCall
    exact other handle (listenerCall_of_entryAction acts)
  · have holds := callsOnly info move fun handle same => isCall ⟨handle, same⟩
    exact absurd (holds.symm.trans fails) (by decide)

theorem everywhere_listenerCall {condition : ListenerInfo Listener → EntryAction → Bool}
    (starts : world.net = .starting listener)
    (found : world.core.listeners.lookup listener = some info) (handle : UInt32) :
    everywhere condition world (.listenerCall handle) = condition info (.callStep handle) := by
  simp [everywhere, entryAction, starts, NetThread.listener?, found]

theorem findsClosed_of_ne_callStep (info : ListenerInfo Listener) (move : EntryAction)
    (other : ∀ handle, move ≠ .callStep handle) : findsClosed info move = true := by
  unfold findsClosed
  split
  next handle => exact absurd rfl (other handle)
  · rfl

theorem OnWay.point {fitting : ListenerCall → Prop} {result : Result Unit}
    (onWay : world.OnWay listener fitting result) (starts : world.net = .starting listener) :
    ∃ info, world.core.listeners.lookup listener = some info ∧ fitting info.listener.call := by
  rcases onWay with ⟨_, point⟩ | returned
  · exact point
  · cases starts.symm.trans returned

/-- A start that has met no obstacle goes on without one, unless `initSocket` now
finds a handle left. -/
theorem Succeeds.step (succeeds : world.Succeeds listener)
    (reaches : managerSystem.Reachable world) (meets : Starting listener world action)
    (steps : managerSystem.step world action = some next) :
    if everywhere findsClosed world action = true then next.Succeeds listener
    else next.Refused listener := by
  have starts := NetThread.eq_starting meets.1
  obtain ⟨info, found, unhindered⟩ := succeeds.point starts
  rcases step_of_starting starts found steps with
    ⟨sameNet, notCall, object, foundNext, sameCall⟩ |
    ⟨handle, object, rfl, calls, sameNet, foundNext⟩ | ⟨rfl, proceeds⟩
  · rw [if_pos (everywhere_of_ne_listenerCall findsClosed_of_ne_callStep notCall)]
    refine Or.inl ⟨sameNet.trans starts, _, foundNext, ?_⟩
    exact (congrArg ListenerCall.isUnhindered sameCall).trans unhindered
  · have valid := meets.2
    rw [everywhere_listenerCall starts found] at valid
    have hindered := callStep_unhindered (coherent_of_found reaches found) unhindered valid calls
    rw [everywhere_listenerCall starts found]
    split
    next closed =>
      rw [if_pos closed] at hindered
      exact Or.inl ⟨sameNet.trans starts, _, foundNext, hindered⟩
    next left =>
      rw [if_neg left] at hindered
      exact Or.inl ⟨sameNet.trans starts, _, foundNext, hindered⟩
  · have notCall (handle : UInt32) : ManagerAction.proceed ≠ .listenerCall handle := by
      intro same
      cases same
    rw [if_pos (everywhere_of_ne_listenerCall findsClosed_of_ne_callStep notCall)]
    generalize call : info.listener.call = point at proceeds unhindered
    cases proceeds with
    | initFails | startFails => cases unhindered
    | adopts =>
        refine Or.inl ⟨starts, ?_⟩
        dsimp only
        rw [lookup_callListener, if_pos rfl, listeners_record, lookup_adoptSocket,
          if_pos rfl, found]
        exact ⟨_, rfl, rfl⟩
    | started => exact Or.inr rfl
    | stopped net | destructs net | erases net => cases starts.symm.trans net

/-- A refused start returns the error. -/
theorem Refused.step (refused : world.Refused listener) (meets : Starting listener world action)
    (steps : managerSystem.step world action = some next) : next.Refused listener := by
  have starts := NetThread.eq_starting meets.1
  obtain ⟨info, found, call⟩ := refused.point starts
  rcases step_of_starting starts found steps with
    ⟨sameNet, notCall, object, foundNext, sameCall⟩ |
    ⟨handle, object, rfl, calls, sameNet, foundNext⟩ | ⟨rfl, proceeds⟩
  · exact Or.inl ⟨sameNet.trans starts, _, foundNext, sameCall.trans call⟩
  · simp [Listener.callStep, call] at calls
  · rw [call] at proceeds
    cases proceeds with
    | initFails => exact Or.inr rfl

end ManagerWorld

namespace ListenerCall

/-- An upper bound on the statements that a `startListening` still makes. -/
def startRank : ListenerCall → Nat
  | initTest _ => 10
  | initGuard _ => 9
  | createSocket _ => 8
  | createPollGroup => 7
  | closeSocket => 6
  | resetSocket => 5
  | initReturn => 5
  | initReturned _ => 4
  | startTest => 3
  | startSet => 2
  | startReturned _ => 1
  | _ => 0

end ListenerCall

namespace ListenThread

/-- How many statements the thread makes before it gives up the mutex. -/
def lockRank : ListenThread → Nat
  | loopTest => 3
  | waitTest => 2
  | park | unlock => 1
  | _ => 0

theorem lockRank_le (place : ListenThread) : place.lockRank ≤ 3 := by
  unfold lockRank
  split
  · rfl
  · decide
  · decide
  · decide
  · decide

end ListenThread

namespace Listener

variable {listener : Listener}

/-- A thread that owns the mutex goes on and gives it up. -/
theorem run_lockRank (owns : listener.thread.ownsMutex = true) :
    ∃ next, listener.run .none = some next ∧ next.call = listener.call ∧
      next.thread.lockRank < listener.thread.lockRank := by
  unfold run
  cases place : listener.thread <;> rw [place] at owns <;> try (cases owns; done)
  case loopTest =>
    by_cases alive : listener.running = true
    · exact ⟨_, if_pos alive, rfl, by simp [goTo, ListenThread.lockRank]⟩
    · exact ⟨_, if_neg alive, rfl, by simp [goTo, ListenThread.lockRank]⟩
  case waitTest =>
    by_cases leaves : (!listener.running || listener.listening) = true
    · exact ⟨_, if_pos leaves, rfl, by simp [goTo, ListenThread.lockRank]⟩
    · exact ⟨_, if_neg leaves, rfl, by simp [goTo, ListenThread.lockRank]⟩
  case park => exact ⟨_, rfl, rfl, by simp [goTo, ListenThread.lockRank]⟩
  case unlock => exact ⟨_, rfl, rfl, by simp [goTo, ListenThread.lockRank]⟩

/-- The call of a start that has not returned goes on, unless it waits for the
mutex. -/
theorem callStep_startRank (calling : listener.call.isStart = true)
    (unlocked : listener.thread.ownsMutex = false)
    (unfinished : ∀ result, listener.call ≠ .initReturned result)
    (unreturned : ∀ result, listener.call ≠ .startReturned result) :
    ∃ next, listener.callStep 1 = some next ∧
      next.call.startRank < listener.call.startRank := by
  unfold callStep
  cases call : listener.call <;> rw [call] at calling <;> (try (cases calling; done)) <;>
    dsimp only
  case initReturned result => exact absurd call (unfinished result)
  case startReturned result => exact absurd call (unreturned result)
  case startSet =>
    rw [unlocked]
    exact ⟨_, rfl, by rw [notify_call]; simp [callGoTo, ListenerCall.startRank]⟩
  all_goals
    first
    | exact ⟨_, rfl, by simp [callGoTo, ListenerCall.startRank]⟩
    | split <;> exact ⟨_, rfl, by simp [callGoTo, ListenerCall.startRank]⟩

end Listener

namespace ManagerWorld

variable {world next : ManagerWorld} {listener : HListener} {info : ListenerInfo Listener}

/-- How far a start in progress is from its return. -/
def startDistance (info : ListenerInfo Listener) : Nat :=
  4 * info.listener.call.startRank + info.listener.thread.lockRank

theorem createsValid_of_ne_callStep (info : ListenerInfo Listener) (move : EntryAction)
    (other : ∀ handle, move ≠ .callStep handle) : createsValid info move = true := by
  unfold createsValid
  split
  next handle => exact absurd rfl (other handle)
  · rfl

theorem createsValid_one (info : ListenerInfo Listener) :
    createsValid info (.callStep 1) = true := by
  dsimp only [createsValid]
  split
  · rfl
  · rfl
  · rfl

theorem isStarting_of_eq (starts : world.net = .starting listener) :
    world.net.isStarting listener = true := by
  rw [starts]
  exact decide_eq_true rfl

/-- A start in progress can always go on, or its listener's thread can, and either
brings it closer to its return. -/
theorem start_advances (starts : world.net = .starting listener)
    (found : world.core.listeners.lookup listener = some info)
    (calling : info.listener.call.isStart = true) :
    ∃ action next, Starting listener world action ∧
      managerSystem.step world action = some next ∧
      ((∃ result, next.net = .returned (.done result)) ∨
        next.net = .starting listener ∧ ∃ changed,
          next.core.listeners.lookup listener = some changed ∧
          startDistance changed < startDistance info) := by
  have target : world.net.listener? = some listener := by
    rw [starts]
    rfl
  have inStart := isStarting_of_eq starts
  have proceeds : world.proceed = world.proceedWith listener info.listener.call := by
    simp [proceed, starts, NetThread.listener?, found]
  have proceedValid : Starting listener world .proceed :=
    ⟨inStart, everywhere_of_ne_listenerCall createsValid_of_ne_callStep
      fun handle same => by cases same⟩
  by_cases finished : ∃ result, info.listener.call = .initReturned result
  · obtain ⟨result, call⟩ := finished
    cases result with
    | error err =>
        simp only [proceedWith, starts, call] at proceeds
        exact ⟨.proceed, _, proceedValid, proceeds, Or.inl ⟨_, rfl⟩⟩
    | ok handlers =>
        simp only [proceedWith, starts, call] at proceeds
        refine ⟨.proceed, _, proceedValid, proceeds, Or.inr ⟨rfl, info.setListener
          { info.listener.callGoTo .startTest with session := info.listener.session + 1 } |>
            fun changed => { changed with socket := handlers.socket }, ?_, ?_⟩⟩
        · dsimp only
          rw [lookup_callListener, if_pos rfl, listeners_record, lookup_adoptSocket,
            if_pos rfl, found]
          rfl
        · simp [startDistance, ListenerInfo.setListener, callGoTo, call,
            ListenerCall.startRank]
  by_cases returned : ∃ result, info.listener.call = .startReturned result
  · obtain ⟨result, call⟩ := returned
    cases result with
    | error err =>
        simp only [proceedWith, starts, call] at proceeds
        exact ⟨.proceed, _, proceedValid, proceeds, Or.inl ⟨_, rfl⟩⟩
    | ok =>
        simp only [proceedWith, starts, call] at proceeds
        exact ⟨.proceed, _, proceedValid, proceeds, Or.inl ⟨_, rfl⟩⟩
  by_cases owns : info.listener.thread.ownsMutex = true
  · obtain ⟨object, runs, sameCall, closer⟩ := run_lockRank owns
    obtain ⟨next, runStep, core, net⟩ : ∃ next, world.run listener .none = some next ∧
        next.core = (world.core.callListener listener fun _ => object) ∧
        next.net = world.net := by
      rw [ManagerWorld.run, found, Option.bind_some, runs]
      exact ⟨_, rfl, rfl, rfl⟩
    refine ⟨.run listener .none, next, ⟨inStart, ?_⟩, runStep,
      Or.inr ⟨net.trans starts, info.setListener object, ?_, ?_⟩⟩
    · exact everywhere_of_ne_listenerCall createsValid_of_ne_callStep
        fun handle same => by cases same
    · rw [core, lookup_callListener, if_pos rfl, found]
      rfl
    · simp only [startDistance, ListenerInfo.setListener, sameCall]
      omega
  · obtain ⟨object, calls, closer⟩ := callStep_startRank calling (eq_false_of_ne_true owns)
      (fun result call => finished ⟨result, call⟩) fun result call => returned ⟨result, call⟩
    have steps : world.listenerCall 1 = some
        { world with core := world.core.callListener listener fun _ => object } := by
      rw [listenerCall, target, Option.bind_some, found, Option.bind_some, calls]
      rfl
    refine ⟨.listenerCall 1, _, ⟨inStart, ?_⟩, steps,
      Or.inr ⟨starts, info.setListener object, ?_, ?_⟩⟩
    · rw [everywhere_listenerCall starts found]
      exact createsValid_one info
    · exact lookup_callListener.trans (by rw [if_pos rfl, found]; rfl)
    · have bound := ListenThread.lockRank_le object.thread
      simp only [startDistance, ListenerInfo.setListener]
      omega

/-- From any point a start can run to its return. -/
theorem start_returns (reaches : managerSystem.Reachable world)
    (starts : world.net = .starting listener)
    (found : world.core.listeners.lookup listener = some info) :
    ∃ actions last result, managerSystem.StepsWhere (Starting listener) world actions last ∧
      last.net = .returned (.done result) := by
  induction distance : startDistance info using Nat.strong_induction_on
    generalizing world info with
  | _ distance ih =>
      have calling : info.listener.call.isStart = true := by
        have fits := callsFit_of_reachable reaches listener info found
        simpa [starts, NetThread.Fits] using fits
      obtain ⟨action, next, meets, steps,
          ⟨result, returned⟩ | ⟨further, changed, foundNext, closer⟩⟩ :=
        start_advances starts found calling
      · exact ⟨[action], next, result, .single meets steps, returned⟩
      · obtain ⟨actions, last, result, rest, returned⟩ :=
          ih _ (distance ▸ closer) (reaches.step trivial steps) further foundNext rfl
        exact ⟨action :: actions, last, result,
          (TransitionSystem.StepsWhere.single meets steps).trans rest, returned⟩

/-- The start of a listener that was stopped finds no socket stored. -/
theorem begin_of_stopped {begun : ManagerWorld} {port : UInt16} {rest : List FunctionCall}
    (reaches : managerSystem.Reachable world) (stopped : world.stopped listener = true)
    (queued : world.functionCalls = .startListening listener port :: rest)
    (begins : managerSystem.step world .pollFunctionCall = some begun) :
    begun.Succeeds listener := by
  obtain ⟨_, info, found, unbound⟩ := stopsFit_of_reachable reaches listener stopped
  change world.pollFunctionCall = some begun at begins
  unfold pollFunctionCall at begins
  split at begins
  next call others net calls =>
    rw [queued] at calls
    cases calls
    have valid : world.core.isValidListenerHandler listener = .ok info :=
      isValidListenerHandler_eq_ok.mpr found
    simp only [begin, beginStart, valid, unbound, ne_eq, not_true_eq_false, if_false,
      Option.some.injEq] at begins
    subst begins
    refine Or.inl ⟨rfl, info.setListener (info.listener.callGoTo (.initTest port)), ?_, rfl⟩
    exact lookup_callListener.trans (by rw [if_pos rfl, listeners_record, found]; rfl)
  · cases begins

/-- A start either has met no obstacle or has been refused. -/
theorem onWay_of_steps {begun last : ManagerWorld} {actions : List ManagerAction}
    (reaches : managerSystem.Reachable begun) (succeeds : begun.Succeeds listener)
    (steps : managerSystem.StepsWhere (Starting listener) begun actions last) :
    (managerSystem.StepsWhere (StartingClosed listener) begun actions last ∧
      last.Succeeds listener) ∨ last.Refused listener := by
  refine steps.invariant
    (fun actions last => (managerSystem.StepsWhere (StartingClosed listener) begun actions last ∧
      last.Succeeds listener) ∨ last.Refused listener) ?_ ?_
  · exact Or.inl ⟨.refl, succeeds⟩
  · intro actions middle action last before onWay meets stepTo
    have reached := reaches.steps (before.mono fun _ _ _ => trivial)
    rcases onWay with ⟨closed, succeeds⟩ | refused
    · have goesOn := succeeds.step reached meets stepTo
      split at goesOn
      next findsClosed => exact Or.inl ⟨closed.tail ⟨meets, findsClosed⟩ stepTo, goesOn⟩
      next => exact Or.inr goesOn
    · exact Or.inr (refused.step meets stepTo)

theorem succeeds_of_closed {begun last : ManagerWorld} {actions : List ManagerAction}
    (reaches : managerSystem.Reachable begun) (succeeds : begun.Succeeds listener)
    (steps : managerSystem.StepsWhere (StartingClosed listener) begun actions last) :
    last.Succeeds listener := by
  refine steps.invariant (fun _ last => last.Succeeds listener) succeeds ?_
  intro actions middle action last before onWay meets stepTo
  have reached := reaches.steps (before.mono fun _ _ _ => trivial)
  have goesOn := onWay.step reached meets.1 stepTo
  rwa [if_pos meets.2] at goesOn

theorem OnWay.result {fitting : ListenerCall → Prop} {expected result : Result Unit}
    (onWay : world.OnWay listener fitting expected)
    (returned : world.net = .returned (.done result)) : result = expected := by
  rcases onWay with ⟨starts, _⟩ | ended
  · cases starts.symm.trans returned
  · cases ended.symm.trans returned
    rfl

end ManagerWorld

/-- A `startListening` after a `stopListening` that returned OK, every handle
created being valid, always returns, and it returns OK exactly when `initSocket`
finds both handles invalid. -/
theorem stop_then_start {world begun : ManagerWorld} {listener : HListener} {port : UInt16}
    {rest : List FunctionCall} (reaches : managerSystem.Reachable world)
    (stopped : world.stopped listener = true)
    (queued : world.functionCalls = .startListening listener port :: rest)
    (begins : managerSystem.step world .pollFunctionCall = some begun) :
    (∀ actions middle, managerSystem.StepsWhere (Starting listener) begun actions middle →
      ∃ more last result, managerSystem.StepsWhere (Starting listener) middle more last ∧
        last.net = .returned (.done result)) ∧
    ∀ actions last result, managerSystem.StepsWhere (Starting listener) begun actions last →
      last.net = .returned (.done result) →
      (result = .ok () ↔
        managerSystem.StepsWhere (StartingClosed listener) begun actions last) := by
  have succeeds := begin_of_stopped reaches stopped queued begins
  have reached := reaches.step trivial begins
  constructor
  · intro actions middle steps
    have reachedMiddle := reached.steps (steps.mono fun _ _ _ => trivial)
    rcases onWay_of_steps reached succeeds steps with
      ⟨_, ⟨starts, info, found, _⟩ | returned⟩ | ⟨starts, info, found, _⟩ | returned
    · exact start_returns reachedMiddle starts found
    · exact ⟨[], middle, _, .refl, returned⟩
    · exact start_returns reachedMiddle starts found
    · exact ⟨[], middle, _, .refl, returned⟩
  · intro actions last result steps returned
    constructor
    · rintro rfl
      rcases onWay_of_steps reached succeeds steps with ⟨closed, _⟩ | refused
      · exact closed
      · cases refused.result returned
    · intro closed
      exact (succeeds_of_closed reached succeeds closed).result returned

/-- The manager starts listener 1 on socket 5, its thread begins to poll, and the
manager stops it. -/
def startAndStop : List ManagerAction :=
  createParked ++ startParked ++ List.replicate 4 (.run 1 .none) ++ stopOne

/-- The listener's thread closes the handles and parks. -/
def tearDown : List ManagerAction := List.replicate 12 (.run 1 .none)

/-- The statements of the start of listener 1 on socket 7. -/
def restart : List ManagerAction :=
  [.listenerCall 0, .listenerCall 0, .listenerCall 7, .listenerCall 8, .listenerCall 0,
    .proceed, .listenerCall 0, .listenerCall 0, .proceed]

/-- A start that comes after the listener's thread has closed the handles. -/
theorem stop_then_start_closed :
    ∃ begun last, managerSystem.StepsWhere (Starting 1) begun restart last ∧
      last.net = .returned (.done (.ok ())) := by
  have executes : ∃ world, managerSystem.run {}
      (startAndStop ++ tearDown ++ [.request (.startListening 1 81)]) = some world ∧
      world.stopped 1 = true ∧ world.functionCalls = [.startListening 1 81] ∧
      ∃ begun last result, managerSystem.step world .pollFunctionCall = some begun ∧
        managerSystem.runWhere (StartingClosed 1) begun restart = some last ∧
        last.net = .returned (.done result) :=
    ⟨_, rfl, rfl, rfl, _, _, _, rfl, rfl, rfl⟩
  obtain ⟨world, executes, stopped, queued, begun, last, result, begins, closed, returned⟩ :=
    executes
  have steps := TransitionSystem.runWhere_eq_some_iff.mp closed
  have started := steps.mono fun _ _ meets => meets.1
  have succeeds := ((stop_then_start (TransitionSystem.reachable_of_run rfl executes) stopped
    queued begins).2 restart last result started returned).mpr steps
  exact ⟨begun, last, started, succeeds ▸ returned⟩

/-- A start that comes before the listener's thread has noticed the stop is
refused. -/
theorem stop_then_start_fails :
    ∃ world begun last, managerSystem.Reachable world ∧ world.stopped 1 = true ∧
      world.functionCalls = [.startListening 1 81] ∧
      managerSystem.step world .pollFunctionCall = some begun ∧
      managerSystem.StepsWhere (Starting 1) begun [.listenerCall 0, .listenerCall 0, .proceed]
        last ∧
      last.net = .returned (.done (.error socketInitialized)) := by
  have executes : ∃ world, managerSystem.run {}
      (startAndStop ++ [.request (.startListening 1 81)]) = some world ∧
      world.stopped 1 = true ∧ world.functionCalls = [.startListening 1 81] ∧
      ∃ begun last, managerSystem.step world .pollFunctionCall = some begun ∧
        managerSystem.runWhere (Starting 1) begun
          [.listenerCall 0, .listenerCall 0, .proceed] = some last ∧
        last.net = .returned (.done (.error socketInitialized)) :=
    ⟨_, rfl, rfl, rfl, _, _, rfl, rfl, rfl⟩
  obtain ⟨world, executes, stopped, queued, begun, last, begins, starts, refused⟩ := executes
  exact ⟨world, begun, last, TransitionSystem.reachable_of_run rfl executes, stopped, queued,
    begins, TransitionSystem.runWhere_eq_some_iff.mp starts, refused⟩

end HttpServer
