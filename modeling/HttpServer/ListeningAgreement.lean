import HttpServer.BoundedService

/-!
# Who is listening

The manager takes a listener for listening while it has a socket stored for it.
The listener itself may stop: its thread does so when it cannot receive from its
poll group, and tells nobody.  As long as that happens only to listeners that the
manager has stopped already, the manager is right about all of them.

A listener that listens may still have a thread in `DestroySocket`, which has reset
the handles and is about to clear the queues: `initSocket` only looks at the handles.
-/

namespace HttpServer

open Listener ManagerWorld NetworkManagerCore

/-- The listener's thread stops the listener only after the manager has. -/
def stopsUnbound (info : ListenerInfo Listener) : EntryAction → Bool
  | .run _ =>
      info.listener.thread ≠ .stopListening ∨ info.socket = hSteamListenSocketInvalid
  | _ => true

/-- A start does not find the handles invalid while the thread is still to clear the
queues. -/
def startsCleared (info : ListenerInfo Listener) : EntryAction → Bool
  | .callStep _ =>
      match info.listener.call with
      | .initGuard _ => info.listener.core.isInitialized || !info.listener.thread.isClearing
      | _ => true
  | _ => true

/-- No response is accepted after a failed poll, while the thread is about to stop. -/
def pushesPolled (info : ListenerInfo Listener) : EntryAction → Bool
  | .push _ _ =>
      info.listener.thread ≠ .storeError ∧ info.listener.thread ≠ .stopListening
  | _ => true

def staysAgreed (info : ListenerInfo Listener) (action : EntryAction) : Bool :=
  stopsUnbound info action && startsCleared info action && pushesPolled info action

theorem staysAgreed_eq_true {info : ListenerInfo Listener} {action : EntryAction} :
    staysAgreed info action = true ↔ stopsUnbound info action = true ∧
      startsCleared info action = true ∧ pushesPolled info action = true := by
  simp [staysAgreed, and_assoc]

namespace ListenerCall

/-- No call is being made on a listener that has been started. -/
def isSettled : ListenerCall → Bool
  | idle | startReturned _ => true
  | _ => false

end ListenerCall

/-- A listener that has a socket stored listens. -/
def Listens (info : ListenerInfo Listener) : Prop :=
  info.listener.call.isSettled = true → info.socket ≠ hSteamListenSocketInvalid →
    info.listener.listening = true

namespace Listens

variable {info next : ListenerInfo Listener}

theorem run (listens : Listens info) {received : ReceivedMessages}
    (meets : stopsUnbound info (.run received) = true)
    (steps : entryStep info (.run received) = some next) : Listens next := by
  obtain ⟨listener, runs, rfl⟩ := Option.map_eq_some_iff.mp steps
  intro settled bound
  have sameCall := (run_frame runs).1
  have place : info.listener.thread ≠ .stopListening := by
    simpa [stopsUnbound, show info.socket ≠ hSteamListenSocketInvalid from bound] using meets
  have before : info.listener.listening = true := by
    apply listens _ bound
    rw [← sameCall]
    exact settled
  change listener.listening = true
  rw [run_listening runs, before]
  simpa using place

/-- A call that ends in a settled state has started the listener. -/
theorem callStep (coherent : Coherent info) {handle : UInt32}
    (steps : entryStep info (.callStep handle) = some next) : Listens next := by
  obtain ⟨listener, calls, rfl⟩ := Option.map_eq_some_iff.mp steps
  intro settled bound
  have fits := coherent.handles
  unfold ListenerInfo.HandlesFit at fits
  change listener.call.isSettled = true at settled
  change listener.listening = true
  cases callStep_of_callStep calls with
  | startInvalid call invalid =>
      rw [call] at fits
      rcases invalid with invalid | invalid
      · exact absurd invalid fits.1.1
      · exact absurd invalid fits.1.2
  | startSet => rfl
  | stopSet | dtorNotify =>
      rw [notify_call] at settled
      cases settled
  | _ => cases settled

theorem entryStep (listens : Listens info) (coherent : Coherent info)
    {action : EntryAction} (meets : stopsUnbound info action = true)
    (steps : HttpServer.entryStep info action = some next) : Listens next := by
  cases entryStep_of_entryStep steps with
  | run => exact listens.run meets steps
  | callStep => exact Listens.callStep coherent steps
  | beginStart | adopt | beginStop | destroyStopped | destroyIdle => exact nofun
  | initFailed call | stopReturned call =>
      intro settled bound
      exact absurd (coherent.unbound (by rw [call]; rfl)) bound
  | startReturned call =>
      intro settled bound
      exact listens (by rw [call]; rfl) bound
  | wake | push | popReceived | popError => exact listens

end Listens

theorem listens_of_reachable {info : ListenerInfo Listener}
    (reaches : entrySystem.ReachableWhere (fun info move => staysAgreed info move = true)
      info) : Listens info := by
  refine reaches.invariant Listens ?_ ?_
  · intro info starts _ bound
    exact absurd starts.2 bound
  · intro info action next reached listens meets steps
    exact listens.entryStep (coherent_of_reachable reached) (staysAgreed_eq_true.mp meets).1
      steps

/-- A listener that listens, or is about to, has cleared queues. -/
structure Cleared (listener : Listener) : Prop where
  listening : listener.listening = true → listener.thread.isClearing = false
  apart : listener.call.isApart = true → listener.thread.isClearing = false

namespace Cleared

variable {listener next : Listener} {info : ListenerInfo Listener}

/-- A step that brings neither the thread to the queues nor a start about. -/
theorem keep (cleared : Cleared listener)
    (thread : next.thread.isClearing = true → listener.thread.isClearing = true)
    (listening : next.listening = true →
      listener.listening = true ∨ listener.call.isApart = true)
    (apart : next.call.isApart = true → listener.call.isApart = true) : Cleared next := by
  have still (before : listener.thread.isClearing = false) : next.thread.isClearing = false :=
    Bool.eq_false_iff.mpr fun clears => Bool.eq_false_iff.mp before (thread clears)
  refine ⟨fun listens => still ?_, fun starts => still (cleared.apart (apart starts))⟩
  exact (listening listens).elim cleared.listening cleared.apart

theorem run {received : ReceivedMessages} (cleared : Cleared info.listener)
    (coherent : Coherent info) (runs : info.listener.run received = some next) :
    Cleared next := by
  have call := (run_frame runs).1
  have before (listens : next.listening = true) : info.listener.listening = true := by
    rw [run_listening runs] at listens
    exact ((Bool.and_eq_true _ _).mp listens).1
  cases runStep_of_run runs with
  | resetPollGroup place =>
      constructor
      · intro listens
        have loops := (coherent.listening (before listens)).2
        rw [place] at loops
        cases loops
      · intro starts
        have waits := coherent.apart starts
        rw [place] at waits
        cases waits
  | clearOutgoing place | clearReceived place =>
      exact cleared.keep (fun _ => by rw [place]; rfl) (fun listens => Or.inl (before listens)) id
  | _ =>
      exact cleared.keep (fun clears => by cases clears) (fun listens => Or.inl (before listens))
        fun starts => call ▸ starts

theorem notify (cleared : Cleared listener) : Cleared listener.notify := by
  unfold Listener.notify
  split
  · exact ⟨fun _ => rfl, fun _ => rfl⟩
  · exact cleared

theorem callStep {handle : UInt32} (cleared : Cleared info.listener)
    (meets : startsCleared info (.callStep handle) = true)
    (calls : info.listener.callStep handle = some next) : Cleared next := by
  cases callStep_of_callStep calls with
  | initGuard call closed =>
      simp only [startsCleared, call] at meets
      have notClearing : info.listener.thread.isClearing = false := by
        simpa [closed] using meets
      exact ⟨fun _ => notClearing, fun _ => notClearing⟩
  | createSocket call | pollGroupFailed call | createPollGroup call | closeSocket call
  | initReturn call | startTest call =>
      exact cleared.keep id Or.inl fun _ => by rw [call]; rfl
  | startSet call =>
      have apart : info.listener.call.isApart = true := by
        rw [call]
        rfl
      have moved : Cleared
          { info.listener.callGoTo (.startReturned (.ok ())) with listening := true } :=
        cleared.keep id (fun _ => Or.inr apart) nofun
      rw [notify_listening]
      exact moved.notify
  | stopSet =>
      have moved : Cleared { info.listener.callGoTo .stopReturned with listening := false } :=
        cleared.keep id nofun nofun
      rw [notify_listening]
      exact moved.notify
  | dtorNotify =>
      have moved : Cleared (info.listener.callGoTo .dtorJoin) := cleared.keep id Or.inl nofun
      exact moved.notify
  | _ => exact cleared.keep id Or.inl nofun

theorem entryStep {next : ListenerInfo Listener} {action : EntryAction}
    (cleared : Cleared info.listener) (coherent : Coherent info)
    (meets : startsCleared info action = true)
    (steps : HttpServer.entryStep info action = some next) : Cleared next.listener := by
  cases entryStep_of_entryStep steps with
  | run runs => exact cleared.run coherent runs
  | wake => exact ⟨fun _ => rfl, fun _ => rfl⟩
  | callStep calls => exact cleared.callStep meets calls
  | adopt call => exact cleared.keep id Or.inl fun _ => by rw [call]; rfl
  | push | popReceived | popError => exact cleared.keep id Or.inl id
  | _ => exact cleared.keep id Or.inl nofun

end Cleared

theorem cleared_of_reachable {info : ListenerInfo Listener}
    (reaches : entrySystem.ReachableWhere (fun info move => staysAgreed info move = true)
      info) : Cleared info.listener := by
  refine reaches.invariant (fun info => Cleared info.listener) ?_ ?_
  · intro info starts
    rw [starts.1]
    exact ⟨nofun, nofun⟩
  · intro info action next reached cleared meets steps
    exact cleared.entryStep (coherent_of_reachable reached) (staysAgreed_eq_true.mp meets).2.1
      steps

abbrev StopsUnbound (world : ManagerWorld) (action : ManagerAction) : Prop :=
  everywhere stopsUnbound world action = true

abbrev StaysAgreed (world : ManagerWorld) (action : ManagerAction) : Prop :=
  everywhere staysAgreed world action = true

/-- The thread takes responses off the queue, or gets there without another wait. -/
structure Drains (listener : Listener) : Prop where
  listening : listener.listening = true
  running : listener.running = true
  stays : listener.thread.isLeaving = false
  awake : listener.thread ≠ .park ∧ listener.thread ≠ .parked ∧ listener.thread ≠ .exited

/-- The error of a `startListening` that finds a socket stored. -/
def alreadyListening : ErrorValue :=
  makeError .eInvalidCall "Already Listening on this Scoket -> Socket/Pollgroup Valid"

variable {world next : ManagerWorld} {listener : HListener} {info : ListenerInfo Listener}
  {message : Request} {mark : Nat}

theorem listening_of_reachable (reaches : managerSystem.ReachableWhere StaysAgreed world)
    (found : world.core.listeners.lookup listener = some info)
    (free : world.net.listener? ≠ some listener)
    (bound : info.socket ≠ hSteamListenSocketInvalid) :
    info.listener.listening = true ∧ info.listener.core.socket = info.socket := by
  have idle := (NetThread.fits_of_ne free).mp (callsFit_of_reachable reaches listener info found)
  have settled : info.listener.call.isSettled = true := by
    cases call : info.listener.call <;> rw [call] at idle <;> first | rfl | cases idle
  have listens := listens_of_reachable (entry_reachable reaches found) settled bound
  have coherent := coherent_of_found reaches found
  refine ⟨listens, (coherent.bound bound).resolve_right ?_⟩
  exact (coherent.listening listens).1.1

/-- `startListening` says "Already Listening" only when a socket is stored. -/
theorem bound_of_alreadyListening {port : UInt16}
    (refused : (world.beginStart listener port).net =
      .returned (.done (.error alreadyListening))) :
    ∃ info, world.core.listeners.lookup listener = some info ∧
      info.socket ≠ hSteamListenSocketInvalid := by
  unfold beginStart isValidListenerHandler at refused
  cases found : world.core.listeners.lookup listener with
  | none =>
      rw [found] at refused
      cases refused
  | some info =>
      rw [found] at refused
      refine ⟨info, rfl, ?_⟩
      intro unbound
      simp [unbound] at refused

/-- The thread of a listener that the manager has not stopped stops it, and the
manager does not notice. -/
theorem disagreement_of_selfStop {action : ManagerAction}
    (reaches : managerSystem.Reachable world)
    (selfStop : ¬ everywhere stopsUnbound world action = true)
    (steps : managerSystem.step world action = some next) :
    ∃ listener info, next.core.listeners.lookup listener = some info ∧
      info.socket ≠ hSteamListenSocketInvalid ∧ info.listener.listening = false ∧
      info.listener.call.isSettled = true := by
  rw [Bool.not_eq_true, everywhere_eq_false] at selfStop
  obtain ⟨listener, move, info, acts, found, fails⟩ := selfStop
  cases move with
  | run received =>
      obtain rfl := run_of_entryAction acts
      have stops : info.listener.thread = .stopListening ∧
          info.socket ≠ hSteamListenSocketInvalid := by
        simpa [stopsUnbound] using fails
      cases step_of_step steps with
      | @run _ _ _ object sameFound runs =>
          obtain rfl := Option.some.inj (found.symm.trans sameFound)
          refine ⟨listener, info.setListener object, ?_, stops.2, ?_, ?_⟩
          · exact lookup_callListener.trans (by rw [if_pos rfl, found]; rfl)
          · exact (run_listening runs).trans (by simp [stops.1])
          · change object.call.isSettled = true
            have coherent := coherent_of_found reaches found
            have committed : info.listener.thread.isCommitted = true := by
              rw [stops.1]
              rfl
            have notApart : info.listener.call.isApart ≠ true := by
              intro apart
              exact absurd (committed.symm.trans (coherent.apart apart)) (by decide)
            have notUnbound : info.listener.call.isUnbound ≠ true := fun unbound =>
              stops.2 (coherent.unbound unbound)
            rw [(run_frame runs).1]
            cases call : info.listener.call <;> rw [call] at notApart notUnbound <;>
              first | rfl | exact absurd rfl notUnbound | exact absurd rfl notApart
  | _ => cases fails

/-- Where no operation is in progress the listener behind a stored socket drains its
queue, unless its thread has just failed to receive. -/
theorem drains_of_reachable (reaches : managerSystem.ReachableWhere StaysAgreed world)
    (found : world.core.listeners.lookup listener = some info)
    (free : world.net.listener? ≠ some listener)
    (bound : info.socket ≠ hSteamListenSocketInvalid)
    (polled : pushesPolled info (.push message mark) = true) : Drains info.listener := by
  have entry := entry_reachable reaches found
  have coherent := coherent_of_reachable entry
  have wakeful := wakeful_of_reachable entry.reachable
  have listens := (listening_of_reachable reaches found free bound).1
  have idle := (NetThread.fits_of_ne free).mp (callsFit_of_reachable reaches listener info found)
  have running : info.listener.running = true := by
    rw [coherent.alive, ListenerCall.isEnding_eq_false_of_isIdle idle]
    rfl
  have loops := (coherent.listening listens).2
  have cleared := (cleared_of_reachable entry).listening listens
  have goesOn : info.listener.thread ≠ .storeError ∧ info.listener.thread ≠ .stopListening :=
    of_decide_eq_true polled
  refine ⟨listens, running, ?_, wakeful.park listens, wakeful.parked listens, ?_⟩
  · cases place : info.listener.thread with
    | closeSocket | resetSocket | destroyPollGroup | resetPollGroup =>
        rw [place] at loops
        cases loops
    | clearOutgoing | clearReceived | clearErrors =>
        rw [place] at cleared
        cases cleared
    | storeError => exact absurd place goesOn.1
    | stopListening => exact absurd place goesOn.2
    | _ => rfl
  · intro exited
    exact absurd (running.symm.trans (wakeful.exited exited)) (by decide)

/-- A response that is accepted is put at the end of a queue that is drained. -/
theorem drains_of_push {rest : ThreadSaveQueue FunctionCall}
    (reaches : managerSystem.ReachableWhere StaysAgreed world)
    (calls : world.functionCalls = .pushOutgoingMessageQueue listener message :: rest)
    (meets : StaysAgreed world .pollFunctionCall)
    (steps : managerSystem.step world .pollFunctionCall = some next)
    (accepted : next.net = .returned (.done (.ok ()))) :
    ∃ info before queued, next.core.listeners.lookup listener = some info ∧
      info.listener.core.outgoingMessages = before ++ [queued] ∧ queued.request = message ∧
      Drains info.listener := by
  have polls : world.pollFunctionCall = some next := steps
  unfold ManagerWorld.pollFunctionCall at polls
  rw [calls] at polls
  cases net : world.net with
  | idle =>
      rw [net] at polls
      rcases pushOutgoing_cases polls with
        ⟨_, err, rfl⟩ | ⟨info, core, found, bound, _, acts, rfl, _, lookups⟩
      · cases accepted
      · have acted : world.entryAction .pollFunctionCall =
            some (listener, .push message (world.accepted + 1)) := by
          rw [entryAction, calls]
          exact acts
        have polled : pushesPolled info (.push message (world.accepted + 1)) = true := by
          unfold StaysAgreed everywhere at meets
          rw [acted] at meets
          dsimp only at meets
          rw [show world.core.listeners.lookup listener = some info from found] at meets
          exact (staysAgreed_eq_true.mp meets).2.2
        have free : world.net.listener? ≠ some listener := by
          rw [net]
          exact (Option.some_ne_none listener).symm
        have drains := drains_of_reachable reaches found free bound polled
        exact ⟨_, _, _, (lookups listener).trans (if_pos rfl), rfl, rfl,
          ⟨drains.listening, drains.running, drains.stays, drains.awake⟩⟩
  | _ =>
      rw [net] at polls
      cases polls

/-- As long as a listener's thread stops only listeners that the manager has
stopped, no start goes on while the thread is still to clear the queues, and no
response is accepted after a failed poll: a listener with a socket stored and no
operation in progress listens on that socket, a response is accepted into a queue
that is drained, and a listener that has stopped is never refused as already
listening.  The first other stop makes the manager wrong. -/
theorem listening_agreement (world : ManagerWorld) :
    (managerSystem.ReachableWhere StaysAgreed world → ∀ listener,
      (∀ info, world.net.listener? ≠ some listener →
        world.core.listeners.lookup listener = some info →
        info.socket ≠ hSteamListenSocketInvalid →
        info.listener.listening = true ∧ info.listener.core.socket = info.socket) ∧
      (∀ message rest next,
        world.functionCalls = .pushOutgoingMessageQueue listener message :: rest →
        StaysAgreed world .pollFunctionCall →
        managerSystem.step world .pollFunctionCall = some next →
        next.net = .returned (.done (.ok ())) →
        ∃ info before queued, next.core.listeners.lookup listener = some info ∧
          info.listener.core.outgoingMessages = before ++ [queued] ∧
          queued.request = message ∧ Drains info.listener) ∧
      ∀ info port, world.net.listener? ≠ some listener →
        world.core.listeners.lookup listener = some info →
        info.listener.listening = false →
        (world.beginStart listener port).net ≠
          .returned (.done (.error alreadyListening))) ∧
    ∀ action next, managerSystem.Reachable world → ¬ StopsUnbound world action →
      managerSystem.step world action = some next →
      ∃ listener info, next.core.listeners.lookup listener = some info ∧
        info.socket ≠ hSteamListenSocketInvalid ∧ info.listener.listening = false ∧
        info.listener.call.isSettled = true := by
  constructor
  · intro reaches listener
    refine ⟨?_, ?_, ?_⟩
    · intro info free found bound
      exact listening_of_reachable reaches found free bound
    · intro message rest next calls meets steps accepted
      exact drains_of_push reaches calls meets steps accepted
    · intro info port free found stopped refused
      obtain ⟨foundInfo, sameFound, bound⟩ := bound_of_alreadyListening refused
      obtain rfl := Option.some.inj (found.symm.trans sameFound)
      have listens := (listening_of_reachable reaches found free bound).1
      exact absurd (listens.symm.trans stopped) (by decide)
  · intro action next reaches selfStop steps
    exact disagreement_of_selfStop reaches selfStop steps

/-- The listener is stopped and started again within the condition, and accepts a response. -/
theorem listening_agreement_started :
    ∃ world next info, managerSystem.ReachableWhere StaysAgreed world ∧
      managerSystem.step world .pollFunctionCall = some next ∧
      next.core.listeners.lookup 1 = some info ∧ info.socket = 7 ∧
      info.listener.core.outgoingMessages.map QueuedMessage.request = [⟨9, [72]⟩] ∧
      Drains info.listener := by
  have executes : ∃ world next info,
      managerSystem.runWhere StaysAgreed {} (createParked ++ startParked ++
        List.replicate 4 (.run 1 .none) ++ stopOne ++ List.replicate 12 (.run 1 .none) ++
        [.request (.startListening 1 80), .pollFunctionCall, .listenerCall 0, .listenerCall 0,
          .listenerCall 7, .listenerCall 8, .listenerCall 0, .proceed, .listenerCall 0,
          .listenerCall 0, .proceed, .proceed,
          .runCallback ⟨9, 7, .connecting, .none⟩ .ok true,
          .request (.pushOutgoingMessageQueue 1 ⟨9, [72]⟩)]) = some world ∧
      world.functionCalls = [.pushOutgoingMessageQueue 1 ⟨9, [72]⟩] ∧
      StaysAgreed world .pollFunctionCall ∧
      managerSystem.step world .pollFunctionCall = some next ∧
      next.net = .returned (.done (.ok ())) ∧
      next.core.listeners.lookup 1 = some info ∧ info.socket = 7 ∧
      info.listener.core.outgoingMessages.map QueuedMessage.request = [⟨9, [72]⟩] :=
    ⟨_, _, _, rfl, rfl, rfl, rfl, rfl, rfl, rfl, rfl⟩
  obtain ⟨world, next, info, executes, calls, meets, steps, accepted, found, socket, queue⟩ :=
    executes
  have reaches := TransitionSystem.reachableWhere_of_run rfl executes
  obtain ⟨same, _, _, sameFound, _, _, drains⟩ :=
    ((listening_agreement world).1 reaches 1).2.1 _ _ next calls meets steps accepted
  obtain rfl := Option.some.inj (found.symm.trans sameFound)
  exact ⟨world, next, info, reaches, steps, found, socket, queue, drains⟩

/-- The poll group of listener 1 fails, and its thread stops it. -/
def failPolling : List ManagerAction :=
  List.replicate 7 (.run 1 .none) ++ [.run 1 .negative, .run 1 .none, .run 1 .none]

/-- After a failed poll the manager has socket 5 stored for a listener that does
not listen, accepts a response for it and refuses to start it. -/
theorem listening_agreement_fails :
    ∃ world info, managerSystem.Reachable world ∧ world.net.listener? = none ∧
      world.core.listeners.lookup 1 = some info ∧ info.socket = 5 ∧
      info.listener.listening = false ∧
      (∃ core, world.core.pushOutgoingMessageQueue 1 ⟨9, [72]⟩ = .ok (.ok (), core)) ∧
      (world.beginStart 1 80).net = .returned (.done (.error alreadyListening)) := by
  have executes : ∃ world info,
      managerSystem.run {} (createParked ++ startParked ++
        [.runCallback ⟨9, 5, .connecting, .none⟩ .ok true] ++ failPolling) = some world ∧
      world.net.listener? = none ∧ world.core.listeners.lookup 1 = some info ∧
      info.socket = 5 ∧ info.listener.listening = false ∧
      (∃ core, world.core.pushOutgoingMessageQueue 1 ⟨9, [72]⟩ = .ok (.ok (), core)) ∧
      (world.beginStart 1 80).net = .returned (.done (.error alreadyListening)) :=
    ⟨_, _, rfl, rfl, rfl, rfl, rfl, ⟨_, rfl⟩, rfl⟩
  obtain ⟨world, info, executes, disagrees⟩ := executes
  exact ⟨world, info, TransitionSystem.reachable_of_run rfl executes, disagrees⟩

end HttpServer
