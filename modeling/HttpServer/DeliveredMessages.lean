import HttpServer.ListenerSessions
import HttpServer.MessageFlow
import HttpServer.Library.QueueAccount

/-!
# The messages that clients exchange through the manager

A request goes from the poll group of a listener to its thread, into the received queue, and
from there to a client; a response goes the other way.  On each of the two ways the messages
are at any time the ones that came in and have not come out, except that a teardown clears
both queues and a destroyed listener is gone with what it has queued.  Nothing else happens
to them.
-/

namespace HttpServer

open Listener ManagerWorld NetworkManagerCore

/-- The messages of one step: received from Steam, returned to a client, accepted from a
client, and handed to Steam. -/
structure Traffic where
  received : List Request := []
  popped : List Request := []
  accepted : List Request := []
  sent : List Request := []

/-- The messages of a step of an entry. -/
def EntryAction.traffic (info : ListenerInfo Listener) : EntryAction → Traffic
  | .run received => {
      received := match info.listener.thread, received with
        | .receive _, .message message => [message]
        | _, _ => []
      sent := info.listener.sending.map Request.sized }
  | .popReceived => { popped := (IListener.tryPopReceived info.listener).1.toList }
  | .push message _ => { accepted := [message] }
  | _ => {}

namespace ManagerWorld

/-- The messages of a step on their ways through the listener. -/
def traffic (listener : HListener) : ManagerWorld × ManagerAction → Traffic
  | (world, .run target received) =>
      if target = listener then
        match world.core.listeners.lookup listener with
        | some info => EntryAction.traffic info (.run received)
        | none => {}
      else {}
  | (world, .pollFunctionCall) =>
      match world.functionCalls with
      | .tryPopReceivedMessageQueue target :: _ =>
          if target = listener then
            match (world.core.tryPopReceivedMessageQueue listener).1 with
            | .ok message => { popped := message.toList }
            | .error _ => {}
          else {}
      | .pushOutgoingMessageQueue target message :: _ =>
          if target = listener then
            match world.core.pushOutgoingMessageQueue listener message with
            | .ok (.ok (), _) => { accepted := [message] }
            | _ => {}
          else {}
      | _ => {}
  | _ => {}

end ManagerWorld

/-- A response without content is accepted and never sent. -/
def Traffic.toSend (traffic : Traffic) : List Request :=
  (nonempty traffic.accepted).map Request.sized

/-- The ways of the messages through a listener, from Steam to the clients and back. -/
inductive Way where
  | inward
  | outward

namespace Way

/-- The messages on the way, the oldest first. -/
def pending (listener : Listener) : Way → List Request
  | inward => listener.entering
  | outward => listener.leaving.map Request.sized

/-- The messages that come to the end of the way. -/
def out (traffic : Traffic) : Way → List Request
  | inward => traffic.popped
  | outward => traffic.sent

/-- The messages that come onto the way. -/
def into (traffic : Traffic) : Way → List Request
  | inward => traffic.received
  | outward => traffic.toSend

/-- The statement of `DestroySocket` that clears the queue of the way. -/
def clearing : Way → ListenThread
  | inward => .clearReceived
  | outward => .clearOutgoing

/-- The step clears the queue of the way, or it is the one with which the listener is gone. -/
inductive Loses (way : Way) (listener : HListener) (world : ManagerWorld) :
    ManagerAction → Prop where
  | clears {info : ListenerInfo Listener} {received : ReceivedMessages}
      (found : world.core.listeners.lookup listener = some info)
      (place : info.listener.thread = way.clearing) :
      Loses way listener world (.run listener received)
  | destroys {info : ListenerInfo Listener} (net : world.net = .destroying listener)
      (found : world.core.listeners.lookup listener = some info)
      (destroyed : info.listener.call = .destroyed) :
      Loses way listener world .proceed

/-- The messages on the way through a listener of the manager. -/
def messages (way : Way) (world : ManagerWorld) (listener : HListener) : List Request :=
  match world.core.listeners.lookup listener with
  | some info => way.pending info.listener
  | none => []

variable {way : Way}

@[simp]
theorem pending_new : way.pending {} = [] := by
  cases way <;> rfl

@[simp]
theorem out_none : way.out {} = [] := by
  cases way <;> rfl

@[simp]
theorem into_none : way.into {} = [] := by
  cases way <;> rfl

end Way

/-- The step is a statement of the listener's thread. -/
def EntryAction.isRun : EntryAction → Bool
  | .run _ => true
  | _ => false

section Run

variable {info : ListenerInfo Listener} {listener next : Listener}
  {received : ReceivedMessages}

/-- What a statement of the thread does to the messages on their way in. -/
theorem run_entering (steps : info.listener.run received = some next)
    (keeps : info.listener.thread ≠ .clearReceived) :
    next.entering =
      info.listener.entering ++ (EntryAction.traffic info (.run received)).received := by
  cases runStep_of_run steps with
  | clearReceived place => exact absurd place keeps
  | receiveNone place quiet | receive place quiet | receiveNegative place quiet =>
      simp [Listener.entering, storing, EntryAction.traffic, place, quiet, goTo,
        Listener.record]
  | _ => simp [Listener.entering, storing, EntryAction.traffic, goTo, Listener.record, *]

/-- What a statement of the thread does to the messages on their way out. -/
theorem run_leaving (steps : info.listener.run received = some next)
    (keeps : info.listener.thread ≠ .clearOutgoing) :
    info.listener.leaving = info.listener.sending ++ next.leaving := by
  cases runStep_of_run steps with
  | clearOutgoing place => exact absurd place keeps
  | skip place queue empty =>
      simp [leaving, sending, place, queue, goTo, nonempty_cons, empty]
  | take place queue filled =>
      simp [leaving, sending, place, queue, goTo, nonempty_cons, filled]
  | _ => simp [leaving, sending, goTo, Listener.record, *]

end Run

section Entry

variable {info next : ListenerInfo Listener} {action : EntryAction} (way : Way)

/-- A call or a wake leaves the messages on their ways. -/
theorem pending_of_same {listener next : Listener} {made : List AdapterCall}
    (same : SameMessages listener next made) : way.pending next = way.pending listener := by
  cases way with
  | inward =>
      dsimp only [Way.pending, Listener.entering]
      rw [same.received, same.storing]
  | outward =>
      dsimp only [Way.pending, Listener.leaving]
      rw [same.outgoing, same.sending]

/-- A step of an entry moves the messages on their ways, unless it clears the queue. -/
theorem entry_moves (steps : entryStep info action = some next)
    (keeps : info.listener.thread ≠ way.clearing ∨ action.isRun = false) :
    QueueAccount (way.out (action.traffic info)) (way.pending next.listener)
      (way.pending info.listener ++ way.into (action.traffic info)) := by
  cases entryStep_of_entryStep steps with
  | run runs =>
      have notClearing := keeps.resolve_right nofun
      cases way with
      | inward => exact run_entering runs notClearing
      | outward =>
          dsimp only [Way.pending]
          rw [run_leaving runs notClearing, List.map_append]
          simp [QueueAccount, EntryAction.traffic, Way.out, Way.into, Traffic.toSend,
            ListenerInfo.setListener]
  | callStep calls =>
      obtain ⟨made, same⟩ := SameMessages.callStep calls
      rw [ListenerInfo.setListener, pending_of_same way same]
      simp [QueueAccount, EntryAction.traffic]
  | wake parked =>
      have wakes : info.listener.wake = some (info.listener.goTo .notified) :=
        wake_eq_some.mpr ⟨parked, rfl⟩
      rw [ListenerInfo.setListener, pending_of_same way (.wake wakes)]
      simp [QueueAccount, EntryAction.traffic]
  | push bound idle =>
      cases way <;>
        simp [QueueAccount, EntryAction.traffic, Way.out, Way.into, Way.pending,
          Traffic.toSend, ListenerInfo.setListener, Listener.entering, Listener.leaving,
          storing, sending, IListener.pushOutgoing]
  | popReceived idle =>
      cases way <;> cases queue : info.listener.core.receivedMessages <;>
        simp [QueueAccount, EntryAction.traffic, Way.out, Way.into, Way.pending,
          Traffic.toSend, ListenerInfo.setListener, Listener.entering, Listener.leaving,
          storing, sending, IListener.tryPopReceived, queue, ThreadSaveQueue.tryPop, requests]
  | _ =>
      cases way <;>
        simp [QueueAccount, EntryAction.traffic, Way.out, Way.into, Way.pending,
          Traffic.toSend, ListenerInfo.setListener, Listener.entering, Listener.leaving,
          storing, sending, callGoTo, IListener.tryPopError]

/-- The statement that clears the queue moves no message. -/
theorem entry_clears {received : ReceivedMessages}
    (steps : entryStep info (.run received) = some next)
    (clears : info.listener.thread = way.clearing) :
    EntryAction.traffic info (.run received) = {} ∧ way.pending next.listener = [] := by
  obtain ⟨listener, runs, rfl⟩ := Option.map_eq_some_iff.mp steps
  cases way <;> cases runStep_of_run runs <;>
    simp_all [Way.clearing, Way.pending, EntryAction.traffic, sending, Listener.entering,
      Listener.leaving, storing, goTo, requests, ListenerInfo.setListener]

/-- Every step of an entry moves the messages on their ways or clears the queue. -/
theorem entry_queueStep (steps : entryStep info action = some next) :
    QueueStep (way.pending info.listener) (way.out (action.traffic info))
      (way.into (action.traffic info)) (way.pending next.listener) := by
  by_cases clears : info.listener.thread = way.clearing ∧ action.isRun = true
  · cases action with
    | run received =>
        obtain ⟨none, empty⟩ := entry_clears way steps clears.1
        rw [none, empty]
        exact Or.inr ⟨way.out_none, way.into_none, rfl⟩
    | _ => cases clears.2
  · exact Or.inl (entry_moves way steps (by simpa [imp_iff_not_or] using clears))

end Entry

/-- What a step of the manager does to the entry of a listener, and to the messages on their
ways through it. -/
inductive EntryChange (listener : HListener) (world next : ManagerWorld)
    (action : ManagerAction) : Prop where
  | moves {info piece : ListenerInfo Listener} {move : EntryAction}
      (found : world.core.listeners.lookup listener = some info)
      (foundNext : next.core.listeners.lookup listener = some piece)
      (acts : world.entryAction action = some (listener, move))
      (steps : entryStep info move = some piece)
      (traffic : traffic listener (world, action) = move.traffic info)
  | rests (same : next.core.listeners.lookup listener = world.core.listeners.lookup listener)
      (quiet : traffic listener (world, action) = {})
  | gone (erased : next.core.listeners.lookup listener = none)
      (destroys : ∀ way : Way, way.Loses listener world action)
      (quiet : traffic listener (world, action) = {})
  | created {info : ListenerInfo Listener}
      (unknown : world.core.listeners.lookup listener = none)
      (found : next.core.listeners.lookup listener = some info)
      (fresh : entrySystem.Initial info)
      (quiet : traffic listener (world, action) = {})

/-- A call on a listener leaves every entry in the table. -/
theorem callListener_keeps {core : NetworkManagerCore Listener} {target listener : HListener}
    {call : Listener → Listener} (known : core.listeners.lookup listener ≠ none) :
    (core.callListener target call).listeners.lookup listener ≠ none := by
  rw [lookup_callListener]
  split
  next same => rwa [Ne, Option.map_eq_none_iff, ← same]
  · exact known

section Step

variable {world next : ManagerWorld} {action : ManagerAction} (listener : HListener)
  (fits : world.CallsFit)
include fits

/-- An entry is taken out of the table only when its listener has been destroyed. -/
theorem destroyed_of_erased {info : ListenerInfo Listener}
    (steps : managerSystem.step world action = some next)
    (found : world.core.listeners.lookup listener = some info)
    (erased : next.core.listeners.lookup listener = none) :
    action = .proceed ∧ world.net = .destroying listener ∧
      info.listener.call = .destroyed := by
  have on : world.net.listener? = some listener := by
    by_contra notOn
    obtain ⟨changed, kept⟩ := (entriesStep fits steps).kept listener info found notOn
    cases erased.symm.trans kept
  have known : world.core.listeners.lookup listener ≠ none := by
    rw [found]
    exact Option.some_ne_none info
  cases step_of_step steps with
  | request => exact absurd erased known
  | pollFunctionCall net | returns net | runCallback net =>
      rw [net] at on
      cases on
  | listenerCall | run | wake => exact absurd erased (callListener_keeps known)
  | @proceed target object _ onTarget foundTarget proceeds =>
      obtain rfl : target = listener := Option.some.inj (onTarget.symm.trans on)
      obtain rfl : object = info := Option.some.inj (foundTarget.symm.trans found)
      generalize call : object.listener.call = made at proceeds
      cases proceeds with
      | erases net =>
          rw [net] at on
          exact ⟨rfl, net.trans (congrArg _ (Option.some.inj on)), rfl⟩
      | initFails | startFails | started | stopped | destructs =>
          exact absurd erased (callListener_keeps known)
      | adopts =>
          refine absurd erased (callListener_keeps ?_)
          rw [listeners_record, lookup_adoptSocket, if_pos rfl, found]
          exact Option.some_ne_none _

/-- A step on an entry that receives, returns, accepts and sends nothing. -/
theorem EntryChange.of_quiet (steps : managerSystem.step world action = some next)
    (quiet : traffic listener (world, action) = {})
    (still : ∀ info move, world.entryAction action = some (listener, move) →
      move.traffic info = {}) : EntryChange listener world next action := by
  have changes := entriesStep fits steps
  cases found : next.core.listeners.lookup listener with
  | none =>
      cases before : world.core.listeners.lookup listener with
      | none => exact .rests (found.trans before.symm) quiet
      | some info =>
          obtain ⟨rfl, net, destroyed⟩ := destroyed_of_erased listener fits steps before found
          exact .gone found (fun _ => .destroys net before destroyed) quiet
  | some piece =>
      rcases (changes.entry listener piece found).2 with
        ⟨fresh, unknown⟩ | ⟨info, before, rfl | ⟨move, acts, moves⟩⟩
      · exact .created unknown found fresh quiet
      · exact .rests (found.trans before.symm) quiet
      · exact .moves before found acts moves (quiet.trans (still info move acts).symm)

theorem EntryChange.of_run {target : HListener} {received : ReceivedMessages}
    (steps : managerSystem.step world (.run target received) = some next) :
    EntryChange listener world next (.run target received) := by
  by_cases same : target = listener
  · subst target
    obtain ⟨info, found, rest⟩ := Option.bind_eq_some_iff.mp steps
    obtain ⟨object, runs, rfl⟩ := Option.map_eq_some_iff.mp rest
    have foundNext : (world.core.callListener listener fun _ => object).listeners.lookup
        listener = some (info.setListener object) :=
      lookup_callListener.trans (by rw [if_pos rfl, found]; rfl)
    refine .moves found foundNext rfl ?_ ?_
    · exact Option.map_eq_some_iff.mpr ⟨object, runs, rfl⟩
    · simp [traffic, found]
  · refine .of_quiet listener fits steps (if_neg same) ?_
    rintro info move ⟨⟩
    exact absurd rfl same

/-- `try_PoPReceivedMessageQueue` on the listener. -/
theorem EntryChange.of_pop {rest : ThreadSaveQueue FunctionCall}
    (free : world.net.listener? = none)
    (calls : world.functionCalls = .tryPopReceivedMessageQueue listener :: rest)
    (pops : next.core = (world.core.tryPopReceivedMessageQueue listener).2) :
    EntryChange listener world next .pollFunctionCall := by
  cases found : world.core.isValidListenerHandler listener with
  | error err =>
      refine .rests ?_ (by simp [traffic, calls, tryPopReceivedMessageQueue, found])
      rw [pops, tryPopReceivedMessageQueue, found]
  | ok info =>
      have popped : traffic listener (world, .pollFunctionCall) =
          EntryAction.traffic info .popReceived := by
        simp [traffic, calls, tryPopReceivedMessageQueue, found, EntryAction.traffic]
      rw [tryPopReceivedMessageQueue, found] at pops
      rw [isValidListenerHandler_eq_ok] at found
      have foundNext : next.core.listeners.lookup listener =
          some (info.setListener (IListener.tryPopReceived info.listener).2) := by
        rw [pops]
        exact lookup_updateListener.trans (by rw [if_pos rfl, found]; rfl)
      refine .moves found foundNext ?_ ?_ popped
      · rw [entryAction, calls]
        rfl
      · exact if_pos (isIdle_of_free fits free found)

/-- `push_OutgoingMessageQueue` on the listener. -/
theorem EntryChange.of_push {rest : ThreadSaveQueue FunctionCall} {message : Request}
    (free : world.net.listener? = none)
    (calls : world.functionCalls = .pushOutgoingMessageQueue listener message :: rest)
    (pushes : (world.takeUp (.pushOutgoingMessageQueue listener message) rest).pushOutgoing
      listener message = some next) : EntryChange listener world next .pollFunctionCall := by
  have acted : world.entryAction .pollFunctionCall =
      world.callAction (.pushOutgoingMessageQueue listener message) := by
    rw [entryAction, calls]
    rfl
  rcases pushOutgoing_cases pushes with
    ⟨refused, err, rfl⟩ | ⟨info, core, found, bound, connected, acts, rfl, tables, lookups⟩
  · refine .rests rfl ?_
    simp only [traffic, calls, if_pos]
    split
    next accepts =>
      have takes : (world.takeUp (.pushOutgoingMessageQueue listener message) rest).core =
          world.core := rfl
      simp [callAction, takes, accepts] at refused
    · rfl
  · refine .moves found (lookups listener |>.trans (if_pos rfl)) (acted.trans acts) ?_ ?_
    · exact if_pos ⟨bound, isIdle_of_free fits free found⟩
    · simp only [traffic, calls, if_pos]
      split
      · rfl
      next refuses =>
        rw [callAction] at acts
        split at acts
        next accepts => exact absurd accepts (refuses _)
        · cases acts

omit fits in
/-- A function that neither pops a request nor pushes a response. -/
theorem traffic_of_callAction {call : FunctionCall} {info : ListenerInfo Listener}
    {move : EntryAction} (acts : world.callAction call = some (listener, move))
    (noPop : call ≠ .tryPopReceivedMessageQueue listener)
    (noPush : ∀ message, call ≠ .pushOutgoingMessageQueue listener message) :
    move.traffic info = {} := by
  cases call with
  | createListener | connectionServed => cases acts
  | tryPopReceivedMessageQueue target =>
      cases acts
      exact absurd rfl noPop
  | pushOutgoingMessageQueue target message =>
      unfold callAction at acts
      dsimp only at acts
      split at acts
      · cases acts
        exact absurd rfl (noPush message)
      · cases acts
  | destroyListener =>
      unfold callAction at acts
      dsimp only at acts
      split at acts <;> cases acts <;> rfl
  | startListening | stopListening | tryPopErrorQueue =>
      cases acts
      rfl

theorem EntryChange.of_pollFunctionCall
    (steps : managerSystem.step world .pollFunctionCall = some next) :
    EntryChange listener world next .pollFunctionCall := by
  have polls : world.pollFunctionCall = some next := steps
  unfold ManagerWorld.pollFunctionCall at polls
  split at polls
  next call rest net calls =>
    have free : world.net.listener? = none := by rw [net]; rfl
    have acts : world.entryAction .pollFunctionCall = world.callAction call := by
      rw [entryAction, calls]
      rfl
    have others (noPop : call ≠ .tryPopReceivedMessageQueue listener)
        (noPush : ∀ message, call ≠ .pushOutgoingMessageQueue listener message)
        (quiet : traffic listener (world, .pollFunctionCall) = {}) :
        EntryChange listener world next .pollFunctionCall := by
      refine .of_quiet listener fits steps quiet fun info move acted => ?_
      exact traffic_of_callAction listener (acts.symm.trans acted) noPop noPush
    cases call with
    | tryPopReceivedMessageQueue target =>
        by_cases same : target = listener
        · subst target
          obtain rfl := Option.some.inj polls
          exact .of_pop listener fits free calls rfl
        · exact others (by simpa using same) (by simp) (by simp [traffic, calls, same])
    | pushOutgoingMessageQueue target message =>
        by_cases same : target = listener
        · subst target
          exact .of_push listener fits free calls polls
        · exact others (by simp) (by simp [same]) (by simp [traffic, calls, same])
    | _ => exact others (by simp) (by simp) (by simp [traffic, calls])
  · cases polls

/-- What every step does to the entry of a listener. -/
theorem EntryChange.of_step (steps : managerSystem.step world action = some next) :
    EntryChange listener world next action := by
  cases action with
  | run => exact .of_run listener fits steps
  | pollFunctionCall => exact .of_pollFunctionCall listener fits steps
  | request | runCallback =>
      refine .of_quiet listener fits steps rfl ?_
      rintro info move ⟨⟩
  | listenerCall =>
      refine .of_quiet listener fits steps rfl fun info move acts => ?_
      obtain ⟨target, _, acts⟩ := Option.map_eq_some_iff.mp acts
      cases acts
      rfl
  | wake =>
      refine .of_quiet listener fits steps rfl ?_
      rintro info move ⟨⟩
      rfl
  | proceed =>
      refine .of_quiet listener fits steps rfl fun info move acts => ?_
      obtain ⟨target, _, acts⟩ := Option.bind_eq_some_iff.mp acts
      obtain ⟨info, _, acts⟩ := Option.bind_eq_some_iff.mp acts
      obtain ⟨move, resumes, acts⟩ := Option.map_eq_some_iff.mp acts
      cases acts
      unfold resumeAction at resumes
      split at resumes <;> cases resumes <;> rfl

end Step

/-- The messages on their ways are moved by every step, or the queue is cleared. -/
theorem EntryChange.queueStep {listener : HListener} {world next : ManagerWorld}
    {action : ManagerAction} (way : Way)
    (change : EntryChange listener world next action) :
    QueueStep (way.messages world listener) (way.out (traffic listener (world, action)))
      (way.into (traffic listener (world, action))) (way.messages next listener) := by
  unfold Way.messages
  cases change with
  | moves found foundNext acts steps traffic =>
      rw [found, foundNext, traffic]
      exact entry_queueStep way steps
  | rests same quiet =>
      rw [same, quiet, Way.out_none, Way.into_none]
      exact .refl
  | gone erased _ quiet =>
      rw [erased, quiet]
      exact Or.inr ⟨way.out_none, way.into_none, rfl⟩
  | created unknown found fresh quiet =>
      rw [unknown, found, quiet, Way.out_none, Way.into_none]
      dsimp only
      rw [fresh.1, Way.pending_new]
      exact .refl

/-- A step that neither clears the queue nor ends the listener loses no message. -/
theorem EntryChange.account {listener : HListener} {world next : ManagerWorld}
    {action : ManagerAction} {way : Way} (keeps : ¬ way.Loses listener world action)
    (change : EntryChange listener world next action) :
    QueueAccount (way.out (traffic listener (world, action))) (way.messages next listener)
      (way.messages world listener ++ way.into (traffic listener (world, action))) := by
  unfold Way.messages
  cases change with
  | @moves info piece move found foundNext acts steps traffic =>
      rw [found, foundNext, traffic]
      refine entry_moves way steps ?_
      by_contra clears
      obtain ⟨place, isRun⟩ := not_or.mp clears
      cases move with
      | run received =>
          obtain rfl := run_of_entryAction acts
          exact keeps (.clears found (not_not.mp place))
      | _ => exact isRun rfl
  | rests same quiet =>
      rw [same, quiet, Way.out_none, Way.into_none, List.append_nil]
      exact .initial
  | gone _ destroys => exact absurd (destroys way) keeps
  | created unknown found fresh quiet =>
      rw [unknown, found, quiet, Way.out_none, Way.into_none]
      dsimp only
      rw [fresh.1, Way.pending_new]
      exact .initial

/-- The messages of all steps of a run. -/
def Traffic.ofRun (listener : HListener) (trace : List (ManagerWorld × ManagerAction)) :
    Traffic where
  received := trace.flatMap fun step => (traffic listener step).received
  popped := trace.flatMap fun step => (traffic listener step).popped
  accepted := trace.flatMap fun step => (traffic listener step).accepted
  sent := trace.flatMap fun step => (traffic listener step).sent

namespace Way

variable {listener : HListener} {trace : List (ManagerWorld × ManagerAction)} {way : Way}

theorem out_ofRun : way.out (Traffic.ofRun listener trace) =
    trace.flatMap fun step => way.out (traffic listener step) := by
  cases way <;> rfl

theorem into_ofRun : way.into (Traffic.ofRun listener trace) =
    trace.flatMap fun step => way.into (traffic listener step) := by
  cases way with
  | inward => rfl
  | outward =>
      dsimp only [into, Traffic.toSend, Traffic.ofRun]
      rw [nonempty, List.filter_flatMap, List.map_flatMap]
      rfl

end Way

/-- Whatever happens, each listener hands over messages only once and in the order in which
they have come, without a change.  What clients get from it, followed by what is on its way
in, is some of what it has received from Steam; and what it sends, followed by what is on its
way out, is some of what it has accepted from clients.

In every state a step loses none of them unless it is the statement of a teardown that clears
the queue, or the one with which `DestroyListener` removes the destroyed listener: what leaves
in the step and what is then on the way are what was on the way and what comes in. -/
theorem messages_handed_over (actions : List ManagerAction) (world : ManagerWorld)
    (steps : managerSystem.Steps {} actions world) (listener : HListener) (way : Way) :
    (way.out (Traffic.ofRun listener (managerSystem.trace {} actions)) ++
        way.messages world listener).Sublist
      (way.into (Traffic.ofRun listener (managerSystem.trace {} actions))) ∧
    ∀ action next, managerSystem.step world action = some next →
      ¬ way.Loses listener world action →
      way.out (traffic listener (world, action)) ++ way.messages next listener =
        way.messages world listener ++ way.into (traffic listener (world, action)) := by
  constructor
  · rw [Way.out_ofRun, Way.into_ofRun]
    refine steps.queue_sublist (fun world => way.messages world listener)
      (fun step => way.out (traffic listener step))
      (fun step => way.into (traffic listener step)) ?_
    intro before state action next earlier _ stepTo
    have fits := callsFit_of_reachable ⟨{}, before, rfl, earlier⟩
    exact ((EntryChange.of_step listener fits stepTo).queueStep way).lossy
  · intro action next stepTo keeps
    have fits := callsFit_of_reachable ⟨{}, actions, rfl, steps⟩
    exact (EntryChange.of_step listener fits stepTo).account keeps

/-- A client has asked for a request that listener 1 has received. -/
def requestWanted : List ManagerAction :=
  receiveOnce ++ [.runCallback ⟨9, 5, .connecting, .none⟩ .ok true,
    .request (.tryPopReceivedMessageQueue 1)]

/-- The client gets the request and answers it. -/
def requestAndResponse : List ManagerAction :=
  requestWanted ++ [.pollFunctionCall, .proceed] ++ pushOne 9 ++
    List.replicate 3 (.run 1 .none)

theorem messages_handed_over_requestAndResponse :
    (∃ world, managerSystem.Steps {} requestAndResponse world ∧
      (Traffic.ofRun 1 (managerSystem.trace {} requestAndResponse)).popped = [⟨9, [71]⟩] ∧
      [⟨9, [71]⟩].Sublist
        (Traffic.ofRun 1 (managerSystem.trace {} requestAndResponse)).received) ∧
    ∃ world next, managerSystem.Steps {} requestWanted world ∧
      managerSystem.step world .pollFunctionCall = some next ∧
      [⟨9, [71]⟩] ++ Way.inward.messages next 1 = Way.inward.messages world 1 ++ [] := by
  have steps : managerSystem.Steps {} requestAndResponse _ :=
    TransitionSystem.runWhere_eq_some_iff.mp rfl
  have wanted : managerSystem.Steps {} requestWanted _ :=
    TransitionSystem.runWhere_eq_some_iff.mp rfl
  have keeps (world : ManagerWorld) : ¬ Way.inward.Loses 1 world .pollFunctionCall := by
    intro loses
    cases loses
  exact ⟨⟨_, steps, rfl, (messages_handed_over _ _ steps 1 .inward).1⟩,
    _, _, wanted, rfl,
    (messages_handed_over _ _ wanted 1 .inward).2 .pollFunctionCall _ rfl (keeps _)⟩

end HttpServer
