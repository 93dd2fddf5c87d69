import HttpServer.DeliveredMessages

/-!
# The messages of a session of the manager

Within a session of a listener nothing is lost before the thread clears the queues, and then
the session is over: the thread receives and sends nothing more, and no response is accepted,
before the next start.  What comes out in a session is therefore what has come in first.
-/

namespace HttpServer

open Listener ManagerWorld NetworkManagerCore

/-- The thread is done with the session: it is not serving any more, and the handles are only
valid where `initSocket` is on the way to the next session. -/
structure SessionOver (info : ListenerInfo Listener) : Prop where
  still : info.listener.thread.isServing = false
  closed : (info.listener.call.isApart && info.listener.call.isUnbound) = false →
    info.listener.core.isInitialized = false

theorem outside_of_isIdle {call : ListenerCall} (idle : call.isIdle = true) :
    (call.isApart && call.isUnbound) = false := by
  cases call <;> first | rfl | cases idle

namespace SessionOver

variable {info next : ListenerInfo Listener} {action : EntryAction}

theorem initial (starts : entrySystem.Initial info) : SessionOver info := by
  constructor <;> simp [starts.1, ListenThread.isServing, ListenThread.isCommitted]

/-- Outside of a creation the handles are invalid, and the thread does not begin to serve. -/
theorem run (ended : SessionOver info) (coherent : Coherent info) {received : ReceivedMessages}
    {listener : Listener} (steps : info.listener.run received = some listener) :
    SessionOver (info.setListener listener) := by
  have notLast : info.listener.thread ≠ .resetPollGroup ∧
      info.listener.thread ≠ .resetSocket := by
    constructor <;> intro place <;> cases place ▸ ended.still
  constructor
  case still =>
    by_contra serves
    rcases run_isServing steps (eq_true_of_ne_false serves) with before | ⟨place, running⟩
    · exact absurd (before.symm.trans ended.still) (by decide)
    · have isOpen := coherent.leaves (Or.inr place) running
      cases creating : info.listener.call.isApart && info.listener.call.isUnbound with
      | true =>
          have waits := coherent.apart ((Bool.and_eq_true _ _).mp creating).1
          cases place ▸ waits
      | false =>
          exact isOpen.1 (ListenerCore.isInitialized_eq_false.mp (ended.closed creating)).1
  case closed =>
    intro outside
    have sameCall := (run_frame steps).1
    rw [ListenerInfo.setListener, sameCall] at outside
    have closed := ListenerCore.isInitialized_eq_false.mp (ended.closed outside)
    rw [ListenerInfo.setListener, ListenerCore.isInitialized_eq_false, run_socket steps,
      run_pollGroup steps, if_neg notLast.1, if_neg notLast.2]
    exact closed

/-- Outside of a creation a call leaves the handles alone. -/
theorem moveCall (ended : SessionOver info)
    (thread : next.listener.thread.isServing = info.listener.thread.isServing)
    (socket : next.listener.core.socket = info.listener.core.socket)
    (pollGroup : next.listener.core.pollGroup = info.listener.core.pollGroup)
    (outside : (next.listener.call.isApart && next.listener.call.isUnbound) = false →
      (info.listener.call.isApart && info.listener.call.isUnbound) = false) :
    SessionOver next where
  still := thread.trans ended.still
  closed outsideNext := by
    have closed := ListenerCore.isInitialized_eq_false.mp (ended.closed (outside outsideNext))
    rw [ListenerCore.isInitialized_eq_false, socket, pollGroup]
    exact closed

theorem notify_isServing {listener : Listener} :
    listener.notify.thread.isServing = listener.thread.isServing := by
  unfold Listener.notify
  split
  next parked =>
    rw [ListenThread.isParked_eq_true.mp parked]
    rfl
  next => rfl

theorem callStep (ended : SessionOver info) (coherent : Coherent info) {handle : UInt32}
    {listener : Listener} (steps : info.listener.callStep handle = some listener) :
    SessionOver (info.setListener listener) := by
  have fits := coherent.handles
  unfold ListenerInfo.HandlesFit at fits
  cases callStep_of_callStep steps with
  | socketFailed call failed =>
      rw [call] at fits
      dsimp only at fits
      rw [ListenerCore.isInitialized_eq_false] at fits
      exact ⟨ended.still, fun _ => ListenerCore.isInitialized_eq_false.mpr ⟨failed, fits.2⟩⟩
  | resetSocket call =>
      rw [call] at fits
      exact ⟨ended.still, fun _ => ListenerCore.isInitialized_eq_false.mpr ⟨rfl, fits.2⟩⟩
  | initGuard | createSocket | pollGroupFailed | createPollGroup | closeSocket | initReturn =>
      exact ⟨ended.still, by simp [ListenerInfo.setListener, callGoTo, ListenerCall.isApart,
        ListenerCall.isCreating, ListenerCall.isUnbound]⟩
  | startSet call | stopSet call | dtorNotify call =>
      refine ended.moveCall notify_isServing ?_ ?_ fun _ => by rw [call]; rfl
      · exact congrArg ListenerCore.socket notify_core
      · exact congrArg ListenerCore.pollGroup notify_core
  | initListening call | initTest call | initInitialized call | startInvalid call
  | startTest call | dtorFlag call | dtorJoin call =>
      exact ended.moveCall rfl rfl rfl fun _ => by rw [call]; rfl

/-- Only the next start ends the end of a session. -/
theorem entryStep (ended : SessionOver info) (coherent : Coherent info)
    (steps : HttpServer.entryStep info action = some next) (noStart : action ≠ .adopt) :
    SessionOver next := by
  cases entryStep_of_entryStep steps with
  | run runs => exact ended.run coherent runs
  | callStep calls => exact ended.callStep coherent calls
  | wake parked =>
      exact ended.moveCall (by rw [parked]; rfl) rfl rfl id
  | adopt => exact absurd rfl noStart
  | initFailed call | startReturned call | stopReturned call | destroyStopped call
  | destroyIdle call =>
      exact ended.moveCall rfl rfl rfl fun _ => by rw [call]; rfl
  | beginStart _ idle | beginStop _ idle | push _ idle | popReceived idle | popError idle =>
      exact ended.moveCall rfl rfl rfl fun _ => outside_of_isIdle idle

end SessionOver

/-- Only its own statements move the thread, except that it may be woken. -/
theorem entryStep_thread {info next : ListenerInfo Listener} {action : EntryAction}
    (steps : entryStep info action = some next) (notRun : action.isRun = false) :
    next.listener.thread = info.listener.thread ∨
      info.listener.thread = .parked ∧ next.listener.thread = .notified := by
  cases entryStep_of_entryStep steps with
  | run => cases notRun
  | callStep calls =>
      obtain ⟨_, same⟩ := SameMessages.callStep calls
      exact same.thread
  | wake parked => exact Or.inr ⟨parked, rfl⟩
  | _ => exact Or.inl rfl

/-- Where every session keeps its messages, a thread that clears the queues is done with its
session. -/
theorem sessionOver_of_clearing {info : ListenerInfo Listener}
    (reaches : entrySystem.ReachableWhere (fun info move => keepsSessions info move = true)
      info) (clears : info.listener.thread.isClearing = true) : SessionOver info := by
  revert clears
  refine reaches.invariant
    (fun info => info.listener.thread.isClearing = true → SessionOver info) ?_ ?_
  · intro info starts clears
    cases starts.1 ▸ clears
  intro info action next reached ended meets steps clears
  have coherent := coherent_of_reachable reached
  cases runs : action.isRun with
  | true =>
      cases action with
      | run received =>
          obtain ⟨listener, runs, rfl⟩ := Option.map_eq_some_iff.mp steps
          rcases run_isClearing runs clears with ⟨before, _⟩ | place
          · exact (ended before).run coherent runs
          · -- The second handle is reset last.
            have goes := (run_thread_eq_clearOutgoing runs).mpr place
            refine ⟨by rw [ListenerInfo.setListener, goes]; rfl, fun _ => ?_⟩
            have notFirst : info.listener.thread ≠ .resetSocket := by
              intro first
              cases place ▸ first
            rw [ListenerInfo.setListener, ListenerCore.isInitialized_eq_false,
              run_socket runs, run_pollGroup runs, if_neg notFirst, if_pos place]
            exact ⟨(coherent.closing (Or.inr place)).1, rfl⟩
      | _ => cases runs
  | false =>
      have before : info.listener.thread.isClearing = true := by
        rcases entryStep_thread steps runs with same | ⟨_, notified⟩
        · rwa [← same]
        · cases notified ▸ clears
      apply (ended before).entryStep coherent steps
      rintro rfl
      have adopts : entryStep info .adopt = some next := steps
      cases entryStep_of_entryStep adopts with
      | adopt call =>
          have apart := (sessionsApart_of_reachable reached).apart (by rw [call]; rfl)
          exact absurd (before.symm.trans apart.1) (by decide)

/-- The step is the one with which the next session of the listener begins. -/
def startsAgain (listener : HListener) (world : ManagerWorld) (action : ManagerAction) : Bool :=
  match world.entryAction action with
  | some (other, .adopt) => other = listener
  | _ => false

/-- The session of the listener goes on, and messages stay in their sessions. -/
abbrev SameSession (listener : HListener) (world : ManagerWorld) (action : ManagerAction) :
    Prop :=
  KeepsSessions world action ∧ startsAgain listener world action = false

/-- Nothing more moves on the way in this session. -/
structure Way.Closed (way : Way) (info : ListenerInfo Listener) : Prop where
  ended : SessionOver info
  empty : way.pending info.listener = []
  cleared : way = .outward → info.listener.thread ≠ .clearOutgoing

theorem Way.closed_of_initial {way : Way} {info : ListenerInfo Listener}
    (starts : entrySystem.Initial info) : way.Closed info where
  ended := SessionOver.initial starts
  empty := by rw [starts.1, Way.pending_new]
  cleared _ := by
    rw [starts.1]
    exact nofun

section Session

variable {info next : ListenerInfo Listener} {action : EntryAction} {way : Way}

/-- Nothing is received after the session, and a response is only accepted before the
responses are cleared. -/
theorem into_of_closed (closed : way.Closed info) (meets : keepsSessions info action = true)
    (steps : entryStep info action = some next) : way.into (action.traffic info) = [] := by
  cases action with
  | run received =>
      cases way with
      | inward =>
          dsimp only [Way.into, EntryAction.traffic]
          split
          next place => cases place ▸ closed.ended.still
          · rfl
      | outward => rfl
  | push message mark =>
      cases way with
      | inward => rfl
      | outward =>
          cases entryStep_of_entryStep steps with
          | push bound idle =>
              have shut := closed.ended.closed (outside_of_isIdle idle)
              simp [keepsSessions, shut, closed.cleared rfl] at meets
  | _ => exact Way.into_none

/-- Only the statement before it leads to the one that clears the responses, and the thread
is not there when the session is over. -/
theorem cleared_of_step (ended : SessionOver info) (steps : entryStep info action = some next)
    (before : action.isRun = true ∨ info.listener.thread ≠ .clearOutgoing) :
    next.listener.thread ≠ .clearOutgoing := by
  intro place
  cases runs : action.isRun with
  | true =>
      cases action with
      | run received =>
          obtain ⟨listener, runs, rfl⟩ := Option.map_eq_some_iff.mp steps
          cases (run_thread_eq_clearOutgoing runs).mp place ▸ ended.still
      | _ => cases runs
  | false =>
      rcases entryStep_thread steps runs with same | ⟨_, notified⟩
      · rw [runs] at before
        exact (before.resolve_left nofun) (same.symm.trans place)
      · cases notified.symm.trans place

variable (reaches : entrySystem.ReachableWhere
    (fun info move => keepsSessions info move = true) info)
  (steps : entryStep info action = some next)
include reaches steps

/-- A queue loses messages only when the session is over. -/
theorem entry_moves_or_closed :
    QueueAccount (way.out (action.traffic info)) (way.pending next.listener)
        (way.pending info.listener ++ way.into (action.traffic info)) ∨
      way.out (action.traffic info) = [] ∧ way.into (action.traffic info) = [] ∧
        way.Closed next := by
  by_cases clears : info.listener.thread = way.clearing ∧ action.isRun = true
  · obtain ⟨place, runs⟩ := clears
    cases action with
    | run received =>
        obtain ⟨none, empty⟩ := entry_clears way steps place
        have ended := sessionOver_of_clearing reaches (by rw [place]; cases way <;> rfl)
        have endedNext := ended.entryStep (coherent_of_reachable reaches) steps nofun
        rw [none]
        exact Or.inr ⟨way.out_none, way.into_none, endedNext, empty,
          fun _ => cleared_of_step ended steps (Or.inl rfl)⟩
    | _ => cases runs
  · exact Or.inl (entry_moves way steps (by simpa [imp_iff_not_or] using clears))

/-- A closed way stays closed and empty until the next start. -/
theorem entry_closed (meets : keepsSessions info action = true) (noStart : action ≠ .adopt)
    (closed : way.Closed info) :
    way.out (action.traffic info) = [] ∧ way.into (action.traffic info) = [] ∧
      way.Closed next := by
  have into := into_of_closed closed meets steps
  have endedNext := closed.ended.entryStep (coherent_of_reachable reaches) steps noStart
  have cleared (outward : way = .outward) : next.listener.thread ≠ .clearOutgoing :=
    cleared_of_step closed.ended steps (Or.inr (closed.cleared outward))
  have flow := entry_queueStep way steps
  rw [closed.empty, into] at flow
  rcases flow with moved | ⟨out, _, rest⟩
  · obtain ⟨out, rest⟩ := List.append_eq_nil_iff.mp moved
    exact ⟨out, into, endedNext, rest, cleared⟩
  · exact ⟨out, into, endedNext, rest, cleared⟩

end Session

section Change

variable {listener : HListener} {world next : ManagerWorld} {action : ManagerAction}
  {way : Way} (change : EntryChange listener world next action)
  (entries : ∀ info, world.core.listeners.lookup listener = some info →
    entrySystem.ReachableWhere (fun info move => keepsSessions info move = true) info)
include change entries

/-- The way is closed in the entry of the listener, if there is one. -/
abbrev Way.ClosedIn (way : Way) (listener : HListener) (world : ManagerWorld) : Prop :=
  ∀ info, world.core.listeners.lookup listener = some info → way.Closed info

theorem change_moves_or_closed :
    QueueAccount (way.out (traffic listener (world, action))) (way.messages next listener)
        (way.messages world listener ++ way.into (traffic listener (world, action))) ∨
      way.out (traffic listener (world, action)) = [] ∧
        way.into (traffic listener (world, action)) = [] ∧ way.ClosedIn listener next := by
  unfold Way.messages
  cases change with
  | moves found foundNext acts steps traffic =>
      rw [found, foundNext, traffic]
      apply (entry_moves_or_closed (entries _ found) steps).imp_right
      rintro ⟨out, into, closed⟩
      refine ⟨out, into, fun info same => ?_⟩
      obtain rfl := Option.some.inj (foundNext.symm.trans same)
      exact closed
  | rests same quiet =>
      rw [same, quiet, Way.out_none, Way.into_none]
      exact Or.inl (List.append_nil _).symm
  | gone erased _ quiet =>
      rw [quiet]
      refine Or.inr ⟨way.out_none, way.into_none, fun info same => ?_⟩
      cases erased.symm.trans same
  | created unknown found fresh quiet =>
      rw [unknown, found, quiet, Way.out_none, Way.into_none]
      dsimp only
      rw [fresh.1, Way.pending_new]
      exact Or.inl rfl

theorem change_closed (meets : SameSession listener world action)
    (closed : way.ClosedIn listener world) :
    way.out (traffic listener (world, action)) = [] ∧
      way.into (traffic listener (world, action)) = [] ∧ way.ClosedIn listener next := by
  cases change with
  | @moves info piece move found foundNext acts steps traffic =>
      have keeps : keepsSessions info move = true := by
        simpa [KeepsSessions, everywhere, acts, found] using meets.1
      have noStart : move ≠ .adopt := by
        rintro rfl
        simpa [startsAgain, acts] using meets.2
      obtain ⟨out, into, closedNext⟩ :=
        entry_closed (entries _ found) steps keeps noStart (closed _ found)
      rw [traffic]
      refine ⟨out, into, fun info same => ?_⟩
      obtain rfl := Option.some.inj (foundNext.symm.trans same)
      exact closedNext
  | rests same quiet =>
      rw [quiet]
      exact ⟨way.out_none, way.into_none, fun info found => closed info (same.symm.trans found)⟩
  | gone erased _ quiet =>
      rw [quiet]
      refine ⟨way.out_none, way.into_none, fun info same => ?_⟩
      cases erased.symm.trans same
  | created unknown found fresh quiet =>
      rw [quiet]
      refine ⟨way.out_none, way.into_none, fun info same => ?_⟩
      obtain rfl := Option.some.inj (found.symm.trans same)
      exact Way.closed_of_initial fresh

end Change

/-- From a start of a listener to its next one, what comes out of either way is what has come
in first: clients get what the listener has received, and it sends what it has accepted, and
nothing is left out before something that is not.  As long as the listener has its handles,
what has not come out is still on its way. -/
theorem session_delivers (before after : List ManagerAction) (start world : ManagerWorld)
    (reaches : managerSystem.StepsWhere KeepsSessions {} before start)
    (listener : HListener) (info : ListenerInfo Listener)
    (found : start.core.listeners.lookup listener = some info)
    (begins : info.listener.call = .startTest)
    (steps : managerSystem.StepsWhere (SameSession listener) start after world) (way : Way) :
    way.out (Traffic.ofRun listener (managerSystem.trace start after)) <+:
        way.into (Traffic.ofRun listener (managerSystem.trace start after)) ∧
      ∀ piece, world.core.listeners.lookup listener = some piece →
        piece.listener.call.isIdle = true → piece.listener.core.isInitialized = true →
        way.out (Traffic.ofRun listener (managerSystem.trace start after)) ++
            way.pending piece.listener =
          way.into (Traffic.ofRun listener (managerSystem.trace start after)) := by
  have reached {state : ManagerWorld} {taken : List ManagerAction}
      (earlier : managerSystem.StepsWhere (SameSession listener) start taken state) :
      managerSystem.ReachableWhere KeepsSessions state :=
    ⟨{}, _, rfl, reaches.trans (earlier.mono fun _ _ meets => meets.1)⟩
  -- A session begins with empty queues and an idle thread.
  have empty : way.messages start listener = [] := by
    have entry := entry_reachable (reached .refl) found
    have apart : info.listener.call.isApart = true := by rw [begins]; rfl
    obtain ⟨_, outgoing, received⟩ := (sessionsApart_of_reachable entry).apart apart
    have waits := (coherent_of_reachable entry).apart apart
    rw [Way.messages, found]
    cases way <;> cases place : info.listener.thread <;>
      simp_all [Way.pending, Listener.entering, Listener.leaving, storing, sending, requests,
        ListenThread.isCommitted]
  have held := steps.queue_prefix (fun world => way.messages world listener)
    (fun step => way.out (traffic listener step)) (fun step => way.into (traffic listener step))
    (way.ClosedIn listener) empty
    (fun taken state action next earlier _ stepTo => change_moves_or_closed
      (EntryChange.of_step listener (callsFit_of_reachable (reached earlier)) stepTo)
      fun info found => entry_reachable (reached earlier) found)
    (fun taken state action next earlier closed meets stepTo => change_closed
      (EntryChange.of_step listener (callsFit_of_reachable (reached earlier)) stepTo)
      (fun info found => entry_reachable (reached earlier) found) meets closed)
  rw [Way.out_ofRun, Way.into_ofRun]
  refine ⟨held.1, fun piece foundPiece idle initialized => ?_⟩
  rcases held.2 with closed | account
  · have shut := (closed piece foundPiece).ended.closed (outside_of_isIdle idle)
    exact absurd (shut.symm.trans initialized) (by decide)
  · rwa [Way.messages, foundPiece] at account

theorem session_delivers_requestAndResponse :
    ∃ start world, managerSystem.StepsWhere (SameSession 1) start
        (requestAndResponse.drop 15) world ∧
      [⟨9, [71]⟩] <+: (Traffic.ofRun 1 (managerSystem.trace start
        (requestAndResponse.drop 15))).received := by
  have executes : ∃ start info world,
      managerSystem.runWhere KeepsSessions {} (requestAndResponse.take 15) = some start ∧
      start.core.listeners.lookup 1 = some info ∧ info.listener.call = .startTest ∧
      managerSystem.runWhere (SameSession 1) start (requestAndResponse.drop 15) = some world ∧
      (Traffic.ofRun 1 (managerSystem.trace start (requestAndResponse.drop 15))).popped =
        [⟨9, [71]⟩] :=
    ⟨_, _, _, rfl, rfl, rfl, rfl, rfl⟩
  obtain ⟨start, info, world, reaches, found, begins, goesOn, popped⟩ := executes
  have steps := TransitionSystem.runWhere_eq_some_iff.mp goesOn
  have delivers := (session_delivers _ _ _ _ (TransitionSystem.runWhere_eq_some_iff.mp reaches)
    1 info found begins steps .inward).1
  rw [Way.out, popped] at delivers
  exact ⟨start, world, steps, delivers⟩

end HttpServer
