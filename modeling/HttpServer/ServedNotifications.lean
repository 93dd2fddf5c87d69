import HttpServer.ManagerTables
import HttpServer.RestartedListener

/-!
# Reporting that a response was served

A response is accepted when its connection is in the table of the listener's
socket.  The listener's thread sends it and queues a `ConnectionServed`, which the
network thread takes up later still.  In between the connection may be closed or
the listener stopped.  A `ConnectionServed` finds what it asks for as long as
neither has happened since the response was accepted.
-/

namespace HttpServer

open Listener ManagerWorld NetworkManagerCore

namespace Listener

/-- A response that waits to be sent, or whose notification is still to come. -/
def Carries (listener : Listener) (message : QueuedMessage) : Prop :=
  message ∈ listener.core.outgoingMessages ∨ listener.thread = .send message ∨
    listener.thread = .served message

variable {listener next : Listener} {message : QueuedMessage}

theorem run_carries {received : ReceivedMessages} (steps : listener.run received = some next)
    (carries : next.Carries message) : listener.Carries message := by
  unfold Carries at carries ⊢
  cases runStep_of_run steps with
  | skip place queue =>
      simp only [goTo, reduceCtorEq, or_false] at carries
      rw [queue]
      exact Or.inl (List.mem_cons_of_mem _ carries)
  | take place queue =>
      simp only [goTo, ListenThread.send.injEq, reduceCtorEq, or_false] at carries
      rw [queue]
      rcases carries with queued | rfl
      · exact Or.inl (List.mem_cons_of_mem _ queued)
      · exact Or.inl (List.mem_cons_self ..)
  | _ => simp_all [goTo, Listener.record]

theorem notify_carries (carries : listener.notify.Carries message) :
    listener.Carries message := by
  unfold notify at carries
  split at carries
  · refine Or.inl (carries.resolve_right fun sends => ?_)
    rcases sends with sends | sends
    · cases sends
    · cases sends
  · exact carries

theorem callStep_carries {handle : UInt32} (steps : listener.callStep handle = some next)
    (carries : next.Carries message) : listener.Carries message := by
  cases callStep_of_callStep steps with
  | startSet | stopSet =>
      rw [notify_listening] at carries
      have before := notify_carries carries
      exact before
  | dtorNotify =>
      have before := notify_carries carries
      exact before
  | _ => exact carries

end Listener

section Entry

variable {info next : ListenerInfo Listener} {move : EntryAction}
  (steps : entryStep info move = some next)
include steps

/-- Only a response that is accepted is new. -/
theorem entryStep_carries {message : QueuedMessage}
    (carries : next.listener.Carries message) :
    info.listener.Carries message ∨ move = .push message.request message.mark := by
  cases entryStep_of_entryStep steps with
  | run runs => exact Or.inl (run_carries runs carries)
  | wake =>
      refine Or.inl (Or.inl (carries.resolve_right fun sends => ?_))
      rcases sends with sends | sends
      · cases sends
      · cases sends
  | callStep calls => exact Or.inl (callStep_carries calls carries)
  | push =>
      rcases carries with queued | sends
      · rcases ThreadSaveQueue.mem_push.mp queued with before | rfl
        · exact Or.inl (Or.inl before)
        · exact Or.inr rfl
      · exact Or.inl (Or.inr sends)
  | _ => exact Or.inl carries

theorem entryStep_socket : next.socket = info.socket ∨
    move = .adopt ∧ info.listener.call.isUnbound = true ∨ move = .beginStop := by
  cases entryStep_of_entryStep steps with
  | adopt call => exact Or.inr (Or.inl ⟨rfl, by rw [call]; rfl⟩)
  | beginStop => exact Or.inr (Or.inr rfl)
  | _ => exact Or.inl rfl

end Entry

/-- A step that accepts no response: those that stand after it stood before, their
connections are still in their tables, and none was for a listener that is being
stopped. -/
structure KeepsResponses (world next : ManagerWorld)
    (acted : Option (HListener × EntryAction)) : Prop where
  accepted : next.accepted = world.accepted
  standing : ∀ response ∈ next.standing, response ∈ world.standing
  inTable : ∀ response ∈ next.standing,
    world.core.InTable response.socket response.connection →
    next.core.InTable response.socket response.connection
  noPush : ∀ listener request mark, acted ≠ some (listener, .push request mark)
  stops : ∀ listener info, acted = some (listener, .beginStop) →
    world.core.listeners.lookup listener = some info →
    info.socket ≠ hSteamListenSocketInvalid →
    ∀ response ∈ next.standing, response.socket ≠ info.socket

/-- The step that accepts a response. -/
structure AcceptsResponse (world next : ManagerWorld) (listener : HListener)
    (info : ListenerInfo Listener) (request : Request) : Prop where
  found : world.core.listeners.lookup listener = some info
  bound : info.socket ≠ hSteamListenSocketInvalid
  connected : world.core.InTable info.socket request.connection
  accepted : next.accepted = world.accepted + 1
  standing : next.standing = world.standing ++
    [⟨world.accepted + 1, info.socket, request.connection⟩]
  tables : next.core.socketClientsMap = world.core.socketClientsMap

namespace KeepsResponses

variable {world next : ManagerWorld} {acted : Option (HListener × EntryAction)}

/-- A step that leaves the tables and the responses alone. -/
theorem same (accepted : next.accepted = world.accepted)
    (standing : next.standing = world.standing)
    (tables : next.core.socketClientsMap = world.core.socketClientsMap)
    (noPush : ∀ listener request mark, acted ≠ some (listener, .push request mark))
    (noStop : ∀ listener, acted = some (listener, .beginStop) → ∀ info,
      world.core.listeners.lookup listener = some info →
      info.socket = hSteamListenSocketInvalid) : KeepsResponses world next acted := by
  refine ⟨accepted, ?_, ?_, noPush, ?_⟩
  · intro response stands
    rwa [standing] at stands
  · intro response _ inTable
    exact inTable_of_same tables inTable
  · intro listener info acts found bound
    exact absurd (noStop listener acts info found) bound

/-- The first half of a stop. -/
theorem dropSocket {listener : HListener} {info : ListenerInfo Listener} {net : NetThread}
    (socketInfo : SocketInfo) (found : world.core.listeners.lookup listener = some info) :
    KeepsResponses world { world.dropSocket listener info.socket socketInfo with net := net }
      (some (listener, .beginStop)) := by
  refine ⟨rfl, ?_, ?_, ?_, ?_⟩
  · intro response stands
    exact (List.mem_filter.mp stands).1
  · intro response stands inTable
    have other := of_decide_eq_true (List.mem_filter.mp stands).2
    exact inTable_of_same rfl (inTable_dropSocket listener socketInfo inTable other)
  · intro other request mark acts
    cases acts
  · intro other otherInfo acts foundOther _ response stands
    cases acts
    obtain rfl := Option.some.inj (found.symm.trans foundOther)
    exact of_decide_eq_true (List.mem_filter.mp stands).2

end KeepsResponses

namespace ManagerWorld

variable {world next : ManagerWorld}

/-- Taking up a function either keeps the responses or accepts one. -/
theorem begin_responses {call : FunctionCall} (begins : BeginStep world call next) :
    KeepsResponses world next (world.callAction call) ∨ ∃ listener info request,
      world.callAction call = some (listener, .push request (world.accepted + 1)) ∧
      AcceptsResponse world next listener info request := by
  cases begins with
  | creates creates =>
      exact Or.inl (.same rfl rfl (socketClientsMap_createListener creates)
        (fun _ _ _ acts => by cases acts) fun _ acts => by cases acts)
  | refused _ noStop noPush =>
      exact Or.inl (.same rfl rfl rfl noPush fun listener acts info => noStop listener info acts)
  | starts =>
      exact Or.inl (.same rfl rfl rfl (fun _ _ _ acts => by cases acts)
        fun _ acts => by cases acts)
  | drops acts found =>
      rw [acts]
      exact Or.inl (.dropSocket _ found)
  | destructs acts =>
      rw [acts]
      exact Or.inl (.same rfl rfl rfl (fun _ _ _ acts => by cases acts)
        fun _ acts => by cases acts)
  | @popsReceived listener =>
      exact Or.inl (.same rfl rfl (socketClientsMap_tryPopReceived _ listener)
        (fun _ _ _ acts => by cases acts) fun _ acts => by cases acts)
  | @pushes listener message info _ acts found bound connected tables =>
      exact Or.inr ⟨listener, info, message, acts, found, bound, connected, rfl, rfl, tables⟩
  | @popsError listener =>
      exact Or.inl (.same rfl rfl (socketClientsMap_tryPopError _ listener)
        (fun _ _ _ acts => by cases acts) fun _ acts => by cases acts)
  | serves serves =>
      refine Or.inl ⟨rfl, fun _ stands => stands, ?_, ?_, ?_⟩
      · intro response _ inTable
        exact inTable_connectionServed serves inTable
      · intro other request mark acts
        cases acts
      · intro other info acts
        cases acts

/-- The network thread's next statement keeps every table but the ones it opens. -/
theorem proceed_keeps {listener : HListener} {call : ListenerCall}
    (proceeds : ProceedStep world listener call next) :
    next.accepted = world.accepted ∧ next.standing = world.standing ∧
      next.functionCalls = world.functionCalls ∧
      ∀ socket connection, world.core.InTable socket connection →
        next.core.InTable socket connection := by
  cases proceeds with
  | adopts =>
      exact ⟨rfl, rfl, rfl, fun _ _ inTable =>
        inTable_of_same rfl (inTable_adoptSocket listener _ inTable)⟩
  | initFails | startFails | started | stopped | destructs | erases =>
      exact ⟨rfl, rfl, rfl, fun _ _ inTable => inTable_of_same rfl inTable⟩

theorem resumeAction_quiet {net : NetThread} {call : ListenerCall} {move : EntryAction}
    (resumes : resumeAction net call = some move) :
    move ≠ .beginStop ∧ ∀ request mark, move ≠ .push request mark := by
  unfold resumeAction at resumes
  split at resumes
  all_goals
    first
    | cases resumes; done
    | obtain rfl := Option.some.inj resumes
      simp

/-- Every step either keeps the responses or accepts one. -/
theorem step_responses {action : ManagerAction}
    (steps : managerSystem.step world action = some next) :
    KeepsResponses world next (world.entryAction action) ∨ ∃ listener info request,
      world.entryAction action = some (listener, .push request (world.accepted + 1)) ∧
      AcceptsResponse world next listener info request := by
  cases step_of_step steps with
  | request | run | wake =>
      exact Or.inl (.same rfl rfl rfl (fun _ _ _ acts => by cases acts)
        fun _ acts => by cases acts)
  | @pollFunctionCall call rest _ net calls begins =>
      have acts : world.entryAction .pollFunctionCall = world.callAction call := by
        rw [entryAction, calls]
        rfl
      rw [acts]
      rcases begin_responses begins with keeps | ⟨listener, info, request, pushes, accepts⟩
      · exact Or.inl ⟨keeps.accepted, keeps.standing, keeps.inTable, keeps.noPush, keeps.stops⟩
      · exact Or.inr ⟨listener, info, request, pushes, accepts.found, accepts.bound,
          accepts.connected, accepts.accepted, accepts.standing, accepts.tables⟩
  | listenerCall target =>
      rw [entryAction, target]
      exact Or.inl (.same rfl rfl rfl (fun _ _ _ acts => by cases acts)
        fun _ acts => by cases acts)
  | returns net =>
      rw [entryAction, net]
      exact Or.inl (.same rfl rfl rfl (fun _ _ _ acts => by cases acts)
        fun _ acts => by cases acts)
  | proceed target found proceeds =>
      have quiet {other : HListener} {move : EntryAction}
          (acts : world.entryAction .proceed = some (other, move)) :
          move ≠ .beginStop ∧ ∀ request mark, move ≠ .push request mark := by
        rw [entryAction, target, Option.bind_some, found, Option.bind_some] at acts
        obtain ⟨resumed, resumes, same⟩ := Option.map_eq_some_iff.mp acts
        cases same
        exact resumeAction_quiet resumes
      obtain ⟨accepted, standing, _, tables⟩ := proceed_keeps proceeds
      refine Or.inl ⟨accepted, ?_, ?_, ?_, ?_⟩
      · intro response stands
        rwa [standing] at stands
      · intro response _ inTable
        exact tables _ _ inTable
      · intro other request mark acts
        exact (quiet acts).2 request mark rfl
      · intro other otherInfo acts
        exact absurd rfl (quiet acts).1
  | runCallback net delivers =>
      refine Or.inl ⟨rfl, ?_, ?_, ?_, ?_⟩
      · intro response stands
        exact (List.mem_filter.mp stands).1
      · intro response stands inTable
        apply inTable_callbackManager delivers inTable
        intro closes
        have other := (List.mem_filter.mp stands).2
        rcases closes with state | state
        · simpa [state] using other
        · simpa [state] using other
      · intro listener request mark acts
        cases acts
      · intro listener otherInfo acts
        cases acts

/-- Only a listener's thread that has sent a response queues a
`ConnectionServed`. -/
theorem step_functionCalls {action : ManagerAction} {call : FunctionCall}
    (steps : managerSystem.step world action = some next)
    (served : call.isConnectionServed = true) (queued : call ∈ next.functionCalls) :
    call ∈ world.functionCalls ∨ ∃ listener info message,
      world.core.listeners.lookup listener = some info ∧
      info.listener.thread = .served message ∧
      call = .connectionServed info.listener.core.socket message.request.connection
        message.mark := by
  cases step_of_step steps with
  | request isRequest =>
      rcases ThreadSaveQueue.mem_push.mp queued with before | rfl
      · exact Or.inl before
      · cases isRequest.symm.trans served
  | @pollFunctionCall taken rest _ net calls begins =>
      rw [(begin_frame begins).2.1] at queued
      rw [calls]
      exact Or.inl (List.mem_cons_of_mem taken queued)
  | listenerCall | returns | runCallback | wake => exact Or.inl queued
  | proceed target found proceeds =>
      rw [(proceed_keeps proceeds).2.2.1] at queued
      exact Or.inl queued
  | @run listener _ info _ found =>
      dsimp only at queued
      split at queued
      next message place =>
        rcases ThreadSaveQueue.mem_push.mp queued with before | rfl
        · exact Or.inl before
        · exact Or.inr ⟨listener, info, message, found, place, rfl⟩
      · exact Or.inl queued

/-- Where a response that a listener carries after a step comes from. -/
theorem carries_step {action : ManagerAction} {listener : HListener}
    {info : ListenerInfo Listener} {message : QueuedMessage}
    (reaches : managerSystem.Reachable world)
    (steps : managerSystem.step world action = some next)
    (found : next.core.listeners.lookup listener = some info)
    (carries : info.listener.Carries message) :
    ∃ before, world.core.listeners.lookup listener = some before ∧
      (info.socket = before.socket ∨ before.socket = hSteamListenSocketInvalid ∨
        world.entryAction action = some (listener, .beginStop)) ∧
      (before.listener.Carries message ∨
        world.entryAction action = some (listener, .push message.request message.mark)) := by
  rcases ((entriesStep (callsFit_of_reachable reaches) steps).entry listener info found).2 with
    created | ⟨before, foundBefore, rfl | ⟨move, acts, moves⟩⟩
  · rw [created.1.1] at carries
    rcases carries with queued | sends | sends
    · cases queued
    · cases sends
    · cases sends
  · exact ⟨_, foundBefore, Or.inl rfl, Or.inl carries⟩
  · refine ⟨before, foundBefore, ?_, ?_⟩
    · rcases entryStep_socket moves with same | ⟨rfl, unbound⟩ | rfl
      · exact Or.inl same
      · exact Or.inr (Or.inl ((coherent_of_found reaches foundBefore).unbound unbound))
      · exact Or.inr (Or.inr acts)
    · rcases entryStep_carries moves carries with earlier | rfl
      · exact Or.inl earlier
      · exact Or.inr acts

/-- The marks tell the responses apart, a response that stands has its connection
in the table of its socket, and its listener still has that socket: so do its
message and its notification. -/
structure ResponsesStand (world : ManagerWorld) : Prop where
  numbered : ∀ response ∈ world.standing, response.mark ≤ world.accepted
  carriedNumbered : ∀ listener info message,
    world.core.listeners.lookup listener = some info → info.listener.Carries message →
    message.mark ≤ world.accepted
  calledNumbered : ∀ socket connection mark,
    .connectionServed socket connection mark ∈ world.functionCalls → mark ≤ world.accepted
  inTable : ∀ response ∈ world.standing, response.socket ≠ hSteamListenSocketInvalid ∧
    world.core.InTable response.socket response.connection
  carried : ∀ listener info message, world.core.listeners.lookup listener = some info →
    info.listener.Carries message → ∀ response ∈ world.standing,
    response.mark = message.mark →
    info.socket = response.socket ∧ message.request.connection = response.connection
  called : ∀ socket connection, ∀ response ∈ world.standing,
    .connectionServed socket connection response.mark ∈ world.functionCalls →
    socket = response.socket ∧ connection = response.connection

namespace ResponsesStand

theorem initial : ResponsesStand {} := by
  constructor <;> simp

/-- What a thread that has sent a response passes on. -/
theorem served (stand : world.ResponsesStand) (reaches : managerSystem.Reachable world)
    {listener : HListener} {info : ListenerInfo Listener} {message : QueuedMessage}
    (found : world.core.listeners.lookup listener = some info)
    (place : info.listener.thread = .served message) :
    message.mark ≤ world.accepted ∧ ∀ response ∈ world.standing,
      response.mark = message.mark → info.listener.core.socket = response.socket ∧
        message.request.connection = response.connection := by
  have carries : info.listener.Carries message := Or.inr (Or.inr place)
  refine ⟨stand.carriedNumbered listener info message found carries, ?_⟩
  intro response stands mark
  obtain ⟨socket, connection⟩ := stand.carried listener info message found carries response
    stands mark
  have coherent := coherent_of_found reaches found
  have isOpen := coherent.uses (by rw [place]; rfl)
  have bound : info.socket ≠ hSteamListenSocketInvalid := by
    rw [socket]
    exact (stand.inTable response stands).1
  have same := (coherent.bound bound).resolve_right isOpen.1
  exact ⟨same.trans socket, connection⟩

theorem keeps {action : ManagerAction} (stand : world.ResponsesStand)
    (reaches : managerSystem.Reachable world)
    (steps : managerSystem.step world action = some next)
    (keeps : KeepsResponses world next (world.entryAction action)) :
    next.ResponsesStand := by
  constructor
  case numbered =>
    intro response stands
    rw [keeps.accepted]
    exact stand.numbered response (keeps.standing response stands)
  case carriedNumbered =>
    intro listener info message found carries
    obtain ⟨before, foundBefore, _, earlier | pushed⟩ :=
      carries_step reaches steps found carries
    · rw [keeps.accepted]
      exact stand.carriedNumbered listener before message foundBefore earlier
    · exact absurd pushed (keeps.noPush _ _ _)
  case calledNumbered =>
    intro socket connection mark queued
    rw [keeps.accepted]
    rcases step_functionCalls steps rfl queued with
      before | ⟨listener, info, message, found, place, same⟩
    · exact stand.calledNumbered socket connection mark before
    · cases same
      exact (stand.served reaches found place).1
  case inTable =>
    intro response stands
    obtain ⟨valid, inTable⟩ := stand.inTable response (keeps.standing response stands)
    exact ⟨valid, keeps.inTable response stands inTable⟩
  case carried =>
    intro listener info message found carries response stands mark
    obtain ⟨before, foundBefore, socketKept, earlier | pushed⟩ :=
      carries_step reaches steps found carries
    · have stood := keeps.standing response stands
      obtain ⟨socket, connection⟩ := stand.carried listener before message foundBefore earlier
        response stood mark
      have bound : before.socket ≠ hSteamListenSocketInvalid := by
        rw [socket]
        exact (stand.inTable response stood).1
      rcases socketKept with same | unbound | stops
      · exact ⟨same.trans socket, connection⟩
      · exact absurd unbound bound
      · exact absurd socket.symm
          (keeps.stops listener before stops foundBefore bound response stands)
    · exact absurd pushed (keeps.noPush _ _ _)
  case called =>
    intro socket connection response stands queued
    have stood := keeps.standing response stands
    generalize marked : response.mark = mark at queued
    rcases step_functionCalls steps rfl queued with
      before | ⟨listener, info, message, found, place, same⟩
    · subst marked
      exact stand.called socket connection response stood before
    · cases same
      exact (stand.served reaches found place).2 response stood marked

theorem accepts {action : ManagerAction} {listener : HListener}
    {info : ListenerInfo Listener} {request : Request} (stand : world.ResponsesStand)
    (reaches : managerSystem.Reachable world)
    (steps : managerSystem.step world action = some next)
    (pushes : world.entryAction action = some (listener, .push request (world.accepted + 1)))
    (accepts : AcceptsResponse world next listener info request) : next.ResponsesStand := by
  have standing (response : AcceptedResponse) : response ∈ next.standing ↔
      response ∈ world.standing ∨
        response = ⟨world.accepted + 1, info.socket, request.connection⟩ := by
    rw [accepts.standing, List.mem_append, List.mem_singleton]
  have marked {other : HListener} {message : QueuedMessage}
      (pushed : world.entryAction action =
        some (other, .push message.request message.mark)) :
      other = listener ∧ message.request = request ∧ message.mark = world.accepted + 1 := by
    simpa using pushed.symm.trans pushes
  constructor
  case numbered =>
    intro response stands
    rw [accepts.accepted]
    rcases (standing response).mp stands with stood | rfl
    · exact Nat.le_succ_of_le (stand.numbered response stood)
    · exact Nat.le_refl _
  case carriedNumbered =>
    intro other otherInfo message found carries
    rw [accepts.accepted]
    obtain ⟨before, foundBefore, _, earlier | pushed⟩ :=
      carries_step reaches steps found carries
    · exact Nat.le_succ_of_le
        (stand.carriedNumbered other before message foundBefore earlier)
    · exact Nat.le_of_eq (marked pushed).2.2
  case calledNumbered =>
    intro socket connection mark queued
    rw [accepts.accepted]
    rcases step_functionCalls steps rfl queued with
      before | ⟨other, otherInfo, message, found, place, same⟩
    · exact Nat.le_succ_of_le (stand.calledNumbered socket connection mark before)
    · cases same
      exact Nat.le_succ_of_le (stand.served reaches found place).1
  case inTable =>
    intro response stands
    rcases (standing response).mp stands with stood | rfl
    · obtain ⟨valid, inTable⟩ := stand.inTable response stood
      exact ⟨valid, inTable_of_same accepts.tables inTable⟩
    · exact ⟨accepts.bound, inTable_of_same accepts.tables accepts.connected⟩
  case carried =>
    intro other otherInfo message found carries response stands mark
    obtain ⟨before, foundBefore, socketKept, earlier | pushed⟩ :=
      carries_step reaches steps found carries
    · have numbered := stand.carriedNumbered other before message foundBefore earlier
      rcases (standing response).mp stands with stood | rfl
      · obtain ⟨socket, connection⟩ := stand.carried other before message foundBefore earlier
          response stood mark
        rcases socketKept with same | unbound | stops
        · exact ⟨same.trans socket, connection⟩
        · exact absurd (socket.symm.trans unbound) (stand.inTable response stood).1
        · cases stops.symm.trans pushes
      · dsimp only at mark
        omega
    · obtain ⟨rfl, sameRequest, fresh⟩ := marked pushed
      obtain rfl := Option.some.inj (accepts.found.symm.trans foundBefore)
      rcases (standing response).mp stands with stood | rfl
      · have numbered := stand.numbered response stood
        omega
      · refine ⟨?_, congrArg Request.connection sameRequest⟩
        rcases socketKept with same | unbound | stops
        · exact same
        · exact absurd unbound accepts.bound
        · cases stops.symm.trans pushes
  case called =>
    intro socket connection response stands queued
    generalize marked : response.mark = mark at queued
    rcases step_functionCalls steps rfl queued with
      before | ⟨other, otherInfo, message, found, place, same⟩
    · have numbered := stand.calledNumbered socket connection mark before
      rcases (standing response).mp stands with stood | rfl
      · subst marked
        exact stand.called socket connection response stood before
      · dsimp only at marked
        omega
    · cases same
      obtain ⟨numbered, servedFor⟩ := stand.served reaches found place
      rcases (standing response).mp stands with stood | rfl
      · exact servedFor response stood marked
      · dsimp only at marked
        omega

end ResponsesStand

theorem responsesStand_of_reachable (reaches : managerSystem.Reachable world) :
    world.ResponsesStand := by
  refine reaches.invariant ResponsesStand ?_ ?_
  · intro world starts
    obtain rfl : world = {} := starts
    exact ResponsesStand.initial
  · intro world action next reached stand _ steps
    rcases step_responses steps with keeps | ⟨listener, info, request, pushes, accepts⟩
    · exact stand.keeps reached steps keeps
    · exact stand.accepts reached steps pushes accepts

end ManagerWorld

/-- A `ConnectionServed` that is taken up reports a response whose connection has
not been closed since it was accepted. -/
def responseStands (world : ManagerWorld) : ManagerAction → Bool
  | .pollFunctionCall =>
      match world.functionCalls with
      | .connectionServed _ _ mark :: _ =>
          world.standing.any fun response => response.mark = mark
      | _ => true
  | _ => true

/-- Whenever a `ConnectionServed` is taken up for a response whose connection was
closed neither by a `Disconnected` nor by a stop of its socket since the response
was accepted, the socket has its table, the connection is in it, and no assert
fails. -/
theorem connectionServed_safe {world : ManagerWorld} {socket : HSteamListenSocket}
    {connection : HSteamNetConnection} {mark : Nat} {rest : List FunctionCall}
    (reaches : managerSystem.Reachable world)
    (queued : world.functionCalls = .connectionServed socket connection mark :: rest)
    (stands : responseStands world .pollFunctionCall = true) :
    socket ∈ world.core.socketClientsMap ∧ world.core.InTable socket connection ∧
      ∃ next, world.core.connectionServed socket connection = .ok next := by
  have stand := responsesStand_of_reachable reaches
  have found : (world.standing.any fun response => response.mark = mark) = true := by
    simpa [responseStands, queued] using stands
  obtain ⟨response, stood, sameMark⟩ := List.any_eq_true.mp found
  obtain rfl := of_decide_eq_true sameMark
  obtain ⟨rfl, rfl⟩ := stand.called socket connection response stood
    (by rw [queued]; exact List.mem_cons_self ..)
  have inTable := (stand.inTable response stood).2
  refine ⟨inTable.mem_socketClientsMap, inTable, ?_⟩
  obtain ⟨table, tabled, member⟩ := inTable
  obtain ⟨socketInfo, lookup, rfl⟩ := Option.map_eq_some_iff.mp tabled
  rw [NetworkManagerCore.connectionServed, lookup]
  dsimp only
  rw [if_pos (any_isConnection.mpr member)]
  exact ⟨_, rfl⟩

/-- Connection 9 is accepted, and so is a response for it. -/
def respond : List ManagerAction :=
  createParked ++ startParked ++ [.runCallback ⟨9, 5, .connecting, .none⟩ .ok true] ++ pushOne 9

/-- The listener's thread sends the response and reports it. -/
def sendResponse : List ManagerAction := List.replicate 9 (.run 1 .none)

theorem connectionServed_safe_open :
    ∃ world next, managerSystem.Reachable world ∧
      world.functionCalls = [.connectionServed 5 9 1] ∧
      world.core.connectionServed 5 9 = .ok next := by
  have executes : ∃ world, managerSystem.run {} (respond ++ sendResponse) = some world ∧
      world.functionCalls = [.connectionServed 5 9 1] ∧
      responseStands world .pollFunctionCall = true :=
    ⟨_, rfl, rfl, rfl⟩
  obtain ⟨world, executes, queued, stands⟩ := executes
  have reaches := TransitionSystem.reachable_of_run rfl executes
  obtain ⟨_, _, next, serves⟩ := connectionServed_safe reaches queued stands
  exact ⟨world, next, reaches, queued, serves⟩

/-- The peer closes connection 9 before its response is reported, or a stop that was
queued earlier closes socket 5. -/
theorem connectionServed_safe_fails :
    (∃ world, managerSystem.Reachable world ∧
      world.functionCalls = [.connectionServed 5 9 1] ∧
      world.core.connectionServed 5 9 = .error .connectionServedConnectionMissing) ∧
    ∃ world, managerSystem.Reachable world ∧
      world.functionCalls = [.connectionServed 5 9 1] ∧
      world.core.connectionServed 5 9 = .error .connectionServedSocketMissing := by
  have disconnects : ∃ world,
      managerSystem.run {} (respond ++ sendResponse ++
        [.runCallback ⟨9, 5, .closedByPeer, .connected⟩ .ok true]) = some world ∧
      world.functionCalls = [.connectionServed 5 9 1] ∧
      world.core.connectionServed 5 9 = .error .connectionServedConnectionMissing :=
    ⟨_, rfl, rfl, rfl⟩
  have stops : ∃ world,
      managerSystem.run {} (respond ++ [.request (.stopListening 1)] ++ sendResponse ++
        [.pollFunctionCall, .listenerCall 0, .proceed, .proceed]) = some world ∧
      world.functionCalls = [.connectionServed 5 9 1] ∧
      world.core.connectionServed 5 9 = .error .connectionServedSocketMissing :=
    ⟨_, rfl, rfl, rfl⟩
  obtain ⟨first, disconnects, missing⟩ := disconnects
  obtain ⟨second, stops, absent⟩ := stops
  exact ⟨⟨first, TransitionSystem.reachable_of_run rfl disconnects, missing⟩,
    ⟨second, TransitionSystem.reachable_of_run rfl stops, absent⟩⟩

end HttpServer
