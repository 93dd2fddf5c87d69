import HttpServer.ConnectionTables

/-!
# The requests that the `Server` polls

`Server::pollIncMessages` takes what the manager has received for its listener and gives a
task for it to the CPU workers.  The task is a lambda that captures a local variable of the
loop, by reference.

A call on the manager is one step here, and nothing else is received during the poll.
-/

namespace HttpServer

/-- How a lambda captures a local variable: as a copy of its value, or as a reference to the
object. -/
inductive Capture (Value : Type) where
  | copy (value : Value)
  | reference (object : Nat)
deriving DecidableEq

/-- The `bad_variant_access` of a `value()` that is asked of an error. -/
inductive ServerException where
  | badVariantAccess
deriving DecidableEq

/-- The `Server` with what it reaches: the one manager, and the tasks it has assigned to the
CPU workers, oldest first.  `locals` are the variables `Messages` that are alive; every
iteration of the loop has one of its own. -/
structure Server where
  initialized : Bool
  manager : NetworkManagerCore ListenerQueues
  listener : HListener
  tasks : List (Capture (Option Request)) := []
  locals : List (Nat × Option Request) := []
  nextLocal : Nat := 0

abbrev requestLimitPerSession : Nat := 100

namespace Server

/-- `NetworkManager::try_PoPReceivedMessageQueue`, from a thread of its own. -/
def tryPopReceivedMessageQueue (server : Server) : Result (Option Request) × Server :=
  if server.initialized = false then
    (.error (makeError .eInvalidCall "Called bevor init. Call init first"), server)
  else
    let (result, manager) := server.manager.tryPopReceivedMessageQueue server.listener
    (result, { server with manager := manager })

/-- The declaration of `Messages`. -/
def declare (server : Server) (messages : Option Request) : Nat × Server :=
  (server.nextLocal, { server with
    locals := (server.nextLocal, messages) :: server.locals
    nextLocal := server.nextLocal + 1 })

/-- The end of the scope of `Messages`. -/
def endScope (server : Server) : Server :=
  { server with locals := server.locals.tail }

def assignTask (server : Server) (task : Capture (Option Request)) : Server :=
  { server with tasks := server.tasks ++ [task] }

/-- The loop of `pollIncMessages`, with `limit` iterations left. -/
def pollLoop (messagesOr : Result (Option Request)) :
    Nat → Server → Except ServerException Unit × Server
  | 0, server => (.ok (), server)
  | limit + 1, server =>
      match messagesOr with
      | .error _ => (.error .badVariantAccess, server)
      | .ok value =>
          let (messages, server) := server.declare value
          match value with
          | none => (.ok (), server.endScope)
          | some _ => pollLoop messagesOr limit (server.assignTask (.reference messages)).endScope

def pollIncMessages (server : Server) : Except ServerException Unit × Server :=
  let (messagesOr, server) := server.tryPopReceivedMessageQueue
  pollLoop messagesOr requestLimitPerSession server

/-- The received queue of the server's listener. -/
def receivedQueue (server : Server) : List Request :=
  match server.manager.listeners.lookup server.listener with
  | none => []
  | some info => info.listener.receivedQueue

end Server

/-- What the task hands to `parseRequest`, if the object it refers to is still alive. -/
def Capture.request? (locals : List (Nat × Option Request)) :
    Capture (Option Request) → Option Request
  | .copy messages => messages
  | .reference object => (locals.lookup object).join

/-- The task has the request itself: it hands it over whenever it is run. -/
def Carries (task : Capture (Option Request)) (request : Request) : Prop :=
  ∀ locals, task.request? locals = some request

theorem not_carries_reference {object : Nat} {request : Request} :
    ¬ Carries (.reference object) request := by
  intro carries
  cases carries []

namespace Server

variable {server next : Server}

/-- The first requests, as many as there are up to the limit, get a task each and the others
stay; and an error of the manager does nothing. -/
def DispatchesOnce (server : Server) : Prop :=
  match server.tryPopReceivedMessageQueue.1 with
  | .ok _ =>
      server.pollIncMessages.1 = .ok () ∧
      (∃ tasks, server.pollIncMessages.2.tasks = server.tasks ++ tasks ∧
        List.Forall₂ Carries tasks (server.receivedQueue.take requestLimitPerSession)) ∧
      server.pollIncMessages.2.receivedQueue = server.receivedQueue.drop requestLimitPerSession
  | .error _ => server.pollIncMessages = (.ok (), server)

/-- The manager knows the listener, and has received nothing for it. -/
def FindsNothing (server : Server) : Prop :=
  server.initialized = true ∧
    ∃ info, server.manager.listeners.lookup server.listener = some info ∧
      info.listener.receivedQueue = []

/-- The loop makes a task of each of its iterations, as long as there is a message at all. -/
theorem pollLoop_some {request : Request} {limit : Nat} :
    pollLoop (.ok (some request)) limit server =
      (.ok (), { server with
        tasks := server.tasks ++ (List.range' server.nextLocal limit).map .reference
        nextLocal := server.nextLocal + limit }) := by
  induction limit generalizing server with
  | zero => simp [pollLoop]
  | succ limit ih =>
      rw [pollLoop]
      dsimp only [declare]
      rw [ih]
      simp [assignTask, endScope, List.range'_succ, Nat.add_assoc, Nat.add_comm 1]

theorem tryPop_eq (initialized : server.initialized = true)
    {info : ListenerInfo ListenerQueues}
    (found : server.manager.listeners.lookup server.listener = some info) :
    server.tryPopReceivedMessageQueue.1 = .ok info.listener.receivedQueue.head? ∧
      server.tryPopReceivedMessageQueue.2.tasks = server.tasks ∧
      server.tryPopReceivedMessageQueue.2.receivedQueue = info.listener.receivedQueue.tail := by
  have valid := NetworkManagerCore.isValidListenerHandler_eq_ok.mpr found
  have pops : IListener.tryPopReceived info.listener = (info.listener.receivedQueue.head?,
      { info.listener with receivedQueue := info.listener.receivedQueue.tail }) := by
    cases queue : info.listener.receivedQueue <;>
      simp [IListener.tryPopReceived, ThreadSaveQueue.tryPop, queue]
  simp only [tryPopReceivedMessageQueue, initialized, Bool.true_eq_false, if_false,
    NetworkManagerCore.tryPopReceivedMessageQueue, valid, pops]
  refine ⟨trivial, trivial, ?_⟩
  simp [receivedQueue, NetworkManagerCore.record, NetworkManagerCore.updateListener,
    UnorderedMap.lookup_modify, found]

/-- The manager returns a value only for a listener that it knows. -/
theorem found_of_tryPop {message : Option Request}
    (pops : server.tryPopReceivedMessageQueue.1 = .ok message) :
    server.initialized = true ∧
      ∃ info, server.manager.listeners.lookup server.listener = some info := by
  unfold tryPopReceivedMessageQueue at pops
  split at pops
  · cases pops
  next initialized =>
    refine ⟨by simpa using initialized, ?_⟩
    cases valid : server.manager.isValidListenerHandler server.listener with
    | error err => simp [NetworkManagerCore.tryPopReceivedMessageQueue, valid] at pops
    | ok info => exact ⟨info, NetworkManagerCore.isValidListenerHandler_eq_ok.mp valid⟩

theorem pollIncMessages_eq : server.pollIncMessages =
    pollLoop server.tryPopReceivedMessageQueue.1 requestLimitPerSession
      server.tryPopReceivedMessageQueue.2 := rfl

theorem pollIncMessages_error {err : ErrorValue}
    (fails : server.tryPopReceivedMessageQueue.1 = .error err) :
    server.pollIncMessages.1 = .error .badVariantAccess := by
  rw [pollIncMessages_eq, fails]
  rfl

theorem pollIncMessages_none (empty : server.tryPopReceivedMessageQueue.1 = .ok none) :
    server.pollIncMessages.1 = .ok () ∧
      server.pollIncMessages.2.tasks = server.tryPopReceivedMessageQueue.2.tasks ∧
      server.pollIncMessages.2.receivedQueue =
        server.tryPopReceivedMessageQueue.2.receivedQueue := by
  rw [pollIncMessages_eq, empty]
  exact ⟨rfl, rfl, rfl⟩

/-- With a request, every iteration assigns a task that refers to its own local variable,
and only that request is taken. -/
theorem pollIncMessages_some {request : Request}
    (pops : server.tryPopReceivedMessageQueue.1 = .ok (some request)) :
    server.pollIncMessages.2.tasks = server.tryPopReceivedMessageQueue.2.tasks ++
        (List.range' server.tryPopReceivedMessageQueue.2.nextLocal
          requestLimitPerSession).map .reference ∧
      server.pollIncMessages.2.receivedQueue =
        server.tryPopReceivedMessageQueue.2.receivedQueue := by
  rw [pollIncMessages_eq, pops, pollLoop_some]
  exact ⟨rfl, rfl⟩

/-- The tasks are references, and a reference carries nothing. -/
theorem not_dispatchesOnce {request : Request} {rest : List Request}
    (pops : server.tryPopReceivedMessageQueue.1 = .ok (some request))
    (sameTasks : server.tryPopReceivedMessageQueue.2.tasks = server.tasks)
    (queue : server.receivedQueue = request :: rest) : ¬ DispatchesOnce server := by
  unfold DispatchesOnce
  rw [pops]
  rintro ⟨_, ⟨tasks, assigned, carried⟩, _⟩
  rw [(pollIncMessages_some pops).1, sameTasks, List.append_cancel_left_eq] at assigned
  rw [queue, ← assigned] at carried
  cases carried with
  | cons first _ => exact not_carries_reference first

/-- A poll gives each request to a task of its own exactly when there is no request, and no
error. -/
theorem dispatchesOnce_iff : DispatchesOnce server ↔ FindsNothing server := by
  constructor
  · intro dispatches
    cases pops : server.tryPopReceivedMessageQueue.1 with
    | error err =>
        have raises := pollIncMessages_error pops
        unfold DispatchesOnce at dispatches
        rw [pops] at dispatches
        dsimp only at dispatches
        rw [dispatches] at raises
        cases raises
    | ok message =>
        obtain ⟨initialized, info, found⟩ := found_of_tryPop pops
        obtain ⟨head, sameTasks, tail⟩ := tryPop_eq initialized found
        refine ⟨initialized, info, found, ?_⟩
        cases received : info.listener.receivedQueue with
        | nil => rfl
        | cons request rest =>
            have queue : server.receivedQueue = request :: rest := by
              simp [receivedQueue, found, received]
            rw [received] at head
            exact absurd dispatches (not_dispatchesOnce head sameTasks queue)
  · rintro ⟨initialized, info, found, empty⟩
    obtain ⟨head, sameTasks, tail⟩ := tryPop_eq initialized found
    have queue : server.receivedQueue = [] := by simp [receivedQueue, found, empty]
    rw [empty] at head tail
    obtain ⟨returns, tasks, received⟩ := pollIncMessages_none head
    unfold DispatchesOnce
    rw [head, queue]
    refine ⟨returns, ⟨[], ?_, .nil⟩, received.trans tail⟩
    rw [tasks, sameTasks, List.append_nil]

/-- With two requests a poll assigns a hundred tasks, none of which carries a request, and
leaves the second one; and an error of the manager raises an exception. -/
theorem dispatchesOnce_fails_requests :
    ∃ manager : NetworkManagerCore ListenerQueues,
      (coreSystem ListenerQueues).Reachable (.ok manager) ∧
      let server : Server := { initialized := true, manager := manager, listener := 1 }
      server.receivedQueue = [⟨9, [71]⟩, ⟨9, [72]⟩] ∧
        server.pollIncMessages.2.tasks = (List.range' 0 100).map .reference ∧
        server.pollIncMessages.2.receivedQueue = [⟨9, [72]⟩] ∧ ¬ DispatchesOnce server ∧
        ({ server with initialized := false } : Server).pollIncMessages.1 =
          .error .badVariantAccess := by
  have receives : (coreSystem ListenerQueues).run (.ok {}) [.createListener none,
    .listenerChanges 1 { receivedQueue := [⟨9, [71]⟩, ⟨9, [72]⟩] }] = some _ := rfl
  exact ⟨_, TransitionSystem.reachable_of_run rfl receives, rfl, (pollIncMessages_some rfl).1,
    (pollIncMessages_some rfl).2, not_dispatchesOnce rfl rfl rfl, rfl⟩

end Server

end HttpServer
