import HttpServer.ConnectionTables

/-!
# Operations of the manager that fail

An operation that returns an error leaves the two tables of the manager as they were,
and with them the queues of every listener.  The exception is `startListening` when the
listener has got its socket and then fails to start: the socket has been stored and its
connection table opened by then, and neither is undone.
-/

namespace HttpServer

open UnorderedMap NetworkManagerCore

variable {Listener : Type} [IListener Listener] {core next : NetworkManagerCore Listener}
  {listener : HListener} {operation : CoreOperation Listener}

/-- The same entries under the same keys; the queues are in the listener objects. -/
structure SameTables (core next : NetworkManagerCore Listener) : Prop where
  listeners : ∀ handle, next.listeners.lookup handle = core.listeners.lookup handle
  socketClientsMap : ∀ socket,
    next.socketClientsMap.lookup socket = core.socketClientsMap.lookup socket

/-- The manager takes the listener for one that does not listen: `startListening` calls on
it to initialize its socket, and a response is refused for that reason. -/
structure NotListening (core : NetworkManagerCore Listener) (listener : HListener) :
    Prop where
  starts : ∀ port initSocket started,
    core.calls ++ [.initSocket listener port] <+:
      (core.startListening listener port initSocket started).2.calls
  refuses : ∀ message, core.pushOutgoingMessageQueue listener message =
    .ok (.error (makeError .eInvalidCall "Tryed pushing Outgoing message without listening"),
      core)

/-- If the operation returns an error, the tables stay as they are; and a listener that was
not listening can be started after it. -/
def LeavesTables (core : NetworkManagerCore Listener) (operation : CoreOperation Listener) :
    Prop :=
  ∀ outcome next, operation.perform core = .ok (outcome, next) →
    outcome.errorCode?.isSome = true →
      SameTables core next ∧
      ∀ listener port initSocket started,
        operation = .startListening listener port initSocket started →
        NotListening core listener → NotListening next listener

/-- The operation starts a listener that is not listening, gets a socket from it, and then
the listener fails to start.  (A socket that is invalid and a key of the map already leaves
nothing to undo.) -/
def FailsLate (core : NetworkManagerCore Listener) : CoreOperation Listener → Prop
  | .startListening listener _ (.ok socketHandlers) (.error _) =>
      (∃ info, core.listeners.lookup listener = some info ∧
        info.socket = hSteamListenSocketInvalid) ∧
      (socketHandlers.socket = hSteamListenSocketInvalid →
        core.socketClientsMap.lookup hSteamListenSocketInvalid = none)
  | _ => False

omit [IListener Listener] in
theorem SameTables.refl : SameTables core core := ⟨fun _ => rfl, fun _ => rfl⟩

theorem notListening_iff : NotListening core listener ↔
    ∃ info, core.listeners.lookup listener = some info ∧
      info.socket = hSteamListenSocketInvalid := by
  constructor
  · intro notListening
    have started := notListening.starts 0 (.error ⟨.bsp, ""⟩) (.ok ())
    have notCalled : ¬ core.calls ++ [.initSocket listener 0] <+: core.calls := by
      intro called
      have longer := called.length_le
      rw [List.length_append, List.length_singleton] at longer
      omega
    cases valid : core.isValidListenerHandler listener with
    | error err =>
        simp only [startListening, valid] at started
        exact absurd started notCalled
    | ok info =>
        refine ⟨info, isValidListenerHandler_eq_ok.mp valid, ?_⟩
        by_contra listens
        simp only [startListening, valid, ne_eq, listens, not_false_eq_true, if_true]
          at started
        exact absurd started notCalled
  · rintro ⟨info, found, idle⟩
    have valid := isValidListenerHandler_eq_ok.mpr found
    constructor
    · intro port initSocket started
      cases initSocket with
      | error err => simp [startListening, valid, idle, record]
      | ok socketHandlers =>
          have calls : (core.startListening listener port (.ok socketHandlers) started).2.calls =
              core.calls ++ [.initSocket listener port] ++ [.startListening listener] := by
            cases started <;>
              simp [startListening, valid, idle, record, adoptSocket, updateListener]
          rw [calls]
          exact List.prefix_append _ _
    · intro message
      simp [pushOutgoingMessageQueue, valid, idle]

theorem SameTables.notListening (same : SameTables core next)
    (notListening : NotListening core listener) : NotListening next listener := by
  rw [notListening_iff] at notListening ⊢
  rw [same.listeners]
  exact notListening

omit [IListener Listener] in
theorem next_of_stopListening_error {err : ErrorValue}
    (stops : core.stopListening listener = .ok (.error err, next)) : next = core := by
  rcases stopListening_cases stops with ⟨_, same, _⟩ | ⟨_, _, _, _, _, succeeds, _⟩
  · exact same
  · cases succeeds

omit [IListener Listener] in
theorem next_of_destroyListener_error {err : ErrorValue}
    (destroys : core.destroyListener listener = .ok (.error err, next)) : next = core := by
  rcases destroyListener_cases destroys with ⟨_, same, _⟩ | ⟨_, _, _, succeeds, _⟩
  · exact same
  · cases succeeds

theorem next_of_pushOutgoing_error {message : Request} {err : ErrorValue}
    (pushes : core.pushOutgoingMessageQueue listener message = .ok (.error err, next)) :
    next = core := by
  unfold pushOutgoingMessageQueue at pushes
  split at pushes
  · cases pushes
    rfl
  · split at pushes
    · cases pushes
      rfl
    · split at pushes
      · cases pushes
      · split at pushes
        · cases pushes
        · cases pushes
          rfl

theorem next_of_tryPopReceived_error {err : ErrorValue}
    (pops : core.tryPopReceivedMessageQueue listener = (.error err, next)) : next = core := by
  unfold tryPopReceivedMessageQueue at pops
  split at pops <;> cases pops
  rfl

theorem next_of_tryPopError_error {err : ErrorValue}
    (pops : core.tryPopErrorQueue listener = (.error err, next)) : next = core := by
  unfold tryPopErrorQueue at pops
  split at pops <;> cases pops
  rfl

omit [IListener Listener] in
/-- Storing a socket in an entry that has none changes the tables, unless it is the invalid
one and a key of the map. -/
theorem sameTables_adoptSocket_iff {info : ListenerInfo Listener}
    {socketHandlers : SocketHandlers} (found : core.listeners.lookup listener = some info)
    (idle : info.socket = hSteamListenSocketInvalid) :
    SameTables core (core.adoptSocket listener socketHandlers) ↔
      socketHandlers.socket = hSteamListenSocketInvalid ∧
        core.socketClientsMap.lookup hSteamListenSocketInvalid ≠ none := by
  have listeners (handle : HListener) :
      (core.adoptSocket listener socketHandlers).listeners.lookup handle =
        if handle = listener then some { info with socket := socketHandlers.socket }
        else core.listeners.lookup handle := by
    simp [adoptSocket, updateListener, lookup_modify, found]
  have socketClientsMap (socket : HSteamListenSocket) :
      (core.adoptSocket listener socketHandlers).socketClientsMap.lookup socket =
        if socket = socketHandlers.socket ∧ socketHandlers.socket ∉ core.socketClientsMap then
          some { pollGroup := socketHandlers.pollGroup }
        else core.socketClientsMap.lookup socket :=
    lookup_emplace
  constructor
  · intro same
    have invalid : socketHandlers.socket = hSteamListenSocketInvalid := by
      have stored := same.listeners listener
      rw [listeners, if_pos rfl, found, Option.some.injEq] at stored
      rw [← idle, ← stored]
    refine ⟨invalid, fun unbound => ?_⟩
    have opened := same.socketClientsMap socketHandlers.socket
    have unboundKey : socketHandlers.socket ∉ core.socketClientsMap := by
      rw [invalid]
      exact AList.lookup_eq_none.mp unbound
    rw [socketClientsMap, if_pos ⟨rfl, unboundKey⟩, invalid, unbound] at opened
    cases opened
  · rintro ⟨invalid, bound⟩
    constructor
    · intro handle
      rw [listeners]
      split
      next same =>
        subst same
        rw [found, invalid, ← idle]
      next => rfl
    · intro socket
      rw [socketClientsMap, if_neg]
      rintro ⟨_, unbound⟩
      rw [invalid] at unbound
      exact bound (AList.lookup_eq_none.mpr unbound)

omit [IListener Listener] in
/-- A `startListening` that returns an error leaves the tables as they are exactly when it
does not fail late. -/
theorem sameTables_startListening_iff {port : UInt16} {initSocket : Result SocketHandlers}
    {started : Result Unit} {err : ErrorValue}
    (fails : core.startListening listener port initSocket started = (.error err, next)) :
    SameTables core next ↔ ¬ FailsLate core (.startListening listener port initSocket started) := by
  cases startingStep_of_startListening fails with
  | refused busy =>
      refine iff_of_true .refl fun late => ?_
      cases initSocket with
      | error err => exact late
      | ok socketHandlers =>
          cases started with
          | ok value => exact late
          | error notStarted =>
              obtain ⟨⟨info, found, idle⟩, _⟩ := late
              exact busy info found idle
  | failed => exact iff_of_true ⟨fun _ => rfl, fun _ => rfl⟩ fun late => late
  | @adopted info socketHandlers _ found idle =>
      have adopts : SameTables core (core.adoptSocket listener socketHandlers) ↔ _ :=
        sameTables_adoptSocket_iff found idle
      have late : FailsLate core (.startListening listener port (.ok socketHandlers)
          (.error err)) ↔ (socketHandlers.socket = hSteamListenSocketInvalid →
            core.socketClientsMap.lookup hSteamListenSocketInvalid = none) := by
        simp [FailsLate, found, idle]
      rw [late, Classical.not_imp]
      refine Iff.trans ?_ adopts
      exact ⟨fun same => ⟨same.listeners, same.socketClientsMap⟩,
        fun same => ⟨same.listeners, same.socketClientsMap⟩⟩

omit [IListener Listener] in
theorem startListening_of_failsLate {port : UInt16} {initSocket : Result SocketHandlers}
    {started : Result Unit}
    (late : FailsLate core (.startListening listener port initSocket started)) :
    ∃ err, (core.startListening listener port initSocket started).1 = .error err := by
  cases initSocket with
  | error err => cases late
  | ok socketHandlers =>
      cases started with
      | ok value => cases late
      | error err =>
          obtain ⟨⟨info, found, idle⟩, _⟩ := late
          refine ⟨makeError err.errorCode err.message, ?_⟩
          simp [startListening, isValidListenerHandler_eq_ok.mpr found, idle]

/-- An operation other than `startListening` that returns an error does nothing at all. -/
theorem next_of_perform_error {outcome : Outcome}
    (performs : operation.perform core = .ok (outcome, next))
    (fails : outcome.errorCode?.isSome = true)
    (notStart : ∀ listener port initSocket started,
      operation ≠ .startListening listener port initSocket started) : next = core := by
  cases operationStep_of_perform performs with
  | startListening => exact absurd rfl (notStart _ _ _ _)
  | createListener | connectionServed | callbackManager | listenerChanges => cases fails
  | @destroyListener _ result _ destroys =>
      cases result with
      | ok value => cases fails
      | error err => exact next_of_destroyListener_error destroys
  | @stopListening _ result _ stops =>
      cases result with
      | ok value => cases fails
      | error err => exact next_of_stopListening_error stops
  | @pushOutgoingMessageQueue _ _ result _ pushes =>
      cases result with
      | ok value => cases fails
      | error err => exact next_of_pushOutgoing_error pushes
  | @tryPopReceivedMessageQueue _ result _ pops =>
      cases result with
      | ok value => cases fails
      | error err => exact next_of_tryPopReceived_error pops
  | @tryPopErrorQueue _ result _ pops =>
      cases result with
      | ok value => cases fails
      | error err => exact next_of_tryPopError_error pops

/-- An operation that returns an error leaves the tables as they were exactly when it does
not fail late. -/
theorem sameTables_perform_iff {outcome : Outcome}
    (performs : operation.perform core = .ok (outcome, next))
    (fails : outcome.errorCode?.isSome = true) :
    SameTables core next ↔ ¬ FailsLate core operation := by
  cases operationStep_of_perform performs with
  | @startListening _ _ _ _ result _ starts =>
      cases result with
      | ok value => cases fails
      | error err => exact sameTables_startListening_iff starts
  | _ =>
      have unchanged := next_of_perform_error performs fails (by simp)
      rw [unchanged]
      exact iff_of_true .refl fun late => late

/-- An operation of the manager that returns an error leaves the tables, and with them the
queues of every listener, as they were, exactly when it does not fail late. -/
theorem leavesTables_iff : LeavesTables core operation ↔ ¬ FailsLate core operation := by
  constructor
  · intro leaves late
    cases operation with
    | startListening listener port initSocket started =>
        obtain ⟨err, failed⟩ := startListening_of_failsLate late
        have performs : CoreOperation.perform core
            (.startListening listener port initSocket started) =
            .ok (.done (.error err),
              (core.startListening listener port initSocket started).2) := by
          simp [CoreOperation.perform, ← failed]
        have same := (leaves _ _ performs rfl).1
        exact (sameTables_perform_iff performs rfl).mp same late
    | _ => exact late
  · intro notLate outcome next performs fails
    have same := (sameTables_perform_iff performs fails).mpr notLate
    exact ⟨same, fun _ _ _ _ _ notListening => same.notListening notListening⟩

/-- A listener that gets socket 5 and does not start counts as listening from then on: it
is not asked again to start, and a response is refused for its connection only. -/
theorem leavesTables_fails_late :
    ∃ core next : NetworkManagerCore ListenerQueues,
      (coreSystem ListenerQueues).Reachable (.ok core) ∧
      core.startListening 1 80 (.ok ⟨5, 6⟩) (.error (makeError .eInvalidCall "Test")) =
        (.error (makeError .eInvalidCall "Test"), next) ∧
      core.socketClientsMap.lookup 5 = none ∧ next.socketClientsMap.lookup 5 = some ⟨[], 6⟩ ∧
      (∀ port initSocket started, next.startListening 1 port initSocket started =
        (.error (makeError .eInvalidCall
          "Already Listening on this Scoket -> Socket/Pollgroup Valid"), next)) ∧
      next.pushOutgoingMessageQueue 1 ⟨9, [72]⟩ =
        .ok (.error (makeError .eInvalidConnection
          "No connection on this listener with te gicen connection"), next) ∧
      ¬ LeavesTables core (.startListening 1 80 (.ok ⟨5, 6⟩)
        (.error (makeError .eInvalidCall "Test"))) := by
  have creates : (coreSystem ListenerQueues).run (.ok {}) [.createListener none] = some _ := rfl
  refine ⟨_, _, TransitionSystem.reachable_of_run rfl creates, rfl, rfl, rfl, fun _ _ _ => rfl,
    rfl, fun leaves => ?_⟩
  have same := (leaves _ _ rfl rfl).1.socketClientsMap 5
  cases same

end HttpServer
