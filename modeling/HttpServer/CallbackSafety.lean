import HttpServer.StatusEvents

/-!
# Callback safety

The asserts of `Connecting` and `Disconnected` under Steam's queue of status
events.  The invariant says, for each connection, what the manager has on it
between two of its events; every step keeps it unless the step delivers an event
that a stop or a refusal has overtaken, and such a step fails an assert.
-/

namespace HttpServer

open NetworkManagerCore

/-- How the tables relate to the events: the manager has nothing on a
connection before its first event is delivered, it has the connection in the
table of its socket from then until its last event is delivered, unless it gave
the connection up, and an un-stopped socket that ever had a connection has a
table. -/
structure Tracks {Listener : Type} (state : StatusState Listener) : Prop where
  awaits : ∀ connection, state.awaiting connection <:+
    (state.steam connection).history connection
  unreported : ∀ connection, state.reported connection = false →
    state.givenUp connection = false ∧
      ∀ socket, ¬ state.core.InTable socket connection
  entered : ∀ connection socket, (state.steam connection).socket? = some socket →
    state.reported connection = true → state.givenUp connection = false →
    ((state.steam connection).isClosed = true → state.awaiting connection ≠ []) →
    state.core.InTable socket connection
  gone : ∀ connection socket, state.givenUp connection = true →
    (state.steam connection).socket? = some socket →
    ¬ state.core.InTable socket connection
  keys : ∀ socket, socket ∈ state.core.socketClientsMap → state.stopped socket = false
  known : ∀ connection socket, (state.steam connection).socket? = some socket →
    state.stopped socket = false → socket ∈ state.core.socketClientsMap

namespace Tracks

variable {Listener : Type} {state : StatusState Listener}

theorem initial : Tracks ({} : StatusState Listener) where
  awaits _ := List.suffix_rfl
  unreported _ _ := ⟨rfl, fun _ inTable => by obtain ⟨_, found, _⟩ := inTable; cases found⟩
  entered _ _ named := by cases named
  gone _ _ givenUp := by cases givenUp
  keys _ _ := rfl
  known _ _ named := by cases named

/-- The invariant looks at the two event lists only through their
concatenation, and not at the fault. -/
theorem congr {other : StatusState Listener} (tracks : Tracks state)
    (core : other.core = state.core)
    (events : other.listTemp ++ other.pendingCallbacks =
      state.listTemp ++ state.pendingCallbacks)
    (steam : other.steam = state.steam) (stopped : other.stopped = state.stopped)
    (givenUp : other.givenUp = state.givenUp) : Tracks other := by
  have awaiting (connection : HSteamNetConnection) :
      other.awaiting connection = state.awaiting connection := by
    simp only [StatusState.awaiting, events]
  have reported (connection : HSteamNetConnection) :
      other.reported connection = state.reported connection := by
    simp only [StatusState.reported, awaiting, steam]
  constructor
  case awaits =>
    intro connection
    rw [awaiting, steam]
    exact tracks.awaits connection
  case unreported =>
    intro connection
    rw [reported, givenUp, core]
    exact tracks.unreported connection
  case entered =>
    intro connection socket
    rw [steam, reported, givenUp, awaiting, core]
    exact tracks.entered connection socket
  case gone =>
    intro connection socket
    rw [givenUp, steam, core]
    exact tracks.gone connection socket
  case keys =>
    intro socket
    rw [core, stopped]
    exact tracks.keys socket
  case known =>
    intro connection socket
    rw [steam, stopped, core]
    exact tracks.known connection socket

theorem operation [IListener Listener] (tracks : Tracks state)
    {operation : CoreOperation Listener} {outcome : Outcome}
    {next : NetworkManagerCore Listener} (notCallback : operation.isCallback = false)
    (performs : operation.perform state.core = .ok (outcome, next)) :
    Tracks (state.afterOperation operation next) := by
  have inTable (socket : HSteamListenSocket) (connection : HSteamNetConnection) :
      next.InTable socket connection ↔ operation.closes state.core ≠ some socket ∧
        state.core.InTable socket connection :=
    inTable_perform notCallback performs
  have members (socket : HSteamListenSocket) :
      socket ∈ next.socketClientsMap ↔ operation.closes state.core ≠ some socket ∧
        (operation.opens state.core = some socket ∨
          socket ∈ state.core.socketClientsMap) :=
    mem_socketClientsMap_perform notCallback performs
  constructor
  case awaits => exact tracks.awaits
  case unreported =>
    intro connection unreported
    obtain ⟨kept, nowhere⟩ := tracks.unreported connection unreported
    refine ⟨?_, fun socket inNext => nowhere socket ((inTable _ _).mp inNext).2⟩
    have stillUnreported : state.reported connection = false := unreported
    simp [StatusState.afterOperation, kept, stillUnreported]
  case entered =>
    intro connection socket named reported kept unfinished
    have parts : state.givenUp connection = false ∧
        (state.reported connection = true → (operation.closes state.core).isSome = true →
          (state.steam connection).socket? ≠ operation.closes state.core) := by
      simpa [StatusState.afterOperation] using kept
    refine (inTable _ _).mpr
      ⟨?_, tracks.entered connection socket named reported parts.1 unfinished⟩
    intro closes
    exact parts.2 reported (by simp [closes]) (named.trans closes.symm)
  case gone =>
    intro connection socket givenUp named inNext
    obtain ⟨kept, before⟩ := (inTable _ _).mp inNext
    have parts : state.givenUp connection = true ∨
        state.reported connection = true ∧ (operation.closes state.core).isSome = true ∧
          (state.steam connection).socket? = operation.closes state.core := by
      simpa [StatusState.afterOperation, and_assoc] using givenUp
    rcases parts with already | ⟨_, _, closes⟩
    · exact tracks.gone connection socket already named before
    · exact kept (closes.symm.trans named)
  case keys =>
    intro socket member
    obtain ⟨kept, opened | present⟩ := (members socket).mp member
    · simp [StatusState.afterOperation, kept, opened]
    · simp [StatusState.afterOperation, kept, tracks.keys socket present]
  case known =>
    intro connection socket named running
    have parts : operation.closes state.core ≠ some socket ∧
        (state.stopped socket = true → operation.opens state.core = some socket) := by
      simpa [StatusState.afterOperation] using running
    refine (members socket).mpr ⟨parts.1, ?_⟩
    cases stopped : state.stopped socket with
    | true => exact Or.inl (parts.2 stopped)
    | false => exact Or.inr (tracks.known connection socket named stopped)

/-- Steam queues one more event of a connection. -/
theorem queueCallback (tracks : Tracks state)
    {event : SteamNetConnectionStatusChangedCallback} {steam : SteamConnection}
    {socket : HSteamListenSocket}
    (member : socket ∈ state.core.socketClientsMap)
    (named : steam.socket? = some socket)
    (grows : steam.history event.hConn =
      (state.steam event.hConn).history event.hConn ++ [event])
    (same : ∀ other, (state.steam event.hConn).socket? = some other → other = socket)
    (running : (state.steam event.hConn).isClosed = false) :
    Tracks (state.queueCallback steam event) := by
  have awaitingSelf : (state.queueCallback steam event).awaiting event.hConn =
      state.awaiting event.hConn ++ [event] := by
    simp [StatusState.awaiting, StatusState.queueCallback]
  have awaitingOther (connection : HSteamNetConnection)
      (different : connection ≠ event.hConn) :
      (state.queueCallback steam event).awaiting connection =
        state.awaiting connection := by
    simp [StatusState.awaiting, StatusState.queueCallback, Ne.symm different]
  have steamSelf : (state.queueCallback steam event).steam event.hConn = steam := by
    simp [StatusState.queueCallback]
  have steamOther (connection : HSteamNetConnection)
      (different : connection ≠ event.hConn) :
      (state.queueCallback steam event).steam connection = state.steam connection := by
    simp [StatusState.queueCallback, different]
  have reported (connection : HSteamNetConnection) :
      (state.queueCallback steam event).reported connection =
        state.reported connection := by
    by_cases self : connection = event.hConn
    · subst self
      simp only [StatusState.reported, awaitingSelf, steamSelf, grows, ne_eq,
        List.append_left_inj]
    · simp only [StatusState.reported, awaitingOther connection self,
        steamOther connection self]
  -- A connection of which an event was delivered already has its socket.
  have settled (reportedSelf : state.reported event.hConn = true) :
      (state.steam event.hConn).socket? = some socket := by
    cases before : state.steam event.hConn with
    | unknown =>
        have awaits := tracks.awaits event.hConn
        rw [before] at awaits
        simp [StatusState.reported, before, SteamConnection.history,
          List.eq_nil_of_suffix_nil awaits] at reportedSelf
    | opened other connected => rw [← same other (by rw [before]; rfl)]; rfl
    | closed other connected byPeer => rw [← same other (by rw [before]; rfl)]; rfl
  constructor
  case awaits =>
    intro connection
    by_cases self : connection = event.hConn
    · subst self
      rw [awaitingSelf, steamSelf, grows]
      exact List.suffix_append_self_iff.mpr (tracks.awaits _)
    · rw [awaitingOther connection self, steamOther connection self]
      exact tracks.awaits connection
  case unreported =>
    intro connection unreported
    rw [reported] at unreported
    exact tracks.unreported connection unreported
  case entered =>
    intro connection other namedOther wasReported kept unfinished
    rw [reported] at wasReported
    by_cases self : connection = event.hConn
    · subst self
      rw [steamSelf, named, Option.some.injEq] at namedOther
      subst other
      exact tracks.entered _ socket (settled wasReported) wasReported kept
        (by simp [running])
    · rw [steamOther connection self] at namedOther unfinished
      rw [awaitingOther connection self] at unfinished
      exact tracks.entered connection other namedOther wasReported kept unfinished
  case gone =>
    intro connection other givenUp namedOther
    by_cases self : connection = event.hConn
    · subst self
      rw [steamSelf, named, Option.some.injEq] at namedOther
      subst other
      have wasReported : state.reported event.hConn = true := by
        by_contra unreported
        have kept := (tracks.unreported _ (Bool.not_eq_true _ ▸ unreported)).1
        exact absurd (givenUp.symm.trans kept) (by decide)
      exact tracks.gone _ socket givenUp (settled wasReported)
    · rw [steamOther connection self] at namedOther
      exact tracks.gone connection other givenUp namedOther
  case keys => exact tracks.keys
  case known =>
    intro connection other namedOther stays
    by_cases self : connection = event.hConn
    · subst self
      rw [steamSelf, named, Option.some.injEq] at namedOther
      subst other
      exact member
    · rw [steamOther connection self] at namedOther
      exact tracks.known connection other namedOther stays

/-- The first event of `listTemp` is delivered, with these effects on the tables
and on which connections are given up. -/
theorem deliver (tracks : Tracks state)
    {event : SteamNetConnectionStatusChangedCallback}
    {rest : List SteamNetConnectionStatusChangedCallback}
    {after : StatusState Listener}
    (head : state.listTemp = event :: rest) (tail : after.listTemp = rest)
    (pending : after.pendingCallbacks = state.pendingCallbacks)
    (steam : after.steam = state.steam) (stopped : after.stopped = state.stopped)
    (members : ∀ socket, socket ∈ after.core.socketClientsMap ↔
      socket ∈ state.core.socketClientsMap)
    (others : ∀ connection, connection ≠ event.hConn →
      after.givenUp connection = state.givenUp connection ∧
      ∀ socket, after.core.InTable socket connection ↔
        state.core.InTable socket connection)
    (entered : ∀ socket, (state.steam event.hConn).socket? = some socket →
      after.givenUp event.hConn = false →
      ((state.steam event.hConn).isClosed = true → after.awaiting event.hConn ≠ []) →
      after.core.InTable socket event.hConn)
    (gone : ∀ socket, (state.steam event.hConn).socket? = some socket →
      after.givenUp event.hConn = true → ¬ after.core.InTable socket event.hConn) :
    Tracks after := by
  have awaitingSelf : state.awaiting event.hConn =
      event :: after.awaiting event.hConn := by
    simp [StatusState.awaiting, head, tail, pending]
  have awaitingOther (connection : HSteamNetConnection)
      (different : connection ≠ event.hConn) :
      after.awaiting connection = state.awaiting connection := by
    simp [StatusState.awaiting, head, tail, pending, Ne.symm different]
  have reportedOther (connection : HSteamNetConnection)
      (different : connection ≠ event.hConn) :
      after.reported connection = state.reported connection := by
    simp only [StatusState.reported, awaitingOther connection different, steam]
  have awaits := tracks.awaits event.hConn
  rw [awaitingSelf] at awaits
  have reportedSelf : after.reported event.hConn = true := by
    have shorter := awaits.length_le
    simp only [StatusState.reported, steam, ne_eq, decide_eq_true_eq]
    intro whole
    rw [whole, List.length_cons] at shorter
    omega
  constructor
  case awaits =>
    intro connection
    rw [steam]
    by_cases self : connection = event.hConn
    · subst self
      exact (List.suffix_cons _ _).trans awaits
    · rw [awaitingOther connection self]
      exact tracks.awaits connection
  case unreported =>
    intro connection unreported
    have self : connection ≠ event.hConn := by
      rintro rfl
      rw [reportedSelf] at unreported
      cases unreported
    rw [reportedOther connection self] at unreported
    obtain ⟨kept, nowhere⟩ := tracks.unreported connection unreported
    obtain ⟨sameGivenUp, sameTables⟩ := others connection self
    exact ⟨sameGivenUp.trans kept, fun socket => (sameTables socket).not.mpr (nowhere socket)⟩
  case entered =>
    intro connection socket named wasReported kept unfinished
    rw [steam] at named unfinished
    by_cases self : connection = event.hConn
    · subst self
      exact entered socket named kept unfinished
    · obtain ⟨sameGivenUp, sameTables⟩ := others connection self
      rw [sameGivenUp] at kept
      rw [reportedOther connection self] at wasReported
      rw [awaitingOther connection self] at unfinished
      exact (sameTables socket).mpr
        (tracks.entered connection socket named wasReported kept unfinished)
  case gone =>
    intro connection socket givenUp named
    rw [steam] at named
    by_cases self : connection = event.hConn
    · subst self
      exact gone socket named givenUp
    · obtain ⟨sameGivenUp, sameTables⟩ := others connection self
      rw [sameGivenUp] at givenUp
      exact (sameTables socket).not.mpr (tracks.gone connection socket givenUp named)
  case keys =>
    intro socket member
    rw [stopped]
    exact tracks.keys socket ((members socket).mp member)
  case known =>
    intro connection socket named stays
    rw [steam] at named
    rw [stopped] at stays
    exact (members socket).mpr (tracks.known connection socket named stays)

/-- What the next event to be delivered is. -/
theorem head_cases (tracks : Tracks state)
    {event : SteamNetConnectionStatusChangedCallback}
    {rest : List SteamNetConnectionStatusChangedCallback}
    (head : state.listTemp = event :: rest) :
    (state.steam event.hConn).socket? = some event.listenSocket ∧
      ((event.state = .connecting ∧ state.reported event.hConn = false) ∨
        (event.state = .connected ∧ state.reported event.hConn = true) ∨
        ((event.state = .closedByPeer ∨ event.state = .problemDetectedLocally) ∧
          (event.oldState = .connected ∨ event.oldState = .connecting) ∧
          state.reported event.hConn = true ∧
          (state.steam event.hConn).isClosed = true ∧
          (rest ++ state.pendingCallbacks).filter
            (fun other => other.hConn == event.hConn) = [])) := by
  have awaitingSelf : state.awaiting event.hConn = event ::
      (rest ++ state.pendingCallbacks).filter fun other => other.hConn == event.hConn := by
    simp [StatusState.awaiting, head]
  have awaits := tracks.awaits event.hConn
  rw [awaitingSelf] at awaits
  obtain ⟨socket, named, _, rfl, which⟩ := SteamConnection.history_cases awaits
  refine ⟨named, ?_⟩
  simp only [StatusState.reported, awaitingSelf]
  rcases which with ⟨isConnecting, whole⟩ | ⟨isConnected, part⟩ |
    ⟨isClosed, oldState, part, closed, last⟩
  · exact Or.inl ⟨isConnecting, decide_eq_false (not_not.mpr whole)⟩
  · exact Or.inr (Or.inl ⟨isConnected, decide_eq_true part⟩)
  · exact Or.inr (Or.inr ⟨isClosed, oldState, decide_eq_true part, closed, last⟩)

/-- Where an undisturbed event finds its socket and its connection. -/
theorem found (tracks : Tracks state) {accepted : EResult} {grouped : Bool}
    {event : SteamNetConnectionStatusChangedCallback}
    {rest : List SteamNetConnectionStatusChangedCallback}
    (head : state.listTemp = event :: rest)
    (undisturbed : Undisturbed state (.dispatch accepted grouped)) :
    (event.state = .connecting → accepted = .ok →
      event.listenSocket ∈ state.core.socketClientsMap) ∧
    (event.state = .closedByPeer ∨ event.state = .problemDetectedLocally →
      state.core.InTable event.listenSocket event.hConn) := by
  obtain ⟨named, which⟩ := tracks.head_cases head
  obtain ⟨notStopped, notGivenUp⟩ := (undisturbed_dispatch head).mp undisturbed
  constructor
  · intro isConnecting isAccepted
    exact tracks.known _ _ named (notStopped isConnecting isAccepted)
  · intro isClosed
    rcases which with ⟨isConnecting, _⟩ | ⟨isConnected, _⟩ | ⟨_, _, reported, _, _⟩
    · rcases isClosed with isClosed | isClosed <;> simp [isConnecting] at isClosed
    · rcases isClosed with isClosed | isClosed <;> simp [isConnected] at isClosed
    · have waiting : state.awaiting event.hConn ≠ [] := by
        simp [StatusState.awaiting, head]
      exact tracks.entered _ _ named reported (notGivenUp isClosed) fun _ => waiting

theorem dispatchConnecting (tracks : Tracks state) (accepted : EResult) (grouped : Bool)
    {event : SteamNetConnectionStatusChangedCallback}
    {rest : List SteamNetConnectionStatusChangedCallback}
    (head : state.listTemp = event :: rest) (isConnecting : event.state = .connecting)
    (named : (state.steam event.hConn).socket? = some event.listenSocket)
    (unreported : state.reported event.hConn = false)
    (found : accepted = .ok → event.listenSocket ∈ state.core.socketClientsMap) :
    ∃ next, state.core.connecting event accepted grouped = .ok next ∧
      Tracks (state.afterDispatch event rest accepted grouped next) := by
  obtain ⟨next, connects, tables⟩ := tableOf_connecting event accepted grouped found
  refine ⟨next, connects, ?_⟩
  obtain ⟨kept, nowhere⟩ := tracks.unreported event.hConn unreported
  have inTable (socket : HSteamListenSocket) (connection : HSteamNetConnection) :
      next.InTable socket connection ↔ state.core.InTable socket connection ∨
        accepted = .ok ∧ grouped = true ∧ socket = event.listenSocket ∧
          connection = event.hConn ∧ socket ∈ state.core.socketClientsMap := by
    rw [InTable, tables, mem_socketClientsMap_iff, InTable]
    split
    next enters =>
      obtain ⟨isAccepted, isGrouped, rfl⟩ := enters
      cases state.core.tableOf event.listenSocket <;> simp [isAccepted, isGrouped]
    next refused =>
      constructor
      · exact Or.inl
      · rintro (before | ⟨isAccepted, isGrouped, same, _⟩)
        · exact before
        · exact absurd ⟨isAccepted, isGrouped, same⟩ refused
  refine tracks.deliver head rfl rfl rfl rfl ?_ ?_ ?_ ?_
  · intro socket
    apply mem_socketClientsMap_congr
    simp only [StatusState.afterDispatch, tables]
    split <;> simp
  · intro connection different
    refine ⟨?_, fun socket => (inTable socket connection).trans (by simp [different])⟩
    simp only [StatusState.afterDispatch]
    split
    · exact Function.update_of_ne different _ _
    · rfl
  · intro socket namedAgain stays _
    obtain rfl := Option.some.inj (named.symm.trans namedAgain)
    have entersTable : accepted = .ok ∧ grouped = true := by
      by_contra refused
      simp [StatusState.afterDispatch, isConnecting, refused] at stays
    exact (inTable _ _).mpr (Or.inr
      ⟨entersTable.1, entersTable.2, rfl, rfl, found entersTable.1⟩)
  · intro socket _ givenUp inNext
    have refused : ¬ (accepted = .ok ∧ grouped = true) := by
      intro enters
      simp [StatusState.afterDispatch, enters, kept] at givenUp
    rcases (inTable _ _).mp inNext with before | ⟨isAccepted, isGrouped, _⟩
    · exact nowhere socket before
    · exact refused ⟨isAccepted, isGrouped⟩

theorem dispatchConnected (tracks : Tracks state) (accepted : EResult) (grouped : Bool)
    {event : SteamNetConnectionStatusChangedCallback}
    {rest : List SteamNetConnectionStatusChangedCallback}
    (head : state.listTemp = event :: rest) (isConnected : event.state = .connected)
    (reported : state.reported event.hConn = true) :
    Tracks (state.afterDispatch event rest accepted grouped state.core) := by
  have sameGivenUp : (state.afterDispatch event rest accepted grouped
      state.core).givenUp = state.givenUp := by
    simp [StatusState.afterDispatch, isConnected]
  refine tracks.deliver head rfl rfl rfl rfl (fun _ => Iff.rfl) ?_ ?_ ?_
  · intro connection _
    exact ⟨congrFun sameGivenUp connection, fun _ => Iff.rfl⟩
  · intro socket named stays _
    rw [sameGivenUp] at stays
    have waiting : state.awaiting event.hConn ≠ [] := by
      simp [StatusState.awaiting, head]
    exact tracks.entered event.hConn socket named reported stays fun _ => waiting
  · intro socket named givenUp
    rw [sameGivenUp] at givenUp
    exact tracks.gone event.hConn socket givenUp named

theorem dispatchDisconnected (tracks : Tracks state) (accepted : EResult) (grouped : Bool)
    {event : SteamNetConnectionStatusChangedCallback}
    {rest : List SteamNetConnectionStatusChangedCallback}
    (head : state.listTemp = event :: rest)
    (isClosed : event.state = .closedByPeer ∨ event.state = .problemDetectedLocally)
    (oldState : event.oldState = .connected ∨ event.oldState = .connecting)
    (closed : (state.steam event.hConn).isClosed = true)
    (last : (rest ++ state.pendingCallbacks).filter
      (fun other => other.hConn == event.hConn) = [])
    (kept : state.givenUp event.hConn = false)
    (found : state.core.InTable event.listenSocket event.hConn) :
    ∃ next, state.core.disconnected event = .ok next ∧
      Tracks (state.afterDispatch event rest accepted grouped next) := by
  obtain ⟨next, disconnects, tables⟩ := tableOf_disconnected oldState found
  refine ⟨next, disconnects, ?_⟩
  have sameGivenUp : (state.afterDispatch event rest accepted grouped next).givenUp =
      state.givenUp := by
    rcases isClosed with isClosed | isClosed <;>
      simp [StatusState.afterDispatch, isClosed]
  refine tracks.deliver head rfl rfl rfl rfl ?_ ?_ ?_ ?_
  · intro socket
    apply mem_socketClientsMap_congr
    simp only [StatusState.afterDispatch, tables]
    split <;> simp
  · intro connection different
    refine ⟨congrFun sameGivenUp connection, fun socket => ?_⟩
    simp only [StatusState.afterDispatch, InTable, tables]
    split
    · simp [List.mem_erase_of_ne different]
    · rfl
  · intro socket _ _ unfinished
    exact absurd last (unfinished closed)
  · intro socket _ givenUp
    rw [sameGivenUp, kept] at givenUp
    cases givenUp

/-- An undisturbed event is handled. -/
theorem dispatch (tracks : Tracks state) {accepted : EResult} {grouped : Bool}
    {event : SteamNetConnectionStatusChangedCallback}
    {rest : List SteamNetConnectionStatusChangedCallback}
    (head : state.listTemp = event :: rest)
    (undisturbed : Undisturbed state (.dispatch accepted grouped)) :
    ∃ next, state.core.callbackManager event accepted grouped = .ok next ∧
      Tracks (state.afterDispatch event rest accepted grouped next) := by
  obtain ⟨named, which⟩ := tracks.head_cases head
  obtain ⟨socketFound, connectionFound⟩ := tracks.found head undisturbed
  rcases which with ⟨isConnecting, unreported⟩ | ⟨isConnected, reported⟩ |
    ⟨isClosed, oldState, _, closed, last⟩
  · have handled := tracks.dispatchConnecting accepted grouped head isConnecting named
      unreported (socketFound isConnecting)
    simpa only [callbackManager, isConnecting] using handled
  · refine ⟨state.core, ?_, tracks.dispatchConnected accepted grouped head isConnected reported⟩
    simp only [callbackManager, isConnected]
  · have kept := ((undisturbed_dispatch head).mp undisturbed).2 isClosed
    have handled := tracks.dispatchDisconnected accepted grouped
      head isClosed oldState closed last kept (connectionFound isClosed)
    rcases isClosed with isClosed | isClosed
    · simpa only [callbackManager, isClosed] using handled
    · simpa only [callbackManager, isClosed] using handled

/-- An event that something has overtaken fails an assert. -/
theorem dispatch_error (tracks : Tracks state) {accepted : EResult} {grouped : Bool}
    {event : SteamNetConnectionStatusChangedCallback}
    {rest : List SteamNetConnectionStatusChangedCallback}
    (head : state.listTemp = event :: rest)
    (disturbed : ¬ Undisturbed state (.dispatch accepted grouped)) :
    ∃ fault, fault.isCallback = true ∧
      state.core.callbackManager event accepted grouped = .error fault := by
  rw [undisturbed_dispatch head] at disturbed
  obtain ⟨named, _⟩ := tracks.head_cases head
  rcases not_and_or.mp disturbed with stopped | givenUp
  · simp only [Classical.not_imp, Bool.not_eq_false] at stopped
    obtain ⟨isConnecting, rfl, stopped⟩ := stopped
    have absent : event.listenSocket ∉ state.core.socketClientsMap := by
      intro member
      rw [tracks.keys _ member] at stopped
      cases stopped
    exact ⟨.connectingSocketMissing, rfl, by
      simp only [callbackManager, isConnecting, connecting_eq_error absent grouped]⟩
  · simp only [Classical.not_imp, Bool.not_eq_false] at givenUp
    obtain ⟨isClosed, givenUp⟩ := givenUp
    obtain ⟨fault, fails, which⟩ :=
      disconnected_eq_error (tracks.gone _ _ givenUp named)
    refine ⟨fault, ?_, ?_⟩
    · rcases which with rfl | rfl | rfl <;> rfl
    · rcases isClosed with isClosed | isClosed
      · simp only [callbackManager, isClosed, fails]
      · simp only [callbackManager, isClosed, fails]

end Tracks

section Runs

variable {Listener : Type} [IListener Listener] {state next : StatusState Listener}
  {action : StatusAction Listener}

omit [IListener Listener] in
theorem stopListening_error {core : NetworkManagerCore Listener} {listener : HListener}
    {fault : Fault} (fails : core.stopListening listener = .error fault) :
    fault.isCallback = false := by
  unfold NetworkManagerCore.stopListening at fails
  split at fails
  · cases fails
  split at fails
  · cases fails
  split at fails
  · obtain rfl := Except.error.inj fails
    rfl
  · cases fails

/-- An operation other than the status callback fails none of the callbacks'
asserts. -/
theorem perform_error {core : NetworkManagerCore Listener}
    {operation : CoreOperation Listener} {fault : Fault}
    (notCallback : operation.isCallback = false)
    (fails : operation.perform core = .error fault) : fault.isCallback = false := by
  cases operation with
  | createListener name =>
      have fails := map_eq_error_iff.mp fails
      unfold NetworkManagerCore.createListener at fails
      split at fails
      · obtain rfl := Except.error.inj fails
        rfl
      · cases fails
  | destroyListener listener =>
      have fails := map_eq_error_iff.mp fails
      unfold NetworkManagerCore.destroyListener at fails
      split at fails
      · cases fails
      · cases stops : core.stopListening listener with
        | error other =>
            rw [stops] at fails
            obtain rfl := Except.error.inj fails
            exact stopListening_error stops
        | ok stopped =>
            rw [stops] at fails
            cases fails
  | stopListening listener => exact stopListening_error (map_eq_error_iff.mp fails)
  | pushOutgoingMessageQueue listener message =>
      have fails := map_eq_error_iff.mp fails
      unfold NetworkManagerCore.pushOutgoingMessageQueue at fails
      split at fails
      · cases fails
      split at fails
      · cases fails
      split at fails
      · obtain rfl := Except.error.inj fails
        rfl
      split at fails
      · cases fails
      · cases fails
  | connectionServed socket connection =>
      have fails := map_eq_error_iff.mp fails
      unfold NetworkManagerCore.connectionServed at fails
      split at fails
      · obtain rfl := Except.error.inj fails
        rfl
      split at fails
      · cases fails
      · obtain rfl := Except.error.inj fails
        rfl
  | callbackManager info accepted grouped => cases notCallback
  | startListening _ _ _ _ | tryPopReceivedMessageQueue _ | tryPopErrorQueue _
  | listenerChanges _ _ => cases fails

/-- An undisturbed step keeps the invariant and fails no assert of the
callbacks. -/
theorem step_tracks (tracks : Tracks state)
    (safe : ∀ fault, state.fault = some fault → fault.isCallback = false)
    (undisturbed : Undisturbed state action)
    (stepTo : (statusSystem Listener).step state action = some next) :
    Tracks next ∧ ∀ fault, next.fault = some fault → fault.isCallback = false := by
  cases running : state.fault with
  | some fault => simp [statusSystem, running] at stepTo
  | none =>
      simp only [statusSystem, running, Option.isSome_none, Bool.false_eq_true,
        if_false] at stepTo
      cases action with
      | operation operation =>
          dsimp only at stepTo
          split at stepTo
          · cases stepTo
          next enabled =>
            rw [not_or, Bool.not_eq_true] at enabled
            split at stepTo
            next fault fails =>
              obtain rfl := Option.some.inj stepTo
              refine ⟨tracks.congr rfl rfl rfl rfl rfl, ?_⟩
              rintro other ⟨⟩
              exact perform_error enabled.1 fails
            next outcome core performs =>
              obtain rfl := Option.some.inj stepTo
              exact ⟨tracks.operation enabled.1 performs, safe⟩
      | connecting connection socket =>
          dsimp only at stepTo
          split at stepTo
          next enabled =>
            obtain ⟨unknown, member⟩ := enabled
            obtain rfl := Option.some.inj stepTo
            refine ⟨tracks.queueCallback member rfl ?_ ?_ ?_, safe⟩
            · simp [connectingEvent, unknown, SteamConnection.history,
                SteamConnection.openedEvents]
            · simp [connectingEvent, unknown, SteamConnection.socket?]
            · simp [connectingEvent, unknown, SteamConnection.isClosed]
          · cases stepTo
      | connected connection =>
          dsimp only at stepTo
          split at stepTo
          next socket opened =>
            split at stepTo
            next member =>
              obtain rfl := Option.some.inj stepTo
              refine ⟨tracks.queueCallback member rfl ?_ ?_ ?_, safe⟩
              · simp [connectedEvent, opened, SteamConnection.history,
                  SteamConnection.openedEvents]
              · simp [connectedEvent, opened, SteamConnection.socket?]
              · simp [connectedEvent, opened, SteamConnection.isClosed]
            · cases stepTo
          · cases stepTo
      | closed connection byPeer =>
          dsimp only at stepTo
          split at stepTo
          next socket connected opened =>
            split at stepTo
            next member =>
              obtain rfl := Option.some.inj stepTo
              refine ⟨tracks.queueCallback member rfl ?_ ?_ ?_, safe⟩
              · simp [closedEvent, opened, SteamConnection.history]
              · simp [closedEvent, opened, SteamConnection.socket?]
              · simp [closedEvent, opened, SteamConnection.isClosed]
            · cases stepTo
          · cases stepTo
      | runCallbacks =>
          dsimp only at stepTo
          split at stepTo
          next idle =>
            obtain rfl := Option.some.inj stepTo
            exact ⟨tracks.congr rfl (by simp [idle]) rfl rfl rfl, (by rintro _ ⟨⟩)⟩
          · cases stepTo
      | dispatch accepted grouped =>
          dsimp only at stepTo
          split at stepTo
          · cases stepTo
          next event rest head =>
            obtain ⟨core, handles, kept⟩ := tracks.dispatch head undisturbed
            rw [handles] at stepTo
            obtain rfl := Option.some.inj stepTo
            exact ⟨kept, safe⟩

theorem tracks_of_reachable
    (reaches : (statusSystem Listener).ReachableWhere Undisturbed state) :
    Tracks state ∧ ∀ fault, state.fault = some fault → fault.isCallback = false := by
  refine reaches.invariant
    (fun state => Tracks state ∧ ∀ fault, state.fault = some fault → fault.isCallback = false)
    ?_ ?_
  · rintro state rfl
    exact ⟨Tracks.initial, nofun⟩
  · intro state action next _ ⟨tracks, safe⟩ undisturbed stepTo
    exact step_tracks tracks safe undisturbed stepTo

end Runs

/-- Callback safety of every run in which nothing overtakes a delivered event:
no assert of `Connecting` or `Disconnected` has failed, and the next event, if it
is not overtaken either, finds its socket in the map and its connection in the
socket's table.  The next event is handled exactly when it is not overtaken. -/
theorem callback_safety {Listener : Type} [IListener Listener]
    {state : StatusState Listener}
    (reaches : (statusSystem Listener).ReachableWhere Undisturbed state) :
    (∀ fault, state.fault = some fault → fault.isCallback = false) ∧
    ∀ event rest accepted grouped, state.listTemp = event :: rest →
      ((∃ next, state.core.callbackManager event accepted grouped = .ok next) ↔
        Undisturbed state (.dispatch accepted grouped)) ∧
      (Undisturbed state (.dispatch accepted grouped) →
        (event.state = .connecting → accepted = .ok →
          event.listenSocket ∈ state.core.socketClientsMap) ∧
        (event.state = .closedByPeer ∨ event.state = .problemDetectedLocally →
          state.core.InTable event.listenSocket event.hConn)) := by
  obtain ⟨tracks, safe⟩ := tracks_of_reachable reaches
  refine ⟨safe, ?_⟩
  intro event rest accepted grouped head
  refine ⟨⟨?_, ?_⟩, tracks.found head⟩
  · rintro ⟨next, handles⟩
    by_contra disturbed
    obtain ⟨fault, _, fails⟩ := tracks.dispatch_error head disturbed
    rw [handles] at fails
    cases fails
  · intro undisturbed
    obtain ⟨next, handles, _⟩ := tracks.dispatch head undisturbed
    exact ⟨next, handles⟩

/-- A listener on socket 5, to which connection 9 connects. -/
def arrival : List (StatusAction ListenerQueues) :=
  [.operation (.createListener none),
    .operation (.startListening 1 80 (.ok ⟨5, 6⟩) (.ok ())),
    .connecting 9 5]

/-- Connection 9 arrives and ends before its `Connecting` event is delivered.
Steam still accepts it, so the second event finds it in the table. -/
theorem callback_safety_accepted :
    ∃ (state : StatusState ListenerQueues) (event : _), state.listTemp = [event] ∧
      event.state = .closedByPeer ∧
      state.core.InTable event.listenSocket event.hConn := by
  have executes : ∃ state, (statusSystem ListenerQueues).runWhere Undisturbed {} (arrival ++
      [.closed 9 true, .runCallbacks, .dispatch .ok true]) = some state ∧
        state.listTemp = [closedEvent 9 5 false true] ∧ state.givenUp 9 = false :=
    ⟨_, rfl, rfl, rfl⟩
  obtain ⟨state, executes, waiting, kept⟩ := executes
  have safe := callback_safety (TransitionSystem.reachableWhere_of_run rfl executes)
  have undisturbed : Undisturbed state (.dispatch .ok true) :=
    (undisturbed_dispatch waiting).mpr ⟨nofun, fun _ => kept⟩
  exact ⟨state, _, waiting, rfl, ((safe.2 _ [] .ok true waiting).2 undisturbed).2 (Or.inl rfl)⟩

/-- The asserts fail when the peer is gone before its connection is accepted,
and when the listener is stopped before the event is delivered. -/
theorem callback_safety_fails :
    (∃ state, (statusSystem ListenerQueues).Reachable state ∧
      state.fault = some .disconnectedConnectionMissing) ∧
    ∃ state, (statusSystem ListenerQueues).Reachable state ∧
      state.fault = some .connectingSocketMissing := by
  constructor
  · have executes : ∃ state, (statusSystem ListenerQueues).run {} (arrival ++
        [.closed 9 true, .runCallbacks, .dispatch (.other 11) true, .dispatch .ok true]) =
          some state ∧ state.fault = some .disconnectedConnectionMissing :=
      ⟨_, rfl, rfl⟩
    obtain ⟨state, executes, fails⟩ := executes
    exact ⟨state, TransitionSystem.reachable_of_run rfl executes, fails⟩
  · have executes : ∃ state, (statusSystem ListenerQueues).run {} (arrival ++
        [.operation (.stopListening 1), .runCallbacks, .dispatch .ok true]) =
          some state ∧ state.fault = some .connectingSocketMissing :=
      ⟨_, rfl, rfl⟩
    obtain ⟨state, executes, fails⟩ := executes
    exact ⟨state, TransitionSystem.reachable_of_run rfl executes, fails⟩

end HttpServer
