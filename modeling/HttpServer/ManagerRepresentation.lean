import HttpServer.ManagerRuns
import Mathlib.Algebra.Group.Nat.Defs

/-!
# The representation invariant of the manager core

The manager keeps who listens on what twice: as the socket stored with each
listener and as the keys of the connection tables.  The two are the same
relation in every reachable state, and the handle counter stays above every
handle it has given out until it wraps.
-/

namespace HttpServer

open UnorderedMap

namespace NetworkManagerCore

variable {Listener : Type} {core : NetworkManagerCore Listener}
  {listener other : HListener} {socket : HSteamListenSocket}

/-- The socket stored with a listener, if the handle is known. -/
def socketOf (core : NetworkManagerCore Listener) (listener : HListener) :
    Option HSteamListenSocket :=
  (core.listeners.lookup listener).map fun info => info.socket

theorem mem_listeners_iff :
    listener ∈ core.listeners ↔ ∃ socket, core.socketOf listener = some socket := by
  rw [mem_iff_lookup]
  simp [socketOf]

@[simp]
theorem socketOf_record (call : CoreCall) :
    (core.record call).socketOf listener = core.socketOf listener := rfl

theorem socketOf_updateListener
    {update : ListenerInfo Listener → ListenerInfo Listener}
    (keeps : ∀ info, (update info).socket = info.socket) :
    (core.updateListener listener update).socketOf other = core.socketOf other := by
  simp only [socketOf, updateListener, lookup_modify]
  split
  next same =>
      subst other
      simp [Option.map_map, Function.comp_def, keeps]
  next => rfl

theorem socketOf_setSocket :
    (core.updateListener listener fun info =>
        { info with socket := socket }).socketOf other =
      if other = listener then (core.socketOf listener).map fun _ => socket
      else core.socketOf other := by
  simp only [socketOf, updateListener, lookup_modify]
  split
  next same =>
      subst other
      simp [Option.map_map, Function.comp_def]
  next => rfl

theorem mem_updateConnections {key : HSteamListenSocket}
    {update : List Connections → List Connections} :
    key ∈ (core.updateConnections socket update).socketClientsMap ↔
      key ∈ core.socketClientsMap := by
  simp [updateConnections]

theorem socketOf_adoptSocket {handlers : SocketHandlers} :
    (core.adoptSocket listener handlers).socketOf other =
      if other = listener then (core.socketOf listener).map fun _ => handlers.socket
      else core.socketOf other :=
  socketOf_setSocket

theorem mem_adoptSocket {handlers : SocketHandlers} :
    socket ∈ (core.adoptSocket listener handlers).socketClientsMap ↔
      socket = handlers.socket ∨ socket ∈ core.socketClientsMap :=
  mem_emplace

theorem socketOf_dropSocket {socketInfo : SocketInfo} :
    (core.dropSocket listener socket socketInfo).socketOf other =
      if other = listener then
        (core.socketOf listener).map fun _ => hSteamListenSocketInvalid
      else core.socketOf other :=
  socketOf_setSocket

theorem mem_dropSocket {key : HSteamListenSocket} {socketInfo : SocketInfo} :
    key ∈ (core.dropSocket listener socket socketInfo).socketClientsMap ↔
      key ≠ socket ∧ key ∈ core.socketClientsMap :=
  AList.mem_erase

end NetworkManagerCore

open NetworkManagerCore

/-- The representation invariant after `created` listener creations. -/
structure Represents {Listener : Type} (created : Nat)
    (core : NetworkManagerCore Listener) : Prop where
  keys : ∀ socket, socket ∈ core.socketClientsMap ↔
    socket ≠ hSteamListenSocketInvalid ∧
      ∃ listener, core.socketOf listener = some socket
  unique : ∀ first second socket, core.socketOf first = some socket →
    core.socketOf second = some socket →
    socket ≠ hSteamListenSocketInvalid → first = second
  index : core.listenerHandlerIndex = UInt64.ofNat (created + 1)
  handles : ∀ listener ∈ core.listeners,
    0 < listener.toNat ∧ listener.toNat ≤ created

/-- Steam's part of the contract: a socket that a successful `initSocket`
returns is valid and not one the manager still has a table for. -/
def FreshSocket {Listener : Type} (core : NetworkManagerCore Listener) :
    CoreOperation Listener → Prop
  | .startListening _ _ (.ok handlers) _ =>
      handlers.socket ≠ hSteamListenSocketInvalid ∧
        handlers.socket ∉ core.socketClientsMap
  | _ => True

namespace Represents

variable {Listener : Type} {created : Nat} {core next : NetworkManagerCore Listener}
  {listener : HListener} {socket : HSteamListenSocket}

theorem initial : Represents 0 ({} : NetworkManagerCore Listener) where
  keys socket := by simp [socketOf]
  unique first second socket stored := by simp [socketOf] at stored
  index := rfl
  handles listener member := by simp at member

/-- The invariant reads the stored sockets, the keys and the counter only. -/
theorem congr (represents : Represents created core)
    (sockets : ∀ listener, next.socketOf listener = core.socketOf listener)
    (keys : ∀ socket, socket ∈ next.socketClientsMap ↔ socket ∈ core.socketClientsMap)
    (index : next.listenerHandlerIndex = core.listenerHandlerIndex) :
    Represents created next where
  keys socket := by simp only [keys, represents.keys, sockets]
  unique first second socket firstStored secondStored := by
    rw [sockets] at firstStored secondStored
    exact represents.unique first second socket firstStored secondStored
  index := index.trans represents.index
  handles listener member := by
    apply represents.handles
    rw [mem_listeners_iff] at member ⊢
    simpa only [sockets] using member

theorem record (represents : Represents created core) (call : CoreCall) :
    Represents created (core.record call) :=
  represents.congr (fun _ => rfl) (fun _ => Iff.rfl) rfl

theorem updateListener (represents : Represents created core)
    {update : ListenerInfo Listener → ListenerInfo Listener}
    (keeps : ∀ info, (update info).socket = info.socket) :
    Represents created (core.updateListener listener update) :=
  represents.congr (fun _ => socketOf_updateListener keeps) (fun _ => Iff.rfl) rfl

theorem changeObject (represents : Represents created core)
    {object : ListenerInfo Listener → Listener} :
    Represents created (core.updateListener listener fun info =>
      { info with listener := object info }) :=
  represents.updateListener fun _ => rfl

theorem updateConnections (represents : Represents created core)
    (update : List Connections → List Connections) :
    Represents created (core.updateConnections socket update) :=
  represents.congr (fun _ => rfl) (fun _ => mem_updateConnections) rfl

/-- The counter is not a handle in use as long as it has not wrapped. -/
theorem index_unused (represents : Represents created core)
    (few : created + 1 < 2 ^ 64) :
    core.listenerHandlerIndex ∉ core.listeners := by
  intro member
  have bound := (represents.handles _ member).2
  rw [represents.index, UInt64.toNat_ofNat_of_lt' (by simpa using few)] at bound
  omega

theorem socket_present (represents : Represents created core)
    (stored : core.socketOf listener = some socket)
    (valid : socket ≠ hSteamListenSocketInvalid) :
    ∃ info, core.socketClientsMap.lookup socket = some info :=
  mem_iff_lookup.mp ((represents.keys socket).mpr ⟨valid, listener, stored⟩)

theorem adoptSocket (represents : Represents created core)
    (handlers : SocketHandlers)
    (idle : core.socketOf listener = some hSteamListenSocketInvalid)
    (valid : handlers.socket ≠ hSteamListenSocketInvalid)
    (fresh : handlers.socket ∉ core.socketClientsMap) :
    Represents created (core.adoptSocket listener handlers) := by
  have sockets (other : HListener) :
      (core.adoptSocket listener handlers).socketOf other =
        if other = listener then some handlers.socket else core.socketOf other := by
    rw [socketOf_adoptSocket, idle]
    rfl
  have unused (other : HListener) : core.socketOf other ≠ some handlers.socket :=
    fun stored => fresh ((represents.keys _).mpr ⟨valid, other, stored⟩)
  refine ⟨?_, ?_, represents.index, ?_⟩
  · intro socket
    simp only [mem_adoptSocket, sockets]
    constructor
    · rintro (rfl | member)
      · exact ⟨valid, listener, by simp⟩
      · obtain ⟨socketValid, other, stored⟩ := (represents.keys socket).mp member
        refine ⟨socketValid, other, ?_⟩
        have different : other ≠ listener := by
          rintro rfl
          rw [idle, Option.some.injEq] at stored
          exact socketValid stored.symm
        simpa [different] using stored
    · rintro ⟨socketValid, other, stored⟩
      by_cases same : other = listener
      · simp only [same, if_true, Option.some.injEq] at stored
        exact Or.inl stored.symm
      · rw [if_neg same] at stored
        exact Or.inr ((represents.keys socket).mpr ⟨socketValid, other, stored⟩)
  · intro first second socket firstStored secondStored socketValid
    rw [sockets] at firstStored secondStored
    by_cases firstSame : first = listener <;> by_cases secondSame : second = listener
    · rw [firstSame, secondSame]
    · rw [if_pos firstSame, Option.some.injEq] at firstStored
      rw [if_neg secondSame, ← firstStored] at secondStored
      exact (unused second secondStored).elim
    · rw [if_pos secondSame, Option.some.injEq] at secondStored
      rw [if_neg firstSame, ← secondStored] at firstStored
      exact (unused first firstStored).elim
    · rw [if_neg firstSame] at firstStored
      rw [if_neg secondSame] at secondStored
      exact represents.unique first second socket firstStored secondStored socketValid
  · intro other member
    obtain ⟨socket, stored⟩ := mem_listeners_iff.mp member
    apply represents.handles
    rw [sockets] at stored
    rw [mem_listeners_iff]
    by_cases same : other = listener
    · exact ⟨_, same ▸ idle⟩
    · exact ⟨socket, by simpa [same] using stored⟩

theorem dropSocket (represents : Represents created core)
    (stored : core.socketOf listener = some socket)
    (valid : socket ≠ hSteamListenSocketInvalid) (socketInfo : SocketInfo) :
    Represents created (core.dropSocket listener socket socketInfo) := by
  have sockets (other : HListener) :
      (core.dropSocket listener socket socketInfo).socketOf other =
        if other = listener then some hSteamListenSocketInvalid
        else core.socketOf other := by
    rw [socketOf_dropSocket, stored]
    rfl
  refine ⟨?_, ?_, represents.index, ?_⟩
  · intro key
    simp only [mem_dropSocket, sockets, represents.keys]
    constructor
    · rintro ⟨different, keyValid, other, otherStored⟩
      refine ⟨keyValid, other, ?_⟩
      have notListener : other ≠ listener := by
        rintro rfl
        rw [stored, Option.some.injEq] at otherStored
        exact different otherStored.symm
      simpa [notListener] using otherStored
    · rintro ⟨keyValid, other, otherStored⟩
      by_cases same : other = listener
      · simp only [same, if_true, Option.some.injEq] at otherStored
        exact (keyValid otherStored.symm).elim
      · rw [if_neg same] at otherStored
        refine ⟨?_, keyValid, other, otherStored⟩
        rintro rfl
        exact same (represents.unique other listener key otherStored stored valid)
  · intro first second key firstStored secondStored keyValid
    rw [sockets] at firstStored secondStored
    have stillListening {handle : HListener}
        (handleStored : (if handle = listener then some hSteamListenSocketInvalid
          else core.socketOf handle) = some key) :
        core.socketOf handle = some key := by
      by_cases same : handle = listener
      · simp only [same, if_true, Option.some.injEq] at handleStored
        exact (keyValid handleStored.symm).elim
      · rwa [if_neg same] at handleStored
    exact represents.unique first second key (stillListening firstStored)
      (stillListening secondStored) keyValid
  · intro other member
    obtain ⟨key, otherStored⟩ := mem_listeners_iff.mp member
    apply represents.handles
    rw [sockets] at otherStored
    rw [mem_listeners_iff]
    by_cases same : other = listener
    · exact ⟨_, same ▸ stored⟩
    · exact ⟨key, by simpa [same] using otherStored⟩

theorem eraseListener (represents : Represents created core)
    (listener : HListener)
    (idle : ∀ socket, core.socketOf listener = some socket →
      socket = hSteamListenSocketInvalid) :
    Represents created { core with listeners := core.listeners.erase listener } := by
  have sockets (other : HListener) :
      ({ core with listeners := core.listeners.erase listener } :
        NetworkManagerCore Listener).socketOf other =
        if other = listener then none else core.socketOf other := by
    simp only [socketOf, lookup_erase_eq_ite]
    split <;> rfl
  have kept {other : HListener} {key : HSteamListenSocket}
      (stored : (if other = listener then none else core.socketOf other) = some key) :
      core.socketOf other = some key := by
    split at stored
    · simp at stored
    · exact stored
  refine ⟨?_, ?_, represents.index, ?_⟩
  · intro key
    simp only [represents.keys, sockets]
    constructor
    · rintro ⟨keyValid, other, stored⟩
      have different : other ≠ listener := by
        rintro rfl
        exact keyValid (idle key stored)
      exact ⟨keyValid, other, by simpa [different] using stored⟩
    · rintro ⟨keyValid, other, stored⟩
      exact ⟨keyValid, other, kept stored⟩
  · intro first second key firstStored secondStored keyValid
    rw [sockets] at firstStored secondStored
    exact represents.unique first second key (kept firstStored) (kept secondStored)
      keyValid
  · intro other member
    exact represents.handles other (AList.mem_erase.mp member).2

theorem createListener [IListener Listener] (represents : Represents created core)
    (few : created + 1 < 2 ^ 64) (name : Option CString) :
    ∃ next, core.createListener name = .ok (core.listenerHandlerIndex, next) ∧
      Represents (created + 1) next ∧
      ∀ other, other ∈ next.listeners ↔
        other = core.listenerHandlerIndex ∨ other ∈ core.listeners := by
  have unused := represents.index_unused few
  have indexValue : core.listenerHandlerIndex.toNat = created + 1 := by
    rw [represents.index, UInt64.toNat_ofNat_of_lt' (by simpa using few)]
  have unbound := AList.lookup_eq_none.mpr unused
  have creates : core.createListener name = .ok (core.listenerHandlerIndex, _) :=
    createListener_eq_ok.mpr ⟨unbound, rfl, rfl⟩
  have idle : (newInfo name : ListenerInfo Listener).socket = hSteamListenSocketInvalid := by
    cases name with
    | none => rfl
    | some name => rfl
  refine ⟨_, creates, ?_, fun other => mem_emplace⟩
  have sockets (other : HListener) :
      ({ core with
          listeners := emplace core.listeners core.listenerHandlerIndex (newInfo name)
          listenerHandlerIndex := core.listenerHandlerIndex + 1 } :
        NetworkManagerCore Listener).socketOf other =
        if other = core.listenerHandlerIndex then some hSteamListenSocketInvalid
        else core.socketOf other := by
    simp only [socketOf, lookup_emplace]
    by_cases same : other = core.listenerHandlerIndex
    · simp [same, unused, idle]
    · simp [same]
  have kept {other : HListener} {key : HSteamListenSocket}
      (keyValid : key ≠ hSteamListenSocketInvalid)
      (stored : (if other = core.listenerHandlerIndex then
        some hSteamListenSocketInvalid else core.socketOf other) = some key) :
      core.socketOf other = some key := by
    split at stored
    · exact (keyValid (Option.some.inj stored).symm).elim
    · exact stored
  refine ⟨?_, ?_, ?_, ?_⟩
  · intro key
    simp only [represents.keys, sockets]
    constructor
    · rintro ⟨keyValid, other, stored⟩
      have different : other ≠ core.listenerHandlerIndex := by
        rintro rfl
        exact unused (mem_listeners_iff.mpr ⟨key, stored⟩)
      exact ⟨keyValid, other, by simpa [different] using stored⟩
    · rintro ⟨keyValid, other, stored⟩
      exact ⟨keyValid, other, kept keyValid stored⟩
  · intro first second key firstStored secondStored keyValid
    rw [sockets] at firstStored secondStored
    exact represents.unique first second key (kept keyValid firstStored)
      (kept keyValid secondStored) keyValid
  · simp only [represents.index]
    rw [show created + 1 + 1 = (created + 1) + 1 from rfl, UInt64.ofNat_add (created + 1) 1]
    rfl
  · intro other member
    rcases mem_emplace.mp member with rfl | known
    · omega
    · have bounds := represents.handles other known
      omega

theorem startListening (represents : Represents created core)
    (listener : HListener) (port : UInt16) (initSocket : Result SocketHandlers)
    (started : Result Unit)
    (fresh : ∀ handlers, initSocket = .ok handlers →
      handlers.socket ≠ hSteamListenSocketInvalid ∧
        handlers.socket ∉ core.socketClientsMap) :
    Represents created (core.startListening listener port initSocket started).2 ∧
      ∀ other, other ∈ (core.startListening listener port initSocket started).2.listeners ↔
        other ∈ core.listeners := by
  generalize starts : core.startListening listener port initSocket started = outcome
  obtain ⟨result, next⟩ := outcome
  cases startingStep_of_startListening starts with
  | refused => exact ⟨represents, fun _ => Iff.rfl⟩
  | failed => exact ⟨represents.record _, fun _ => Iff.rfl⟩
  | @adopted info handlers _ found notListening =>
      have idle : core.socketOf listener = some hSteamListenSocketInvalid := by
        simp [socketOf, found, notListening]
      obtain ⟨valid, unused⟩ := fresh handlers rfl
      have adopted := ((represents.record (.initSocket listener port)).adoptSocket
        handlers idle valid unused).record (.startListening listener)
      exact ⟨adopted, fun _ => mem_modify⟩

/-- `stopListening` fails no assert, keeps the handles and leaves the listener
without a socket. -/
theorem stopListening (represents : Represents created core) (listener : HListener) :
    ∃ result next, core.stopListening listener = .ok (result, next) ∧
      Represents created next ∧
      (∀ other, other ∈ next.listeners ↔ other ∈ core.listeners) ∧
      ∀ socket, next.socketOf listener = some socket →
        socket = hSteamListenSocketInvalid := by
  unfold NetworkManagerCore.stopListening isValidListenerHandler
  cases found : core.listeners.lookup listener with
  | none =>
      refine ⟨_, _, rfl, represents, fun _ => Iff.rfl, ?_⟩
      intro socket stored
      simp [socketOf, found] at stored
  | some info =>
      have stored : core.socketOf listener = some info.socket := by
        simp [socketOf, found]
      dsimp only
      by_cases idle : info.socket = hSteamListenSocketInvalid
      · rw [if_pos idle]
        refine ⟨_, _, rfl, represents, fun _ => Iff.rfl, ?_⟩
        intro socket other
        rw [stored, Option.some.injEq] at other
        rw [← other, idle]
      · rw [if_neg idle]
        obtain ⟨socketInfo, present⟩ := represents.socket_present stored idle
        rw [present]
        refine ⟨_, _, rfl, (represents.dropSocket stored idle socketInfo).record _, ?_, ?_⟩
        · intro other
          exact mem_modify
        · intro socket other
          rw [socketOf_record, socketOf_dropSocket, if_pos rfl, stored] at other
          exact (Option.some.inj other).symm

theorem destroyListener (represents : Represents created core)
    (listener : HListener) :
    ∃ result next, core.destroyListener listener = .ok (result, next) ∧
      Represents created next ∧
      (∀ other, other ∈ next.listeners → other ∈ core.listeners) ∧
      (result = .ok () → listener ∈ core.listeners ∧ listener ∉ next.listeners) := by
  unfold NetworkManagerCore.destroyListener isValidListenerHandler
  cases found : core.listeners.lookup listener with
  | none => exact ⟨_, _, rfl, represents, fun _ => id, nofun⟩
  | some info =>
      obtain ⟨result, middle, stops, kept, sameHandles, idle⟩ :=
        represents.stopListening listener
      have erased := (kept.record (.destroy listener)).eraseListener listener idle
      rw [stops]
      refine ⟨.ok (), _, rfl, erased, ?_, fun _ => ⟨?_, ?_⟩⟩
      · intro other member
        exact (sameHandles other).mp (AList.mem_erase.mp member).2
      · exact mem_iff_lookup.mpr ⟨info, found⟩
      · intro member
        exact (AList.mem_erase.mp member).1 rfl

theorem pushOutgoingMessageQueue [IListener Listener]
    (represents : Represents created core) (listener : HListener)
    (message : Request) :
    ∃ result next, core.pushOutgoingMessageQueue listener message = .ok (result, next) ∧
      Represents created next ∧
      ∀ other, other ∈ next.listeners ↔ other ∈ core.listeners := by
  unfold NetworkManagerCore.pushOutgoingMessageQueue isValidListenerHandler
  cases found : core.listeners.lookup listener with
  | none => exact ⟨_, _, rfl, represents, fun _ => Iff.rfl⟩
  | some info =>
      dsimp only
      by_cases idle : info.socket = hSteamListenSocketInvalid
      · rw [if_pos idle]
        exact ⟨_, _, rfl, represents, fun _ => Iff.rfl⟩
      rw [if_neg idle]
      have stored : core.socketOf listener = some info.socket := by
        simp [socketOf, found]
      obtain ⟨socketInfo, present⟩ := represents.socket_present stored idle
      rw [present]
      dsimp only
      split
      · exact ⟨_, _, rfl, represents.changeObject.record _, fun _ => mem_modify⟩
      · exact ⟨_, _, rfl, represents, fun _ => Iff.rfl⟩

end Represents

/-- The asserts that guard the correspondence of the two maps. -/
def Fault.isRepresentation : Fault → Bool
  | .createListenerIndexTaken | .stopListeningSocketMissing
  | .pushOutgoingSocketMissing => true
  | _ => false

/-- The invariant of a state of the core system: the process has not ended in
one of the asserts on the maps. -/
def StateRepresents {Listener : Type} (created : Nat) :
    Except Fault (NetworkManagerCore Listener) → Prop
  | .ok core => Represents created core
  | .error fault => fault.isRepresentation = false

def SteamFresh {Listener : Type} :
    Except Fault (NetworkManagerCore Listener) → CoreOperation Listener → Prop
  | .ok core, operation => FreshSocket core operation
  | .error _, _ => True

section Runs

variable {Listener : Type} {created : Nat} {core : NetworkManagerCore Listener}

/-- A transition that keeps the invariant and lets no handle appear. -/
def Keeps (created : Nat) (core : NetworkManagerCore Listener)
    (state : Except Fault (NetworkManagerCore Listener)) : Prop :=
  StateRepresents created state ∧
    ∀ next, state = .ok next → ∀ other ∈ next.listeners, other ∈ core.listeners

theorem Keeps.ok {next : NetworkManagerCore Listener} (represents : Represents created next)
    (handles : ∀ other, other ∈ next.listeners → other ∈ core.listeners) :
    Keeps created core (.ok next) :=
  ⟨represents, fun _ ends => by cases ends; exact handles⟩

theorem Keeps.fault {fault : Fault} (foreign : fault.isRepresentation = false) :
    Keeps created core (.error fault) :=
  ⟨foreign, nofun⟩

theorem Represents.connecting (represents : Represents created core)
    (info : SteamNetConnectionStatusChangedCallback) (accepted : EResult)
    (grouped : Bool) : Keeps created core (core.connecting info accepted grouped) := by
  unfold NetworkManagerCore.connecting
  dsimp only
  split
  · exact .ok ((represents.record _).record _) fun _ => id
  split
  · exact .fault rfl
  split
  · exact .ok (((represents.record _).record _).record _) fun _ => id
  · exact .ok (((represents.record _).record _).updateConnections _) fun _ => id

theorem Represents.disconnected (represents : Represents created core)
    (info : SteamNetConnectionStatusChangedCallback) :
    Keeps created core (core.disconnected info) := by
  unfold NetworkManagerCore.disconnected
  split
  · exact .fault rfl
  split
  · exact .fault rfl
  split
  · exact .ok ((represents.updateConnections _).record _) fun _ => id
  · exact .fault rfl

theorem Represents.callbackManager (represents : Represents created core)
    (info : SteamNetConnectionStatusChangedCallback) (accepted : EResult)
    (grouped : Bool) :
    Keeps created core (core.callbackManager info accepted grouped) := by
  unfold NetworkManagerCore.callbackManager
  cases info.state with
  | connecting => exact represents.connecting info accepted grouped
  | problemDetectedLocally => exact represents.disconnected info
  | closedByPeer => exact represents.disconnected info
  | _ => exact .ok represents fun _ => id

theorem Represents.connectionServed (represents : Represents created core)
    (socket : HSteamListenSocket) (connection : HSteamNetConnection) :
    Keeps created core (core.connectionServed socket connection) := by
  unfold NetworkManagerCore.connectionServed
  split
  · exact .fault rfl
  split
  · exact .ok (represents.updateConnections _) fun _ => id
  · exact .fault rfl

variable [IListener Listener]

theorem Represents.tryPopReceivedMessageQueue (represents : Represents created core)
    (listener : HListener) :
    Keeps created core (.ok (core.tryPopReceivedMessageQueue listener).2) := by
  unfold NetworkManagerCore.tryPopReceivedMessageQueue
  cases core.isValidListenerHandler listener with
  | error err => exact .ok represents fun _ => id
  | ok info =>
      exact .ok (represents.changeObject.record _) fun _ => mem_modify.mp

theorem Represents.tryPopErrorQueue (represents : Represents created core)
    (listener : HListener) :
    Keeps created core (.ok (core.tryPopErrorQueue listener).2) := by
  unfold NetworkManagerCore.tryPopErrorQueue
  cases core.isValidListenerHandler listener with
  | error err => exact .ok represents fun _ => id
  | ok info =>
      exact .ok (represents.changeObject.record _) fun _ => mem_modify.mp

/-- An operation that creates no listener keeps the invariant and the handles. -/
theorem perform_keeps (represents : Represents created core)
    {operation : CoreOperation Listener} (notCreate : operation.isCreate = false)
    (fresh : FreshSocket core operation) :
    Keeps created core ((operation.perform core).map Prod.snd) := by
  cases operation with
  | createListener name => simp [CoreOperation.isCreate] at notCreate
  | destroyListener listener =>
      obtain ⟨result, next, destroys, kept, handles, _⟩ :=
        represents.destroyListener listener
      rw [CoreOperation.perform, destroys]
      exact .ok kept handles
  | startListening listener port initSocket started =>
      have keeps := represents.startListening listener port initSocket started
        (by rintro handlers rfl; exact fresh)
      exact .ok keeps.1 fun other => (keeps.2 other).mp
  | stopListening listener =>
      obtain ⟨result, next, stops, kept, handles, _⟩ :=
        represents.stopListening listener
      rw [CoreOperation.perform, stops]
      exact .ok kept fun other => (handles other).mp
  | tryPopReceivedMessageQueue listener =>
      exact represents.tryPopReceivedMessageQueue listener
  | pushOutgoingMessageQueue listener message =>
      obtain ⟨result, next, pushes, kept, handles⟩ :=
        represents.pushOutgoingMessageQueue listener message
      rw [CoreOperation.perform, pushes]
      exact .ok kept fun other => (handles other).mp
  | tryPopErrorQueue listener => exact represents.tryPopErrorQueue listener
  | connectionServed socket connection =>
      have keeps := represents.connectionServed socket connection
      rw [CoreOperation.perform]
      cases served : core.connectionServed socket connection <;>
        rw [served] at keeps <;> exact keeps
  | callbackManager info accepted grouped =>
      have keeps := represents.callbackManager info accepted grouped
      rw [CoreOperation.perform]
      cases handled : core.callbackManager info accepted grouped <;>
        rw [handled] at keeps <;> exact keeps
  | listenerChanges listener object =>
      exact .ok (represents.updateListener fun _ => rfl) fun _ => mem_modify.mp

/-- One operation keeps the invariant, and the only handle it can make appear
is the next value of the counter. -/
theorem perform_represents (represents : Represents created core)
    {operation : CoreOperation Listener}
    (few : created + creations [operation] < 2 ^ 64)
    (fresh : FreshSocket core operation) :
    StateRepresents (created + creations [operation])
        ((operation.perform core).map Prod.snd) ∧
      ∀ next, (operation.perform core).map Prod.snd = .ok next →
        ∀ other ∈ next.listeners, other ∈ core.listeners ∨ created < other.toNat := by
  cases kind : operation.isCreate with
  | false =>
      have keeps := perform_keeps represents kind fresh
      have none : creations [operation] = 0 := by simp [creations, kind]
      rw [none]
      exact ⟨keeps.1, fun next ends other member => Or.inl (keeps.2 next ends other member)⟩
  | true =>
      obtain ⟨name, rfl⟩ : ∃ name, operation = .createListener name := by
        cases operation <;> simp_all [CoreOperation.isCreate]
      have one : creations [(.createListener name : CoreOperation Listener)] = 1 := rfl
      rw [one] at few ⊢
      obtain ⟨next, creates, kept, handles⟩ := represents.createListener few name
      rw [CoreOperation.perform, creates]
      refine ⟨kept, ?_⟩
      intro next ends other member
      cases ends
      rcases (handles other).mp member with rfl | known
      · have value := congrArg UInt64.toNat represents.index
        rw [UInt64.toNat_ofNat_of_lt' (by simpa using few)] at value
        omega
      · exact Or.inl known

theorem steps_represent {operations : List (CoreOperation Listener)}
    {state : Except Fault (NetworkManagerCore Listener)}
    (represents : Represents created core)
    (run : (coreSystem Listener).StepsWhere SteamFresh (.ok core) operations state)
    (few : created + creations operations < 2 ^ 64) :
    StateRepresents (created + creations operations) state ∧
      ∀ next, state = .ok next →
        ∀ other ∈ next.listeners, other ∈ core.listeners ∨ created < other.toNat := by
  refine run.invariant (fun operations state =>
    created + creations operations < 2 ^ 64 →
      StateRepresents (created + creations operations) state ∧
        ∀ next, state = .ok next →
          ∀ other ∈ next.listeners, other ∈ core.listeners ∨ created < other.toNat)
    ?_ ?_ few
  · intro _
    exact ⟨represents, fun next ends other member => by cases ends; exact Or.inl member⟩
  · intro before middle operation last _ ih fresh stepTo few
    rw [creations_append] at few ⊢
    cases middle with
    | error fault => simp [coreSystem] at stepTo
    | ok middle =>
        obtain ⟨middleRepresents, middleHandles⟩ := ih (by omega)
        obtain ⟨kept, handles⟩ := perform_represents middleRepresents
          (by rw [Nat.add_assoc]; exact few) fresh
        obtain rfl := Option.some.inj stepTo
        rw [← Nat.add_assoc]
        refine ⟨kept, ?_⟩
        intro next ends other member
        rcases handles next ends other member with known | new
        · exact middleHandles middle rfl other known
        · exact Or.inr (by omega)

/-- Every operation on an unknown handle is refused with `eInvalidListener` and
changes nothing. -/
theorem perform_unknown {listener : HListener} {operation : CoreOperation Listener}
    (unknown : listener ∉ core.listeners)
    (target : operation.target? = some listener) :
    ∃ outcome, operation.perform core = .ok (outcome, core) ∧
      outcome.errorCode? = some .eInvalidListener := by
  have refused : core.isValidListenerHandler listener = .error (makeError
      .eInvalidListener "Listener Handler not found in Listeners Map") := by
    simp only [isValidListenerHandler, AList.lookup_eq_none.mpr unknown]
  cases operation with
  | destroyListener _ | startListening _ _ _ _ | stopListening _
  | tryPopReceivedMessageQueue _ | pushOutgoingMessageQueue _ _ | tryPopErrorQueue _ =>
      obtain rfl := Option.some.inj target
      constructor
      constructor
      · simp only [CoreOperation.perform, destroyListener, startListening,
          stopListening, tryPopReceivedMessageQueue, pushOutgoingMessageQueue,
          tryPopErrorQueue, refused]
        rfl
      · rfl
  | _ => simp [CoreOperation.target?] at target

end Runs

/-- The correspondence of the manager's two maps and its handle counter, in
every state of every run with fewer than 2^64 creations: the keys of the
connection tables are the stored sockets, no socket is stored twice, handles
are non-zero and below the counter (which has wrapped to zero after exactly
2^64 - 1 creations), and no assert on the maps fails.  A handle that was
destroyed is refused from then on and not given out again. -/
theorem representation_invariant (Listener : Type) [IListener Listener] :
    (∀ (operations : List (CoreOperation Listener)) state,
      creations operations < 2 ^ 64 →
      (coreSystem Listener).StepsWhere SteamFresh (.ok {}) operations state →
      (∀ fault, state = .error fault → fault.isRepresentation = false) ∧
      ∀ core, state = .ok core →
        (∀ socket, socket ∈ core.socketClientsMap ↔
          socket ≠ hSteamListenSocketInvalid ∧ ∃ listener info,
            core.listeners.lookup listener = some info ∧ info.socket = socket) ∧
        (∀ first second firstInfo secondInfo,
          core.listeners.lookup first = some firstInfo →
          core.listeners.lookup second = some secondInfo →
          firstInfo.socket ≠ hSteamListenSocketInvalid →
          firstInfo.socket = secondInfo.socket → first = second) ∧
        (∀ listener ∈ core.listeners, listener ≠ hListenerInvalid ∧
          (listener < core.listenerHandlerIndex ∨
            creations operations = 2 ^ 64 - 1 ∧ core.listenerHandlerIndex = 0)) ∧
        (core.isSocketClientsMapEmpty = true ↔
          ∀ listener info, core.listeners.lookup listener = some info →
            info.socket = hSteamListenSocketInvalid)) ∧
    ∀ (before after : List (CoreOperation Listener)) middle removed core listener,
      creations before + creations after < 2 ^ 64 →
      (coreSystem Listener).StepsWhere SteamFresh (.ok {}) before (.ok middle) →
      middle.destroyListener listener = .ok (.ok (), removed) →
      (coreSystem Listener).StepsWhere SteamFresh (.ok removed) after (.ok core) →
      (∀ operation : CoreOperation Listener, operation.target? = some listener →
        ∃ outcome, operation.perform core = .ok (outcome, core) ∧
          outcome.errorCode? = some .eInvalidListener) ∧
      ∀ name handler next, creations before + creations after + 1 < 2 ^ 64 →
        core.createListener name = .ok (handler, next) → handler ≠ listener := by
  constructor
  · intro operations state few run
    obtain ⟨represents, _⟩ := steps_represent Represents.initial run (by simpa using few)
    rw [Nat.zero_add] at represents
    refine ⟨?_, ?_⟩
    · rintro fault rfl
      exact represents
    rintro core rfl
    have stored (listener : HListener) (socket : HSteamListenSocket) :
        core.socketOf listener = some socket ↔
          ∃ info, core.listeners.lookup listener = some info ∧ info.socket = socket := by
      simp [socketOf]
    refine ⟨?_, ?_, ?_, ?_⟩
    · intro socket
      simp only [represents.keys, stored]
    · intro first second firstInfo secondInfo firstFound secondFound valid same
      exact represents.unique first second firstInfo.socket
        ((stored _ _).mpr ⟨firstInfo, firstFound, rfl⟩)
        ((stored _ _).mpr ⟨secondInfo, secondFound, same.symm⟩) valid
    · intro listener member
      obtain ⟨positive, bounded⟩ := represents.handles listener member
      refine ⟨?_, ?_⟩
      · rintro rfl
        simp at positive
      by_cases last : creations operations = 2 ^ 64 - 1
      · right
        refine ⟨last, ?_⟩
        rw [represents.index, last]
        rfl
      · left
        have unwrapped : creations operations + 1 < UInt64.size := by
          simp only [UInt64.size]
          omega
        rw [UInt64.lt_iff_toNat_lt, represents.index,
          UInt64.toNat_ofNat_of_lt' unwrapped]
        omega
    · rw [isSocketClientsMapEmpty, empty_iff]
      constructor
      · intro unbound listener info found
        by_contra valid
        exact unbound info.socket ((represents.keys _).mpr
          ⟨valid, listener, (stored _ _).mpr ⟨info, found, rfl⟩⟩)
      · intro idle socket member
        obtain ⟨valid, listener, found⟩ := (represents.keys socket).mp member
        obtain ⟨info, infoFound, rfl⟩ := (stored _ _).mp found
        exact valid (idle listener info infoFound)
  · intro before after middle removed core listener few runBefore destroys runAfter
    obtain ⟨middleRepresents, _⟩ :=
      steps_represent Represents.initial runBefore (by omega)
    rw [Nat.zero_add] at middleRepresents
    obtain ⟨result, next, destroys', removedRepresents, _, gone⟩ :=
      middleRepresents.destroyListener listener
    rw [destroys, Except.ok.injEq, Prod.mk.injEq] at destroys'
    obtain ⟨rfl, rfl⟩ := destroys'
    obtain ⟨known, unknown⟩ := gone rfl
    obtain ⟨represents, handles⟩ := steps_represent removedRepresents runAfter few
    have bound := (middleRepresents.handles listener known).2
    have unknownLater : listener ∉ core.listeners := by
      intro member
      rcases handles core rfl listener member with stays | new
      · exact unknown stays
      · omega
    refine ⟨fun operation target => perform_unknown unknownLater target, ?_⟩
    rintro name handler next moreFew creates rfl
    obtain ⟨_, creates', _⟩ := represents.createListener moreFew name
    rw [creates, Except.ok.injEq, Prod.mk.injEq] at creates'
    have index := congrArg UInt64.toNat creates'.1
    rw [represents.index, UInt64.toNat_ofNat_of_lt'
      (by simp only [UInt64.size]; omega)] at index
    omega

/-- A listener that is created, started on socket 5 and destroyed: its socket is
the only key while it listens, and its handle is refused afterwards. -/
theorem representation_invariant_destroyed :
    ∃ middle removed : NetworkManagerCore ListenerQueues,
      (∀ socket, socket ∈ middle.socketClientsMap ↔
        socket ≠ hSteamListenSocketInvalid ∧ ∃ listener info,
          middle.listeners.lookup listener = some info ∧ info.socket = socket) ∧
      middle.destroyListener 1 = .ok (.ok (), removed) ∧
      ∀ operation : CoreOperation ListenerQueues, operation.target? = some 1 →
        ∃ outcome, operation.perform removed = .ok (outcome, removed) ∧
          outcome.errorCode? = some .eInvalidListener := by
  let created : NetworkManagerCore ListenerQueues :=
    { listeners := emplace ∅ 1 { listener := {} }, listenerHandlerIndex := 2 }
  let listening := (created.startListening 1 80 (.ok ⟨5, 6⟩) (.ok ())).2
  have createRun : (coreSystem ListenerQueues).StepsWhere SteamFresh (.ok {})
      [.createListener none] (.ok created) :=
    TransitionSystem.StepsWhere.single trivial rfl
  have fresh : SteamFresh (.ok created) (.startListening 1 80 (.ok ⟨5, 6⟩) (.ok ())) :=
    ⟨by decide, AList.lookup_eq_none.mp rfl⟩
  have run := createRun.tail fresh (show _ = some (.ok listening) from rfl)
  exact ⟨listening, _,
    (((representation_invariant ListenerQueues).1 _ _ (by decide) run).2 _ rfl).1, rfl,
    ((representation_invariant ListenerQueues).2 _ [] _ _ _ 1 (by decide) run rfl .refl).1⟩

/-- After `created` creations nothing but the handles has been built up. -/
theorem replicate_createListener_steps (created : Nat) (few : created < 2 ^ 64) :
    ∃ core : NetworkManagerCore ListenerQueues,
      (coreSystem ListenerQueues).StepsWhere SteamFresh (.ok {})
        (List.replicate created (.createListener none)) (.ok core) ∧
      Represents created core ∧ (0 < created → 1 ∈ core.listeners) := by
  induction created with
  | zero => exact ⟨{}, .refl, Represents.initial, nofun⟩
  | succ created ih =>
      obtain ⟨core, run, represents, first⟩ := ih (by omega)
      obtain ⟨next, creates, nextRepresents, handles⟩ :=
        represents.createListener few none
      refine ⟨next, ?_, nextRepresents, fun _ => (handles 1).mpr ?_⟩
      · rw [List.replicate_succ']
        refine run.tail trivial ?_
        simp only [coreSystem, CoreOperation.perform, creates]
        rfl
      · rcases Nat.eq_zero_or_pos created with rfl | positive
        · exact Or.inl represents.index.symm
        · exact Or.inr (first positive)

/-- After 2^64 - 1 creations the counter has wrapped to zero, below the handles
that are in use. -/
theorem representation_invariant_fails_at_wrap :
    ∃ (operations : List (CoreOperation ListenerQueues)) (core : _),
      creations operations < 2 ^ 64 ∧
      (coreSystem ListenerQueues).StepsWhere SteamFresh (.ok {}) operations (.ok core) ∧
      ∃ listener ∈ core.listeners, ¬ listener < core.listenerHandlerIndex := by
  obtain ⟨core, run, represents, first⟩ :=
    replicate_createListener_steps (2 ^ 64 - 1) (by decide)
  refine ⟨_, core, ?_, run, 1, first (by decide), ?_⟩
  · rw [creations, List.countP_replicate]
    simp [CoreOperation.isCreate]
  · rw [represents.index]
    decide

end HttpServer
