import HttpServer.ManagerWorld

/-!
# One listener inside the manager

Whatever the manager, its clients and the listeners' threads do, one entry of
`m_Listeners` only ever makes the steps of its own system, and the call on its
listener object fits the operation in progress.  What is proved of all runs of
one entry therefore holds of every entry in every run of the manager.
-/

namespace HttpServer

open UnorderedMap

namespace NetworkManagerCore

variable {Listener : Type} {core : NetworkManagerCore Listener}
  {listener other : HListener}

theorem lookup_updateListener {update : ListenerInfo Listener → ListenerInfo Listener} :
    (core.updateListener listener update).listeners.lookup other =
      if other = listener then (core.listeners.lookup listener).map update
      else core.listeners.lookup other :=
  lookup_modify

theorem lookup_adoptSocket {handlers : SocketHandlers} :
    (core.adoptSocket listener handlers).listeners.lookup other =
      if other = listener then
        (core.listeners.lookup listener).map fun info => { info with socket := handlers.socket }
      else core.listeners.lookup other :=
  lookup_modify

theorem lookup_dropSocket {socket : HSteamListenSocket} {socketInfo : SocketInfo} :
    (core.dropSocket listener socket socketInfo).listeners.lookup other =
      if other = listener then
        (core.listeners.lookup listener).map fun info =>
          { info with socket := hSteamListenSocketInvalid }
      else core.listeners.lookup other :=
  lookup_modify

@[simp]
theorem listeners_record (call : CoreCall) :
    (core.record call).listeners = core.listeners := rfl

theorem lookup_callListener {call : Listener → Listener} :
    (core.callListener listener call).listeners.lookup other =
      if other = listener then
        (core.listeners.lookup listener).map fun info =>
          info.setListener (call info.listener)
      else core.listeners.lookup other :=
  lookup_modify

/-- `push_OutgoingMessageQueue` accepts a response exactly when the listener has a
socket stored and the connection is in its table. -/
theorem pushOutgoing_eq_ok [IListener Listener] {next : NetworkManagerCore Listener}
    {message : Request} :
    core.pushOutgoingMessageQueue listener message = .ok (.ok (), next) ↔
      ∃ info, core.listeners.lookup listener = some info ∧
        info.socket ≠ hSteamListenSocketInvalid ∧
        core.InTable info.socket message.connection ∧
        next = (core.updateListener listener fun info =>
          { info with listener := IListener.pushOutgoing info.listener message }).record
            (.getOutgoingQueue listener) := by
  unfold pushOutgoingMessageQueue isValidListenerHandler
  cases found : core.listeners.lookup listener with
  | none => simp
  | some info =>
      dsimp only
      by_cases unbound : info.socket = hSteamListenSocketInvalid
      · simp [unbound]
      rw [if_neg unbound]
      cases table : core.socketClientsMap.lookup info.socket with
      | none => simp [InTable, tableOf, table]
      | some socketInfo =>
          dsimp only
          have connected : core.InTable info.socket message.connection ↔
              socketInfo.allConnections.any (isConnection message.connection) = true := by
            rw [any_isConnection]
            exact inTable_iff_of_eq_some (by simp [tableOf, table])
          by_cases present :
              socketInfo.allConnections.any (isConnection message.connection) = true
          · rw [if_pos present]
            constructor
            · intro accepts
              cases accepts
              exact ⟨info, rfl, unbound, connected.mpr present, rfl⟩
            · rintro ⟨_, _, _, _, rfl⟩
              rfl
          · rw [if_neg present]
            simp [connected, present]

theorem listeners_connectionServed {next : NetworkManagerCore Listener}
    {socket : HSteamListenSocket} {connection : HSteamNetConnection}
    (serves : core.connectionServed socket connection = .ok next) :
    next.listeners = core.listeners := by
  obtain ⟨_, _, _, rfl⟩ := connectionServed_eq_ok.mp serves
  rfl

theorem listeners_callbackManager {next : NetworkManagerCore Listener}
    {info : SteamNetConnectionStatusChangedCallback} {accepted : EResult} {grouped : Bool}
    (delivers : core.callbackManager info accepted grouped = .ok next) :
    next.listeners = core.listeners := by
  rcases callbackManager_cases delivers with rfl | ⟨_, connects⟩ | ⟨_, disconnects⟩
  · rfl
  · cases connectingStep_of_connecting connects <;> rfl
  · obtain ⟨_, _, _, _, rfl⟩ := disconnected_eq_ok.mp disconnects
    rfl

end NetworkManagerCore

open NetworkManagerCore

namespace ListenerCall

/-- A call that `startListening` of the manager makes, or its result. -/
def isStart : ListenerCall → Bool
  | initTest _ | initGuard _ | createSocket _ | createPollGroup | closeSocket
  | resetSocket | initReturn | initReturned _ | startTest | startSet
  | startReturned _ => true
  | _ => false

def isStop : ListenerCall → Bool
  | stopSet | stopReturned => true
  | _ => false

/-- A call that `DestroyListener` makes, or its result. -/
def isDestroy : ListenerCall → Bool
  | dtorFlag | dtorNotify | dtorJoin | destroyed => true
  | call => call.isStop

end ListenerCall

namespace NetThread

/-- What the network thread makes of the call on a listener. -/
def Fits (net : NetThread) (listener : HListener) (call : ListenerCall) : Prop :=
  match net with
  | starting other => (if listener = other then call.isStart else call.isIdle) = true
  | stopping other => (if listener = other then call.isStop else call.isIdle) = true
  | destroying other => (if listener = other then call.isDestroy else call.isIdle) = true
  | idle | returned _ => call.isIdle = true

variable {net : NetThread} {listener : HListener} {call : ListenerCall}

/-- No call is made on a listener on which no operation is in progress. -/
theorem fits_of_ne (notOn : net.listener? ≠ some listener) :
    net.Fits listener call ↔ call.isIdle = true := by
  cases net with
  | idle => exact Iff.rfl
  | returned outcome => exact Iff.rfl
  | starting other | stopping other | destroying other =>
      have different : listener ≠ other := by
        rintro rfl
        exact notOn rfl
      simp [Fits, different]

end NetThread

namespace Listener

variable {listener next : Listener} {handle : UInt32}

/-- A statement of a call stays in the operation that makes the call. -/
theorem callStep_family (steps : listener.callStep handle = some next) :
    (listener.call.isStart = true → next.call.isStart = true) ∧
      (listener.call.isStop = true → next.call.isStop = true) ∧
      (listener.call.isDestroy = true → next.call.isDestroy = true) := by
  cases callStep_of_callStep steps <;>
    simp [*, callGoTo, ListenerCall.isStart, ListenerCall.isStop, ListenerCall.isDestroy]

theorem callStep_fits {net : NetThread} {other : HListener}
    (steps : listener.callStep handle = some next) (fits : net.Fits other listener.call)
    (target : net.listener? = some other) : net.Fits other next.call := by
  obtain ⟨starts, stops, destroys⟩ := callStep_family steps
  cases net with
  | idle => cases target
  | returned outcome => cases target
  | starting listener =>
      obtain rfl := Option.some.inj target
      simp only [NetThread.Fits, if_true] at fits ⊢
      exact starts fits
  | stopping listener =>
      obtain rfl := Option.some.inj target
      simp only [NetThread.Fits, if_true] at fits ⊢
      exact stops fits
  | destroying listener =>
      obtain rfl := Option.some.inj target
      simp only [NetThread.Fits, if_true] at fits ⊢
      exact destroys fits

end Listener

namespace ManagerWorld

/-- Every listener is in a call of the operation in progress, or in none. -/
def CallsFit (world : ManagerWorld) : Prop :=
  ∀ listener info, world.core.listeners.lookup listener = some info →
    world.net.Fits listener info.listener.call

/-- The step of the network thread's function on an entry, if it makes one. -/
def callAction (world : ManagerWorld) : FunctionCall → Option (HListener × EntryAction)
  | .createListener _ | .connectionServed _ _ _ => none
  | .destroyListener listener =>
      if world.core.socketOf listener = some hSteamListenSocketInvalid then
        some (listener, .beginDestroy)
      else some (listener, .beginStop)
  | .startListening listener port => some (listener, .beginStart port)
  | .stopListening listener => some (listener, .beginStop)
  | .tryPopReceivedMessageQueue listener => some (listener, .popReceived)
  | .pushOutgoingMessageQueue listener message =>
      match world.core.pushOutgoingMessageQueue listener message with
      | .ok (.ok (), _) => some (listener, .push message (world.accepted + 1))
      | _ => none
  | .tryPopErrorQueue listener => some (listener, .popError)

/-- What the network thread does to the entry when it goes on after a call. -/
def resumeAction : NetThread → ListenerCall → Option EntryAction
  | .starting _, .initReturned (.error _) => some .initFailed
  | .starting _, .initReturned (.ok _) => some .adopt
  | .starting _, .startReturned _ => some .startReturned
  | .stopping _, .stopReturned => some .stopReturned
  | .destroying _, .stopReturned => some .beginDestroy
  | _, _ => none

/-- The entry an action is about, and its step there. -/
def entryAction (world : ManagerWorld) : ManagerAction → Option (HListener × EntryAction)
  | .request _ | .runCallback _ _ _ => none
  | .pollFunctionCall => world.functionCalls.head?.bind world.callAction
  | .listenerCall handle => world.net.listener?.map fun listener => (listener, .callStep handle)
  | .proceed =>
      world.net.listener?.bind fun listener =>
        (world.core.listeners.lookup listener).bind fun info =>
          (resumeAction world.net info.listener.call).map fun move => (listener, move)
  | .run listener received => some (listener, .run received)
  | .wake listener => some (listener, .wake)

/-- How the entries of `next` come from those of `world` by the step `acted`:
each is new, unchanged, or makes that step, the calls on them fit, and only an
entry on which an operation was in progress may be gone. -/
structure EntriesStep (world next : ManagerWorld)
    (acted : Option (HListener × EntryAction)) : Prop where
  entry : ∀ listener info, next.core.listeners.lookup listener = some info →
    next.net.Fits listener info.listener.call ∧
    (entrySystem.Initial info ∧ world.core.listeners.lookup listener = none ∨ ∃ before,
      world.core.listeners.lookup listener = some before ∧
      (info = before ∨ ∃ move, acted = some (listener, move) ∧
        entryStep before move = some info))
  kept : ∀ listener info, world.core.listeners.lookup listener = some info →
    world.net.listener? ≠ some listener →
    ∃ changed, next.core.listeners.lookup listener = some changed

namespace EntriesStep

variable {world next : ManagerWorld} {acted : Option (HListener × EntryAction)}

/-- Only the core and the operation in progress matter. -/
theorem congr {otherWorld otherNext : ManagerWorld} (step : EntriesStep world next acted)
    (worldCore : otherWorld.core = world.core) (worldNet : otherWorld.net = world.net)
    (nextCore : otherNext.core = next.core) (nextNet : otherNext.net = next.net) :
    EntriesStep otherWorld otherNext acted := by
  constructor
  · rw [worldCore, nextCore, nextNet]
    exact step.entry
  · rw [worldCore, worldNet, nextCore]
    exact step.kept

/-- An operation that leaves the entries alone and is not in progress on any of
them. -/
theorem unchanged (fits : world.CallsFit)
    (same : next.core.listeners = world.core.listeners)
    (worldNet : world.net.listener? = none) (nextNet : next.net.listener? = none) :
    EntriesStep world next acted := by
  constructor
  · intro listener info found
    rw [same] at found
    constructor
    · have idle := (NetThread.fits_of_ne (by rw [worldNet]; exact nofun)).mp
        (fits listener info found)
      exact (NetThread.fits_of_ne (by rw [nextNet]; exact nofun)).mpr idle
    · exact Or.inr ⟨info, found, Or.inl rfl⟩
  · intro listener info found _
    exact ⟨info, by rw [same, found]⟩

/-- A step of one entry, the others being left alone. -/
theorem moved {listener : HListener} {move : EntryAction}
    {info piece : ListenerInfo Listener} (fits : world.CallsFit)
    (worldNet : ∀ other, world.net.listener? = some other → other = listener)
    (nextNet : ∀ other, next.net.listener? = some other → other = listener)
    (found : world.core.listeners.lookup listener = some info)
    (lookups : ∀ other, next.core.listeners.lookup other =
      if other = listener then some piece else world.core.listeners.lookup other)
    (moves : entryStep info move = some piece)
    (nextFits : next.net.Fits listener piece.listener.call) :
    EntriesStep world next (some (listener, move)) := by
  constructor
  · intro other changed foundNext
    rw [lookups] at foundNext
    split at foundNext
    next same =>
      subst other
      obtain rfl := Option.some.inj foundNext
      exact ⟨nextFits, Or.inr ⟨info, found, Or.inr ⟨move, rfl, moves⟩⟩⟩
    next different =>
      constructor
      · have idle := (NetThread.fits_of_ne fun on => different (worldNet other on)).mp
          (fits other changed foundNext)
        exact (NetThread.fits_of_ne fun on => different (nextNet other on)).mpr idle
      · exact Or.inr ⟨changed, foundNext, Or.inl rfl⟩
  · intro other before foundBefore _
    rw [lookups]
    split
    · exact ⟨piece, rfl⟩
    · exact ⟨before, foundBefore⟩

/-- A step of a listener's thread, which makes no call. -/
theorem ran {listener : HListener} {move : EntryAction}
    {info : ListenerInfo Listener} {object : Listener} (fits : world.CallsFit)
    (sameNet : next.net = world.net)
    (found : world.core.listeners.lookup listener = some info)
    (sameCall : object.call = info.listener.call)
    (sameCore : next.core = world.core.callListener listener fun _ => object)
    (moves : entryStep info move = some (info.setListener object)) :
    EntriesStep world next (some (listener, move)) := by
  have lookups (other : HListener) : next.core.listeners.lookup other =
      if other = listener then some (info.setListener object)
      else world.core.listeners.lookup other := by
    rw [sameCore, lookup_callListener, found]
    rfl
  constructor
  · intro other changed foundNext
    rw [sameNet]
    rw [lookups] at foundNext
    split at foundNext
    next same =>
      subst other
      obtain rfl := Option.some.inj foundNext
      constructor
      · change world.net.Fits _ object.call
        rw [sameCall]
        exact fits _ info found
      · exact Or.inr ⟨info, found, Or.inr ⟨move, rfl, moves⟩⟩
    next different =>
      exact ⟨fits other changed foundNext, Or.inr ⟨changed, foundNext, Or.inl rfl⟩⟩
  · intro other before foundBefore _
    rw [lookups]
    split
    · exact ⟨_, rfl⟩
    · exact ⟨before, foundBefore⟩

end EntriesStep

/-- `push_OutgoingMessageQueue` is refused and changes nothing, or accepts the
response and queues it under the next mark. -/
theorem pushOutgoing_cases {world next : ManagerWorld} {listener : HListener}
    {message : Request} (steps : world.pushOutgoing listener message = some next) :
    (world.callAction (.pushOutgoingMessageQueue listener message) = none ∧
        ∃ err, next = world.returns (.done (.error err))) ∨
      ∃ info core, world.core.listeners.lookup listener = some info ∧
        info.socket ≠ hSteamListenSocketInvalid ∧
        world.core.InTable info.socket message.connection ∧
        world.callAction (.pushOutgoingMessageQueue listener message) =
          some (listener, .push message (world.accepted + 1)) ∧
        next = { world.returns (.done (.ok ())) with
          core
          accepted := world.accepted + 1
          standing := world.standing ++
            [⟨world.accepted + 1, info.socket, message.connection⟩] } ∧
        core.socketClientsMap = world.core.socketClientsMap ∧
        ∀ other, core.listeners.lookup other =
          if other = listener then
            some (info.setListener (IListener.pushOutgoing
              { info.listener with mark := world.accepted + 1 } message))
          else world.core.listeners.lookup other := by
  unfold pushOutgoing at steps
  dsimp only at steps
  split at steps
  · cases steps
  next err core refuses =>
    refine Or.inl ⟨?_, err, (Option.some.inj steps).symm⟩
    dsimp only [callAction]
    split
    next accepts =>
      obtain ⟨info, found, bound, connected, _⟩ := pushOutgoing_eq_ok.mp accepts
      have foundMarked : (world.core.callListener listener fun object =>
          { object with mark := world.accepted + 1 }).listeners.lookup listener =
          some (info.setListener { info.listener with mark := world.accepted + 1 }) :=
        lookup_callListener.trans (by rw [if_pos rfl, found]; rfl)
      have accepts := pushOutgoing_eq_ok.mpr ⟨_, foundMarked, bound, connected, rfl⟩
      cases refuses.symm.trans accepts
    · rfl
  next core accepts =>
    obtain ⟨changed, foundChanged, bound, connected, rfl⟩ := pushOutgoing_eq_ok.mp accepts
    rw [lookup_callListener, if_pos rfl] at foundChanged
    obtain ⟨info, found, rfl⟩ := Option.map_eq_some_iff.mp foundChanged
    have acts : world.callAction (.pushOutgoingMessageQueue listener message) =
        some (listener, .push message (world.accepted + 1)) := by
      rw [callAction, pushOutgoing_eq_ok.mpr ⟨info, found, bound, connected, rfl⟩]
    have stored : world.core.socketOf listener = some info.socket := by
      simp [socketOf, found]
    rw [stored] at steps
    refine Or.inr ⟨info, _, found, bound, connected, acts, (Option.some.inj steps).symm,
      rfl, ?_⟩
    intro other
    rw [listeners_record, lookup_updateListener, lookup_callListener, lookup_callListener,
      if_pos rfl, found]
    split
    · rfl
    · rfl

/-- Everything that the network thread can do when it takes up a function. -/
inductive BeginStep (world : ManagerWorld) : FunctionCall → ManagerWorld → Prop where
  | creates {name : Option CString} {handler : HListener} {core : NetworkManagerCore Listener}
      (creates : world.core.createListener name = .ok (handler, core)) :
      BeginStep world (.createListener name) { world.returns (.handle handler) with core }
  /-- The function on the listener returns an error and does nothing. -/
  | refused {call : FunctionCall} {listener : HListener} {err : ErrorValue}
      (target : call.target? = some listener)
      (noStop : ∀ listener info, world.callAction call = some (listener, .beginStop) →
        world.core.listeners.lookup listener = some info →
        info.socket = hSteamListenSocketInvalid)
      (noPush : ∀ listener request mark,
        world.callAction call ≠ some (listener, .push request mark)) :
      BeginStep world call (world.returns (.done (.error err)))
  | starts {listener : HListener} {port : UInt16} {info : ListenerInfo Listener}
      (found : world.core.listeners.lookup listener = some info)
      (unbound : info.socket = hSteamListenSocketInvalid) :
      BeginStep world (.startListening listener port)
        { world with
          core := (world.core.record (.initSocket listener port)).callListener listener
            fun object => object.callGoTo (.initTest port)
          net := .starting listener }
  /-- The first half of a stop, which `DestroyListener` makes as well. -/
  | drops {call : FunctionCall} {listener : HListener} {info : ListenerInfo Listener}
      {socketInfo : SocketInfo} {net : NetThread}
      (acts : world.callAction call = some (listener, .beginStop))
      (found : world.core.listeners.lookup listener = some info)
      (bound : info.socket ≠ hSteamListenSocketInvalid)
      (nextNet : net = .stopping listener ∨ net = .destroying listener) :
      BeginStep world call { world.dropSocket listener info.socket socketInfo with net := net }
  | destructs {listener : HListener} {info : ListenerInfo Listener}
      (acts : world.callAction (.destroyListener listener) = some (listener, .beginDestroy))
      (found : world.core.listeners.lookup listener = some info)
      (unbound : info.socket = hSteamListenSocketInvalid) :
      BeginStep world (.destroyListener listener) (world.beginDestructor listener)
  | popsReceived {listener : HListener} :
      BeginStep world (.tryPopReceivedMessageQueue listener)
        { world.returns (.message (world.core.tryPopReceivedMessageQueue listener).1) with
          core := (world.core.tryPopReceivedMessageQueue listener).2 }
  | pushes {listener : HListener} {message : Request} {info : ListenerInfo Listener}
      {core : NetworkManagerCore Listener}
      (acts : world.callAction (.pushOutgoingMessageQueue listener message) =
        some (listener, .push message (world.accepted + 1)))
      (found : world.core.listeners.lookup listener = some info)
      (bound : info.socket ≠ hSteamListenSocketInvalid)
      (connected : world.core.InTable info.socket message.connection)
      (tables : core.socketClientsMap = world.core.socketClientsMap)
      (lookups : ∀ other, core.listeners.lookup other =
        if other = listener then
          some (info.setListener (IListener.pushOutgoing
            { info.listener with mark := world.accepted + 1 } message))
        else world.core.listeners.lookup other) :
      BeginStep world (.pushOutgoingMessageQueue listener message)
        { world.returns (.done (.ok ())) with
          core
          accepted := world.accepted + 1
          standing := world.standing ++
            [⟨world.accepted + 1, info.socket, message.connection⟩] }
  | popsError {listener : HListener} :
      BeginStep world (.tryPopErrorQueue listener)
        { world.returns (.error (world.core.tryPopErrorQueue listener).1) with
          core := (world.core.tryPopErrorQueue listener).2 }
  | serves {socket : HSteamListenSocket} {connection : HSteamNetConnection} {mark : Nat}
      {core : NetworkManagerCore Listener}
      (serves : world.core.connectionServed socket connection = .ok core) :
      BeginStep world (.connectionServed socket connection mark)
        { world.returns .nothing with core }

/-- Everything that the network thread can do after a call on its listener. -/
inductive ProceedStep (world : ManagerWorld) (listener : HListener) :
    ListenerCall → ManagerWorld → Prop where
  | initFails {other : HListener} {err : ErrorValue} (net : world.net = .starting other) :
      ProceedStep world listener (.initReturned (.error err))
        (world.finish listener (.error err))
  | adopts {other : HListener} {handlers : SocketHandlers} (net : world.net = .starting other) :
      ProceedStep world listener (.initReturned (.ok handlers))
        { world with
          core := ((world.core.adoptSocket listener handlers).record
            (.startListening listener)).callListener listener fun object =>
              { object.callGoTo .startTest with session := object.session + 1 } }
  | startFails {other : HListener} {err : ErrorValue} (net : world.net = .starting other) :
      ProceedStep world listener (.startReturned (.error err))
        (world.finish listener (.error (makeError err.errorCode err.message)))
  | started {other : HListener} (net : world.net = .starting other) :
      ProceedStep world listener (.startReturned (.ok ())) (world.finish listener (.ok ()))
  | stopped {other : HListener} (net : world.net = .stopping other) :
      ProceedStep world listener .stopReturned
        { world.finish listener (.ok ()) with
          stopped := Function.update world.stopped listener true }
  | destructs {other : HListener} (net : world.net = .destroying other) :
      ProceedStep world listener .stopReturned (world.beginDestructor listener)
  | erases {other : HListener} (net : world.net = .destroying other) :
      ProceedStep world listener .destroyed
        { world.returns (.done (.ok ())) with
          core := { world.core with listeners := world.core.listeners.erase listener } }

/-- The network thread has taken the function off the queue, and a stop of its listener
is no longer told. -/
def takeUp (world : ManagerWorld) (call : FunctionCall) (rest : ThreadSaveQueue FunctionCall) :
    ManagerWorld :=
  { world with
    functionCalls := rest
    stopped := match call.target? with
      | some listener => Function.update world.stopped listener false
      | none => world.stopped }

/-- Everything that a step of the manager can do. -/
inductive Step (world : ManagerWorld) : ManagerAction → ManagerWorld → Prop where
  | request {call : FunctionCall} (isRequest : call.isConnectionServed = false) :
      Step world (.request call)
        { world with functionCalls := ThreadSaveQueue.push world.functionCalls call }
  | pollFunctionCall {call : FunctionCall} {rest : ThreadSaveQueue FunctionCall}
      {next : ManagerWorld} (net : world.net = .idle)
      (calls : world.functionCalls = call :: rest)
      (begins : BeginStep (world.takeUp call rest) call next) :
      Step world .pollFunctionCall next
  | listenerCall {listener : HListener} {info : ListenerInfo Listener} {handle : UInt32}
      {object : Listener} (target : world.net.listener? = some listener)
      (found : world.core.listeners.lookup listener = some info)
      (calls : info.listener.callStep handle = some object) :
      Step world (.listenerCall handle)
        { world with core := world.core.callListener listener fun _ => object }
  | returns {outcome : Outcome} (net : world.net = .returned outcome) :
      Step world .proceed { world with net := .idle }
  | proceed {listener : HListener} {info : ListenerInfo Listener} {next : ManagerWorld}
      (target : world.net.listener? = some listener)
      (found : world.core.listeners.lookup listener = some info)
      (proceeds : ProceedStep world listener info.listener.call next) :
      Step world .proceed next
  | runCallback {info : SteamNetConnectionStatusChangedCallback} {accepted : EResult}
      {grouped : Bool} {core : NetworkManagerCore Listener} (net : world.net = .idle)
      (delivers : world.core.callbackManager info accepted grouped = .ok core) :
      Step world (.runCallback info accepted grouped)
        { world with
          core
          standing := world.standing.filter fun response =>
            !(match info.state with
              | .problemDetectedLocally | .closedByPeer => true
              | _ => false) || response.socket ≠ info.listenSocket ||
              response.connection ≠ info.hConn }
  | run {listener : HListener} {received : ReceivedMessages} {info : ListenerInfo Listener}
      {object : Listener} (found : world.core.listeners.lookup listener = some info)
      (runs : info.listener.run received = some object) :
      Step world (.run listener received)
        { world with
          core := world.core.callListener listener fun _ => object
          functionCalls := match info.listener.thread with
            | .served message =>
                ThreadSaveQueue.push world.functionCalls
                  (.connectionServed info.listener.core.socket message.request.connection
                    message.mark)
            | _ => world.functionCalls }
  | wake {listener : HListener} {info : ListenerInfo Listener} {object : Listener}
      (found : world.core.listeners.lookup listener = some info)
      (wakes : info.listener.wake = some object) :
      Step world (.wake listener)
        { world with core := world.core.callListener listener fun _ => object }

section Inversion

variable {world next : ManagerWorld} {listener : HListener}

theorem beginStep_of_beginStart {port : UInt16} :
    BeginStep world (.startListening listener port) (world.beginStart listener port) := by
  have refused (err : ErrorValue) :
      BeginStep world (.startListening listener port) (world.returns (.done (.error err))) :=
    .refused rfl (fun _ _ acts => by cases acts) fun _ _ _ acts => by cases acts
  unfold beginStart
  split
  · exact refused _
  next info valid =>
    split
    · exact refused _
    next unbound => exact .starts (isValidListenerHandler_eq_ok.mp valid) (not_not.mp unbound)

theorem beginStep_of_beginStop (steps : world.beginStop listener = some next) :
    BeginStep world (.stopListening listener) next := by
  unfold beginStop at steps
  split at steps
  next err invalid =>
    obtain rfl := Option.some.inj steps
    refine .refused rfl ?_ fun _ _ _ acts => by cases acts
    rintro _ info ⟨⟩ found
    cases (lookup_of_invalid invalid).symm.trans found
  next info valid =>
    rw [isValidListenerHandler_eq_ok] at valid
    split at steps
    next unbound =>
      obtain rfl := Option.some.inj steps
      refine .refused rfl ?_ fun _ _ _ acts => by cases acts
      rintro _ foundInfo ⟨⟩ found
      obtain rfl := Option.some.inj (valid.symm.trans found)
      exact unbound
    next bound =>
      obtain ⟨socketInfo, _, rfl⟩ := Option.map_eq_some_iff.mp steps
      exact .drops rfl valid bound (Or.inl rfl)

theorem beginStep_of_beginDestroy (steps : world.beginDestroy listener = some next) :
    BeginStep world (.destroyListener listener) next := by
  unfold beginDestroy at steps
  split at steps
  next err invalid =>
    obtain rfl := Option.some.inj steps
    have unknown := lookup_of_invalid invalid
    have acts : world.callAction (.destroyListener listener) = some (listener, .beginStop) := by
      simp [callAction, socketOf, unknown]
    refine .refused rfl ?_ ?_
    · intro other info acted found
      cases acts.symm.trans acted
      cases unknown.symm.trans found
    · intro other request mark acted
      cases acts.symm.trans acted
  next info valid =>
    rw [isValidListenerHandler_eq_ok] at valid
    split at steps
    next unbound =>
      obtain rfl := Option.some.inj steps
      exact .destructs (by simp [callAction, socketOf, valid, unbound]) valid unbound
    next bound =>
      obtain ⟨socketInfo, _, rfl⟩ := Option.map_eq_some_iff.mp steps
      exact .drops (by simp [callAction, socketOf, valid, bound]) valid bound (Or.inr rfl)

theorem beginStep_of_begin {call : FunctionCall} (steps : world.begin call = some next) :
    BeginStep world call next := by
  cases call with
  | createListener name =>
      dsimp only [begin] at steps
      split at steps
      · cases steps
      next handler core creates =>
        obtain rfl := Option.some.inj steps
        exact .creates creates
  | destroyListener listener => exact beginStep_of_beginDestroy steps
  | startListening listener port =>
      obtain rfl := Option.some.inj steps
      exact beginStep_of_beginStart
  | stopListening listener => exact beginStep_of_beginStop steps
  | tryPopReceivedMessageQueue listener =>
      obtain rfl := Option.some.inj steps
      exact .popsReceived
  | pushOutgoingMessageQueue listener message =>
      rcases pushOutgoing_cases steps with
        ⟨refused, err, rfl⟩ | ⟨info, core, found, bound, connected, acts, rfl, tables, lookups⟩
      · refine .refused rfl ?_ ?_
        · intro other info acts
          cases refused.symm.trans acts
        · intro other request mark acts
          cases refused.symm.trans acts
      · exact .pushes acts found bound connected tables lookups
  | tryPopErrorQueue listener =>
      obtain rfl := Option.some.inj steps
      exact .popsError
  | connectionServed socket connection mark =>
      dsimp only [begin] at steps
      split at steps
      · cases steps
      next core serves =>
        obtain rfl := Option.some.inj steps
        exact .serves serves

theorem proceedStep_of_proceedWith {call : ListenerCall}
    (steps : world.proceedWith listener call = some next) :
    ProceedStep world listener call next := by
  unfold proceedWith at steps
  split at steps
  next net => exact Option.some.inj steps ▸ .initFails net
  next net => exact Option.some.inj steps ▸ .adopts net
  next net => exact Option.some.inj steps ▸ .startFails net
  next net => exact Option.some.inj steps ▸ .started net
  next net => exact Option.some.inj steps ▸ .stopped net
  next net => exact Option.some.inj steps ▸ .destructs net
  next net => exact Option.some.inj steps ▸ .erases net
  next => cases steps

theorem step_of_step {action : ManagerAction}
    (steps : managerSystem.step world action = some next) : Step world action next := by
  cases action with
  | request call =>
      dsimp only [managerSystem] at steps
      split at steps
      · cases steps
      next isRequest =>
        obtain rfl := Option.some.inj steps
        exact .request (eq_false_of_ne_true isRequest)
  | pollFunctionCall =>
      dsimp only [managerSystem, ManagerWorld.pollFunctionCall] at steps
      split at steps
      next call rest net calls => exact .pollFunctionCall net calls (beginStep_of_begin steps)
      · cases steps
  | listenerCall handle =>
      obtain ⟨listener, target, rest⟩ := Option.bind_eq_some_iff.mp steps
      obtain ⟨info, found, rest⟩ := Option.bind_eq_some_iff.mp rest
      obtain ⟨object, calls, rfl⟩ := Option.map_eq_some_iff.mp rest
      exact .listenerCall target found calls
  | proceed =>
      dsimp only [managerSystem, ManagerWorld.proceed] at steps
      split at steps
      next net =>
        obtain rfl := Option.some.inj steps
        exact .returns net
      next =>
        obtain ⟨listener, target, rest⟩ := Option.bind_eq_some_iff.mp steps
        obtain ⟨info, found, proceeds⟩ := Option.bind_eq_some_iff.mp rest
        exact .proceed target found (proceedStep_of_proceedWith proceeds)
  | runCallback info accepted grouped =>
      dsimp only [managerSystem, ManagerWorld.runCallback] at steps
      split at steps
      next net delivers =>
        obtain rfl := Option.some.inj steps
        exact .runCallback net delivers
      · cases steps
  | run listener received =>
      obtain ⟨info, found, rest⟩ := Option.bind_eq_some_iff.mp steps
      obtain ⟨object, runs, rfl⟩ := Option.map_eq_some_iff.mp rest
      exact .run found runs
  | wake listener =>
      obtain ⟨info, found, rest⟩ := Option.bind_eq_some_iff.mp steps
      obtain ⟨object, wakes, rfl⟩ := Option.map_eq_some_iff.mp rest
      exact .wake found wakes

end Inversion

section Begin

variable {world next : ManagerWorld} {acted : Option (HListener × EntryAction)}
  (fits : world.CallsFit) (free : world.net.listener? = none)
include fits free

theorem isIdle_of_free {listener : HListener} {info : ListenerInfo Listener}
    (found : world.core.listeners.lookup listener = some info) :
    info.listener.call.isIdle = true :=
  (NetThread.fits_of_ne (by rw [free]; exact nofun)).mp (fits listener info found)

/-- The first half of `stopListening`, on the way to a stop or a destruction. -/
theorem entriesStep_dropSocket {listener : HListener} {info : ListenerInfo Listener}
    {net : NetThread} (socketInfo : SocketInfo)
    (found : world.core.listeners.lookup listener = some info)
    (bound : info.socket ≠ hSteamListenSocketInvalid)
    (nextNet : net = .stopping listener ∨ net = .destroying listener) :
    EntriesStep world
      { world.dropSocket listener info.socket socketInfo with net := net }
      (some (listener, .beginStop)) := by
  have idle := isIdle_of_free fits free found
  apply EntriesStep.moved fits (by simp [free]) ?_ found
  · intro other
    dsimp only [dropSocket]
    rw [lookup_callListener, listeners_record, lookup_dropSocket, if_pos rfl, found,
      lookup_dropSocket]
    split
    · rfl
    · rfl
  · exact if_pos ⟨bound, idle⟩
  · rcases nextNet with rfl | rfl
    · simp [NetThread.Fits, ListenerInfo.setListener, Listener.callGoTo, ListenerCall.isStop]
    · simp [NetThread.Fits, ListenerInfo.setListener, Listener.callGoTo,
        ListenerCall.isDestroy, ListenerCall.isStop]
  · rcases nextNet with rfl | rfl
    · simp [NetThread.listener?]
    · simp [NetThread.listener?]

theorem entriesStep_createListener {name : Option CString} {handler : HListener}
    {core : NetworkManagerCore Listener}
    (creates : world.core.createListener name = .ok (handler, core)) :
    EntriesStep world { world.returns (.handle handler) with core } acted := by
  have others := fits
  obtain ⟨unbound, _, rfl⟩ := NetworkManagerCore.createListener_eq_ok.mp creates
  constructor
  · intro listener info found
    rw [returns, lookup_emplace] at found
    split at found
    next added =>
      have starts : entrySystem.Initial info := by
        cases name with
        | none => exact Option.some.inj found ▸ ⟨rfl, rfl⟩
        | some name => exact Option.some.inj found ▸ ⟨rfl, rfl⟩
      refine ⟨?_, Or.inl ⟨starts, AList.lookup_eq_none.mpr (added.1 ▸ added.2)⟩⟩
      rw [starts.1]
      rfl
    next => exact ⟨isIdle_of_free fits free found, Or.inr ⟨info, found, Or.inl rfl⟩⟩
  · intro listener info found _
    rw [returns, lookup_emplace]
    split
    · exact ⟨_, rfl⟩
    · exact ⟨info, found⟩

theorem entriesStep_tryPopReceivedMessageQueue (listener : HListener) :
    EntriesStep world
      { world.returns (.message (world.core.tryPopReceivedMessageQueue listener).1) with
        core := (world.core.tryPopReceivedMessageQueue listener).2 }
      (some (listener, .popReceived)) := by
  unfold NetworkManagerCore.tryPopReceivedMessageQueue
  cases found : world.core.isValidListenerHandler listener with
  | error err => exact .unchanged fits rfl free rfl
  | ok info =>
      rw [isValidListenerHandler_eq_ok] at found
      have idle := isIdle_of_free fits free found
      apply EntriesStep.moved fits (by simp [free]) (by simp [returns, NetThread.listener?])
        found
      · intro other
        exact lookup_updateListener.trans (by rw [found]; rfl)
      · exact if_pos idle
      · exact idle

theorem entriesStep_tryPopErrorQueue (listener : HListener) :
    EntriesStep world
      { world.returns (.error (world.core.tryPopErrorQueue listener).1) with
        core := (world.core.tryPopErrorQueue listener).2 }
      (some (listener, .popError)) := by
  unfold NetworkManagerCore.tryPopErrorQueue
  cases found : world.core.isValidListenerHandler listener with
  | error err => exact .unchanged fits rfl free rfl
  | ok info =>
      rw [isValidListenerHandler_eq_ok] at found
      have idle := isIdle_of_free fits free found
      apply EntriesStep.moved fits (by simp [free]) (by simp [returns, NetThread.listener?])
        found
      · intro other
        exact lookup_updateListener.trans (by rw [found]; rfl)
      · exact if_pos idle
      · exact idle

theorem entriesStep_begin {call : FunctionCall} (begins : BeginStep world call next) :
    EntriesStep world next (world.callAction call) := by
  cases begins with
  | creates creates => exact entriesStep_createListener fits free creates
  | refused => exact .unchanged fits rfl free rfl
  | @starts listener port info found unbound =>
      have idle := isIdle_of_free fits free found
      apply EntriesStep.moved fits (by simp [free]) (by simp [NetThread.listener?]) found
      · intro other
        rw [lookup_callListener, listeners_record, found]
        rfl
      · exact if_pos ⟨unbound, idle⟩
      · simp [NetThread.Fits, ListenerInfo.setListener, Listener.callGoTo,
          ListenerCall.isStart]
  | drops acts found bound nextNet =>
      rw [acts]
      exact entriesStep_dropSocket fits free _ found bound nextNet
  | @destructs listener info acts found unbound =>
      have idle := isIdle_of_free fits free found
      rw [acts]
      apply EntriesStep.moved fits (by simp [free])
        (by simp [beginDestructor, NetThread.listener?]) found
      · intro other
        dsimp only [beginDestructor]
        rw [lookup_callListener, listeners_record, found]
        rfl
      · cases call : info.listener.call <;> rw [call] at idle <;> try cases idle
        simp only [entryStep, call]
        exact if_pos unbound
      · simp [beginDestructor, NetThread.Fits, ListenerInfo.setListener,
          Listener.callGoTo, ListenerCall.isDestroy]
  | @popsReceived listener => exact entriesStep_tryPopReceivedMessageQueue fits free listener
  | pushes acts found bound _ _ lookups =>
      have idle := isIdle_of_free fits free found
      rw [acts]
      exact EntriesStep.moved fits (by simp [free]) (by simp [returns, NetThread.listener?])
        found lookups (if_pos ⟨bound, idle⟩) idle
  | @popsError listener => exact entriesStep_tryPopErrorQueue fits free listener
  | serves serves => exact .unchanged fits (listeners_connectionServed serves) free rfl

end Begin

section Steps

variable {world next : ManagerWorld} (fits : world.CallsFit)
include fits

theorem entriesStep_finish {listener : HListener} {info : ListenerInfo Listener}
    {move : EntryAction}
    (onlyOn : ∀ other, world.net.listener? = some other → other = listener)
    (found : world.core.listeners.lookup listener = some info)
    (moves : entryStep info move =
      some (info.setListener (info.listener.callGoTo .idle))) (result : Result Unit) :
    EntriesStep world (world.finish listener result) (some (listener, move)) := by
  apply EntriesStep.moved fits onlyOn (by simp [finish, NetThread.listener?]) found
  · intro other
    exact lookup_callListener.trans (by rw [found]; rfl)
  · exact moves
  · rfl

theorem entriesStep_erase {listener : HListener} {outcome : Outcome}
    {acted : Option (HListener × EntryAction)} (on : world.net.listener? = some listener)
    (onlyOn : ∀ other, world.net.listener? = some other → other = listener) :
    EntriesStep world
      { world.returns outcome with
        core := { world.core with listeners := world.core.listeners.erase listener } }
      acted := by
  constructor
  · intro other info found
    dsimp only at found
    rw [lookup_erase_eq_ite] at found
    split at found
    · cases found
    next different =>
      constructor
      · exact (NetThread.fits_of_ne fun on => different (onlyOn other on)).mp
          (fits other info found)
      · exact Or.inr ⟨info, found, Or.inl rfl⟩
  · intro other info found notOn
    refine ⟨info, ?_⟩
    have different : other ≠ listener := by
      rintro rfl
      exact notOn on
    exact (AList.lookup_erase_ne different).trans found

theorem entriesStep_proceed {listener : HListener} {info : ListenerInfo Listener}
    {call : ListenerCall} (target : world.net.listener? = some listener)
    (found : world.core.listeners.lookup listener = some info)
    (called : info.listener.call = call) (proceeds : ProceedStep world listener call next) :
    EntriesStep world next
      ((resumeAction world.net call).map fun move => (listener, move)) := by
  have onlyOn : ∀ other, world.net.listener? = some other → other = listener := by
    intro other on
    exact Option.some.inj (on.symm.trans target)
  cases proceeds with
  | initFails net | startFails net | started net =>
      rw [net]
      exact entriesStep_finish fits onlyOn found (by simp only [entryStep, called]) _
  | @adopts other handlers net =>
      obtain rfl : other = listener := onlyOn other (by rw [net]; rfl)
      rw [net]
      apply EntriesStep.moved fits onlyOn (by simp [NetThread.listener?]) found
      · intro other
        dsimp only
        rw [lookup_callListener, listeners_record, lookup_adoptSocket, if_pos rfl, found,
          lookup_adoptSocket]
        split
        · rfl
        · rfl
      · simp only [entryStep, called]
        rfl
      · simp [NetThread.Fits, ListenerInfo.setListener, Listener.callGoTo,
          ListenerCall.isStart]
  | stopped net =>
      rw [net]
      have moves : entryStep info .stopReturned =
          some (info.setListener (info.listener.callGoTo .idle)) := by
        simp only [entryStep, called]
      have step := entriesStep_finish fits onlyOn found moves
      exact (step (.ok ())).congr rfl rfl rfl rfl
  | destructs net =>
      rw [net]
      apply EntriesStep.moved fits onlyOn (by simp [beginDestructor, NetThread.listener?]) found
      · intro other
        exact lookup_callListener.trans (by rw [listeners_record, found]; rfl)
      · simp only [entryStep, called]
      · simp [beginDestructor, NetThread.Fits, ListenerInfo.setListener, Listener.callGoTo,
          ListenerCall.isDestroy]
  | erases => exact entriesStep_erase fits target onlyOn

theorem entriesStep_wake {listener : HListener} {info : ListenerInfo Listener}
    {object : Listener} (found : world.core.listeners.lookup listener = some info)
    (wakes : info.listener.wake = some object) :
    EntriesStep world { world with core := world.core.callListener listener fun _ => object }
      (some (listener, .wake)) := by
  have moves : entryStep info .wake = some (info.setListener object) :=
    Option.map_eq_some_iff.mpr ⟨object, wakes, rfl⟩
  obtain ⟨_, rfl⟩ := Listener.wake_eq_some.mp wakes
  have sameCall : (info.listener.goTo .notified).call = info.listener.call := rfl
  exact .ran fits rfl found sameCall rfl moves

/-- What an action of the manager does to its entries. -/
theorem entriesStep {action : ManagerAction}
    (steps : managerSystem.step world action = some next) :
    EntriesStep world next (world.entryAction action) := by
  cases step_of_step steps with
  | request =>
      constructor
      · intro listener info found
        exact ⟨fits listener info found, Or.inr ⟨info, found, Or.inl rfl⟩⟩
      · intro listener info found _
        exact ⟨info, found⟩
  | @pollFunctionCall call rest _ net calls begins =>
      have free : world.net.listener? = none := by rw [net]; rfl
      rw [entryAction, calls]
      have fitsTaken : (world.takeUp call rest).CallsFit := fits
      exact (entriesStep_begin fitsTaken free begins).congr rfl rfl rfl rfl
  | @listenerCall listener info _ _ target found calls =>
      have onlyOn : ∀ other, world.net.listener? = some other → other = listener := by
        intro other on
        exact Option.some.inj (on.symm.trans target)
      rw [entryAction, target]
      apply EntriesStep.moved fits onlyOn ?_ found
      · intro other
        exact lookup_callListener.trans (by rw [found]; rfl)
      · exact Option.map_eq_some_iff.mpr ⟨_, calls, rfl⟩
      · exact Listener.callStep_fits calls (fits listener info found) target
      · exact onlyOn
  | returns net => exact .unchanged fits rfl (by rw [net]; rfl) rfl
  | proceed target found proceeds =>
      rw [entryAction, target, Option.bind_some, found, Option.bind_some]
      exact entriesStep_proceed fits target found rfl proceeds
  | runCallback net delivers =>
      have free : world.net.listener? = none := by rw [net]; rfl
      exact .unchanged fits (listeners_callbackManager delivers) free free
  | run found runs =>
      exact .ran fits rfl found (Listener.run_frame runs).1 rfl
        (Option.map_eq_some_iff.mpr ⟨_, runs, rfl⟩)
  | wake found wakes => exact entriesStep_wake fits found wakes

end Steps

end ManagerWorld

open ManagerWorld

variable {world : ManagerWorld}

theorem callsFit_of_reachable {condition : ManagerWorld → ManagerAction → Prop}
    (reaches : managerSystem.ReachableWhere condition world) : world.CallsFit := by
  refine reaches.invariant CallsFit ?_ ?_
  · intro world starts listener info found
    obtain rfl : world = {} := starts
    simp at found
  · intro world action next _ fits _ steps listener info found
    exact ((entriesStep fits steps).entry listener info found).1

/-- Each entry's step of the run meets the condition. -/
def everywhere (condition : ListenerInfo Listener → EntryAction → Bool)
    (world : ManagerWorld) (action : ManagerAction) : Bool :=
  match world.entryAction action with
  | none => true
  | some (listener, move) =>
      match world.core.listeners.lookup listener with
      | none => true
      | some info => condition info move

/-- Only the listeners' threads and the calls in progress make statements of their own. -/
theorem action_of_statement {world : ManagerWorld} {action : ManagerAction}
    {listener : HListener} {move : EntryAction}
    (acts : world.entryAction action = some (listener, move)) :
    (∀ received, move = .run received → action = .run listener received) ∧
      ∀ handle, move = .callStep handle → action = .listenerCall handle := by
  cases action with
  | request | runCallback => cases acts
  | pollFunctionCall =>
      obtain ⟨call, _, acts⟩ := Option.bind_eq_some_iff.mp acts
      unfold callAction at acts
      split at acts <;> (try split at acts) <;> cases acts <;> exact ⟨nofun, nofun⟩
  | listenerCall given =>
      obtain ⟨target, _, acts⟩ := Option.map_eq_some_iff.mp acts
      cases acts
      refine ⟨nofun, ?_⟩
      rintro handle ⟨⟩
      rfl
  | proceed =>
      obtain ⟨target, _, acts⟩ := Option.bind_eq_some_iff.mp acts
      obtain ⟨info, _, acts⟩ := Option.bind_eq_some_iff.mp acts
      obtain ⟨move, resumes, acts⟩ := Option.map_eq_some_iff.mp acts
      cases acts
      unfold resumeAction at resumes
      split at resumes <;> cases resumes <;> exact ⟨nofun, nofun⟩
  | run target polled =>
      cases acts
      refine ⟨?_, nofun⟩
      rintro received ⟨⟩
      rfl
  | wake target =>
      cases acts
      exact ⟨nofun, nofun⟩

/-- Only an action of a listener's thread is a step of it. -/
theorem run_of_entryAction {world : ManagerWorld} {action : ManagerAction}
    {listener : HListener} {received : ReceivedMessages}
    (acts : world.entryAction action = some (listener, .run received)) :
    action = .run listener received :=
  (action_of_statement acts).1 received rfl

/-- Only a statement of the call in progress is one of the entry's call. -/
theorem listenerCall_of_entryAction {world : ManagerWorld} {action : ManagerAction}
    {listener : HListener} {handle : UInt32}
    (acts : world.entryAction action = some (listener, .callStep handle)) :
    action = .listenerCall handle :=
  (action_of_statement acts).2 handle rfl

/-- A step that fails the condition is the step of an entry that fails it. -/
theorem everywhere_eq_false {condition : ListenerInfo Listener → EntryAction → Bool}
    {world : ManagerWorld} {action : ManagerAction} :
    everywhere condition world action = false ↔
      ∃ listener move info, world.entryAction action = some (listener, move) ∧
        world.core.listeners.lookup listener = some info ∧ condition info move = false := by
  unfold everywhere
  constructor
  · intro fails
    split at fails
    · cases fails
    next listener move acts =>
      split at fails
      · cases fails
      next info found => exact ⟨listener, move, info, acts, found, fails⟩
  · rintro ⟨listener, move, info, acts, found, fails⟩
    simp only [acts, found, fails]

theorem entry_reachable {condition : ListenerInfo Listener → EntryAction → Bool}
    (reaches : managerSystem.ReachableWhere
      (fun world action => everywhere condition world action = true) world)
    {listener : HListener} {info : ListenerInfo Listener}
    (found : world.core.listeners.lookup listener = some info) :
    entrySystem.ReachableWhere (fun info move => condition info move = true) info := by
  refine reaches.component _ (fun world => world.core.listeners.lookup listener) ?_ ?_
    info found
  · intro world starts info found
    obtain rfl : world = {} := starts
    simp at found
  · intro world action next piece reached meets steps found
    rcases ((entriesStep (callsFit_of_reachable reached) steps).entry listener piece found).2 with
      created | ⟨before, foundBefore, rfl | ⟨move, acts, moves⟩⟩
    · exact Or.inl created.1
    · exact Or.inr ⟨_, foundBefore, Or.inl rfl⟩
    · have meetsMove : condition before move = true := by
        simpa [everywhere, acts, foundBefore] using meets
      exact Or.inr ⟨before, foundBefore, Or.inr ⟨move, meetsMove, moves⟩⟩

theorem coherent_of_found {condition : ManagerWorld → ManagerAction → Prop}
    (reaches : managerSystem.ReachableWhere condition world)
    {listener : HListener} {info : ListenerInfo Listener}
    (found : world.core.listeners.lookup listener = some info) : Coherent info := by
  have anywhere : managerSystem.ReachableWhere
      (fun world action => everywhere (fun _ _ => true) world action = true) world := by
    apply reaches.mono
    intro world action _
    unfold everywhere
    split
    · rfl
    · split <;> rfl
  exact coherent_of_reachable (entry_reachable anywhere found)

end HttpServer
