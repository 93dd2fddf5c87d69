import HttpServer.Library.CharArray
import HttpServer.ManagerRuns
import Mathlib.Data.List.GetD
import Mathlib.Logic.Function.Basic

/-!
# The names of the listeners

`createListener` copies the name that it is given into an array of 512 characters.  The array
goes into the map with its listener and is read as a C string where `stopListening` and
`DestroyListener` log what they have done.  A name that fills the array leaves no room for
the NUL that ends such a string.
-/

namespace HttpServer

open UnorderedMap NetworkManagerCore

/-- `ListenerName` read as a C string.  Without a NUL the reading does not end in the
array. -/
def cString (listenerName : Vector UInt8 512) : Option CString :=
  match reads : CharArray.read 0 listenerName.toList with
  | none => none
  | some bytes => some ⟨bytes, CharArray.not_mem_of_read reads⟩

theorem cString_eq_some {array : Vector UInt8 512} {name : CString} :
    cString array = some name ↔ CharArray.read 0 array.toList = some name.bytes := by
  unfold cString
  split
  next reads => simp [reads]
  next bytes reads => simp [reads, CString.ext_iff]

/-- An array without a NUL is not a C string. -/
theorem cString_eq_none {array : Vector UInt8 512} : cString array = none ↔ 0 ∉ array := by
  rw [← Vector.mem_toList_iff, ← CharArray.read_isSome]
  unfold cString
  split
  next reads => simp [reads]
  next bytes reads => simp [reads]

theorem toList_strncpy (name : CString) :
    (strncpy name).toList = CharArray.copy 0 512 name.bytes := by
  apply List.ext_getElem
  · simp
  · intro index inArray inCopy
    rw [Vector.length_toList] at inArray
    simp only [strncpy, Vector.getElem_toList, Vector.getElem_ofFn, CharArray.copy,
      List.getElem_append, List.length_take, List.getElem_take, List.getElem_replicate]
    split
    next inside =>
      have inName : index < name.bytes.length := by omega
      rw [List.getD_eq_getElem _ _ inName]
    next outside =>
      have behind : name.bytes.length ≤ index := by omega
      rw [List.getD_eq_default _ _ behind]

/-- What a listener is called after it was given a name: the name is cut off where the
array has room for 511 characters and a NUL. -/
def shownName : Option CString → CString
  | none => ⟨[], List.not_mem_nil⟩
  | some name => ⟨name.bytes.take 511, fun nul => name.not_nul (List.mem_of_mem_take nul)⟩

/-- The array is a C string, and the one that its listener was given. -/
structure ReadsAs (array : Vector UInt8 512) (given : Option CString) : Prop where
  terminated : 0 ∈ array
  text : cString array = some (shownName given)

/-- The array that `createListener` writes. -/
def nameArray : Option CString → Vector UInt8 512
  | none => Vector.replicate 512 0
  | some name => strncpy name

theorem readsAs_nameArray_none : ReadsAs (nameArray none) none where
  terminated := by simp [nameArray]
  text := by
    have copied : (nameArray none).toList = CharArray.copy 0 512 [] := by
      rw [nameArray, Vector.toList_replicate, CharArray.copy, List.take_nil, List.nil_append]
      rfl
    rw [cString_eq_some, copied]
    exact CharArray.read_copy List.not_mem_nil (by decide)

/-- A name of 512 characters or more takes the place of the NUL. -/
theorem readsAs_strncpy {name : CString} :
    ReadsAs (strncpy name) (some name) ↔ name.bytes.length < 512 := by
  have terminated : 0 ∈ strncpy name ↔ name.bytes.length < 512 := by
    rw [← Vector.mem_toList_iff, toList_strncpy, CharArray.mem_copy name.not_nul]
  constructor
  · intro reads
    exact terminated.mp reads.terminated
  · intro short
    refine ⟨terminated.mpr short, ?_⟩
    have whole : (shownName (some name)).bytes = name.bytes := List.take_of_length_le (by omega)
    rw [cString_eq_some, toList_strncpy, whole]
    exact CharArray.read_copy name.not_nul short

namespace NetworkManagerCore

variable {Listener : Type} {core next : NetworkManagerCore Listener}
  {listener other : HListener}

/-- The array stored with a listener, if the handle is known. -/
def nameOf (core : NetworkManagerCore Listener) (listener : HListener) :
    Option (Vector UInt8 512) :=
  (core.listeners.lookup listener).map fun info => info.listenerName

theorem nameOf_updateListener {update : ListenerInfo Listener → ListenerInfo Listener}
    (keeps : ∀ info, (update info).listenerName = info.listenerName) :
    (core.updateListener listener update).nameOf other = core.nameOf other := by
  simp only [nameOf, updateListener, lookup_modify]
  split
  next same =>
    subst other
    simp [Option.map_map, Function.comp_def, keeps]
  next => rfl

theorem nameOf_changeObject {object : ListenerInfo Listener → Listener} :
    (core.updateListener listener fun info => { info with listener := object info }).nameOf
      other = core.nameOf other :=
  nameOf_updateListener fun _ => rfl

@[simp]
theorem nameOf_record (call : CoreCall) : (core.record call).nameOf other = core.nameOf other :=
  rfl

theorem nameOf_startListening {port : UInt16} {initSocket : Result SocketHandlers}
    {started result : Result Unit}
    (starts : core.startListening listener port initSocket started = (result, next)) :
    next.nameOf other = core.nameOf other := by
  cases startingStep_of_startListening starts with
  | refused | failed => rfl
  | @adopted _ handlers =>
      have adopted : ((core.record (.initSocket listener port)).adoptSocket
          listener handlers).nameOf other = core.nameOf other :=
        nameOf_updateListener fun _ => rfl
      exact adopted

theorem nameOf_stopListening {result : Result Unit}
    (stops : core.stopListening listener = .ok (result, next)) :
    next.nameOf other = core.nameOf other := by
  rcases stopListening_cases stops with ⟨_, rfl, _⟩ | ⟨info, socketInfo, _, _, _, _, rfl⟩
  · rfl
  · have dropped : (core.dropSocket listener info.socket socketInfo).nameOf other =
        core.nameOf other := nameOf_updateListener fun _ => rfl
    exact dropped

theorem nameOf_destroyListener {result : Result Unit}
    (destroys : core.destroyListener listener = .ok (result, next)) :
    next.nameOf other = if other = listener then none else core.nameOf other := by
  rcases destroyListener_cases destroys with ⟨_, rfl, unknown⟩ | ⟨_, stopped, stops, _, rfl⟩
  · split
    next same =>
      subst same
      simp [nameOf, unknown]
    next => rfl
  · have kept : stopped.nameOf other = core.nameOf other := nameOf_stopListening stops
    rw [← kept]
    simp only [nameOf, lookup_erase_eq_ite]
    split
    next => rfl
    next => rfl

theorem nameOf_callbackManager {info : SteamNetConnectionStatusChangedCallback}
    {accepted : EResult} {grouped : Bool}
    (changes : core.callbackManager info accepted grouped = .ok next) :
    next.nameOf other = core.nameOf other := by
  rcases callbackManager_cases changes with rfl | ⟨_, connects⟩ | ⟨_, disconnects⟩
  · rfl
  · cases connectingStep_of_connecting connects with
    | refused | ungrouped | entered => rfl
  · obtain ⟨_, _, _, _, rfl⟩ := disconnected_eq_ok.mp disconnects
    rfl

variable [IListener Listener]

/-- A new listener gets the array of its name, and the others keep theirs. -/
theorem nameOf_createListener {name : Option CString}
    (creates : core.createListener name = .ok (listener, next)) :
    next.nameOf other = if other = listener then some (nameArray name) else core.nameOf other := by
  obtain ⟨free, _, rfl⟩ := createListener_eq_ok.mp creates
  have unbound : listener ∉ core.listeners := AList.lookup_eq_none.mp free
  have named : (newInfo name : ListenerInfo Listener).listenerName = nameArray name := by
    cases name with
    | none => rfl
    | some name => rfl
  simp only [nameOf, lookup_emplace, unbound, not_false_eq_true, and_true]
  split
  next => exact congrArg some named
  next => rfl

/-- Any other operation leaves the arrays alone that it leaves in the map. -/
theorem nameOf_perform {operation : CoreOperation Listener} {outcome : Outcome}
    {array : Vector UInt8 512} (notCreate : operation.isCreate = false)
    (performs : operation.perform core = .ok (outcome, next))
    (named : next.nameOf listener = some array) : core.nameOf listener = some array := by
  cases operationStep_of_perform performs with
  | createListener => cases notCreate
  | destroyListener destroys =>
      rw [nameOf_destroyListener destroys] at named
      split at named
      · cases named
      · exact named
  | startListening starts => rwa [← nameOf_startListening starts]
  | stopListening stops => rwa [← nameOf_stopListening stops]
  | tryPopReceivedMessageQueue pops =>
      rcases next_of_tryPopReceived pops with rfl | ⟨object, rfl⟩
      · exact named
      · rwa [nameOf_record, nameOf_changeObject] at named
  | pushOutgoingMessageQueue pushes =>
      rcases next_of_pushOutgoing pushes with rfl | rfl
      · exact named
      · rwa [nameOf_record, nameOf_changeObject] at named
  | tryPopErrorQueue pops =>
      rcases next_of_tryPopError pops with rfl | ⟨object, rfl⟩
      · exact named
      · rwa [nameOf_record, nameOf_changeObject] at named
  | connectionServed serves =>
      obtain ⟨_, _, _, rfl⟩ := connectionServed_eq_ok.mp serves
      exact named
  | callbackManager changes => rwa [← nameOf_callbackManager changes]
  | listenerChanges => rwa [nameOf_changeObject] at named

end NetworkManagerCore

section Runs

variable {Listener : Type}

/-- What `stopListening` logs of the listener once it has stopped it. -/
def stopLog (core : NetworkManagerCore Listener) (listener : HListener) :
    List (String × Vector UInt8 512) :=
  match core.stopListening listener with
  | .ok (.ok (), stopped) =>
      (stopped.nameOf listener).toList.map fun name => ("Destroyed Socket on Listener", name)
  | _ => []

/-- The arrays that an operation reads for the log, each with the text before it. -/
def CoreOperation.loggedNames (core : NetworkManagerCore Listener) :
    CoreOperation Listener → List (String × Vector UInt8 512)
  | .stopListening listener => stopLog core listener
  | .destroyListener listener =>
      match core.stopListening listener with
      | .ok (_, stopped) =>
          stopLog core listener ++
            (stopped.nameOf listener).toList.map fun name => ("Destroyed Listener", name)
      | .error _ => []
  | _ => []

theorem nameOf_of_mem_stopLog {core : NetworkManagerCore Listener} {listener : HListener}
    {line : String × Vector UInt8 512} (logged : line ∈ stopLog core listener) :
    core.nameOf listener = some line.2 := by
  unfold stopLog at logged
  split at logged
  next stopped stops =>
    obtain ⟨array, named, rfl⟩ := List.mem_map.mp logged
    rw [← nameOf_stopListening stops]
    exact Option.mem_toList.mp named
  next => simp at logged

/-- What is logged is the name of the listener that the operation is addressed to. -/
theorem nameOf_of_mem_loggedNames {core : NetworkManagerCore Listener}
    {operation : CoreOperation Listener} {line : String × Vector UInt8 512}
    (logged : line ∈ operation.loggedNames core) :
    ∃ listener, operation.target? = some listener ∧ core.nameOf listener = some line.2 := by
  cases operation with
  | stopListening listener => exact ⟨listener, rfl, nameOf_of_mem_stopLog logged⟩
  | destroyListener listener =>
      refine ⟨listener, rfl, ?_⟩
      dsimp only [CoreOperation.loggedNames] at logged
      split at logged
      next result stopped stops =>
        rcases List.mem_append.mp logged with inStop | last
        · exact nameOf_of_mem_stopLog inStop
        · obtain ⟨array, named, rfl⟩ := List.mem_map.mp last
          rw [← nameOf_stopListening stops]
          exact Option.mem_toList.mp named
      next => simp at logged
  | _ => simp [CoreOperation.loggedNames] at logged

/-- The core, with the name that each handle was given when it was created last. -/
structure NamedCore (Listener : Type) where
  core : NetworkManagerCore Listener := {}
  given : HListener → Option CString := fun _ => none

/-- The names given after an operation. -/
def CoreOperation.names (given : HListener → Option CString) :
    CoreOperation Listener → Outcome → HListener → Option CString
  | .createListener name, .handle listener => Function.update given listener name
  | _, _ => given

variable [IListener Listener]

/-- All runs of operations that come back. -/
def namedSystem (Listener : Type) [IListener Listener] :
    TransitionSystem (NamedCore Listener) (CoreOperation Listener) where
  Initial state := state = {}
  step state operation :=
    match operation.perform state.core with
    | .error _ => none
    | .ok (outcome, next) => some ⟨next, operation.names state.given outcome⟩

variable {state next : NamedCore Listener} {operation : CoreOperation Listener}
  {operations : List (CoreOperation Listener)}

theorem namedSystem_step_eq_some :
    (namedSystem Listener).step state operation = some next ↔
      ∃ outcome, operation.perform state.core = .ok (outcome, next.core) ∧
        next.given = operation.names state.given outcome := by
  unfold namedSystem
  dsimp only
  split
  next fault faults => simp [faults]
  next outcome after performs =>
    rw [performs]
    constructor
    · intro same
      obtain rfl := Option.some.inj same
      exact ⟨outcome, rfl, rfl⟩
    · rintro ⟨other, same, given⟩
      obtain ⟨rfl, ends⟩ := Prod.mk.inj (Except.ok.inj same)
      rw [ends, ← given]

/-- These are the runs of the core. -/
theorem steps_coreSystem_iff {core : NetworkManagerCore Listener} :
    (coreSystem Listener).Steps (.ok {}) operations (.ok core) ↔
      ∃ given, (namedSystem Listener).Steps {} operations ⟨core, given⟩ := by
  constructor
  · intro steps
    refine steps.invariant (fun operations state => ∀ core, state = .ok core →
      ∃ given, (namedSystem Listener).Steps {} operations ⟨core, given⟩) ?_ ?_ core rfl
    · intro core same
      obtain rfl := Except.ok.inj same
      exact ⟨_, .refl⟩
    · intro before middle operation last _ named _ stepTo core same
      cases middle with
      | error fault => cases stepTo
      | ok between =>
          obtain ⟨given, steps⟩ := named between rfl
          have performed := (Option.some.inj stepTo).trans same
          obtain ⟨⟨outcome, _⟩, performs, rfl⟩ := map_eq_ok_iff.mp performed
          exact ⟨_, steps.tail trivial (namedSystem_step_eq_some.mpr ⟨outcome, performs, rfl⟩)⟩
  · rintro ⟨given, steps⟩
    refine steps.invariant (fun operations state =>
      (coreSystem Listener).Steps (.ok {}) operations (.ok state.core)) .refl ?_
    intro before middle operation last _ ran _ stepTo
    obtain ⟨outcome, performs, _⟩ := namedSystem_step_eq_some.mp stepTo
    refine ran.tail trivial ?_
    simp [coreSystem, performs, Except.map]

/-- Every array in the map reads as the name that its handle was given. -/
def NamesStand (state : NamedCore Listener) : Prop :=
  ∀ listener array, state.core.nameOf listener = some array →
    ReadsAs array (state.given listener)

/-- The names stand after the operation, and what it logs is such a name. -/
structure KeepsNames (state : NamedCore Listener) (operation : CoreOperation Listener) :
    Prop where
  stand : ∀ next, (namedSystem Listener).step state operation = some next → NamesStand next
  logged : ∀ line ∈ operation.loggedNames state.core, ∃ listener,
    operation.target? = some listener ∧ ReadsAs line.2 (state.given listener)

/-- The name that a listener is created with leaves room for a NUL. -/
def ShortName : CoreOperation Listener → Prop
  | .createListener (some name) => name.bytes.length < 512
  | _ => True

omit [IListener Listener] in
theorem namesStand_initial : NamesStand ({} : NamedCore Listener) := by
  intro listener array named
  simp [nameOf] at named

omit [IListener Listener] in
theorem readsAs_nameArray {name : Option CString} :
    ReadsAs (nameArray name) name ↔
      ShortName (.createListener name : CoreOperation Listener) := by
  cases name with
  | none => exact iff_of_true readsAs_nameArray_none trivial
  | some name => exact readsAs_strncpy

namespace NamesStand

theorem createListener {name : Option CString} (stand : NamesStand state)
    (steps : (namedSystem Listener).step state (.createListener name) = some next) :
    NamesStand next ↔ ShortName (.createListener name : CoreOperation Listener) := by
  obtain ⟨outcome, performs, given⟩ := namedSystem_step_eq_some.mp steps
  cases operationStep_of_perform performs with
  | @createListener _ handler _ creates =>
      rw [← readsAs_nameArray]
      have givenNow : next.given = Function.update state.given handler name := given
      constructor
      · intro standNow
        have stored : next.core.nameOf handler = some (nameArray name) := by
          rw [nameOf_createListener creates, if_pos rfl]
        have own := standNow handler (nameArray name) stored
        rwa [givenNow, Function.update_self] at own
      · intro reads listener array named
        rw [nameOf_createListener creates] at named
        rw [givenNow]
        split at named
        next same =>
          obtain rfl := Option.some.inj named
          rw [same, Function.update_self]
          exact reads
        next different =>
          rw [Function.update_of_ne different]
          exact stand listener array named

theorem other (stand : NamesStand state) (notCreate : operation.isCreate = false)
    (steps : (namedSystem Listener).step state operation = some next) : NamesStand next := by
  obtain ⟨outcome, performs, given⟩ := namedSystem_step_eq_some.mp steps
  have sameGiven : next.given = state.given := by
    rw [given]
    cases operation with
    | createListener name => cases notCreate
    | _ => rfl
  intro listener array named
  rw [sameGiven]
  exact stand listener array (nameOf_perform notCreate performs named)

/-- A step from a state in which the names stand keeps them exactly when it gives no name
that is too long. -/
theorem keepsNames_iff (stand : NamesStand state)
    (steps : (namedSystem Listener).step state operation = some next) :
    KeepsNames state operation ↔ ShortName operation := by
  have standNext : NamesStand next ↔ ShortName operation := by
    cases notCreate : operation.isCreate with
    | false =>
        refine iff_of_true (stand.other notCreate steps) ?_
        cases operation with
        | createListener name => cases notCreate
        | _ => trivial
    | true =>
        cases operation with
        | createListener name => exact stand.createListener steps
        | _ => cases notCreate
  rw [← standNext]
  constructor
  · intro keeps
    exact keeps.stand next steps
  · intro standNow
    constructor
    case stand =>
      intro other stepTo
      obtain rfl := Option.some.inj (steps.symm.trans stepTo)
      exact standNow
    case logged =>
      intro line logged
      obtain ⟨listener, target, named⟩ := nameOf_of_mem_loggedNames logged
      exact ⟨listener, target, stand listener line.2 named⟩

end NamesStand

/-- In any run of the core every listener keeps its name, and every name that is logged is
one, exactly when no name that `createListener` was given has more than 511 characters. -/
theorem names_stand_iff {last : NamedCore Listener}
    (steps : (namedSystem Listener).Steps {} operations last) :
    (∀ step ∈ (namedSystem Listener).trace {} operations, KeepsNames step.1 step.2) ↔
      ∀ operation ∈ operations, ShortName operation := by
  have short : (∀ step ∈ (namedSystem Listener).trace {} operations, ShortName step.2) ↔
      ∀ operation ∈ operations, ShortName operation := by
    rw [← List.forall_mem_map, steps.map_trace]
  rw [← short]
  exact steps.forall_trace_iff NamesStand namesStand_initial
    (fun _ _ _ stand _ stepTo => stand.keepsNames_iff stepTo)
    fun _ _ _ _ _ keeps stepTo => keeps.stand _ stepTo

theorem names_stand_iff_destroyed :
    let name : CString := ⟨[109, 97, 105, 110], by decide⟩
    let operations : List (CoreOperation ListenerQueues) :=
      [.createListener none, .createListener (some name),
        .startListening 2 80 (.ok ⟨5, 6⟩) (.ok ()), .destroyListener 2, .createListener none]
    (∀ step ∈ (namedSystem ListenerQueues).trace {} operations, KeepsNames step.1 step.2) ↔
      ∀ operation ∈ operations, ShortName operation := by
  intro name operations
  have ends : ((namedSystem ListenerQueues).run {} operations).isSome = true := rfl
  obtain ⟨last, runs⟩ := Option.isSome_iff_exists.mp ends
  exact names_stand_iff (TransitionSystem.runWhere_eq_some_iff.mp runs)

/-- A name of 512 characters fills the array. -/
theorem names_stand_fails_long :
    let name : CString := ⟨List.replicate 512 65,
      fun nul => absurd (List.eq_of_mem_replicate nul) (by decide)⟩
    ∃ state : NamedCore ListenerQueues,
      (namedSystem ListenerQueues).Steps {} [.createListener (some name)] state ∧
      state.core.nameOf 1 = some (strncpy name) ∧ 0 ∉ strncpy name ∧
      cString (strncpy name) = none ∧ ¬ NamesStand state := by
  intro name
  have full : 0 ∉ strncpy name := by
    have length : name.bytes.length = 512 := List.length_replicate
    rw [← Vector.mem_toList_iff, toList_strncpy, CharArray.mem_copy name.not_nul, length]
    exact lt_irrefl 512
  refine ⟨_, .single trivial rfl, rfl, full, cString_eq_none.mpr full, fun stand => ?_⟩
  exact full (stand 1 (strncpy name) rfl).terminated

end Runs

end HttpServer
