import HttpServer.Basic
import HttpServer.Library.TransitionSystem

/-!
# The life cycle of the manager

What `init` and `kill` do to the fields of the one `NetworkManager`, call by call.  The
core and the interface are pointers, which may be null; an `init` that calls the null
interface does not come back.

The fields are set together and reset together, as long as no `init` fails after it has
taken over its core and its interface, and none is given a null core.
-/

namespace HttpServer

/-- The fields that `init` and `kill` assign; `joinable` is that of `m_NetworkThread`.
They are all zero in the static instance. -/
structure ManagerFields (Core Interface : Type) where
  initialized : Bool := false
  running : Bool := false
  joinable : Bool := false
  core : Option Core := none
  pInterface : Option Interface := none
deriving DecidableEq

/-- A call, with what `SetGlobalCallback_SteamNetConnectionStatusChanged` returns in it. -/
inductive LifecycleCall (Core Interface : Type) where
  | init (core : Option Core) (pInterface : Option Interface) (callbackSet : Bool)
  | kill

namespace ManagerFields

variable {Core Interface : Type}

/-- A thread is not assigned to a joinable one: that ends the process. -/
def init (fields : ManagerFields Core Interface) (core : Option Core)
    (pInterface : Option Interface) (callbackSet : Bool) :
    Option (Result Unit × ManagerFields Core Interface) :=
  if fields.initialized then
    some (.error (makeError .eInvalidCall
      "NetworkManager Already initialized need to call Kill first"), fields)
  else
    let fields := { fields with pInterface := pInterface }
    let fields := { fields with core := core }
    match fields.pInterface with
    | none => none
    | some _ =>
        if callbackSet = false then
          some (.error (makeError .eInternalError "Callback function couldnt be set"), fields)
        else
          let fields := { fields with running := true }
          let fields := { fields with initialized := true }
          if fields.joinable then none
          else some (.ok (), { fields with joinable := true })

/-- `kill` joins the thread if it is joinable. -/
def kill (fields : ManagerFields Core Interface) : ManagerFields Core Interface :=
  let fields := { fields with running := false }
  let fields := { fields with joinable := false }
  let fields := { fields with core := none }
  let fields := { fields with pInterface := none }
  { fields with initialized := false }

/-- A call that comes back, with its result. -/
def perform (fields : ManagerFields Core Interface) :
    LifecycleCall Core Interface → Option (Result Unit × ManagerFields Core Interface)
  | .init core pInterface callbackSet => fields.init core pInterface callbackSet
  | .kill => some (.ok (), fields.kill)

end ManagerFields

/-- All sequences of calls of `init` and `kill`. -/
def lifecycleSystem (Core Interface : Type) :
    TransitionSystem (ManagerFields Core Interface) (LifecycleCall Core Interface) where
  Initial fields := fields = {}
  step fields call := (fields.perform call).map Prod.snd

section Lifecycle

variable {Core Interface : Type} {fields next : ManagerFields Core Interface}
  {call : LifecycleCall Core Interface}

/-- The five facts are all true or all false. -/
structure Settled (fields : ManagerFields Core Interface) : Prop where
  running : fields.running = fields.initialized
  joinable : fields.joinable = fields.initialized
  core : fields.core.isSome = fields.initialized
  pInterface : fields.pInterface.isSome = fields.initialized

/-- The call leaves the fields settled, and as they were if it returns an error. -/
def KeepsLifecycle (fields : ManagerFields Core Interface)
    (call : LifecycleCall Core Interface) : Prop :=
  ∀ result next, fields.perform call = some (result, next) →
    Settled next ∧ ∀ err, result = .error err → next = fields

/-- An `init` that is not refused gets a core and sets the callback. -/
def SetsUp (fields : ManagerFields Core Interface) : LifecycleCall Core Interface → Prop
  | .init core _ callbackSet =>
      fields.initialized = false → core.isSome = true ∧ callbackSet = true
  | .kill => True

theorem settled_initial : Settled ({} : ManagerFields Core Interface) :=
  ⟨rfl, rfl, rfl, rfl⟩

theorem settled_kill : Settled fields.kill := ⟨rfl, rfl, rfl, rfl⟩

/-- Everything that an `init` that comes back can do. -/
inductive InitStep (fields : ManagerFields Core Interface) (core : Option Core) :
    Bool → Result Unit → ManagerFields Core Interface → Prop where
  | refused {callbackSet : Bool} (initialized : fields.initialized = true) :
      InitStep fields core callbackSet
        (.error (makeError .eInvalidCall
          "NetworkManager Already initialized need to call Kill first")) fields
  | failed {pInterface : Interface} (initialized : fields.initialized = false) :
      InitStep fields core false
        (.error (makeError .eInternalError "Callback function couldnt be set"))
        { fields with core := core, pInterface := some pInterface }
  | started {pInterface : Interface} (initialized : fields.initialized = false) :
      InitStep fields core true (.ok ())
        ⟨true, true, true, core, some pInterface⟩

theorem initStep_of_init {core : Option Core} {pInterface : Option Interface}
    {callbackSet : Bool} {result : Result Unit}
    (inits : fields.init core pInterface callbackSet = some (result, next)) :
    InitStep fields core callbackSet result next := by
  unfold ManagerFields.init at inits
  split at inits
  next initialized =>
    cases inits
    exact .refused initialized
  next uninitialized =>
    have initialized : fields.initialized = false := by simpa using uninitialized
    dsimp only at inits
    split at inits
    · cases inits
    · split at inits
      next notSet =>
        subst notSet
        cases inits
        exact .failed initialized
      next set =>
        obtain rfl : callbackSet = true := by simpa using set
        split at inits
        · cases inits
        · cases inits
          exact .started initialized

/-- From settled fields, a call that comes back keeps them exactly when it sets up all of
them. -/
theorem keepsLifecycle_iff (settled : Settled fields)
    (returns : (lifecycleSystem Core Interface).step fields call = some next) :
    KeepsLifecycle fields call ↔ SetsUp fields call := by
  obtain ⟨⟨result, _⟩, performed, rfl⟩ := Option.map_eq_some_iff.mp returns
  cases call with
  | kill =>
      refine ⟨fun _ => trivial, fun _ result next performs => ?_⟩
      cases performs
      exact ⟨settled_kill, nofun⟩
  | init core pInterface callbackSet =>
      constructor
      · intro keeps initialized
        obtain ⟨after, unchanged⟩ := keeps _ _ performed
        cases initStep_of_init performed with
        | refused refused =>
            rw [initialized] at refused
            cases refused
        | failed =>
            have absent := settled.pInterface
            rw [← unchanged _ rfl, initialized] at absent
            cases absent
        | started => exact ⟨after.core, rfl⟩
      · intro setsUp result next performs
        cases initStep_of_init performs with
        | refused => exact ⟨settled, fun _ _ => rfl⟩
        | failed initialized => cases (setsUp initialized).2
        | started initialized =>
            exact ⟨⟨rfl, rfl, (setsUp initialized).1, rfl⟩, nofun⟩

theorem settled_of_keepsLifecycle (keeps : KeepsLifecycle fields call)
    (returns : (lifecycleSystem Core Interface).step fields call = some next) :
    Settled next := by
  obtain ⟨⟨result, _⟩, performed, rfl⟩ := Option.map_eq_some_iff.mp returns
  exact (keeps _ _ performed).1

/-- In any sequence of calls, all of them keep the fields together exactly when every
`init` that is not refused gets a core and sets the callback. -/
theorem lifecycle_iff_setsUp {calls : List (LifecycleCall Core Interface)}
    (returns : (lifecycleSystem Core Interface).Steps {} calls fields) :
    (∀ step ∈ (lifecycleSystem Core Interface).trace {} calls,
        KeepsLifecycle step.1 step.2) ↔
      ∀ step ∈ (lifecycleSystem Core Interface).trace {} calls, SetsUp step.1 step.2 :=
  returns.forall_trace_iff Settled settled_initial
    (fun _ _ _ settled _ returns => keepsLifecycle_iff settled returns)
    fun _ _ _ _ _ keeps returns => settled_of_keepsLifecycle keeps returns

theorem lifecycle_iff_setsUp_restart :
    let calls : List (LifecycleCall Nat Nat) :=
      [.kill, .init (some 1) (some 1) true, .init (some 2) (some 2) true, .kill,
        .init (some 3) (some 3) true]
    (∀ step ∈ (lifecycleSystem Nat Nat).trace {} calls, KeepsLifecycle step.1 step.2) ↔
      ∀ step ∈ (lifecycleSystem Nat Nat).trace {} calls, SetsUp step.1 step.2 := by
  intro calls
  have returns : (lifecycleSystem Nat Nat).Steps {} calls ⟨true, true, true, some 3, some 3⟩ :=
    TransitionSystem.runWhere_eq_some_iff.mp rfl
  exact lifecycle_iff_setsUp returns

/-- An `init` whose callback cannot be set leaves its core and its interface behind. -/
theorem lifecycle_fails_callbackNotSet :
    ∃ fields : ManagerFields Nat Nat,
      ({} : ManagerFields Nat Nat).perform (.init (some 1) (some 1) false) =
        some (.error (makeError .eInternalError "Callback function couldnt be set"), fields) ∧
      ¬ Settled fields ∧ fields ≠ {} :=
  ⟨⟨false, false, false, some 1, some 1⟩, rfl, (by cases ·.core), by decide⟩

end Lifecycle

end HttpServer
