import HttpServer.Library.Replay
import HttpServer.Library.Specification
import Mathlib.Logic.Function.Basic

/-!
# Monitors

The member functions of a monitor take its mutex, make their statements on its data, and
return after they have released it.  Any number of threads call them, and each statement is a
step of its own.  Only one thread is between lock and unlock at a time, and so the monitor
implements an atomic object, which performs a whole member function in one step somewhere
between its call and its return.
-/

/-- What the member functions do while they own the mutex: the place behind the lock, and the
statement at each place, which changes the data and goes on or comes to the unlock. -/
structure Monitor (Data Call Response Place : Type*) where
  enter : Call → Place
  statement : Place → Data → Data × (Place ⊕ Response)

namespace Monitor

variable {Data Call Response Place : Type*}

/-- Where a thread is in a call of a member function. -/
inductive Thread (Call Response Place : Type*) where
  | idle
  | called (call : Call)
  | inside (call : Call) (place : Place)
  | leaving (response : Response)

/-- The data, the thread that owns the mutex, and where the threads are. -/
structure State (Data Call Response Place : Type*) where
  data : Data
  owner : Option Nat := none
  threads : Nat → Thread Call Response Place := fun _ => .idle

/-- A thread calls a member function, or makes its next statement. -/
inductive Action (Call : Type*) where
  | call (thread : Nat) (call : Call)
  | statement (thread : Nat)

namespace State

variable (monitor : Monitor Data Call Response Place)

def setThread (state : State Data Call Response Place) (thread : Nat)
    (place : Thread Call Response Place) : State Data Call Response Place :=
  { state with threads := Function.update state.threads thread place }

def call (state : State Data Call Response Place) (thread : Nat) (call : Call) :
    Option (State Data Call Response Place) :=
  match state.threads thread with
  | .idle => some (state.setThread thread (.called call))
  | _ => none

def step (state : State Data Call Response Place) (thread : Nat) :
    Option (State Data Call Response Place) :=
  match state.threads thread with
  | .idle => none
  | .called call =>
      if state.owner.isNone then
        some { state.setThread thread (.inside call (monitor.enter call)) with
          owner := some thread }
      else none
  | .inside call place =>
      match monitor.statement place state.data with
      | (data, .inl next) =>
          some { state.setThread thread (.inside call next) with data := data }
      | (data, .inr response) =>
          some { state.setThread thread (.leaving response) with data := data, owner := none }
  | .leaving _ => some (state.setThread thread .idle)

end State

variable (monitor : Monitor Data Call Response Place)

/-- All interleavings of the threads' statements, from some data on. -/
def system (first : Data) :
    TransitionSystem (State Data Call Response Place) (Action Call) where
  Initial state := state = ⟨first, none, fun _ => .idle⟩
  step state
    | .call thread call => state.call thread call
    | .statement thread => state.step monitor thread

/-- The statements from one place and data to another. -/
inductive Goes : Place → Data → Place → Data → Prop where
  | refl {place : Place} {data : Data} : Goes place data place data
  | tail {first place next : Place} {before data after : Data}
      (goes : Goes first before place data)
      (statement : monitor.statement place data = (after, .inl next)) :
      Goes first before next after

/-- The statements from one place and data to the unlock. -/
inductive Leads : Place → Data → Response → Data → Prop where
  | unlock {place : Place} {data after : Data} {response : Response}
      (statement : monitor.statement place data = (after, .inr response)) :
      Leads place data response after
  | goOn {place next : Place} {data middle after : Data} {response : Response}
      (statement : monitor.statement place data = (middle, .inl next))
      (rest : Leads next middle response after) : Leads place data response after

/-- The whole call, from the lock to the unlock. -/
def Performs (call : Call) : Data → Response → Data → Prop :=
  monitor.Leads (monitor.enter call)

/-- Where a thread is in a call on the atomic object. -/
inductive Caller (Call Response : Type*) where
  | idle
  | called (call : Call)
  | performed (response : Response)

/-- The atomic object: its data, and where its callers are. -/
structure Atomic (Data Call Response : Type*) where
  data : Data
  callers : Nat → Caller Call Response := fun _ => .idle

/-- What can be seen of the atomic object. -/
inductive Event (Call Response : Type*) where
  | called (thread : Nat) (call : Call)
  | performed (thread : Nat) (call : Call) (response : Response)
  | returned (thread : Nat) (response : Response)

namespace Event

/-- The calls and the returns are what the threads themselves see. -/
def isOutside : Event Call Response → Bool
  | performed _ _ _ => false
  | _ => true

def performed? : Event Call Response → Option (Call × Response)
  | performed _ call response => some (call, response)
  | _ => none

end Event

/-- The steps of the atomic object. -/
inductive AtomicStep (object : Atomic Data Call Response) :
    Event Call Response → Atomic Data Call Response → Prop where
  | called {thread : Nat} {call : Call} (idle : object.callers thread = .idle) :
      AtomicStep object (.called thread call)
        { object with callers := Function.update object.callers thread (.called call) }
  | performed {thread : Nat} {call : Call} {response : Response} {after : Data}
      (waits : object.callers thread = .called call)
      (performs : monitor.Performs call object.data response after) :
      AtomicStep object (.performed thread call response)
        ⟨after, Function.update object.callers thread (.performed response)⟩
  | returned {thread : Nat} {response : Response}
      (done : object.callers thread = .performed response) :
      AtomicStep object (.returned thread response)
        { object with callers := Function.update object.callers thread .idle }

def atomicObject (first : Data) :
    Specification (Atomic Data Call Response) (Event Call Response) where
  Initial object := object = ⟨first, fun _ => .idle⟩
  Step := monitor.AtomicStep

/-- What a step of a thread shows. -/
def events (state : State Data Call Response Place) :
    Action Call → List (Event Call Response)
  | .call thread call => [.called thread call]
  | .statement thread =>
      match state.threads thread with
      | .inside call place =>
          match monitor.statement place state.data with
          | (_, .inl _) => []
          | (_, .inr response) => [.performed thread call response]
      | .leaving response => [.returned thread response]
      | _ => []

/-- A thread between lock and unlock has not performed its call yet. -/
def Thread.caller : Thread Call Response Place → Caller Call Response
  | idle => .idle
  | called call | inside call _ => .called call
  | leaving response => .performed response

/-- The owner of the mutex is the only thread inside, and the atomic object still has the data
that the owner has found. -/
structure Guarded (state : State Data Call Response Place)
    (object : Atomic Data Call Response) : Prop where
  callers : object.callers = fun thread => (state.threads thread).caller
  free : state.owner = none → object.data = state.data
  owned : ∀ thread call place, state.threads thread = .inside call place →
    state.owner = some thread ∧
      monitor.Goes (monitor.enter call) object.data place state.data
  inside : ∀ thread, state.owner = some thread →
    ∃ call place, state.threads thread = .inside call place

variable {monitor : Monitor Data Call Response Place}
  {state next : State Data Call Response Place} {object : Atomic Data Call Response}

theorem caller_setThread {thread : Nat} {place : Thread Call Response Place} :
    (fun other => ((state.setThread thread place).threads other).caller) =
      Function.update (fun other => (state.threads other).caller) thread place.caller :=
  Function.comp_update Thread.caller state.threads thread place

theorem setThread_self {thread : Nat} {place : Thread Call Response Place} :
    (state.setThread thread place).threads thread = place :=
  Function.update_self ..

theorem setThread_of_ne {thread other : Nat} {place : Thread Call Response Place}
    (different : other ≠ thread) :
    (state.setThread thread place).threads other = state.threads other :=
  Function.update_of_ne different ..

/-- The statements of a place lead to one response and one outcome. -/
theorem Leads.unique {place : Place} {before after other : Data} {response answer : Response}
    (leads : monitor.Leads place before response after)
    (also : monitor.Leads place before answer other) : response = answer ∧ after = other := by
  induction leads with
  | unlock statement =>
      cases also with
      | unlock made =>
          cases statement.symm.trans made
          exact ⟨rfl, rfl⟩
      | goOn made => cases statement.symm.trans made
  | goOn statement rest ih =>
      cases also with
      | unlock made => cases statement.symm.trans made
      | goOn made further =>
          cases statement.symm.trans made
          exact ih further

/-- What the first statements lead to, the last ones lead to. -/
theorem Goes.leads_iff {first place : Place} {before data after : Data} {response : Response}
    (goes : monitor.Goes first before place data) :
    monitor.Leads first before response after ↔ monitor.Leads place data response after := by
  induction goes with
  | refl => rfl
  | tail goes statement ih =>
      rw [ih]
      constructor
      · intro leads
        cases leads with
        | unlock made => cases statement.symm.trans made
        | goOn made rest =>
            cases statement.symm.trans made
            exact rest
      · exact .goOn statement

namespace Guarded

theorem initial (first : Data) :
    monitor.Guarded (⟨first, none, fun _ => .idle⟩ : State Data Call Response Place)
      ⟨first, fun _ => .idle⟩ where
  callers := rfl
  free _ := rfl
  owned _ _ _ inside := by cases inside
  inside _ owns := by cases owns

/-- A thread that is outside goes to another place outside. -/
theorem outside (guarded : monitor.Guarded state object) {thread : Nat}
    {place : Thread Call Response Place}
    (before : ∀ call place, state.threads thread ≠ .inside call place)
    (after : ∀ call inside, place ≠ .inside call inside) :
    monitor.Guarded (state.setThread thread place)
      { object with callers := Function.update object.callers thread place.caller } where
  callers := by rw [caller_setThread, guarded.callers]
  free owner := guarded.free owner
  owned other call inside reached := by
    by_cases same : other = thread
    · subst other
      rw [setThread_self] at reached
      exact (after call inside reached).elim
    · rw [setThread_of_ne same] at reached
      exact guarded.owned other call inside reached
  inside other owns := by
    obtain ⟨call, inside, reached⟩ := guarded.inside other owns
    have same : other ≠ thread := by
      rintro rfl
      exact before call inside reached
    exact ⟨call, inside, (setThread_of_ne same).trans reached⟩

/-- A thread takes the free mutex. -/
theorem lock (guarded : monitor.Guarded state object) {thread : Nat} {call : Call}
    (called : state.threads thread = .called call) (free : state.owner = none) :
    monitor.Guarded { state.setThread thread (.inside call (monitor.enter call)) with
      owner := some thread } object := by
  have alone (other : Nat) (call : Call) (place : Place) :
      state.threads other ≠ .inside call place := by
    intro reached
    have owns := (guarded.owned other call place reached).1
    rw [free] at owns
    cases owns
  refine ⟨?_, (fun owner => by cases owner), fun other otherCall place reached => ?_, ?_⟩
  · refine Eq.trans ?_ caller_setThread.symm
    rw [guarded.callers, Thread.caller]
    refine (Function.update_eq_self_iff.mpr ?_).symm
    rw [called]
    rfl
  · by_cases same : other = thread
    · subst other
      obtain ⟨rfl, rfl⟩ := Thread.inside.inj (setThread_self.symm.trans reached)
      refine ⟨rfl, ?_⟩
      rw [guarded.free free]
      exact .refl
    · exact (alone other otherCall place ((setThread_of_ne same).symm.trans reached)).elim
  · rintro other ⟨⟩
    exact ⟨call, _, setThread_self⟩

/-- The owner makes a statement and stays inside. -/
theorem goOn (guarded : monitor.Guarded state object) {thread : Nat} {call : Call}
    {place nextPlace : Place} {data : Data}
    (reached : state.threads thread = .inside call place)
    (statement : monitor.statement place state.data = (data, .inl nextPlace)) :
    monitor.Guarded { state.setThread thread (.inside call nextPlace) with data := data }
      object := by
  obtain ⟨owns, goes⟩ := guarded.owned thread call place reached
  refine ⟨?_, fun free => ?_, fun other otherCall otherPlace inside => ?_, ?_⟩
  · refine Eq.trans ?_ caller_setThread.symm
    rw [guarded.callers]
    refine (Function.update_eq_self_iff.mpr ?_).symm
    rw [reached]
    rfl
  · cases owns.symm.trans free
  · by_cases same : other = thread
    · subst other
      obtain ⟨rfl, rfl⟩ := Thread.inside.inj (setThread_self.symm.trans inside)
      exact ⟨owns, goes.tail statement⟩
    · have before := (setThread_of_ne same).symm.trans inside
      have other_owns := (guarded.owned other otherCall otherPlace before).1
      cases same (Option.some.inj (other_owns.symm.trans owns))
  · intro other otherOwns
    obtain rfl : thread = other := Option.some.inj (owns.symm.trans otherOwns)
    exact ⟨call, nextPlace, setThread_self⟩

/-- The owner releases the mutex: at this moment the atomic object performs its call. -/
theorem unlock (guarded : monitor.Guarded state object) {thread : Nat} {call : Call}
    {place : Place} {data : Data} {response : Response}
    (reached : state.threads thread = .inside call place) :
    monitor.Guarded
      { state.setThread thread (.leaving response) with data := data, owner := none }
      ⟨data, Function.update object.callers thread (.performed response)⟩ := by
  obtain ⟨owns, -⟩ := guarded.owned thread call place reached
  refine ⟨?_, fun _ => rfl, fun other otherCall otherPlace inside => ?_,
    fun _ owns => by cases owns⟩
  · refine Eq.trans ?_ caller_setThread.symm
    rw [guarded.callers]
    rfl
  · by_cases same : other = thread
    · subst other
      cases setThread_self.symm.trans inside
    · have before := (setThread_of_ne same).symm.trans inside
      have other_owns := (guarded.owned other otherCall otherPlace before).1
      cases same (Option.some.inj (other_owns.symm.trans owns))

end Guarded

/-- Every statement of a thread is a step of the atomic object, or none. -/
theorem simulates {first : Data} {action : Action Call} (guarded : monitor.Guarded state object)
    (steps : (monitor.system first).step state action = some next) :
    ∃ nextObject, (monitor.atomicObject first).Runs object (monitor.events state action)
      nextObject ∧ monitor.Guarded next nextObject := by
  have callers (thread : Nat) : object.callers thread = (state.threads thread).caller :=
    congrFun guarded.callers thread
  cases action with
  | call thread call =>
      change state.call thread call = some next at steps
      unfold State.call at steps
      split at steps
      next idle =>
        cases steps
        refine ⟨_, .single (.called ?_), guarded.outside (by simp [idle]) (by simp)⟩
        rw [callers, idle]
        rfl
      next => cases steps
  | statement thread =>
      change state.step monitor thread = some next at steps
      unfold State.step at steps
      rw [events]
      cases reached : state.threads thread with
      | idle =>
          rw [reached] at steps
          cases steps
      | called call =>
          rw [reached] at steps
          dsimp only at steps
          split at steps
          next free =>
            cases steps
            exact ⟨object, .refl, guarded.lock reached (Option.isNone_iff_eq_none.mp free)⟩
          next => cases steps
      | inside call place =>
          rw [reached] at steps
          dsimp only at steps ⊢
          cases made : monitor.statement place state.data with
          | mk data outcome =>
              cases outcome with
              | inl nextPlace =>
                  rw [made] at steps
                  cases steps
                  exact ⟨object, .refl, guarded.goOn reached made⟩
              | inr response =>
                  rw [made] at steps
                  cases steps
                  refine ⟨_, .single (.performed ?_ ?_), guarded.unlock reached⟩
                  · rw [callers, reached]
                    rfl
                  · have goes := (guarded.owned thread call place reached).2
                    exact goes.leads_iff.mpr (.unlock made)
      | leaving response =>
          rw [reached] at steps
          cases steps
          refine ⟨_, .single (.returned ?_), guarded.outside (by simp [reached]) (by simp)⟩
          rw [callers, reached]
          rfl

/-- The monitor implements the atomic object. -/
def simulation (first : Data) :
    Specification.ForwardSimulation (monitor.system first) (monitor.atomicObject first)
      fun _ _ => True where
  Related := monitor.Guarded
  events := monitor.events
  initial := by
    rintro state rfl
    exact ⟨_, rfl, .initial first⟩
  simulates _ _ _ _ _ _ steps guarded := simulates guarded steps

/-- Calls that are performed one after the other. -/
inductive Sequential (monitor : Monitor Data Call Response Place) (first : Data) :
    List (Call × Response) → Data → Prop where
  | refl : Sequential monitor first [] first
  | tail {calls : List (Call × Response)} {before after : Data} {call : Call}
      {response : Response} (earlier : Sequential monitor first calls before)
      (performs : monitor.Performs call before response after) :
      Sequential monitor first (calls ++ [(call, response)]) after

/-- A run of the atomic object performs its calls one after the other. -/
theorem sequential_of_runs {first : Data} {start : Atomic Data Call Response}
    {shown : List (Event Call Response)}
    (runs : (monitor.atomicObject first).Runs start shown object) :
    monitor.Sequential start.data (shown.filterMap Event.performed?) object.data := by
  induction runs with
  | refl => exact .refl
  | tail before step ih =>
      rw [Replay.filterMap_concat]
      cases step with
      | called | returned => simpa [Event.performed?] using ih
      | performed waits performs => exact ih.tail performs

/-- The calls and returns of the threads in a run. -/
def history (monitor : Monitor Data Call Response Place) (first : Data)
    (actions : List (Action Call)) : List (Event Call Response) :=
  ((monitor.system first).trace ⟨first, none, fun _ => .idle⟩ actions).flatMap fun step =>
    (monitor.events step.1 step.2).filter Event.isOutside

/-- What the threads see of a run is what they see of the atomic object.  Each call is
performed between its call and its return, and the calls that have been performed are a
sequential execution, which ends with the data that the next thread finds. -/
theorem linearizable {first : Data} {actions : List (Action Call)}
    (steps : (monitor.system first).Steps ⟨first, none, fun _ => .idle⟩ actions state) :
    ∃ shown object, (monitor.atomicObject first).Runs ⟨first, fun _ => .idle⟩ shown object ∧
      shown.filter Event.isOutside = monitor.history first actions ∧
      monitor.Sequential first (shown.filterMap Event.performed?) object.data ∧
      monitor.Guarded state object := by
  obtain ⟨object, runs, guarded⟩ :=
    (monitor.simulation first).implements rfl (.initial first) steps
  refine ⟨_, object, runs, ?_, sequential_of_runs runs, guarded⟩
  rw [Specification.ForwardSimulation.shows, List.filter_flatMap]
  rfl

/-- The owner of the mutex gets to its unlock without the other threads. -/
theorem unlocks {first : Data} {thread : Nat} {call : Call} {place : Place} {data after : Data}
    {response : Response} (leads : monitor.Leads place data response after)
    (found : state.data = data) (reached : state.threads thread = .inside call place) :
    ∃ count last, (monitor.system first).Steps state
        (List.replicate count (.statement thread)) last ∧
      last.owner = none ∧ last.data = after ∧ last.threads thread = .leaving response := by
  induction leads generalizing state with
  | @unlock place data after response statement =>
      have step : state.step monitor thread = some
          { state.setThread thread (.leaving response) with data := after, owner := none } := by
        rw [State.step, reached, found]
        dsimp only
        rw [statement]
      exact ⟨1, _, .single trivial step, rfl, rfl, setThread_self⟩
  | @goOn place next data middle after response statement rest ih =>
      have step : state.step monitor thread = some
          { state.setThread thread (.inside call next) with data := middle } := by
        rw [State.step, reached, found]
        dsimp only
        rw [statement]
      obtain ⟨count, last, steps, free, ends, leaves⟩ :=
        @ih { state.setThread thread (.inside call next) with data := middle } rfl setThread_self
      refine ⟨1 + count, last, ?_, free, ends, leaves⟩
      rw [List.replicate_add]
      exact TransitionSystem.StepsWhere.trans (.single trivial step) steps

end Monitor
