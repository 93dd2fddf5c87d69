import HttpServer.Library.TransitionSystem
import Mathlib.Data.List.Basic
import Mathlib.Logic.Function.Basic

/-!
# What threads do to mutexes and to each other

A small language for threads that lock mutexes, wait for each other, and read and write
shared data, with the interleavings of any number of threads.
-/

namespace ThreadCode

/-- What a thread does.  `release` unlocks a mutex if the thread owns it, `await`
waits until `ready` holds, which another thread brings about, `read` goes on with the
code that the data select, `choose` leaves the choice to the environment, and `exit`
leaves the innermost loop. -/
inductive Code (Mutex Thread Data : Type) where
  | skip
  | lock (mutex : Mutex)
  | unlock (mutex : Mutex)
  | release (mutex : Mutex)
  | join (thread : Thread)
  | await (thread : Thread) (ready : Data → Bool)
  | assign (update : Data → Data)
  | spawn (thread : Thread) (code : Code Mutex Thread Data)
  | seq (first second : Code Mutex Thread Data)
  | read (next : Data → Code Mutex Thread Data)
  | choose (first second : Code Mutex Thread Data)
  | loop (test : Data → Bool) (body : Code Mutex Thread Data)
  | exit

/-- What a thread has still to do: code, or the next round of a loop that it has
entered. -/
inductive Frame (Mutex Thread Data : Type) where
  | run (code : Code Mutex Thread Data)
  | again (test : Data → Bool) (body : Code Mutex Thread Data)

variable {Mutex Thread Data : Type}

/-- The frames behind the innermost loop. -/
def afterLoop : List (Frame Mutex Thread Data) → List (Frame Mutex Thread Data)
  | [] => []
  | .run _ :: rest => afterLoop rest
  | .again _ _ :: rest => rest

structure Threads (Mutex Thread Data : Type) where
  data : Data
  owner : Mutex → Option Thread := fun _ => none
  code : Thread → List (Frame Mutex Thread Data)

namespace Code

/-- The code one after the other. -/
def all : List (Code Mutex Thread Data) → Code Mutex Thread Data
  | [] => skip
  | code :: rest => seq code (all rest)

/-- `wait` of a condition variable under a predicate: the mutex is given up while the
thread waits. -/
def wait (mutex : Mutex) (predicate : Data → Bool) : Code Mutex Thread Data :=
  loop (fun data => !predicate data) (seq (unlock mutex) (lock mutex))

/-- A statement under a lock of its own. -/
def guarded (mutex : Mutex) (code : Code Mutex Thread Data) : Code Mutex Thread Data :=
  seq (lock mutex) (seq code (unlock mutex))

end Code

section Step

variable [DecidableEq Mutex] [DecidableEq Thread]

namespace Threads

/-- The thread goes on with the frames. -/
def goOn (threads : Threads Mutex Thread Data) (thread : Thread)
    (frames : List (Frame Mutex Thread Data)) : Threads Mutex Thread Data :=
  { threads with code := Function.update threads.code thread frames }

def setOwner (threads : Threads Mutex Thread Data) (mutex : Mutex) (owner : Option Thread) :
    Threads Mutex Thread Data :=
  { threads with owner := Function.update threads.owner mutex owner }

/-- The next step of a thread, if it can make one.  `first` is what the environment
chooses. -/
def step (threads : Threads Mutex Thread Data) (thread : Thread) (first : Bool) :
    Option (Threads Mutex Thread Data) :=
  match threads.code thread with
  | [] => none
  | .again test body :: rest =>
      some (threads.goOn thread
        (if test threads.data then .run body :: .again test body :: rest else rest))
  | .run code :: rest =>
      match code with
      | .skip => some (threads.goOn thread rest)
      | .lock mutex =>
          if threads.owner mutex = none then
            some ((threads.setOwner mutex (some thread)).goOn thread rest)
          else none
      | .unlock mutex =>
          if threads.owner mutex = some thread then
            some ((threads.setOwner mutex none).goOn thread rest)
          else none
      | .release mutex =>
          if threads.owner mutex = some thread then
            some ((threads.setOwner mutex none).goOn thread rest)
          else some (threads.goOn thread rest)
      | .join other =>
          if (threads.code other).isEmpty then some (threads.goOn thread rest) else none
      | .await _ ready =>
          if ready threads.data then some (threads.goOn thread rest) else none
      | .assign update =>
          some { threads.goOn thread rest with data := update threads.data }
      | .spawn other code =>
          if (threads.code other).isEmpty then
            some ((threads.goOn thread rest).goOn other [.run code])
          else none
      | .seq one further => some (threads.goOn thread (.run one :: .run further :: rest))
      | .read next => some (threads.goOn thread (.run (next threads.data) :: rest))
      | .choose one other =>
          some (threads.goOn thread (.run (if first then one else other) :: rest))
      | .loop test body => some (threads.goOn thread (.again test body :: rest))
      | .exit => some (threads.goOn thread (afterLoop rest))

/-- A thread waits for the owner of the mutex that it locks next, for the end of the
thread that it joins, or for the thread that is to do what it awaits. -/
def WaitsFor (threads : Threads Mutex Thread Data) (thread other : Thread) : Prop :=
  match threads.code thread with
  | .run (.lock mutex) :: _ => threads.owner mutex = some other
  | .run (.join joined) :: _ => joined = other ∧ threads.code other ≠ []
  | .run (.await awaited ready) :: _ => awaited = other ∧ ready threads.data = false
  | _ => False

end Threads

/-- All interleavings of the threads. -/
def lockSystem (Initial : Threads Mutex Thread Data → Prop) :
    TransitionSystem (Threads Mutex Thread Data) (Thread × Bool) where
  Initial := Initial
  step threads action := threads.step action.1 action.2

section WithCode

variable {threads next : Threads Mutex Thread Data}
  {other : Thread → Option (List (Frame Mutex Thread Data))} {thread : Thread}

/-- Some of the threads have other code to run. -/
def Threads.withCode (threads : Threads Mutex Thread Data)
    (other : Thread → Option (List (Frame Mutex Thread Data))) : Threads Mutex Thread Data :=
  { threads with code := fun thread => (other thread).getD (threads.code thread) }

omit [DecidableEq Mutex] [DecidableEq Thread] in
theorem withCode_code (same : other thread = none) :
    (threads.withCode other).code thread = threads.code thread := by
  simp [Threads.withCode, same]

omit [DecidableEq Thread] in
theorem setOwner_withCode {mutex : Mutex} {owner : Option Thread} :
    (threads.withCode other).setOwner mutex owner =
      (threads.setOwner mutex owner).withCode other := rfl

omit [DecidableEq Mutex] in
theorem goOn_withCode {frames : List (Frame Mutex Thread Data)} (same : other thread = none) :
    (threads.withCode other).goOn thread frames =
      (threads.goOn thread frames).withCode other := by
  simp only [Threads.goOn, Threads.withCode, Threads.mk.injEq, true_and]
  funext changed
  by_cases own : changed = thread
  · subst own
    simp [same]
  · simp [own]

/-- None of the threads with other code has ended. -/
def Busy (threads : Threads Mutex Thread Data)
    (other : Thread → Option (List (Frame Mutex Thread Data))) : Prop :=
  ∀ thread, other thread ≠ none → threads.code thread ≠ []

/-- A thread that has not ended is neither joined nor started, so the others do not
notice what it has to do. -/
theorem step_withCode {first : Bool} (busy : Busy threads other) (same : other thread = none)
    (moves : threads.step thread first = some next) :
    (threads.withCode other).step thread first = some (next.withCode other) ∧
      Busy next other := by
  have ended {joined : Thread} (empty : (threads.code joined).isEmpty = true) :
      other joined = none := by
    by_contra busyToo
    exact busy joined busyToo (List.isEmpty_iff.mp empty)
  have goesOn {threads : Threads Mutex Thread Data} (busy : Busy threads other)
      (frames : List (Frame Mutex Thread Data)) : Busy (threads.goOn thread frames) other := by
    intro waiting waits
    have different : waiting ≠ thread := fun own => waits (own ▸ same)
    simpa [Threads.goOn, different] using busy waiting waits
  have moved (frames : List (Frame Mutex Thread Data)) :
      some ((threads.withCode other).goOn thread frames) =
          some ((threads.goOn thread frames).withCode other) ∧
        Busy (threads.goOn thread frames) other :=
    ⟨congrArg some (goOn_withCode same), goesOn busy frames⟩
  unfold Threads.step at moves ⊢
  rw [withCode_code same]
  cases frames : threads.code thread with
  | nil =>
      rw [frames] at moves
      cases moves
  | cons frame rest =>
      rw [frames] at moves
      cases frame with
      | again test body =>
          obtain rfl := Option.some.inj moves
          exact moved _
      | run code =>
          cases code with
          | skip | seq | read | choose | loop | exit =>
              obtain rfl := Option.some.inj moves
              exact moved _
          | lock mutex | unlock mutex =>
              dsimp only at moves
              split at moves
              next test =>
                obtain rfl := Option.some.inj moves
                refine ⟨(if_pos test).trans ?_, goesOn busy _⟩
                rw [setOwner_withCode, goOn_withCode same]
              next => cases moves
          | release mutex =>
              dsimp only at moves
              split at moves
              next test =>
                obtain rfl := Option.some.inj moves
                refine ⟨(if_pos test).trans ?_, goesOn busy _⟩
                rw [setOwner_withCode, goOn_withCode same]
              next test =>
                obtain rfl := Option.some.inj moves
                exact ⟨(if_neg test).trans (moved rest).1, (moved rest).2⟩
          | join joined =>
              dsimp only at moves
              split at moves
              next empty =>
                obtain rfl := Option.some.inj moves
                have stillEmpty : ((threads.withCode other).code joined).isEmpty = true := by
                  rwa [withCode_code (ended empty)]
                exact ⟨(if_pos stillEmpty).trans (moved rest).1, (moved rest).2⟩
              next => cases moves
          | await awaited ready =>
              dsimp only at moves
              split at moves
              next isReady =>
                obtain rfl := Option.some.inj moves
                exact ⟨(if_pos isReady).trans (moved rest).1, (moved rest).2⟩
              next => cases moves
          | assign update =>
              obtain rfl := Option.some.inj moves
              refine ⟨congrArg (fun moved => some { moved with data := update threads.data })
                (goOn_withCode same), (moved rest).2⟩
          | spawn started code =>
              dsimp only at moves
              split at moves
              next empty =>
                obtain rfl := Option.some.inj moves
                have stillEmpty : ((threads.withCode other).code started).isEmpty = true := by
                  rwa [withCode_code (ended empty)]
                refine ⟨(if_pos stillEmpty).trans ?_, fun waiting waits => ?_⟩
                · rw [goOn_withCode same, goOn_withCode (ended empty)]
                have different : waiting ≠ started := fun own => waits (own ▸ ended empty)
                simpa [Threads.goOn, different] using (moved rest).2 waiting waits
              next => cases moves

/-- What some threads can do, they can do whatever the others have to do. -/
theorem run_withCode {Initial OtherInitial : Threads Mutex Thread Data → Prop}
    {last : Threads Mutex Thread Data} {actions : List (Thread × Bool)}
    (busy : Busy threads other) (same : ∀ action ∈ actions, other action.1 = none)
    (runs : (lockSystem Initial).run threads actions = some last) :
    (lockSystem OtherInitial).run (threads.withCode other) actions =
      some (last.withCode other) := by
  induction actions generalizing threads with
  | nil =>
      obtain rfl := Option.some.inj runs
      rfl
  | cons action actions ih =>
      rw [TransitionSystem.run, TransitionSystem.runWhere, if_pos trivial,
        Option.bind_eq_some_iff] at runs ⊢
      obtain ⟨next, moves, rest⟩ := runs
      have moved := step_withCode busy (same action List.mem_cons_self) moves
      refine ⟨next.withCode other, moved.1, ih moved.2 ?_ rest⟩
      exact fun later member => same later (List.mem_cons_of_mem action member)

end WithCode

end Step

end ThreadCode
