import HttpServer.Library.ThreadCode
import Mathlib.Data.Prod.Lex
import Mathlib.Logic.Relation

/-!
# Threads that wait for each other in no circle

The mutexes have levels and the threads have ranks.  A thread obeys the order when it
locks only mutexes below all that it holds, and waits for the end or for an action of
another thread only while it holds none, and only if the other one has a lower rank.
Whether code obeys the order is a weakest precondition on the mutexes held.  Where the
code of all threads does, no threads wait for each other in a circle.
-/

namespace ThreadCode

/-- A level for every mutex and a rank for every thread. -/
structure Order (Mutex Thread : Type) where
  level : Mutex → Nat
  rank : Thread → Nat

variable {Mutex Thread Data : Type}

namespace Code

/-- The weakest precondition on the mutexes held, under which the code obeys the
order and leaves mutexes held that satisfy `post`, or `out` where it leaves the loop
around it. -/
def wp (order : Order Mutex Thread) [DecidableEq Mutex] (self : Thread) :
    Code Mutex Thread Data → (post out : List Mutex → Prop) → List Mutex → Prop
  | skip, post, _, held | assign _, post, _, held => post held
  | lock mutex, post, _, held =>
      (∀ other ∈ held, order.level mutex < order.level other) ∧ post (mutex :: held)
  | unlock mutex, post, _, held => mutex ∈ held ∧ post (held.erase mutex)
  | release mutex, post, _, held => post (held.erase mutex)
  | join thread, post, _, held | await thread _, post, _, held =>
      held = [] ∧ order.rank thread < order.rank self ∧ post held
  | spawn thread code, post, _, held =>
      code.wp order thread (fun held => held = []) (fun _ => False) [] ∧ post held
  | seq first second, post, out, held =>
      first.wp order self (fun held => second.wp order self post out held) out held
  | read next, post, out, held => ∀ data, (next data).wp order self post out held
  | choose first second, post, out, held =>
      first.wp order self post out held ∧ second.wp order self post out held
  | loop _ body, post, _, held =>
      ∃ invariant : List Mutex → Prop, invariant held ∧ ∀ held, invariant held →
        post held ∧ body.wp order self invariant post held
  | exit, _, out, held => out held

variable {order : Order Mutex Thread} [DecidableEq Mutex] {self : Thread}

theorem wp_mono {code : Code Mutex Thread Data} {post weaker out weakerOut : List Mutex → Prop}
    {held : List Mutex} (weaken : ∀ held, post held → weaker held)
    (weakenOut : ∀ held, out held → weakerOut held)
    (holds : code.wp order self post out held) : code.wp order self weaker weakerOut held := by
  induction code generalizing self post weaker out weakerOut held with
  | skip | assign | release => exact weaken _ holds
  | lock | unlock => exact ⟨holds.1, weaken _ holds.2⟩
  | join | await => exact ⟨holds.1, holds.2.1, weaken _ holds.2.2⟩
  | spawn => exact ⟨holds.1, weaken _ holds.2⟩
  | seq first second first_ih second_ih =>
      exact first_ih (fun _ => second_ih weaken weakenOut) weakenOut holds
  | read next ih => exact fun data => ih data weaken weakenOut (holds data)
  | choose first second first_ih second_ih =>
      exact ⟨first_ih weaken weakenOut holds.1, second_ih weaken weakenOut holds.2⟩
  | loop test body ih =>
      obtain ⟨invariant, starts, continues⟩ := holds
      refine ⟨invariant, starts, fun held kept => ⟨weaken _ (continues held kept).1, ?_⟩⟩
      exact ih (fun _ => id) weaken (continues held kept).2
  | exit => exact weakenOut _ holds

/-- The code obeys the order from these mutexes on and ends with the same ones. -/
def Neutral (order : Order Mutex Thread) (self : Thread) (held : List Mutex)
    (code : Code Mutex Thread Data) : Prop :=
  ∀ post out, post held → code.wp order self post out held

/-- The code ends with the same mutexes or leaves the loop around it with them. -/
def Leaving (order : Order Mutex Thread) (self : Thread) (held : List Mutex)
    (code : Code Mutex Thread Data) : Prop :=
  ∀ post out, post held → out held → code.wp order self post out held

section Rules

variable {held : List Mutex} {code further : Code Mutex Thread Data} {mutex : Mutex}

theorem Neutral.leaving (neutral : Neutral order self held code) :
    Leaving order self held code :=
  fun post out holds _ => neutral post out holds

theorem neutral_skip : Neutral order self held (skip : Code Mutex Thread Data) :=
  fun _ _ holds => holds

theorem neutral_assign {update : Data → Data} :
    Neutral order self held (assign update : Code Mutex Thread Data) :=
  fun _ _ holds => holds

theorem leaving_exit : Leaving order self held (exit : Code Mutex Thread Data) :=
  fun _ _ _ holds => holds

theorem Neutral.seq (first : Neutral order self held code)
    (second : Neutral order self held further) : Neutral order self held (.seq code further) :=
  fun post out holds => first _ out (second post out holds)

theorem Leaving.seq (first : Leaving order self held code)
    (second : Leaving order self held further) : Leaving order self held (.seq code further) :=
  fun post out holds leaves => first _ out (second post out holds leaves) leaves

theorem Neutral.all {codes : List (Code Mutex Thread Data)}
    (each : ∀ code ∈ codes, Neutral order self held code) :
    Neutral order self held (.all codes) := by
  induction codes with
  | nil => exact neutral_skip
  | cons code rest ih =>
      exact (each code List.mem_cons_self).seq
        (ih fun other member => each other (List.mem_cons_of_mem _ member))

theorem Leaving.all {codes : List (Code Mutex Thread Data)}
    (each : ∀ code ∈ codes, Leaving order self held code) :
    Leaving order self held (.all codes) := by
  induction codes with
  | nil => exact neutral_skip.leaving
  | cons code rest ih =>
      exact (each code List.mem_cons_self).seq
        (ih fun other member => each other (List.mem_cons_of_mem _ member))

theorem Neutral.choose (first : Neutral order self held code)
    (second : Neutral order self held further) :
    Neutral order self held (.choose code further) :=
  fun post out holds => ⟨first post out holds, second post out holds⟩

theorem Leaving.choose (first : Leaving order self held code)
    (second : Leaving order self held further) :
    Leaving order self held (.choose code further) :=
  fun post out holds leaves => ⟨first post out holds leaves, second post out holds leaves⟩

theorem Neutral.read {next : Data → Code Mutex Thread Data}
    (each : ∀ data, Neutral order self held (next data)) :
    Neutral order self held (.read next) :=
  fun post out holds data => each data post out holds

theorem Leaving.read {next : Data → Code Mutex Thread Data}
    (each : ∀ data, Leaving order self held (next data)) :
    Leaving order self held (.read next) :=
  fun post out holds leaves data => each data post out holds leaves

/-- A loop goes round with the same mutexes. -/
theorem Neutral.loop {test : Data → Bool} (body : Leaving order self held code) :
    Neutral order self held (.loop test code) := by
  intro post out holds
  refine ⟨fun other => other = held, rfl, ?_⟩
  rintro _ rfl
  exact ⟨holds, body _ _ rfl holds⟩

theorem Neutral.guarded (below : ∀ other ∈ held, order.level mutex < order.level other)
    (inner : Neutral order self (mutex :: held) code) :
    Neutral order self held (.guarded mutex code) := by
  intro post out holds
  refine ⟨below, inner _ out ⟨List.mem_cons_self, ?_⟩⟩
  rwa [List.erase_cons_head]

theorem neutral_wait {predicate : Data → Bool} :
    Neutral order self [mutex] (wait mutex predicate) := by
  refine Neutral.loop fun post out holds _ => ⟨List.mem_singleton_self mutex, ?_, ?_⟩
  · simp
  · simpa using holds

theorem neutral_join {thread : Thread} (lower : order.rank thread < order.rank self) :
    Neutral order self [] (join thread : Code Mutex Thread Data) :=
  fun _ _ holds => ⟨rfl, lower, holds⟩

theorem neutral_await {thread : Thread} {ready : Data → Bool}
    (lower : order.rank thread < order.rank self) :
    Neutral order self [] (await thread ready : Code Mutex Thread Data) :=
  fun _ _ holds => ⟨rfl, lower, holds⟩

theorem Neutral.spawn {thread : Thread} (started : Neutral order thread [] code) :
    Neutral order self held (.spawn thread code) :=
  fun _ _ holds => ⟨started _ _ rfl, holds⟩

end Rules

end Code

section Step

variable [DecidableEq Mutex] [DecidableEq Thread]

variable (order : Order Mutex Thread)

/-- The preconditions of the frames on the mutexes held: the normal one, and the one
for leaving the innermost loop. -/
def accepts (self : Thread) : List (Frame Mutex Thread Data) →
    (List Mutex → Prop) × (List Mutex → Prop)
  | [] => (fun held => held = [], fun _ => False)
  | .run code :: rest =>
      (code.wp order self (accepts self rest).1 (accepts self rest).2,
        (accepts self rest).2)
  | .again test body :: rest =>
      ((Code.loop test body).wp order self (accepts self rest).1 (accepts self rest).2,
        (accepts self rest).1)

/-- The thread owns these mutexes, and obeys the order from here on. -/
structure Obeys (threads : Threads Mutex Thread Data) (thread : Thread)
    (held : List Mutex) : Prop where
  nodup : held.Nodup
  owns : ∀ mutex, threads.owner mutex = some thread ↔ mutex ∈ held
  accepted : (accepts order thread (threads.code thread)).1 held

def AllObey (threads : Threads Mutex Thread Data) : Prop :=
  ∀ thread, ∃ held, Obeys order threads thread held

variable {order} {threads next : Threads Mutex Thread Data} {thread : Thread}
  {held : List Mutex}

omit [DecidableEq Thread] in
theorem accepts_afterLoop {frames : List (Frame Mutex Thread Data)}
    (accepted : (accepts order thread frames).2 held) :
    (accepts order thread (afterLoop frames)).1 held := by
  induction frames with
  | nil => exact accepted.elim
  | cons frame rest ih =>
      cases frame with
      | run code => exact ih accepted
      | again test body => exact accepted

theorem Obeys.goOn {frames : List (Frame Mutex Thread Data)}
    (obeys : Obeys order threads thread held)
    (accepted : (accepts order thread frames).1 held) :
    Obeys order (threads.goOn thread frames) thread held where
  nodup := obeys.nodup
  owns := obeys.owns
  accepted := by simpa [Threads.goOn] using accepted

/-- Where one thread moves on and the others keep what they own, all obey again. -/
theorem AllObey.move (thread : Thread) (all : AllObey order threads)
    (moved : ∃ held, Obeys order next thread held)
    (code : ∀ other, other ≠ thread → next.code other = threads.code other)
    (owner : ∀ (other : Thread) (mutex : Mutex), other ≠ thread →
      (next.owner mutex = some other ↔ threads.owner mutex = some other)) :
    AllObey order next := by
  intro other
  by_cases same : other = thread
  · exact same ▸ moved
  · obtain ⟨held, obeys⟩ := all other
    refine ⟨held, obeys.nodup, fun mutex => ?_, ?_⟩
    · rw [owner other mutex same, obeys.owns]
    · rw [code other same]
      exact obeys.accepted

theorem AllObey.goOn {frames : List (Frame Mutex Thread Data)} (all : AllObey order threads)
    (obeys : Obeys order threads thread held)
    (accepted : (accepts order thread frames).1 held) :
    AllObey order (threads.goOn thread frames) :=
  all.move thread ⟨held, obeys.goOn accepted⟩
    (fun _ different => Function.update_of_ne different ..) fun _ _ _ => Iff.rfl

/-- A thread takes a mutex that nobody owns. -/
theorem AllObey.take {mutex : Mutex} {frames : List (Frame Mutex Thread Data)}
    (all : AllObey order threads) (obeys : Obeys order threads thread held)
    (free : threads.owner mutex = none)
    (accepted : (accepts order thread frames).1 (mutex :: held)) :
    AllObey order ((threads.setOwner mutex (some thread)).goOn thread frames) := by
  have absent : mutex ∉ held := fun member => by
    rw [← obeys.owns, free] at member
    cases member
  refine all.move thread ⟨mutex :: held, ?_, fun other => ?_, ?_⟩ ?_ ?_
  · exact List.nodup_cons.mpr ⟨absent, obeys.nodup⟩
  · by_cases same : other = mutex
    · simp [Threads.goOn, Threads.setOwner, same]
    · simp [Threads.goOn, Threads.setOwner, same, obeys.owns]
  · simpa [Threads.goOn] using accepted
  · exact fun _ different => Function.update_of_ne different ..
  · intro other changed different
    by_cases same : changed = mutex
    · simp [Threads.goOn, Threads.setOwner, same, free, different.symm]
    · simp [Threads.goOn, Threads.setOwner, same]

/-- A thread gives up a mutex that it owns. -/
theorem AllObey.give {mutex : Mutex} {frames : List (Frame Mutex Thread Data)}
    (all : AllObey order threads) (obeys : Obeys order threads thread held)
    (owned : threads.owner mutex = some thread)
    (accepted : (accepts order thread frames).1 (held.erase mutex)) :
    AllObey order ((threads.setOwner mutex none).goOn thread frames) := by
  refine all.move thread ⟨held.erase mutex, obeys.nodup.erase mutex, fun other => ?_, ?_⟩ ?_ ?_
  · rw [obeys.nodup.mem_erase_iff, ← obeys.owns]
    by_cases same : other = mutex
    · simp [Threads.goOn, Threads.setOwner, same]
    · simp [Threads.goOn, Threads.setOwner, same]
  · simpa [Threads.goOn] using accepted
  · exact fun _ different => Function.update_of_ne different ..
  · intro other changed different
    by_cases same : changed = mutex
    · simp [Threads.goOn, Threads.setOwner, same, owned, different.symm]
    · simp [Threads.goOn, Threads.setOwner, same]

/-- A thread starts another one. -/
theorem AllObey.start {other : Thread} {code : Code Mutex Thread Data}
    (all : AllObey order threads) (ended : threads.code other = [])
    (accepted : (accepts order other [.run code]).1 []) :
    AllObey order (threads.goOn other [.run code]) := by
  obtain ⟨held, obeys⟩ := all other
  have holdsNone : held = [] := by
    have accepted := obeys.accepted
    rwa [ended] at accepted
  exact all.goOn obeys (holdsNone ▸ accepted)

omit [DecidableEq Thread] in
theorem AllObey.setData {data : Data} (all : AllObey order threads) :
    AllObey order { threads with data := data } := by
  intro thread
  obtain ⟨held, obeys⟩ := all thread
  exact ⟨held, obeys.nodup, obeys.owns, obeys.accepted⟩

/-- Every step keeps all threads in order. -/
theorem AllObey.step {first : Bool} (all : AllObey order threads)
    (moves : threads.step thread first = some next) : AllObey order next := by
  obtain ⟨held, obeys⟩ := all thread
  have accepted := obeys.accepted
  unfold Threads.step at moves
  cases frames : threads.code thread with
  | nil =>
      rw [frames] at moves
      cases moves
  | cons frame rest =>
      rw [frames] at moves accepted
      cases frame with
      | again test body =>
          obtain ⟨invariant, holds, continues⟩ := accepted
          obtain rfl := Option.some.inj moves
          refine all.goOn obeys ?_
          split
          · refine Code.wp_mono (fun held holds => ?_) (fun _ => id) (continues held holds).2
            exact ⟨invariant, holds, continues⟩
          · exact (continues held holds).1
      | run code =>
          cases code with
          | skip =>
              obtain rfl := Option.some.inj moves
              exact all.goOn obeys accepted
          | lock mutex =>
              dsimp only at moves
              split at moves
              next free =>
                obtain rfl := Option.some.inj moves
                exact all.take obeys free accepted.2
              next => cases moves
          | unlock mutex =>
              dsimp only at moves
              split at moves
              next owned =>
                obtain rfl := Option.some.inj moves
                exact all.give obeys owned accepted.2
              next => cases moves
          | release mutex =>
              dsimp only at moves
              split at moves
              next owned =>
                obtain rfl := Option.some.inj moves
                exact all.give obeys owned accepted
              next other =>
                obtain rfl := Option.some.inj moves
                refine all.goOn obeys ?_
                rw [obeys.owns] at other
                rwa [← List.erase_of_not_mem other]
          | join other | await other ready =>
              dsimp only at moves
              split at moves
              · obtain rfl := Option.some.inj moves
                exact all.goOn obeys accepted.2.2
              · cases moves
          | assign update =>
              obtain rfl := Option.some.inj moves
              have moved : AllObey order (threads.goOn thread rest) := all.goOn obeys accepted
              exact moved.setData
          | spawn other code =>
              dsimp only at moves
              split at moves
              next ended =>
                obtain rfl := Option.some.inj moves
                rw [List.isEmpty_iff] at ended
                have different : other ≠ thread := by
                  rintro rfl
                  rw [frames] at ended
                  cases ended
                have stillEnded : (threads.goOn thread rest).code other = [] :=
                  (Function.update_of_ne different ..).trans ended
                exact (all.goOn obeys accepted.2).start stillEnded accepted.1
              next => cases moves
          | choose one other =>
              obtain rfl := Option.some.inj moves
              refine all.goOn obeys ?_
              cases first with
              | true => exact accepted.1
              | false => exact accepted.2
          | read next =>
              obtain rfl := Option.some.inj moves
              exact all.goOn obeys (accepted threads.data)
          | seq one further | loop test body =>
              obtain rfl := Option.some.inj moves
              exact all.goOn obeys accepted
          | exit =>
              obtain rfl := Option.some.inj moves
              exact all.goOn obeys (accepts_afterLoop accepted)

/-- How far a thread may still be from one that waits for nothing: by its rank where
it waits for a thread, and by the level of the mutex where it waits for that. -/
def depth (order : Order Mutex Thread) (threads : Threads Mutex Thread Data)
    (thread : Thread) : Nat ×ₗ Nat :=
  match threads.code thread with
  | .run (.lock mutex) :: _ => toLex (0, order.level mutex + 1)
  | .run (.join _) :: _ | .run (.await _ _) :: _ => toLex (order.rank thread + 1, 0)
  | _ => toLex (0, 0)

omit [DecidableEq Thread] in
/-- A thread that owns a mutex is less deep than any that waits for the mutex. -/
theorem depth_of_owner {mutex : Mutex} (all : AllObey order threads)
    (owned : threads.owner mutex = some thread) :
    depth order threads thread < toLex (0, order.level mutex + 1) := by
  obtain ⟨held, obeys⟩ := all thread
  have member := (obeys.owns mutex).mp owned
  have accepted := obeys.accepted
  have least : (toLex (0, 0) : Nat ×ₗ Nat) < toLex (0, order.level mutex + 1) :=
    Prod.Lex.toLex_lt_toLex.mpr (Or.inr ⟨rfl, Nat.succ_pos _⟩)
  unfold depth
  split
  next other rest frames =>
    rw [frames] at accepted
    have below := accepted.1 mutex member
    exact Prod.Lex.toLex_lt_toLex.mpr (Or.inr ⟨rfl, Nat.succ_lt_succ below⟩)
  next frames =>
    rw [frames] at accepted
    rw [accepted.1] at member
    cases member
  next frames =>
    rw [frames] at accepted
    rw [accepted.1] at member
    cases member
  next => exact least

omit [DecidableEq Mutex] [DecidableEq Thread] in
/-- Whatever a thread of a lower rank does, it is less deep than one that waits for
it. -/
theorem depth_of_rank {other : Thread} (lower : order.rank other < order.rank thread) :
    depth order threads other < toLex (order.rank thread + 1, 0) := by
  unfold depth
  split
  next => exact Prod.Lex.toLex_lt_toLex.mpr (Or.inl (Nat.succ_pos _))
  next => exact Prod.Lex.toLex_lt_toLex.mpr (Or.inl (Nat.succ_lt_succ lower))
  next => exact Prod.Lex.toLex_lt_toLex.mpr (Or.inl (Nat.succ_lt_succ lower))
  next => exact Prod.Lex.toLex_lt_toLex.mpr (Or.inl (Nat.succ_pos _))

omit [DecidableEq Thread] in
theorem depth_of_waitsFor {other : Thread} (all : AllObey order threads)
    (waits : threads.WaitsFor thread other) :
    depth order threads other < depth order threads thread := by
  obtain ⟨held, obeys⟩ := all thread
  have accepted := obeys.accepted
  unfold Threads.WaitsFor at waits
  split at waits
  next mutex rest frames =>
    have deep : depth order threads thread = toLex (0, order.level mutex + 1) := by
      simp [depth, frames]
    rw [deep]
    exact depth_of_owner all waits
  next joined rest frames =>
    obtain ⟨rfl, _⟩ := waits
    rw [frames] at accepted
    have deep : depth order threads thread = toLex (order.rank thread + 1, 0) := by
      simp [depth, frames]
    rw [deep]
    exact depth_of_rank accepted.2.1
  next awaited ready rest frames =>
    obtain ⟨rfl, _⟩ := waits
    rw [frames] at accepted
    have deep : depth order threads thread = toLex (order.rank thread + 1, 0) := by
      simp [depth, frames]
    rw [deep]
    exact depth_of_rank accepted.2.1
  next => exact waits.elim

omit [DecidableEq Thread] in
/-- Threads that obey the order do not wait for each other in a circle. -/
theorem AllObey.acyclic (all : AllObey order threads) (thread : Thread) :
    ¬ Relation.TransGen threads.WaitsFor thread thread := by
  intro circle
  have descends {first last : Thread} (waits : Relation.TransGen threads.WaitsFor first last) :
      depth order threads last < depth order threads first := by
    induction waits with
    | single waits => exact depth_of_waitsFor all waits
    | tail _ waits ih => exact (depth_of_waitsFor all waits).trans ih
  exact lt_irrefl _ (descends circle)

/-- Where all threads obey the order at first, they do in every run. -/
theorem allObey_of_reachable {Initial : Threads Mutex Thread Data → Prop}
    (starts : ∀ threads, Initial threads → AllObey order threads)
    (reached : (lockSystem Initial).Reachable threads) : AllObey order threads :=
  reached.invariant (AllObey order) starts fun _ _ _ _ all _ moves => all.step moves

end Step

end ThreadCode
