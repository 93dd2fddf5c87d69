import HttpServer.Library.ThreadCode

/-!
# What threads know about data that others change

A contract has an invariant of the shared data, and for every thread a relation that
the steps of the other threads keep to.  A thread knows of the data only what is stable
under this relation, until it changes the data itself.  Whether code keeps to the
contract, and what it brings about, is a weakest precondition on the data.  Where the
code of all threads keeps to it, the invariant holds in every state of every run.
-/

namespace ThreadCode

/-- `relies` is what a thread may expect of the steps of the others. -/
structure Contract (Thread Data : Type) where
  invariant : Data → Prop
  relies : Thread → Data → Data → Prop

variable {Mutex Thread Data : Type}

namespace Contract

variable (contract : Contract Thread Data) (self : Thread)

/-- No step of another thread breaks the property. -/
def Stable (property : Data → Prop) : Prop :=
  ∀ before after, contract.relies self before after → contract.invariant after →
    property before → property after

/-- The thread may change the data like this. -/
def Allows (before after : Data) : Prop :=
  contract.invariant after ∧ ∀ other, other ≠ self → contract.relies other before after

/-- The property will hold when the thread makes its next step. -/
def Whenever (property : Data → Prop) (data : Data) : Prop :=
  ∃ kept : Data → Prop, contract.Stable self kept ∧ kept data ∧
    ∀ data, contract.invariant data → kept data → property data

variable {contract self} {property weaker : Data → Prop} {data after : Data}

theorem Whenever.now (whenever : contract.Whenever self property data)
    (holds : contract.invariant data) : property data := by
  obtain ⟨kept, _, known, implies⟩ := whenever
  exact implies data holds known

theorem Whenever.later (whenever : contract.Whenever self property data)
    (relied : contract.relies self data after) (holds : contract.invariant after) :
    contract.Whenever self property after := by
  obtain ⟨kept, stable, known, implies⟩ := whenever
  exact ⟨kept, stable, stable data after relied holds known, implies⟩

theorem Whenever.mono
    (weaken : ∀ data, contract.invariant data → property data → weaker data)
    (whenever : contract.Whenever self property data) : contract.Whenever self weaker data := by
  obtain ⟨kept, stable, known, implies⟩ := whenever
  exact ⟨kept, stable, known, fun data holds known => weaken data holds (implies data holds known)⟩

end Contract

namespace Code

/-- The weakest precondition on the data under which the code keeps to the contract and
ends with data that satisfy `post`, or `out` where it leaves the loop around it. -/
def holds (contract : Contract Thread Data) (self : Thread) :
    Code Mutex Thread Data → (post out : Data → Prop) → Data → Prop
  | skip, post, _ | lock _, post, _ | unlock _, post, _ | release _, post, _
  | join _, post, _ => contract.Whenever self post
  | await _ ready, post, _ => contract.Whenever self fun data => ready data = true → post data
  | assign update, post, _ =>
      contract.Whenever self fun data =>
        contract.Allows self data (update data) ∧ post (update data)
  | spawn thread code, post, _ => fun data =>
      (∀ data, contract.invariant data →
        code.holds contract thread (fun _ => True) (fun _ => True) data) ∧
      contract.Whenever self post data
  | seq first second, post, out =>
      first.holds contract self (second.holds contract self post out) out
  | read next, post, out =>
      contract.Whenever self fun data => (next data).holds contract self post out data
  | choose first second, post, out => fun data =>
      first.holds contract self post out data ∧ second.holds contract self post out data
  | loop test body, post, _ => fun data =>
      ∃ kept : Data → Prop, contract.Stable self kept ∧ kept data ∧
        ∀ data, contract.invariant data → kept data →
          (test data = true → body.holds contract self kept post data) ∧
          (test data = false → post data)
  | exit, _, out => contract.Whenever self out

variable {contract : Contract Thread Data} {self : Thread} {code : Code Mutex Thread Data}

/-- The other threads may go on before the code does. -/
theorem holds_later {post out : Data → Prop} {data after : Data}
    (holds : code.holds contract self post out data) (relied : contract.relies self data after)
    (invariant : contract.invariant after) : code.holds contract self post out after := by
  induction code generalizing post out with
  | skip | lock | unlock | release | join | await | assign | read | exit =>
      exact Contract.Whenever.later holds relied invariant
  | spawn => exact ⟨holds.1, holds.2.later relied invariant⟩
  | seq first second first_ih => exact first_ih holds
  | choose first second first_ih second_ih => exact ⟨first_ih holds.1, second_ih holds.2⟩
  | loop test body =>
      obtain ⟨kept, stable, known, goesOn⟩ := holds
      exact ⟨kept, stable, stable data after relied invariant known, goesOn⟩

theorem holds_mono {post weaker out weakerOut : Data → Prop} {data : Data}
    (weaken : ∀ data, contract.invariant data → post data → weaker data)
    (weakenOut : ∀ data, contract.invariant data → out data → weakerOut data)
    (invariant : contract.invariant data) (holds : code.holds contract self post out data) :
    code.holds contract self weaker weakerOut data := by
  induction code generalizing post weaker out weakerOut data with
  | skip | lock | unlock | release | join => exact Contract.Whenever.mono weaken holds
  | await thread ready =>
      exact Contract.Whenever.mono
        (fun data invariant known isReady => weaken data invariant (known isReady)) holds
  | assign update =>
      exact Contract.Whenever.mono
        (fun data _ known => ⟨known.1, weaken _ known.1.1 known.2⟩) holds
  | spawn => exact ⟨holds.1, holds.2.mono weaken⟩
  | seq first second first_ih second_ih =>
      exact first_ih (fun data invariant => second_ih weaken weakenOut invariant) weakenOut
        invariant holds
  | read next ih =>
      exact Contract.Whenever.mono
        (fun data invariant => ih data weaken weakenOut invariant) holds
  | choose first second first_ih second_ih =>
      exact ⟨first_ih weaken weakenOut invariant holds.1,
        second_ih weaken weakenOut invariant holds.2⟩
  | loop test body ih =>
      obtain ⟨kept, stable, known, goesOn⟩ := holds
      refine ⟨kept, stable, known, fun data invariant known => ⟨fun passes => ?_, fun fails => ?_⟩⟩
      · exact ih (fun _ _ => id) weaken invariant ((goesOn data invariant known).1 passes)
      · exact weaken data invariant ((goesOn data invariant known).2 fails)
  | exit => exact Contract.Whenever.mono weakenOut holds

/-- From data that satisfy `before`, the code keeps to the contract and ends with data
that satisfy `after`, or `out` where it leaves the loop around it. -/
def Triple (contract : Contract Thread Data) (self : Thread) (before : Data → Prop)
    (code : Code Mutex Thread Data) (after out : Data → Prop) : Prop :=
  ∀ data, contract.invariant data → before data → code.holds contract self after out data

/-- The code keeps the property, however it ends. -/
abbrev Maintains (contract : Contract Thread Data) (self : Thread) (property : Data → Prop)
    (code : Code Mutex Thread Data) : Prop :=
  Triple contract self property code property property

section Rules

variable {before middle after out property : Data → Prop} {further : Code Mutex Thread Data}
  {mutex : Mutex}

theorem Triple.weaken {weaker weakerOut : Data → Prop}
    (triple : Triple contract self before code after out)
    (weaken : ∀ data, contract.invariant data → after data → weaker data)
    (weakenOut : ∀ data, contract.invariant data → out data → weakerOut data) :
    Triple contract self before code weaker weakerOut :=
  fun data invariant known => holds_mono weaken weakenOut invariant (triple data invariant known)

theorem Triple.strengthen {stronger : Data → Prop}
    (triple : Triple contract self before code after out)
    (strengthen : ∀ data, contract.invariant data → stronger data → before data) :
    Triple contract self stronger code after out :=
  fun data invariant known => triple data invariant (strengthen data invariant known)

theorem triple_skip (stable : contract.Stable self property) :
    Triple contract self property (skip : Code Mutex Thread Data) property out :=
  fun _ _ known => ⟨property, stable, known, fun _ _ => id⟩

theorem triple_lock (stable : contract.Stable self property) :
    Triple contract self property (lock mutex : Code Mutex Thread Data) property out :=
  fun _ _ known => ⟨property, stable, known, fun _ _ => id⟩

theorem triple_unlock (stable : contract.Stable self property) :
    Triple contract self property (unlock mutex : Code Mutex Thread Data) property out :=
  fun _ _ known => ⟨property, stable, known, fun _ _ => id⟩

theorem triple_release (stable : contract.Stable self property) :
    Triple contract self property (release mutex : Code Mutex Thread Data) property out :=
  fun _ _ known => ⟨property, stable, known, fun _ _ => id⟩

theorem triple_join {thread : Thread} (stable : contract.Stable self property) :
    Triple contract self property (join thread : Code Mutex Thread Data) property out :=
  fun _ _ known => ⟨property, stable, known, fun _ _ => id⟩

theorem triple_exit (stable : contract.Stable self property) :
    Triple contract self property (exit : Code Mutex Thread Data) after property :=
  fun _ _ known => ⟨property, stable, known, fun _ _ => id⟩

theorem triple_await {thread : Thread} {ready : Data → Bool}
    (stable : contract.Stable self property)
    (learns : ∀ data, contract.invariant data → property data → ready data = true → after data) :
    Triple contract self property (await thread ready : Code Mutex Thread Data) after out :=
  fun _ _ known => ⟨property, stable, known, learns⟩

theorem triple_assign {update : Data → Data} (stable : contract.Stable self property)
    (changes : ∀ data, contract.invariant data → property data →
      contract.Allows self data (update data) ∧ after (update data)) :
    Triple contract self property (assign update : Code Mutex Thread Data) after out :=
  fun _ _ known => ⟨property, stable, known, changes⟩

theorem triple_read {next : Data → Code Mutex Thread Data}
    (stable : contract.Stable self property)
    (each : ∀ data, contract.invariant data → property data →
      (next data).holds contract self after out data) :
    Triple contract self property (read next) after out :=
  fun _ _ known => ⟨property, stable, known, each⟩

theorem triple_spawn {thread : Thread} (stable : contract.Stable self property)
    (started : Maintains contract thread (fun _ => True) code) :
    Triple contract self property (spawn thread code) property out :=
  fun _ _ known =>
    ⟨fun data invariant => started data invariant trivial, property, stable, known, fun _ _ => id⟩

theorem Triple.seq (first : Triple contract self before code middle out)
    (second : Triple contract self middle further after out) :
    Triple contract self before (.seq code further) after out := by
  intro data invariant known
  have goesOn := holds_mono second (fun _ _ => id) invariant (first data invariant known)
  exact goesOn

theorem Triple.choose (first : Triple contract self before code after out)
    (second : Triple contract self before further after out) :
    Triple contract self before (.choose code further) after out :=
  fun data invariant known => ⟨first data invariant known, second data invariant known⟩

/-- What the body keeps, the loop keeps. -/
theorem Triple.loop {test : Data → Bool} (stable : contract.Stable self property)
    (body : ∀ data, contract.invariant data → property data → test data = true →
      code.holds contract self property after data)
    (ends : ∀ data, contract.invariant data → property data → test data = false → after data) :
    Triple contract self property (.loop test code) after out :=
  fun _ _ known => ⟨property, stable, known, fun data invariant known =>
    ⟨body data invariant known, ends data invariant known⟩⟩

theorem Maintains.all {codes : List (Code Mutex Thread Data)}
    (stable : contract.Stable self property)
    (each : ∀ code ∈ codes, Maintains contract self property code) :
    Maintains contract self property (.all codes) := by
  induction codes with
  | nil => exact triple_skip stable
  | cons code rest ih =>
      exact (each code List.mem_cons_self).seq
        (ih fun other member => each other (List.mem_cons_of_mem _ member))

theorem Maintains.loop {test : Data → Bool} (stable : contract.Stable self property)
    (body : Maintains contract self property code) :
    Triple contract self property (.loop test code) property out :=
  Triple.loop stable (fun data invariant known _ => body data invariant known)
    fun _ _ known _ => known

theorem Triple.guarded (stable : contract.Stable self before)
    (stays : contract.Stable self after)
    (inner : Triple contract self before code after out) :
    Triple contract self before (.guarded mutex code) after out :=
  (triple_lock stable).seq (inner.seq (triple_unlock stays))

theorem triple_wait {predicate : Data → Bool} (stable : contract.Stable self property) :
    Triple contract self property (wait mutex predicate : Code Mutex Thread Data) property out :=
  Maintains.loop stable ((triple_unlock stable).seq (triple_lock stable))

end Rules

end Code

section Step

variable [DecidableEq Mutex] [DecidableEq Thread]

variable (contract : Contract Thread Data)

/-- The preconditions of the frames on the data: the normal one, and the one for leaving
the innermost loop. -/
def framesHold (self : Thread) : List (Frame Mutex Thread Data) → (Data → Prop) × (Data → Prop)
  | [] => (fun _ => True, fun _ => True)
  | .run code :: rest =>
      (code.holds contract self (framesHold self rest).1 (framesHold self rest).2,
        (framesHold self rest).2)
  | .again test body :: rest =>
      ((Code.loop test body).holds contract self (framesHold self rest).1 (framesHold self rest).2,
        (framesHold self rest).1)

/-- The invariant holds, and what every thread has still to do keeps to the contract. -/
structure Fulfilled (threads : Threads Mutex Thread Data) : Prop where
  invariant : contract.invariant threads.data
  holds : ∀ thread, (framesHold contract thread (threads.code thread)).1 threads.data

variable {contract} {threads next : Threads Mutex Thread Data} {thread : Thread}
  {frames : List (Frame Mutex Thread Data)} {data after : Data}

omit [DecidableEq Mutex] [DecidableEq Thread] in
theorem framesHold_later (holds : (framesHold contract thread frames).1 data)
    (relied : contract.relies thread data after) (invariant : contract.invariant after) :
    (framesHold contract thread frames).1 after := by
  cases frames with
  | nil => trivial
  | cons frame rest =>
      cases frame with
      | run code => exact Code.holds_later holds relied invariant
      | again test body => exact Code.holds_later holds relied invariant

omit [DecidableEq Mutex] [DecidableEq Thread] in
theorem framesHold_afterLoop (holds : (framesHold contract thread frames).2 data) :
    (framesHold contract thread (afterLoop frames)).1 data := by
  induction frames with
  | nil => trivial
  | cons frame rest ih =>
      cases frame with
      | run code => exact ih holds
      | again test body => exact holds

omit [DecidableEq Mutex] in
theorem Fulfilled.goOn (fulfilled : Fulfilled contract threads)
    (holds : (framesHold contract thread frames).1 threads.data) :
    Fulfilled contract (threads.goOn thread frames) where
  invariant := fulfilled.invariant
  holds other := by
    by_cases same : other = thread
    · subst same
      simpa [Threads.goOn] using holds
    · simpa [Threads.goOn, same] using fulfilled.holds other

omit [DecidableEq Mutex] in
/-- A thread that is allowed to changes the data, and goes on. -/
theorem Fulfilled.change (fulfilled : Fulfilled contract threads)
    (allowed : contract.Allows thread threads.data data)
    (holds : (framesHold contract thread frames).1 data) :
    Fulfilled contract { threads.goOn thread frames with data := data } where
  invariant := allowed.1
  holds other := by
    by_cases same : other = thread
    · subst same
      simpa [Threads.goOn] using holds
    · have relied := allowed.2 other same
      simpa [Threads.goOn, same] using
        framesHold_later (fulfilled.holds other) relied allowed.1

omit [DecidableEq Thread] in
theorem Fulfilled.setOwner {mutex : Mutex} {owner : Option Thread}
    (fulfilled : Fulfilled contract threads) :
    Fulfilled contract (threads.setOwner mutex owner) :=
  ⟨fulfilled.invariant, fulfilled.holds⟩

/-- Every step keeps the contract fulfilled. -/
theorem Fulfilled.step {first : Bool} (fulfilled : Fulfilled contract threads)
    (moves : threads.step thread first = some next) : Fulfilled contract next := by
  have invariant := fulfilled.invariant
  have holds := fulfilled.holds thread
  unfold Threads.step at moves
  cases frames : threads.code thread with
  | nil =>
      rw [frames] at moves
      cases moves
  | cons frame rest =>
      rw [frames] at moves holds
      cases frame with
      | again test body =>
          obtain rfl := Option.some.inj moves
          obtain ⟨kept, stable, known, goesOn⟩ := holds
          refine fulfilled.goOn ?_
          split
          next passes =>
            refine Code.holds_mono (fun data _ known => ?_) (fun _ _ => id) invariant
              ((goesOn _ invariant known).1 passes)
            exact ⟨kept, stable, known, goesOn⟩
          next fails => exact (goesOn _ invariant known).2 (by simpa using fails)
      | run code =>
          cases code with
          | skip =>
              obtain rfl := Option.some.inj moves
              exact fulfilled.goOn (Contract.Whenever.now holds invariant)
          | lock mutex | unlock mutex =>
              dsimp only at moves
              split at moves
              · obtain rfl := Option.some.inj moves
                exact fulfilled.setOwner.goOn (Contract.Whenever.now holds invariant)
              · cases moves
          | release mutex =>
              dsimp only at moves
              split at moves
              · obtain rfl := Option.some.inj moves
                exact fulfilled.setOwner.goOn (Contract.Whenever.now holds invariant)
              · obtain rfl := Option.some.inj moves
                exact fulfilled.goOn (Contract.Whenever.now holds invariant)
          | join other =>
              dsimp only at moves
              split at moves
              · obtain rfl := Option.some.inj moves
                exact fulfilled.goOn (Contract.Whenever.now holds invariant)
              · cases moves
          | await other ready =>
              dsimp only at moves
              split at moves
              next isReady =>
                obtain rfl := Option.some.inj moves
                exact fulfilled.goOn (Contract.Whenever.now holds invariant isReady)
              next => cases moves
          | assign update =>
              obtain rfl := Option.some.inj moves
              have changes := Contract.Whenever.now holds invariant
              exact fulfilled.change changes.1 changes.2
          | spawn other code =>
              dsimp only at moves
              split at moves
              · obtain rfl := Option.some.inj moves
                have goesOn : Fulfilled contract (threads.goOn thread rest) :=
                  fulfilled.goOn (Contract.Whenever.now holds.2 invariant)
                exact goesOn.goOn (holds.1 _ invariant)
              · cases moves
          | choose one other =>
              obtain rfl := Option.some.inj moves
              refine fulfilled.goOn ?_
              cases first with
              | true => exact holds.1
              | false => exact holds.2
          | read next =>
              obtain rfl := Option.some.inj moves
              obtain ⟨_, _, known, implies⟩ := holds
              exact fulfilled.goOn (implies _ invariant known)
          | seq one further | loop test body =>
              obtain rfl := Option.some.inj moves
              exact fulfilled.goOn holds
          | exit =>
              obtain rfl := Option.some.inj moves
              exact fulfilled.goOn
                (framesHold_afterLoop (Contract.Whenever.now holds invariant))

/-- Where all threads keep to the contract at first, its invariant holds in every run. -/
theorem Contract.invariant_of_reachable {Initial : Threads Mutex Thread Data → Prop}
    (starts : ∀ threads, Initial threads → Fulfilled contract threads)
    (reached : (lockSystem Initial).Reachable threads) : contract.invariant threads.data := by
  have fulfilled : Fulfilled contract threads :=
    reached.invariant (Fulfilled contract) starts fun _ _ _ _ fulfilled _ moves =>
      fulfilled.step moves
  exact fulfilled.invariant

end Step

end ThreadCode
