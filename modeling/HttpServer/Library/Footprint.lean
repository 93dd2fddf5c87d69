import Mathlib.Data.Set.BooleanAlgebra
import Mathlib.Data.Set.Disjoint
import Mathlib.Order.CompletePartialOrder

/-!
# Operations with a footprint

The state of a component is seen through cells, each of which holds a value.  An
operation is local to a set of cells, its footprint, when it reads and writes
these cells only.  It then leaves all other cells alone, and two operations whose
footprints are disjoint commute.  The footprint may depend on the state in which
the operation is run.
-/

namespace Footprint

variable {State Cell Err Outcome Other : Type*} {Value : Cell → Type*}
  {look : State → (cell : Cell) → Value cell}

/-- Two states hold the same values in the cells. -/
def AgreeOn (look : State → (cell : Cell) → Value cell) (cells : Set Cell)
    (state other : State) : Prop :=
  ∀ cell ∈ cells, look state cell = look other cell

/-- An update of the state that changes some cells, each by its own old value. -/
structure Pointwise (look : State → (cell : Cell) → Value cell)
    (update : State → State) (cells : Set Cell) : Prop where
  changes : ∃ change : (cell : Cell) → Value cell → Value cell,
    (∀ state cell, look (update state) cell = change cell (look state cell)) ∧
      ∀ cell ∉ cells, ∀ value, change cell value = value

/-- In any state that agrees on the cells, the operation does the same to them
and nothing to the others. -/
def LocalAt (look : State → (cell : Cell) → Value cell)
    (operation : State → Except Err (Outcome × State)) (cells : Set Cell)
    (state : State) : Prop :=
  ∀ other outcome next, AgreeOn look cells state other →
    operation state = .ok (outcome, next) →
    ∃ otherNext, operation other = .ok (outcome, otherNext) ∧
      AgreeOn look cells next otherNext ∧ AgreeOn look cellsᶜ other otherNext

theorem AgreeOn.refl {cells : Set Cell} (state : State) : AgreeOn look cells state state :=
  fun _ _ => rfl

theorem AgreeOn.symm {cells : Set Cell} {state other : State}
    (agree : AgreeOn look cells state other) : AgreeOn look cells other state :=
  fun cell member => (agree cell member).symm

theorem AgreeOn.mono {cells fewer : Set Cell} {state other : State}
    (agree : AgreeOn look cells state other) (subset : fewer ⊆ cells) :
    AgreeOn look fewer state other :=
  fun cell member => agree cell (subset member)

namespace Pointwise

variable {update further : State → State} {cells more : Set Cell}

theorem id : Pointwise look (fun state => state) cells :=
  ⟨⟨fun _ value => value, fun _ _ => rfl, fun _ _ _ => rfl⟩⟩

theorem comp (after : Pointwise look further cells) (first : Pointwise look update cells) :
    Pointwise look (fun state => further (update state)) cells := by
  obtain ⟨change, changes, keeps⟩ := first.changes
  obtain ⟨changeAgain, changesAgain, keepsAgain⟩ := after.changes
  refine ⟨⟨fun cell value => changeAgain cell (change cell value), ?_, ?_⟩⟩
  · intro state cell
    rw [changesAgain, changes]
  · intro cell outside value
    dsimp only
    rw [keeps cell outside, keepsAgain cell outside]

end Pointwise

namespace LocalAt

variable {operation : State → Except Err (Outcome × State)}
  {further : State → Except Err (Other × State)} {cells otherCells : Set Cell}
  {state next last : State} {outcome : Outcome} {result : Other}

/-- An operation that has decided from the cells what to return and how to update
them. -/
theorem of_pointwise (outcome : Outcome) (update : State → State)
    (pointwise : Pointwise look update cells)
    (acts : ∀ other, AgreeOn look cells state other →
      operation other = .ok (outcome, update other)) :
    LocalAt look operation cells state := by
  intro other outcome' next agree performs
  obtain ⟨rfl, rfl⟩ := Prod.mk.inj (Except.ok.inj ((acts state (.refl state)).symm.trans performs))
  obtain ⟨change, changes, keeps⟩ := pointwise.changes
  refine ⟨update other, acts other agree, ?_, ?_⟩
  · intro cell member
    rw [changes, changes, agree cell member]
  · intro cell outside
    rw [changes, keeps cell outside]

theorem of_error {err : Err} (fails : operation state = .error err) :
    LocalAt look operation cells state := by
  intro other outcome next _ performs
  rw [fails] at performs
  cases performs

theorem congr {same : State → Except Err (Outcome × State)}
    (isLocal : LocalAt look operation cells state)
    (agrees : ∀ other, AgreeOn look cells state other → same other = operation other) :
    LocalAt look same cells state := by
  intro other outcome next agree performs
  rw [agrees state (.refl state)] at performs
  obtain ⟨otherNext, again, inside, outside⟩ := isLocal other outcome next agree performs
  exact ⟨otherNext, (agrees other agree).trans again, inside, outside⟩

/-- The operation is followed by an update of its own cells. -/
theorem followed (isLocal : LocalAt look operation cells state) (returns : Outcome → Other)
    {update : State → State} (pointwise : Pointwise look update cells) :
    LocalAt look
      (fun state => (operation state).map fun result => (returns result.1, update result.2))
      cells state := by
  intro other outcome next agree performs
  dsimp only at performs ⊢
  obtain ⟨⟨result, middle⟩, first, ends⟩ : ∃ result, operation state = .ok result ∧
      (returns result.1, update result.2) = (outcome, next) := by
    cases first : operation state with
    | error err =>
        rw [first] at performs
        cases performs
    | ok result =>
        rw [first] at performs
        exact ⟨result, rfl, Except.ok.inj performs⟩
  obtain ⟨rfl, rfl⟩ := Prod.mk.inj ends
  obtain ⟨otherMiddle, again, inside, outside⟩ := isLocal other result middle agree first
  obtain ⟨change, changes, keeps⟩ := pointwise.changes
  refine ⟨update otherMiddle, by rw [again]; rfl, ?_, ?_⟩
  · intro cell member
    rw [changes, changes, inside cell member]
  · intro cell member
    rw [changes, keeps cell member, outside cell member]

/-- The cells outside the footprint are left alone. -/
theorem frame (isLocal : LocalAt look operation cells state)
    (performs : operation state = .ok (outcome, next)) :
    AgreeOn look cellsᶜ state next := by
  obtain ⟨_, again, _, kept⟩ := isLocal state outcome next (.refl state) performs
  obtain rfl := (Prod.mk.inj (Except.ok.inj (again.symm.trans performs))).2
  exact kept

/-- Two operations with disjoint footprints commute. -/
theorem commute (isLocal : LocalAt look operation cells state)
    (furtherLocal : LocalAt look further otherCells next)
    (apart : Disjoint cells otherCells)
    (performs : operation state = .ok (outcome, next))
    (performsFurther : further next = .ok (result, last)) :
    ∃ middle final, further state = .ok (result, middle) ∧
      operation middle = .ok (outcome, final) ∧ ∀ cell, look final cell = look last cell := by
  have outside : ∀ cell ∈ otherCells, cell ∈ cellsᶜ := fun cell member both =>
    Set.disjoint_left.mp apart both member
  have framed := isLocal.frame performs
  have furtherFramed := furtherLocal.frame performsFurther
  obtain ⟨middle, first, sameFurther, keptFurther⟩ :=
    furtherLocal state result last (framed.symm.mono outside) performsFurther
  have untouched : AgreeOn look cells state middle :=
    keptFurther.mono fun cell member both => Set.disjoint_left.mp apart member both
  obtain ⟨final, second, same, kept⟩ := isLocal middle outcome next untouched performs
  refine ⟨middle, final, first, second, fun cell => ?_⟩
  by_cases member : cell ∈ cells
  · have notFurther : cell ∈ otherCellsᶜ := Set.disjoint_left.mp apart member
    rw [← same cell member, furtherFramed cell notFurther]
  · rw [← kept cell member]
    by_cases further : cell ∈ otherCells
    · exact (sameFurther cell further).symm
    · rw [← keptFurther cell further, framed cell member, furtherFramed cell further]

end LocalAt

end Footprint
