import HttpServer.Library.TransitionSystem

/-!
# Logs that are kept in segments

A log takes entries at its end, each a list of items.  Closing its current segment begins a
new one, and the closed segments stay as they are.
-/

/-- The closed segments of a log, oldest first, and the one that takes the next entry. -/
structure SegmentedLog (Item : Type*) where
  closed : List (List Item) := []
  current : List Item

inductive SegmentAction (Item : Type*) where
  | append (entry : List Item)
  | rotate

namespace SegmentedLog

variable {Item : Type*}

def append (log : SegmentedLog Item) (entry : List Item) : SegmentedLog Item :=
  { log with current := log.current ++ entry }

def rotate (log : SegmentedLog Item) : SegmentedLog Item where
  closed := log.closed ++ [log.current]
  current := []

def segments (log : SegmentedLog Item) : List (List Item) :=
  log.closed ++ [log.current]

/-- Logs that begin with one segment. -/
def system (Item : Type*) : TransitionSystem (SegmentedLog Item) (SegmentAction Item) where
  Initial log := log.closed = []
  step log
    | .append entry => some (log.append entry)
    | .rotate => some log.rotate

/-- The entries of a run, in order. -/
def entries (actions : List (SegmentAction Item)) : List (List Item) :=
  actions.filterMap fun
    | .append entry => some entry
    | .rotate => none

@[simp]
theorem entries_append (actions more : List (SegmentAction Item)) :
    entries (actions ++ more) = entries actions ++ entries more :=
  List.filterMap_append

@[simp]
theorem entries_singleton_append (entry : List Item) :
    entries [.append entry] = [entry] := rfl

@[simp]
theorem entries_singleton_rotate : entries [(.rotate : SegmentAction Item)] = [] := rfl

/-- The segments hold the initial content and all entries in order, and each entry lies in
one segment as a whole. -/
def Holds (log : SegmentedLog Item) (initial : List Item) (entries : List (List Item)) : Prop :=
  ∃ (first : List (List Item)) (blocks : List (List (List Item))),
    entries = first ++ blocks.flatten ∧
      log.segments = (initial ++ first.flatten) :: blocks.map List.flatten

namespace Holds

variable {log : SegmentedLog Item} {initial : List Item} {entries : List (List Item)}

theorem begins : Holds { current := initial } initial [] :=
  ⟨[], [], rfl, by simp [segments]⟩

theorem append (holds : log.Holds initial entries) (entry : List Item) :
    (log.append entry).Holds initial (entries ++ [entry]) := by
  obtain ⟨first, blocks, rfl, split⟩ := holds
  rcases List.eq_nil_or_concat blocks with rfl | ⟨blocks, block, rfl⟩
  · have whole : log.closed ++ [log.current] = [] ++ [initial ++ first.flatten] := split
    obtain ⟨none, current⟩ := List.append_inj' whole rfl
    refine ⟨first ++ [entry], [], by simp, ?_⟩
    rw [segments, SegmentedLog.append, none, List.singleton_inj.mp current]
    simp
  · rw [List.concat_eq_append, List.map_append, ← List.cons_append] at split
    obtain ⟨closed, current⟩ := List.append_inj' split rfl
    refine ⟨first, blocks ++ [block ++ [entry]], by simp, ?_⟩
    rw [segments, SegmentedLog.append, closed, List.singleton_inj.mp current]
    simp

theorem rotate (holds : log.Holds initial entries) : log.rotate.Holds initial entries := by
  obtain ⟨first, blocks, rfl, split⟩ := holds
  refine ⟨first, blocks ++ [[]], by simp, ?_⟩
  rw [segments, SegmentedLog.rotate]
  change log.segments ++ [[]] = _
  rw [split]
  simp

/-- Nothing is lost, and nothing is there twice. -/
theorem flatten_segments (holds : log.Holds initial entries) :
    log.segments.flatten = initial ++ entries.flatten := by
  obtain ⟨first, blocks, rfl, split⟩ := holds
  rw [split, List.flatten_cons, List.append_assoc, List.flatten_append, List.flatten_flatten]

theorem of_steps {actions : List (SegmentAction Item)}
    (steps : (system Item).Steps { current := initial } actions log) :
    log.Holds initial (SegmentedLog.entries actions) := by
  induction steps with
  | refl => exact begins
  | @tail actions middle last action before _ stepTo ih =>
      rw [entries_append]
      cases action with
      | append entry =>
          cases stepTo
          exact ih.append entry
      | rotate =>
          cases stepTo
          simpa using ih.rotate

end Holds

/-- No segment is longer than the limit. -/
def WithinLimit (log : SegmentedLog Item) (limit : Nat) : Prop :=
  ∀ segment ∈ log.segments, segment.length ≤ limit

variable {log : SegmentedLog Item} {limit : Nat}

theorem withinLimit_iff : log.WithinLimit limit ↔
    (∀ segment ∈ log.closed, segment.length ≤ limit) ∧ log.current.length ≤ limit := by
  rw [WithinLimit, segments, List.forall_mem_append, List.forall_mem_singleton]

/-- Only the segment that takes the entry can pass the limit. -/
theorem WithinLimit.append_iff (within : log.WithinLimit limit) {entry : List Item} :
    (log.append entry).WithinLimit limit ↔ log.current.length + entry.length ≤ limit := by
  rw [withinLimit_iff] at within ⊢
  simp only [append, List.length_append]
  exact and_iff_right within.1

theorem WithinLimit.rotate (within : log.WithinLimit limit) : log.rotate.WithinLimit limit := by
  rw [withinLimit_iff]
  exact ⟨within, Nat.zero_le _⟩

end SegmentedLog
