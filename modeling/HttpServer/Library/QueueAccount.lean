import Mathlib.Data.List.Basic
import HttpServer.Library.Replay
import HttpServer.Library.TransitionSystem

/-!
# Accounts of a queue

A queue from which items are only taken at its head and to which they are only added at
its end, next to all items that have ever arrived and those that have been taken: the
account is correct when the items taken, followed by those queued, are the ones arrived.

A queue that loses items still hands over what it does not lose in order; and if items are
lost only when it is cleared and closed, what is taken is what arrived first.
-/

/-- The items taken, those still queued, and all that have arrived, each oldest first. -/
def QueueAccount {Item : Type*} (taken queue arrived : List Item) : Prop :=
  taken ++ queue = arrived

namespace QueueAccount

variable {Item : Type*} {taken queue rest arrived before : List Item} {item : Item}

/-- Items that are queued at first count as arrived. -/
theorem initial : QueueAccount [] queue queue := rfl

theorem arrives (account : QueueAccount taken queue arrived) :
    QueueAccount taken (queue ++ [item]) (arrived ++ [item]) := by
  rw [QueueAccount, ← List.append_assoc, account]

theorem takes (account : QueueAccount taken (item :: rest) arrived) :
    QueueAccount (taken ++ [item]) rest arrived := by
  rw [QueueAccount, List.append_assoc]
  exact account

/-- What is taken is taken once, in the order of arrival. -/
theorem taken_prefix (account : QueueAccount taken queue arrived) : taken <+: arrived :=
  ⟨queue, account⟩

/-- Once the queue is empty everything that had arrived has been taken. -/
theorem drained (account : QueueAccount taken [] arrived) : taken = arrived := by
  rw [← account, List.append_nil]

end QueueAccount

/-- Whatever a step drops of a queue, what it takes and leaves is in order. -/
def LossyStep {Item : Type*} (queue taken arrived next : List Item) : Prop :=
  (taken ++ next).Sublist (queue ++ arrived)

namespace LossyStep

variable {Item : Type*} {queue taken arrived next before into : List Item}

/-- A step that only drops items. -/
theorem drops (remains : next.Sublist queue) : LossyStep queue [] [] next := by
  rwa [LossyStep, List.nil_append, List.append_nil]

theorem account (step : LossyStep queue taken arrived next)
    (account : (before ++ queue).Sublist into) :
    (before ++ taken ++ next).Sublist (into ++ arrived) := by
  have moved := List.Sublist.append_left step before
  rw [← List.append_assoc, ← List.append_assoc] at moved
  exact moved.trans (account.append_right arrived)

end LossyStep

/-- What a step does to a queue: items are taken at its head and arrive at its end, or it is
cleared. -/
def QueueStep {Item : Type*} (queue taken arrived next : List Item) : Prop :=
  QueueAccount taken next (queue ++ arrived) ∨ taken = [] ∧ arrived = [] ∧ next = []

namespace QueueStep

variable {Item : Type*} {queue taken arrived next : List Item}

theorem refl : QueueStep queue [] [] queue :=
  Or.inl (List.append_nil queue).symm

theorem lossy (step : QueueStep queue taken arrived next) :
    LossyStep queue taken arrived next := by
  rcases step with moves | ⟨rfl, rfl, rfl⟩
  · rw [LossyStep, moves]
  · exact List.nil_sublist _

end QueueStep

namespace TransitionSystem.StepsWhere

variable {State Action Item : Type*} {system : TransitionSystem State Action}
  {condition : State → Action → Prop} {first last : State} {actions : List Action}
  (queue : State → List Item) (taken arrived : State × Action → List Item)

/-- What a run takes from a queue, followed by what is queued in the end, is some of what was
queued and has arrived, in order. -/
theorem queue_sublist
    (each : ∀ before state action next, system.StepsWhere condition first before state →
      condition state action → system.step state action = some next →
      LossyStep (queue state) (taken (state, action)) (arrived (state, action)) (queue next))
    (steps : system.StepsWhere condition first actions last) :
    ((system.trace first actions).flatMap taken ++ queue last).Sublist
      (queue first ++ (system.trace first actions).flatMap arrived) := by
  induction steps with
  | refl => simp [trace]
  | tail before meets stepTo ih =>
      rw [before.trace_concat, List.flatMap_append, List.flatMap_append,
        List.flatMap_singleton, List.flatMap_singleton, ← List.append_assoc (queue first)]
      exact (each _ _ _ _ before meets stepTo).account ih

/-- A queue that is closed for good when it loses items: while it is open its account is
exact, and what is taken is what arrived first. -/
theorem queue_prefix (closed : State → Prop) (empty : queue first = [])
    (moves : ∀ before state action next, system.StepsWhere condition first before state →
      condition state action → system.step state action = some next →
      QueueAccount (taken (state, action)) (queue next)
          (queue state ++ arrived (state, action)) ∨
        taken (state, action) = [] ∧ arrived (state, action) = [] ∧ closed next)
    (stays : ∀ before state action next, system.StepsWhere condition first before state →
      closed state → condition state action → system.step state action = some next →
      taken (state, action) = [] ∧ arrived (state, action) = [] ∧ closed next)
    (steps : system.StepsWhere condition first actions last) :
    (system.trace first actions).flatMap taken <+:
        (system.trace first actions).flatMap arrived ∧
      (closed last ∨ QueueAccount ((system.trace first actions).flatMap taken) (queue last)
        ((system.trace first actions).flatMap arrived)) := by
  induction steps with
  | refl => simpa [trace, empty] using Or.inr QueueAccount.initial
  | @tail actions middle last action before meets stepTo ih =>
      rw [before.trace_concat, List.flatMap_append, List.flatMap_append,
        List.flatMap_singleton, List.flatMap_singleton]
      obtain ⟨kept, shut | account⟩ := ih
      · obtain ⟨taken, arrived, shut⟩ := stays _ _ _ _ before shut meets stepTo
        rw [taken, arrived, List.append_nil, List.append_nil]
        exact ⟨kept, Or.inl shut⟩
      · rcases moves _ _ _ _ before meets stepTo with moved | ⟨taken, arrived, shut⟩
        · have account := Replay.account_concat account moved
          exact ⟨QueueAccount.taken_prefix account, Or.inr account⟩
        · rw [taken, arrived, List.append_nil, List.append_nil]
          exact ⟨kept, Or.inl shut⟩

end TransitionSystem.StepsWhere
