import HttpServer.Basic
import HttpServer.Library.Monitor

/-!
# The queue that the threads share

The member functions of `ThreadSaveQueue` statement by statement, as any number of threads
make them.  The queue is linearizable: what the threads see of it is what they would see if
each member function were one step on the content, as the rest of the model takes it to be.

`push` notifies the condition variable after its unlock; nothing waits there, since `wait_pop`
is never instantiated.
-/

namespace HttpServer

namespace ThreadSaveQueue

/-- The member functions. -/
inductive QueueCall (Item : Type) where
  | empty
  | size
  | push (item : Item)
  | tryPop
  | clear

/-- What the member functions return. -/
inductive QueueResponse (Item : Type) where
  | empty (isEmpty : Bool)
  | size (count : Nat)
  | done
  | popped (item : Option Item)

/-- The statements that are made under `m_QueueMutex`.  Those of `try_pop` are the test with
the move from the front, and `pop`; those of `clear` are the test of its loop and `pop`. -/
inductive QueuePlace (Item : Type) where
  | empty
  | size
  | push (item : Item)
  | tryPop
  | pop (item : Item)
  | clearTest
  | clearPop

variable {Item : Type}

/-- `ThreadSaveQueue` with its mutex. -/
def queueMonitor (Item : Type) :
    Monitor (List Item) (QueueCall Item) (QueueResponse Item) (QueuePlace Item) where
  enter
    | .empty => .empty
    | .size => .size
    | .push item => .push item
    | .tryPop => .tryPop
    | .clear => .clearTest
  statement place queue :=
    match place with
    | .empty => (queue, .inr (.empty queue.isEmpty))
    | .size => (queue, .inr (.size queue.length))
    | .push item => (queue ++ [item], .inr .done)
    | .tryPop =>
        match queue with
        | [] => (queue, .inr (.popped none))
        | item :: _ => (queue, .inl (.pop item))
    | .pop item => (queue.tail, .inr (.popped (some item)))
    | .clearTest => if queue.isEmpty then (queue, .inr .done) else (queue, .inl .clearPop)
    | .clearPop => (queue.tail, .inl .clearTest)

/-- A member function as one step. -/
def perform (queue : ThreadSaveQueue Item) :
    QueueCall Item → Except Empty (Option (QueueResponse Item) × ThreadSaveQueue Item)
  | .empty => .ok (some (.empty queue.isEmpty), queue)
  | .size => .ok (some (.size queue.length), queue)
  | .push item => .ok (some .done, push queue item)
  | .tryPop =>
      let (item, rest) := tryPop queue
      .ok (some (.popped item), rest)
  | .clear => .ok (some .done, clear queue)

/-- The loop of `clear` ends with an empty queue. -/
theorem leads_clear (queue : List Item) :
    (queueMonitor Item).Leads .clearTest queue .done [] := by
  induction queue with
  | nil => exact .unlock rfl
  | cons item rest ih => exact .goOn rfl (.goOn rfl ih)

/-- A critical section does what its member function does. -/
theorem performs_perform (call : QueueCall Item) (queue : ThreadSaveQueue Item) :
    ∃ response after, perform queue call = .ok (some response, after) ∧
      (queueMonitor Item).Performs call queue response after := by
  cases call with
  | empty | size | push => exact ⟨_, _, rfl, .unlock rfl⟩
  | clear => exact ⟨_, _, rfl, leads_clear queue⟩
  | tryPop =>
      cases queue with
      | nil => exact ⟨_, _, rfl, .unlock rfl⟩
      | cons item rest => exact ⟨_, _, rfl, .goOn rfl (.unlock rfl)⟩

theorem perform_of_performs {call : QueueCall Item} {queue after : ThreadSaveQueue Item}
    {response : QueueResponse Item}
    (performs : (queueMonitor Item).Performs call queue response after) :
    perform queue call = .ok (some response, after) := by
  obtain ⟨answer, other, performed, also⟩ := performs_perform call queue
  obtain ⟨rfl, rfl⟩ := also.unique performs
  exact performed

open Replay in
/-- Calls that are performed one after the other are a replay of the member functions. -/
theorem replay_of_sequential {first last : ThreadSaveQueue Item}
    {calls : List (QueueCall Item × QueueResponse Item)}
    (sequential : (queueMonitor Item).Sequential first calls last) :
    replay perform first (calls.map Prod.fst) = .ok (calls.map Prod.snd, last) := by
  induction sequential with
  | refl => rfl
  | tail earlier performs ih =>
      rw [List.map_append, List.map_append]
      exact replay_concat ih (perform_of_performs performs)

/-- In every interleaving of the statements of any number of threads, the calls and returns
that the threads see are those of a queue whose member functions are single steps, each one
between its call and its return.  These steps, one after the other, respond what the threads
are given and leave the content that is there when the mutex is free, and a thread that owns
the mutex needs none of the others to release it. -/
theorem queue_linearizable (Item : Type) (actions : List (Monitor.Action (QueueCall Item)))
    (state : Monitor.State (List Item) (QueueCall Item) (QueueResponse Item) (QueuePlace Item))
    (steps : ((queueMonitor Item).system []).Steps ⟨[], none, fun _ => .idle⟩ actions state) :
    (∃ shown object, ((queueMonitor Item).atomicObject []).Runs ⟨[], fun _ => .idle⟩ shown object ∧
      shown.filter Monitor.Event.isOutside = (queueMonitor Item).history [] actions ∧
      Replay.replay perform [] ((shown.filterMap Monitor.Event.performed?).map Prod.fst) =
        .ok ((shown.filterMap Monitor.Event.performed?).map Prod.snd, object.data) ∧
      (state.owner = none → object.data = state.data)) ∧
    ∀ thread, state.owner = some thread → ∃ count last,
      ((queueMonitor Item).system []).Steps state
        (List.replicate count (.statement thread)) last ∧ last.owner = none := by
  obtain ⟨shown, object, runs, seen, sequential, guarded⟩ := Monitor.linearizable steps
  refine ⟨⟨shown, object, runs, seen, replay_of_sequential sequential, guarded.free⟩, ?_⟩
  intro thread owns
  obtain ⟨call, place, reached⟩ := guarded.inside thread owns
  obtain ⟨_, goes⟩ := guarded.owned thread call place reached
  obtain ⟨response, after, _, performs⟩ := performs_perform call object.data
  obtain ⟨count, last, further, free, _⟩ :=
    Monitor.unlocks (goes.leads_iff.mp performs) rfl reached
  exact ⟨count, last, further, free⟩

/-- Thread 1 calls `try_pop` before thread 0 has pushed, and gets what thread 0 pushes. -/
def pushAndPop : List (Monitor.Action (QueueCall Nat)) :=
  [.call 0 (.push 5), .call 1 .tryPop, .statement 0, .statement 0, .statement 1, .statement 0,
    .statement 1, .statement 1, .statement 1]

theorem queue_linearizable_pushAndPop :
    ∃ shown object, ((queueMonitor Nat).atomicObject []).Runs ⟨[], fun _ => .idle⟩ shown object ∧
      shown.filter Monitor.Event.isOutside =
        [.called 0 (.push 5), .called 1 .tryPop, .returned 0 .done,
          .returned 1 (.popped (some 5))] := by
  have steps : ((queueMonitor Nat).system []).Steps ⟨[], none, fun _ => .idle⟩ pushAndPop _ :=
    TransitionSystem.runWhere_eq_some_iff.mp rfl
  obtain ⟨⟨shown, object, runs, seen, _⟩, _⟩ := queue_linearizable Nat pushAndPop _ steps
  exact ⟨shown, object, runs, seen⟩

end ThreadSaveQueue

end HttpServer
