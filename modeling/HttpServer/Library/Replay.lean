import Mathlib.Data.List.Basic

/-!
# Sequential executions and accounts

A sequential object performs one event after the other and responds to some of
them.  What a run of a concurrent system has done to the object is compared with
such an execution.  What passes through a queue is described by an account: what
has come out and what is still held is what has gone in, in this order.
-/

namespace Replay

variable {State Event Response Err Item Other : Type*}

/-- Perform the events in order and collect the responses. -/
def replay (perform : State → Event → Except Err (Option Response × State)) :
    State → List Event → Except Err (List Response × State)
  | state, [] => .ok ([], state)
  | state, event :: events => do
      let (response, next) ← perform state event
      let (responses, last) ← replay perform next events
      .ok (response.toList ++ responses, last)

variable {perform : State → Event → Except Err (Option Response × State)}

theorem replay_nil {state : State} : replay perform state [] = .ok ([], state) := rfl

theorem replay_cons_eq_ok_iff {first last : State} {event : Event} {events : List Event}
    {all : List Response} :
    replay perform first (event :: events) = .ok (all, last) ↔
      ∃ response next responses, perform first event = .ok (response, next) ∧
        replay perform next events = .ok (responses, last) ∧
        response.toList ++ responses = all := by
  rw [replay]
  cases begins : perform first event with
  | error err => simp [bind, Except.bind]
  | ok result =>
      obtain ⟨response, next⟩ := result
      cases continues : replay perform next events with
      | error err => simp [bind, Except.bind, continues]
      | ok rest =>
          obtain ⟨responses, final⟩ := rest
          constructor
          · intro same
            simp only [bind, Except.bind, continues, Except.ok.injEq, Prod.mk.injEq] at same
            obtain ⟨rfl, rfl⟩ := same
            exact ⟨response, next, responses, rfl, continues, rfl⟩
          · rintro ⟨_, _, _, same, further, rfl⟩
            obtain ⟨rfl, rfl⟩ := Prod.mk.inj (Except.ok.inj same)
            obtain ⟨rfl, rfl⟩ := Prod.mk.inj (Except.ok.inj (continues.symm.trans further))
            simp [bind, Except.bind, continues]

/-- An execution is carried on by one more event. -/
theorem replay_concat {first state next : State} {event : Event} {events : List Event}
    {responses : List Response} {response : Option Response}
    (before : replay perform first events = .ok (responses, state))
    (performs : perform state event = .ok (response, next)) :
    replay perform first (events ++ [event]) = .ok (responses ++ response.toList, next) := by
  induction events generalizing first responses with
  | nil =>
      obtain ⟨rfl, rfl⟩ := Prod.mk.inj (Except.ok.inj before)
      exact replay_cons_eq_ok_iff.mpr ⟨response, next, [], performs, replay_nil, by simp⟩
  | cons head events ih =>
      obtain ⟨begun, middle, others, performsHead, continues, rfl⟩ :=
        replay_cons_eq_ok_iff.mp before
      exact replay_cons_eq_ok_iff.mpr
        ⟨begun, middle, others ++ response.toList, performsHead, ih continues, by simp⟩

/-- An account is carried on by what is taken from and added to what is held. -/
theorem account_concat {out held into taken left added : List Item}
    (account : out ++ held = into) (flow : taken ++ left = held ++ added) :
    (out ++ taken) ++ left = into ++ added := by
  rw [List.append_assoc, flow, ← List.append_assoc, account]

theorem filterMap_concat {function : Item → Option Other} {items : List Item} {item : Item} :
    (items ++ [item]).filterMap function = items.filterMap function ++ (function item).toList := by
  rw [List.filterMap_append]
  cases image : function item <;> simp [image]

end Replay
