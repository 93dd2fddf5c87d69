import Mathlib.Data.List.Count

/-!
# Logs of calls that open and close handles

A component that can hold one handle at a time logs the calls it makes.  The log
is balanced when every handle was closed as often as it was opened, once less if
it is the one that is held.  The handles that are open are those opened and not closed
since.

Where no handle is handed out twice, and each goes to one holder, no two holders
ever own the same one.
-/

/-- Which handle a call opens and which it closes, if any. -/
structure HandleCalls (Call Handle : Type*) where
  opened : Call → Option Handle
  closed : Call → Option Handle

namespace HandleCalls

variable {Call Handle : Type*} [DecidableEq Handle]

def Balanced (kind : HandleCalls Call Handle) (log : List Call) (held : Option Handle) :
    Prop :=
  ∀ handle, log.countP (fun call => kind.opened call = some handle) =
    log.countP (fun call => kind.closed call = some handle) +
      if held = some handle then 1 else 0

variable {kind : HandleCalls Call Handle} {log : List Call} {held : Option Handle}
  {call : Call}

theorem Balanced.nil : kind.Balanced [] none := by
  intro handle
  simp

theorem Balanced.append_other (balanced : kind.Balanced log held)
    (opens : kind.opened call = none) (closes : kind.closed call = none) :
    kind.Balanced (log ++ [call]) held := by
  intro handle
  simp [balanced handle, opens, closes]

/-- The call opens a handle, or fails to, while none is held. -/
theorem Balanced.append_open (balanced : kind.Balanced log none)
    (opens : kind.opened call = held) (closes : kind.closed call = none) :
    kind.Balanced (log ++ [call]) held := by
  intro handle
  simp [balanced handle, opens, closes, List.countP_cons]

/-- The call closes the handle that is held, if there is one. -/
theorem Balanced.append_close (balanced : kind.Balanced log held)
    (opens : kind.opened call = none) (closes : kind.closed call = held) :
    kind.Balanced (log ++ [call]) none := by
  intro handle
  simp [balanced handle, opens, closes, List.countP_cons]

/-- What is open after one more call. -/
def afterCall (kind : HandleCalls Call Handle) (held : List Handle) (call : Call) :
    List Handle :=
  match kind.closed call with
  | some handle => held.filter (· ≠ handle)
  | none => held ++ (kind.opened call).toList

/-- The handles that were opened and have not been closed since. -/
def openHandles (kind : HandleCalls Call Handle) (log : List Call) : List Handle :=
  log.foldl kind.afterCall []

theorem openHandles_append :
    kind.openHandles (log ++ [call]) = kind.afterCall (kind.openHandles log) call := by
  simp [openHandles]

theorem openHandles_append_other (opens : kind.opened call = none)
    (closes : kind.closed call = none) :
    kind.openHandles (log ++ [call]) = kind.openHandles log := by
  simp [openHandles_append, afterCall, opens, closes]

/-- The call opens a handle, or fails to, while none is open. -/
theorem openHandles_append_open (none : kind.openHandles log = [])
    (opens : kind.opened call = held) (closes : kind.closed call = .none) :
    kind.openHandles (log ++ [call]) = held.toList := by
  simp [openHandles_append, afterCall, opens, closes, none]

/-- The call closes the one handle that is open, if there is one. -/
theorem openHandles_append_close (one : kind.openHandles log = held.toList)
    (opens : kind.opened call = none) (closes : kind.closed call = held) :
    kind.openHandles (log ++ [call]) = [] := by
  cases held with
  | none => simp [openHandles_append, afterCall, opens, closes, one]
  | some handle => simp [openHandles_append, afterCall, closes, one]

end HandleCalls

/-- Every handle owned was handed out, and none is owned by two holders. -/
structure HandedOut {Holder Handle : Type*} (owns : Holder → Handle → Prop)
    (handed : List Handle) : Prop where
  member : ∀ {holder handle}, owns holder handle → handle ∈ handed
  apart : ∀ {first second handle}, owns first handle → owns second handle → first = second

namespace HandedOut

variable {Holder Handle : Type*} {owns after : Holder → Handle → Prop}
  {handed : List Handle}

theorem none (empty : ∀ holder handle, ¬ owns holder handle) : HandedOut owns handed where
  member owned := (empty _ _ owned).elim
  apart owned := (empty _ _ owned).elim

/-- The handles created in a step go to one holder, which owns them if they are new. -/
theorem step (out : HandedOut owns handed) {taker : Option Holder} {created : List Handle}
    (owned : ∀ holder handle, after holder handle →
      owns holder handle ∨ taker = some holder ∧ handle ∈ created)
    (fresh : ∀ holder handle, after holder handle → handle ∈ created → handle ∉ handed) :
    HandedOut after (handed ++ created) where
  member holds := by
    rcases owned _ _ holds with before | ⟨_, member⟩
    · exact List.mem_append_left _ (out.member before)
    · exact List.mem_append_right _ member
  apart first second := by
    rcases owned _ _ first with beforeFirst | ⟨takesFirst, member⟩
    · rcases owned _ _ second with beforeSecond | ⟨_, member⟩
      · exact out.apart beforeFirst beforeSecond
      · exact (fresh _ _ second member (out.member beforeFirst)).elim
    · rcases owned _ _ second with beforeSecond | ⟨takesSecond, _⟩
      · exact (fresh _ _ first member (out.member beforeSecond)).elim
      · exact Option.some.inj (takesFirst.symm.trans takesSecond)

end HandedOut
