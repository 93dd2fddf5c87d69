import HttpServer.Basic
import HttpServer.Library.TransitionSystem

/-!
# The life of a listener's handles

What the two handles of a listener are for: `initSocket` creates them, polling
uses the poll group, and one `DestroySocket` closes both before the next
`initSocket` succeeds.  This order is a small system of its own, and in each of
its runs the events before a use of a handle tell where the handle comes from.
-/

namespace HttpServer

/-- What happens to the handles of a listener: an `initSocket` succeeds, a
`ReceiveMessagesOnPollGroup` is called, a `DestroySocket` begins and makes its two
calls, and the listener object is destroyed. -/
inductive HandleEvent where
  | initialized (handlers : SocketHandlers)
  | received (pollGroup : HSteamNetPollGroup)
  | destroyBegins
  | socketClosed (socket : HSteamListenSocket)
  | pollGroupDestroyed (pollGroup : HSteamNetPollGroup)
  | discarded
deriving DecidableEq

/-- Which handles are open, and how far `DestroySocket` is with them. -/
inductive HandlePhase where
  | closed
  | opened (handlers : SocketHandlers)
  | closing (handlers : SocketHandlers)
  | halfClosed (pollGroup : HSteamNetPollGroup)
deriving DecidableEq

/-- The order in which the handles of a listener are created, used and closed. -/
def handleProtocol : TransitionSystem HandlePhase HandleEvent where
  Initial phase := phase = .closed
  step
    | .closed, .initialized handlers => some (.opened handlers)
    | .opened handlers, .received pollGroup =>
        if pollGroup = handlers.pollGroup then some (.opened handlers) else none
    | .opened handlers, .destroyBegins => some (.closing handlers)
    | .closing handlers, .socketClosed socket =>
        if socket = handlers.socket then some (.halfClosed handlers.pollGroup) else none
    | .halfClosed held, .pollGroupDestroyed pollGroup =>
        if pollGroup = held then some .closed else none
    | _, .discarded => some .closed
    | _, _ => none

/-- The last thing before `ending` that is not polling is the `initSocket` that
created the handles. -/
def CreatedBefore (events : List HandleEvent) (handlers : SocketHandlers)
    (ending : List HandleEvent) : Prop :=
  ∃ earlier later, events = earlier ++ .initialized handlers :: later ++ ending ∧
    ∀ event ∈ later, event = .received handlers.pollGroup

/-- The events lead from the `initSocket` that created the handles to the
phase. -/
def HandlePhase.ReachedBy (phase : HandlePhase) (events : List HandleEvent) : Prop :=
  match phase with
  | closed => True
  | opened handlers => CreatedBefore events handlers []
  | closing handlers => CreatedBefore events handlers [.destroyBegins]
  | halfClosed pollGroup => ∃ handlers, pollGroup = handlers.pollGroup ∧
      CreatedBefore events handlers [.destroyBegins, .socketClosed handlers.socket]

section Protocol

variable {events before after : List HandleEvent} {phase next : HandlePhase}
  {event : HandleEvent} {handlers : SocketHandlers}

theorem CreatedBefore.extend {ending : List HandleEvent}
    (created : CreatedBefore events handlers ending) :
    CreatedBefore (events ++ [event]) handlers (ending ++ [event]) := by
  obtain ⟨earlier, later, rfl, polls⟩ := created
  exact ⟨earlier, later, by simp, polls⟩

theorem CreatedBefore.poll (created : CreatedBefore events handlers []) :
    CreatedBefore (events ++ [.received handlers.pollGroup]) handlers [] := by
  obtain ⟨earlier, later, rfl, polls⟩ := created
  refine ⟨earlier, later ++ [.received handlers.pollGroup], by simp, ?_⟩
  intro event member
  rcases List.mem_append.mp member with before | last
  · exact polls event before
  · exact List.mem_singleton.mp last

/-- One more event of the protocol. -/
theorem HandlePhase.ReachedBy.step (reached : phase.ReachedBy events)
    (moves : handleProtocol.step phase event = some next) :
    next.ReachedBy (events ++ [event]) := by
  cases event with
  | initialized created =>
      cases phase with
      | closed =>
          obtain rfl := Option.some.inj moves
          exact ⟨events, [], by simp, by simp⟩
      | _ => cases moves
  | received pollGroup =>
      cases phase with
      | opened handlers =>
          dsimp only [handleProtocol] at moves
          split at moves
          next same =>
            obtain rfl := Option.some.inj moves
            rw [same]
            exact CreatedBefore.poll reached
          · cases moves
      | _ => cases moves
  | destroyBegins =>
      cases phase with
      | opened handlers =>
          obtain rfl := Option.some.inj moves
          exact CreatedBefore.extend reached
      | _ => cases moves
  | socketClosed socket =>
      cases phase with
      | closing handlers =>
          dsimp only [handleProtocol] at moves
          split at moves
          next same =>
            obtain rfl := Option.some.inj moves
            rw [same]
            exact ⟨handlers, rfl, CreatedBefore.extend reached⟩
          · cases moves
      | _ => cases moves
  | pollGroupDestroyed pollGroup =>
      cases phase with
      | halfClosed held =>
          dsimp only [handleProtocol] at moves
          split at moves
          next same =>
            obtain rfl := Option.some.inj moves
            trivial
          · cases moves
      | _ => cases moves
  | discarded =>
      cases phase <;>
        (obtain rfl := Option.some.inj moves; trivial)

theorem reachedBy_of_steps (steps : handleProtocol.Steps .closed events phase) :
    phase.ReachedBy events :=
  steps.invariant (fun events phase => phase.ReachedBy events)
    (show HandlePhase.closed.ReachedBy [] from trivial)
    fun _ _ _ _ _ reached _ moves => reached.step moves

/-- The phase in which an event of a run takes place. -/
theorem phase_of_event (steps : handleProtocol.Steps .closed events phase)
    (split : events = before ++ event :: after) :
    ∃ middle next, middle.ReachedBy before ∧
      handleProtocol.step middle event = some next := by
  rw [split, ← List.singleton_append] at steps
  obtain ⟨middle, reaches, rest⟩ := steps.of_append
  obtain ⟨next, moves, _⟩ := rest.of_append
  exact ⟨middle, next, reachedBy_of_steps reaches, moves.of_single.2⟩

/-- Polling uses the poll group of the last `initSocket`, and no `DestroySocket`
has begun since. -/
theorem created_of_received {pollGroup : HSteamNetPollGroup}
    (steps : handleProtocol.Steps .closed events phase)
    (split : events = before ++ .received pollGroup :: after) :
    ∃ handlers, pollGroup = handlers.pollGroup ∧ CreatedBefore before handlers [] := by
  obtain ⟨middle, next, reached, moves⟩ := phase_of_event steps split
  cases middle with
  | opened handlers =>
      dsimp only [handleProtocol] at moves
      split at moves
      next same => exact ⟨handlers, same, reached⟩
      · cases moves
  | _ => cases moves

/-- `DestroySocket` closes the socket of the last `initSocket`, which succeeded
before it began. -/
theorem created_of_socketClosed {socket : HSteamListenSocket}
    (steps : handleProtocol.Steps .closed events phase)
    (split : events = before ++ .socketClosed socket :: after) :
    ∃ handlers, socket = handlers.socket ∧
      CreatedBefore before handlers [.destroyBegins] := by
  obtain ⟨middle, next, reached, moves⟩ := phase_of_event steps split
  cases middle with
  | closing handlers =>
      dsimp only [handleProtocol] at moves
      split at moves
      next same => exact ⟨handlers, same, reached⟩
      · cases moves
  | _ => cases moves

theorem created_of_pollGroupDestroyed {pollGroup : HSteamNetPollGroup}
    (steps : handleProtocol.Steps .closed events phase)
    (split : events = before ++ .pollGroupDestroyed pollGroup :: after) :
    ∃ handlers, pollGroup = handlers.pollGroup ∧
      CreatedBefore before handlers [.destroyBegins, .socketClosed handlers.socket] := by
  obtain ⟨middle, next, reached, moves⟩ := phase_of_event steps split
  cases middle with
  | halfClosed held =>
      dsimp only [handleProtocol] at moves
      split at moves
      next same =>
        rw [same]
        exact reached
      · cases moves
  | _ => cases moves

end Protocol

end HttpServer
