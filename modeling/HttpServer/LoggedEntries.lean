import HttpServer.Logger
import HttpServer.Library.QueueAccount

/-!
# What becomes of the entries of the logger

The log thread takes the entries off the queue one by one and hands each to `writeFile`
outside of the mutex.  Between two entries it holds none, so that the entries handed over,
the one in its hand and those in the queue are at any time all that were ever written, in
order.  It only leaves its loop when it has found the logger stopped and after that the
queue empty.
-/

namespace HttpServer

open AsyncLoggerCore

variable {Entry : Type}

/-- The entries of the calls of `write`, in the order in which these took the mutex. -/
def writtenEntries (actions : List (LoggerAction Entry)) : List Entry :=
  actions.filterMap fun
    | .write logEntry => some logEntry
    | _ => none

/-- The entries that `writeFile` was called with. -/
def filedEntries (calls : List (FileCall Entry)) : List Entry :=
  calls.filterMap fun
    | .writeFile logEntry => some logEntry
    | .flush => none

namespace LogThread

/-- The entry that the thread has taken off the queue and not yet handed over. -/
def inHand : LogThread Entry → List Entry
  | .unlock msg | .writeFile msg => [msg]
  | _ => []

/-- The thread has found the logger stopped and then the queue empty. -/
def isDone : LogThread Entry → Bool
  | .flush | .exited => true
  | _ => false

/-- The call that the thread makes at its end. -/
def lastCall : LogThread Entry → List (FileCall Entry)
  | .exited => [.flush]
  | _ => []

@[simp]
theorem inHand_wakeUp (place : LogThread Entry) : place.wakeUp.inHand = place.inHand := by
  cases place <;> rfl

@[simp]
theorem isDone_wakeUp (place : LogThread Entry) : place.wakeUp.isDone = place.isDone := by
  cases place <;> rfl

@[simp]
theorem lastCall_wakeUp (place : LogThread Entry) : place.wakeUp.lastCall = place.lastCall := by
  cases place <;> rfl

theorem wakeUp_eq_queueTest {place : LogThread Entry} :
    place.wakeUp = .queueTest ↔ place = .queueTest := by
  cases place <;> simp [wakeUp]

end LogThread

/-- Everything that was written before `stop` was first called has been handed over. -/
def FiledBeforeStop (actions : List (LoggerAction Entry)) (calls : List (FileCall Entry)) :
    Prop :=
  ∀ before after, actions = before ++ .stop :: after → .stop ∉ before →
    writtenEntries before <+: filedEntries calls

/-- Where the entries written so far are. -/
structure EntriesKept (actions : List (LoggerAction Entry))
    (logger : AsyncLoggerCore Entry) : Prop where
  account : QueueAccount (filedEntries logger.fileCalls ++ logger.logThread.inHand)
    logger.messageQueue (writtenEntries actions)
  calls : logger.fileCalls =
    (filedEntries logger.fileCalls).map .writeFile ++ logger.logThread.lastCall
  called : logger.stop ≠ .idle → .stop ∈ actions
  stopped : logger.running = false → .stop ∈ actions
  noticed : logger.logThread = .queueTest → logger.running = false
  done : logger.logThread.isDone = true →
    logger.running = false ∧ FiledBeforeStop actions logger.fileCalls

section Steps

variable {actions more : List (LoggerAction Entry)} {action : LoggerAction Entry}
  {logger next : AsyncLoggerCore Entry}

theorem writtenEntries_append :
    writtenEntries (actions ++ more) = writtenEntries actions ++ writtenEntries more :=
  List.filterMap_append

theorem filedEntries_append {calls : List (FileCall Entry)} {call : FileCall Entry} :
    filedEntries (calls ++ [call]) = filedEntries calls ++ filedEntries [call] :=
  List.filterMap_append

/-- A further action does not change what was written before the first `stop`. -/
theorem FiledBeforeStop.append {calls : List (FileCall Entry)}
    (filed : FiledBeforeStop actions calls) (stopped : .stop ∈ actions) :
    FiledBeforeStop (actions ++ [action]) calls := by
  intro before after split first
  rcases List.eq_nil_or_concat after with rfl | ⟨rest, last, rfl⟩
  · obtain ⟨same, _⟩ := List.append_inj' split rfl
    rw [same] at stopped
    exact absurd stopped first
  · rw [List.concat_eq_append, ← List.cons_append, ← List.append_assoc] at split
    obtain ⟨same, _⟩ := List.append_inj' split rfl
    exact filed before rest same first

/-- What has been handed over when everything written has been. -/
theorem filedBeforeStop_of_eq {calls : List (FileCall Entry)}
    (all : filedEntries calls = writtenEntries actions) : FiledBeforeStop actions calls := by
  rintro before after rfl _
  rw [all, writtenEntries_append]
  exact List.prefix_append _ _

theorem EntriesKept.initial : EntriesKept [] ({} : AsyncLoggerCore Entry) where
  account := .initial
  calls := rfl
  called := by simp
  stopped := by simp
  noticed := nofun
  done := nofun

/-- A step of the log thread that only moves it. -/
theorem EntriesKept.moveTo (kept : EntriesKept actions logger) {place : LogThread Entry}
    (inHand : place.inHand = logger.logThread.inHand)
    (lastCall : place.lastCall = logger.logThread.lastCall)
    (noticed : place = .queueTest → logger.running = false)
    (done : place.isDone = true →
      logger.running = false ∧ FiledBeforeStop actions logger.fileCalls) :
    EntriesKept actions (logger.moveTo place) where
  account := by
    show QueueAccount (filedEntries logger.fileCalls ++ place.inHand) _ _
    rw [inHand]
    exact kept.account
  calls := by
    show logger.fileCalls = (filedEntries logger.fileCalls).map .writeFile ++ place.lastCall
    rw [lastCall]
    exact kept.calls
  called := kept.called
  stopped := kept.stopped
  noticed := noticed
  done := done

theorem EntriesKept.run (kept : EntriesKept actions logger) (runs : RunStep logger next) :
    EntriesKept actions next := by
  cases runs with
  | again place | queued place | lock place | ready place | waits place | park place
  | notified place | written place | relock place | leave place =>
      exact kept.moveTo (by rw [place]; rfl) (by rw [place]; rfl) nofun nofun
  | unlock place => exact kept.moveTo (by rw [place]; rfl) (by rw [place]; rfl) nofun nofun
  | stopped place stopped =>
      exact kept.moveTo (by rw [place]; rfl) (by rw [place]; rfl) (fun _ => stopped) nofun
  | drained place queue =>
      refine kept.moveTo (by rw [place]; rfl) (by rw [place]; rfl) nofun fun _ =>
        ⟨kept.noticed place, filedBeforeStop_of_eq ?_⟩
      have account := kept.account
      rw [place, queue] at account
      exact (List.append_nil _).symm.trans account.drained
  | @pop msg rest place queue =>
      have account := kept.account
      have calls := kept.calls
      rw [place] at account calls
      change QueueAccount (filedEntries logger.fileCalls ++ []) _ _ at account
      rw [List.append_nil, queue] at account
      exact { kept with account := account.takes, calls, noticed := nofun, done := nofun }
  | @writeFile msg place =>
      have account := kept.account
      have calls := kept.calls
      rw [place] at account calls
      have oneMore : filedEntries (logger.fileCalls ++ [.writeFile msg]) =
          filedEntries logger.fileCalls ++ [msg] := filedEntries_append
      refine { kept with account := ?_, calls := ?_, noticed := nofun, done := nofun }
      · rw [oneMore]
        change QueueAccount (filedEntries logger.fileCalls ++ [msg] ++ []) _ _
        rw [List.append_nil]
        exact account
      · rw [oneMore, List.map_append]
        change logger.fileCalls ++ [.writeFile msg] =
          (filedEntries logger.fileCalls).map .writeFile ++ [.writeFile msg] ++ []
        change logger.fileCalls = (filedEntries logger.fileCalls).map .writeFile ++ [] at calls
        rw [List.append_nil] at calls ⊢
        rw [← calls]
  | flush place =>
      have account := kept.account
      have calls := kept.calls
      obtain ⟨stopped, filed⟩ := kept.done (by rw [place]; rfl)
      rw [place] at account calls
      have noMore : filedEntries (logger.fileCalls ++ [.flush]) =
          filedEntries logger.fileCalls :=
        filedEntries_append.trans (List.append_nil _)
      refine { kept with account := ?_, calls := ?_, noticed := nofun, done := fun _ => ?_ }
      · rw [noMore]
        exact account
      · rw [noMore]
        change logger.fileCalls ++ [.flush] =
          (filedEntries logger.fileCalls).map .writeFile ++ [.flush]
        change logger.fileCalls = (filedEntries logger.fileCalls).map .writeFile ++ [] at calls
        rw [List.append_nil] at calls
        rw [← calls]
      · refine ⟨stopped, fun before after split first => ?_⟩
        rw [noMore]
        exact filed before after split first

/-- What a further action that writes nothing leaves of the account. -/
theorem EntriesKept.append (kept : EntriesKept actions logger)
    (writes : writtenEntries [action] = []) : EntriesKept (actions ++ [action]) logger where
  account := by
    rw [writtenEntries_append, writes, List.append_nil]
    exact kept.account
  calls := kept.calls
  called called := List.mem_append_left _ (kept.called called)
  stopped stopped := List.mem_append_left _ (kept.stopped stopped)
  noticed := kept.noticed
  done done := by
    obtain ⟨stopped, filed⟩ := kept.done done
    exact ⟨stopped, filed.append (kept.stopped stopped)⟩

theorem EntriesKept.write (kept : EntriesKept actions logger) {logEntry : Entry} :
    EntriesKept (actions ++ [.write logEntry]) { logger with
      messageQueue := logger.messageQueue ++ [logEntry]
      logThread := logger.logThread.wakeUp } where
  account := by
    rw [writtenEntries_append]
    dsimp only
    rw [LogThread.inHand_wakeUp]
    exact kept.account.arrives
  calls := by
    dsimp only
    rw [LogThread.lastCall_wakeUp]
    exact kept.calls
  called called := List.mem_append_left _ (kept.called called)
  stopped stopped := List.mem_append_left _ (kept.stopped stopped)
  noticed place := kept.noticed (LogThread.wakeUp_eq_queueTest.mp place)
  done done := by
    rw [LogThread.isDone_wakeUp] at done
    obtain ⟨stopped, filed⟩ := kept.done done
    exact ⟨stopped, filed.append (kept.stopped stopped)⟩

theorem EntriesKept.step (kept : EntriesKept actions logger)
    (steps : LoggerStep logger action next) : EntriesKept (actions ++ [action]) next := by
  cases steps with
  | write unlocked => exact kept.write
  | logThread runs => exact (kept.run runs).append rfl
  | wake parked =>
      have moved : EntriesKept actions (logger.moveTo .notified) :=
        kept.moveTo (by rw [parked]; rfl) (by rw [parked]; rfl) nofun nofun
      exact moved.append rfl
  | stop place =>
      have appended : EntriesKept (actions ++ [.stop]) logger := kept.append rfl
      exact { appended with
        called := fun _ => List.mem_append_right _ (List.mem_singleton.mpr rfl) }
  | clearRunning place =>
      have called := kept.called (by rw [place]; nofun)
      have appended : EntriesKept (actions ++ [.stopStep]) logger := kept.append rfl
      refine { appended with
        called := fun _ => List.mem_append_left _ called
        stopped := fun _ => List.mem_append_left _ called
        noticed := fun _ => rfl
        done := fun done => ⟨rfl, (appended.done done).2⟩ }
  | notifyAll place =>
      have called := kept.called (by rw [place]; nofun)
      have moved : EntriesKept actions (logger.moveTo logger.logThread.wakeUp) :=
        kept.moveTo (LogThread.inHand_wakeUp _) (LogThread.lastCall_wakeUp _)
          (fun woken => kept.noticed (LogThread.wakeUp_eq_queueTest.mp woken))
          (by rw [LogThread.isDone_wakeUp]; exact kept.done)
      have appended : EntriesKept (actions ++ [.stopStep]) _ := moved.append rfl
      exact { appended with called := fun _ => List.mem_append_left _ called }
  | join place ended =>
      have called := kept.called (by rw [place]; nofun)
      have appended : EntriesKept (actions ++ [.stopStep]) logger := kept.append rfl
      exact { appended with called := fun _ => List.mem_append_left _ called }

theorem entriesKept_of_steps (steps : (loggerSystem Entry).Steps {} actions logger) :
    EntriesKept actions logger :=
  steps.invariant EntriesKept .initial fun _ _ _ _ _ kept _ stepTo =>
    kept.step (loggerStep_of_step stepTo)

/-- The logger loses nothing: the entries handed to `writeFile` are the first ones written,
each handed over once and in order, and once the log thread has ended they are followed by
one `flush` and contain all those that were written before `stop` was first called. -/
theorem no_entry_lost (steps : (loggerSystem Entry).Steps {} actions logger) :
    filedEntries logger.fileCalls <+: writtenEntries actions ∧
      (logger.logThread = .exited →
        logger.fileCalls = (filedEntries logger.fileCalls).map .writeFile ++ [.flush] ∧
        ∀ before after, actions = before ++ .stop :: after → .stop ∉ before →
          writtenEntries before <+: filedEntries logger.fileCalls) := by
  have kept := entriesKept_of_steps steps
  refine ⟨(List.prefix_append _ _).trans kept.account.taken_prefix, fun ended => ⟨?_, ?_⟩⟩
  · have calls := kept.calls
    rw [ended] at calls
    exact calls
  · exact (kept.done (by rw [ended]; rfl)).2

/-- An entry is written while the thread writes another, then `stop` is called, and a third
entry comes too late. -/
theorem no_entry_lost_late :
    let actions : List (LoggerAction Nat) :=
      [.write 7] ++ List.replicate 5 .logThread ++ [.write 8, .logThread, .stop, .stopStep,
        .stopStep] ++ List.replicate 10 .logThread ++ [.write 9]
    let logger : AsyncLoggerCore Nat :=
      { running := false, messageQueue := [9], logThread := .exited, stop := .join,
        fileCalls := [.writeFile 7, .writeFile 8, .flush] }
    filedEntries logger.fileCalls <+: writtenEntries actions ∧
      (logger.logThread = .exited →
        logger.fileCalls = (filedEntries logger.fileCalls).map .writeFile ++ [.flush] ∧
        ∀ before after, actions = before ++ .stop :: after → .stop ∉ before →
          writtenEntries before <+: filedEntries logger.fileCalls) :=
  no_entry_lost (TransitionSystem.runWhere_eq_some_iff.mp rfl)

end Steps

end HttpServer
