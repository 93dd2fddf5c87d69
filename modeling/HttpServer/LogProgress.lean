import HttpServer.LoggedEntries

/-!
# How soon the logger gets done

The log thread needs four statements for each entry once it is at its queue, and from any
other place a few more to get there; whatever is written meanwhile goes behind.  It sleeps
only with an empty queue, because a `write` wakes it in the same critical section.

After `stop` the thread ends within as many statements as it takes to empty the queue, unless
it has found the logger running just before and sleeps through the notification.
-/

namespace HttpServer

open AsyncLoggerCore

variable {Entry : Type}

def LoggerAction.isLogThread : LoggerAction Entry → Bool
  | .logThread => true
  | _ => false

def LoggerAction.isWrite : LoggerAction Entry → Bool
  | .write _ => true
  | _ => false

namespace LogThread

/-- The thread is asleep, or about to be. -/
def isAsleep : LogThread Entry → Bool
  | .park | .parked => true
  | _ => false

theorem wakeUp_of_awake {place : LogThread Entry} (awake : place.isAsleep = false) :
    place.wakeUp = place := by
  cases place with
  | parked => cases awake
  | _ => rfl

end LogThread

namespace AsyncLoggerCore

variable {logger next : AsyncLoggerCore Entry} {actions : List (LoggerAction Entry)}
  {action : LoggerAction Entry}

/-- The entries that are still to be handed over. -/
def pending (logger : AsyncLoggerCore Entry) : List Entry :=
  logger.logThread.inHand ++ logger.messageQueue

theorem queue_of_asleep (reaches : (loggerSystem Entry).Reachable logger)
    (asleep : logger.logThread.isAsleep = true) : logger.messageQueue = [] := by
  revert asleep
  refine reaches.invariant
    (fun logger => logger.logThread.isAsleep = true → logger.messageQueue = []) ?_ ?_
  · rintro logger rfl asleep
    cases asleep
  intro logger action next _ empty _ steps asleep
  cases loggerStep_of_step steps with
  | write unlocked =>
      cases place : logger.logThread <;>
        simp_all [LogThread.isAsleep, LogThread.wakeUp, LogThread.ownsMutex]
  | logThread runs =>
      cases runs with
      | waits _ queue => exact queue
      | park place => exact empty (by rw [place]; rfl)
      | _ => cases asleep
  | wake => cases asleep
  | stop | clearRunning | join => exact empty asleep
  | notifyAll =>
      cases place : logger.logThread <;> simp_all [LogThread.isAsleep, LogThread.wakeUp, moveTo]

/-- A thread that is awake and has not ended can go on. -/
theorem isSome_run (awake : logger.logThread.isAsleep = false)
    (running : logger.logThread ≠ .exited) : ∃ next, logger.run = some next := by
  unfold run
  cases place : logger.logThread with
  | park | parked => cases place ▸ awake
  | exited => exact absurd place running
  | writeTest => cases logger.messageQueue <;> exact ⟨_, rfl⟩
  | _ => exact ⟨_, rfl⟩

end AsyncLoggerCore

/-- How many statements the thread makes at most until it has handed over an entry. -/
def LogThread.untilFiled : LogThread Entry → Nat
  | .writeFile _ => 1
  | .unlock _ => 2
  | .writeTest => 3
  | .relock | .waitTest => 4
  | .lock | .notified => 5
  | .queueTest => 6
  | .runningTest => 7
  | .leave => 8
  | .park | .parked | .flush | .exited => 0

theorem LogThread.untilFiled_bounds {place : LogThread Entry} (awake : place.isAsleep = false)
    (goesOn : place.isDone = false) : 0 < place.untilFiled ∧ place.untilFiled ≤ 8 := by
  cases place <;> simp_all [untilFiled, isAsleep, isDone]

/-- Of the entries in `due` some have been handed over after those in `start`, and the others
are next. -/
inductive Filing (start due : List Entry) (left : Nat) (logger : AsyncLoggerCore Entry) :
    Prop where
  | queued {made waiting : List Entry} {entry : Entry}
      (filed : filedEntries logger.fileCalls = start ++ made)
      (remains : made ++ entry :: waiting = due) (first : entry :: waiting <+: logger.pending)
      (awake : logger.logThread.isAsleep = false)
      (goesOn : logger.logThread.isDone = false)
      (statements : logger.logThread.untilFiled + 4 * waiting.length ≤ left)

namespace Filing

variable {logger next : AsyncLoggerCore Entry} {start due : List Entry} {left : Nat}
  {action : LoggerAction Entry}

/-- The thread comes closer to the next entry, which it may take. -/
theorem moves (filing : Filing start due left logger)
    (calls : next.fileCalls = logger.fileCalls) (pending : next.pending = logger.pending)
    (awake : next.logThread.isAsleep = false) (goesOn : next.logThread.isDone = false)
    (closer : next.logThread.untilFiled + 1 ≤ logger.logThread.untilFiled) :
    ∃ rest, Filing start due rest next ∧ rest + 1 ≤ left := by
  cases filing with
  | queued filed remains first _ _ statements =>
      refine ⟨left - 1, .queued (calls ▸ filed) remains (pending ▸ first) awake goesOn ?_,
        by omega⟩
      omega

/-- The entry that is handed over is the next one. -/
theorem writeFile {msg : Entry} (filing : Filing start due left logger)
    (place : logger.logThread = .writeFile msg) :
    let next := { logger.moveTo .relock with
      fileCalls := logger.fileCalls ++ [.writeFile msg] }
    start ++ due <+: filedEntries next.fileCalls ∨
      ∃ rest, Filing start due rest next ∧ rest + 1 ≤ left := by
  cases filing with
  | @queued made waiting entry filed remains first _ _ statements =>
      rw [pending, place] at first
      rw [place] at statements
      obtain ⟨rfl, behind⟩ := List.cons_prefix_cons.mp first
      have filedNext : filedEntries (logger.fileCalls ++ [.writeFile entry]) =
          start ++ (made ++ [entry]) := by
        rw [filedEntries_append, filed, List.append_assoc]
        rfl
      cases waiting with
      | nil =>
          left
          dsimp only
          exact ⟨[], by rw [List.append_nil, filedNext, remains]⟩
      | cons other waiting =>
          refine Or.inr ⟨left - 1, .queued filedNext ?_ behind rfl rfl ?_, ?_⟩
          · rw [← remains, List.append_assoc]
            rfl
          · simp only [LogThread.untilFiled, List.length_cons, moveTo] at statements ⊢
            omega
          · simp only [LogThread.untilFiled, List.length_cons] at statements
            omega

theorem run (filing : Filing start due left logger) (runs : RunStep logger next) :
    start ++ due <+: filedEntries next.fileCalls ∨
      ∃ rest, Filing start due rest next ∧ rest + 1 ≤ left := by
  have ⟨first, awake, goesOn⟩ : logger.pending ≠ [] ∧ logger.logThread.isAsleep = false ∧
      logger.logThread.isDone = false := by
    cases filing with
    | queued _ _ first awake goesOn =>
        refine ⟨fun empty => ?_, awake, goesOn⟩
        cases List.prefix_nil.mp (empty ▸ first)
  cases runs with
  | again place | stopped place | queued place | lock place | ready place | notified place
  | unlock place | relock place | leave place =>
      refine Or.inr (filing.moves rfl ?_ rfl rfl ?_)
      · simp only [pending, moveTo, place]
        rfl
      · simp [moveTo, place, LogThread.untilFiled]
  | pop place queue =>
      refine Or.inr (filing.moves rfl ?_ rfl rfl ?_)
      · simp only [pending, moveTo, place, queue]
        rfl
      · simp [moveTo, place, LogThread.untilFiled]
  | writeFile place => exact filing.writeFile place
  | park place => cases place ▸ awake
  | flush place => cases place ▸ goesOn
  | drained place queue | waits place queue | written place queue =>
      rw [pending, place, queue] at first
      exact absurd rfl first

/-- Whatever else happens only adds entries behind. -/
theorem stays (filing : Filing start due left logger)
    (calls : next.fileCalls = logger.fileCalls)
    (place : next.logThread = logger.logThread.wakeUp)
    (queue : logger.messageQueue <+: next.messageQueue) : Filing start due left next := by
  cases filing with
  | queued filed remains first awake goesOn statements =>
      rw [LogThread.wakeUp_of_awake awake] at place
      refine .queued (calls ▸ filed) remains ?_ (place ▸ awake) (place ▸ goesOn)
        (place ▸ statements)
      rw [pending, place]
      exact first.trans ((List.prefix_append_right_inj _).mpr queue)

theorem step (filing : Filing start due left logger)
    (steps : (loggerSystem Entry).step logger action = some next) :
    start ++ due <+: filedEntries next.fileCalls ∨
      ∃ rest, Filing start due rest next ∧
        rest + (if action.isLogThread then 1 else 0) ≤ left := by
  have awake : logger.logThread.isAsleep = false := by
    cases filing with
    | queued _ _ _ awake => exact awake
  have kept : logger.logThread = logger.logThread.wakeUp :=
    (LogThread.wakeUp_of_awake awake).symm
  cases loggerStep_of_step steps with
  | logThread runs => exact filing.run runs
  | write => exact Or.inr ⟨left, filing.stays rfl rfl (List.prefix_append ..), Nat.le_refl _⟩
  | notifyAll => exact Or.inr ⟨left, filing.stays rfl rfl (List.prefix_refl _), Nat.le_refl _⟩
  | stop | clearRunning | join =>
      exact Or.inr ⟨left, filing.stays rfl kept (List.prefix_refl _), Nat.le_refl _⟩
  | wake parked => cases parked ▸ awake

end Filing

/-- What has been handed over is never taken back. -/
theorem filedEntries_step {logger next : AsyncLoggerCore Entry} {action : LoggerAction Entry}
    (steps : (loggerSystem Entry).step logger action = some next) :
    filedEntries logger.fileCalls <+: filedEntries next.fileCalls := by
  cases loggerStep_of_step steps with
  | logThread runs =>
      cases runs with
      | writeFile | flush =>
          dsimp only
          rw [filedEntries_append]
          exact List.prefix_append ..
      | _ => exact List.prefix_refl _
  | _ => exact List.prefix_refl _

/-- Every entry is handed over within four statements of the log thread for each entry before
it and eight for itself, whatever is written and stopped meanwhile; and until then the thread
does not sleep.  Only what is written after the thread has found the queue empty for the last
time is left behind. -/
theorem entries_filed_promptly (logger last : AsyncLoggerCore Entry)
    (actions : List (LoggerAction Entry)) (before after : List Entry) (entry : Entry)
    (reaches : (loggerSystem Entry).Reachable logger)
    (goesOn : logger.logThread.isDone = false)
    (waits : logger.pending = before ++ entry :: after)
    (steps : (loggerSystem Entry).Steps logger actions last) :
    filedEntries logger.fileCalls ++ (before ++ [entry]) <+: filedEntries last.fileCalls ∨
      actions.countP LoggerAction.isLogThread < 4 * before.length + 8 ∧
        ∃ next, last.run = some next := by
  have awake : logger.logThread.isAsleep = false := by
    by_contra asleep
    have sleeps : logger.logThread.isAsleep = true := by simpa using asleep
    have queue := queue_of_asleep reaches sleeps
    rw [pending, queue] at waits
    cases place : logger.logThread <;> simp_all [LogThread.isAsleep, LogThread.inHand]
  have start : Filing (filedEntries logger.fileCalls) (before ++ [entry])
      (4 * before.length + 8) logger := by
    have bound := (LogThread.untilFiled_bounds awake goesOn).2
    obtain ⟨first, waiting, same⟩ : ∃ first waiting, before ++ [entry] = first :: waiting :=
      List.exists_cons_of_ne_nil (by simp)
    have length : waiting.length = before.length := by
      simpa using (congrArg List.length same).symm
    refine .queued (List.append_nil _).symm same.symm ⟨after, ?_⟩ awake goesOn (by omega)
    rw [waits, ← same, List.append_assoc]
    rfl
  rcases steps.responds
    (fun logger => _ <+: filedEntries logger.fileCalls) (Filing _ _) LoggerAction.isLogThread
    start (fun _ _ _ _ filing _ stepTo => filing.step stepTo)
    fun _ _ _ filed _ stepTo => filed.trans (filedEntries_step stepTo) with
    filed | ⟨left, filing, spent⟩
  · exact Or.inl filed
  · right
    cases filing with
    | queued _ _ _ awake goesOn statements =>
        have positive := (LogThread.untilFiled_bounds awake goesOn).1
        refine ⟨by omega, isSome_run awake fun exited => ?_⟩
        cases exited ▸ goesOn

/-- Two more entries are written while the thread is about to hand over the first. -/
def threeEntries : List (LoggerAction Nat) :=
  [.write 7] ++ List.replicate 5 .logThread ++ [.write 8, .write 9]

theorem entries_filed_promptly_threeEntries :
    ∃ logger last, (loggerSystem Nat).Reachable logger ∧ logger.pending = [7, 8, 9] ∧
      (loggerSystem Nat).Steps logger (List.replicate 16 .logThread) last ∧
      [7, 8, 9] <+: filedEntries last.fileCalls := by
  have executes : ∃ logger last, (loggerSystem Nat).run {} threeEntries = some logger ∧
      logger.logThread.isDone = false ∧ logger.pending = [7, 8, 9] ∧
      filedEntries logger.fileCalls = [] ∧
      (loggerSystem Nat).run logger (List.replicate 16 .logThread) = some last :=
    ⟨_, _, rfl, rfl, rfl, rfl, rfl⟩
  obtain ⟨logger, last, executes, goesOn, pending, filed, moves⟩ := executes
  have reaches := TransitionSystem.reachable_of_run rfl executes
  have steps := TransitionSystem.runWhere_eq_some_iff.mp moves
  refine ⟨logger, last, reaches, pending, steps, ?_⟩
  rcases entries_filed_promptly logger last _ [7, 8] [] 9 reaches goesOn pending steps with
    done | ⟨few, _⟩
  · rwa [filed] at done
  · exact absurd few (by decide)

namespace AsyncLoggerCore

/-- With entries in the queue the thread enters its loop once more. -/
def onceMore (logger : AsyncLoggerCore Entry) : Nat :=
  if logger.messageQueue.isEmpty then 0 else 6

/-- How many statements the thread makes at most until it has ended, if the logger is stopped
and nothing more is written. -/
def untilExited (logger : AsyncLoggerCore Entry) : Nat :=
  4 * logger.messageQueue.length +
    match logger.logThread with
    | .flush => 1
    | .queueTest => 2 + logger.onceMore
    | .runningTest => 3 + logger.onceMore
    | .leave => 4 + logger.onceMore
    | .writeTest => 5
    | .relock | .waitTest => 6
    | .lock | .notified | .writeFile _ => 7
    | .unlock _ => 8
    | .park | .parked | .exited => 0

theorem untilExited_le (logger : AsyncLoggerCore Entry) :
    logger.untilExited ≤ 4 * logger.messageQueue.length + 10 := by
  have bound : logger.onceMore ≤ 6 := by
    unfold onceMore
    split <;> decide
  unfold untilExited
  cases logger.logThread <;> dsimp only <;> omega

theorem untilExited_pos {logger : AsyncLoggerCore Entry}
    (awake : logger.logThread.isAsleep = false) (running : logger.logThread ≠ .exited) :
    0 < logger.untilExited := by
  unfold untilExited
  cases place : logger.logThread with
  | park | parked => cases place ▸ awake
  | exited => exact absurd place running
  | _ => dsimp only; omega

end AsyncLoggerCore

/-- The stopped logger comes to its end, with all entries handed over. -/
structure Ending (total : List Entry) (left : Nat) (logger : AsyncLoggerCore Entry) : Prop where
  stopped : logger.running = false
  awake : logger.logThread.isAsleep = false
  running : logger.logThread ≠ .exited
  account : filedEntries logger.fileCalls ++ logger.pending = total
  drained : logger.logThread.isDone = true → logger.pending = []
  statements : logger.untilExited ≤ left

/-- The thread has ended, with the entries handed over. -/
def Ended (total : List Entry) (logger : AsyncLoggerCore Entry) : Prop :=
  logger.logThread = .exited ∧ filedEntries logger.fileCalls = total

namespace Ending

variable {logger next : AsyncLoggerCore Entry} {total : List Entry} {left : Nat}
  {action : LoggerAction Entry}

/-- The thread comes closer to its end, with the same entries to hand over. -/
theorem moves (ending : Ending total left logger) (running : next.running = logger.running)
    (awake : next.logThread.isAsleep = false) (goesOn : next.logThread ≠ .exited)
    (account : filedEntries next.fileCalls ++ next.pending =
      filedEntries logger.fileCalls ++ logger.pending)
    (drained : next.logThread.isDone = true → next.pending = [])
    (closer : next.untilExited + 1 ≤ logger.untilExited) :
    ∃ rest, Ending total rest next ∧ rest + 1 ≤ left := by
  have statements := ending.statements
  exact ⟨left - 1, ⟨running.trans ending.stopped, awake, goesOn, account.trans ending.account,
    drained, by omega⟩, by omega⟩

theorem run (ending : Ending total left logger) (runs : RunStep logger next) :
    Ended total next ∨ ∃ rest, Ending total rest next ∧ rest + 1 ≤ left := by
  have account := ending.account
  cases runs with
  | again _ running | waits _ _ running =>
      exact absurd (ending.stopped.symm.trans running) (by decide)
  | park place =>
      have awake := ending.awake
      cases place ▸ awake
  | lock place | ready place | notified place | unlock place | relock place =>
      refine Or.inr (ending.moves rfl rfl nofun ?_ nofun ?_)
      · simp only [pending, moveTo, place]
        rfl
      · simp [untilExited, moveTo, place]
  | stopped place | leave place =>
      refine Or.inr (ending.moves rfl rfl nofun ?_ nofun ?_)
      · simp only [pending, moveTo, place]
        rfl
      · have same (place : LogThread Entry) :
            (logger.moveTo place).onceMore = logger.onceMore := rfl
        simp only [untilExited, same]
        simp only [moveTo, place]
        omega
  | queued place queue =>
      refine Or.inr (ending.moves rfl rfl nofun ?_ nofun ?_)
      · simp only [pending, moveTo, place]
        rfl
      · simp [untilExited, onceMore, moveTo, place, queue]
  | drained place queue =>
      have none : (logger.moveTo .flush).pending = [] := queue
      refine Or.inr (ending.moves rfl rfl nofun ?_ (fun _ => none) ?_)
      · simp only [pending, moveTo, place]
        rfl
      · simp [untilExited, onceMore, moveTo, place, queue]
  | written place queue =>
      refine Or.inr (ending.moves rfl rfl nofun ?_ nofun ?_)
      · simp only [pending, moveTo, place]
        rfl
      · simp [untilExited, onceMore, moveTo, place, queue]
  | pop place queue =>
      refine Or.inr (ending.moves rfl rfl nofun ?_ nofun ?_)
      · simp only [pending, moveTo, place, queue]
        rfl
      · simp only [untilExited, moveTo, place, queue, List.length_cons]
        omega
  | @writeFile msg place =>
      refine Or.inr (ending.moves rfl rfl nofun ?_ nofun ?_)
      · simp only [pending, moveTo, place, filedEntries_append, List.append_assoc]
        rfl
      · simp [untilExited, moveTo, place]
  | flush place =>
      have none := ending.drained (by rw [place]; rfl)
      rw [none, List.append_nil] at account
      refine Or.inl ⟨rfl, ?_⟩
      rw [← account]
      exact filedEntries_append.trans (List.append_nil _)

theorem step (ending : Ending total left logger) (noWrite : action.isWrite = false)
    (steps : (loggerSystem Entry).step logger action = some next) :
    Ended total next ∨ ∃ rest, Ending total rest next ∧
      rest + (if action.isLogThread then 1 else 0) ≤ left := by
  cases loggerStep_of_step steps with
  | logThread runs => exact ending.run runs
  | write => cases noWrite
  | wake parked =>
      have awake := ending.awake
      cases parked ▸ awake
  | stop | join => exact Or.inr ⟨left, { ending with }, Nat.le_refl _⟩
  | clearRunning => exact Or.inr ⟨left, { ending with stopped := rfl }, Nat.le_refl _⟩
  | notifyAll =>
      have same : logger.moveTo logger.logThread.wakeUp = logger := by
        rw [LogThread.wakeUp_of_awake ending.awake]
        rfl
      rw [same]
      exact Or.inr ⟨left, { ending with }, Nat.le_refl _⟩

end Ending

theorem Ended.step {logger next : AsyncLoggerCore Entry} {total : List Entry}
    {action : LoggerAction Entry} (ended : Ended total logger)
    (steps : (loggerSystem Entry).step logger action = some next) : Ended total next := by
  obtain ⟨exited, filed⟩ := ended
  cases loggerStep_of_step steps with
  | logThread runs => cases runs <;> simp_all
  | wake parked => cases parked.symm.trans exited
  | write | notifyAll => exact ⟨by simp [moveTo, exited, LogThread.wakeUp], filed⟩
  | stop | clearRunning | join => exact ⟨exited, filed⟩

/-- A stopped logger whose thread does not sleep hands over all that is written and ends, within
four statements of the thread for each entry in the queue and ten more. -/
theorem stop_ends_promptly (logger last : AsyncLoggerCore Entry)
    (actions : List (LoggerAction Entry)) (stopped : logger.running = false)
    (awake : logger.logThread.isAsleep = false) (goesOn : logger.logThread.isDone = false)
    (steps : (loggerSystem Entry).StepsWhere (fun _ action => action.isWrite = false) logger
      actions last) :
    (last.logThread = .exited ∧
        filedEntries last.fileCalls = filedEntries logger.fileCalls ++ logger.pending) ∨
      actions.countP LoggerAction.isLogThread < 4 * logger.messageQueue.length + 10 ∧
        ∃ next, last.run = some next := by
  have start : Ending (filedEntries logger.fileCalls ++ logger.pending)
      (4 * logger.messageQueue.length + 10) logger := by
    refine ⟨stopped, awake, fun exited => ?_, rfl, fun done => ?_, logger.untilExited_le⟩
    · cases exited ▸ goesOn
    · cases goesOn.symm.trans done
  rcases steps.responds (Ended _) (Ending _) LoggerAction.isLogThread start
    (fun _ _ _ _ ending noWrite stepTo => ending.step noWrite stepTo)
    fun _ _ _ ended _ stepTo => ended.step stepTo with ended | ⟨left, ending, spent⟩
  · exact Or.inl ended
  · have statements := ending.statements
    have positive := untilExited_pos ending.awake ending.running
    exact Or.inr ⟨by omega, isSome_run ending.awake ending.running⟩

theorem stop_ends_promptly_threeEntries :
    ∃ logger last, (loggerSystem Nat).Reachable logger ∧ logger.running = false ∧
      logger.pending = [7, 8, 9] ∧
      (loggerSystem Nat).Steps logger (List.replicate 15 .logThread) last ∧
      last.logThread = .exited ∧ filedEntries last.fileCalls = [7, 8, 9] := by
  have executes : ∃ logger last,
      (loggerSystem Nat).run {} (threeEntries ++ [.stop, .stopStep, .stopStep]) = some logger ∧
      logger.running = false ∧ logger.logThread.isAsleep = false ∧
      logger.logThread.isDone = false ∧ logger.pending = [7, 8, 9] ∧
      filedEntries logger.fileCalls = [] ∧
      (loggerSystem Nat).runWhere (fun _ action => action.isWrite = false) logger
        (List.replicate 15 .logThread) = some last ∧ last.run = none :=
    ⟨_, _, rfl, rfl, rfl, rfl, rfl, rfl, rfl, rfl⟩
  obtain ⟨logger, last, executes, stopped, awake, goesOn, pending, filed, moves, rests⟩ :=
    executes
  have steps := TransitionSystem.runWhere_eq_some_iff.mp moves
  refine ⟨logger, last, TransitionSystem.reachable_of_run rfl executes, stopped, pending,
    steps.mono fun _ _ _ => trivial, ?_⟩
  rcases stop_ends_promptly logger last _ stopped awake goesOn steps with
    ⟨exited, all⟩ | ⟨_, next, goes⟩
  · rw [filed, pending] at all
    exact ⟨exited, all⟩
  · cases rests.symm.trans goes

end HttpServer
