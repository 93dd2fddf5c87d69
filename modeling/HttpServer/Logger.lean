import HttpServer.Library.TransitionSystem

/-!
# The asynchronous logger

`AsyncLoggerCore` keeps a queue of entries and a thread that hands them to the
file writer.  The thread owns `m_queueMutex` while it looks at the queue and
gives it up around each `writeFile`; its outer loop reads the queue without the
mutex.  Any threads call `write`, and one thread calls `stop`.

The critical section of `write` is one step, possible while the log thread does
not own the mutex.
-/

namespace HttpServer

/-- Where the log thread is in `logThread`, or in the `writeMessages` called from
there.  `waitTest` is the predicate of `wait` and `park` the call of the plain
`wait` under it; `leave` is the end of the scope of the lock. -/
inductive LogThread (Entry : Type) where
  | runningTest
  | queueTest
  | lock
  | waitTest
  | park
  | parked
  | notified
  | writeTest
  | unlock (msg : Entry)
  | writeFile (msg : Entry)
  | relock
  | leave
  | flush
  | exited

/-- Where the thread that calls `stop` is in it. -/
inductive LoggerStop where
  | idle
  | clearRunning
  | notifyAll
  | join
  | returned
deriving DecidableEq

/-- A call on the file writer. -/
inductive FileCall (Entry : Type) where
  | writeFile (logEntry : Entry)
  | flush

/-- The logger, with the calls its thread has made on the file writer, oldest
first. -/
structure AsyncLoggerCore (Entry : Type) where
  running : Bool := true
  messageQueue : List Entry := []
  logThread : LogThread Entry := .runningTest
  stop : LoggerStop := .idle
  fileCalls : List (FileCall Entry) := []

namespace LogThread

variable {Entry : Type}

def ownsMutex : LogThread Entry → Bool
  | waitTest | park | writeTest | unlock _ | leave => true
  | _ => false

def isParked : LogThread Entry → Bool
  | parked => true
  | _ => false

/-- What a notification of `m_cv` does to the thread. -/
def wakeUp : LogThread Entry → LogThread Entry
  | parked => notified
  | place => place

end LogThread

inductive LoggerAction (Entry : Type) where
  | write (logEntry : Entry)
  | logThread
  | wake
  | stop
  | stopStep

namespace AsyncLoggerCore

variable {Entry : Type}

def moveTo (logger : AsyncLoggerCore Entry) (place : LogThread Entry) :
    AsyncLoggerCore Entry :=
  { logger with logThread := place }

def write (logger : AsyncLoggerCore Entry) (logEntry : Entry) :
    Option (AsyncLoggerCore Entry) :=
  if logger.logThread.ownsMutex then none
  else some { logger with
    messageQueue := logger.messageQueue ++ [logEntry]
    logThread := logger.logThread.wakeUp }

/-- The next statement of the log thread, if it can make it. -/
def run (logger : AsyncLoggerCore Entry) : Option (AsyncLoggerCore Entry) :=
  match logger.logThread with
  | .runningTest => some (logger.moveTo (if logger.running then .lock else .queueTest))
  | .queueTest => some (logger.moveTo (if logger.messageQueue.isEmpty then .flush else .lock))
  | .lock => some (logger.moveTo .waitTest)
  | .waitTest =>
      some (logger.moveTo
        (if !logger.messageQueue.isEmpty || !logger.running then .writeTest else .park))
  | .park => some (logger.moveTo .parked)
  | .parked | .exited => none
  | .notified => some (logger.moveTo .waitTest)
  | .writeTest =>
      match logger.messageQueue with
      | [] => some (logger.moveTo .leave)
      | msg :: rest => some { logger.moveTo (.unlock msg) with messageQueue := rest }
  | .unlock msg => some (logger.moveTo (.writeFile msg))
  | .writeFile msg =>
      some { logger.moveTo .relock with fileCalls := logger.fileCalls ++ [.writeFile msg] }
  | .relock => some (logger.moveTo .writeTest)
  | .leave => some (logger.moveTo .runningTest)
  | .flush => some { logger.moveTo .exited with fileCalls := logger.fileCalls ++ [.flush] }

/-- The next statement of `stop`.  A second call finds the thread no longer
joinable. -/
def stopStep (logger : AsyncLoggerCore Entry) : Option (AsyncLoggerCore Entry) :=
  match logger.stop with
  | .idle | .returned => none
  | .clearRunning => some { logger with running := false, stop := .notifyAll }
  | .notifyAll => some { logger.moveTo logger.logThread.wakeUp with stop := .join }
  | .join =>
      match logger.logThread with
      | .exited => some { logger with stop := .returned }
      | _ => none

end AsyncLoggerCore

/-- All interleavings of the log thread with `write` from any threads and with
`stop`, which the destructor calls once more. -/
def loggerSystem (Entry : Type) :
    TransitionSystem (AsyncLoggerCore Entry) (LoggerAction Entry) where
  Initial logger := logger = {}
  step logger
    | .write logEntry => logger.write logEntry
    | .logThread => logger.run
    | .wake => if logger.logThread.isParked then some (logger.moveTo .notified) else none
    | .stop =>
        match logger.stop with
        | .idle | .returned => some { logger with stop := .clearRunning }
        | _ => none
    | .stopStep => logger.stopStep

namespace AsyncLoggerCore

variable {Entry : Type} {logger next : AsyncLoggerCore Entry}

/-- Everything that a statement of the log thread can do. -/
inductive RunStep (logger : AsyncLoggerCore Entry) : AsyncLoggerCore Entry → Prop where
  | again (place : logger.logThread = .runningTest) (running : logger.running = true) :
      RunStep logger (logger.moveTo .lock)
  | stopped (place : logger.logThread = .runningTest) (stopped : logger.running = false) :
      RunStep logger (logger.moveTo .queueTest)
  | drained (place : logger.logThread = .queueTest) (queue : logger.messageQueue = []) :
      RunStep logger (logger.moveTo .flush)
  | queued (place : logger.logThread = .queueTest) (queue : logger.messageQueue ≠ []) :
      RunStep logger (logger.moveTo .lock)
  | lock (place : logger.logThread = .lock) : RunStep logger (logger.moveTo .waitTest)
  | ready (place : logger.logThread = .waitTest)
      (ready : logger.messageQueue ≠ [] ∨ logger.running = false) :
      RunStep logger (logger.moveTo .writeTest)
  | waits (place : logger.logThread = .waitTest) (queue : logger.messageQueue = [])
      (running : logger.running = true) : RunStep logger (logger.moveTo .park)
  | park (place : logger.logThread = .park) : RunStep logger (logger.moveTo .parked)
  | notified (place : logger.logThread = .notified) :
      RunStep logger (logger.moveTo .waitTest)
  | written (place : logger.logThread = .writeTest) (queue : logger.messageQueue = []) :
      RunStep logger (logger.moveTo .leave)
  | pop {msg : Entry} {rest : List Entry} (place : logger.logThread = .writeTest)
      (queue : logger.messageQueue = msg :: rest) :
      RunStep logger { logger.moveTo (.unlock msg) with messageQueue := rest }
  | unlock {msg : Entry} (place : logger.logThread = .unlock msg) :
      RunStep logger (logger.moveTo (.writeFile msg))
  | writeFile {msg : Entry} (place : logger.logThread = .writeFile msg) :
      RunStep logger
        { logger.moveTo .relock with fileCalls := logger.fileCalls ++ [.writeFile msg] }
  | relock (place : logger.logThread = .relock) : RunStep logger (logger.moveTo .writeTest)
  | leave (place : logger.logThread = .leave) : RunStep logger (logger.moveTo .runningTest)
  | flush (place : logger.logThread = .flush) :
      RunStep logger { logger.moveTo .exited with fileCalls := logger.fileCalls ++ [.flush] }

theorem runStep_of_run (runs : logger.run = some next) : RunStep logger next := by
  unfold run at runs
  cases place : logger.logThread with
  | parked | exited =>
      rw [place] at runs
      cases runs
  | runningTest =>
      rw [place] at runs
      cases runs
      by_cases running : logger.running = true
      · rw [if_pos running]
        exact .again place running
      · rw [if_neg running]
        exact .stopped place (eq_false_of_ne_true running)
  | queueTest =>
      rw [place] at runs
      cases runs
      split
      next empty => exact .drained place (List.isEmpty_iff.mp empty)
      next queued => exact .queued place (mt List.isEmpty_iff.mpr queued)
  | lock =>
      rw [place] at runs
      cases runs
      exact .lock place
  | waitTest =>
      rw [place] at runs
      cases runs
      split
      next ready => exact .ready place (by simpa using ready)
      next waits =>
        obtain ⟨queue, running⟩ : logger.messageQueue = [] ∧ logger.running = true := by
          simpa using waits
        exact .waits place queue running
  | park =>
      rw [place] at runs
      cases runs
      exact .park place
  | notified =>
      rw [place] at runs
      cases runs
      exact .notified place
  | writeTest =>
      rw [place] at runs
      dsimp only at runs
      split at runs
      next queue =>
        cases runs
        exact .written place queue
      next msg rest queue =>
        cases runs
        exact .pop place queue
  | unlock msg =>
      rw [place] at runs
      cases runs
      exact .unlock place
  | writeFile msg =>
      rw [place] at runs
      cases runs
      exact .writeFile place
  | relock =>
      rw [place] at runs
      cases runs
      exact .relock place
  | leave =>
      rw [place] at runs
      cases runs
      exact .leave place
  | flush =>
      rw [place] at runs
      cases runs
      exact .flush place

/-- Everything that a step of the logger can do. -/
inductive LoggerStep (logger : AsyncLoggerCore Entry) :
    LoggerAction Entry → AsyncLoggerCore Entry → Prop where
  | write {logEntry : Entry} (unlocked : logger.logThread.ownsMutex = false) :
      LoggerStep logger (.write logEntry) { logger with
        messageQueue := logger.messageQueue ++ [logEntry]
        logThread := logger.logThread.wakeUp }
  | logThread {next : AsyncLoggerCore Entry} (runs : RunStep logger next) :
      LoggerStep logger .logThread next
  | wake (parked : logger.logThread = .parked) :
      LoggerStep logger .wake (logger.moveTo .notified)
  | stop (place : logger.stop = .idle ∨ logger.stop = .returned) :
      LoggerStep logger .stop { logger with stop := .clearRunning }
  | clearRunning (place : logger.stop = .clearRunning) :
      LoggerStep logger .stopStep { logger with running := false, stop := .notifyAll }
  | notifyAll (place : logger.stop = .notifyAll) :
      LoggerStep logger .stopStep
        { logger.moveTo logger.logThread.wakeUp with stop := .join }
  | join (place : logger.stop = .join) (ended : logger.logThread = .exited) :
      LoggerStep logger .stopStep { logger with stop := .returned }

theorem loggerStep_of_step {action : LoggerAction Entry}
    (steps : (loggerSystem Entry).step logger action = some next) :
    LoggerStep logger action next := by
  cases action with
  | write logEntry =>
      dsimp only [loggerSystem, write] at steps
      split at steps
      · cases steps
      next unlocked =>
        cases steps
        exact .write (eq_false_of_ne_true unlocked)
  | logThread => exact .logThread (runStep_of_run steps)
  | wake =>
      dsimp only [loggerSystem] at steps
      split at steps
      next parked =>
        cases steps
        refine .wake ?_
        cases place : logger.logThread <;> simp_all [LogThread.isParked]
      · cases steps
  | stop =>
      dsimp only [loggerSystem] at steps
      split at steps
      next place =>
        cases steps
        exact .stop (.inl place)
      next place =>
        cases steps
        exact .stop (.inr place)
      · cases steps
  | stopStep =>
      dsimp only [loggerSystem, stopStep] at steps
      cases place : logger.stop with
      | idle | returned =>
          rw [place] at steps
          cases steps
      | clearRunning =>
          rw [place] at steps
          cases steps
          exact .clearRunning place
      | notifyAll =>
          rw [place] at steps
          cases steps
          exact .notifyAll place
      | join =>
          rw [place] at steps
          dsimp only at steps
          split at steps
          next ended =>
            cases steps
            exact .join place ended
          · cases steps

end AsyncLoggerCore

end HttpServer
