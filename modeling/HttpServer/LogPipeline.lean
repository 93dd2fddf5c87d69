import HttpServer.Library.Replay
import HttpServer.LogRecords
import HttpServer.LogRotation
import HttpServer.LoggedEntries

/-!
# From a record to the log file

`Logger`, its `AsyncLoggerCore` and the `AsyncFileWriter` together: any threads log records,
the log thread hands their entries to the writer, and the writer rotates its file.  What is in
the files in the end are the records that passed the test of the level, in the order in which
they came into the queue.
-/

namespace HttpServer

open Replay

/-- `callers` are the records of the threads that are in `log` or `var_Log`, behind the test of
the level. -/
structure LogSystem where
  logLevel : LogLevel := .info
  callers : Nat → Option LogRecord := fun _ => none
  core : AsyncLoggerCore (List UInt8) := {}
  writer : AsyncFileWriter

/-- `log` is the test of the level and `write` the `write` of the core.  What the clock says,
whether a `rename` succeeds and how much the stream hands on is only used when the log thread
calls `writeFile`. -/
inductive LogAction where
  | setLogLevel (level : LogLevel)
  | log (thread : Nat) (record : LogRecord)
  | write (thread : Nat)
  | logThread (now : Int64) (renamed : RenameResult) (written : Nat)
  | wake
  | stop
  | stopStep

namespace LogSystem

def admits (state : LogSystem) (record : LogRecord) : Bool :=
  state.logLevel.toNat ≤ record.logLevel.toNat

/-- What the log thread does to the file in its next statement. -/
def fileAction? (state : LogSystem) (now : Int64) (renamed : RenameResult) (written : Nat) :
    Option WriterAction :=
  match state.core.logThread with
  | .writeFile msg => some ⟨.writeFile msg, now, renamed, written⟩
  | .flush => some { call := .flush }
  | _ => none

/-- A statement of the log thread. -/
def logThread (state : LogSystem) (now : Int64) (renamed : RenameResult) (written : Nat) :
    Option LogSystem :=
  state.core.run.bind fun core =>
    match state.fileAction? now renamed written with
    | none => some { state with core }
    | some action => (writerSystem.step state.writer action).map fun writer =>
        { state with core, writer }

end LogSystem

/-- All interleavings of the logging threads, the log thread and the one that calls `stop`,
from a new logger on. -/
def logSystem : TransitionSystem LogSystem LogAction where
  Initial state := ∃ path files, state = { writer := .create path files }
  step state
    | .setLogLevel level => some { state with logLevel := level }
    | .log thread record =>
        match state.callers thread with
        | some _ => none
        | none =>
            if state.admits record then
              some { state with callers := Function.update state.callers thread (some record) }
            else some state
    | .write thread =>
        (state.callers thread).bind fun record =>
          (state.core.write record.entry).map fun core =>
            { state with core, callers := Function.update state.callers thread none }
    | .logThread now renamed written => state.logThread now renamed written
    | .wake => ((loggerSystem (List UInt8)).step state.core .wake).map fun core =>
        { state with core }
    | .stop => ((loggerSystem (List UInt8)).step state.core .stop).map fun core =>
        { state with core }
    | .stopStep => ((loggerSystem (List UInt8)).step state.core .stopStep).map fun core =>
        { state with core }

abbrev LogTrace := List (LogSystem × LogAction)

/-- The record that a thread's step brings behind the test of the level. -/
def admitted? (thread : Nat) : LogSystem × LogAction → Option LogRecord
  | (state, .log caller record) =>
      if caller = thread ∧ state.admits record then some record else none
  | _ => none

/-- The record that the step brings into the queue, and the thread that has logged it. -/
def written? : LogSystem × LogAction → Option (Nat × LogRecord)
  | (state, .write thread) => (state.callers thread).map fun record => (thread, record)
  | _ => none

def writtenBy? (thread : Nat) (step : LogSystem × LogAction) : Option LogRecord :=
  (written? step).bind fun (caller, record) => if caller = thread then some record else none

def writtenRecords (trace : LogTrace) : List LogRecord :=
  (trace.filterMap written?).map Prod.snd

/-- What the step does to the core of the logger. -/
def loggerAction? : LogSystem × LogAction → Option (LoggerAction (List UInt8))
  | (_, .setLogLevel _) | (_, .log _ _) => none
  | (state, .write thread) => (state.callers thread).map fun record => .write record.entry
  | (_, .logThread _ _ _) => some .logThread
  | (_, .wake) => some .wake
  | (_, .stop) => some .stop
  | (_, .stopStep) => some .stopStep

/-- What the step does to the writer. -/
def writerAction? : LogSystem × LogAction → Option WriterAction
  | (state, .logThread now renamed written) => state.fileAction? now renamed written
  | _ => none

/-- Everything that a step can do. -/
inductive LogStep (state : LogSystem) : LogAction → LogSystem → Prop where
  | setLogLevel {level : LogLevel} :
      LogStep state (.setLogLevel level) { state with logLevel := level }
  | admitted {thread : Nat} {record : LogRecord} (rests : state.callers thread = none)
      (admits : state.admits record = true) : LogStep state (.log thread record)
        { state with callers := Function.update state.callers thread (some record) }
  | dropped {thread : Nat} {record : LogRecord} (drops : state.admits record = false) :
      LogStep state (.log thread record) state
  | write {thread : Nat} {record : LogRecord} {core : AsyncLoggerCore (List UInt8)}
      (place : state.callers thread = some record)
      (writes : state.core.write record.entry = some core) : LogStep state (.write thread)
        { state with core, callers := Function.update state.callers thread none }
  | logThread {now : Int64} {renamed : RenameResult} {written : Nat}
      {core : AsyncLoggerCore (List UInt8)} {writer : AsyncFileWriter}
      (runs : state.core.run = some core)
      (files : ∀ action, state.fileAction? now renamed written = some action →
        writerSystem.step state.writer action = some writer)
      (quiet : state.fileAction? now renamed written = none → writer = state.writer) :
      LogStep state (.logThread now renamed written) { state with core, writer }
  | stops {action : LogAction} {logger : LoggerAction (List UInt8)}
      {core : AsyncLoggerCore (List UInt8)}
      (only : loggerAction? (state, action) = some logger) (notThread : logger ≠ .logThread)
      (others : written? (state, action) = none ∧ writerAction? (state, action) = none ∧
        ∀ thread, admitted? thread (state, action) = none)
      (steps : (loggerSystem (List UInt8)).step state.core logger = some core) :
      LogStep state action { state with core }

section Steps

variable {state next : LogSystem} {action : LogAction}

theorem logStep_of_step (steps : logSystem.step state action = some next) :
    LogStep state action next := by
  cases action with
  | setLogLevel level =>
      cases steps
      exact .setLogLevel
  | log thread record =>
      dsimp only [logSystem] at steps
      split at steps
      · cases steps
      next rests =>
        split at steps
        next admits =>
          cases steps
          exact .admitted rests admits
        next drops =>
          cases steps
          exact .dropped (eq_false_of_ne_true drops)
  | write thread =>
      obtain ⟨record, place, writes⟩ := Option.bind_eq_some_iff.mp steps
      obtain ⟨core, wrote, rfl⟩ := Option.map_eq_some_iff.mp writes
      exact .write place wrote
  | logThread now renamed written =>
      obtain ⟨core, runs, goesOn⟩ := Option.bind_eq_some_iff.mp steps
      cases acts : state.fileAction? now renamed written with
      | none =>
          rw [acts] at goesOn
          cases goesOn
          exact .logThread runs (by simp [acts]) fun _ => rfl
      | some call =>
          rw [acts] at goesOn
          obtain ⟨writer, files, rfl⟩ := Option.map_eq_some_iff.mp goesOn
          refine .logThread runs (fun other same => ?_) (by simp [acts])
          obtain rfl := Option.some.inj (acts.symm.trans same)
          exact files
  | wake | stop | stopStep =>
      obtain ⟨core, moves, rfl⟩ := Option.map_eq_some_iff.mp steps
      exact .stops rfl (by simp) ⟨rfl, rfl, fun _ => rfl⟩ moves

theorem wakeUp_eq_exited {Entry : Type} {place : LogThread Entry} :
    place.wakeUp = .exited ↔ place = .exited := by
  cases place <;> simp [LogThread.wakeUp]

/-- Only the log thread calls the writer or exits. -/
theorem calls_of_loggerStep {Entry : Type} {logger after : AsyncLoggerCore Entry}
    {call : LoggerAction Entry} (other : call ≠ .logThread)
    (steps : AsyncLoggerCore.LoggerStep logger call after) :
    after.fileCalls = logger.fileCalls ∧
      (after.logThread = .exited → logger.logThread = .exited) := by
  cases steps with
  | write => exact ⟨rfl, wakeUp_eq_exited.mp⟩
  | logThread => exact (other rfl).elim
  | wake => exact ⟨rfl, fun exited => by cases exited⟩
  | stop | clearRunning | join => exact ⟨rfl, id⟩
  | notifyAll => exact ⟨rfl, wakeUp_eq_exited.mp⟩

/-- What one step does to the logger, to the writer and to the callers. -/
structure LogFlow (state next : LogSystem) (action : LogAction) : Prop where
  logger : (loggerSystem (List UInt8)).Steps state.core
    (loggerAction? (state, action)).toList next.core
  writer : writerSystem.Steps state.writer (writerAction? (state, action)).toList next.writer
  calls : next.core.fileCalls =
    state.core.fileCalls ++ (writerAction? (state, action)).toList.map WriterAction.call
  callers : ∀ thread, (writtenBy? thread (state, action)).toList ++
      (next.callers thread).toList =
    (state.callers thread).toList ++ (admitted? thread (state, action)).toList
  flushed : state.writer.Sound →
    (state.core.logThread = .exited → state.writer.logFile.buffer = []) →
    next.core.logThread = .exited → next.writer.logFile.buffer = []

/-- What a statement of the log thread does to the file. -/
theorem calls_of_runStep {core : AsyncLoggerCore (List UInt8)} {writer : AsyncFileWriter}
    {now : Int64} {renamed : RenameResult} {written : Nat}
    (runs : AsyncLoggerCore.RunStep state.core core)
    (files : ∀ action, state.fileAction? now renamed written = some action →
      writerSystem.step state.writer action = some writer)
    (sound : state.writer.Sound) :
    core.fileCalls = state.core.fileCalls ++
        (state.fileAction? now renamed written).toList.map WriterAction.call ∧
      (core.logThread = .exited → writer.logFile.buffer = []) := by
  cases runs with
  | writeFile place =>
      refine ⟨?_, fun exited => by cases exited⟩
      simp [LogSystem.fileAction?, place]
  | flush place =>
      refine ⟨by simp [LogSystem.fileAction?, place], fun _ => ?_⟩
      have flushes := files { call := .flush } (by simp [LogSystem.fileAction?, place])
      cases flushes
      exact sound.buffer_flush
  | again place | stopped place | drained place | queued place | lock place | ready place
  | waits place | park place | notified place | written place | pop place | unlock place
  | relock place | leave place =>
      exact ⟨by simp [LogSystem.fileAction?, place, AsyncLoggerCore.moveTo],
        fun exited => by cases exited⟩

/-- A step of the whole that is one of the logger. -/
theorem single_logger {core : AsyncLoggerCore (List UInt8)} {call : LoggerAction (List UInt8)}
    (steps : (loggerSystem (List UInt8)).step state.core call = some core) :
    (loggerSystem (List UInt8)).Steps state.core [call] core :=
  .single trivial steps

theorem logFlow_of_step (sound : state.writer.Sound)
    (steps : logSystem.step state action = some next) :
    LogFlow state next action := by
  cases logStep_of_step steps with
  | setLogLevel =>
      exact ⟨.refl, .refl, by simp [writerAction?],
        fun _ => by simp [writtenBy?, written?, admitted?], fun _ kept => kept⟩
  | @admitted thread record rests admits =>
      refine ⟨.refl, .refl, by simp [writerAction?], fun other => ?_, fun _ kept => kept⟩
      by_cases same : other = thread
      · subst other
        simp [writtenBy?, written?, admitted?, rests, admits]
      · simp [writtenBy?, written?, admitted?, same, Ne.symm same]
  | dropped drops =>
      refine ⟨.refl, .refl, by simp [writerAction?], fun other => ?_, fun _ kept => kept⟩
      simp [writtenBy?, written?, admitted?, drops]
  | @write thread record core place writes =>
      have writesStep : (loggerSystem (List UInt8)).step state.core (.write record.entry) =
          some core := writes
      obtain ⟨calls, exited⟩ :=
        calls_of_loggerStep (by simp) (AsyncLoggerCore.loggerStep_of_step writesStep)
      refine ⟨?_, .refl, by simp [writerAction?, calls], fun other => ?_,
        fun _ kept ended => kept (exited ended)⟩
      · simpa [loggerAction?, place] using single_logger writesStep
      · by_cases same : other = thread
        · subst other
          simp [writtenBy?, written?, admitted?, place]
        · simp [writtenBy?, written?, admitted?, place, same, Ne.symm same]
  | @logThread now renamed written core writer runs files quiet =>
      obtain ⟨calls, exits⟩ := calls_of_runStep (AsyncLoggerCore.runStep_of_run runs) files sound
      refine ⟨single_logger runs, ?_, calls,
        fun _ => by simp [writtenBy?, written?, admitted?], fun _ _ => exits⟩
      change writerSystem.Steps state.writer (state.fileAction? now renamed written).toList writer
      cases acts : state.fileAction? now renamed written with
      | none =>
          rw [quiet acts]
          exact .refl
      | some call => exact .single trivial (files call acts)
  | stops only notThread others moves =>
      obtain ⟨notWritten, notFiled, notAdmitted⟩ := others
      obtain ⟨calls, exited⟩ :=
        calls_of_loggerStep notThread (AsyncLoggerCore.loggerStep_of_step moves)
      refine ⟨?_, ?_, by simp [notFiled, calls], fun thread => ?_,
        fun _ kept ended => kept (exited ended)⟩
      · rw [only]
        exact single_logger moves
      · rw [notFiled]
        exact .refl
      · simp [writtenBy?, notWritten, notAdmitted]

/-- What a run has done to the parts of the system. -/
structure LogAccount (path : LogPath) (files : List UInt8 → Option (List UInt8))
    (trace : LogTrace) (state : LogSystem) : Prop where
  logger : (loggerSystem (List UInt8)).Steps {} (trace.filterMap loggerAction?) state.core
  writer : writerSystem.Steps (.create path files) (trace.filterMap writerAction?) state.writer
  calls : state.core.fileCalls = (trace.filterMap writerAction?).map WriterAction.call
  callers : ∀ thread, trace.filterMap (writtenBy? thread) ++ (state.callers thread).toList =
    trace.filterMap (admitted? thread)
  flushed : state.core.logThread = .exited → state.writer.logFile.buffer = []

variable {path : LogPath} {files : List UInt8 → Option (List UInt8)} {trace : LogTrace}

theorem LogAccount.step (account : LogAccount path files trace state)
    (steps : logSystem.step state action = some next) :
    LogAccount path files (trace ++ [(state, action)]) next := by
  have sound : state.writer.Sound :=
    AsyncFileWriter.sound_of_reachable ⟨_, _, ⟨path, files, rfl⟩, account.writer⟩
  have flow := logFlow_of_step sound steps
  refine ⟨?_, ?_, ?_, fun thread => ?_, flow.flushed sound account.flushed⟩
  · rw [filterMap_concat]
    exact account.logger.trans flow.logger
  · rw [filterMap_concat]
    exact account.writer.trans flow.writer
  · rw [filterMap_concat, List.map_append, flow.calls, account.calls]
  · rw [filterMap_concat, filterMap_concat]
    exact account_concat (account.callers thread) (flow.callers thread)

/-- The steps of a run from a new logger on. -/
abbrev logTrace (path : LogPath) (files : List UInt8 → Option (List UInt8))
    (actions : List LogAction) : LogTrace :=
  logSystem.trace { writer := .create path files } actions

theorem logAccount_of_steps {actions : List LogAction}
    (steps : logSystem.Steps { writer := .create path files } actions state) :
    LogAccount path files (logTrace path files actions) state := by
  refine steps.invariant (fun actions state =>
    LogAccount path files (logTrace path files actions) state) ?_ ?_
  · exact ⟨.refl, .refl, rfl, fun _ => rfl, fun exited => by cases exited⟩
  · intro before middle action last run account _ moves
    rw [logTrace, run.trace_concat]
    exact account.step moves

/-- The entries that the logger has been given are those of the records. -/
theorem writtenEntries_loggerActions (trace : LogTrace) :
    writtenEntries (trace.filterMap loggerAction?) =
      (writtenRecords trace).map LogRecord.entry := by
  rw [writtenEntries, writtenRecords, List.filterMap_filterMap, List.map_filterMap,
    List.map_filterMap]
  refine List.filterMap_congr fun step _ => ?_
  obtain ⟨state, action⟩ := step
  cases action with
  | write thread => cases place : state.callers thread <;> simp [loggerAction?, written?, place]
  | _ => rfl

theorem entries_eq_filedEntries (actions : List WriterAction) :
    AsyncFileWriter.entries actions = filedEntries (actions.map WriterAction.call) := by
  rw [filedEntries, List.filterMap_map]
  refine List.filterMap_congr fun action _ => ?_
  obtain ⟨call, now, renamed, written⟩ := action
  cases call <;> rfl

end Steps

section Files

variable {path : LogPath} {files : List UInt8 → Option (List UInt8)} {actions : List LogAction}
  {state : LogSystem}

/-- The first records that came into the queue. -/
def filedRecords (trace : LogTrace) (state : LogSystem) : List LogRecord :=
  (writtenRecords trace).take (filedEntries state.core.fileCalls).length

theorem filedEntries_eq_map
    (steps : logSystem.Steps { writer := .create path files } actions state) :
    filedEntries state.core.fileCalls =
      (filedRecords (logTrace path files actions) state).map LogRecord.entry := by
  have account := logAccount_of_steps steps
  have kept := entriesKept_of_steps account.logger
  have isPrefix := (List.prefix_append _ _).trans kept.account.taken_prefix
  rw [writtenEntries_loggerActions] at isPrefix
  rw [filedRecords, List.map_take]
  exact List.prefix_iff_eq_take.mp isPrefix

/-- What the files hold, with what the stream has not handed on. -/
theorem holds_filedRecords
    (steps : logSystem.Steps { writer := .create path files } actions state) :
    state.writer.contents.Holds (AsyncFileWriter.create path files).logContent
      ((filedRecords (logTrace path files actions) state).map LogRecord.entry) := by
  have account := logAccount_of_steps steps
  have sound : state.writer.Sound :=
    AsyncFileWriter.sound_of_reachable ⟨_, _, ⟨path, files, rfl⟩, account.writer⟩
  have whole := (AsyncFileWriter.keepsLog_of_steps account.writer).whole
  rwa [entries_eq_filedEntries, ← account.calls, filedEntries_eq_map steps,
    sound.logFiles_flush] at whole

/-- What was written before `stop` is in the files once the log thread has ended. -/
theorem writtenRecords_prefix
    (steps : logSystem.Steps { writer := .create path files } actions state)
    (ended : state.core.logThread = .exited) {before after : List LogAction}
    (split : actions = before ++ .stop :: after) (first : .stop ∉ before) :
    writtenRecords (logTrace path files before) <+:
      filedRecords (logTrace path files actions) state := by
  have account := logAccount_of_steps steps
  have kept := entriesKept_of_steps account.logger
  subst split
  obtain ⟨middle, reached, -⟩ := steps.of_append
  have whole : logTrace path files (before ++ .stop :: after) =
      logTrace path files before ++ logSystem.trace middle (.stop :: after) :=
    reached.trace_append
  obtain ⟨later, next⟩ : ∃ later, logSystem.trace middle (.stop :: after) =
      (middle, .stop) :: later := ⟨_, rfl⟩
  have calls : (logTrace path files (before ++ .stop :: after)).filterMap loggerAction? =
      (logTrace path files before).filterMap loggerAction? ++
        .stop :: later.filterMap loggerAction? := by
    rw [whole, next, List.filterMap_append]
    rfl
  have notStopped : .stop ∉ (logTrace path files before).filterMap loggerAction? := by
    intro member
    obtain ⟨⟨caller, action⟩, inTrace, stops⟩ := List.mem_filterMap.mp member
    have inBefore : action ∈ before := by
      rw [← reached.map_trace]
      exact List.mem_map_of_mem inTrace
    cases action with
    | stop => exact first inBefore
    | write thread => cases place : caller.callers thread <;> simp [loggerAction?, place] at stops
    | _ => cases stops
  have filed := (kept.done (by rw [ended]; rfl)).2 _ _ calls notStopped
  rw [writtenEntries_loggerActions, filedEntries_eq_map steps] at filed
  have isPrefix : writtenRecords (logTrace path files before) <+:
      writtenRecords (logTrace path files (before ++ .stop :: after)) := by
    rw [whole, writtenRecords, writtenRecords, List.filterMap_append, List.map_append]
    exact List.prefix_append _ _
  exact List.prefix_of_prefix_length_le isPrefix (List.take_prefix ..)
    (by simpa using filed.length_le)

/-- The log thread has flushed the stream at its end. -/
theorem contents_of_exited
    (steps : logSystem.Steps { writer := .create path files } actions state)
    (ended : state.core.logThread = .exited) : state.writer.contents = state.writer.logFiles := by
  rw [AsyncFileWriter.contents, (logAccount_of_steps steps).flushed ended, List.append_nil]
  rfl

end Files

/-- In every interleaving of any number of logging threads with the log thread and `stop`, the
rotated files and the log file hold, behind what was there at first, the entries of the first
records that came into the queue, in order and each in one file; each thread's records come
into the queue in its order, and they are those that passed the test of the level.  Once the
log thread has ended, all this is in the files and not only in the stream's buffer, no record
that came into the queue before `stop` is missing, and a log that began empty is read back. -/
theorem files_hold_records (path : LogPath) (files : List UInt8 → Option (List UInt8))
    (actions : List LogAction) (state : LogSystem)
    (steps : logSystem.Steps { writer := .create path files } actions state) :
    filedRecords (logTrace path files actions) state <+:
        writtenRecords (logTrace path files actions) ∧
      (∀ thread, (logTrace path files actions).filterMap (writtenBy? thread) ++
          (state.callers thread).toList =
        (logTrace path files actions).filterMap (admitted? thread)) ∧
      state.writer.contents.Holds (AsyncFileWriter.create path files).logContent
        ((filedRecords (logTrace path files actions) state).map LogRecord.entry) ∧
      (state.core.logThread = .exited →
        state.writer.logFiles.Holds (AsyncFileWriter.create path files).logContent
          ((filedRecords (logTrace path files actions) state).map LogRecord.entry) ∧
        (∀ before after, actions = before ++ .stop :: after → .stop ∉ before →
          writtenRecords (logTrace path files before) <+:
            filedRecords (logTrace path files actions) state) ∧
        ((AsyncFileWriter.create path files).logContent = [] →
          (∀ record ∈ filedRecords (logTrace path files actions) state, record.Plain) →
          readLog state.writer.logFiles.segments.flatten =
            some (filedRecords (logTrace path files actions) state))) := by
  have holds := holds_filedRecords steps
  refine ⟨List.take_prefix .., (logAccount_of_steps steps).callers, holds, fun ended => ?_⟩
  rw [contents_of_exited steps ended] at holds
  refine ⟨holds, fun before after => writtenRecords_prefix steps ended, fun empty plain => ?_⟩
  have text := holds.flatten_segments
  rw [empty, List.nil_append, ← List.flatMap_def, ← LogRecord.writeAll_codec] at text
  rw [readLog, text]
  exact Codec.readAll_writeAll LogRecord.write_codec_ne_nil le_rfl fun record member =>
    record.wellFormed_codec.mpr (plain record member)

/-- What `ctime` returns in the following. -/
def tuesday : CString where
  bytes := charsOf "Tue Nov 14 22:13:20 2023\n"
  not_nul := by decide

def inStopListening : SourceLocation :=
  ⟨⟨charsOf "listener.cpp", by decide⟩, ⟨charsOf "stopListening", by decide⟩, 53⟩

def stoppedListening : LogRecord :=
  Logger.log tuesday .info inStopListening ⟨charsOf "Stopped Listening", by decide⟩

def stoppedSocket : LogRecord :=
  Logger.varLog tuesday .error inStopListening inStopListening
    [.text (charsOf "Stopped Socket"), .number 5]

theorem plain_stoppedListening : stoppedListening.Plain :=
  Logger.plain_log (by decide) (by decide) (by decide) (by decide)

theorem plain_stoppedSocket : stoppedSocket.Plain :=
  Logger.plain_varLog (by decide) (by decide) (by decide) (by decide)

/-- Thread 1 logs a record of a level that is not written and one that is, and so does
thread 0. -/
def threeRecords : List LogAction :=
  [.log 1 { stoppedListening with logLevel := .debug }, .log 0 stoppedListening, .write 0,
    .log 1 stoppedSocket, .write 1, .stop, .stopStep] ++
    List.replicate 17 (.logThread 0 .succeeds 0)

def stoppedApp : LogPath where
  bytes := charsOf "Logs/app.log"
  not_nul := by decide
  dot := by decide

set_option maxRecDepth 4000 in
theorem files_hold_records_threeRecords :
    ∃ state, logSystem.Steps { writer := .create stoppedApp fun _ => none } threeRecords state ∧
      readLog state.writer.logFiles.segments.flatten =
        some [stoppedListening, stoppedSocket] := by
  have steps : logSystem.Steps { writer := .create stoppedApp fun _ => none } threeRecords _ :=
    TransitionSystem.runWhere_eq_some_iff.mp rfl
  obtain ⟨_, _, _, ends⟩ := files_hold_records stoppedApp (fun _ => none) threeRecords _ steps
  obtain ⟨_, _, reads⟩ := ends rfl
  refine ⟨_, steps, reads rfl fun record member => ?_⟩
  rcases List.mem_cons.mp member with rfl | member
  · exact plain_stoppedListening
  · obtain rfl := List.mem_singleton.mp member
    exact plain_stoppedSocket

end HttpServer
