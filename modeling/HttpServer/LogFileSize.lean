import HttpServer.AsyncFileWriter

/-!
# How long the log files get

`writeFile` asks the file system for the size of the log file, which does not know of the
bytes that the stream still has in its buffer.
-/

namespace HttpServer

namespace AsyncFileWriter

variable {writer next : AsyncFileWriter} {action : WriterAction} {path : LogPath}
  {files : List UInt8 → Option (List UInt8)} {actions : List WriterAction}
  {last : AsyncFileWriter}

/-- No entry is longer than a log file may be, and every rotation gives the file a name that
no file has. -/
def RenamesFresh (writer : AsyncFileWriter) (action : WriterAction) : Prop :=
  match action.call with
  | .writeFile logEntry =>
      logEntry.length ≤ maxLogSize ∧
        (maxLogSize < writer.logContent.length + logEntry.length →
          writer.files (buildDatName writer.logPath action.now) = none ∧
            action.renamed = .succeeds)
  | .flush => True

/-- Where the entry fits by what the file system says, it fits with the buffer as well. -/
def BufferFits (writer : AsyncFileWriter) (action : WriterAction) : Prop :=
  match action.call with
  | .writeFile logEntry =>
      writer.logContent.length + logEntry.length ≤ maxLogSize →
        writer.logContent.length + writer.logFile.buffer.length + logEntry.length ≤ maxLogSize
  | .flush => True

/-- After the call, and a flush, no log file is too long. -/
def KeepsLimit (writer : AsyncFileWriter) (action : WriterAction) : Prop :=
  ∀ next, writerSystem.step writer action = some next →
    next.flush.logFiles.WithinLimit maxLogSize

/-- A call keeps the limit exactly when the buffer fits. -/
theorem withinLimit_iff_bufferFits (sound : writer.Sound)
    (within : writer.contents.WithinLimit maxLogSize) (fresh : writer.RenamesFresh action)
    (steps : writerSystem.step writer action = some next) :
    next.contents.WithinLimit maxLogSize ↔ writer.BufferFits action := by
  obtain ⟨call, now, renamed, written⟩ := action
  cases call with
  | flush =>
      cases steps
      rw [sound.contents_flush]
      exact iff_of_true within trivial
  | writeFile logEntry =>
      obtain ⟨short, renames⟩ := fresh
      have writes : writer.writeFile logEntry now renamed written = some next := steps
      cases sound.writeStep_of_writeFile writes with
      | fits small =>
          rw [sound.contents_insert, within.append_iff, contents, List.length_append]
          exact ⟨fun fits _ => fits, fun fits => fits small⟩
      | stays large _ _ blocked =>
          obtain ⟨free, succeeds⟩ := renames large
          rcases blocked with taken | fails
          · rw [free] at taken
            cases taken
          · cases succeeds.symm.trans fails
      | rotates large _ free _ =>
          have freeFlushed := sound.fresh_flush free
          rw [(sound.flush.rotateTo freeFlushed).contents_insert,
            sound.flush.contents_rotateTo sound.buffer_flush freeFlushed, sound.contents_flush,
            within.rotate.append_iff]
          refine iff_of_true ?_ fun small => absurd large (Nat.not_lt.mpr small)
          exact (Nat.zero_add _).le.trans short

theorem keepsLimit_iff_bufferFits (sound : writer.Sound)
    (within : writer.contents.WithinLimit maxLogSize) (fresh : writer.RenamesFresh action)
    (steps : writerSystem.step writer action = some next) :
    writer.KeepsLimit action ↔ writer.BufferFits action := by
  rw [← withinLimit_iff_bufferFits sound within fresh steps,
    ← (sound_of_step sound steps).logFiles_flush]
  constructor
  · exact fun keeps => keeps next steps
  · intro kept other stepsToo
    obtain rfl := Option.some.inj (steps.symm.trans stepsToo)
    exact kept

/-- From a file that is not too long, with entries that are not and rotations that succeed,
no log file gets too long exactly when each entry that fits by the size of the file fits
with the buffer as well. -/
theorem logSize_iff (small : (create path files).logContent.length ≤ maxLogSize)
    (steps : writerSystem.StepsWhere RenamesFresh (create path files) actions last) :
    (∀ step ∈ writerSystem.trace (create path files) actions, KeepsLimit step.1 step.2) ↔
      ∀ step ∈ writerSystem.trace (create path files) actions, BufferFits step.1 step.2 := by
  refine steps.forall_trace_iff
    (fun state => state.Sound ∧ state.contents.WithinLimit maxLogSize) ?_ ?_ ?_
  · refine ⟨sound_create path files, ?_⟩
    rw [contents_create, SegmentedLog.withinLimit_iff]
    exact ⟨nofun, small⟩
  · rintro state action next ⟨sound, within⟩ fresh stepTo
    exact keepsLimit_iff_bufferFits sound within fresh stepTo
  · rintro state action next ⟨sound, within⟩ fresh keeps stepTo
    have after := sound_of_step sound stepTo
    exact ⟨after, after.logFiles_flush ▸ keeps next stepTo⟩

/-- The stream keeps an entry in its buffer. -/
def hold (logEntry : List UInt8) : WriterAction where
  call := .writeFile logEntry

section Held

variable {logEntry : List UInt8}

/-- The file system has as much room after such an entry as before. -/
theorem step_hold (sound : writer.Sound)
    (small : writer.logContent.length + logEntry.length ≤ maxLogSize) :
    ∃ next, writerSystem.step writer (hold logEntry) = some next ∧
      writer.RenamesFresh (hold logEntry) ∧ next.logContent = writer.logContent ∧
      next.contents = writer.contents.append logEntry := by
  refine ⟨_, sound.writeFile_of_small 0 .succeeds 0 small, ⟨?_, ?_⟩, ?_,
    sound.contents_insert ..⟩
  · exact Nat.le_trans (Nat.le_add_left ..) small
  · exact fun large => absurd large (Nat.not_lt.mpr small)
  · rw [insert, if_pos sound.isOpen, logContent_handOn, List.take_zero, List.append_nil]
    rfl

/-- An entry that does not fit goes to a new file. -/
theorem step_hold_rotates (sound : writer.Sound)
    (large : maxLogSize < writer.logContent.length + logEntry.length)
    (short : logEntry.length ≤ maxLogSize)
    (fits : (buildDatName writer.logPath 0).length < newLogNameSize)
    (free : writer.files (buildDatName writer.logPath 0) = none) :
    ∃ next, writerSystem.step writer (hold logEntry) = some next ∧
      writer.RenamesFresh (hold logEntry) ∧ next.logContent = [] ∧
      next.contents = writer.contents.rotate.append logEntry := by
  have isSome : (writer.writeFile logEntry 0 .succeeds 0).isSome = true :=
    sound.isSome_writeFile.mpr fun _ => ⟨fits, by decide⟩
  obtain ⟨next, writes⟩ := Option.isSome_iff_exists.mp isSome
  refine ⟨next, writes, ⟨short, fun _ => ⟨free, rfl⟩⟩, ?_⟩
  cases sound.writeStep_of_writeFile writes with
  | fits small => exact absurd large (Nat.not_lt.mpr small)
  | stays _ _ _ blocked =>
      rcases blocked with taken | fails
      · rw [free] at taken
        cases taken
      · cases fails
  | rotates =>
      have freeFlushed := sound.fresh_flush free
      have rotated := sound.flush.rotateTo freeFlushed
      constructor
      · rw [insert, if_pos rotated.isOpen, logContent_handOn, List.take_zero, List.append_nil]
        simp [logContent, buffered, rotateTo]
      · rw [rotated.contents_insert,
          sound.flush.contents_rotateTo sound.buffer_flush freeFlushed, sound.contents_flush]

theorem files_create {name : List UInt8} (other : name ≠ path.bytes) :
    (create path files).files name = files name :=
  Function.update_of_ne other ..

/-- After a rotation there is room for two entries. -/
theorem steps_hold_rotates
    (large : maxLogSize < (create path files).logContent.length + logEntry.length)
    (short : logEntry.length + logEntry.length ≤ maxLogSize)
    (fits : (buildDatName path 0).length < newLogNameSize)
    (free : (create path files).files (buildDatName path 0) = none) :
    ∃ last, writerSystem.StepsWhere RenamesFresh (create path files)
        [hold logEntry, hold logEntry] last ∧
      last.flush.logFiles =
        { closed := [(create path files).logContent], current := logEntry ++ logEntry } ∧
      ∀ step ∈ writerSystem.trace (create path files) [hold logEntry, hold logEntry],
        BufferFits step.1 step.2 := by
  have one : logEntry.length ≤ maxLogSize := Nat.le_trans (Nat.le_add_left ..) short
  obtain ⟨middle, stepTo, fresh, empty, rotated⟩ :=
    step_hold_rotates (sound_create path files) large one fits free
  have sound := sound_of_step (sound_create path files) stepTo
  have small : middle.logContent.length + logEntry.length ≤ maxLogSize := by
    rwa [empty, List.length_nil, Nat.zero_add]
  obtain ⟨last, stepToLast, freshMiddle, _, held⟩ := step_hold sound small
  have steps := TransitionSystem.StepsWhere.single fresh stepTo
  rw [contents_create] at rotated
  refine ⟨last, steps.tail freshMiddle stepToLast, ?_, ?_⟩
  · rw [(sound_of_step sound stepToLast).logFiles_flush, held, rotated]
    rfl
  · have buffer : middle.logContent ++ middle.logFile.buffer = logEntry :=
      congrArg SegmentedLog.current rotated
    intro step member
    simp only [TransitionSystem.trace, stepTo, stepToLast, List.mem_cons, List.not_mem_nil,
      or_false] at member
    rcases member with rfl | rfl
    · exact fun small => absurd large (Nat.not_lt.mpr small)
    · intro _
      rwa [← List.length_append, buffer]

/-- Two entries that fit one by one are taken without a rotation. -/
theorem steps_hold_twice
    (small : (create path files).logContent.length + logEntry.length ≤ maxLogSize) :
    ∃ last, writerSystem.StepsWhere RenamesFresh (create path files)
        [hold logEntry, hold logEntry] last ∧
      last.flush.logFiles.current.length =
        (create path files).logContent.length + 2 * logEntry.length ∧
      ((∀ step ∈ writerSystem.trace (create path files) [hold logEntry, hold logEntry],
          KeepsLimit step.1 step.2) → last.flush.logFiles.current.length ≤ maxLogSize) := by
  obtain ⟨middle, stepTo, fresh, same, held⟩ := step_hold (sound_create path files) small
  have sound := sound_of_step (sound_create path files) stepTo
  obtain ⟨last, stepToLast, freshMiddle, _, heldBoth⟩ := step_hold sound (same ▸ small)
  have steps := TransitionSystem.StepsWhere.single fresh stepTo
  refine ⟨last, steps.tail freshMiddle stepToLast, ?_, fun keeps => ?_⟩
  · rw [(sound_of_step sound stepToLast).logFiles_flush, heldBoth, held, contents_create]
    simp only [SegmentedLog.append, List.length_append]
    omega
  · have within := keeps (middle, hold logEntry)
      (by simp [TransitionSystem.trace, stepTo, stepToLast]) last stepToLast
    exact (SegmentedLog.withinLimit_iff.mp within).2

end Held

def appLog : LogPath where
  bytes := "Logs/app.log".toList.map Char.toUInt8
  not_nul := by decide
  dot := by decide

/-- The log file has room for so many more characters. -/
def nearlyFull (room : Nat) (name : List UInt8) : Option (List UInt8) :=
  if name = appLog.bytes then some (List.replicate (maxLogSize - room) 120) else none

theorem logContent_nearlyFull (room : Nat) :
    (create appLog (nearlyFull room)).logContent =
      List.replicate (maxLogSize - room) 120 := by
  simp [create, openLog, logContent, nearlyFull]

/-- An entry of 512 characters. -/
def line : List UInt8 :=
  List.replicate 512 120

theorem length_line : line.length = 512 :=
  List.length_replicate

/-- A first entry does not fit any more, and both go to a new file. -/
theorem logSize_iff_rotated :
    ∃ last, writerSystem.StepsWhere RenamesFresh (create appLog (nearlyFull 511))
        [hold line, hold line] last ∧
      last.flush.logFiles =
        { closed := [List.replicate (maxLogSize - 511) 120], current := line ++ line } ∧
      ∀ step ∈ writerSystem.trace (create appLog (nearlyFull 511)) [hold line, hold line],
        KeepsLimit step.1 step.2 := by
  have small : (create appLog (nearlyFull 511)).logContent.length ≤ maxLogSize := by
    rw [logContent_nearlyFull, List.length_replicate]
    decide
  have large : maxLogSize <
      (create appLog (nearlyFull 511)).logContent.length + line.length := by
    rw [logContent_nearlyFull, List.length_replicate, length_line]
    decide
  have free : (create appLog (nearlyFull 511)).files (buildDatName appLog 0) = none := by
    have other : buildDatName appLog 0 ≠ appLog.bytes := by decide
    exact (files_create other).trans (if_neg other)
  obtain ⟨last, steps, files, fit⟩ :=
    steps_hold_rotates large (by rw [length_line]; decide) (by decide) free
  rw [logContent_nearlyFull] at files
  exact ⟨last, steps, files, (logSize_iff small steps).mpr fit⟩

/-- Two entries of 512 characters are taken without a rotation. -/
theorem logSize_fails :
    ∃ last, writerSystem.StepsWhere RenamesFresh (create appLog (nearlyFull 512))
        [hold line, hold line] last ∧
      (create appLog (nearlyFull 512)).logContent.length ≤ maxLogSize ∧
      last.flush.logFiles.current.length = maxLogSize + 512 ∧
      ¬ ∀ step ∈ writerSystem.trace (create appLog (nearlyFull 512)) [hold line, hold line],
        KeepsLimit step.1 step.2 := by
  have room : (create appLog (nearlyFull 512)).logContent.length + line.length ≤
      maxLogSize := by
    rw [logContent_nearlyFull, List.length_replicate, length_line]
    decide
  obtain ⟨last, steps, both, limited⟩ := steps_hold_twice room
  rw [logContent_nearlyFull, List.length_replicate, length_line] at both
  have long : last.flush.logFiles.current.length = maxLogSize + 512 := both.trans (by decide)
  refine ⟨last, steps, Nat.le_trans (Nat.le_add_right ..) room, long, fun keeps => ?_⟩
  have short := limited keeps
  rw [long] at short
  exact absurd short (by decide)

end AsyncFileWriter

end HttpServer
