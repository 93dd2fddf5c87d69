import HttpServer.AsyncFileWriter

/-!
# What rotations keep of the log

The rotated files, in the order of their rotations, and the log file hold the initial
content and all entries, whatever the clock says and whether or not the file is renamed.
Two things end this: a name that does not fit into `newLogName`, behind which `strcat` then
writes, and a name that `exists` throws for, when the log file is already closed.
-/

namespace HttpServer

namespace AsyncFileWriter

variable {writer next : AsyncFileWriter} {action : WriterAction} {path : LogPath}
  {files : List UInt8 → Option (List UInt8)} {actions : List WriterAction}

section Files

variable {name content : List UInt8}

theorem files_insert (other : name ≠ writer.logPath.bytes) (logEntry : List UInt8)
    (written : Nat) : (writer.insert logEntry written).files name = writer.files name := by
  unfold insert
  split
  · exact Function.update_of_ne other ..
  · rfl

theorem files_flush (other : name ≠ writer.logPath.bytes) :
    writer.flush.files name = writer.files name := by
  unfold flush
  split
  · exact files_handOn other _
  · rfl

theorem logPath_insert (logEntry : List UInt8) (written : Nat) :
    (writer.insert logEntry written).logPath = writer.logPath := by
  unfold insert
  split
  · rfl
  · rfl

/-- A call keeps the path, and all files but the log file as they are. -/
theorem files_of_step (sound : writer.Sound)
    (steps : writerSystem.step writer action = some next) :
    next.logPath = writer.logPath ∧
      ∀ name content, name ≠ writer.logPath.bytes → writer.files name = some content →
        next.files name = some content := by
  obtain ⟨call, now, renamed, written⟩ := action
  cases call with
  | flush =>
      cases steps
      exact ⟨sound.logPath_flush, fun name content other found => (files_flush other).trans found⟩
  | writeFile logEntry =>
      have writes : writer.writeFile logEntry now renamed written = some next := steps
      cases sound.writeStep_of_writeFile writes with
      | fits small =>
          exact ⟨logPath_insert .., fun name content other found =>
            (files_insert other ..).trans found⟩
      | stays =>
          refine ⟨(logPath_insert ..).trans sound.logPath_flush, ?_⟩
          intro name content other found
          rw [files_insert (sound.logPath_flush ▸ other), files_flush other, found]
      | rotates large short fresh renames =>
          refine ⟨(logPath_insert ..).trans sound.logPath_flush, ?_⟩
          intro name content other found
          have otherLog : name ≠ writer.flush.logPath.bytes := sound.logPath_flush ▸ other
          have present : (writer.flush.files name).isSome = true := by
            rw [files_flush other, found]
            rfl
          have kept := Sound.files_rotateTo (sound.fresh_flush fresh) otherLog present
          have otherNew : name ≠
              (writer.flush.rotateTo (buildDatName writer.logPath now)).logPath.bytes := otherLog
          rw [files_insert otherNew, kept, files_flush other, found]

theorem logPath_of_steps {last : AsyncFileWriter}
    (steps : writerSystem.Steps (create path files) actions last) : last.logPath = path := by
  refine (steps.kept (fun state => state.Sound ∧ state.logPath = path)
    ⟨sound_create path files, rfl⟩ ?_).2
  rintro state action next ⟨sound, same⟩ _ stepTo
  exact ⟨sound_of_step sound stepTo, (files_of_step sound stepTo).1.trans same⟩

/-- A file other than the log file stays as it is once it is there. -/
theorem files_of_steps (sound : writer.Sound) {last : AsyncFileWriter}
    (steps : writerSystem.Steps writer actions last) (other : name ≠ writer.logPath.bytes)
    (found : writer.files name = some content) : last.files name = some content := by
  refine (steps.kept (fun state => state.Sound ∧ state.logPath = writer.logPath ∧
    state.files name = some content) ⟨sound, rfl, found⟩ ?_).2.2
  rintro state action next ⟨sound, path, found⟩ _ stepTo
  obtain ⟨same, kept⟩ := files_of_step sound stepTo
  exact ⟨sound_of_step sound stepTo, same.trans path, kept name content (path ▸ other) found⟩

end Files

/-- What holds of the files after some calls on a new writer: flushed, they are the initial
content and the entries in order, each entry in one file; no name was given twice; and a
file that was there after some of the calls, other than the log file, was not changed by
those after them. -/
structure KeepsLog (path : LogPath) (files : List UInt8 → Option (List UInt8))
    (actions : List WriterAction) (last : AsyncFileWriter) : Prop where
  inOrder : last.flush.logFiles.segments.flatten =
    (create path files).logContent ++ (entries actions).flatten
  whole : last.flush.logFiles.Holds (create path files).logContent (entries actions)
  distinct : last.rotated.Nodup
  untouched : ∀ before after middle, actions = before ++ after →
    writerSystem.Steps (create path files) before middle →
    ∀ name content, name ≠ path.bytes → middle.files name = some content →
      last.files name = some content

/-- The name of the rotated file fits into `newLogName`, if the call comes to that: the path
up to its last dot, the time and the digits of the clock, `.log` and the NUL.  And `exists`
does not throw for it. -/
def NameFits (writer : AsyncFileWriter) (action : WriterAction) : Prop :=
  match action.call with
  | .writeFile logEntry =>
      maxLogSize < writer.logContent.length + logEntry.length →
        writer.logPath.datName.length + 20 + (nsBuff action.now.toInt).length + 4 + 1 ≤
            newLogNameSize ∧ action.renamed ≠ .existsThrows
  | .flush => True

theorem isSome_step_iff (sound : writer.Sound) :
    (∃ next, writerSystem.step writer action = some next) ↔ writer.NameFits action := by
  obtain ⟨call, now, renamed, written⟩ := action
  cases call with
  | flush => exact iff_of_true ⟨_, rfl⟩ trivial
  | writeFile logEntry =>
      change (∃ next, writer.writeFile logEntry now renamed written = some next) ↔ (_ → _)
      rw [← Option.isSome_iff_exists, sound.isSome_writeFile, length_buildDatName]
      exact Iff.rfl

/-- The entries that the segmented log takes are those written. -/
theorem entries_history {last : AsyncFileWriter}
    (steps : writerSystem.Steps (create path files) actions last) :
    SegmentedLog.entries (segmentMapping.history (create path files) actions) =
      entries actions := by
  induction steps with
  | refl => rfl
  | tail before _ stepTo ih =>
      rw [TransitionSystem.RefinementMapping.history_concat before, SegmentedLog.entries_append,
        ih, entries_concat]
      exact congrArg _ (entries_segmentActions _)

theorem keepsLog_of_steps {last : AsyncFileWriter}
    (steps : writerSystem.Steps (create path files) actions last) :
    KeepsLog path files actions last := by
  have sound : last.Sound := sound_of_reachable ⟨_, _, ⟨path, files, rfl⟩, steps⟩
  have whole : last.flush.logFiles.Holds (create path files).logContent (entries actions) := by
    have segments := segmentMapping.refines ⟨path, files, rfl⟩ steps
    change (SegmentedLog.system UInt8).Steps (create path files).contents _ last.contents
      at segments
    rw [contents_create] at segments
    rw [sound.logFiles_flush, ← entries_history steps]
    exact SegmentedLog.Holds.of_steps segments
  refine ⟨whole.flatten_segments, whole, sound.nodup, ?_⟩
  rintro before after middle rfl begins name content other found
  obtain ⟨reached, first, rest⟩ := steps.of_append
  have same := (TransitionSystem.runWhere_eq_some_iff.mpr begins).symm.trans
    (TransitionSystem.runWhere_eq_some_iff.mpr first)
  obtain rfl := Option.some.inj same
  have soundMiddle : middle.Sound := sound_of_reachable ⟨_, _, ⟨path, files, rfl⟩, begins⟩
  have samePath : middle.logPath = path := logPath_of_steps begins
  exact files_of_steps soundMiddle rest (samePath ▸ other) found

/-- The calls go through and keep the log exactly when the name of a rotated file fits into
its buffer, and can be looked up, each time that one is built. -/
theorem rotation_keepsLog_iff :
    (∃ last, writerSystem.Steps (create path files) actions last ∧
        KeepsLog path files actions last) ↔
      ∀ step ∈ writerSystem.trace (create path files) actions, NameFits step.1 step.2 := by
  rw [← TransitionSystem.StepsWhere.exists_iff_trace Sound (fun _ _ => isSome_step_iff)
    (fun _ _ _ => sound_of_step) (sound_create path files)]
  constructor
  · rintro ⟨last, steps, _⟩
    exact ⟨last, steps⟩
  · rintro ⟨last, steps⟩
    exact ⟨last, steps, keepsLog_of_steps steps⟩

/-- `app.log` in a directory 980 characters deep. -/
def deepPath : LogPath where
  bytes := (List.replicate 98 ("/var/logs/".toList.map Char.toUInt8)).flatten ++
    "/app.log".toList.map Char.toUInt8
  not_nul := by decide +kernel
  dot := by decide +kernel

/-- The log file there is full. -/
def fullLog (name : List UInt8) : Option (List UInt8) :=
  if name = deepPath.bytes then some (List.replicate maxLogSize 120) else none

/-- One more character is written, on the 14th of November 2023. -/
def writeOne : WriterAction where
  call := .writeFile [120]
  now := 1700000000000000000

theorem rotation_keepsLog_fails :
    ¬ ∃ last, writerSystem.Steps (create deepPath fullLog) [writeOne] last ∧
      KeepsLog deepPath fullLog [writeOne] last := by
  rintro ⟨last, steps, _⟩
  have fits : (create deepPath fullLog).NameFits writeOne :=
    (isSome_step_iff (sound_create ..)).mp ⟨last, steps.of_single.2⟩
  have full : (create deepPath fullLog).logContent.length = maxLogSize := by
    simp [create, openLog, logContent, fullLog]
  have long : deepPath.datName.length + 20 + (nsBuff writeOne.now.toInt).length + 4 + 1 =
      1025 := by
    decide +kernel
  have short := (fits (by rw [full]; exact Nat.lt_succ_self _)).1
  rw [show (create deepPath fullLog).logPath = deepPath from rfl, long] at short
  exact absurd short (by decide)

end AsyncFileWriter

end HttpServer
