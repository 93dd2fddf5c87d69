import HttpServer.Library.SegmentedLog
import HttpServer.Library.RefinementMapping
import HttpServer.Logger
import HttpServer.NetworkManagerCore
import Mathlib.Data.Nat.Digits.Defs
import Mathlib.Logic.Function.Basic

/-!
# The log file and its rotation

`AsyncFileWriter` appends to one file, through a stream that may keep any part of what was
written in its buffer, and renames the file when the next entry would make it too long.
The file system is a map from names to contents; nobody else writes to it, and opening a
file succeeds.
-/

namespace HttpServer

/-- `m_logPath`, in which `strrchr` finds a dot. -/
structure LogPath extends CString where
  dot : 46 ∈ bytes

namespace LogPath

/-- The path up to its last dot, that included. -/
def datName (path : LogPath) : List UInt8 :=
  (path.bytes.reverse.dropWhile (· ≠ 46)).reverse

end LogPath

/-- A number in decimal, filled up with zeros. -/
def padded (width number : Nat) : List Char :=
  List.replicate (width - (Nat.toDigits 10 number).length) '0' ++ Nat.toDigits 10 number

structure Tm where
  year : Nat
  mon : Nat
  mday : Nat
  hour : Nat
  min : Nat
  sec : Nat

/-- The date in the Gregorian calendar, by its eras of 400 years that begin on a 1st of
March, and the time of the day. -/
def gmtime (currTime : Int) : Tm :=
  let day := currTime / 86400 + 719468
  let dayOfEra := day % 146097
  let yearOfEra :=
    (dayOfEra - dayOfEra / 1460 + dayOfEra / 36524 - dayOfEra / 146096) / 365
  let dayOfYear := dayOfEra - (365 * yearOfEra + yearOfEra / 4 - yearOfEra / 100)
  let month := (5 * dayOfYear + 2) / 153
  { year := (yearOfEra + day / 146097 * 400 + month / 10).toNat
    mon := (if month < 10 then month + 3 else month - 9).toNat
    mday := (dayOfYear - (153 * month + 2) / 5 + 1).toNat
    hour := (currTime % 86400 / 3600).toNat
    min := (currTime % 3600 / 60).toNat
    sec := (currTime % 60).toNat }

/-- `%FT%TZ`. -/
def strftime (time : Tm) : List Char :=
  padded 4 time.year ++ '-' :: padded 2 time.mon ++ '-' :: padded 2 time.mday ++
    'T' :: padded 2 time.hour ++ ':' :: padded 2 time.min ++ ':' :: padded 2 time.sec ++ ['Z']

example : strftime (gmtime 951782400) = "2000-02-29T00:00:00Z".toList := by decide

/-- `nsBuff` has room for 15 characters. -/
def nsBuff (ns : Int) : List Char :=
  ns.repr.toList.take 15

/-- The clock counts nanoseconds, and `to_time_t` rounds towards zero. -/
def concatTime (now : Int64) : List UInt8 :=
  (strftime (gmtime (now.toInt.tdiv (10 ^ 9))) ++ nsBuff now.toInt).map Char.toUInt8

def buildDatName (path : LogPath) (now : Int64) : List UInt8 :=
  path.datName ++ concatTime now ++ ".log".toList.map Char.toUInt8

/-- The characters that fit into `newLogName`, the terminating NUL included. -/
def newLogNameSize : Nat := 1024

def maxLogSize : Nat := 5 * 1024 * 1024

/-- The stream on the log file: what was written to it and not handed on yet. -/
structure Ofstream where
  isOpen : Bool := false
  buffer : List UInt8 := []

/-- The writer with the files around it; `rotated` are the names that rotations have given,
oldest first. -/
structure AsyncFileWriter where
  logPath : LogPath
  files : List UInt8 → Option (List UInt8)
  logFile : Ofstream := {}
  rotated : List (List UInt8) := []

/-- What the operating system says to the name of a rotated file: `exists` throws when the
name cannot be looked up, and otherwise `rename` fails or succeeds. -/
inductive RenameResult where
  | existsThrows
  | fails
  | succeeds
deriving DecidableEq

/-- A call on the writer.  `now` is what the clock says and `renamed` what the operating
system does, if the call comes to them; `written` is how much of its buffer the stream hands
on. -/
structure WriterAction where
  call : FileCall (List UInt8)
  now : Int64 := 0
  renamed : RenameResult := .succeeds
  written : Nat := 0

namespace AsyncFileWriter

/-- What the file system has of the log file. -/
def logContent (writer : AsyncFileWriter) : List UInt8 :=
  (writer.files writer.logPath.bytes).getD []

/-- The stream hands on the first bytes of its buffer. -/
def handOn (writer : AsyncFileWriter) (count : Nat) : AsyncFileWriter :=
  { writer with
    files := Function.update writer.files writer.logPath.bytes
      (some (writer.logContent ++ writer.logFile.buffer.take count))
    logFile := { writer.logFile with buffer := writer.logFile.buffer.drop count } }

/-- The stream takes the bytes into its buffer. -/
def buffered (writer : AsyncFileWriter) (logEntry : List UInt8) : AsyncFileWriter :=
  { writer with
    logFile := { writer.logFile with buffer := writer.logFile.buffer ++ logEntry } }

/-- `m_logFile << logEntry`. -/
def insert (writer : AsyncFileWriter) (logEntry : List UInt8) (written : Nat) :
    AsyncFileWriter :=
  if writer.logFile.isOpen then (writer.buffered logEntry).handOn written else writer

def flush (writer : AsyncFileWriter) : AsyncFileWriter :=
  if writer.logFile.isOpen then writer.handOn writer.logFile.buffer.length else writer

def close (writer : AsyncFileWriter) : AsyncFileWriter :=
  { writer.flush with logFile := {} }

/-- `m_logFile.open(m_logPath, std::ios::app)`. -/
def openLog (writer : AsyncFileWriter) : AsyncFileWriter :=
  { writer with
    files := Function.update writer.files writer.logPath.bytes (some writer.logContent)
    logFile := { isOpen := true } }

/-- The constructor. -/
def create (path : LogPath) (files : List UInt8 → Option (List UInt8)) : AsyncFileWriter :=
  openLog { logPath := path, files }

def rename (writer : AsyncFileWriter) (newLogName : List UInt8) : AsyncFileWriter :=
  { writer with
    files := Function.update (Function.update writer.files newLogName (some writer.logContent))
      writer.logPath.bytes none
    rotated := writer.rotated ++ [newLogName] }

/-- No result is a name that does not fit into its buffer, or that `exists` throws for
when the log file is closed. -/
def changeLogFileIfNeeded (writer : AsyncFileWriter) (now : Int64) (renamed : RenameResult) :
    Option (Bool × AsyncFileWriter) :=
  match writer.files writer.logPath.bytes with
  | none => some (false, writer)
  | some _ =>
      let closed := if writer.logFile.isOpen then writer.close else writer
      let newLogName := buildDatName writer.logPath now
      if newLogNameSize ≤ newLogName.length then none
      else if renamed = .existsThrows then none
      else if (closed.files newLogName).isSome then some (false, closed.openLog)
      else if renamed = .succeeds then some (true, (closed.rename newLogName).openLog)
      else some (false, closed.openLog)

/-- `file_size` throws when there is no file. -/
def writeFile (writer : AsyncFileWriter) (logEntry : List UInt8) (now : Int64)
    (renamed : RenameResult) (written : Nat) : Option AsyncFileWriter :=
  (writer.files writer.logPath.bytes).bind fun content =>
    if content.length + logEntry.length > maxLogSize then
      (writer.flush.changeLogFileIfNeeded now renamed).map fun (_, changed) =>
        changed.insert logEntry written
    else some (writer.insert logEntry written)

end AsyncFileWriter

/-- Any calls on a new writer. -/
def writerSystem : TransitionSystem AsyncFileWriter WriterAction where
  Initial writer := ∃ path files, writer = .create path files
  step writer action :=
    match action.call with
    | .writeFile logEntry =>
        writer.writeFile logEntry action.now action.renamed action.written
    | .flush => some writer.flush

theorem length_padded {width number : Nat} (positive : 0 < width) (small : number < 10 ^ width) :
    (padded width number).length = width := by
  have short := (Nat.length_toDigits_le_iff (by decide : 1 < 10) positive).mpr small
  rw [padded, List.length_append, List.length_replicate]
  omega

/-- The fields of a date of four digits. -/
structure Tm.Bounded (time : Tm) : Prop where
  year : time.year < 10 ^ 4
  mon : time.mon < 10 ^ 2
  mday : time.mday < 10 ^ 2
  hour : time.hour < 10 ^ 2
  min : time.min < 10 ^ 2
  sec : time.sec < 10 ^ 2

theorem length_strftime {time : Tm} (bounded : time.Bounded) : (strftime time).length = 20 := by
  simp only [strftime, List.length_append, List.length_cons, List.length_nil,
    length_padded (by decide) bounded.year, length_padded (by decide) bounded.mon,
    length_padded (by decide) bounded.mday, length_padded (by decide) bounded.hour,
    length_padded (by decide) bounded.min, length_padded (by decide) bounded.sec]

/-- A year of an era has at most 366 days, roughly. -/
theorem dayOfYear_bounds {dayOfEra yearOfEra : Int} (low : 0 ≤ dayOfEra)
    (high : dayOfEra < 146097)
    (years : yearOfEra =
      (dayOfEra - dayOfEra / 1460 + dayOfEra / 36524 - dayOfEra / 146096) / 365) :
    0 ≤ yearOfEra ∧ yearOfEra < 400 ∧
      dayOfEra - (365 * yearOfEra + yearOfEra / 4 - yearOfEra / 100) < 500 := by
  omega

/-- The clock ends in the year 2262. -/
theorem gmtime_bounded {currTime : Int} (high : currTime < 9223372037) :
    (gmtime currTime).Bounded := by
  have low := Int.emod_nonneg (currTime / 86400 + 719468) (by decide : (146097 : Int) ≠ 0)
  have less := Int.emod_lt_of_pos (currTime / 86400 + 719468) (by decide : (0 : Int) < 146097)
  obtain ⟨_, years, days⟩ := dayOfYear_bounds low less rfl
  constructor
  case mon =>
    simp only [gmtime]
    split
    · omega
    · omega
  all_goals
    simp only [gmtime]
    omega

theorem length_concatTime (now : Int64) :
    (concatTime now).length = 20 + (nsBuff now.toInt).length := by
  have limit : now.toInt ≤ 2 ^ 63 - 1 := Int.le_sub_one_of_lt (Int64.toInt_lt now)
  have seconds : now.toInt.tdiv (10 ^ 9) ≤ 9223372036 :=
    Int.tdiv_le_tdiv (by decide) limit
  rw [concatTime, List.length_map, List.length_append, length_strftime (gmtime_bounded (by omega))]

theorem length_buildDatName (path : LogPath) (now : Int64) :
    (buildDatName path now).length =
      path.datName.length + 20 + (nsBuff now.toInt).length + 4 := by
  rw [buildDatName, List.length_append, List.length_append, length_concatTime, ← Nat.add_assoc]
  rfl

namespace AsyncFileWriter

variable {writer next : AsyncFileWriter}

/-- The files that the writer has written, by what the file system has of them. -/
def logFiles (writer : AsyncFileWriter) : SegmentedLog UInt8 where
  closed := writer.rotated.map fun name => (writer.files name).getD []
  current := writer.logContent

/-- The log, with what is still in the buffer. -/
def contents (writer : AsyncFileWriter) : SegmentedLog UInt8 where
  closed := writer.logFiles.closed
  current := writer.logContent ++ writer.logFile.buffer

/-- The log file is there and open, and so are the rotated files, under names of their own. -/
structure Sound (writer : AsyncFileWriter) : Prop where
  isOpen : writer.logFile.isOpen = true
  present : (writer.files writer.logPath.bytes).isSome = true
  rotated : ∀ name ∈ writer.rotated,
    (writer.files name).isSome = true ∧ name ≠ writer.logPath.bytes
  nodup : writer.rotated.Nodup

@[simp]
theorem logContent_handOn (count : Nat) : (writer.handOn count).logContent =
    writer.logContent ++ writer.logFile.buffer.take count := by
  simp [logContent, handOn]

theorem files_handOn {name : List UInt8} (other : name ≠ writer.logPath.bytes) (count : Nat) :
    (writer.handOn count).files name = writer.files name :=
  Function.update_of_ne other ..

namespace Sound

theorem handOn (sound : writer.Sound) (count : Nat) : (writer.handOn count).Sound where
  isOpen := sound.isOpen
  present := by simp [AsyncFileWriter.handOn]
  rotated name member := by
    obtain ⟨present, other⟩ := sound.rotated name member
    rw [files_handOn other]
    exact ⟨present, other⟩
  nodup := sound.nodup

theorem closed_handOn (sound : writer.Sound) (count : Nat) :
    (writer.handOn count).logFiles.closed = writer.logFiles.closed := by
  refine List.map_congr_left fun name member => ?_
  rw [files_handOn (sound.rotated name member).2]

/-- The bytes that are handed on only change their place. -/
theorem contents_handOn (sound : writer.Sound) (count : Nat) :
    (writer.handOn count).contents = writer.contents := by
  rw [contents, sound.closed_handOn, logContent_handOn, List.append_assoc]
  simp [AsyncFileWriter.handOn, contents]

theorem buffered (sound : writer.Sound) (logEntry : List UInt8) :
    (writer.buffered logEntry).Sound :=
  ⟨sound.isOpen, sound.present, sound.rotated, sound.nodup⟩

theorem insert (sound : writer.Sound) (logEntry : List UInt8) (written : Nat) :
    (writer.insert logEntry written).Sound := by
  rw [AsyncFileWriter.insert, if_pos sound.isOpen]
  exact (sound.buffered logEntry).handOn written

theorem contents_insert (sound : writer.Sound) (logEntry : List UInt8) (written : Nat) :
    (writer.insert logEntry written).contents = writer.contents.append logEntry := by
  rw [AsyncFileWriter.insert, if_pos sound.isOpen, (sound.buffered logEntry).contents_handOn]
  simp only [contents, SegmentedLog.append, List.append_assoc]
  rfl

theorem flush (sound : writer.Sound) : writer.flush.Sound := by
  rw [AsyncFileWriter.flush, if_pos sound.isOpen]
  exact sound.handOn _

theorem contents_flush (sound : writer.Sound) : writer.flush.contents = writer.contents := by
  rw [AsyncFileWriter.flush, if_pos sound.isOpen, sound.contents_handOn]

/-- After a flush the file system has everything. -/
theorem logFiles_flush (sound : writer.Sound) : writer.flush.logFiles = writer.contents := by
  rw [← sound.contents_flush, contents]
  have empty : writer.flush.logFile.buffer = [] := by
    rw [AsyncFileWriter.flush, if_pos sound.isOpen]
    exact List.drop_length
  rw [empty, List.append_nil]
  rfl

end Sound

/-- The file is renamed, and a new one is opened. -/
def rotateTo (writer : AsyncFileWriter) (newLogName : List UInt8) : AsyncFileWriter where
  logPath := writer.logPath
  files := Function.update (Function.update writer.files newLogName (some writer.logContent))
    writer.logPath.bytes (some [])
  logFile := { isOpen := true }
  rotated := writer.rotated ++ [newLogName]

/-- Everything that a call of `writeFile` can do to a sound writer: the entry fits, or a
rotation is tried and the file stays, or it is rotated. -/
inductive WriteStep (writer : AsyncFileWriter) (logEntry : List UInt8) (now : Int64)
    (renamed : RenameResult) (written : Nat) : AsyncFileWriter → Prop where
  | fits (small : writer.logContent.length + logEntry.length ≤ maxLogSize) :
      WriteStep writer logEntry now renamed written (writer.insert logEntry written)
  | stays (large : maxLogSize < writer.logContent.length + logEntry.length)
      (short : (buildDatName writer.logPath now).length < newLogNameSize)
      (found : renamed ≠ .existsThrows)
      (blocked : (writer.files (buildDatName writer.logPath now)).isSome = true ∨
        renamed = .fails) :
      WriteStep writer logEntry now renamed written (writer.flush.insert logEntry written)
  | rotates (large : maxLogSize < writer.logContent.length + logEntry.length)
      (short : (buildDatName writer.logPath now).length < newLogNameSize)
      (fresh : writer.files (buildDatName writer.logPath now) = none)
      (renames : renamed = .succeeds) :
      WriteStep writer logEntry now renamed written
        ((writer.flush.rotateTo (buildDatName writer.logPath now)).insert logEntry written)

namespace Sound

theorem files_logPath (sound : writer.Sound) :
    writer.files writer.logPath.bytes = some writer.logContent := by
  obtain ⟨content, found⟩ := Option.isSome_iff_exists.mp sound.present
  rw [logContent, found]
  rfl

theorem update_logPath (sound : writer.Sound) :
    Function.update writer.files writer.logPath.bytes (some writer.logContent) =
      writer.files := by
  rw [← sound.files_logPath, Function.update_eq_self]

theorem buffer_flush (sound : writer.Sound) : writer.flush.logFile.buffer = [] := by
  rw [AsyncFileWriter.flush, if_pos sound.isOpen]
  exact List.drop_length

/-- Closing a flushed stream and opening it again changes nothing. -/
theorem close_eq (sound : writer.Sound) (empty : writer.logFile.buffer = []) :
    writer.close = { writer with logFile := {} } := by
  rw [close, AsyncFileWriter.flush, if_pos sound.isOpen, AsyncFileWriter.handOn, empty]
  simp only [List.take_nil, List.append_nil, sound.update_logPath]

theorem openLog_close (sound : writer.Sound) (empty : writer.logFile.buffer = []) :
    writer.close.openLog = writer := by
  rw [sound.close_eq empty, openLog]
  obtain ⟨path, files, ⟨isOpen, buffer⟩, rotated⟩ := writer
  obtain rfl : isOpen = true := sound.isOpen
  obtain rfl : buffer = [] := empty
  simp only [AsyncFileWriter.mk.injEq, and_true, true_and]
  exact sound.update_logPath

theorem openLog_rename (sound : writer.Sound) (empty : writer.logFile.buffer = [])
    (newLogName : List UInt8) :
    (writer.close.rename newLogName).openLog = writer.rotateTo newLogName := by
  rw [sound.close_eq empty, rename, openLog, rotateTo, Function.update_idem]
  simp [logContent]

theorem changeLogFileIfNeeded_cases (sound : writer.Sound) (empty : writer.logFile.buffer = [])
    {now : Int64} {renamed : RenameResult} {rotates : Bool}
    (changes : writer.changeLogFileIfNeeded now renamed = some (rotates, next)) :
    ((buildDatName writer.logPath now).length < newLogNameSize ∧ renamed ≠ .existsThrows) ∧
      (((writer.files (buildDatName writer.logPath now)).isSome = true ∨ renamed = .fails) ∧
          next = writer ∨
        (writer.files (buildDatName writer.logPath now) = none ∧ renamed = .succeeds) ∧
          next = writer.rotateTo (buildDatName writer.logPath now)) := by
  rw [changeLogFileIfNeeded, sound.files_logPath] at changes
  dsimp only at changes
  rw [if_pos sound.isOpen] at changes
  split at changes
  · cases changes
  next short =>
    split at changes
    · cases changes
    next looked =>
      refine ⟨⟨Nat.lt_of_not_le short, looked⟩, ?_⟩
      rw [sound.openLog_close empty, sound.openLog_rename empty, sound.close_eq empty] at changes
      dsimp only at changes
      split at changes
      next taken =>
        cases changes
        exact Or.inl ⟨Or.inl taken, rfl⟩
      next free =>
        split at changes
        next renames =>
          cases changes
          exact Or.inr ⟨⟨by simpa using free, renames⟩, rfl⟩
        next stays =>
          cases changes
          have fails : renamed = .fails := by
            cases renamed <;> first | rfl | exact absurd rfl looked | exact absurd rfl stays
          exact Or.inl ⟨Or.inr fails, rfl⟩

theorem logPath_flush (sound : writer.Sound) : writer.flush.logPath = writer.logPath := by
  rw [AsyncFileWriter.flush, if_pos sound.isOpen]
  rfl

theorem isSome_files_flush (sound : writer.Sound) (name : List UInt8) :
    (writer.flush.files name).isSome = (writer.files name).isSome := by
  by_cases same : name = writer.logPath.bytes
  · rw [same, sound.present]
    exact sound.logPath_flush ▸ sound.flush.present
  · rw [AsyncFileWriter.flush, if_pos sound.isOpen, files_handOn same]

theorem writeFile_of_small (sound : writer.Sound) {logEntry : List UInt8} (now : Int64)
    (renamed : RenameResult) (written : Nat)
    (small : writer.logContent.length + logEntry.length ≤ maxLogSize) :
    writer.writeFile logEntry now renamed written = some (writer.insert logEntry written) := by
  rw [writeFile, sound.files_logPath, Option.bind_some, if_neg (Nat.not_lt.mpr small)]

theorem writeStep_of_writeFile (sound : writer.Sound) {logEntry : List UInt8} {now : Int64}
    {renamed : RenameResult} {written : Nat}
    (writes : writer.writeFile logEntry now renamed written = some next) :
    WriteStep writer logEntry now renamed written next := by
  rw [writeFile, sound.files_logPath, Option.bind_some] at writes
  split at writes
  next large =>
    obtain ⟨⟨rotates, changed⟩, changes, rfl⟩ := Option.map_eq_some_iff.mp writes
    obtain ⟨⟨short, looked⟩, outcome⟩ :=
      sound.flush.changeLogFileIfNeeded_cases sound.buffer_flush changes
    rw [sound.isSome_files_flush, ← Option.not_isSome_iff_eq_none, sound.isSome_files_flush,
      Option.not_isSome_iff_eq_none, sound.logPath_flush] at outcome
    rw [sound.logPath_flush] at short
    rcases outcome with ⟨blocked, rfl⟩ | ⟨⟨fresh, renames⟩, rfl⟩
    · exact .stays large short looked blocked
    · exact .rotates large short fresh renames
  next small =>
    cases writes
    exact .fits (Nat.le_of_not_lt small)

section Rotation

variable {newLogName : List UInt8}

theorem ne_of_fresh (fresh : writer.files newLogName = none) {name : List UInt8}
    (present : (writer.files name).isSome = true) : name ≠ newLogName := by
  rintro rfl
  rw [fresh] at present
  cases present

theorem files_rotateTo (fresh : writer.files newLogName = none)
    {name : List UInt8} (other : name ≠ writer.logPath.bytes)
    (present : (writer.files name).isSome = true) :
    (writer.rotateTo newLogName).files name = writer.files name :=
  (Function.update_of_ne other ..).trans (Function.update_of_ne (ne_of_fresh fresh present) ..)

theorem files_rotateTo_self (sound : writer.Sound) (fresh : writer.files newLogName = none) :
    (writer.rotateTo newLogName).files newLogName = some writer.logContent :=
  (Function.update_of_ne (ne_of_fresh fresh sound.present).symm ..).trans
    (Function.update_self ..)

theorem fresh_flush (sound : writer.Sound) (fresh : writer.files newLogName = none) :
    writer.flush.files newLogName = none := by
  rw [← Option.not_isSome_iff_eq_none, sound.isSome_files_flush, fresh]
  exact Bool.false_ne_true

theorem rotateTo (sound : writer.Sound) (fresh : writer.files newLogName = none) :
    (writer.rotateTo newLogName).Sound where
  isOpen := rfl
  present := by simp [AsyncFileWriter.rotateTo]
  rotated name member := by
    rcases List.mem_append.mp member with before | new
    · obtain ⟨present, other⟩ := sound.rotated name before
      rw [files_rotateTo fresh other present]
      exact ⟨present, other⟩
    · obtain rfl := List.mem_singleton.mp new
      rw [sound.files_rotateTo_self fresh]
      exact ⟨rfl, (ne_of_fresh fresh sound.present).symm⟩
  nodup := by
    have new : newLogName ∉ writer.rotated := by
      intro member
      exact ne_of_fresh fresh (sound.rotated _ member).1 rfl
    exact List.nodup_append.mpr ⟨sound.nodup, List.nodup_singleton _, by
      rintro name member other same rfl
      exact new (List.mem_singleton.mp same ▸ member)⟩

theorem contents_rotateTo (sound : writer.Sound) (empty : writer.logFile.buffer = [])
    (fresh : writer.files newLogName = none) :
    (writer.rotateTo newLogName).contents = writer.contents.rotate := by
  have closed : (writer.rotateTo newLogName).logFiles.closed =
      writer.logFiles.closed ++ [writer.logContent] := by
    rw [logFiles, logFiles]
    change (writer.rotated ++ [newLogName]).map _ = _
    rw [List.map_append, List.map_singleton, sound.files_rotateTo_self fresh]
    congr 1
    refine List.map_congr_left fun name member => ?_
    obtain ⟨present, other⟩ := sound.rotated name member
    rw [files_rotateTo fresh other present]
  have current : (writer.rotateTo newLogName).logContent = [] := by
    simp [logContent, AsyncFileWriter.rotateTo]
  rw [contents, contents, closed, current, empty, List.append_nil]
  rfl

end Rotation

theorem isSome_changeLogFileIfNeeded (sound : writer.Sound) {now : Int64} {renamed : RenameResult} :
    (writer.changeLogFileIfNeeded now renamed).isSome = true ↔
      (buildDatName writer.logPath now).length < newLogNameSize ∧ renamed ≠ .existsThrows := by
  rw [changeLogFileIfNeeded, sound.files_logPath]
  dsimp only
  rw [if_pos sound.isOpen]
  split
  next long => simp [Nat.not_lt.mpr long]
  next short =>
    split
    next throws => simp [throws]
    next looked =>
      refine iff_of_true ?_ ⟨Nat.lt_of_not_le short, looked⟩
      split
      · rfl
      · split
        · rfl
        · rfl

/-- A call goes through unless the name of the rotated file is too long, or cannot be looked
up. -/
theorem isSome_writeFile (sound : writer.Sound) {logEntry : List UInt8} {now : Int64}
    {renamed : RenameResult} {written : Nat} :
    (writer.writeFile logEntry now renamed written).isSome = true ↔
      (maxLogSize < writer.logContent.length + logEntry.length →
        (buildDatName writer.logPath now).length < newLogNameSize ∧
          renamed ≠ .existsThrows) := by
  rw [writeFile, sound.files_logPath, Option.bind_some]
  split
  next large =>
    rw [Option.isSome_map, sound.flush.isSome_changeLogFileIfNeeded, sound.logPath_flush]
    exact ⟨fun short _ => short, fun short => short large⟩
  next small => exact iff_of_true rfl fun large => absurd large small

end Sound

theorem sound_create (path : LogPath) (files : List UInt8 → Option (List UInt8)) :
    (create path files).Sound where
  isOpen := rfl
  present := by simp [create, openLog]
  rotated := nofun
  nodup := List.nodup_nil

theorem contents_create {path : LogPath} {files : List UInt8 → Option (List UInt8)} :
    (create path files).contents = { current := (create path files).logContent } := by
  simp [contents, logFiles, create, openLog]

theorem sound_of_step {action : WriterAction} (sound : writer.Sound)
    (steps : writerSystem.step writer action = some next) : next.Sound := by
  obtain ⟨call, now, renamed, written⟩ := action
  cases call with
  | flush =>
      cases steps
      exact sound.flush
  | writeFile logEntry =>
      cases sound.writeStep_of_writeFile steps with
      | fits => exact sound.insert logEntry written
      | stays => exact sound.flush.insert logEntry written
      | rotates _ _ fresh =>
          have free := sound.fresh_flush fresh
          exact (sound.flush.rotateTo free).insert logEntry written

theorem sound_of_reachable {condition : AsyncFileWriter → WriterAction → Prop}
    (reaches : writerSystem.ReachableWhere condition writer) : writer.Sound := by
  refine reaches.invariant Sound ?_ ?_
  · rintro writer ⟨path, files, rfl⟩
    exact sound_create path files
  · exact fun writer action next _ sound _ steps => sound_of_step sound steps

/-- The call rotates the log file. -/
def rotates (writer : AsyncFileWriter) (action : WriterAction) : Bool :=
  match action.call with
  | .writeFile logEntry =>
      decide (maxLogSize < writer.logContent.length + logEntry.length) &&
        !(writer.files (buildDatName writer.logPath action.now)).isSome &&
        decide (action.renamed = .succeeds)
  | .flush => false

def segmentActions (writer : AsyncFileWriter) (action : WriterAction) :
    List (SegmentAction UInt8) :=
  match action.call with
  | .writeFile logEntry =>
      (if writer.rotates action then [.rotate] else []) ++ [.append logEntry]
  | .flush => []

theorem segments_of_step {action : WriterAction} (sound : writer.Sound)
    (steps : writerSystem.step writer action = some next) :
    (SegmentedLog.system UInt8).Steps writer.contents (writer.segmentActions action)
      next.contents := by
  obtain ⟨call, now, renamed, written⟩ := action
  cases call with
  | flush =>
      cases steps
      rw [sound.contents_flush]
      exact .refl
  | writeFile logEntry =>
      have appends (log : SegmentedLog UInt8) :
          (SegmentedLog.system UInt8).Steps log [.append logEntry] (log.append logEntry) :=
        .single trivial rfl
      have writes : writer.writeFile logEntry now renamed written = some next := steps
      cases sound.writeStep_of_writeFile writes with
      | fits small =>
          have none : writer.rotates ⟨.writeFile logEntry, now, renamed, written⟩ = false := by
            simp [rotates, Nat.not_lt.mpr small]
          rw [segmentActions, none, sound.contents_insert]
          exact appends writer.contents
      | stays large short _ blocked =>
          have none : writer.rotates ⟨.writeFile logEntry, now, renamed, written⟩ = false := by
            rcases blocked with taken | fails
            · simp [rotates, taken]
            · simp [rotates, fails]
          rw [segmentActions, none, sound.flush.contents_insert, sound.contents_flush]
          exact appends writer.contents
      | rotates large short fresh renames =>
          have one : writer.rotates ⟨.writeFile logEntry, now, renamed, written⟩ = true := by
            simp [rotates, large, fresh, renames]
          have free := sound.fresh_flush fresh
          rw [segmentActions, one, (sound.flush.rotateTo free).contents_insert,
            sound.flush.contents_rotateTo sound.buffer_flush free, sound.contents_flush]
          have rotated : (SegmentedLog.system UInt8).Steps writer.contents [.rotate]
              writer.contents.rotate := .single trivial rfl
          exact rotated.trans (appends writer.contents.rotate)

/-- The contents of the files, with the buffer, are a segmented log. -/
def segmentMapping : TransitionSystem.RefinementMapping writerSystem
    (SegmentedLog.system UInt8) (fun _ _ => True) where
  abstract := contents
  events := segmentActions
  initial := by
    rintro writer ⟨path, files, rfl⟩
    rfl
  simulates := by
    intro writer action next reaches _ steps
    exact segments_of_step (sound_of_reachable reaches) steps

/-- The entries of some calls, in order. -/
def entries (actions : List WriterAction) : List (List UInt8) :=
  actions.filterMap fun action =>
    match action.call with
    | .writeFile logEntry => some logEntry
    | .flush => none

theorem entries_segmentActions (action : WriterAction) :
    SegmentedLog.entries (writer.segmentActions action) = entries [action] := by
  obtain ⟨call, now, renamed, written⟩ := action
  cases call with
  | flush => rfl
  | writeFile logEntry =>
      dsimp only [segmentActions]
      split
      · rfl
      · rfl

theorem entries_concat (actions : List WriterAction) (action : WriterAction) :
    entries (actions ++ [action]) = entries actions ++ entries [action] :=
  List.filterMap_append

end AsyncFileWriter

end HttpServer
