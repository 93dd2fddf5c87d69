import HttpServer.LogFileSize
import HttpServer.LogRecords
import HttpServer.LogRotation

/-!
# The names of the rotated files

A rotation names the file after the time, to the second, and the first 15 digits of the
nanoseconds.  Since the year 2001 these have 19 digits, so that the name tells the time to ten
microseconds, and the digits alone would do.  Within them no second rotation goes through: the
name is taken, the log file stays, and it grows beyond its limit.
-/

namespace HttpServer

/-- The last digits of a number are cut off by a division. -/
theorem toDigits_div {count number : Nat} (long : 10 ^ count ≤ number) :
    ∃ low, low.length = count ∧
      Nat.toDigits 10 number = Nat.toDigits 10 (number / 10 ^ count) ++ low := by
  induction count with
  | zero => exact ⟨[], rfl, by simp⟩
  | succ count ih =>
      rw [Nat.pow_succ] at long
      obtain ⟨low, length, digits⟩ := ih (by omega)
      have high : 10 ≤ number / 10 ^ count := by
        rw [Nat.le_div_iff_mul_le (Nat.pow_pos (by decide)), Nat.mul_comm]
        exact long
      rw [Nat.toDigits_of_base_le (by decide) high, Nat.div_div_eq_div_mul, ← Nat.pow_succ,
        List.append_assoc] at digits
      exact ⟨_, by rw [List.length_append, length, List.length_singleton, Nat.add_comm], digits⟩

/-- The reading has 19 digits. -/
def Recent (now : Int64) : Prop := 10 ^ 18 ≤ now.toInt

/-- The ten microseconds of the reading. -/
def tick (now : Int64) : Int := now.toInt / 10 ^ 4

section Names

variable {path : LogPath} {now later : Int64}

theorem nsBuff_of_recent (recent : Recent now) :
    nsBuff now.toInt = Nat.toDigits 10 (tick now).toNat := by
  have limit := Int64.toInt_lt now
  unfold Recent at recent
  unfold tick
  obtain ⟨number, same⟩ := Int.eq_ofNat_of_zero_le (by omega : 0 ≤ now.toInt)
  rw [same] at recent limit ⊢
  obtain ⟨low, length, digits⟩ := toDigits_div (by omega : 10 ^ 4 ≤ number)
  have fifteen : (Nat.toDigits 10 (number / 10 ^ 4)).length = 15 := by
    have atMost := (Nat.length_toDigits_le_iff (by decide : 1 < 10) (by decide : 0 < 15)).mpr
      (by omega : number / 10 ^ 4 < 10 ^ 15)
    have more := mt (Nat.length_toDigits_le_iff (by decide : 1 < 10) (by decide : 0 < 14)).mp
      (by omega : ¬ number / 10 ^ 4 < 10 ^ 14)
    omega
  have buffer : nsBuff (number : Int) = (Nat.toDigits 10 number).take 15 := by
    change (Nat.repr number).toList.take 15 = _
    rw [Nat.toList_repr]
  rw [buffer, digits, ← fifteen, List.take_left]
  congr 1

theorem decimal_inj {number other : Nat} (same : decimal number = decimal other) :
    number = other := by
  have reads := ofDecimal_decimal number
  rw [same, ofDecimal_decimal] at reads
  exact (Option.some.inj reads).symm

/-- The name of a rotated file tells the ten microseconds of the reading, and no more. -/
theorem buildDatName_inj (recent : Recent now) (recentLater : Recent later) :
    buildDatName path now = buildDatName path later ↔ tick now = tick later := by
  have seconds {now : Int64} (recent : Recent now) :
      now.toInt.tdiv (10 ^ 9) = tick now / 10 ^ 5 ∧ now.toInt.tdiv (10 ^ 9) < 9223372037 ∧
        0 ≤ tick now := by
    have limit := Int64.toInt_lt now
    unfold Recent at recent
    unfold tick
    rw [Int.tdiv_eq_ediv_of_nonneg (by omega)]
    omega
  obtain ⟨second, small, positive⟩ := seconds recent
  obtain ⟨secondLater, smallLater, positiveLater⟩ := seconds recentLater
  rw [buildDatName, buildDatName, List.append_left_inj, List.append_right_inj, concatTime,
    concatTime, nsBuff_of_recent recent, nsBuff_of_recent recentLater, List.map_append,
    List.map_append]
  constructor
  · intro same
    have lengths : (strftime (gmtime (now.toInt.tdiv (10 ^ 9)))).length =
        (strftime (gmtime (later.toInt.tdiv (10 ^ 9)))).length := by
      rw [length_strftime (gmtime_bounded small), length_strftime (gmtime_bounded smallLater)]
    have digits := decimal_inj (List.append_inj same (by simpa using lengths)).2
    omega
  · intro same
    rw [second, secondLater, same]

/-- The path goes on behind its last dot without another one. -/
theorem LogPath.bytes_eq (path : LogPath) :
    ∃ rest, path.bytes = path.datName ++ rest ∧ 46 ∉ rest := by
  refine ⟨(path.bytes.reverse.takeWhile (· ≠ 46)).reverse, ?_, fun dot => ?_⟩
  · rw [LogPath.datName, ← List.reverse_append, List.takeWhile_append_dropWhile,
      List.reverse_reverse]
  · have other := List.mem_takeWhile_imp (List.mem_reverse.mp dot)
    simp at other

/-- No rotated file gets the name of the log file. -/
theorem buildDatName_ne : buildDatName path now ≠ path.bytes := by
  intro same
  obtain ⟨rest, whole, noDot⟩ := path.bytes_eq
  rw [whole, buildDatName, List.append_assoc, List.append_right_inj] at same
  refine noDot (same ▸ List.mem_append_right _ ?_)
  decide

end Names

namespace AsyncFileWriter

variable {writer next : AsyncFileWriter} {action : WriterAction} {path : LogPath}
  {files : List UInt8 → Option (List UInt8)} {actions : List WriterAction}
  {last : AsyncFileWriter}

/-- The call tries to rotate the log file. -/
def TriesRotation (writer : AsyncFileWriter) (action : WriterAction) : Prop :=
  match action.call with
  | .writeFile logEntry => maxLogSize < writer.logContent.length + logEntry.length
  | .flush => False

theorem rotates_iff : writer.rotates action = true ↔
    writer.TriesRotation action ∧
      writer.files (buildDatName writer.logPath action.now) = none ∧
      action.renamed = .succeeds := by
  obtain ⟨call, now, renamed, written⟩ := action
  cases call with
  | flush => simp [rotates, TriesRotation]
  | writeFile logEntry => simp [rotates, TriesRotation, and_assoc]

theorem rotated_insert (logEntry : List UInt8) (written : Nat) :
    (writer.insert logEntry written).rotated = writer.rotated := by
  unfold insert
  split
  · rfl
  · rfl

theorem rotated_flush : writer.flush.rotated = writer.rotated := by
  unfold flush
  split
  · rfl
  · rfl

/-- A rotation brings one more name, and nothing else does. -/
structure NamesMove (writer : AsyncFileWriter) (action : WriterAction) (next : AsyncFileWriter) :
    Prop where
  logPath : next.logPath = writer.logPath
  rotated : next.rotated = writer.rotated ++
    if writer.rotates action then [buildDatName writer.logPath action.now] else []
  files : ∀ name, name ≠ writer.logPath.bytes → ((next.files name).isSome = true ↔
    (writer.files name).isSome = true ∨
      writer.rotates action = true ∧ name = buildDatName writer.logPath action.now)

theorem NamesMove.of_stays (stays : writer.rotates action = false)
    (logPath : next.logPath = writer.logPath) (rotated : next.rotated = writer.rotated)
    (files : ∀ name, name ≠ writer.logPath.bytes →
      (next.files name).isSome = (writer.files name).isSome) : NamesMove writer action next where
  logPath := logPath
  rotated := by
    rw [rotated, stays]
    exact (List.append_nil _).symm
  files name other := by simp [files name other, stays]

theorem namesMove_of_step (sound : writer.Sound)
    (steps : writerSystem.step writer action = some next) : NamesMove writer action next := by
  have path := (files_of_step sound steps).1
  obtain ⟨call, now, renamed, written⟩ := action
  cases call with
  | flush =>
      cases steps
      exact .of_stays rfl path rotated_flush fun name _ => sound.isSome_files_flush name
  | writeFile logEntry =>
      have writes : writer.writeFile logEntry now renamed written = some next := steps
      cases sound.writeStep_of_writeFile writes with
      | fits small =>
          have stays : writer.rotates ⟨.writeFile logEntry, now, renamed, written⟩ = false := by
            simp [rotates, Nat.not_lt.mpr small]
          exact .of_stays stays path (rotated_insert ..) fun name other => by
            rw [files_insert other]
      | stays large short _ blocked =>
          have stays : writer.rotates ⟨.writeFile logEntry, now, renamed, written⟩ = false := by
            rcases blocked with taken | fails
            · simp [rotates, taken]
            · simp [rotates, fails]
          refine .of_stays stays path ((rotated_insert ..).trans rotated_flush) fun name other => ?_
          rw [files_insert (sound.logPath_flush ▸ other), sound.isSome_files_flush]
      | rotates large short fresh renames =>
          have rotates : writer.rotates ⟨.writeFile logEntry, now, renamed, written⟩ = true :=
            rotates_iff.mpr ⟨large, fresh, renames⟩
          refine ⟨path, ?_, fun name other => ?_⟩
          · rw [rotated_insert, rotates, if_pos rfl]
            exact congrArg (· ++ _) rotated_flush
          · have otherFlush : name ≠ writer.flush.logPath.bytes := sound.logPath_flush ▸ other
            have otherNew : name ≠
                (writer.flush.rotateTo (buildDatName writer.logPath now)).logPath.bytes :=
              otherFlush
            rw [files_insert otherNew, rotates]
            by_cases same : name = buildDatName writer.logPath now
            · subst name
              rw [sound.flush.files_rotateTo_self (sound.fresh_flush fresh)]
              simp
            · have kept : (writer.flush.rotateTo (buildDatName writer.logPath now)).files name =
                  writer.flush.files name :=
                (Function.update_of_ne otherFlush ..).trans (Function.update_of_ne same ..)
              rw [kept, sound.isSome_files_flush]
              simp [same]

/-- The names that the rotations of a run have given. -/
def rotationNames (path : LogPath) (trace : List (AsyncFileWriter × WriterAction)) :
    List (List UInt8) :=
  (trace.filter fun step => step.1.rotates step.2).map fun step => buildDatName path step.2.now

/-- The files after a run are the log file, those that were there, and the rotated ones. -/
structure Named (path : LogPath) (files : List UInt8 → Option (List UInt8))
    (trace : List (AsyncFileWriter × WriterAction)) (last : AsyncFileWriter) : Prop where
  logPath : last.logPath = path
  rotated : last.rotated = rotationNames path trace
  files : ∀ name, name ≠ path.bytes → ((last.files name).isSome = true ↔
    (files name).isSome = true ∨ name ∈ rotationNames path trace)

theorem Named.initial : Named path files [] (create path files) where
  logPath := rfl
  rotated := rfl
  files name other := by
    have kept : (create path files).files name = files name := Function.update_of_ne other ..
    simp [kept, rotationNames]

theorem Named.step {trace : List (AsyncFileWriter × WriterAction)}
    (named : Named path files trace writer) (moves : NamesMove writer action next) :
    Named path files (trace ++ [(writer, action)]) next := by
  have names : rotationNames path (trace ++ [(writer, action)]) =
      rotationNames path trace ++
        if writer.rotates action then [buildDatName path action.now] else [] := by
    rw [rotationNames, List.filter_append, List.map_append]
    cases rotates : writer.rotates action <;> simp [rotationNames, rotates]
  refine ⟨moves.logPath.trans named.logPath, ?_, fun name other => ?_⟩
  · rw [moves.rotated, named.rotated, names, named.logPath]
  · rw [moves.files name (named.logPath ▸ other), named.files name other, names, named.logPath]
    cases writer.rotates action <;> simp [or_assoc]

theorem named_of_steps {condition : AsyncFileWriter → WriterAction → Prop}
    (steps : writerSystem.StepsWhere condition (create path files) actions last) :
    Named path files (writerSystem.trace (create path files) actions) last := by
  induction steps with
  | refl => exact .initial
  | tail before meets stepTo ih =>
      rw [before.trace_concat]
      have sound := sound_of_reachable ⟨_, _, ⟨path, files, rfl⟩, before⟩
      exact ih.step (namesMove_of_step sound stepTo)

/-- When the clock is asked for a name, it is past the year 2001. -/
def AsksRecently (writer : AsyncFileWriter) (action : WriterAction) : Prop :=
  writer.TriesRotation action → Recent action.now

/-- The rotated files have the names of the rotations, and a call that finds the log file full
rotates it exactly when the renaming succeeds, no file had the name before the run, and no
rotation of the run was in the same ten microseconds. -/
theorem rotates_iff_tick
    (steps : writerSystem.StepsWhere AsksRecently (create path files) actions last) :
    last.rotated = rotationNames path (writerSystem.trace (create path files) actions) ∧
      ∀ before after writer action,
        writerSystem.trace (create path files) actions = before ++ (writer, action) :: after →
        writer.TriesRotation action → (writer.rotates action = true ↔
          action.renamed = .succeeds ∧ files (buildDatName path action.now) = none ∧
            ∀ step ∈ before, step.1.rotates step.2 = true →
              tick step.2.now ≠ tick action.now) := by
  refine ⟨(named_of_steps steps).rotated, fun before after writer action split tries => ?_⟩
  obtain ⟨earlier, next, reached, trace, recently, -⟩ := steps.step_of_trace split
  have named := named_of_steps reached
  rw [trace] at named
  have free : writer.files (buildDatName path action.now) = none ↔
      files (buildDatName path action.now) = none ∧
        buildDatName path action.now ∉ rotationNames path before := by
    rw [← Option.not_isSome_iff_eq_none, named.files _ buildDatName_ne, not_or,
      Option.not_isSome_iff_eq_none]
  have recent : ∀ step ∈ before, step.1.rotates step.2 = true → Recent step.2.now := by
    intro step member rotates
    obtain ⟨_, _, here⟩ := List.append_of_mem member
    obtain ⟨_, _, _, _, recently, _⟩ := reached.step_of_trace (trace.trans here)
    exact recently (rotates_iff.mp rotates).1
  have apart : buildDatName path action.now ∉ rotationNames path before ↔ ∀ step ∈ before,
      step.1.rotates step.2 = true → tick step.2.now ≠ tick action.now := by
    simp only [rotationNames, List.mem_map, List.mem_filter, not_exists, not_and, and_imp]
    refine forall₃_congr fun step member rotates => not_congr ?_
    exact buildDatName_inj (recent step member rotates) (recently tries)
  rw [rotates_iff, named.logPath, free, apart]
  constructor
  · rintro ⟨_, ⟨free, apart⟩, renamed⟩
    exact ⟨renamed, free, apart⟩
  · rintro ⟨renamed, free, apart⟩
    exact ⟨tries, ⟨free, apart⟩, renamed⟩

/-- An entry for which no log file is long enough. -/
def hugeEntry (now : Int64) : WriterAction where
  call := .writeFile (List.replicate (maxLogSize + 1) 120)
  now := now

theorem triesRotation_hugeEntry {now : Int64} : writer.TriesRotation (hugeEntry now) := by
  change maxLogSize < _ + (List.replicate (maxLogSize + 1) _).length
  rw [List.length_replicate]
  exact Nat.lt_of_lt_of_le (Nat.lt_succ_self _) (Nat.le_add_left ..)

/-- In an empty directory the first such entry brings a rotation. -/
theorem rotates_hugeEntry {now : Int64} :
    (create path fun _ => none).rotates (hugeEntry now) = true := by
  have fresh : (create path fun _ => none).files (buildDatName path now) = none :=
    Function.update_of_ne buildDatName_ne ..
  exact rotates_iff.mpr ⟨triesRotation_hugeEntry, fresh, rfl⟩

theorem isSome_step_hugeEntry (now : Int64) (sound : writer.Sound)
    (path : writer.logPath = appLog) :
    ∃ next, writerSystem.step writer (hugeEntry now) = some next := by
  refine (isSome_step_iff sound).mpr fun _ => ⟨?_, nofun⟩
  have digits : (nsBuff (hugeEntry now).now.toInt).length ≤ 15 := List.length_take_le ..
  have short : appLog.datName.length = 9 := by decide
  rw [path, short, show newLogNameSize = 1024 from rfl]
  omega

/-- The second rotation would come nine microseconds after the first. -/
theorem rotates_iff_tick_hugeEntry :
    ∃ last, writerSystem.StepsWhere AsksRecently (create appLog fun _ => none)
        [hugeEntry 1700000000000000000, hugeEntry 1700000000000009000] last ∧
      last.rotated = [buildDatName appLog 1700000000000000000] := by
  have sound := sound_create appLog fun _ => none
  obtain ⟨middle, first⟩ := isSome_step_hugeEntry 1700000000000000000 sound rfl
  obtain ⟨last, second⟩ := isSome_step_hugeEntry 1700000000000009000 (sound_of_step sound first)
    (namesMove_of_step sound first).logPath
  have recent : Recent 1700000000000000000 := by
    unfold Recent
    decide
  have recentLater : Recent 1700000000000009000 := by
    unfold Recent
    decide
  have same : tick 1700000000000000000 = tick 1700000000000009000 := by decide
  have steps : writerSystem.StepsWhere AsksRecently _ _ _ :=
    (TransitionSystem.StepsWhere.single (fun _ => recent) first).tail (fun _ => recentLater) second
  have trace : writerSystem.trace (create appLog fun _ => none)
      ([hugeEntry 1700000000000000000] ++ [hugeEntry 1700000000000009000]) =
      [(create appLog fun _ => none, hugeEntry 1700000000000000000)] ++
        [(middle, hugeEntry 1700000000000009000)] := by
    simp [TransitionSystem.trace, first, second]
  obtain ⟨names, each⟩ := rotates_iff_tick steps
  have stays : middle.rotates (hugeEntry 1700000000000009000) = false := by
    refine eq_false_of_ne_true fun rotatesToo => ?_
    obtain ⟨-, -, apart⟩ := (each _ [] _ _ trace triesRotation_hugeEntry).mp rotatesToo
    exact apart _ (List.mem_singleton_self _) rotates_hugeEntry same
  refine ⟨last, steps, names.trans ?_⟩
  rw [trace, rotationNames, List.filter_append, List.filter_singleton, List.filter_singleton]
  simp only [rotates_hugeEntry, stays]
  rfl

end AsyncFileWriter

end HttpServer
