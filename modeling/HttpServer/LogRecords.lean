import HttpServer.AsyncFileWriter
import HttpServer.Library.Codec

/-!
# The text of the log

`Logger` writes a record as one line: the time, the level, the place in the source, and the
message.  A log whose messages have no line breaks can be read back, record by record.
-/

namespace HttpServer

/-- The characters of a literal. -/
def charsOf (literal : String) : List UInt8 :=
  literal.toList.map Char.toUInt8

inductive LogLevel where
  | debug
  | info
  | warning
  | error
  | critical
deriving DecidableEq

/-- The values of the enumerators. -/
def LogLevel.toNat : LogLevel → Nat
  | debug => 0
  | info => 1
  | warning => 2
  | error => 3
  | critical => 4

structure SourceLocation where
  file : CString
  function : CString
  line : Nat

/-- What an entry is made of: the time as `currentTimetoString` leaves it, and the message as
`log` and `var_Log` append it. -/
structure LogRecord where
  time : List UInt8
  logLevel : LogLevel
  location : SourceLocation
  message : List UInt8

/-- `std::to_string` of a number that is not negative. -/
def decimal (number : Nat) : List UInt8 :=
  (Nat.toDigits 10 number).map Char.toUInt8

/-- What `var_Log` is given: a text, a number, or an error. -/
inductive LogArgument where
  | text (message : List UInt8)
  | number (value : Int)
  | error (err : ErrorValue)

/-- The values of the enumerators. -/
def HTTPErrors.toNat : HTTPErrors → Nat
  | bsp => 0
  | eSocketInitializationFailed => 1
  | ePollingGroupInitializationFailed => 2
  | ePollGroupHandlerInvalid => 3
  | eInvalidSocket => 4
  | eInvalidListener => 5
  | eInvalidCall => 6
  | eInvalidConnection => 7
  | eInternalError => 8

/-- `location` is the one in `make_error`. -/
def ErrorValue.toLog (err : ErrorValue) (location : SourceLocation) : List UInt8 :=
  charsOf "Error Occured with ErrorCode: " ++ decimal err.errorCode.toNat ++ charsOf " in " ++
    location.file.bytes ++ charsOf ":" ++ decimal location.line ++ charsOf " " ++
    location.function.bytes ++ charsOf " With Message: " ++ charsOf err.message

namespace Logger

def levelToString : LogLevel → List UInt8
  | .debug => charsOf "DEBUG"
  | .info => charsOf "INFO"
  | .error => charsOf "ERROR"
  | .warning => charsOf "WARNING"
  | .critical => charsOf "CRITICAL"

/-- `strncpy` of what `ctime` returns: 24 characters and a line break. -/
def currentTimetoString (ctime : CString) : List UInt8 :=
  ctime.bytes.take 24

def createDeafultEntry (time : List UInt8) (logLevel : LogLevel) (location : SourceLocation) :
    List UInt8 :=
  charsOf "[" ++ time ++ charsOf "] " ++ levelToString logLevel ++ charsOf ": [" ++
    location.file.bytes ++ charsOf ":" ++ decimal location.line ++ charsOf " " ++
    location.function.bytes ++ charsOf "]"

def appendToLog (make_error : SourceLocation) : LogArgument → List UInt8
  | .text message => message
  | .number value => value.repr.toList.map Char.toUInt8
  | .error err => err.toLog make_error

def addMessageToString (make_error : SourceLocation) (message : LogArgument) : List UInt8 :=
  appendToLog make_error message ++ charsOf " "

/-- What `var_Log` makes of its arguments. -/
def varMessage (make_error : SourceLocation) (args : List LogArgument) : List UInt8 :=
  args.flatMap (addMessageToString make_error)

end Logger

/-- The entry that is written for the record. -/
def LogRecord.entry (record : LogRecord) : List UInt8 :=
  Logger.createDeafultEntry record.time record.logLevel record.location ++ record.message ++
    charsOf "\n"

/-- No field has the character that ends it, and the time has its 24 characters. -/
structure LogRecord.Plain (record : LogRecord) : Prop where
  time : record.time.length = 24
  file : 58 ∉ record.location.file.bytes
  function : 93 ∉ record.location.function.bytes
  message : 10 ∉ record.message

namespace Logger

variable {ctime : CString} {logLevel : LogLevel} {location : SourceLocation}

/-- The record that `log` writes. -/
def log (ctime : CString) (logLevel : LogLevel) (location : SourceLocation)
    (message : CString) : LogRecord where
  time := currentTimetoString ctime
  logLevel
  location
  message := message.bytes

/-- The record that `var_Log` writes. -/
def varLog (ctime : CString) (logLevel : LogLevel) (location make_error : SourceLocation)
    (args : List LogArgument) : LogRecord where
  time := currentTimetoString ctime
  logLevel
  location
  message := varMessage make_error args

theorem length_currentTimetoString (long : 24 ≤ ctime.bytes.length) :
    (currentTimetoString ctime).length = 24 := by
  rw [currentTimetoString, List.length_take, Nat.min_eq_left long]

theorem plain_log (long : 24 ≤ ctime.bytes.length) (file : 58 ∉ location.file.bytes)
    (function : 93 ∉ location.function.bytes) {message : CString}
    (lines : 10 ∉ message.bytes) : (log ctime logLevel location message).Plain :=
  ⟨length_currentTimetoString long, file, function, lines⟩

/-- The blanks that `var_Log` adds do not end a line. -/
theorem plain_varLog (long : 24 ≤ ctime.bytes.length) (file : 58 ∉ location.file.bytes)
    (function : 93 ∉ location.function.bytes) {make_error : SourceLocation}
    {args : List LogArgument} (lines : ∀ arg ∈ args, 10 ∉ appendToLog make_error arg) :
    (varLog ctime logLevel location make_error args).Plain := by
  refine ⟨length_currentTimetoString long, file, function, fun member => ?_⟩
  obtain ⟨arg, given, inside⟩ := List.mem_flatMap.mp member
  rcases List.mem_append.mp inside with own | blank
  · exact lines arg given own
  · revert blank
    decide

end Logger

/-- The number that is written with these digits. -/
def ofDecimal (text : List UInt8) : Option Nat :=
  let number := Nat.ofDigitChars 10 (text.map fun byte => Char.ofNat byte.toNat) 0
  if decimal number = text then some number else none

theorem ofNat_toUInt8_of_isDigit {digit : Char} (isDigit : digit.isDigit = true) :
    Char.ofNat digit.toUInt8.toNat = digit := by
  have bounds := Char.isDigit_iff_toNat.mp isDigit
  have small : digit.toNat < 256 := Nat.lt_of_le_of_lt bounds.2 (by decide)
  have same : digit.toUInt8.toNat = digit.toNat := Nat.mod_eq_of_lt small
  rw [same, Char.ofNat_toNat]

theorem isDigit_of_mem_decimal {number : Nat} {byte : UInt8} (member : byte ∈ decimal number) :
    ∃ digit : Char, digit.isDigit = true ∧ digit.toUInt8 = byte := by
  obtain ⟨digit, inside, same⟩ := List.mem_map.mp member
  exact ⟨digit, Nat.isDigit_of_mem_toDigits (by decide) (by decide) inside, same⟩

theorem ofDecimal_decimal (number : Nat) : ofDecimal (decimal number) = some number := by
  have digits : (decimal number).map (fun byte => Char.ofNat byte.toNat) =
      Nat.toDigits 10 number := by
    rw [decimal, List.map_map]
    refine (List.map_congr_left fun digit member => ?_).trans (List.map_id _)
    exact ofNat_toUInt8_of_isDigit (Nat.isDigit_of_mem_toDigits (by decide) (by decide) member)
  simp only [ofDecimal]
  rw [digits, Nat.ofDigitChars_ten_toDigits, if_pos rfl]

theorem decimal_of_ofDecimal (text : List UInt8) (number : Nat)
    (reads : ofDecimal text = some number) : decimal number = text := by
  unfold ofDecimal at reads
  dsimp only at reads
  split at reads
  next same =>
    cases reads
    exact same
  next => cases reads

/-- The blank behind a number is no digit. -/
theorem blank_not_mem_decimal (number : Nat) : 32 ∉ decimal number := by
  intro member
  obtain ⟨digit, isDigit, same⟩ := isDigit_of_mem_decimal member
  have restored := ofNat_toUInt8_of_isDigit isDigit
  rw [same] at restored
  subst restored
  revert isDigit
  decide

/-- The level with this name. -/
def levelOf (text : List UInt8) : Option LogLevel :=
  [.debug, .info, .warning, .error, .critical].find? fun level =>
    Logger.levelToString level = text

theorem levelOf_levelToString (level : LogLevel) :
    levelOf (Logger.levelToString level) = some level := by
  cases level <;> decide

theorem levelToString_of_levelOf (text : List UInt8) (level : LogLevel)
    (reads : levelOf text = some level) : Logger.levelToString level = text := by
  simpa using List.find?_some reads

def cStringOf (text : List UInt8) : Option CString :=
  if not_nul : (0 : UInt8) ∉ text then some ⟨text, not_nul⟩ else none

theorem cStringOf_bytes (string : CString) : cStringOf string.bytes = some string :=
  dif_pos string.not_nul

theorem bytes_of_cStringOf (text : List UInt8) (string : CString)
    (reads : cStringOf text = some string) : string.bytes = text := by
  unfold cStringOf at reads
  split at reads
  next =>
    cases reads
    rfl
  next => cases reads

namespace LogRecord

open Codec

/-- The fields in the order of the text. -/
def fields : Codec UInt8 (Unit × List UInt8 × Unit × LogLevel × Unit × CString × Nat × CString ×
    List UInt8) :=
  (literal (charsOf "[")).seq <| (fixed UInt8 24).seq <| (literal (charsOf "] ")).seq <|
    ((terminated 58).narrow Logger.levelToString levelOf levelOf_levelToString
      levelToString_of_levelOf).seq <| (literal (charsOf " [")).seq <|
    ((terminated 58).narrow CString.bytes cStringOf cStringOf_bytes bytes_of_cStringOf).seq <|
    ((terminated 32).narrow decimal ofDecimal ofDecimal_decimal decimal_of_ofDecimal).seq <|
    ((terminated 93).narrow CString.bytes cStringOf cStringOf_bytes bytes_of_cStringOf).seq <|
    terminated 10

/-- A line of the log. -/
def codec : Codec UInt8 LogRecord :=
  fields.narrow
    (fun record => ((), record.time, (), record.logLevel, (), record.location.file,
      record.location.line, record.location.function, record.message))
    (fun (_, time, _, logLevel, _, file, line, function, message) =>
      some ⟨time, logLevel, ⟨file, function, line⟩, message⟩)
    (fun _ => rfl)
    (by
      rintro ⟨_, time, _, logLevel, _, file, line, function, message⟩ record same
      cases same
      rfl)

/-- The delimiters of the fields are those of the source. -/
theorem write_codec (record : LogRecord) : codec.write record = record.entry := by
  have colon : charsOf ": [" = 58 :: charsOf " [" := rfl
  have delimiters : charsOf ":" = [58] ∧ charsOf " " = [32] ∧ charsOf "]" = [93] ∧
      charsOf "\n" = [10] := ⟨rfl, rfl, rfl, rfl⟩
  obtain ⟨colonOnly, blank, bracket, lineBreak⟩ := delimiters
  simp only [codec, fields, narrow, seq, literal, fixed, terminated, entry,
    Logger.createDeafultEntry, colon, colonOnly, blank, bracket, lineBreak, List.append_assoc,
    List.cons_append, List.nil_append]

theorem colon_not_mem_levelToString (level : LogLevel) : 58 ∉ Logger.levelToString level := by
  cases level <;> decide

theorem wellFormed_codec (record : LogRecord) : codec.WellFormed record ↔ record.Plain := by
  constructor
  · rintro ⟨-, time, -, -, -, file, -, function, message⟩
    exact ⟨time, file, function, message⟩
  · intro plain
    exact ⟨trivial, plain.time, trivial, colon_not_mem_levelToString _, trivial, plain.file,
      blank_not_mem_decimal _, plain.function, plain.message⟩

theorem write_codec_ne_nil (record : LogRecord) : codec.write record ≠ [] := by
  have lineBreak : charsOf "\n" = [10] := rfl
  simp [write_codec, entry, lineBreak]

theorem writeAll_codec (records : List LogRecord) :
    codec.writeAll records = records.flatMap entry :=
  List.flatMap_congr fun record _ => record.write_codec

end LogRecord

/-- The records of a text. -/
def readLog (text : List UInt8) : Option (List LogRecord) :=
  LogRecord.codec.readAll text.length text

/-- A text is read as a log of some records exactly when it is made of their entries and none
of their fields contains the character that ends it: a message with a line break is read as
something else, or not at all. -/
theorem readLog_eq_some_iff (text : List UInt8) (records : List LogRecord) :
    readLog text = some records ↔
      (∀ record ∈ records, record.Plain) ∧ text = records.flatMap LogRecord.entry := by
  rw [readLog, Codec.readAll_eq_some_iff LogRecord.write_codec_ne_nil, LogRecord.writeAll_codec]
  simp only [LogRecord.wellFormed_codec]

end HttpServer
