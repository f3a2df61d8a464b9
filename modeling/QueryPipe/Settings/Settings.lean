import QueryPipe.Output.Format
import QueryPipe.Storage.Access
import QueryPipe.Wire.Reader

/-!
# Settings

The evaluating end of a pipeline is configured in layers: built-in values, then a settings file,
then variables of the environment. Each layer replaces what it names and leaves the rest.
-/

namespace QueryPipe

/-- What the evaluating end of a pipeline is told. -/
structure Settings where
  /-- A database address, a file, or `:memory:`. -/
  database : String := ":memory:"
  /-- The number of rows of a batch. -/
  batchSize : Nat := 2048
  /-- The format when none is asked for. -/
  defaultFormat : OutputFormat := .csv
  /-- How much is logged, as written. -/
  logLevel : String := "warn"
  /-- Statements to run before evaluating. -/
  initSql : Option String := none
  deriving DecidableEq, Repr, Inhabited

/-- How much is logged. -/
inductive LogLevel
  /-- Nothing. -/
  | off
  /-- Errors. -/
  | error
  /-- Warnings too. -/
  | warn
  /-- Notes too. -/
  | info
  /-- Details too. -/
  | debug
  /-- Everything. -/
  | trace
  deriving DecidableEq, Repr, Inhabited

namespace LogLevel

/-- The name of a level. -/
def name : LogLevel → String
  | .off => "OFF"
  | .error => "ERROR"
  | .warn => "WARN"
  | .info => "INFO"
  | .debug => "DEBUG"
  | .trace => "TRACE"

/-- All levels. -/
def all : List LogLevel := [.off, .error, .warn, .info, .debug, .trace]

/-- The level of a name in any letter case. -/
def ofName? (s : String) : Option LogLevel := all.find? fun level => Text.sameWord level.name s

end LogLevel

/-- Why settings cannot be used. -/
inductive SettingsProblem
  /-- The file cannot be read. -/
  | unreadable (file reason : String)
  /-- The file holds no settings. -/
  | malformed (file : String) (problem : Wire.Problem)
  /-- The batch size is no positive number. -/
  | batchSize (raw : String)
  /-- The format has no known name. -/
  | format (word : String)
  /-- The log level has no known name. -/
  | logLevel (raw : String)
  /-- The database address is not understood. -/
  | database (address reason : String)
  deriving DecidableEq, Repr, Inhabited

/-- The wording of a problem. -/
def SettingsProblem.message : SettingsProblem → String
  | .unreadable file reason => "cannot read " ++ file ++ ": " ++ reason
  | .malformed file problem => "invalid settings in " ++ file ++ ": " ++ problem.message
  | .batchSize raw => "SQLPIPE_BATCH_SIZE must be a positive integer, got '" ++ raw ++ "'"
  | .format word => "SQLPIPE_FORMAT: " ++ OutputFormat.unknownMessage word
  | .logLevel raw => "unknown log level '" ++ raw ++ "'"
  | .database address reason => "invalid database url '" ++ address ++ "': " ++ reason

namespace Settings

/-! ## Settings files -/

/-- The shape of a settings file. -/
def shape : Wire.Shape :=
  .record "struct Settings" <|
    .defaulted "database" .text <|
    .defaulted "batch_size" (.whole .unsigned64 "usize") <|
    .defaulted "default_format" (.choice OutputFormat.names) <|
    .defaulted "log_level" .text <|
    .defaulted "init_sql" (.nullable .text) .done

/-- The settings that a value stands for; what was left out keeps its built-in value. -/
def ofValue : shape.Value → Settings
  | (database?, batchSize?, format?, logLevel?, initSql?, ()) =>
    let standard : Settings := {}
    { database := database?.getD standard.database
      batchSize := (batchSize?.map Int.toNat).getD standard.batchSize
      defaultFormat := (format?.bind OutputFormat.ofName?).getD standard.defaultFormat
      logLevel := logLevel?.getD standard.logLevel
      initSql := initSql?.join }

/-- The settings of a document. -/
def ofText (file s : String) : Except SettingsProblem Settings :=
  match shape.ofText s with
  | .error problem => .error (.malformed file problem)
  | .ok v => .ok (ofValue v)

/-- The settings of a file, given what reading it came to. -/
def ofFile (file : String) :
    Except Storage.AccessFault (List UInt8) → Except SettingsProblem Settings
  | .error fault => .error (.unreadable file fault.message)
  | .ok bytes =>
    match Text.ofBytes? bytes with
    | none => .error (.unreadable file "stream did not contain valid UTF-8")
    | some s => ofText file s

/-! ## Environment -/

/-- A batch size from a variable. -/
def readBatchSize (raw : String) : Except SettingsProblem Nat :=
  match Numeral.Whole.readSize (Text.trim raw) with
  | .ok n => if n = 0 then .error (.batchSize raw) else .ok n
  | .error _ => .error (.batchSize raw)

/-- What one variable does to the settings. -/
def setVariable (name raw : String) (s : Settings) : Except SettingsProblem Settings :=
  if name == "SQLPIPE_DATABASE" then .ok { s with database := raw }
  else if name == "SQLPIPE_BATCH_SIZE" then
    (readBatchSize raw).map fun n => { s with batchSize := n }
  else if name == "SQLPIPE_FORMAT" then
    match OutputFormat.read raw with
    | .ok f => .ok { s with defaultFormat := f }
    | .error word => .error (.format word)
  else if name == "SQLPIPE_LOG" then .ok { s with logLevel := raw }
  else if name == "SQLPIPE_INIT_SQL" then
    .ok { s with initSql := if (Text.trim raw).isEmpty then none else some raw }
  else .ok s

/-- The variables that settings listen to, in the order they are looked at. -/
def consulted : List String :=
  ["SQLPIPE_DATABASE", "SQLPIPE_BATCH_SIZE", "SQLPIPE_FORMAT", "SQLPIPE_LOG", "SQLPIPE_INIT_SQL"]

/-- Applies variables in order. A bad one ends it; what was set before it stays set. -/
def overrideFrom (get : String → Option String) :
    List String → Settings → Settings × Except SettingsProblem Unit
  | [], s => (s, .ok ())
  | name :: rest, s =>
    match get name with
    | none => overrideFrom get rest s
    | some raw =>
      match setVariable name raw s with
      | .error problem => (s, .error problem)
      | .ok s => overrideFrom get rest s

/-- The settings under an environment. -/
def override (get : String → Option String) (s : Settings) :
    Settings × Except SettingsProblem Unit := overrideFrom get consulted s

/-! ## Logging -/

/-- The level that the settings name. -/
def level (s : Settings) : Except SettingsProblem LogLevel :=
  match LogLevel.ofName? (Text.trim s.logLevel) with
  | some level => .ok level
  | none => .error (.logLevel s.logLevel)

end Settings

end QueryPipe
