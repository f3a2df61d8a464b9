/-!
# Faults of usage

Words that do not make an invocation. Asking for help or for the version is reported the same way,
since no tool runs then either.
-/

namespace QueryPipe.Command

/-- Why words make no invocation. -/
inductive UsageFault
  /-- They ask for help. -/
  | help
  /-- They ask for the version. -/
  | version
  /-- There are none. -/
  | nothing
  /-- There is no tool of that name. -/
  | unknownTool
  /-- Something is missing that the tool needs. -/
  | missing
  /-- A switch is without its value. -/
  | withoutValue
  /-- A word has no place. -/
  | unknown
  /-- Two words exclude each other. -/
  | conflict
  /-- A word is no value of its kind. -/
  | invalid
  /-- There are more values than there may be. -/
  | surplus
  deriving DecidableEq, Repr, Inhabited

/-- The wording of a fault. -/
def UsageFault.message : UsageFault → String
  | .help => "usage: sqlpipe TOOL [WORD ...]"
  | .version => "sqlpipe 0.1.0"
  | .nothing => "error: a tool is required"
  | .unknownTool => "error: there is no such tool"
  | .missing => "error: a required argument is missing"
  | .withoutValue => "error: an option is without its value"
  | .unknown => "error: an argument has no place"
  | .conflict => "error: two arguments exclude each other"
  | .invalid => "error: a value is not of its kind"
  | .surplus => "error: there are too many values"

/-- Whether it is no mistake but a question about the program. -/
def UsageFault.isQuestion : UsageFault → Bool
  | .help | .version => true
  | _ => false

/-- The status that a process ends with. -/
def UsageFault.code (f : UsageFault) : Nat := if f.isQuestion then 0 else 1

end QueryPipe.Command
