import QueryPipe.Command.Problem
import QueryPipe.Output.Batch
import QueryPipe.Output.Problem
import QueryPipe.Query.Chain
import QueryPipe.Settings.Settings
import QueryPipe.Typing.Binding

/-!
# Faults

Everything that can end a tool's work early, its wording, and the exit status it leaves behind.

* `exitStatus_ne_success`: no fault looks like success.
-/

namespace QueryPipe

/-- How a tool ends. -/
inductive ExitStatus
  /-- It did its work. -/
  | success
  /-- There was no query to run. -/
  | queryGeneration
  /-- The query could not be run, or its results not be written. -/
  | execution
  /-- The program was used as it should not be. -/
  | programming
  deriving DecidableEq, Repr, Inhabited

namespace ExitStatus

/-- The number that a process ends with. -/
def code : ExitStatus → Nat
  | .success => 0
  | .queryGeneration => 1
  | .execution => 2
  | .programming => 3

/-- The name of a status. -/
def name : ExitStatus → String
  | .success => "Success"
  | .queryGeneration => "QueryGenerationError"
  | .execution => "ExecutionError"
  | .programming => "ProgrammingError"

end ExitStatus

/-- Why a tool's work ended early. -/
inductive Fault
  /-- The chain has no statement. -/
  | chain (cause : ChainFault)
  /-- A parameter cannot be bound. -/
  | binding (cause : BindingFault)
  /-- The engine refuses a statement, or a file cannot be loaded. -/
  | execution (query reason : String)
  /-- Rows without columns. -/
  | widthless
  /-- The document of a chain cannot be read. -/
  | wire (problem : Wire.Problem)
  /-- Results cannot be written. -/
  | output (problem : Output.Problem)
  /-- The settings cannot be used. -/
  | settings (problem : SettingsProblem)
  /-- The invocation asks for what cannot be done. -/
  | argument (problem : Command.Problem)
  deriving DecidableEq, Repr, Inhabited

namespace Fault

/-- The wording of a fault. -/
def message : Fault → String
  | .chain cause => cause.message
  | .binding cause => cause.message
  | .execution query reason => "error executing statement: " ++ reason ++ "\n  query: " ++ query
  | .widthless => "programming error: " ++ Batch.widthlessMessage
  | .wire problem => "unable to parse query plan: " ++ problem.message
  | .output problem =>
    (if problem.isMisuse then "programming error: " else "error writing results: ") ++
      problem.message
  | .settings problem => "configuration error: " ++ problem.message
  | .argument problem => problem.message

/-- The exit status of a fault. -/
def exitStatus : Fault → ExitStatus
  | .chain (.parameters _) => .programming
  | .chain _ => .queryGeneration
  | .binding _ => .execution
  | .execution _ _ => .execution
  | .widthless => .programming
  | .wire _ => .queryGeneration
  | .output problem => if problem.isMisuse then .programming else .execution
  | .settings _ => .queryGeneration
  | .argument _ => .queryGeneration

/-- No fault is reported as a success. -/
theorem exitStatus_ne_success (f : Fault) : f.exitStatus ≠ .success := by
  cases f with
  | chain cause => cases cause <;> simp [exitStatus]
  | output problem => simp only [exitStatus]; split <;> simp
  | _ => simp [exitStatus]

end Fault

end QueryPipe
