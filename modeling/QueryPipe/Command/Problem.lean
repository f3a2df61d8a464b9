import QueryPipe.Numeral.Whole

/-!
# Problems of an invocation

An invocation may be well-formed and still ask for something a tool cannot do.
-/

namespace QueryPipe.Command

/-- Why a tool cannot do what it is asked. -/
inductive Problem
  /-- A tool that works on fields was given none. -/
  | noFields (tool : String)
  /-- A filter without a field or a value. -/
  | incompleteFilter
  /-- A filter whose value is no number although it should be. -/
  | notWhole (value : String) (problem : Numeral.WholeProblem)
  /-- A tool that changes a chain was given none to read. -/
  | noInput (tool : String)
  deriving DecidableEq, Repr, Inhabited

/-- The wording of a problem. -/
def Problem.message : Problem → String
  | .noFields tool => tool ++ ": at least one field is required"
  | .incompleteFilter =>
    "grep: expected a field and a value (FIELD [PREDICATE] VALUE or -f/-v)"
  | .notWhole value problem =>
    "grep: couldn't convert '" ++ value ++ "' to a number: " ++ problem.message
  | .noInput tool => tool ++ ": no query plan on standard input"

end QueryPipe.Command
