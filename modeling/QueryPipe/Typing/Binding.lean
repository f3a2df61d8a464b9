import QueryPipe.Numeral.Decimal
import QueryPipe.Numeral.Whole
import QueryPipe.Query.Literal
import QueryPipe.Typing.Catalog

/-!
# Binding parameters

A literal with a type of its own is bound as it is. An untyped one takes the type of the column it
is compared with: it is read as a whole number or a floating point number, or taken as text. Other
types have no literals.

* `bindAll_cons`: parameters are bound in order, and the first that fails ends it.
-/

namespace QueryPipe

open Numeral (Binary64 DecimalProblem WholeProblem)

/-- A value handed to the engine. -/
inductive Bound
  /-- A whole number. -/
  | whole (n : Int64)
  /-- A floating point number. -/
  | float (x : Binary64)
  /-- A text. -/
  | text (s : String)
  deriving DecidableEq, Repr, Inhabited

/-- Why a literal cannot be read as its column's type. -/
inductive CoercionProblem
  /-- It is no whole number. -/
  | whole (problem : WholeProblem)
  /-- It is no floating point number. -/
  | float (problem : DecimalProblem)
  deriving DecidableEq, Repr, Inhabited

namespace CoercionProblem

/-- What the literal was to be converted to. -/
def target : CoercionProblem → String
  | .whole _ => "integer"
  | .float _ => "float"

/-- Why it was not. -/
def reason : CoercionProblem → String
  | .whole problem => problem.message
  | .float problem => problem.message

end CoercionProblem

/-- Why a parameter cannot be bound. -/
inductive BindingFault
  /-- Its column is not among those described. -/
  | unknownColumn (column : String)
  /-- Its literal cannot be read as the column's type. -/
  | coercion (column literal : String) (problem : CoercionProblem)
  /-- Its column's type has no literals. -/
  | unsupported (column declared : String)
  deriving DecidableEq, Repr, Inhabited

/-- The wording of a binding fault. -/
def BindingFault.message : BindingFault → String
  | .unknownColumn column => "column '" ++ column ++ "' not found in schema"
  | .coercion column literal problem =>
    "could not convert parameter '" ++ literal ++ "' to " ++ problem.target ++
      " for column '" ++ column ++ "': " ++ problem.reason
  | .unsupported column declared =>
    "unable to infer parameter type for column '" ++ column ++ "' of type " ++ declared

namespace Parameter

/-- Reads an untyped literal as a value of its column's declared type. -/
def bindAs (declared column literal : String) : Except BindingFault Bound :=
  match TypeFamily.ofDeclared declared with
  | .integer =>
    match Numeral.Whole.readInt64 (Text.trim literal) with
    | .ok n => .ok (.whole n)
    | .error problem => .error (.coercion column literal (.whole problem))
  | .float =>
    match Numeral.Decimal.readText (Text.trim literal) with
    | .ok x => .ok (.float x)
    | .error problem => .error (.coercion column literal (.float problem))
  | .text => .ok (.text literal)
  | .boolean => .error (.unsupported column declared)
  | .binary => .error (.unsupported column declared)
  | .other => .error (.unsupported column declared)

/-- The value of a parameter, typed by the catalog where it has no type of its own. -/
def bind (catalog : Catalog) (p : Parameter) : Except BindingFault Bound :=
  match p.value with
  | .whole n => .ok (.whole n)
  | .text s => .ok (.text s)
  | .untyped literal =>
    match catalog.lookup p.column with
    | none => .error (.unknownColumn p.column)
    | some declared => bindAs declared p.column literal

/-- The values of all parameters in order. -/
def bindAll (catalog : Catalog) : List Parameter → Except BindingFault (List Bound)
  | [] => .ok []
  | p :: rest =>
    match p.bind catalog with
    | .error fault => .error fault
    | .ok value => (bindAll catalog rest).map (value :: ·)

/-- Parameters are bound one by one, in their order. -/
theorem bindAll_cons (catalog : Catalog) (p : Parameter) (rest : List Parameter) (value : Bound)
    (h : p.bind catalog = .ok value) :
    bindAll catalog (p :: rest) = (bindAll catalog rest).map (value :: ·) := by
  simp [bindAll, h]

end Parameter

end QueryPipe
