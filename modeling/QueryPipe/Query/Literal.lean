import QueryPipe.Text.Blank

/-!
# Literals and conditions

A condition compares a column with a literal. The literal is a number, a text, or a text whose
type is left to the column it is compared with. One untyped text, `NULL`, stands for the missing
value and is written into the statement; every other literal becomes a parameter.

* `isNull_iff`: only the untyped text `NULL` is the missing value.
-/

namespace QueryPipe

/-- The value a condition compares with. -/
inductive Literal
  /-- A whole number. -/
  | whole (n : Int64)
  /-- A text. -/
  | text (s : String)
  /-- A text to be typed by the column it is compared with. -/
  | untyped (s : String)
  deriving DecidableEq, Repr, Inhabited

namespace Literal

/-- The missing value. -/
def null : Literal := .untyped "NULL"

/-- Whether the literal is the missing value. -/
def isNull : Literal → Bool
  | .untyped s => s == "NULL"
  | _ => false

/-- Only the untyped text `NULL` is the missing value. -/
@[simp] theorem isNull_iff (v : Literal) : v.isNull = true ↔ v = null := by
  cases v <;> simp [isNull, null]

/-- The name of the literal's type. -/
def typeName : Literal → String
  | .whole _ => "INTEGER"
  | .text _ => "TEXT"
  | .untyped _ => "UNKNOWN"

/-- The digits of a number or the characters of a text. -/
def content : Literal → String
  | .whole n => toString n.toInt
  | .text s => s
  | .untyped s => s

/-- The literal with its type in parentheses, as shown to a reader. -/
def display (v : Literal) : String := v.content ++ "(" ++ v.typeName ++ ")"

end Literal

/-- A literal and the column it is compared with: one parameter of a query. -/
structure Parameter where
  /-- The column as the condition names it. -/
  column : String
  /-- The value to bind. -/
  value : Literal
  deriving DecidableEq, Repr, Inhabited

/-- A comparison of a column with a literal. -/
structure Condition where
  /-- The column as written. -/
  column : String
  /-- The comparison as written, such as `=` or `LIKE`. -/
  predicate : String
  /-- The value compared with. -/
  value : Literal
  deriving DecidableEq, Repr, Inhabited

namespace Condition

/-- The text of a condition: the missing value is written out, any other stands as `?`. -/
def sql (c : Condition) : String :=
  c.column ++ " " ++ c.predicate ++ " " ++ (if c.value.isNull then "NULL" else "?")

/-- The parameter of a condition, unless it compares with the missing value. -/
def parameter? (c : Condition) : Option Parameter :=
  if c.value.isNull then none else some ⟨c.column, c.value⟩

end Condition

end QueryPipe
