import QueryPipe.Numeral.Whole
import QueryPipe.Query.Literal

/-!
# Shapes

A shape says which values a document may hold at a place, and with that which values of the
program it stands for. A record is an object whose members have names and shapes of their own; it
may also be written as a list of its members in order.
-/

namespace QueryPipe.Wire

mutual

/-- What may stand at a place of a document. -/
inductive Shape
  /-- A text. -/
  | text
  /-- A truth value. -/
  | flag
  /-- A whole number of a range that goes by a name. -/
  | whole (range : Numeral.WholeRange) (title : String)
  /-- One of some names. -/
  | choice (names : List String)
  /-- A literal with its type. -/
  | literal
  /-- A list of any length. -/
  | list (item : Shape)
  /-- A value or null. -/
  | nullable (inner : Shape)
  /-- Named members. -/
  | record (title : String) (fields : Fields)

/-- The members of a record, in the order they are written. -/
inductive Fields
  /-- No more members. -/
  | done
  /-- A member that must be there, unless it may be null. -/
  | required (name : String) (shape : Shape) (rest : Fields)
  /-- A member that may be left out. -/
  | defaulted (name : String) (shape : Shape) (rest : Fields)

end

mutual

/-- The values that a shape describes. -/
def Shape.Value : Shape → Type
  | .text => String
  | .flag => Bool
  | .whole _ _ => Int
  | .choice _ => String
  | .literal => Literal
  | .list item => List item.Value
  | .nullable inner => Option inner.Value
  | .record _ fields => fields.Value

/-- The values of all members; none for one that was left out. -/
def Fields.Value : Fields → Type
  | .done => Unit
  | .required _ shape rest => shape.Value × rest.Value
  | .defaulted _ shape rest => Option shape.Value × rest.Value

end

/-- The number of members. -/
def Fields.count : Fields → Nat
  | .done => 0
  | .required _ _ rest => rest.count + 1
  | .defaulted _ _ rest => rest.count + 1

/-- The value of a shape that need not be written, if there is one. -/
def Shape.absent? : (shape : Shape) → Option shape.Value
  | .nullable _ => some none
  | .text | .flag | .whole _ _ | .choice _ | .literal | .list _ | .record _ _ => none

/-! ## Literals -/

/-- The names of the types of literals in a document. -/
def literalTypes : List String := ["NUMERIC", "TEXT", "UNKNOWN"]

/-- How a literal is called in a message. -/
def literalTitle : String := "adjacently tagged enum QueryParam"

/-- The name of a literal's type in a document. -/
def literalType : Literal → String
  | .whole _ => "NUMERIC"
  | .text _ => "TEXT"
  | .untyped _ => "UNKNOWN"

end QueryPipe.Wire
