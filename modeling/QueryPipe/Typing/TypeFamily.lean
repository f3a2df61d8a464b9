import QueryPipe.Text.Blank
import QueryPipe.Text.Search

/-!
# Families of declared types

Databases declare column types under many names. What matters here is the family: how a literal
is converted for a comparison, and what kind of cells a result column holds. The name alone
decides, without case, without the size in parentheses and without blanks around it.
-/

namespace QueryPipe

/-- What a declared type stands for. -/
inductive TypeFamily
  /-- Whole numbers. -/
  | integer
  /-- Floating point and decimal numbers. -/
  | float
  /-- Texts. -/
  | text
  /-- Truth values. -/
  | boolean
  /-- Rows of bytes. -/
  | binary
  /-- Anything else. -/
  | other
  deriving DecidableEq, Repr, Inhabited

/-- The kind of cells a result column holds. -/
inductive CellType
  /-- Whole numbers of 64 bits. -/
  | whole
  /-- Floating point numbers. -/
  | float
  /-- Texts. -/
  | text
  /-- Truth values. -/
  | flag
  /-- Rows of bytes. -/
  | binary
  deriving DecidableEq, Repr, Inhabited

/-- The name of a kind of cells. -/
def CellType.name : CellType → String
  | .whole => "Int64"
  | .float => "Float64"
  | .text => "Utf8"
  | .flag => "Boolean"
  | .binary => "Binary"

namespace TypeFamily

/-- A declared type in capitals, without its size and without blanks around it. -/
def declaredName (declared : String) : String :=
  Text.trim (String.ofList (Text.beforeFirst '(' (Text.trim declared).toUpper.toList))

/-- The family of a type name in capitals. -/
def ofName (name : String) : TypeFamily :=
  if Text.contains "INT" name && !Text.startsWith "INTERVAL" name &&
      !Text.contains "POINT" name then .integer
  else if ["REAL", "DOUBLE", "FLOAT", "NUMERIC", "DECIMAL"].any (Text.startsWith · name) then
    .float
  else if Text.contains "CHAR" name || ["TEXT", "STRING", "CLOB"].contains name then .text
  else if ["BOOLEAN", "BOOL"].contains name then .boolean
  else if ["BLOB", "BYTEA", "BINARY", "VARBINARY"].contains name then .binary
  else .other

/-- The family of a declared type. -/
def ofDeclared (declared : String) : TypeFamily := ofName (declaredName declared)

/-- The cells of a column whose type is of the family. -/
def cellType : TypeFamily → CellType
  | .integer => .whole
  | .float => .float
  | .boolean => .flag
  | .binary => .binary
  | .text => .text
  | .other => .text

end TypeFamily

end QueryPipe
