import QueryPipe.Sql.Scope

/-!
# Tables

A table has columns and numbered rows. Relations see its columns, and after them the number of the
row, which has no place in the table.

* `length_records`: a table has a record for each of its rows.
* `length_uniqueNames`: every column keeps a name.
-/

namespace QueryPipe.Sql

/-- A column of a table. -/
structure TableColumn where
  /-- The name. -/
  name : String
  /-- The declared type, if there is one. -/
  type? : Option String := none
  /-- Whether it holds the number of the row. -/
  isNumber : Bool := false
  /-- Whether it is the key. -/
  key : Bool := false
  /-- Whether missing values are refused. -/
  required : Bool := false
  /-- Whether a value may occur once only. -/
  unique : Bool := false
  /-- What stands in the column where nothing is said. -/
  default? : Option Value := none
  deriving DecidableEq, Repr, Inhabited

/-- What the column prefers to hold. -/
def TableColumn.affinity (c : TableColumn) : Affinity := Affinity.ofType (c.type?.getD "")

/-- A row with its number. -/
structure StoredRow where
  /-- The number. -/
  number : Int64
  /-- The values in the order of the columns. -/
  cells : Record
  deriving DecidableEq, Repr, Inhabited

/-- A table. -/
structure Table where
  /-- The schema it is in. -/
  schema : String
  /-- The name. -/
  name : String
  /-- The columns. -/
  columns : List TableColumn
  /-- The rows in the order of their numbers. -/
  rows : List StoredRow := []
  deriving DecidableEq, Repr, Inhabited

/-! ## Kinds of declared types -/

/-- The name of the kind of values that a declared type stands for, if it is a known one. -/
def kindOfType? (type : String) : Option String :=
  let s := type.toLower
  if s == "boolean" || s == "bool" then some "BOOLEAN"
  else if s == "date" then some "DATE"
  else if s == "time" then some "TIME"
  else if s == "datetime" || s == "timestamp" then some "DATETIME"
  else if Text.contains "int" s then some "INTEGER"
  else if Text.contains "char" s || Text.contains "clob" s || Text.contains "text" s then some "TEXT"
  else if Text.contains "blob" s then some "BLOB"
  else if Text.contains "real" s || Text.contains "floa" s || Text.contains "doub" s then some "REAL"
  else none

namespace Table

/-- A column of a table as relations see it. -/
def field (t : Table) (c : TableColumn) : Field where
  schema? := some t.schema
  table? := some t.name
  column := {
    name := c.name
    declared? := c.type?
    inner? := c.type?
    affinity? := some c.affinity
    kind? := c.type?.bind kindOfType? }
  spelled := c.name

/-- The number of a row as relations see it. -/
def numberField (t : Table) : Field where
  schema? := some t.schema
  table? := some t.name
  column := {
    name := ((t.columns.find? TableColumn.isNumber).map TableColumn.name).getD "rowid"
    declared? := some "INTEGER"
    inner? := some "INTEGER"
    affinity? := some .integer
    kind? := some "INTEGER" }
  spelled := "rowid"
  hidden := true

/-- The columns that can be named: those of the table, and the number of the row after them. -/
def fields (t : Table) : List Field := t.columns.map t.field ++ [t.numberField]

/-- The rows with their numbers at the end. -/
def records (t : Table) : List Record := t.rows.map fun r => r.cells ++ [.whole r.number]

/-- A table has a record for each row. -/
@[simp] theorem length_records (t : Table) : t.records.length = t.rows.length := by
  simp [records]

end Table

/-! ## Names of columns seen from outside -/

/-- A name without a colon and a number at its end. -/
def nameStem (name : String) : String :=
  let cs := name.toList.reverse
  match cs.dropWhile Char.isDigit with
  | ':' :: rest => if rest.isEmpty then name else String.ofList rest.reverse
  | _ => name

/-- A name that is not used yet: itself, or with the least number that makes it so. -/
def freshName (used : List String) (name : String) : String :=
  let taken (s : String) : Bool := used.any (Text.sameWord s)
  if taken name then
    let candidates := (List.range (used.length + 1)).map fun k =>
      nameStem name ++ ":" ++ toString (k + 1)
    (candidates.find? fun s => !taken s).getD name
  else name

/-- Names made different from those before them. -/
def uniqueNames : List String → List String → List String
  | _, [] => []
  | used, n :: rest =>
    let m := freshName used n
    m :: uniqueNames (m :: used) rest

/-- Every column keeps a name, if not its own. -/
theorem length_uniqueNames (used names : List String) :
    (uniqueNames used names).length = names.length := by
  induction names generalizing used with
  | nil => rfl
  | cons n rest ih => simp [uniqueNames, ih]

end QueryPipe.Sql
