import QueryPipe.Text.Blank

/-!
# Output formats

Results are written as CSV, as aligned columns, or to a Parquet file.

* `ofName_name`: a format is found by its own name.
-/

namespace QueryPipe

/-- How results are written. -/
inductive OutputFormat
  /-- Comma separated values. -/
  | csv
  /-- A Parquet file. -/
  | parquet
  /-- Aligned columns. -/
  | column
  deriving DecidableEq, Repr, Inhabited

namespace OutputFormat

/-- The name of a format. -/
def name : OutputFormat → String
  | .csv => "csv"
  | .parquet => "parquet"
  | .column => "column"

/-- The names of all formats. -/
def names : List String := [name .csv, name .parquet, name .column]

/-- The format of exactly that name. -/
def ofName? (s : String) : Option OutputFormat :=
  if s == "csv" then some .csv
  else if s == "parquet" then some .parquet
  else if s == "column" then some .column
  else none

/-- A format is found under its own name. -/
@[simp] theorem ofName_name (f : OutputFormat) : ofName? f.name = some f := by
  cases f <;> simp [ofName?, name]

/-- The format that a user names: in any letter case, with blanks around it, or as `table`. The
error is the name as it was understood. -/
def read (s : String) : Except String OutputFormat :=
  let word := (Text.trim s).toLower
  if word == "table" then .ok .column
  else
    match ofName? word with
    | some f => .ok f
    | none => .error word

/-- The wording of an unknown format. -/
def unknownMessage (word : String) : String := "unknown output format '" ++ word ++ "'"

end OutputFormat

end QueryPipe
