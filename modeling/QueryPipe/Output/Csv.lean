import QueryPipe.Output.Batch
import QueryPipe.Text.Blank

/-!
# Comma separated values

A record is its fields with commas between them and a line feed at its end. A field is quoted when
it holds a comma, a quote or a line break, and quotes inside are doubled. A record that would be
empty is written as two quotes, so that it does not look like no record.

* `fieldText_plain`: a field without special characters is written as it is.
-/

namespace QueryPipe.Output.Csv

/-- Whether a field with this character has to be quoted. -/
def isSpecial (c : Char) : Bool := c == ',' || c == '"' || c == '\n' || c == '\r'

/-- A field between quotes, with the quotes inside doubled. -/
def quotedField (cs : List Char) : List Char :=
  '"' :: (cs.flatMap (fun c => if c == '"' then ['"', '"'] else [c]) ++ ['"'])

/-- A field, quoted only when it has to be. -/
def fieldChars (cs : List Char) : List Char := if cs.any isSpecial then quotedField cs else cs

/-- A field as text. -/
def fieldText (s : String) : String := String.ofList (fieldChars s.toList)

/-- A text without separators, quotes and line breaks stands as it is. -/
theorem fieldText_plain (s : String) (h : s.toList.any isSpecial = false) :
    fieldText s = s := by
  simp [fieldText, fieldChars, h]

/-- The fields of a record with commas between them. -/
def recordBody (fields : List String) : String := Text.joined "," (fields.map fieldText)

/-- A record without its line feed. -/
def recordText (fields : List String) : String :=
  let body := recordBody fields
  if body.isEmpty then "\"\"" else body

/-- A record and its line feed. -/
def line (fields : List String) : String := recordText fields ++ "\n"

/-- A row of cells as a record; missing values are empty fields. -/
def rowLine (row : Row) : String := line (row.map (Cell.display ""))

/-- A writer of comma separated values: the text so far. -/
structure Writer where
  /-- What has been written. -/
  text : String
  deriving DecidableEq, Repr, Inhabited

namespace Writer

/-- A writer starts with the header. -/
def create (schema : Schema) : Writer := ⟨line (schema.map (·.name))⟩

/-- Writes the rows of a batch. -/
def write (w : Writer) (b : Batch) : Writer :=
  ⟨b.rows.foldl (fun text row => text ++ rowLine row) w.text⟩

end Writer

end QueryPipe.Output.Csv
