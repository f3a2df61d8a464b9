import QueryPipe.Output.Batch
import QueryPipe.Text.Blank
import QueryPipe.Text.Cluster

/-!
# Aligned columns

Results are written as columns that start at the same place in every row. How wide a column has to
be is known only after the last row, so rows are kept until the end. Line breaks inside a cell
become blanks.

* `length_zipMax`: widths are kept for the columns of the header.
-/

namespace QueryPipe.Output.Columns

/-- A text without line breaks. -/
def flattened (s : String) : String :=
  s.map fun c => if c == '\n' || c == '\r' then ' ' else c

/-- A cell as it stands in its column. -/
def cellText (cell : Cell) : String := flattened (cell.display "NULL")

/-- Widths after one more row; cells beyond the last column count for nothing. -/
def zipMax : List Nat → List Nat → List Nat
  | [], _ => []
  | widths, [] => widths
  | w :: widths, n :: ns => max w n :: zipMax widths ns

/-- No column is lost or added when widths are compared. -/
theorem length_zipMax (widths ns : List Nat) : (zipMax widths ns).length = widths.length := by
  induction widths generalizing ns with
  | nil => rfl
  | cons w widths ih => cases ns <;> simp [zipMax, ih]

/-- The cells of a row, each but the last filled up to the width of its column. -/
def paddedCells (width : String → Nat) : List Nat → List String → List String
  | _, [] => []
  | _, [last] => [last]
  | widths, cell :: next :: rest =>
    (cell ++ Text.repeated ((widths.head?.getD 0) - width cell) ' ') ::
      paddedCells width widths.tail (next :: rest)

/-- A row without its line feed. -/
def rowText (width : String → Nat) (widths : List Nat) (row : List String) : String :=
  Text.joined " " (paddedCells width widths row)

/-- A writer of aligned columns. -/
structure Writer where
  /-- The rows that have not been printed, the header among them. -/
  rows : List (List String)
  /-- The greatest width of each column so far. -/
  widths : List Nat
  /-- What has been printed. -/
  text : String := ""
  deriving DecidableEq, Repr, Inhabited

namespace Writer

/-- A writer starts with the header. -/
def create (width : String → Nat) (schema : Schema) : Writer :=
  let header := schema.map (·.name)
  { rows := [header], widths := header.map width }

/-- Keeps one row. -/
def keep (width : String → Nat) (w : Writer) (row : Row) : Writer :=
  let cells := row.map cellText
  { w with rows := w.rows ++ [cells], widths := zipMax w.widths (cells.map width) }

/-- Keeps the rows of a batch. -/
def write (width : String → Nat) (w : Writer) (b : Batch) : Writer := b.rows.foldl (keep width) w

/-- Prints all rows that have not been printed. -/
def flush (width : String → Nat) (w : Writer) : Writer :=
  { w with
    rows := []
    text := w.text ++ Text.joined "" (w.rows.map fun row => rowText width w.widths row ++ "\n") }

end Writer

end QueryPipe.Output.Columns
