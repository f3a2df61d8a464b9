import QueryPipe.Numeral.Shortest
import QueryPipe.Typing.Catalog

/-!
# Result batches

A result arrives in batches of rows. Every row of a batch has one cell for each column of the
result's schema. A batch is put together from columns, which have to be those of the schema and of
one length.

* `length_ofCells`: a row built for a schema is as wide as the schema.
* `length_rowsAcross`: columns are read across row by row.
-/

namespace QueryPipe

/-- One value of a result. -/
inductive Cell
  /-- The missing value. -/
  | null
  /-- A whole number. -/
  | whole (n : Int64)
  /-- A floating point number. -/
  | float (x : Numeral.Binary64)
  /-- A text. -/
  | text (s : String)
  /-- A truth value. -/
  | flag (b : Bool)
  /-- A row of bytes. -/
  | binary (bytes : List UInt8)
  deriving DecidableEq, Repr, Inhabited

namespace Cell

/-- Two lower-case hexadecimal digits. -/
def byteText (b : UInt8) : List Char :=
  let digit (k : Nat) : Char := Char.ofNat (if k < 10 then 0x30 + k else 0x57 + k)
  [digit (b.toNat / 16), digit (b.toNat % 16)]

/-- A cell as text; the missing value is shown as given. -/
def display (missing : String) : Cell → String
  | .null => missing
  | .whole n => toString n.toInt
  | .float x => Numeral.FloatLayout.cell.text x
  | .text s => s
  | .flag b => if b then "true" else "false"
  | .binary bytes => String.ofList (bytes.flatMap byteText)

/-- The cell itself when it is of the type, otherwise the missing value. -/
def ofType (type : CellType) (cell : Cell) : Cell :=
  match type, cell with
  | .whole, .whole n => .whole n
  | .float, .float x => .float x
  | .text, .text s => .text s
  | .flag, .flag b => .flag b
  | .binary, .binary bytes => .binary bytes
  | _, _ => .null

end Cell

/-- A column of a result. -/
structure Field where
  /-- The name. -/
  name : String
  /-- The kind of its cells. -/
  type : CellType
  deriving DecidableEq, Repr, Inhabited

/-- The columns of a result. -/
abbrev Schema := List Field

/-- The schema of a described result. -/
def Catalog.schema (catalog : Catalog) : Schema :=
  catalog.map fun c => { name := c.name, type := c.cellType }

/-- One cell for each column. -/
abbrev Row := List Cell

/-- A row for a schema; cells that are missing or of another type are missing values. -/
def Row.ofCells : Schema → List Cell → Row
  | [], _ => []
  | _ :: fields, [] => .null :: ofCells fields []
  | field :: fields, cell :: cells => cell.ofType field.type :: ofCells fields cells

/-- A row has a value in every column, however many cells it is made of. -/
theorem Row.length_ofCells (schema : Schema) (cells : List Cell) :
    (ofCells schema cells).length = schema.length := by
  induction schema generalizing cells with
  | nil => rfl
  | cons field fields ih => cases cells <;> simp [ofCells, ih]

/-- Some rows of a result. -/
structure Batch where
  /-- The rows in order. -/
  rows : List Row
  deriving DecidableEq, Repr, Inhabited

namespace Batch

/-- The number of rows. -/
def length (b : Batch) : Nat := b.rows.length

/-- Why rows make no batch: there is no column to hold them. -/
def widthlessMessage : String :=
  "Invalid argument error: must either specify a row count or at least one column"

/-- The cells of one column, all of one kind or missing. -/
structure Column where
  /-- The kind. -/
  type : CellType
  /-- The cells, one for each row. -/
  cells : List Cell
  deriving DecidableEq, Repr, Inhabited

/-- Why columns make no batch of a schema. -/
inductive Mismatch
  /-- There are more columns than the schema has, or fewer. -/
  | width (columns fields : Nat)
  /-- There is no column to hold the rows. -/
  | widthless
  /-- Some columns have more cells than others. -/
  | uneven
  /-- A column is not of the kind that the schema says. -/
  | kind (index : Nat) (expected found : CellType)
  deriving DecidableEq, Repr, Inhabited

/-- The wording of a mismatch. -/
def Mismatch.message : Mismatch → String
  | .width columns fields =>
    "Invalid argument error: number of columns(" ++ toString columns ++
      ") must match number of fields(" ++ toString fields ++ ") in schema"
  | .widthless => widthlessMessage
  | .uneven => "Invalid argument error: all columns in a record batch must have the same length"
  | .kind index expected found =>
    "Invalid argument error: column types must match schema types, expected " ++ expected.name ++
      " but found " ++ found.name ++ " at column index " ++ toString index

/-- The rows that stand across columns of cells. -/
def rowsAcross : Nat → List (List Cell) → List Row
  | 0, _ => []
  | count + 1, columns =>
    columns.map (·.headD .null) :: rowsAcross count (columns.map List.tail)

/-- There are as many rows as asked for, however long the columns are. -/
theorem length_rowsAcross (count : Nat) (columns : List (List Cell)) :
    (rowsAcross count columns).length = count := by
  induction count generalizing columns with
  | zero => rfl
  | succ count ih => simp [rowsAcross, ih]

/-- The first column from an index on that is not of the kind its field says. -/
def misfit? : Nat → Schema → List Column → Option Mismatch
  | index, field :: fields, c :: columns =>
    if c.type = field.type then misfit? (index + 1) fields columns
    else some (.kind index field.type c.type)
  | _, _, _ => none

/-- Columns as a batch of a schema. -/
def ofColumns (schema : Schema) (columns : List Column) : Except Mismatch Batch :=
  if columns.length ≠ schema.length then .error (.width columns.length schema.length)
  else
    match columns with
    | [] => .error .widthless
    | first :: _ =>
      if columns.any (fun c => c.cells.length != first.cells.length) then .error .uneven
      else
        match misfit? 0 schema columns with
        | some mismatch => .error mismatch
        | none => .ok ⟨rowsAcross first.cells.length (columns.map Column.cells)⟩

/-- Rows cut into chunks of a size; only the last may be shorter. -/
def chunks {α : Type} (size : Nat) (rows : List α) : List (List α) :=
  if rows = [] ∨ size = 0 then (if rows.isEmpty then [] else [rows])
  else rows.take size :: chunks size (rows.drop size)
termination_by rows.length
decreasing_by
  rename_i h
  have : rows.length ≠ 0 := by simpa using fun e => h (.inl e)
  simp only [List.length_drop]
  omega

end Batch

end QueryPipe
