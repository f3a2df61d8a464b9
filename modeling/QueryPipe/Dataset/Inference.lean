import QueryPipe.Dataset.Delimited
import QueryPipe.Dataset.Reference
import QueryPipe.Numeral.Decimal
import QueryPipe.Numeral.Whole
import QueryPipe.Storage.Access
import QueryPipe.Text.Blank

/-!
# Columns of a delimited file

The columns of a file take their names from its header and their types from its cells: a column is
of whole numbers while every cell is one, of floating point numbers while every cell is one, and
of texts otherwise. Empty cells are missing values and say nothing about the type.

* `widen_text`: a column of texts stays one.
* `widen_idem`: a cell that was taken into account once changes nothing the second time.
-/

namespace QueryPipe.Dataset

/-- The type of a file's column. -/
inductive ColumnKind
  /-- Whole numbers. -/
  | integer
  /-- Floating point numbers. -/
  | real
  /-- Texts. -/
  | text
  deriving DecidableEq, Repr, Inhabited

namespace ColumnKind

/-- The name of the type in a statement. -/
def sqlName : ColumnKind → String
  | .integer => "INTEGER"
  | .real => "REAL"
  | .text => "TEXT"

/-- Whether a cell is a whole number. -/
def isWhole (cell : String) : Bool := (Numeral.Whole.readInt64 cell).toOption.isSome

/-- Whether a cell is a floating point number. -/
def isFloat (cell : String) : Bool := (Numeral.Decimal.readText cell).toOption.isSome

/-- The narrowest type from this one on that holds a cell. -/
def widen (kind : ColumnKind) (cell : String) : ColumnKind :=
  match kind with
  | .integer => if isWhole cell then .integer else if isFloat cell then .real else .text
  | .real => if isFloat cell then .real else .text
  | .text => .text

/-- Once a column is one of texts, it stays so. -/
@[simp] theorem widen_text (cell : String) : widen .text cell = .text := rfl

/-- The type of a column after one more cell; empty cells leave it open. -/
def extend (kind? : Option ColumnKind) (cell : String) : Option ColumnKind :=
  if cell.isEmpty then kind? else some ((kind?.getD .integer).widen cell)

/-- A cell that was seen already widens nothing. -/
theorem widen_idem (kind : ColumnKind) (cell : String) :
    (kind.widen cell).widen cell = kind.widen cell := by
  cases hw : isWhole cell <;> cases hf : isFloat cell <;> cases kind <;> simp [widen, hw, hf]

end ColumnKind

/-- A column of a file. -/
structure FileColumn where
  /-- Its name. -/
  name : String
  /-- Its type. -/
  kind : ColumnKind
  deriving DecidableEq, Repr, Inhabited

/-- Why the columns of a file cannot be told. -/
inductive FileProblem
  /-- The file has no record at all. -/
  | noHeader
  /-- A record is not UTF-8. -/
  | record (problem : RecordProblem)
  /-- The file cannot be read. -/
  | unreadable (fault : Storage.AccessFault)
  deriving DecidableEq, Repr, Inhabited

/-- The wording of a problem. -/
def FileProblem.message : FileProblem → String
  | .noHeader => "no header row"
  | .record problem => problem.message
  | .unreadable fault => fault.message

/-- The name of the column at an index: the header's without blanks around it, or a number. -/
def columnName (index : Nat) (header : String) : String :=
  let name := Text.trim header
  if name.isEmpty then "column" ++ toString (index + 1) else name

/-- Types after one more record; cells beyond the last column are ignored. -/
def extendAll : List (Option ColumnKind) → List String → List (Option ColumnKind)
  | [], _ => []
  | kinds, [] => kinds
  | kind? :: kinds, cell :: cells => ColumnKind.extend kind? cell :: extendAll kinds cells

/-- Types after all records, unless one is not UTF-8. -/
def kindsOf (kinds : List (Option ColumnKind)) :
    List (Except RecordProblem (List String)) → Except FileProblem (List (Option ColumnKind))
  | [] => .ok kinds
  | .error problem :: _ => .error (.record problem)
  | .ok cells :: rest => kindsOf (extendAll kinds cells) rest

/-- The columns of a table; one without a value is of texts. -/
def Table.columns (t : Table) : Except FileProblem (List FileColumn) :=
  match t.names with
  | .error problem => .error (.record problem)
  | .ok [] => .error .noHeader
  | .ok names =>
    (kindsOf (names.map fun _ => none) t.data).map fun kinds =>
      (names.zipIdx.zip kinds).map fun ((header, index), kind?) =>
        { name := columnName index header, kind := kind?.getD .text }

/-- The byte that separates the fields of a file. -/
def delimiterOf (delimiter? : Option Char) : UInt8 :=
  UInt8.ofNat ((delimiter?.getD ',').toNat)

/-- The columns of a file, which may not be there to read. -/
def columnsOf (file : String) (content : Except Storage.AccessFault (List UInt8)) :
    Except FileProblem (List FileColumn) :=
  match content with
  | .error fault => .error (.unreadable fault)
  | .ok bytes => (Table.ofBytes (delimiterOf (delimiter? file)) bytes).columns

end QueryPipe.Dataset
