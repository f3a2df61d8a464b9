import QueryPipe.Output.Batch
import QueryPipe.Result
import QueryPipe.Sql.Formula
import QueryPipe.Text.Damage

/-!
# Records as batches

The records that a statement shows become batches of a result's schema, one column after the
other. A value is converted to the kind of its column, and a missing one stays missing. A record
that is too short, and bytes where there should be text, cannot be shown.

* `length_cellsAt`: a column has a cell for each record.
* `length_columnsFrom`: there is a column for each field.
-/

namespace QueryPipe.Evaluation

open Sql (Record Value)

/-- Why a record gives no row. -/
inductive CellFault
  /-- The record ends before the column. -/
  | absent (index : Nat)
  /-- The bytes in the column are no text. -/
  | damaged (index : Nat) (damage : Text.Damage)
  deriving DecidableEq, Repr, Inhabited

namespace CellFault

/-- The wording of a fault. -/
def message : CellFault → String
  | .absent index =>
    "column index out of bounds: the len is " ++ toString index ++ ", but the index is " ++
      toString index
  | .damaged index damage =>
    "error occurred while decoding column " ++ toString index ++ ": " ++ damage.message

end CellFault

/-- A value as a text. -/
def textOf : Value → Except Text.Damage String
  | .blob bytes =>
    match Text.ofBytes? bytes with
    | some s => .ok s
    | none => .error ((Text.damage? bytes).getD default)
  | v => .ok v.toText

/-- A value as a cell of a kind. -/
def cellOf (type : CellType) (v : Value) : Except Text.Damage Cell :=
  if v.isNull then .ok .null
  else
    match type with
    | .whole => .ok (.whole v.toWhole)
    | .float => .ok (.float v.toReal)
    | .flag => .ok (.flag (v.toWhole != 0))
    | .binary => .ok (.binary v.toBytes)
    | .text => (textOf v).map .text

/-- The cell of a record in the column at an index. -/
def cellAt (type : CellType) (index : Nat) (record : Record) : Except CellFault Cell :=
  match record[index]? with
  | none => .error (.absent index)
  | some v =>
    match cellOf type v with
    | .error damage => .error (.damaged index damage)
    | .ok cell => .ok cell

/-- The cells of a column, up to the first record that gives none. -/
def cellsAt (type : CellType) (index : Nat) : List Record → Except CellFault (List Cell)
  | [] => .ok []
  | record :: rest =>
    match cellAt type index record with
    | .error fault => .error fault
    | .ok cell => (cellsAt type index rest).map (cell :: ·)

/-- The columns of records for the fields from an index on, up to the first that cannot be
shown. -/
def columnsFrom (records : List Record) : Nat → Schema → Except CellFault (List Batch.Column)
  | _, [] => .ok []
  | index, field :: fields =>
    match cellsAt field.type index records with
    | .error fault => .error fault
    | .ok cells => (columnsFrom records (index + 1) fields).map (⟨field.type, cells⟩ :: ·)

/-- A column of a batch has a cell for each record. -/
theorem length_cellsAt {type : CellType} {index : Nat} {records : List Record}
    {cells : List Cell} (h : cellsAt type index records = .ok cells) :
    cells.length = records.length := by
  induction records generalizing cells with
  | nil =>
    simp only [cellsAt, Except.ok.injEq] at h
    subst h
    rfl
  | cons record rest ih =>
    simp only [cellsAt] at h
    split at h
    · cases h
    · obtain ⟨more, hmore, rfl⟩ := exists_of_map_eq_ok h
      simp [ih hmore]

/-- A batch has a column for each field of its schema. -/
theorem length_columnsFrom {records : List Record} {index : Nat} {schema : Schema}
    {columns : List Batch.Column} (h : columnsFrom records index schema = .ok columns) :
    columns.length = schema.length := by
  induction schema generalizing index columns with
  | nil =>
    simp only [columnsFrom, Except.ok.injEq] at h
    subst h
    rfl
  | cons field fields ih =>
    simp only [columnsFrom] at h
    split at h
    · cases h
    · obtain ⟨more, hmore, rfl⟩ := exists_of_map_eq_ok h
      simp [ih hmore]

/-- Why records make no batch. -/
inductive BatchFault
  /-- A cell cannot be shown. -/
  | cell (fault : CellFault)
  /-- The columns are not those of the schema. -/
  | mismatch (cause : Batch.Mismatch)
  deriving DecidableEq, Repr, Inhabited

/-- Records as a batch. -/
def batchOf (schema : Schema) (records : List Record) : Except BatchFault Batch :=
  match columnsFrom records 0 schema with
  | .error fault => .error (.cell fault)
  | .ok columns => (Batch.ofColumns schema columns).mapError .mismatch

end QueryPipe.Evaluation
