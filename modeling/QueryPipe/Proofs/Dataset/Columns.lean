import Mathlib.Data.List.Forall2
import QueryPipe.Evaluation.Decoding
import QueryPipe.Proofs.Dataset.Loading
import QueryPipe.Proofs.Sql.Selecting

/-!
# Columns and rows of a loaded file

Every value of a loaded file is missing or of the kind of its column. So what the engine says of a
column is what the kind says, and a value that is shown is shown as it is.

* `columnOf_tableOf`: a column as relations see it.
* `ColumnKind.Holds`, `holds_storedRow`: the values of a column.
* `cellOf_of_holds`: how they are shown.
* `map_take_records`: the records of the table are the rows of the file.
-/

namespace QueryPipe.Dataset

open Sql (Affinity Record Value)

/-! ## Columns -/

/-- The kind of the column of a name. -/
def kindOf? (columns : List FileColumn) (name : String) : Option ColumnKind :=
  (columns.find? fun c => c.name == name).map FileColumn.kind

/-- The names of columns. -/
def namesOf (columns : List FileColumn) : List String := columns.map FileColumn.name

/-- What the column of a kind prefers to hold. -/
def ColumnKind.affinity (kind : ColumnKind) : Affinity := .ofType kind.sqlName

/-- The cells that the column of a kind is shown in. -/
def ColumnKind.cellType (kind : ColumnKind) : CellType :=
  (TypeFamily.ofDeclared kind.sqlName).cellType

section Columns

variable {columns : List FileColumn} {rows : List Record} {table name : String}
  {kind : ColumnKind}

theorem exists_kindOf? (h : name ∈ namesOf columns) : ∃ kind, kindOf? columns name = some kind := by
  obtain ⟨c, hc, hname⟩ := List.mem_map.1 h
  obtain ⟨found, hfound⟩ : ∃ found, (columns.find? fun c => c.name == name) = some found := by
    rw [← Option.isSome_iff_exists, List.find?_isSome]
    exact ⟨c, hc, by simpa using hname⟩
  exact ⟨found.kind, by rw [kindOf?, hfound]; rfl⟩

theorem names_tableOf : (tableOf table columns rows).names = namesOf columns := by
  simp [Sql.Table.names, tableOf, namesOf, FileColumn.stored, Function.comp_def]

theorem hasDistinctNames_tableOf
    (h : (namesOf columns).Pairwise fun a b => Text.sameWord a b = false) :
    (tableOf table columns rows).HasDistinctNames := by
  rw [Sql.Table.HasDistinctNames, names_tableOf]
  exact h

/-- A column of a file as relations see it. -/
theorem columnOf_tableOf (h : kindOf? columns name = some kind) :
    (tableOf table columns rows).columnOf name =
      { name, declared? := some kind.sqlName, inner? := some kind.sqlName
        affinity? := some kind.affinity, kind? := Sql.kindOfType? kind.sqlName } := by
  obtain ⟨c, hc, rfl⟩ := Option.map_eq_some_iff.1 h
  have hname : c.name = name := by simpa using List.find?_some hc
  have hfind : (tableOf table columns rows).columns.find? (fun d => d.name == name) =
      some c.stored := by
    rw [tableOf, List.find?_map]
    exact congrArg (Option.map FileColumn.stored) hc
  rw [Sql.Table.columnOf, hfind]
  simp [Sql.Table.field, FileColumn.stored, Sql.TableColumn.affinity, ColumnKind.affinity, hname]

end Columns

/-! ## Values -/

/-- The values that the column of a kind can have. -/
inductive ColumnKind.Holds : ColumnKind → Value → Prop
  /-- The missing value. -/
  | missing (kind : ColumnKind) : Holds kind .null
  /-- A whole number. -/
  | whole (n : Int64) : Holds .integer (.whole n)
  /-- A floating point number. -/
  | real (x : Numeral.Binary64) : Holds .real (.real x)
  /-- A text. -/
  | text (s : String) : Holds .text (.text s)

theorem affinity_integer : ColumnKind.affinity .integer = .integer := by decide +kernel

theorem affinity_real : ColumnKind.affinity .real = .real := by decide +kernel

theorem affinity_text : ColumnKind.affinity .text = .text := by decide +kernel

theorem holds_store (c : FileColumn) (cell : String) :
    c.kind.Holds (Value.store c.kind.affinity (c.valueOf cell)) := by
  have hmissing : c.kind.Holds (Value.store c.kind.affinity .null) := by
    rw [Value.store_null]
    exact .missing _
  rw [FileColumn.valueOf]
  split
  · exact hmissing
  · obtain ⟨name, kind⟩ := c
    cases kind with
    | integer =>
      cases hn : Numeral.Whole.readInt64 cell with
      | error p => simpa [ColumnKind.valueOf, hn] using hmissing
      | ok n =>
        simp only [ColumnKind.valueOf, hn, affinity_integer]
        exact .whole n
    | real =>
      cases hx : Numeral.Decimal.readText cell with
      | error p => simpa [ColumnKind.valueOf, hx] using hmissing
      | ok x =>
        simp only [ColumnKind.valueOf, hx, Value.ofReal]
        split
        · exact hmissing
        · have hprefer : (Value.real x).preferNumber = (Value.real x).preferWhole := rfl
          rw [affinity_real, Value.store, hprefer, Value.preferWhole]
          cases Sql.exactWhole? x <;> exact .real _
    | text =>
      simp only [ColumnKind.valueOf, affinity_text]
      exact .text cell

/-- Every value of a row is one that its column can have. -/
theorem holds_storedRow (columns : List FileColumn) (cells : List String) :
    List.Forall₂ (fun c v => c.kind.Holds v) columns (storedRow columns (rowOf columns cells)) := by
  induction columns generalizing cells with
  | nil => exact .nil
  | cons c columns ih =>
    cases cells with
    | nil =>
      have hmissing : c.kind.Holds (Value.store c.kind.affinity .null) := by
        rw [Value.store_null]
        exact .missing _
      exact .cons hmissing (ih [])
    | cons cell cells => exact .cons (holds_store c cell) (ih cells)

/-- What a row has in the column of a name. -/
def valueIn (columns : List FileColumn) (row : Record) (name : String) : Value :=
  row[(namesOf columns).idxOf name]?.getD .null

theorem holds_valueIn {columns : List FileColumn} {row : Record} {name : String}
    {kind : ColumnKind} (hrow : List.Forall₂ (fun c v => c.kind.Holds v) columns row)
    (hkind : kindOf? columns name = some kind) : kind.Holds (valueIn columns row name) := by
  induction hrow with
  | nil => cases hkind
  | @cons c v columns row hv _ ih =>
    by_cases hname : c.name = name
    · obtain rfl : c.kind = kind := by simpa [kindOf?, hname] using hkind
      simpa [valueIn, namesOf, hname] using hv
    · have hrest := ih (by simpa [kindOf?, hname] using hkind)
      simpa [valueIn, namesOf, List.idxOf_cons_ne _ hname] using hrest

/-! ## Cells -/

/-- A value as a cell. -/
def cellOfValue : Value → Cell
  | .null => .null
  | .whole n => .whole n
  | .real x => .float x
  | .text s => .text s
  | .blob bytes => .binary bytes

/-- A value of a column is shown as it is. -/
theorem cellOf_of_holds {kind : ColumnKind} {v : Value} (h : kind.Holds v) :
    Evaluation.cellOf kind.cellType v = .ok (cellOfValue v) := by
  have hinteger : ColumnKind.cellType .integer = .whole := by decide +kernel
  have hreal : ColumnKind.cellType .real = .float := by decide +kernel
  have htext : ColumnKind.cellType .text = .text := by decide +kernel
  cases h with
  | missing => rfl
  | whole n => rw [hinteger]; rfl
  | real x => rw [hreal]; rfl
  | text s => rw [htext]; rfl

/-! ## Records -/

theorem length_storedRow (columns : List FileColumn) (cells : List String) :
    (storedRow columns (rowOf columns cells)).length = columns.length :=
  (holds_storedRow columns cells).length_eq.symm

theorem cells_numbered (n : Int) (rows : List Record) :
    (Sql.Database.numbered n rows).map Sql.StoredRow.cells = rows := by
  induction rows generalizing n with
  | nil => rfl
  | cons row rows ih => simp [Sql.Database.numbered, ih]

/-- The rows of a file as they are loaded. -/
def loadedRows (columns : List FileColumn) (records : List (List String)) : List Record :=
  records.map fun cells => storedRow columns (rowOf columns cells)

theorem length_storedRow_of_length {columns : List FileColumn} {row : Record}
    (h : row.length = columns.length) : (storedRow columns row).length = columns.length := by
  rw [storedRow, List.length_zipWith, h, Nat.min_self]

/-- The records of the table without their numbers are its rows. -/
theorem map_take_records (table : String) {columns : List FileColumn} {rows : List Record}
    (hwidth : ∀ row ∈ rows, row.length = columns.length) :
    (tableOf table columns rows).records.map (List.take columns.length) =
      rows.map (storedRow columns) := by
  have hrows := cells_numbered 1 (rows.map (storedRow columns))
  have htake : ∀ r ∈ Sql.Database.numbered 1 (rows.map (storedRow columns)),
      (r.cells ++ [Value.whole r.number]).take columns.length = r.cells := by
    intro r hr
    have hmem := List.mem_map_of_mem (f := Sql.StoredRow.cells) hr
    rw [hrows] at hmem
    obtain ⟨row, hrow, hcells⟩ := List.mem_map.1 hmem
    rw [← hcells]
    exact List.take_left' (length_storedRow_of_length (hwidth row hrow))
  rw [Sql.Table.records, List.map_map]
  have hmap := List.map_congr_left htake
  rw [tableOf]
  exact hmap.trans hrows

end QueryPipe.Dataset
