import Mathlib.Data.List.Forall2
import QueryPipe.Evaluation.Decoding

/-!
# What a batch shows

A batch is made column by column, but a reader looks at its rows. Each row of a batch shows one
record: its cells are what the record has in the columns of the schema.

* `Shows`: a row shows a record; `Shows.unique`: no other row does.
* `Batch.Spans`: a batch is made of columns of a schema, with a cell each for every row.
* `batchOf_eq_ok_iff`: the batches of records are those whose rows show them.
* `exists_spans_of_batchOf`: they have a value for every row in every column.
-/

namespace QueryPipe

namespace Batch

/-! ## Columns of a batch -/

/-- Columns of a schema, each with some number of cells. -/
def Fits (schema : Schema) (count : Nat) (columns : List Column) : Prop :=
  List.Forall₂ (fun field c => c.type = field.type ∧ c.cells.length = count) schema columns

/-- A batch is made of columns of a schema that have a cell for every row. -/
structure Spans (b : Batch) (schema : Schema) (columns : List Column) : Prop where
  /-- There is a column for every field, with a cell for every row. -/
  fits : Fits schema b.length columns
  /-- The batch is made of these columns. -/
  made : ofColumns schema columns = .ok b

theorem Fits.length_cells {schema : Schema} {count : Nat} {columns : List Column}
    (h : Fits schema count columns) : ∀ c ∈ columns, c.cells.length = count := by
  induction h with
  | nil => exact fun c hc => absurd hc List.not_mem_nil
  | cons hfirst _ ih => exact List.forall_mem_cons.2 ⟨hfirst.2, ih⟩

theorem Fits.misfit?_eq_none {schema : Schema} {count : Nat} {columns : List Column}
    (h : Fits schema count columns) (index : Nat) : misfit? index schema columns = none := by
  induction h generalizing index with
  | nil => rfl
  | cons hfirst _ ih => rw [misfit?, if_pos hfirst.1, ih]

/-- Columns of a schema and of one length make a batch, if there is a column at all. -/
theorem Fits.ofColumns_eq {schema : Schema} {count : Nat} {columns : List Column}
    (h : Fits schema count columns) (hschema : schema ≠ []) :
    ofColumns schema columns = .ok ⟨rowsAcross count (columns.map Column.cells)⟩ := by
  have hwidth : columns.length = schema.length := (List.Forall₂.length_eq h).symm
  unfold ofColumns
  rw [if_neg (not_not_intro hwidth)]
  cases columns with
  | nil => exact absurd (List.eq_nil_of_length_eq_zero hwidth.symm) hschema
  | cons first rest =>
    have hfirst : first.cells.length = count := h.length_cells first List.mem_cons_self
    have heven : (first :: rest).any (fun c => c.cells.length != count) = false := by
      rw [List.any_eq_false]
      intro c hc
      simp [h.length_cells c hc]
    simp only [hfirst, heven, h.misfit?_eq_none 0, Bool.false_eq_true, if_false]

theorem Fits.spans {schema : Schema} {count : Nat} {columns : List Column}
    (h : Fits schema count columns) (hschema : schema ≠ []) :
    Spans ⟨rowsAcross count (columns.map Column.cells)⟩ schema columns where
  fits := by
    rw [show Batch.length ⟨rowsAcross count (columns.map Column.cells)⟩ = count from
      length_rowsAcross count _]
    exact h
  made := h.ofColumns_eq hschema

/-- Where there is a batch there is a column. -/
theorem Spans.schema_ne_nil {b : Batch} {schema : Schema} {columns : List Column}
    (h : b.Spans schema columns) : schema ≠ [] := by
  rintro rfl
  have hmade := h.made
  cases h.fits
  cases hmade

end Batch

namespace Evaluation

open Sql (Record)

/-- A row has the cells of a record for the fields from an index on. -/
def ShowsFrom (index : Nat) (schema : Schema) (record : Record) (row : Row) : Prop :=
  List.Forall₂ (fun place cell => cellAt place.1.type place.2 record = .ok cell)
    (schema.zipIdx index) row

/-- A row shows a record. -/
def Shows (schema : Schema) (record : Record) (row : Row) : Prop := ShowsFrom 0 schema record row

/-! ## Rows -/

section Rows

variable {index : Nat} {schema : Schema} {record : Record} {row row' : Row}

theorem ShowsFrom.length_eq (h : ShowsFrom index schema record row) :
    row.length = schema.length := by
  have hlength := List.Forall₂.length_eq h
  rw [List.length_zipIdx] at hlength
  exact hlength.symm

theorem ShowsFrom.unique (h : ShowsFrom index schema record row)
    (h' : ShowsFrom index schema record row') : row = row' := by
  induction schema generalizing index row row' with
  | nil =>
    cases h
    cases h'
    rfl
  | cons field fields ih =>
    cases h with
    | cons hcell hrest =>
      cases h' with
      | cons hcell' hrest' =>
        rw [Except.ok.inj (hcell.symm.trans hcell'), ih hrest hrest']

/-- A record is shown by one row at most. -/
theorem Shows.unique (h : Shows schema record row) (h' : Shows schema record row') :
    row = row' := ShowsFrom.unique h h'

theorem ofType_cellAt {type : CellType} {cell : Cell} (h : cellAt type index record = .ok cell) :
    cell.ofType type = cell := by
  rw [cellAt] at h
  split at h
  · cases h
  · rename_i v _
    cases hcell : cellOf type v with
    | error damage => simp [hcell] at h
    | ok found =>
      simp only [hcell, Except.ok.injEq] at h
      subst h
      unfold cellOf at hcell
      split at hcell
      · cases hcell
        cases type <;> rfl
      · cases type with
        | text =>
          obtain ⟨s, -, rfl⟩ := exists_of_map_eq_ok hcell
          rfl
        | _ =>
          cases hcell
          rfl

theorem ShowsFrom.ofCells_eq (h : ShowsFrom index schema record row) :
    Row.ofCells schema row = row := by
  induction schema generalizing index row with
  | nil =>
    cases h
    rfl
  | cons field fields ih =>
    cases h with
    | cons hcell hrest => rw [Row.ofCells, ofType_cellAt hcell, ih hrest]

/-- A row that shows a record is a row for the schema. -/
theorem Shows.ofCells_eq (h : Shows schema record row) : Row.ofCells schema row = row :=
  ShowsFrom.ofCells_eq h

/-- So are all the rows that show some records. -/
theorem ofCells_eq_of_shows {records : List Record} {rows : List Row}
    (h : List.Forall₂ (Shows schema) records rows) : ∀ row ∈ rows, Row.ofCells schema row = row := by
  induction h with
  | nil => exact fun row hrow => absurd hrow List.not_mem_nil
  | cons hrow _ ih => exact List.forall_mem_cons.2 ⟨hrow.ofCells_eq, ih⟩

end Rows

/-! ## Columns -/

/-- A column with a cell in front. -/
def consCell (cell : Cell) (c : Batch.Column) : Batch.Column := ⟨c.type, cell :: c.cells⟩

theorem cellsAt_cons_eq_ok_iff {type : CellType} {index : Nat} {record : Record}
    {rest : List Record} {cells : List Cell} :
    cellsAt type index (record :: rest) = .ok cells ↔
      ∃ cell more, cellAt type index record = .ok cell ∧ cellsAt type index rest = .ok more ∧
        cells = cell :: more := by
  rw [cellsAt]
  cases hcell : cellAt type index record with
  | error fault => simp
  | ok cell =>
    cases hmore : cellsAt type index rest with
    | error fault => simp [Except.map]
    | ok more => simp [Except.map, eq_comm]

theorem columnsFrom_cons_eq_ok_iff {records : List Record} {index : Nat} {field : Field}
    {fields : Schema} {columns : List Batch.Column} :
    columnsFrom records index (field :: fields) = .ok columns ↔
      ∃ cells more, cellsAt field.type index records = .ok cells ∧
        columnsFrom records (index + 1) fields = .ok more ∧
        columns = ⟨field.type, cells⟩ :: more := by
  rw [columnsFrom]
  cases hcells : cellsAt field.type index records with
  | error fault => simp
  | ok cells =>
    cases hmore : columnsFrom records (index + 1) fields with
    | error fault => simp [Except.map]
    | ok more => simp [Except.map, eq_comm]

theorem columnsFrom_nil (index : Nat) (schema : Schema) :
    columnsFrom [] index schema = .ok (schema.map fun field => ⟨field.type, []⟩) := by
  induction schema generalizing index with
  | nil => rfl
  | cons field fields ih => simp [columnsFrom, cellsAt, ih, Except.map]

/-- The columns of records with one more in front: its row goes on top of them. -/
theorem columnsFrom_records_cons {record : Record} {rest : List Record} {index : Nat}
    {schema : Schema} {columns : List Batch.Column} :
    columnsFrom (record :: rest) index schema = .ok columns ↔
      ∃ row more, ShowsFrom index schema record row ∧ columnsFrom rest index schema = .ok more ∧
        columns = List.zipWith consCell row more := by
  induction schema generalizing index columns with
  | nil => simp [columnsFrom, ShowsFrom, eq_comm]
  | cons field fields ih =>
    constructor
    · intro h
      obtain ⟨cells, more, hcells, hmore, rfl⟩ := columnsFrom_cons_eq_ok_iff.1 h
      obtain ⟨cell, left, hcell, hleft, rfl⟩ := cellsAt_cons_eq_ok_iff.1 hcells
      obtain ⟨row, columns, hrow, hcolumns, rfl⟩ := ih.1 hmore
      refine ⟨cell :: row, ⟨field.type, left⟩ :: columns, .cons hcell hrow, ?_, rfl⟩
      exact columnsFrom_cons_eq_ok_iff.2 ⟨left, columns, hleft, hcolumns, rfl⟩
    · rintro ⟨row, more, hrow, hmore, rfl⟩
      cases hrow with
      | @cons _ cell _ row hcell hrow =>
        obtain ⟨left, columns, hleft, hcolumns, rfl⟩ := columnsFrom_cons_eq_ok_iff.1 hmore
        refine columnsFrom_cons_eq_ok_iff.2 ⟨cell :: left, _, ?_, ?_, rfl⟩
        · exact cellsAt_cons_eq_ok_iff.2 ⟨cell, left, hcell, hleft, rfl⟩
        · exact ih.2 ⟨row, columns, hrow, hcolumns, rfl⟩

theorem heads_zipWith_consCell {row : Row} {columns : List Batch.Column}
    (h : row.length = columns.length) :
    ((List.zipWith consCell row columns).map Batch.Column.cells).map (·.headD .null) = row := by
  induction row generalizing columns with
  | nil => rfl
  | cons cell row ih =>
    cases columns with
    | nil => cases h
    | cons c columns =>
      have hlength : row.length = columns.length := Nat.succ.inj h
      simpa [consCell] using ih hlength

theorem tails_zipWith_consCell {row : Row} {columns : List Batch.Column}
    (h : row.length = columns.length) :
    ((List.zipWith consCell row columns).map Batch.Column.cells).map List.tail =
      columns.map Batch.Column.cells := by
  induction row generalizing columns with
  | nil =>
    rw [List.eq_nil_of_length_eq_zero h.symm]
    rfl
  | cons cell row ih =>
    cases columns with
    | nil => cases h
    | cons c columns =>
      have hlength : row.length = columns.length := Nat.succ.inj h
      simpa [consCell] using ih hlength

/-- The rows across columns of records show them, and the other way round. -/
theorem columnsFrom_shows {records : List Record} {index : Nat} {schema : Schema}
    {rows : List Row} :
    List.Forall₂ (ShowsFrom index schema) records rows ↔
      ∃ columns, columnsFrom records index schema = .ok columns ∧
        rows = Batch.rowsAcross records.length (columns.map Batch.Column.cells) := by
  induction records generalizing rows with
  | nil => simp [columnsFrom_nil, Batch.rowsAcross]
  | cons record rest ih =>
    constructor
    · intro h
      cases h with
      | @cons _ row _ rows hrow hrest =>
        obtain ⟨columns, hcolumns, rfl⟩ := ih.1 hrest
        have hlength : row.length = columns.length :=
          hrow.length_eq.trans (length_columnsFrom hcolumns).symm
        refine ⟨_, columnsFrom_records_cons.2 ⟨row, columns, hrow, hcolumns, rfl⟩, ?_⟩
        rw [List.length_cons, Batch.rowsAcross, heads_zipWith_consCell hlength,
          tails_zipWith_consCell hlength]
    · rintro ⟨columns, hcolumns, rfl⟩
      obtain ⟨row, more, hrow, hmore, rfl⟩ := columnsFrom_records_cons.1 hcolumns
      have hlength : row.length = more.length :=
        hrow.length_eq.trans (length_columnsFrom hmore).symm
      rw [List.length_cons, Batch.rowsAcross, heads_zipWith_consCell hlength,
        tails_zipWith_consCell hlength]
      exact .cons hrow (ih.2 ⟨more, hmore, rfl⟩)

/-! ## Records as batches -/

theorem columnsFrom_fits {records : List Record} {index : Nat} {schema : Schema}
    {columns : List Batch.Column} (h : columnsFrom records index schema = .ok columns) :
    Batch.Fits schema records.length columns := by
  induction schema generalizing index columns with
  | nil =>
    cases h
    exact .nil
  | cons field fields ih =>
    obtain ⟨cells, more, hcells, hmore, rfl⟩ := columnsFrom_cons_eq_ok_iff.1 h
    exact .cons ⟨rfl, length_cellsAt hcells⟩ (ih hmore)

/-- The columns that can be read make a batch, if there is a column at all. -/
theorem batchOf_of_columnsFrom {schema : Schema} {records : List Record}
    {columns : List Batch.Column} (h : columnsFrom records 0 schema = .ok columns)
    (hschema : schema ≠ []) :
    batchOf schema records =
      .ok ⟨Batch.rowsAcross records.length (columns.map Batch.Column.cells)⟩ := by
  simp only [batchOf, h, (columnsFrom_fits h).ofColumns_eq hschema, Except.mapError]

/-- The batch of records shows them row by row. -/
theorem batchOf_eq_ok_iff {schema : Schema} {records : List Record} {b : Batch} :
    batchOf schema records = .ok b ↔
      schema ≠ [] ∧ List.Forall₂ (Shows schema) records b.rows := by
  constructor
  · intro h
    have hschema : schema ≠ [] := by
      rintro rfl
      cases h
    cases hcolumns : columnsFrom records 0 schema with
    | error fault => simp [batchOf, hcolumns] at h
    | ok columns =>
      rw [batchOf_of_columnsFrom hcolumns hschema] at h
      cases h
      exact ⟨hschema, columnsFrom_shows.2 ⟨columns, hcolumns, rfl⟩⟩
  · rintro ⟨hschema, hshows⟩
    obtain ⟨columns, hcolumns, hrows⟩ := columnsFrom_shows.1 hshows
    rw [batchOf_of_columnsFrom hcolumns hschema, ← hrows]

/-- A batch of records has a value for every row in every column of the schema. -/
theorem exists_spans_of_batchOf {schema : Schema} {records : List Record} {b : Batch}
    (h : batchOf schema records = .ok b) : ∃ columns, b.Spans schema columns := by
  obtain ⟨hschema, hshows⟩ := batchOf_eq_ok_iff.1 h
  obtain ⟨columns, hcolumns, hrows⟩ := columnsFrom_shows.1 hshows
  have hspans := (columnsFrom_fits hcolumns).spans hschema
  rw [← hrows] at hspans
  exact ⟨columns, hspans⟩

/-- Records make no batch of a schema for want of columns only if it has none. -/
theorem eq_nil_of_mismatch {schema : Schema} {records : List Record} {cause : Batch.Mismatch}
    (h : batchOf schema records = .error (.mismatch cause)) : schema = [] := by
  by_contra hschema
  cases hcolumns : columnsFrom records 0 schema with
  | error fault => simp [batchOf, hcolumns] at h
  | ok columns =>
    rw [batchOf_of_columnsFrom hcolumns hschema] at h
    cases h

end Evaluation

end QueryPipe
