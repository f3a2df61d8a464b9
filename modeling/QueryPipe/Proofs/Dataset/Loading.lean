import Mathlib.Data.List.Basic
import QueryPipe.Proofs.Dataset.Filling

/-!
# What loading a file makes

A file that is loaded is there as a temporary table of its name, in front of any other table of
that name. Its columns are those of the header, no two of one name, and its rows are the records
of the file in their order.

* `tableOf`: the table of a file.
* `withTable_of_whole`: what the making of a table depends on.
* `placeFor_eq_some`, `withTable_eq_ok`: where a table is made, nothing had its name.
* `withRow_withFile`: a row that is added comes after those that are there.
* `eq_withFile_of_load`: a file that is loaded has its table, with a row for each record.
* `exists_table?_of_load`: a file that is loaded is found under its name.
-/

namespace QueryPipe.Dataset

open Sql (Database Record Value)

/-! ## Rows -/

/-- The value of a cell that is not empty. -/
def ColumnKind.valueOf (kind : ColumnKind) (cell : String) : Value :=
  match kind with
  | .integer =>
    match Numeral.Whole.readInt64 cell with
    | .ok n => .whole n
    | .error _ => .null
  | .real =>
    match Numeral.Decimal.readText cell with
    | .ok x => .ofReal x
    | .error _ => .null
  | .text => .text cell

/-- The value of a cell. -/
def FileColumn.valueOf (c : FileColumn) (cell : String) : Value :=
  if cell.isEmpty then .null else c.kind.valueOf cell

/-- A record as a row: a value for each column. -/
def rowOf : List FileColumn → List String → Record
  | [], _ => []
  | _ :: columns, [] => .null :: rowOf columns []
  | c :: columns, cell :: cells => c.valueOf cell :: rowOf columns cells

/-- The records that could be read. -/
def readable (records : List (Except RecordProblem (List String))) : List (List String) :=
  records.filterMap Except.toOption

/-- A row as a table of a file holds it. -/
def storedRow (columns : List FileColumn) (row : Record) : Record :=
  List.zipWith (fun c v => Value.store (Sql.Affinity.ofType c.kind.sqlName) v) columns row

/-! ## Tables -/

/-- A column of a file as the table holds it. -/
def FileColumn.stored (c : FileColumn) : Sql.TableColumn where
  name := c.name
  type? := some c.kind.sqlName

/-- The table of a file. -/
def tableOf (name : String) (columns : List FileColumn) (rows : List Record) : Sql.Table where
  schema := Sql.temporarySchema
  name
  columns := columns.map FileColumn.stored
  rows := Database.numbered 1 (rows.map (storedRow columns))

/-- The database with the table of a file. -/
def withFile (table : String) (columns : List FileColumn) (rows : List Record) (db : Database) :
    Database :=
  { db with tables := db.tables ++ [tableOf table columns rows] }

section Making

variable {db db' : Database} {table : String} {columns : List FileColumn}

theorem searched_temporary (name : String) :
    Database.searched ⟨some Sql.temporarySchema, name⟩ = [Sql.temporarySchema] := by
  have hfilter : Sql.schemas.filter (Text.sameWord Sql.temporarySchema) =
      [Sql.temporarySchema] := by
    decide +kernel
  exact hfilter

/-- A place that is given for a temporary table was free. -/
theorem placeFor_eq_some {written schema : String}
    (h : db.placeFor ⟨true, false, ⟨none, table⟩, written⟩ = .ok (some schema)) :
    schema = Sql.temporarySchema ∧ db.foreign = false ∧
      db.table? ⟨some Sql.temporarySchema, table⟩ = none := by
  have haccessible : db.foreign = false := by
    cases hforeign : db.foreign with
    | false => rfl
    | true => simp [Database.placeFor, Database.accessible, hforeign, bind, Except.bind] at h
  have hmain : (Sql.temporarySchema == Sql.mainSchema) = false := by decide
  simp only [Database.placeFor, Database.accessible, haccessible, Database.schemaOf,
    Bool.false_eq_true, if_false, if_true, bind, Except.bind, pure, Except.pure, throw, throwThe,
    MonadExceptOf.throw] at h
  split at h
  · cases h
  · cases htable : db.table? ⟨some Sql.temporarySchema, table⟩ with
    | some t => simp [htable] at h
    | none =>
      cases hview : db.view? ⟨some Sql.temporarySchema, table⟩ with
      | some v => simp [htable, hview] at h
      | none =>
        simp only [htable, hview, hmain, Bool.false_and, Bool.false_eq_true, if_false,
          Except.ok.injEq, Option.some.injEq] at h
        exact ⟨h.symm, haccessible, rfl⟩

theorem placeFor_ne_none {written : String} :
    db.placeFor ⟨true, false, ⟨none, table⟩, written⟩ ≠ .ok none := by
  intro h
  simp only [Database.placeFor, Database.schemaOf, if_true, bind, Except.bind, pure, Except.pure,
    throw, throwThe, MonadExceptOf.throw, Bool.false_eq_true, if_false] at h
  repeat' split at h
  all_goals cases h

/-- The definition of a column of a file in a statement that makes its table. -/
def FileColumn.columnDefinition (c : FileColumn) : Sql.ColumnDefinition :=
  { name := c.name, type? := some c.kind.sqlName }

theorem mapM_columnOf (columns : List FileColumn) :
    (columns.map FileColumn.columnDefinition).mapM Database.columnOf =
      .ok (columns.map FileColumn.stored) := by
  induction columns with
  | nil => rfl
  | cons c columns ih =>
    have hc : Database.columnOf c.columnDefinition = .ok c.stored := rfl
    simp only [List.map_cons, List.mapM_cons, hc, ih, bind, Except.bind, pure, Except.pure]

/-- Columns that are not refused have names that differ in more than case. -/
theorem pairwise_of_refusedColumns {seen : List String} {definitions : List Sql.ColumnDefinition}
    (h : Database.refusedColumns table seen definitions = .ok ()) :
    (definitions.map Sql.ColumnDefinition.name).Pairwise (fun a b => Text.sameWord a b = false) ∧
      ∀ c ∈ definitions, ∀ s ∈ seen, Text.sameWord s c.name = false := by
  induction definitions generalizing seen with
  | nil => simp
  | cons c rest ih =>
    rw [Database.refusedColumns] at h
    split at h
    · cases h
    · split at h
      · cases h
      · rename_i hany
        obtain ⟨hpairwise, hrest⟩ := ih h
        have hc : ∀ s ∈ seen, Text.sameWord s c.name = false := by
          intro s hs
          rw [Text.sameWord, Bool.beq_comm, ← Text.sameWord, Bool.eq_false_iff]
          exact fun hsame => hany (List.any_eq_true.2 ⟨s, hs, hsame⟩)
        refine ⟨?_, ?_⟩
        · rw [List.map_cons, List.pairwise_cons]
          refine ⟨fun name hname => ?_, hpairwise⟩
          obtain ⟨d, hd, rfl⟩ := List.mem_map.1 hname
          exact hrest d hd c.name List.mem_cons_self
        · intro d hd s hs
          rcases List.mem_cons.1 hd with rfl | hd
          · exact hc s hs
          · exact hrest d hd s (List.mem_cons_of_mem _ hs)

/-- A statement that is not cut off makes the table where there is a place for it, unless its
columns are refused. -/
theorem withTable_of_whole (hcut : cutOff? (tableStatement table columns) = none) :
    withTable table columns db =
      match db.placeFor ⟨true, false, ⟨none, table⟩, quoteIdentifier table⟩ with
      | .error problem => .error problem
      | .ok _ =>
        (Database.refusedColumns table [] (columns.map FileColumn.columnDefinition)).map fun _ =>
          withFile table columns [] db := by
  have hdefinitions : (columns.map fun c =>
      ({ name := c.name, type? := some c.kind.sqlName } : Sql.ColumnDefinition)) =
        columns.map FileColumn.columnDefinition := rfl
  rw [withTable, hcut]
  simp only [Database.createTable, hdefinitions]
  cases hplace : db.placeFor ⟨true, false, ⟨none, table⟩, quoteIdentifier table⟩ with
  | error problem => rfl
  | ok schema? =>
    cases schema? with
    | none => exact absurd hplace placeFor_ne_none
    | some schema =>
      obtain ⟨rfl, -⟩ := placeFor_eq_some hplace
      simp only [mapM_columnOf, bind, Except.bind, pure, Except.pure]
      cases Database.refusedColumns table [] (columns.map FileColumn.columnDefinition) <;> rfl

theorem withTable_eq_ok (h : withTable table columns db = .ok db') :
    db' = withFile table columns [] db ∧ db.foreign = false ∧
      db.table? ⟨some Sql.temporarySchema, table⟩ = none ∧
      (columns.map FileColumn.name).Pairwise (fun a b => Text.sameWord a b = false) := by
  cases hcut : cutOff? (tableStatement table columns) with
  | some problem => simp [withTable, hcut] at h
  | none =>
    rw [withTable_of_whole hcut] at h
    cases hplace : db.placeFor ⟨true, false, ⟨none, table⟩, quoteIdentifier table⟩ with
    | error problem => simp [hplace] at h
    | ok schema? =>
      cases schema? with
      | none => exact absurd hplace placeFor_ne_none
      | some schema =>
        obtain ⟨-, haccessible, hfree⟩ := placeFor_eq_some hplace
        rw [hplace] at h
        obtain ⟨_, hrefused, rfl⟩ := exists_of_map_eq_ok h
        have hpairwise := (pairwise_of_refusedColumns hrefused).1
        rw [List.map_map] at hpairwise
        exact ⟨rfl, haccessible, hfree, hpairwise⟩

/-! ## Finding the table -/

/-- Whether a table is the temporary one of a name. -/
def isTemporary (name : String) (t : Sql.Table) : Bool :=
  t.schema == Sql.temporarySchema && Text.sameWord t.name name

theorem table?_temporary (db : Database) (name : String) :
    db.table? ⟨some Sql.temporarySchema, name⟩ = db.tables.find? (isTemporary name) := by
  have hfind : (db.tables.find? fun t =>
      t.schema == Sql.temporarySchema && Text.sameWord t.name name) =
        db.tables.find? (isTemporary name) := rfl
  rw [Database.table?, searched_temporary]
  simp only [List.findSome?_cons, List.findSome?_nil, hfind]
  cases db.tables.find? (isTemporary name) <;> rfl

/-- A temporary table is found in front of any other of its name. -/
theorem table?_of_temporary {t : Sql.Table} {name : String}
    (h : db.table? ⟨some Sql.temporarySchema, name⟩ = some t) :
    db.table? ⟨none, name⟩ = some t := by
  rw [table?_temporary] at h
  have hsearched : Database.searched ⟨none, name⟩ = [Sql.temporarySchema, Sql.mainSchema] := rfl
  have hfind : (db.tables.find? fun t =>
      t.schema == Sql.temporarySchema && Text.sameWord t.name name) = some t := h
  simp only [Database.table?, hsearched, List.findSome?_cons, hfind]

theorem isTemporary_tableOf (table : String) (columns : List FileColumn) (rows : List Record) :
    isTemporary table (tableOf table columns rows) = true := by
  simp [isTemporary, tableOf, Text.sameWord]

end Making

/-! ## Row after row -/

theorem numbered_append (n : Int) (rows : List Record) (row : Record) :
    Database.numbered n (rows ++ [row]) =
      Database.numbered n rows ++ [⟨Int64.ofInt (n + rows.length), row⟩] := by
  induction rows generalizing n with
  | nil => simp [Database.numbered]
  | cons first rows ih =>
    have hn : n + 1 + (rows.length : Int) = n + ((first :: rows).length : Nat) := by
      rw [List.length_cons]
      omega
    rw [List.cons_append, Database.numbered, ih, hn, Database.numbered, List.cons_append]

theorem length_numbered (n : Int) (rows : List Record) :
    (Database.numbered n rows).length = rows.length := by
  induction rows generalizing n with
  | nil => rfl
  | cons row rows ih => simp [Database.numbered, ih]

section Filling

variable {db : Database} {table file : String} {columns : List FileColumn} {rows : List Record}

/-- Other rows in the table of a file, which is the only one of its name. -/
theorem withRows_withFile (hfree : db.table? ⟨some Sql.temporarySchema, table⟩ = none)
    (rows' : List Record) :
    (withFile table columns rows db).withRows (tableOf table columns rows)
        (Database.numbered 1 (rows'.map (storedRow columns))) =
      withFile table columns rows' db := by
  have hothers : db.tables.map (fun u =>
      if Database.isThe u.schema u.name (tableOf table columns rows).schema
        (tableOf table columns rows).name then
        { u with rows := Database.numbered 1 (rows'.map (storedRow columns)) } else u) =
      db.tables := by
    rw [table?_temporary, List.find?_eq_none] at hfree
    refine (List.map_congr_left fun u hu => if_neg fun hthe => hfree u hu ?_).trans (List.map_id _)
    obtain ⟨hschema, hname⟩ := Bool.and_eq_true_iff.1 hthe
    have hfound := isTemporary_tableOf table columns rows
    rwa [isTemporary, ← beq_iff_eq.1 hschema, ← beq_iff_eq.1 hname] at hfound
  rw [Database.withRows, withFile, List.map_append, hothers]
  simp [withFile, tableOf, Database.isThe]

theorem table?_withFile (hfree : db.table? ⟨some Sql.temporarySchema, table⟩ = none)
    (columns : List FileColumn) (rows : List Record) :
    (withFile table columns rows db).table? ⟨some Sql.temporarySchema, table⟩ =
      some (tableOf table columns rows) := by
  rw [table?_temporary] at hfree ⊢
  rw [withFile, List.find?_append, hfree, Option.none_or,
    List.find?_cons_of_pos (isTemporary_tableOf table columns rows)]

/-- A row that is added comes after those that are there. -/
theorem withRow_withFile (hfree : db.table? ⟨some Sql.temporarySchema, table⟩ = none)
    (haccessible : db.foreign = false) {row : Record} (hwidth : row.length = columns.length) :
    withRow table row (withFile table columns rows db) =
      .ok (withFile table columns (rows ++ [row]) db) := by
  have hchangeable : (withFile table columns rows db).changeable ⟨none, table⟩ =
      .ok (tableOf table columns rows) := by
    have hforeign : (withFile table columns rows db).foreign = false := haccessible
    have hmain : ((tableOf table columns rows).schema == Sql.mainSchema) = false := by
      show (Sql.temporarySchema == Sql.mainSchema) = false
      decide +kernel
    have htable := table?_of_temporary (table?_withFile hfree columns rows)
    simp only [Database.changeable, Database.accessible, hforeign, htable, hmain,
      Bool.false_eq_true, Bool.false_and, if_false, bind, Except.bind, pure, Except.pure]
  have hlength : (row.length != (tableOf table columns rows).columns.length) = false := by
    simp [tableOf, hwidth]
  have hcells : List.zipWith (fun c v => Sql.Value.store c.affinity v)
      (tableOf table columns rows).columns row = storedRow columns row := by
    rw [tableOf, List.zipWith_map_left]
    rfl
  have hrows : (tableOf table columns rows).rows ++
      [⟨Int64.ofInt ((tableOf table columns rows).rows.length + 1), storedRow columns row⟩] =
        Database.numbered 1 ((rows ++ [row]).map (storedRow columns)) := by
    rw [List.map_append, List.map_singleton, numbered_append, List.length_map, Int.add_comm]
    simp [tableOf, length_numbered]
  simp only [withRow, hchangeable, bind, Except.bind, pure, Except.pure, hlength,
    Bool.false_eq_true, if_false, hcells, hrows, withRows_withFile hfree]

end Filling

/-! ## Loading -/

/-- The records of a file that can be read. -/
def recordsOf (file : String) (bytes : List UInt8) : List (List String) :=
  readable (Table.ofBytes (delimiterOf (delimiter? file)) bytes).data

/-- The table of a file with the rows of its records. -/
def fileTable (file : String) (bytes : List UInt8) (columns : List FileColumn) : Sql.Table :=
  tableOf file columns ((recordsOf file bytes).map (rowOf columns))

/-- A record as it is bound is a row. -/
theorem map_valueOfBound_boundsOf (columns : List FileColumn) (cells : List String) :
    (boundsOf columns cells).map valueOfBound = rowOf columns cells := by
  have hcell : ∀ (c : FileColumn) (cell : String),
      valueOfBound (c.boundOf? cell) = c.valueOf cell := by
    intro c cell
    rw [FileColumn.boundOf?, FileColumn.valueOf]
    split
    · rfl
    · cases c.kind with
      | integer =>
        rw [ColumnKind.boundOf?, ColumnKind.valueOf]
        cases Numeral.Whole.readInt64 cell <;> rfl
      | real =>
        rw [ColumnKind.boundOf?, ColumnKind.valueOf]
        cases Numeral.Decimal.readText cell <;> rfl
      | text => rfl
  induction columns generalizing cells with
  | nil => rfl
  | cons c columns ih =>
    cases cells with
    | nil => rw [boundsOf, rowOf, List.map_cons, ih]; rfl
    | cons cell cells => rw [boundsOf, rowOf, List.map_cons, ih, hcell]

section Loading

variable {table file : String} {columns : List FileColumn} {db db' : Database}

/-- A row that is added in a transaction comes after those that are there. -/
theorem insert_databaseStore (hfree : db.table? ⟨some Sql.temporarySchema, table⟩ = none)
    (haccessible : db.foreign = false) {bounds : List (Option Bound)}
    (hwidth : bounds.length = columns.length) (before : Database) (rows : List Record) :
    databaseStore.insert table bounds ⟨before, withFile table columns rows db⟩ =
      .ok ⟨before, withFile table columns (rows ++ [bounds.map valueOfBound]) db⟩ := by
  have hrow : (bounds.map valueOfBound).length = columns.length := by
    rw [List.length_map, hwidth]
  simp only [databaseStore, withRow_withFile hfree haccessible hrow]

/-- Rows that are added one by one are there in the end. -/
theorem insertAll_databaseStore (hfree : db.table? ⟨some Sql.temporarySchema, table⟩ = none)
    (haccessible : db.foreign = false) {bounds : List (List (Option Bound))}
    (hwidth : ∀ row ∈ bounds, row.length = columns.length) (before : Database)
    (rows : List Record) :
    databaseStore.insertAll table bounds ⟨before, withFile table columns rows db⟩ =
      .ok ⟨before,
        withFile table columns (rows ++ bounds.map (List.map valueOfBound)) db⟩ := by
  induction bounds generalizing rows with
  | nil => rw [List.map_nil, List.append_nil, Store.insertAll]
  | cons row bounds ih =>
    rw [List.forall_mem_cons] at hwidth
    rw [Store.insertAll, insert_databaseStore hfree haccessible hwidth.1]
    simp only [ih hwidth.2, List.map_cons, List.append_assoc, List.singleton_append]

/-- A table that is made is empty, and nothing had its name. -/
theorem create_databaseStore (h : databaseStore.create table columns db = .ok db') :
    db' = withFile table columns [] db ∧ db.foreign = false ∧
      db.table? ⟨some Sql.temporarySchema, table⟩ = none ∧
      (columns.map FileColumn.name).Pairwise (fun a b => Text.sameWord a b = false) := by
  simp only [databaseStore] at h
  exact withTable_eq_ok (eq_ok_of_mapError_eq_ok h)

theorem Table.Reads.recordsOf_eq {bytes : List UInt8} {names : List String}
    {records : List (List String)}
    (h : (Table.ofBytes (delimiterOf (delimiter? file)) bytes).Reads names records) :
    recordsOf file bytes = records := by
  rw [recordsOf, h.data, readable, List.filterMap_map]
  exact List.filterMap_some

theorem load_eq_ok_iff {content : Except Storage.AccessFault (List UInt8)} {n : Nat} :
    load table file content db = .ok (n, db') ↔
      databaseStore.load table file content db = (.ok n, db') := by
  rw [load]
  rcases databaseStore.load table file content db with ⟨_ | _, _⟩ <;> simp

/-- What a file is loaded as: its table is made, and all rows are in it. -/
theorem eq_withFile_of_load {bytes : List UInt8} {n : Nat}
    (hcolumns : (Table.ofBytes (delimiterOf (delimiter? file)) bytes).columns = .ok columns)
    (h : load table file (.ok bytes) db = .ok (n, db')) :
    databaseStore.create table columns db = .ok (withFile table columns [] db) ∧
      db' = withFile table columns ((recordsOf file bytes).map (rowOf columns)) db := by
  obtain ⟨names, records, hreads⟩ := Table.columns_isOk_iff.1 ⟨columns, hcolumns⟩
  obtain ⟨-, made, begun, filled, hsteps⟩ :=
    (Store.load_eq_ok_iff hreads hcolumns).1 (load_eq_ok_iff.1 h)
  have hcreate := hsteps.create
  obtain ⟨rfl, haccessible, hfree, -⟩ := create_databaseStore hcreate
  have hwidth : ∀ row ∈ records.map (boundsOf columns), row.length = columns.length := by
    intro row hrow
    obtain ⟨cells, -, rfl⟩ := List.mem_map.1 hrow
    exact length_boundsOf columns cells
  obtain rfl := Except.ok.inj hsteps.begin
  have hinsert := hsteps.insert
  rw [insertAll_databaseStore hfree haccessible hwidth] at hinsert
  obtain rfl := Except.ok.inj hinsert
  obtain rfl := Except.ok.inj hsteps.commit
  refine ⟨hcreate, ?_⟩
  rw [hreads.recordsOf_eq, List.nil_append, List.map_map]
  simp only [Function.comp_def, map_valueOfBound_boundsOf]

/-- A file that is loaded is found as a table under its name. -/
theorem exists_table?_of_load {bytes : List UInt8} {n : Nat}
    (h : load file file (.ok bytes) db = .ok (n, db')) :
    ∃ columns, db'.table? ⟨none, file⟩ = some (fileTable file bytes columns) := by
  cases hcolumns : columnsOf file (.ok bytes) with
  | error p => simp [load, Store.load, hcolumns] at h
  | ok columns =>
    obtain ⟨hcreate, rfl⟩ := eq_withFile_of_load hcolumns h
    obtain ⟨-, -, hfree, -⟩ := create_databaseStore hcreate
    exact ⟨columns, table?_of_temporary (table?_withFile hfree columns _)⟩

end Loading

end QueryPipe.Dataset
