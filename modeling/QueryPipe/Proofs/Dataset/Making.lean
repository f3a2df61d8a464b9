import QueryPipe.Proofs.Dataset.Columns
import QueryPipe.Proofs.Sql.Lexing

/-!
# Files that are loaded

A file is refused as a table for its name, for the names in its header, or for what the database
holds already. Where neither speaks against it, the file is loaded.

* `IsPlainHeader`: names that columns can have as they are written.
* `HasRoomFor`: nothing keeps a table of a name out of a database.
* `withTable_of_room`, `exists_withTable`: so the table is made.
-/

namespace QueryPipe.Dataset

open Sql (Database)

/-- Whether a name is written in a header as its column is named, and can be quoted. -/
structure IsPlainHeading (name : String) : Prop where
  /-- There is something. -/
  named : name ≠ ""
  /-- There are no blanks around it. -/
  trimmed : Text.trim name = name
  /-- It does not end a statement. -/
  whole : '\x00' ∉ name.toList
  /-- It does not start with the mark that a file can start with. -/
  markless : name.toList.head? ≠ some '\uFEFF'

/-- Whether the names of a header are plain and make columns of one table. -/
structure IsPlainHeader (names : List String) : Prop where
  /-- Each name is plain. -/
  plain : ∀ name ∈ names, IsPlainHeading name
  /-- No two are the same, upper or lower case. -/
  distinct : names.Pairwise fun a b => Text.sameWord a b = false
  /-- There are not more than a table can have. -/
  narrow : names.length ≤ Database.greatestWidth

theorem IsPlainHeader.nodup {names : List String} (h : IsPlainHeader names) : names.Nodup := by
  refine h.distinct.imp fun {a b} hab => ?_
  rintro rfl
  rw [Sql.sameWord_self] at hab
  cases hab

theorem IsPlainHeading.columnName_eq {name : String} (h : IsPlainHeading name) (k : Nat) :
    columnName k name = name := by
  have hsome : name.isEmpty = false := by simpa using h.named
  rw [columnName, h.trimmed]
  simp only [hsome, Bool.false_eq_true, if_false]

/-! ## Names of columns -/

section Header

variable {t : Table} {names : List String} {records : List (List String)}
  {columns : List FileColumn}

/-- Under a plain header, the columns have the names in it. -/
theorem IsPlainHeader.namesOf_eq (h : IsPlainHeader names) (hreads : t.Reads names records)
    (hcolumns : t.columns = .ok columns) : namesOf columns = names := by
  obtain rfl := Except.ok.inj (hreads.columns_eq.symm.trans hcolumns)
  refine List.ext_getElem (by simp [namesOf]) fun k hk hk' => ?_
  have hname := (h.plain names[k] (List.getElem_mem hk')).columnName_eq k
  simpa [namesOf] using hname

end Header

/-! ## Making the table -/

/-- Whether nothing keeps a temporary table of a name out of a database. -/
structure HasRoomFor (db : Database) (name : String) : Prop where
  /-- Tables can be looked for. -/
  accessible : db.foreign = false
  /-- The name is not kept for the engine. -/
  unreserved : Text.startsWith "sqlite_" name.toLower = false
  /-- There is no such table yet, -/
  noTable : db.table? ⟨some Sql.temporarySchema, name⟩ = none
  /-- and no such view. -/
  noView : db.view? ⟨some Sql.temporarySchema, name⟩ = none

section Making

variable {db : Database} {table : String} {columns : List FileColumn}

theorem HasRoomFor.placeFor_eq (h : HasRoomFor db table) (written : String) :
    db.placeFor ⟨true, false, ⟨none, table⟩, written⟩ = .ok (some Sql.temporarySchema) := by
  have hmain : (Sql.temporarySchema == Sql.mainSchema) = false := by decide
  simp only [Database.placeFor, Database.accessible, h.accessible, Database.schemaOf, if_true,
    h.unreserved, h.noTable, h.noView, hmain, Bool.false_and, Bool.false_eq_true, if_false, bind,
    Except.bind, pure, Except.pure]

/-- Columns are refused only for their number and their names. -/
theorem refusedColumns_eq_ok {seen : List String} {definitions : List Sql.ColumnDefinition}
    (hwidth : seen.length + definitions.length ≤ Database.greatestWidth)
    (hseen : ∀ c ∈ definitions, ∀ s ∈ seen, Text.sameWord c.name s = false)
    (hdistinct : definitions.Pairwise fun c d => Text.sameWord d.name c.name = false) :
    Database.refusedColumns table seen definitions = .ok () := by
  induction definitions generalizing seen with
  | nil => rfl
  | cons c rest ih =>
    rw [List.length_cons] at hwidth
    rw [List.forall_mem_cons] at hseen
    rw [List.pairwise_cons] at hdistinct
    have hnew : seen.any (Text.sameWord c.name) = false := by
      rw [List.any_eq_false]
      exact fun s hs => by simp [hseen.1 s hs]
    have hfew : ¬ Database.greatestWidth ≤ seen.length := by omega
    rw [Database.refusedColumns, if_neg hfew, hnew]
    refine ih (by rw [List.length_cons]; omega) (fun d hd s hs => ?_) hdistinct.2
    rcases List.mem_cons.1 hs with rfl | hs
    · exact hdistinct.1 d hd
    · exact hseen.2 d hd s hs

theorem notMem_append {c : Char} {s t : String} :
    c ∉ (s ++ t).toList ↔ c ∉ s.toList ∧ c ∉ t.toList := by
  rw [String.toList_append, List.mem_append, not_or]

theorem notMem_joined {c : Char} {joint : String} (hjoint : c ∉ joint.toList)
    {parts : List String} (hparts : ∀ part ∈ parts, c ∉ part.toList) :
    c ∉ (Text.joined joint parts).toList := by
  induction parts with
  | nil => simp
  | cons part rest ih =>
    rw [List.forall_mem_cons] at hparts
    cases rest with
    | nil => simpa using hparts.1
    | cons next rest =>
      rw [Text.joined_cons_cons, notMem_append, notMem_append]
      exact ⟨⟨hparts.1, hjoint⟩, ih hparts.2⟩

/-- The statement that makes a table is not cut off inside a name. -/
theorem cutOff?_tableStatement (htable : '\x00' ∉ table.toList)
    (hnames : ∀ name ∈ namesOf columns, '\x00' ∉ name.toList) :
    cutOff? (tableStatement table columns) = none := by
  have hquoted : ∀ {name : String}, '\x00' ∉ name.toList →
      '\x00' ∉ (quoteIdentifier name).toList := by
    intro name hname
    simp [quoteIdentifier, Sql.mem_doubled, hname]
  have hdefinition : ∀ part ∈ columns.map FileColumn.definition, '\x00' ∉ part.toList := by
    intro part hpart
    obtain ⟨c, hc, rfl⟩ := List.mem_map.1 hpart
    have hname := hquoted (hnames c.name (List.mem_map_of_mem hc))
    have hkind : '\x00' ∉ c.kind.sqlName.toList := by cases c.kind <;> decide
    simp [FileColumn.definition, hname, hkind]
  have hjoined := notMem_joined (by decide : '\x00' ∉ ", ".toList) hdefinition
  have hwhole : '\x00' ∉ (tableStatement table columns).toList :=
    notMem_append.2 ⟨notMem_append.2 ⟨notMem_append.2 ⟨notMem_append.2 ⟨by decide,
      hquoted htable⟩, by decide⟩, hjoined⟩, by decide⟩
  rw [cutOff?, if_neg (by simpa using hwhole)]

/-- Where there is room, only the columns can be refused. -/
theorem withTable_of_room (hroom : HasRoomFor db table)
    (hcut : cutOff? (tableStatement table columns) = none) :
    withTable table columns db =
      (Database.refusedColumns table [] (columns.map FileColumn.columnDefinition)).map fun _ =>
        withFile table columns [] db := by
  rw [withTable_of_whole hcut, hroom.placeFor_eq]

/-- Nothing is said against the table of a file under a plain header. -/
theorem exists_withTable (hroom : HasRoomFor db table) (htable : '\x00' ∉ table.toList)
    (hheader : IsPlainHeader (namesOf columns)) : ∃ db', withTable table columns db = .ok db' := by
  have hcut := cutOff?_tableStatement htable fun name hname => (hheader.plain name hname).whole
  have hrefused : Database.refusedColumns table [] (columns.map FileColumn.columnDefinition) =
      .ok () := by
    have hpairwise := List.pairwise_map.1 hheader.distinct
    refine refusedColumns_eq_ok ?_ (by simp) (List.pairwise_map.2 (hpairwise.imp ?_))
    · simpa [namesOf] using hheader.narrow
    · intro c d h
      rwa [FileColumn.columnDefinition, FileColumn.columnDefinition, Text.sameWord,
        Bool.beq_comm, ← Text.sameWord]
  exact ⟨withFile table columns [] db, by rw [withTable_of_room hroom hcut, hrefused]; rfl⟩

end Making

end QueryPipe.Dataset
