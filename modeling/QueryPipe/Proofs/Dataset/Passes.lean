import Mathlib.Data.List.Forall2
import QueryPipe.Proofs.Dataset.Loading

/-!
# The two passes over a file

Loading reads a file for its columns first and for its rows after that. The second pass takes a
cell that cannot be read as a missing value, but there is none: the type that a column comes to in
the first pass reads every cell of it. So a file is loaded with all that is in it, or nothing is
changed.

* `getElem?_boundsOf`: what is bound for a record, column by column.
* `Store.AcceptsRows`, `Store.Transacts`: what is asked of a store.
* `Store.load_of_create`: what becomes of a table that was made, where less is asked.
* `acceptsRows_databaseStore`, `transacts_databaseStore`: a database is such a store.
-/

namespace QueryPipe.Dataset

open Sql (Database)

/-! ## Cells -/

/-- Whether a value is what the type of a column reads in a cell. -/
inductive ColumnKind.IsRead : ColumnKind → String → Bound → Prop
  /-- A whole number. -/
  | whole {cell : String} {n : Int64} (h : Numeral.Whole.readInt64 cell = .ok n) :
      IsRead .integer cell (.whole n)
  /-- A floating point number. -/
  | float {cell : String} {x : Numeral.Binary64} (h : Numeral.Decimal.readText cell = .ok x) :
      IsRead .real cell (.float x)
  /-- A text. -/
  | text (cell : String) : IsRead .text cell (.text cell)

/-- A cell that a type reads is bound as what it reads. -/
theorem ColumnKind.exists_isRead {kind : ColumnKind} {cell : String}
    (h : kind.reads cell = true) :
    ∃ b, kind.boundOf? cell = some b ∧ kind.IsRead cell b := by
  cases kind with
  | integer =>
    rw [reads, isWhole] at h
    cases hread : Numeral.Whole.readInt64 cell with
    | error problem => simp [hread, Except.toOption] at h
    | ok n => exact ⟨.whole n, by rw [boundOf?, hread]; rfl, .whole hread⟩
  | real =>
    rw [reads, isFloat] at h
    cases hread : Numeral.Decimal.readText cell with
    | error problem => simp [hread, Except.toOption] at h
    | ok x => exact ⟨.float x, by rw [boundOf?, hread]; rfl, .float hread⟩
  | text => exact ⟨.text cell, rfl, .text cell⟩

/-- What is bound for a column depends on its cell. -/
theorem getElem?_boundsOf (columns : List FileColumn) (cells : List String) (k : Nat) :
    (boundsOf columns cells)[k]? =
      columns[k]?.map fun c => (cellAt? k cells).bind c.kind.boundOf? := by
  induction columns generalizing cells k with
  | nil => rfl
  | cons c columns ih =>
    cases cells with
    | nil =>
      cases k with
      | zero => rfl
      | succ k => simpa [boundsOf, cellAt?] using ih [] k
    | cons cell cells =>
      cases k with
      | zero =>
        rw [boundsOf, FileColumn.boundOf?, cellAt?]
        cases hempty : cell.isEmpty <;> simp [hempty, Option.filter]
      | succ k => exact ih cells k

/-- How the cells of a record are bound for columns: a missing or empty cell as nothing, and any
other as what the type of its column reads in it. -/
def IsBoundAs (columns : List FileColumn) (cells : List String) (bounds : List (Option Bound)) :
    Prop :=
  bounds.length = columns.length ∧
    ∀ k c, columns[k]? = some c →
      (cellAt? k cells = none ∧ bounds[k]? = some none) ∨
        ∃ cell b, cellAt? k cells = some cell ∧ bounds[k]? = some (some b) ∧ c.kind.IsRead cell b

section Records

variable {t : Table} {names : List String} {records : List (List String)}
  {columns : List FileColumn}

/-- The type of a column reads every cell of it. -/
theorem Table.Reads.reads_of_columns (h : t.Reads names records) (hcolumns : t.columns = .ok columns)
    {k : Nat} {c : FileColumn} (hc : columns[k]? = some c) {cell : String}
    (hcell : cell ∈ cellsAt records k) : c.kind.reads cell = true := by
  obtain rfl := Except.ok.inj (h.columns_eq.symm.trans hcolumns)
  rw [List.getElem?_mapIdx, Option.map_eq_some_iff] at hc
  obtain ⟨header, -, rfl⟩ := hc
  exact ColumnKind.reads_ofCells hcell

/-- No cell of a record that was read in the first pass is lost in the second. -/
theorem Table.Reads.isBoundAs_boundsOf (h : t.Reads names records)
    (hcolumns : t.columns = .ok columns) {cells : List String} (hcells : cells ∈ records) :
    IsBoundAs columns cells (boundsOf columns cells) := by
  refine ⟨length_boundsOf columns cells, fun k c hc => ?_⟩
  rw [getElem?_boundsOf, hc]
  cases hcell : cellAt? k cells with
  | none => exact .inl ⟨rfl, rfl⟩
  | some cell =>
    obtain ⟨b, hb, hread⟩ := ColumnKind.exists_isRead
      (h.reads_of_columns hcolumns hc (mem_cellsAt hcells hcell))
    exact .inr ⟨cell, b, rfl, congrArg some hb, hread⟩

end Records

/-! ## Stores -/

namespace Store

variable {σ τ : Type} {store : Store σ τ} {table file : String} {columns : List FileColumn}

/-- A table that was made takes, in a transaction, every row that is as wide as it. -/
def AcceptsRows (store : Store σ τ) : Prop :=
  ∀ {table : String} {columns : List FileColumn} {s made : σ} {begun : τ},
    store.create table columns s = .ok made → store.begin made = .ok begun →
      ∀ rows : List (List (Option Bound)), (∀ bounds ∈ rows, bounds.length = columns.length) →
        ∃ filled, store.insertAll table rows begun = .ok filled

/-- In some state, a transaction can be begun once a table was made, and ended once rows were
added. This fails, for one, where a transaction has been begun already. -/
structure Transacts (store : Store σ τ) (s : σ) : Prop where
  /-- It is begun. -/
  begins : ∀ {table : String} {columns : List FileColumn} {made : σ},
    store.create table columns s = .ok made → ∃ begun, store.begin made = .ok begun
  /-- It is ended. -/
  commits : ∀ {table : String} {columns : List FileColumn} {made : σ} {begun filled : τ}
    {rows : List (List (Option Bound))}, store.create table columns s = .ok made →
      store.begin made = .ok begun → store.insertAll table rows begun = .ok filled →
        ∃ done, store.commit filled = .ok done

/-- A record that was read in the first pass is bound as wide as the header. -/
theorem length_of_mem_boundsOf {records : List (List String)} {bounds : List (Option Bound)}
    (h : bounds ∈ records.map (boundsOf columns)) : bounds.length = columns.length := by
  obtain ⟨cells, -, rfl⟩ := List.mem_map.1 h
  exact length_boundsOf columns cells

/-- What becomes of the table of a file once it was made. Either no transaction is begun, and the
table stays empty; or every row is added, and then the rows are either kept or taken back. -/
theorem load_of_create (h : store.AcceptsRows) {bytes : List UInt8} {names : List String}
    {records : List (List String)} {s made : σ}
    (hreads : (Table.ofBytes (delimiterOf (delimiter? file)) bytes).Reads names records)
    (hcolumns : columnsOf file (.ok bytes) = .ok columns)
    (hcreate : store.create table columns s = .ok made) :
    (∃ message, store.begin made = .error message ∧
      store.load table file (.ok bytes) s =
        (.error (.execution (rowStatement table columns) message), made)) ∨
    ∃ begun filled, store.begin made = .ok begun ∧
      store.insertAll table (records.map (boundsOf columns)) begun = .ok filled ∧
      ((∃ message, store.commit filled = .error message ∧
        store.load table file (.ok bytes) s =
          (.error (.execution (rowStatement table columns) message), store.rollBack filled)) ∨
      ∃ done, store.commit filled = .ok done ∧
        store.load table file (.ok bytes) s = (.ok records.length, done)) := by
  cases hbegin : store.begin made with
  | error message =>
    refine .inl ⟨message, rfl, ?_⟩
    simp only [load, hcolumns, hcreate, fillAll, hbegin]
  | ok begun =>
    obtain ⟨filled, hfilled⟩ := h hcreate hbegin _ fun _ => length_of_mem_boundsOf
    refine .inr ⟨begun, filled, rfl, hfilled, ?_⟩
    cases hcommit : store.commit filled with
    | error message =>
      refine .inl ⟨message, rfl, ?_⟩
      simp only [load, hcolumns, hcreate, fillAll, hbegin, fillFrom_eq hreads, fill_eq hfilled,
        hcommit]
    | ok done =>
      exact .inr ⟨done, rfl, (load_eq_ok_iff hreads hcolumns).2
        ⟨rfl, made, begun, filled, hcreate, hbegin, hfilled, hcommit⟩⟩

/-- What loading a file comes to where transactions can be begun and ended: nothing is changed,
because its columns cannot be told or its table cannot be made, or the table is made and holds a
row for each record in order, with all that is in it. -/
theorem load_cases {s : σ} (h : store.AcceptsRows) (htransacts : store.Transacts s)
    (table file : String) (content : Except Storage.AccessFault (List UInt8)) :
    (∃ problem, columnsOf file content = .error problem ∧
      store.load table file content s = (.error (.execution file problem.message), s)) ∨
    (∃ columns message, columnsOf file content = .ok columns ∧
      store.create table columns s = .error message ∧
      store.load table file content s =
        (.error (.execution (tableStatement table columns) message), s)) ∨
    ∃ bytes columns names records made begun rows filled done, content = .ok bytes ∧
      columnsOf file content = .ok columns ∧
      (Table.ofBytes (delimiterOf (delimiter? file)) bytes).Reads names records ∧
      store.create table columns s = .ok made ∧ store.begin made = .ok begun ∧
      List.Forall₂ (IsBoundAs columns) records rows ∧
      store.insertAll table rows begun = .ok filled ∧ store.commit filled = .ok done ∧
      store.load table file content s = (.ok records.length, done) := by
  cases hcolumns : columnsOf file content with
  | error problem => exact .inl ⟨problem, rfl, by rw [load, hcolumns]⟩
  | ok columns =>
    cases hcreate : store.create table columns s with
    | error message =>
      refine .inr (.inl ⟨columns, message, rfl, hcreate, ?_⟩)
      simp only [load, hcolumns, hcreate]
    | ok made =>
      cases content with
      | error fault => cases hcolumns
      | ok bytes =>
        obtain ⟨names, records, hreads⟩ := Table.columns_isOk_iff.1 ⟨columns, hcolumns⟩
        have hbound : List.Forall₂ (IsBoundAs columns) records
            (records.map (boundsOf columns)) := by
          rw [List.forall₂_map_right_iff, List.forall₂_same]
          exact fun cells hcells => hreads.isBoundAs_boundsOf hcolumns hcells
        rcases load_of_create h hreads hcolumns hcreate with
          ⟨message, hrefused, -⟩ | ⟨begun, filled, hbegin, hfilled, hended⟩
        · obtain ⟨begun, hbegin⟩ := htransacts.begins hcreate
          cases hbegin.symm.trans hrefused
        · rcases hended with ⟨message, hrefused, -⟩ | ⟨done, hcommit, hload⟩
          · obtain ⟨done, hcommit⟩ := htransacts.commits hcreate hbegin hfilled
            cases hcommit.symm.trans hrefused
          · exact .inr (.inr ⟨bytes, columns, names, records, made, begun, _, filled, done, rfl,
              rfl, hreads, hcreate, hbegin, hbound, hfilled, hcommit, hload⟩)

end Store

/-! ## Databases -/

/-- A table of a file in a database takes every row that is as wide as it. -/
theorem acceptsRows_databaseStore : databaseStore.AcceptsRows := by
  intro table columns db made begun hcreate hbegin rows hwidth
  obtain ⟨rfl, haccessible, hfree, -⟩ := create_databaseStore hcreate
  obtain rfl := Except.ok.inj hbegin
  exact ⟨_, insertAll_databaseStore hfree haccessible hwidth _ []⟩

/-- No script begins a transaction in a database, so one can be begun at any time. -/
theorem transacts_databaseStore (db : Database) : databaseStore.Transacts db where
  begins := fun {_ _ made} _ => ⟨⟨made, made⟩, rfl⟩
  commits := fun {_ _ _ _ filled _} _ _ _ => ⟨filled.now, rfl⟩

theorem load_cases_ragged :
    let content : Except Storage.AccessFault (List UInt8) :=
      .ok (Text.bytesOf "id,score\n1,2.5\n-7\n,nan,x\n")
    let columns : List FileColumn := [⟨"id", .integer⟩, ⟨"score", .real⟩]
    databaseStore.AcceptsRows ∧ databaseStore.Transacts {} ∧
      ∃ made begun rows filled done, databaseStore.create "a.csv" columns {} = .ok made ∧
        databaseStore.begin made = .ok begun ∧
        List.Forall₂ (IsBoundAs columns) [["1", "2.5"], ["-7"], ["", "nan", "x"]] rows ∧
        databaseStore.insertAll "a.csv" rows begun = .ok filled ∧
        databaseStore.commit filled = .ok done ∧
        databaseStore.load "a.csv" "a.csv" content {} = (.ok 3, done) := by
  intro content columns
  have hcolumns : columnsOf "a.csv" content = .ok columns := by decide +kernel
  have hcreate : (databaseStore.create "a.csv" columns {}).toOption.isSome = true := by
    decide +kernel
  have hdata : (Table.ofBytes (delimiterOf (delimiter? "a.csv"))
      (Text.bytesOf "id,score\n1,2.5\n-7\n,nan,x\n")).data =
        [["1", "2.5"], ["-7"], ["", "nan", "x"]].map .ok := by
    decide +kernel
  refine ⟨acceptsRows_databaseStore, transacts_databaseStore {}, ?_⟩
  rcases Store.load_cases acceptsRows_databaseStore (transacts_databaseStore {}) "a.csv" "a.csv"
      content with
    ⟨problem, hproblem, -⟩ | ⟨found, message, hfound, hmessage, -⟩ |
      ⟨bytes, found, names, records, made, begun, rows, filled, done, hbytes, hfound, hreads,
        hmade, hbegun, hrows, hfilled, hdone, hload⟩
  · rw [hcolumns] at hproblem
    cases hproblem
  · obtain rfl := Except.ok.inj (hcolumns.symm.trans hfound)
    rw [hmessage] at hcreate
    cases hcreate
  · obtain rfl := Except.ok.inj (hcolumns.symm.trans hfound)
    obtain rfl := Except.ok.inj hbytes
    have hrecords : records = [["1", "2.5"], ["-7"], ["", "nan", "x"]] :=
      List.map_injective_iff.2 (fun _ _ => Except.ok.inj) (hreads.data.symm.trans hdata)
    subst hrecords
    exact ⟨made, begun, rows, filled, done, hmade, hbegun, hrows, hfilled, hdone, hload⟩

end QueryPipe.Dataset
