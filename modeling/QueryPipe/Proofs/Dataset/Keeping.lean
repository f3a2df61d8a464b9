import QueryPipe.Proofs.Dataset.Making
import QueryPipe.Proofs.Dataset.Passes

/-!
# What a store keeps

The database that files are loaded into comes from a library. What is relied on of it is stated here
step by step, over a view of its states: that a table which was made is empty, that a row which was
inserted is the last one of its table, and that the end of a transaction keeps all that. From these
laws, a file that is loaded is there with all its rows.

A state is seen as usual when no transaction is open and no setting was changed that has to do with
the order of rows, with comparisons, or with what may be written. A script that does such things
leads to states about which nothing is said.

* `View`: how states are seen.
* `Store.Keeps`, `Store.Serves`: what successful steps do, and where steps are successful.
* `Store.Keeps.holds_of_load`: what a file is loaded as.
* `Store.Serves.exists_load`: a file under a plain header is loaded.
* `keeps_databaseStore`, `serves_databaseStore`: databases obey the laws.
-/

namespace QueryPipe.Dataset

open Sql (Database Record Value)

/-! ## Laws -/

/-- How the states of a database are seen, of type `σ`, and of type `τ` within a transaction. -/
structure View (σ τ : Type) where
  /-- No transaction is open, and no setting was changed. -/
  usual : σ → Prop
  /-- Nothing keeps a temporary table of a name out. -/
  vacant : σ → String → Prop
  /-- A temporary table has columns and rows, and otherwise all is as usual. -/
  holds : σ → String → List FileColumn → List Record → Prop
  /-- It has them within a transaction. -/
  filling : τ → String → List FileColumn → List Record → Prop

/-- What is bound for the column of a kind: nothing, or a value of that kind. -/
inductive ColumnKind.Takes : ColumnKind → Option Bound → Prop
  /-- Nothing is bound. -/
  | nothing (kind : ColumnKind) : Takes kind none
  /-- A whole number. -/
  | whole (n : Int64) : Takes .integer (some (.whole n))
  /-- A floating point number. -/
  | float (x : Numeral.Binary64) : Takes .real (some (.float x))
  /-- A text. -/
  | text (s : String) : Takes .text (some (.text s))

/-- Whether bound values are of the kinds of columns, one for each. -/
def FitColumns (columns : List FileColumn) (bounds : List (Option Bound)) : Prop :=
  List.Forall₂ (fun c b => c.kind.Takes b) columns bounds

/-- A row of bound values as a table holds it. -/
def heldRow (columns : List FileColumn) (bounds : List (Option Bound)) : Record :=
  storedRow columns (bounds.map valueOfBound)

namespace Store

variable {σ τ : Type}

/-- What successful steps do. A bound value is stored as it is, but for what is no number. -/
structure Keeps (store : Store σ τ) (view : View σ τ) : Prop where
  /-- A table that is made is empty. -/
  create : ∀ {table columns s made}, view.usual s → store.create table columns s = .ok made →
    view.holds made table columns []
  /-- The begin of a transaction changes no table. -/
  begin : ∀ {table columns rows s begun}, view.holds s table columns rows →
    store.begin s = .ok begun → view.filling begun table columns rows
  /-- A row that is inserted comes after all others. -/
  insert : ∀ {table columns rows bounds s next}, view.filling s table columns rows →
    FitColumns columns bounds → store.insert table bounds s = .ok next →
      view.filling next table columns (rows ++ [heldRow columns bounds])
  /-- The end of a transaction changes no table. -/
  commit : ∀ {table columns rows s done}, view.filling s table columns rows →
    store.commit s = .ok done → view.holds done table columns rows

/-- Where steps are successful. -/
structure Serves (store : Store σ τ) (view : View σ τ) : Prop where
  /-- A table is made under a plain header. -/
  create : ∀ {table columns s}, view.usual s → view.vacant s table → '\x00' ∉ table.toList →
    IsPlainHeader (namesOf columns) → ∃ made, store.create table columns s = .ok made
  /-- A transaction can be begun. -/
  begin : ∀ {table columns rows s}, view.holds s table columns rows →
    ∃ begun, store.begin s = .ok begun
  /-- A row of values of the kinds of the columns is inserted. -/
  insert : ∀ {table columns rows bounds s}, view.filling s table columns rows →
    FitColumns columns bounds → ∃ next, store.insert table bounds s = .ok next
  /-- A transaction can be ended. -/
  commit : ∀ {table columns rows s}, view.filling s table columns rows →
    ∃ done, store.commit s = .ok done

end Store

/-! ## Rows -/

theorem ColumnKind.takes_boundOf? (kind : ColumnKind) (cell : String) :
    kind.Takes (kind.boundOf? cell) := by
  cases kind with
  | integer =>
    rw [boundOf?]
    cases Numeral.Whole.readInt64 cell with
    | error p => exact .nothing _
    | ok n => exact .whole n
  | real =>
    rw [boundOf?]
    cases Numeral.Decimal.readText cell with
    | error p => exact .nothing _
    | ok x => exact .float x
  | text => exact .text cell

/-- What is bound for a record fits the columns of its file. -/
theorem fitColumns_boundsOf (columns : List FileColumn) (cells : List String) :
    FitColumns columns (boundsOf columns cells) := by
  induction columns generalizing cells with
  | nil => exact .nil
  | cons c columns ih =>
    cases cells with
    | nil => exact .cons (.nothing _) (ih [])
    | cons cell cells =>
      refine .cons ?_ (ih cells)
      rw [FileColumn.boundOf?]
      split
      · exact .nothing _
      · exact c.kind.takes_boundOf? cell

theorem fitColumns_of_mem {columns : List FileColumn} {records : List (List String)}
    {bounds : List (Option Bound)} (h : bounds ∈ records.map (boundsOf columns)) :
    FitColumns columns bounds := by
  obtain ⟨cells, -, rfl⟩ := List.mem_map.1 h
  exact fitColumns_boundsOf columns cells

theorem map_heldRow_boundsOf (columns : List FileColumn) (records : List (List String)) :
    (records.map (boundsOf columns)).map (heldRow columns) = loadedRows columns records := by
  rw [List.map_map, loadedRows]
  refine List.map_congr_left fun cells _ => ?_
  rw [Function.comp_apply, heldRow, map_valueOfBound_boundsOf]

/-! ## Files -/

namespace Store

section Loading

variable {σ τ : Type} {store : Store σ τ} {view : View σ τ} {table file : String}
  {columns : List FileColumn} {rows : List Record} {bounds : List (List (Option Bound))}
  {bytes : List UInt8} {names : List String} {records : List (List String)} {s done : σ}

/-- Rows that are inserted one by one come after all others in their order. -/
theorem Keeps.insertAll (hkeeps : store.Keeps view) {begun filled : τ}
    (hfilling : view.filling begun table columns rows) (hfit : ∀ b ∈ bounds, FitColumns columns b)
    (h : store.insertAll table bounds begun = .ok filled) :
    view.filling filled table columns (rows ++ bounds.map (heldRow columns)) := by
  induction bounds generalizing rows begun with
  | nil =>
    obtain rfl := Except.ok.inj h
    rwa [List.map_nil, List.append_nil]
  | cons row bounds ih =>
    rw [List.forall_mem_cons] at hfit
    rw [Store.insertAll] at h
    cases hinsert : store.insert table row begun with
    | error message => simp [hinsert] at h
    | ok next =>
      simp only [hinsert] at h
      have hnext := ih (hkeeps.insert hfilling hfit.1 hinsert) hfit.2 h
      rwa [List.append_assoc, List.singleton_append, ← List.map_cons] at hnext

/-- Rows of values of the kinds of the columns are all inserted. -/
theorem Serves.exists_insertAll (hserves : store.Serves view) (hkeeps : store.Keeps view)
    {begun : τ} (hfilling : view.filling begun table columns rows)
    (hfit : ∀ b ∈ bounds, FitColumns columns b) :
    ∃ filled, store.insertAll table bounds begun = .ok filled := by
  induction bounds generalizing rows begun with
  | nil => exact ⟨begun, rfl⟩
  | cons row bounds ih =>
    rw [List.forall_mem_cons] at hfit
    obtain ⟨next, hinsert⟩ := hserves.insert hfilling hfit.1
    obtain ⟨filled, hfilled⟩ := ih (hkeeps.insert hfilling hfit.1 hinsert) hfit.2
    exact ⟨filled, by rw [Store.insertAll]; simp only [hinsert, hfilled]⟩

/-- The steps of loading leave the table with the rows of the file. -/
theorem Steps.holds {made : σ} {begun filled : τ} (hkeeps : store.Keeps view) (hs : view.usual s)
    (h : store.Steps table columns (records.map (boundsOf columns)) s made begun filled done) :
    view.holds done table columns (loadedRows columns records) := by
  have hempty := hkeeps.begin (hkeeps.create hs h.create) h.begin
  have hfilled := hkeeps.insertAll hempty (fun _ => fitColumns_of_mem) h.insert
  rw [List.nil_append, map_heldRow_boundsOf] at hfilled
  exact hkeeps.commit hfilled h.commit

/-- A file that is loaded is there with its columns and all its rows. -/
theorem Keeps.holds_of_load (hkeeps : store.Keeps view) (hs : view.usual s)
    (hcolumns : columnsOf file (.ok bytes) = .ok columns) {n : Nat}
    (h : store.load table file (.ok bytes) s = (.ok n, done)) :
    view.holds done table columns (loadedRows columns (recordsOf file bytes)) := by
  obtain ⟨names, records, hreads⟩ := Table.columns_isOk_iff.1 ⟨columns, hcolumns⟩
  obtain ⟨-, made, begun, filled, hsteps⟩ := (load_eq_ok_iff hreads hcolumns).1 h
  rw [hreads.recordsOf_eq]
  exact hsteps.holds hkeeps hs

/-- A file that can be read under a plain header is loaded where nothing keeps it out. -/
theorem Serves.exists_load (hserves : store.Serves view) (hkeeps : store.Keeps view)
    (hs : view.usual s) (hvacant : view.vacant s table) (hwhole : '\x00' ∉ table.toList)
    (hreads : (Table.ofBytes (delimiterOf (delimiter? file)) bytes).Reads names records)
    (hheader : IsPlainHeader names) :
    ∃ columns done, columnsOf file (.ok bytes) = .ok columns ∧ namesOf columns = names ∧
      store.load table file (.ok bytes) s = (.ok records.length, done) := by
  obtain ⟨columns, hcolumns⟩ := Table.columns_isOk_iff.2 ⟨names, records, hreads⟩
  have hnames := hheader.namesOf_eq hreads hcolumns
  obtain ⟨made, hcreate⟩ := hserves.create hs hvacant hwhole (hnames ▸ hheader)
  have hmade := hkeeps.create hs hcreate
  obtain ⟨begun, hbegin⟩ := hserves.begin hmade
  have hempty := hkeeps.begin hmade hbegin
  obtain ⟨filled, hinsert⟩ := hserves.exists_insertAll hkeeps hempty fun _ => fitColumns_of_mem
  obtain ⟨done, hcommit⟩ :=
    hserves.commit (hkeeps.insertAll hempty (fun _ => fitColumns_of_mem) hinsert)
  exact ⟨columns, done, hcolumns, hnames, (load_eq_ok_iff hreads hcolumns).2
    ⟨rfl, made, begun, filled, hcreate, hbegin, hinsert, hcommit⟩⟩

end Loading

end Store

/-! ## Databases -/

/-- A database with the temporary table of a file in it, which is the only one of its name. -/
inductive HasFile (table : String) (columns : List FileColumn) : Database → List Record → Prop
  | intro {db : Database} {rows : List Record} (haccessible : db.foreign = false)
      (hfree : db.table? ⟨some Sql.temporarySchema, table⟩ = none)
      (hdistinct : (namesOf columns).Pairwise fun a b => Text.sameWord a b = false)
      (hwidth : ∀ row ∈ rows, row.length = columns.length) :
      HasFile table columns (withFile table columns rows db) (rows.map (storedRow columns))

/-- How databases are seen. They have no settings. -/
def databaseView : View Database Transaction where
  usual _ := True
  vacant := HasRoomFor
  holds db table columns rows := HasFile table columns db rows
  filling t table columns rows := HasFile table columns t.now rows

section Databases

variable {table : String} {columns : List FileColumn} {rows : List Record}

theorem insert_of_hasFile {t : Transaction} {bounds : List (Option Bound)}
    (h : HasFile table columns t.now rows) (hfit : FitColumns columns bounds) :
    ∃ next, databaseStore.insert table bounds t = .ok next ∧
      HasFile table columns next.now (rows ++ [heldRow columns bounds]) := by
  obtain ⟨before, now⟩ := t
  cases h with
  | @intro db raw haccessible hfree hdistinct hwidth =>
    refine ⟨_, insert_databaseStore hfree haccessible hfit.length_eq.symm before raw, ?_⟩
    have hrows : raw.map (storedRow columns) ++ [heldRow columns bounds] =
        (raw ++ [bounds.map valueOfBound]).map (storedRow columns) := by
      rw [List.map_append]
      rfl
    rw [hrows]
    refine .intro haccessible hfree hdistinct fun row hrow => ?_
    rcases List.mem_append.1 hrow with hrow | hrow
    · exact hwidth row hrow
    · rw [List.mem_singleton.1 hrow, List.length_map, hfit.length_eq]

theorem keeps_databaseStore : databaseStore.Keeps databaseView where
  create := by
    intro table columns s made _ h
    obtain ⟨rfl, haccessible, hfree, hdistinct⟩ := create_databaseStore h
    exact .intro haccessible hfree hdistinct (by simp)
  begin := by
    intro table columns rows s begun hholds h
    obtain rfl := Except.ok.inj h
    exact hholds
  insert := by
    intro table columns rows bounds s next hfilling hfit h
    obtain ⟨found, hfound, hnext⟩ := insert_of_hasFile hfilling hfit
    obtain rfl := Except.ok.inj (hfound.symm.trans h)
    exact hnext
  commit := by
    intro table columns rows s done hfilling h
    obtain rfl := Except.ok.inj h
    exact hfilling

theorem serves_databaseStore : databaseStore.Serves databaseView where
  create := by
    intro table columns s _ hvacant hwhole hheader
    obtain ⟨made, hmade⟩ := exists_withTable hvacant hwhole hheader
    exact ⟨made, by simp only [databaseStore, hmade]; rfl⟩
  begin _ := ⟨_, rfl⟩
  insert hfilling hfit :=
    have ⟨next, hnext, _⟩ := insert_of_hasFile hfilling hfit
    ⟨next, hnext⟩
  commit _ := ⟨_, rfl⟩

end Databases

end QueryPipe.Dataset
