import QueryPipe.Proofs.Dataset.Showing
import QueryPipe.Proofs.Evaluation.FileQuery
import QueryPipe.Proofs.Output.Csv

/-!
# Evaluating all of a file

The chain that asks for all of a loaded file succeeds, whatever the file holds, as long as the
connection gives answers and memory can hold a batch. It writes a line for the header and a line for
each record.

* `IsShownWhole`: a file that can be shown whole.
* `IsShownWhole.exists_preparation`: everything is described.
* `IsShownWhole.exists_succeeds`: all rows are delivered.
* `IsShownWhole.run_eq`: the evaluation succeeds, and what it writes.
-/

namespace QueryPipe.Evaluation

open Command Dataset
open Sql (Inquiry Record Rules Value)

/-! ## Rows -/

/-- The values of a row, name after name, are the row. -/
theorem map_valueIn {columns : List FileColumn} {row : Record}
    (hwidth : row.length = columns.length) (hdistinct : (namesOf columns).Nodup) :
    (namesOf columns).map (valueIn columns row) = row := by
  refine List.ext_getElem (by simp [namesOf, hwidth]) fun k hk hk' => ?_
  have hlt : k < (namesOf columns).length := by simpa using hk
  rw [List.getElem_map, valueIn, hdistinct.idxOf_getElem, List.getElem?_eq_getElem hk']
  rfl

/-- All of a file is answered with its rows as they are. -/
theorem answerOn_ofAll (rules : Rules) {columns : List FileColumn} {rows : List Record}
    (hdistinct : (namesOf columns).Nodup) (hwidth : ∀ row ∈ rows, row.length = columns.length)
    (table name : String) (params : List Value) :
    (Inquiry.ofAll table name).answerOn rules columns params rows = rows := by
  have hkept : rows.filter (fun row =>
      Sql.Test.allHoldOn rules columns params row 0 (Inquiry.ofAll table name).tests) = rows :=
    List.filter_eq_self.2 fun row _ => rfl
  have hsorted : (Inquiry.ofAll table name).sortedOn columns rows = rows :=
    List.mergeSort_of_pairwise (List.pairwise_of_forall fun _ _ => rfl)
  have hshown : (Inquiry.ofAll table name).shownIn (namesOf columns) = namesOf columns := by
    simp [Inquiry.shownIn, Inquiry.ofAll]
  have hcut : (Inquiry.ofAll table name).cut rows = rows := rfl
  rw [Inquiry.answerOn, hkept, hsorted, hcut, hshown,
    List.map_congr_left fun row hrow => map_valueIn (hwidth row hrow) hdistinct, List.map_id']

/-- What is known of a file that is shown whole. -/
structure IsShownWhole (file : String) (columns : List FileColumn) : Prop where
  /-- Its name is quoted in a statement. -/
  quoted : reference file = quoteIdentifier file
  /-- Its name does not end a statement. -/
  whole : '\x00' ∉ file.toList
  /-- There is a column. -/
  named : columns ≠ []
  /-- No two columns have one name. -/
  distinct : (namesOf columns).Nodup

/-! ## Evaluations -/

section Evaluations

variable {δ τ : Type} {c : Connection δ} {rules : Rules} {view : View δ τ} {file : String}
  {columns : List FileColumn} {records : List (List String)} {e : δ} {batchSize : Nat}

theorem bindAll_nil (catalog : Catalog) : Parameter.bindAll catalog [] = .ok [] := rfl

/-- The columns of a file as they are described have its names. -/
theorem names_schema (columns : List FileColumn) :
    (Catalog.schema ((namesOf columns).map (describedAs columns))).map Field.name =
      namesOf columns := by
  rw [Catalog.schema, List.map_map, List.map_map]
  exact List.map_id'' (fun _ => rfl) _

theorem length_of_mem_loadedRows (columns : List FileColumn) (records : List (List String)) :
    ∀ row ∈ loadedRows columns records, row.length = columns.length := by
  intro row hrow
  obtain ⟨cells, -, rfl⟩ := List.mem_map.1 hrow
  exact length_storedRow columns cells

/-- Rows of a file are shown as they are stored. -/
theorem shows_loadedRows (hdistinct : (namesOf columns).Nodup) (records : List (List String)) :
    List.Forall₂ (Shows (Catalog.schema ((namesOf columns).map (describedAs columns))))
      (loadedRows columns records) ((loadedRows columns records).map (List.map cellOfValue)) := by
  rw [List.forall₂_map_right_iff, List.forall₂_same]
  intro row hrow
  obtain ⟨cells, -, rfl⟩ := List.mem_map.1 hrow
  have hshows := shows_values (fun name hname => hname) (holds_storedRow columns cells)
  rwa [map_valueIn (length_storedRow columns cells) hdistinct] at hshows

namespace IsShownWhole

variable (h : IsShownWhole file columns) (hanswers : c.Answers rules view)
  (hserves : c.Serves view) (hholds : view.holds e file columns (loadedRows columns records))
  (hroom : c.HasRoom batchSize)

include h hanswers hserves hholds

/-- The chain that asks for all of a file can be prepared. It asks for the columns of the file, and
then the file is there. -/
theorem exists_preparation :
    ∃ p : Preparation δ, p.Succeeds c.engine ⟨[filePlan file []]⟩ {} e ∧
      p.query.text = (Inquiry.ofAll file "t1").text ∧ p.params = [] ∧
      p.columns = (namesOf columns).map (describedAs columns) ∧
      view.holds p.ready file columns (loadedRows columns records) := by
  have hover : ∀ t ∈ ([] : List Tool), t.IsOver (namesOf columns) := nofun
  have hasks : (filePlan file []).Asks (Inquiry.ofAll file "t1") := asks_planOf hover h.quoted
  have hplain := (concerns_ofAll h.whole columns).plain
  obtain ⟨described, hsources, hdescribed⟩ := hserves.sources_eq hanswers h.named h.whole hholds
  obtain ⟨ready, hcolumns, hready⟩ := hserves.describe_eq hanswers h.named h.whole hdescribed
  obtain ⟨catalog, hcatalog⟩ :
      ∃ catalog : Catalog, (namesOf columns).map (describedAs columns) = catalog := ⟨_, rfl⟩
  rw [hcatalog] at hsources hcolumns ⊢
  exact ⟨⟨⟨(Inquiry.ofAll file "t1").text, []⟩, (Inquiry.ofAll file "t1").text, catalog, described,
    [], catalog, ready⟩, ⟨hasks.query_eq hplain, hasks.probe_eq hplain, hsources,
    bindAll_nil catalog, hcolumns⟩, rfl, rfl, rfl, hready⟩

include hroom

/-- Then all rows are delivered. -/
theorem exists_succeeds :
    ∃ p : Preparation δ, p.Succeeds c.engine ⟨[filePlan file []]⟩ {} e ∧
      p.columns.schema.map Field.name = namesOf columns ∧
      (p.delivery c.engine batchSize).ending = .ok () ∧
      (p.delivery c.engine batchSize).rows =
        (loadedRows columns records).map (List.map cellOfValue) := by
  obtain ⟨p, hp, htext, hparams, hcolumns, hready⟩ := h.exists_preparation hanswers hserves hholds
  have hnames : p.columns.schema.map Field.name = namesOf columns := by
    rw [hcolumns]
    exact names_schema columns
  have hsome : p.columns.schema ≠ [] := by
    intro hnil
    rw [hnil, List.map_nil, namesOf] at hnames
    exact h.named (List.map_eq_nil_iff.1 hnames.symm)
  -- all rows are fetched, and every one of them is shown
  have hdelivers := p.delivers hroom.effectiveSize
  have hproblem : (c.fetch p.query.text p.params p.ready).1.problem? = none := by
    rw [htext, hparams]
    exact hserves.fetch h.named h.whole hready
  have hfetched : (c.fetch p.query.text p.params p.ready).1.rows = loadedRows columns records := by
    rw [htext, hparams] at hproblem ⊢
    rw [hanswers.fetch [] (concerns_ofAll h.whole columns) hready hproblem]
    exact answerOn_ofAll rules h.distinct (length_of_mem_loadedRows columns records) _ _ _
  rw [hproblem, hfetched] at hdelivers
  have hrows := shows_loadedRows h.distinct records
  rw [← hcolumns] at hrows
  have hending := hdelivers.ending_eq_ok_iff.2 ⟨rfl, fun _ => hsome, _, hrows⟩
  have hunique : Relator.RightUnique (Shows p.columns.schema) := fun _ _ _ => Shows.unique
  exact ⟨p, hp, hnames, hending, hunique.forall₂ (hdelivers.shows_all hending) hrows⟩

/-- The evaluation succeeds, and writes a line for the header and one for each record. -/
theorem run_eq :
    ∃ summary text,
      (run c.engine (Sink.ofFormat .csv) batchSize ⟨[filePlan file []]⟩ {} e).result =
        .ok summary ∧
      (run c.engine (Sink.ofFormat .csv) batchSize ⟨[filePlan file []]⟩ {} e).sink =
        some (.csv ⟨text⟩) ∧
      summary.rows = records.length ∧
      Text.bytesOf text = Output.Csv.linesOf
        (namesOf columns :: records.map (shownRecord columns)) := by
  obtain ⟨p, hp, hnames, hending, hrows⟩ := h.exists_succeeds hanswers hserves hholds hroom
  have hopened : (Sink.ofFormat .csv).create p.columns.schema =
      .ok (.create .csv p.columns.schema) := rfl
  obtain ⟨supply, hrun⟩ := run_of_succeeds hp hopened
  obtain ⟨hresult, hsink⟩ := p.streamed_ofFormat c.engine .csv batchSize
    (Output.Writer.isOpen_create .csv p.columns.schema) supply
  obtain ⟨last, hflush, hlast⟩ := hsink hending
  have hcreate : Output.Writer.create .csv p.columns.schema =
      .csv ⟨Output.Csv.line (namesOf columns)⟩ := by
    rw [← hnames]
    rfl
  rw [hrows, hcreate, Output.Writer.foldl_addRow_csv] at hflush
  obtain rfl := Except.ok.inj hflush
  refine ⟨_, _, (hrun batchSize).1.trans ((hresult _).2 ⟨hending, rfl⟩),
    (hrun batchSize).2.trans hlast, ?_, ?_⟩
  · rw [Summary.rows_addAll_filter]
    have hlength := congrArg List.length hrows
    simpa [Delivery.rows, loadedRows] using hlength
  · have hshown : ((loadedRows columns records).map (List.map cellOfValue)).map
        (List.map (Cell.display "")) = records.map (shownRecord columns) := by
      rw [loadedRows, List.map_map, List.map_map]
      refine List.map_congr_left fun cells _ => ?_
      simp only [Function.comp_apply, List.map_map, shownRecord]
      rfl
    rw [Output.Csv.bytesOf_foldl_rowLine, hshown]
    rfl

end IsShownWhole

end Evaluations

end QueryPipe.Evaluation
