import QueryPipe.Evaluation.DatabaseEngine
import QueryPipe.Proofs.Dataset.Keeping
import QueryPipe.Proofs.Dataset.Question
import QueryPipe.Proofs.Query.Asking
import QueryPipe.Proofs.Sql.Accepting

/-!
# What a connection answers

A connection comes from a library, and what is relied on of it is stated here: that it answers a
question about a file which it holds in the documented order, from the rows over the tests, the keys
and the limit to the columns, and describes the columns of the answer as the file has them. That
much is about answers that are given. That any is given is relied on only for the question for all of
a file.

* `Dataset.describedAs`: a column of a file as it is described.
* `Connection.Answers`, `Connection.Serves`: what a connection answers, and where it does.
* `Connection.Answers.describe_eq`, `Connection.Answers.sources_eq`: what an engine makes of it.
* `answers_databaseConnection`, `serves_databaseConnection`: databases obey the laws.
-/

namespace QueryPipe

open Dataset (ColumnKind FileColumn HasFile View databaseView kindOf? namesOf tableOf withFile)
open Sql (Inquiry Record Rules Value)

/-! ## Catalogs -/

/-- A column of a file as it is described. -/
def Dataset.describedAs (columns : List FileColumn) (name : String) : ColumnDescription :=
  ⟨name, ((kindOf? columns name).map ColumnKind.sqlName).getD ""⟩

section Catalogs

variable {columns : List FileColumn} {rows : List Record} {file name : String}
  {kind : ColumnKind} {q : Inquiry}

theorem describedAs_of_kindOf? (h : kindOf? columns name = some kind) :
    Dataset.describedAs columns name = ⟨name, kind.sqlName⟩ := by
  rw [Dataset.describedAs, h]
  rfl

theorem typeOf_columnOf (file : String) (rows : List Record) (h : kindOf? columns name = some kind)
    (first? : Option Value) :
    Sql.typeOf ((tableOf file columns rows).columnOf name) first? = kind.sqlName := by
  have hknown : Sql.kindOfType? kind.sqlName = some kind.sqlName := by
    cases kind <;> decide +kernel
  rw [Dataset.columnOf_tableOf h, Sql.typeOf]
  simp only [Option.bind_some, hknown]

/-- The columns of a question about a file are described as the file has them. -/
theorem mapIdx_answerColumns (h : q.Concerns columns) (first : Record) :
    ((q.answerColumns (tableOf file columns rows)).mapIdx fun i c =>
        (⟨c.name, Sql.typeOf c first[i]?⟩ : ColumnDescription)) =
      (q.shownIn (namesOf columns)).map (Dataset.describedAs columns) := by
  rw [Inquiry.answerColumns, Dataset.shownNames_tableOf]
  refine List.ext_getElem (by simp) fun i hi hi' => ?_
  have hlt : i < (q.shownIn (namesOf columns)).length := by simpa using hi'
  obtain ⟨kind, hkind⟩ :=
    Dataset.exists_kindOf? (h.shownIn_subset _ (List.getElem_mem hlt))
  have htype := typeOf_columnOf file rows hkind first[i]?
  have hcolumn : (tableOf file columns rows).columnOf _ = _ := Dataset.columnOf_tableOf hkind
  rw [List.getElem_mapIdx, List.getElem_map, List.getElem_map, htype,
    describedAs_of_kindOf? hkind, hcolumn]

/-- The question for the columns of a row source is about the file too, and shows all of it. -/
theorem Sql.Inquiry.Concerns.probe (h : q.Concerns columns) : q.probe.Concerns columns where
  plain := Inquiry.isPlain_probe h.plain
  called := h.called
  whole := h.whole
  shown name hname := by
    refine h.shown name ?_
    rw [Inquiry.probe] at hname
    split at hname
    · exact hname
    · simpa using hname
  tests test htest := by cases htest
  keys name hname := by cases hname

theorem mem_shownIn_probe (q : Inquiry) {names : List String} (hname : name ∈ names) :
    name ∈ q.probe.shownIn names := by
  refine List.mem_flatMap.2 ⟨none, ?_, hname⟩
  rw [Inquiry.probe]
  split
  · assumption
  · simp

/-- All of a file is asked for in a question about it. -/
theorem concerns_ofAll {table : String} (hwhole : '\x00' ∉ table.toList)
    (columns : List FileColumn) : (Inquiry.ofAll table "t1").Concerns columns where
  plain := Inquiry.isPlain_ofAll table ⟨isWord_keyword (by decide), by decide +kernel⟩
  called := rfl
  whole := hwhole
  shown name hname := by cases List.mem_singleton.1 hname
  tests test htest := by cases htest
  keys name hname := by cases hname

end Catalogs

namespace Evaluation

/-! ## Laws -/

namespace Connection

variable {δ τ : Type}

/-- How a connection answers questions about a file that is held: as documented. -/
structure Answers (c : Connection δ) (rules : Rules) (view : View δ τ) : Prop where
  /-- A question is described without a change, and by the columns that it shows. -/
  describe : ∀ {q : Inquiry} {columns rows e}, q.Concerns columns →
    view.holds e q.table columns rows →
      view.holds (c.columns q.text e).2 q.table columns rows ∧
      ∀ found, (c.columns q.text e).1 = .ok found →
        found = (q.shownIn (namesOf columns)).map (Dataset.describedAs columns)
  /-- Once all rows are fetched, they are those of the answer. -/
  fetch : ∀ {q : Inquiry} {columns rows e} params, q.Concerns columns →
    view.holds e q.table columns rows → (c.fetch q.text params e).1.problem? = none →
      (c.fetch q.text params e).1.rows = q.answerOn rules columns (params.map valueOf) rows

/-- Where a connection gives answers: to the question for all of a file that has a column. -/
structure Serves (c : Connection δ) (view : View δ τ) : Prop where
  /-- The question is described. -/
  describe : ∀ {table columns rows e}, columns ≠ [] → '\x00' ∉ table.toList →
    view.holds e table columns rows →
      ∃ found, (c.columns (Inquiry.ofAll table "t1").text e).1 = .ok found
  /-- All rows are fetched. -/
  fetch : ∀ {table columns rows e}, columns ≠ [] → '\x00' ∉ table.toList →
    view.holds e table columns rows →
      (c.fetch (Inquiry.ofAll table "t1").text [] e).1.problem? = none

/-! ## Engines -/

section Engines

variable {c : Connection δ} {rules : Rules} {view : View δ τ} {columns : List FileColumn}
  {rows : List Record} {q : Inquiry} {e e' : δ} {found : Catalog}

/-- A column of a file has a type, so that no value is asked for. -/
theorem sampled_describedAs {name : String} (hname : name ∈ namesOf columns) (sql : String)
    (e : δ) :
    c.sampled sql (Dataset.describedAs columns name) e = (Dataset.describedAs columns name, e) := by
  obtain ⟨kind, hkind⟩ := Dataset.exists_kindOf? hname
  have hknown : Text.sameWord kind.sqlName "NULL" = false := by
    cases kind <;> decide +kernel
  rw [describedAs_of_kindOf? hkind, sampled]
  simp only [hknown, Bool.false_eq_true, if_false]

theorem sampledAll_describedAs {names : List String} (h : ∀ name ∈ names, name ∈ namesOf columns)
    (sql : String) (e : δ) :
    c.sampledAll sql (names.map (Dataset.describedAs columns)) e =
      (names.map (Dataset.describedAs columns), e) := by
  induction names with
  | nil => rfl
  | cons name names ih =>
    rw [List.forall_mem_cons] at h
    rw [List.map_cons, sampledAll, sampled_describedAs h.1, ih h.2]

/-- A question that is described leaves the file as it is, and shows its columns. -/
theorem Answers.describe_eq (h : c.Answers rules view) (hq : q.Concerns columns)
    (hholds : view.holds e q.table columns rows) (hfound : c.describe q.text e = (.ok found, e')) :
    view.holds e' q.table columns rows ∧
      found = (q.shownIn (namesOf columns)).map (Dataset.describedAs columns) := by
  obtain ⟨hkept, hshown⟩ := h.describe hq hholds
  obtain ⟨hcolumns, rfl⟩ := Prod.mk.inj hfound
  exact ⟨hkept, hshown found (eq_ok_of_mapError_eq_ok hcolumns)⟩

/-- So do row sources: their columns have types already. -/
theorem Answers.sources_eq (h : c.Answers rules view) (hq : q.Concerns columns)
    (hholds : view.holds e q.table columns rows)
    (hfound : c.describeSources q.text e = (.ok found, e')) :
    view.holds e' q.table columns rows ∧
      found = (q.shownIn (namesOf columns)).map (Dataset.describedAs columns) := by
  rw [describeSources] at hfound
  rcases hdescribed : c.describe q.text e with ⟨fault | catalog, next⟩
  · rw [hdescribed] at hfound
    cases hfound
  · obtain ⟨hkept, rfl⟩ := h.describe_eq hq hholds hdescribed
    simp only [hdescribed, sampledAll_describedAs hq.shownIn_subset] at hfound
    cases hfound
    exact ⟨hkept, rfl⟩

/-- All of a file is described. -/
theorem Serves.describe_eq (hserves : c.Serves view) (h : c.Answers rules view) {table : String}
    (hsome : columns ≠ []) (hwhole : '\x00' ∉ table.toList)
    (hholds : view.holds e table columns rows) :
    ∃ e', c.describe (Inquiry.ofAll table "t1").text e =
        (.ok ((namesOf columns).map (Dataset.describedAs columns)), e') ∧
      view.holds e' table columns rows := by
  have hq := concerns_ofAll hwhole columns
  obtain ⟨found, hfound⟩ := hserves.describe hsome hwhole hholds
  obtain ⟨hkept, hshown⟩ := h.describe hq hholds
  have hnames : (Inquiry.ofAll table "t1").shownIn (namesOf columns) = namesOf columns := by
    simp [Inquiry.shownIn, Inquiry.ofAll]
  rw [hnames] at hshown
  exact ⟨_, Prod.ext (by rw [Connection.describe, hfound, hshown found hfound]; rfl) rfl, hkept⟩

/-- So is all of it as a row source. -/
theorem Serves.sources_eq (hserves : c.Serves view) (h : c.Answers rules view) {table : String}
    (hsome : columns ≠ []) (hwhole : '\x00' ∉ table.toList)
    (hholds : view.holds e table columns rows) :
    ∃ e', c.describeSources (Inquiry.ofAll table "t1").text e =
        (.ok ((namesOf columns).map (Dataset.describedAs columns)), e') ∧
      view.holds e' table columns rows := by
  obtain ⟨e', hdescribed, hkept⟩ := hserves.describe_eq h hsome hwhole hholds
  refine ⟨e', ?_, hkept⟩
  rw [describeSources, hdescribed]
  simp only [sampledAll_describedAs fun name hname => hname]

end Engines

end Connection

/-! ## Databases -/

section Databases

variable {q : Inquiry} {columns : List FileColumn} {rows : List Record} {db : Sql.Database}

/-- A file that a database holds is found as its table. -/
theorem exists_table_of_hasFile {table : String} (h : HasFile table columns db rows) :
    ∃ raw, rows = raw.map (Dataset.storedRow columns) ∧
      (∀ row ∈ raw, row.length = columns.length) ∧ db.foreign = false ∧
      db.table? ⟨none, table⟩ = some (tableOf table columns raw) ∧
      (tableOf table columns raw).HasDistinctNames := by
  cases h with
  | @intro base raw haccessible hfree hdistinct hwidth =>
    exact ⟨raw, rfl, hwidth, haccessible,
      Dataset.table?_of_temporary (Dataset.table?_withFile hfree columns raw),
      Dataset.hasDistinctNames_tableOf hdistinct⟩

theorem names_tableOf_ne_nil (hsome : columns ≠ []) (table : String) (rows : List Record) :
    (tableOf table columns rows).names ≠ [] := by
  rw [Dataset.names_tableOf, namesOf]
  simpa using hsome

/-- The words of a question about a file are read as the question. -/
theorem fronts_of_concerns (h : q.Concerns columns) :
    Sql.Fronts q.text.toList q.lexemes ∧ Text.trim q.text = q.text := by
  have hname : EndsSolid q.name := by
    rw [h.called]
    exact endsSolid_t1
  exact ⟨(Inquiry.isClause_text h.plain hname h.whole).fronts,
    Inquiry.trim_text h.plain hname h.whole⟩

theorem answers_databaseConnection :
    databaseConnection.Answers Rules.ofDatabase databaseView where
  describe := by
    intro q columns rows db hq hholds
    refine ⟨hholds, fun found hfound => ?_⟩
    obtain ⟨raw, -, -, haccessible, htable, hdistinct⟩ := exists_table_of_hasFile hholds
    obtain ⟨hfronts, htrim⟩ := fronts_of_concerns hq
    rw [columns_databaseConnection, htrim] at hfound
    rw [Sql.describeScript_question hfronts hq.plain haccessible htable hdistinct
      (Dataset.isAbout_tableOf hq q.table raw) (eq_ok_of_mapError_eq_ok hfound)]
    exact mapIdx_answerColumns hq _
  fetch := by
    intro q columns rows db params hq hholds hproblem
    obtain ⟨raw, rfl, hwidth, haccessible, htable, hdistinct⟩ := exists_table_of_hasFile hholds
    obtain ⟨hfronts, htrim⟩ := fronts_of_concerns hq
    rw [fetch_databaseConnection, htrim] at hproblem ⊢
    have hrun := Sql.runScript_question hfronts hq.plain haccessible htable hdistinct
      (Dataset.isAbout_tableOf hq q.table raw) (params.map valueOf)
      (Option.map_eq_none_iff.1 hproblem)
    rw [rows_fetchedOf, hrun, Dataset.answer_tableOf hq hwidth]

theorem serves_databaseConnection : databaseConnection.Serves databaseView where
  describe := by
    intro table columns rows db hsome hwhole hholds
    obtain ⟨raw, -, -, haccessible, htable, hdistinct⟩ := exists_table_of_hasFile hholds
    have hq := concerns_ofAll hwhole columns
    obtain ⟨hfronts, htrim⟩ := fronts_of_concerns hq
    obtain ⟨found, hfound⟩ := Sql.describeScript_ofAll hfronts hq.plain.name haccessible htable
      hdistinct (names_tableOf_ne_nil hsome table raw)
    refine ⟨found, ?_⟩
    rw [columns_databaseConnection, htrim, hfound]
    rfl
  fetch := by
    intro table columns rows db hsome hwhole hholds
    obtain ⟨raw, -, -, haccessible, htable, hdistinct⟩ := exists_table_of_hasFile hholds
    have hq := concerns_ofAll hwhole columns
    obtain ⟨hfronts, htrim⟩ := fronts_of_concerns hq
    rw [fetch_databaseConnection, htrim, Sql.runScript_ofAll hfronts hq.plain.name haccessible
      htable hdistinct (names_tableOf_ne_nil hsome table raw)]
    rfl

end Databases

end Evaluation

end QueryPipe
