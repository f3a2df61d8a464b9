import QueryPipe.Proofs.Evaluation.Gathering
import QueryPipe.Evaluation.DatabaseEngine
import QueryPipe.Proofs.Evaluation.Protocol
import QueryPipe.Proofs.Evaluation.Repeating
import QueryPipe.Proofs.Sql.Describing

/-!
# The size of batches does not show

How many rows come at a time is left to whoever evaluates a chain. A writer that is given the rows
of a result in batches ends up with the same text as one that is given them one by one, and
whether an evaluation succeeds does not depend on the size either.

* `Writer.write_of_isOpen`: a batch is written row by row.
* `feed_ofFormat`: so all batches of a result are.
* `delivers_execute`: with room for a batch, what is fetched is delivered.
* `run_of_batchSize`: evaluations with batches of different sizes write the same.
* `batches_invisible`: what is delivered, and what is seen of it.
-/

namespace QueryPipe

namespace Output.Writer

/-! ## Rows one by one -/

/-- A writer after one more row. -/
def addRow : Writer → Row → Writer
  | .csv w, row => .csv ⟨w.text ++ Csv.rowLine row⟩
  | .columns w, row => .columns (w.keep Text.clusterCount row)
  | .parquet complete, _ => .parquet complete

/-- Whether a writer takes batches. -/
def isOpen : Writer → Bool
  | .parquet complete => !complete
  | _ => true

theorem isOpen_create (format : OutputFormat) (schema : Schema) :
    (create format schema).isOpen = true := by
  cases format <;> rfl

theorem isOpen_foldl_addRow (w : Writer) (rows : List Row) :
    (rows.foldl addRow w).isOpen = w.isOpen := by
  induction rows generalizing w with
  | nil => rfl
  | cons row rows ih =>
    rw [List.foldl_cons, ih]
    cases w <;> rfl

theorem foldl_addRow_csv (w : Csv.Writer) (rows : List Row) :
    rows.foldl addRow (.csv w) =
      .csv ⟨rows.foldl (fun text row => text ++ Csv.rowLine row) w.text⟩ := by
  induction rows generalizing w with
  | nil => rfl
  | cons row rows ih => exact ih ⟨w.text ++ Csv.rowLine row⟩

theorem foldl_addRow_columns (w : Columns.Writer) (rows : List Row) :
    rows.foldl addRow (.columns w) = .columns (rows.foldl (.keep Text.clusterCount) w) := by
  induction rows generalizing w with
  | nil => rfl
  | cons row rows ih => exact ih (w.keep Text.clusterCount row)

theorem foldl_addRow_parquet (complete : Bool) (rows : List Row) :
    rows.foldl addRow (.parquet complete) = .parquet complete := by
  induction rows with
  | nil => rfl
  | cons row rows ih => exact ih

/-- An open writer writes a batch row by row. -/
theorem write_of_isOpen {w : Writer} (h : w.isOpen = true) (b : Batch) :
    w.write b = .ok (b.rows.foldl addRow w) := by
  cases w with
  | csv w => rw [foldl_addRow_csv]; rfl
  | columns w => rw [foldl_addRow_columns]; rfl
  | parquet complete =>
    have hopen : complete = false := by simpa [isOpen] using h
    subst hopen
    rw [foldl_addRow_parquet]
    rfl

/-- An open writer can be flushed. -/
theorem exists_flush_of_isOpen {w : Writer} (h : w.isOpen = true) : ∃ last, w.flush = .ok last := by
  cases w with
  | csv w => exact ⟨_, rfl⟩
  | columns w => exact ⟨_, rfl⟩
  | parquet complete =>
    have hopen : complete = false := by simpa [isOpen] using h
    subst hopen
    exact ⟨_, rfl⟩

end Output.Writer

namespace Evaluation

open Output (Writer)

/-! ## Batches one by one -/

theorem Summary.rows_addAll (batches : List Batch) :
    (({} : Summary).addAll batches).rows = (batches.flatMap Batch.rows).length := by
  rw [addAll_empty, List.length_flatMap]
  rfl

/-- Batches without rows add none. -/
theorem flatMap_rows_filter (batches : List Batch) :
    (batches.filter hasRows).flatMap Batch.rows = batches.flatMap Batch.rows := by
  induction batches with
  | nil => rfl
  | cons b rest ih =>
    by_cases hb : b.rows = []
    · rw [List.filter_cons_of_neg (by simp [hasRows, hb]), ih, List.flatMap_cons, hb]
      rfl
    · rw [List.filter_cons_of_pos (by simp [hasRows, hb]), List.flatMap_cons, List.flatMap_cons, ih]

theorem Summary.rows_addAll_filter (batches : List Batch) :
    (({} : Summary).addAll (batches.filter hasRows)).rows =
      (batches.flatMap Batch.rows).length := by
  rw [rows_addAll, flatMap_rows_filter]

/-- Feeding the writer of a format writes the rows of all batches one by one. -/
theorem feed_ofFormat (format : OutputFormat) (summary : Summary) (batches : List Batch)
    {w : Writer} (hw : w.isOpen = true) :
    feed (Sink.ofFormat format) summary batches w =
      ⟨.ok (summary.addAll (batches.filter hasRows)), batches.filter hasRows,
        (batches.flatMap Batch.rows).foldl Writer.addRow w⟩ := by
  induction batches generalizing summary w with
  | nil => rfl
  | cons b rest ih =>
    rw [List.flatMap_cons, List.foldl_append]
    by_cases hb : b.rows = []
    · rw [feed, if_pos (by simp [hb]), List.filter_cons_of_neg (by simp [hasRows, hb]), hb]
      exact ih summary hw
    · have hnext := Writer.isOpen_foldl_addRow w b.rows
      rw [hw] at hnext
      rw [feed, if_neg (by simp [hb]), List.filter_cons_of_pos (by simp [hasRows, hb]),
        ← summary.addAll_add]
      simp only [Sink.ofFormat, Writer.write_of_isOpen hw]
      rw [← Sink.ofFormat, ih (summary.add b) hnext]

/-- Streaming to the writer of a format succeeds as the engine does, and writes its rows. -/
theorem stream_ofFormat {ε : Type} {engine : Engine ε} {sql : String} {params : List Bound}
    {schema : Schema} {batchSize : Nat} {e e' : ε} {d : Delivery}
    (h : engine.execute sql params schema batchSize e = (d, e')) (format : OutputFormat)
    {w : Writer} (hw : w.isOpen = true) (supply : AliasSupply) :
    let r := stream engine (Sink.ofFormat format) batchSize sql params schema e w supply
    (∀ summary, r.result = .ok summary ↔
      d.ending = .ok () ∧ summary = ({} : Summary).addAll (d.batches.filter hasRows)) ∧
    (d.ending = .ok () →
      ∃ last, (d.rows.foldl Writer.addRow w).flush = .ok last ∧ r.sink = some last) := by
  have hlast : (d.rows.foldl Writer.addRow w).isOpen = true := by
    rw [Writer.isOpen_foldl_addRow, hw]
  obtain ⟨last, hflush⟩ := Writer.exists_flush_of_isOpen hlast
  have hfeed := feed_ofFormat format {} d.batches hw
  cases hending : d.ending with
  | error fault => simp [stream, h, hfeed, hending]
  | ok _ =>
    have hsink : (Sink.ofFormat format).flush ((d.batches.flatMap Batch.rows).foldl
        Writer.addRow w) = .ok last := hflush
    simp only [stream, h, hfeed, hending, hsink, Except.ok.injEq, true_and]
    exact ⟨fun summary => eq_comm, fun _ => ⟨last, hflush, rfl⟩⟩

/-! ## Evaluations -/

section Evaluations

variable {ε σ : Type} {engine : Engine ε} {sink : Sink σ} {chain : Chain} {supply : AliasSupply}
  {e : ε} {p : Preparation ε} {state : σ}

/-- The statement of a preparation, run into an open sink. -/
def Preparation.streamed (p : Preparation ε) (engine : Engine ε) (sink : Sink σ) (batchSize : Nat)
    (state : σ) (supply : AliasSupply) : Report ε σ :=
  stream engine sink (effectiveSize batchSize) p.query.text p.params p.columns.schema p.ready state
    supply

theorem Preparation.streamed_ofFormat (p : Preparation ε) (engine : Engine ε)
    (format : OutputFormat) (batchSize : Nat) {w : Writer} (hw : w.isOpen = true)
    (supply : AliasSupply) :
    let r := p.streamed engine (Sink.ofFormat format) batchSize w supply
    let d := p.delivery engine batchSize
    (∀ summary, r.result = .ok summary ↔
      d.ending = .ok () ∧ summary = ({} : Summary).addAll (d.batches.filter hasRows)) ∧
    (d.ending = .ok () →
      ∃ last, (d.rows.foldl Writer.addRow w).flush = .ok last ∧ r.sink = some last) :=
  stream_ofFormat (Prod.eta _).symm format hw supply

theorem sink_settled (r : Report ε σ) : r.settled.sink = r.sink := by
  cases h : r.result <;> simp [Report.settled, h]

/-- Once the sink is open, an evaluation goes on as streaming does. -/
theorem run_of_succeeds (hp : p.Succeeds engine chain supply e)
    (hcreate : sink.create p.columns.schema = .ok state) :
    ∃ supply', ∀ batchSize,
      (run engine sink batchSize chain supply e).result =
        (p.streamed engine sink batchSize state supply').result ∧
      (run engine sink batchSize chain supply e).sink =
        (p.streamed engine sink batchSize state supply').sink := by
  have hrender : chain.render supply = (.ok p.query, (chain.render supply).2) := by
    rw [← hp.query_eq]
  refine ⟨(chain.render supply).2, fun batchSize => ?_⟩
  simp only [run, Report.result_settled, sink_settled]
  rw [attempt, hrender]
  simp only [hp.probe_eq, bindAndRun, hp.sources_eq, hp.params_eq, prepare, hp.columns_eq, hcreate]
  exact ⟨rfl, rfl⟩

/-- An evaluation that succeeds opened its sink. -/
theorem exists_preparation_of_run_ok {batchSize : Nat} {summary : Summary}
    (h : (run engine sink batchSize chain supply e).result = .ok summary) :
    ∃ (p : Preparation ε) (state : σ),
      p.Succeeds engine chain supply e ∧ sink.create p.columns.schema = .ok state := by
  have hcourse := run_course engine sink batchSize chain supply e
  simp only [h] at hcourse
  obtain ⟨-, handed, last, final, hexecutes, -⟩ := hcourse.flushed_of_ok
  exact (exists_executes_iff engine sink batchSize chain supply e).1 ⟨_, _, hexecutes⟩

end Evaluations

/-! ## Connections -/

section Connections

variable {δ : Type} {c : Connection δ} {sql : String} {schema : Schema} {batchSize : Nat}

/-- With room for a batch, what is fetched is delivered. -/
theorem delivers_execute (hroom : c.HasRoom batchSize) (params : List Bound) (e : δ) :
    Delivers sql schema (effectiveSize batchSize) (c.fetch sql params e).1.problem?
      (c.fetch sql params e).1.rows (c.execute sql params schema batchSize e).1 := by
  rw [Connection.execute_of_hasRoom hroom]
  exact delivery_delivers sql schema batchSize _

/-- A delivery that comes to its end had room for a batch. -/
theorem hasRoom_of_ending {params : List Bound} {e : δ}
    (h : (c.execute sql params schema batchSize e).1.ending = .ok ()) : c.HasRoom batchSize := by
  by_contra hroom
  rw [Connection.execute_of_not_hasRoom hroom] at h
  cases h

/-- A statement that is described without columns comes to no rows. -/
def Connection.ShowsColumns (c : Connection δ) : Prop :=
  ∀ sql e e', c.columns sql e = (.ok [], e') → ∀ params, (c.fetch sql params e').1.rows = []

/-- A statement runs under the schema that it is described with, and has batches that fit it. -/
theorem execute_ne_mismatch (hshows : c.ShowsColumns) {columns : Catalog} {e e' : δ}
    (h : c.describe sql e = (.ok columns, e')) (params : List Bound) (batchSize : Nat)
    (cause : Batch.Mismatch) :
    (c.execute sql params columns.schema batchSize e').1.ending ≠
      .error (.output (.mismatch cause)) := by
  intro hending
  by_cases hroom : c.HasRoom batchSize
  · obtain ⟨hschema, hrecords⟩ := (delivers_execute hroom params e').of_mismatch hending
    obtain rfl : columns = [] := List.map_eq_nil_iff.1 hschema
    obtain ⟨hcolumns, rfl⟩ := Prod.ext_iff.1 h
    exact hrecords (hshows sql e _ (Prod.ext (eq_ok_of_mapError_eq_ok hcolumns) rfl) params)
  · rw [Connection.execute_of_not_hasRoom hroom] at hending
    cases hending

end Connections

section Runs

variable {δ : Type} {c : Connection δ} {alike : δ → δ → Prop} {format : OutputFormat}
  {chain : Chain} {supply : AliasSupply} {e e' : δ} {m n : Nat}

theorem Connection.HasRoom.effectiveSize (h : c.HasRoom n) :
    c.HasRoom (Evaluation.effectiveSize n) := by
  have hsame : Evaluation.effectiveSize (Evaluation.effectiveSize n) = Evaluation.effectiveSize n :=
    Nat.max_eq_left (Nat.le_max_right n 1)
  rwa [HasRoom, hsame]

/-- What is delivered of the rows of a preparation, with room for a batch. -/
theorem Preparation.delivers (p : Preparation δ) (hroom : c.HasRoom (effectiveSize n)) :
    Delivers p.query.text p.columns.schema (effectiveSize (effectiveSize n))
      (c.fetch p.query.text p.params p.ready).1.problem?
      (c.fetch p.query.text p.params p.ready).1.rows (p.delivery c.engine n) :=
  delivers_execute hroom p.params p.ready

/-- Two deliveries of the same rows in batches of different sizes come to their ends together, and
then they have delivered the same. -/
theorem Delivers.resized {size size' : Nat} {problem? : Option String} {records : List Sql.Record}
    {d d' : Delivery} {sql : String} {schema : Schema}
    (h : Delivers sql schema size problem? records d)
    (h' : Delivers sql schema size' problem? records d') (hending : d.ending = .ok ()) :
    d'.ending = .ok () ∧ d'.rows = d.rows := by
  have hending' : d'.ending = .ok () := h'.ending_eq_ok_iff.2 (h.ending_eq_ok_iff.1 hending)
  exact ⟨hending', h'.rows_unique h hending' hending⟩

/-- A chain that is answered alike and succeeds with batches of one size succeeds with batches of
any other that memory can hold. As many rows are written, and the writer is the same in the end. -/
theorem run_of_batchSize {summary : Summary} (hrepeats : c.RepeatsChain alike chain supply)
    (halike : alike e e') (hroom : c.HasRoom n)
    (h : (run c.engine (Sink.ofFormat format) m chain supply e).result = .ok summary) :
    ∃ summary' w,
      (run c.engine (Sink.ofFormat format) n chain supply e').result = .ok summary' ∧
      summary'.rows = summary.rows ∧
      (run c.engine (Sink.ofFormat format) m chain supply e).sink = some w ∧
      (run c.engine (Sink.ofFormat format) n chain supply e').sink = some w := by
  obtain ⟨p, state, hp, hcreate⟩ := exists_preparation_of_run_ok h
  obtain ⟨described, ready, hready, hp'⟩ := hp.again hrepeats halike
  obtain ⟨supply', hrun⟩ := run_of_succeeds hp hcreate
  obtain ⟨supply'', hrun'⟩ := run_of_succeeds hp' hcreate
  have hopen : state.isOpen = true := by
    rw [← Except.ok.inj hcreate]
    exact Writer.isOpen_create format p.columns.schema
  obtain ⟨hresult, hsink⟩ := p.streamed_ofFormat c.engine format m hopen supply'
  obtain ⟨hresult', hsink'⟩ :=
    Preparation.streamed_ofFormat { p with described := described, ready := ready } c.engine format
      n hopen supply''
  rw [(hrun m).1, hresult] at h
  obtain ⟨hending, rfl⟩ := h
  -- The same rows are fetched both times, and what becomes of them does not depend on the size.
  have hdelivers := p.delivers (hasRoom_of_ending hending)
  have hdelivers' :=
    Preparation.delivers { p with described := described, ready := ready } hroom.effectiveSize
  rw [← (hrepeats p.query p.probe hp.query_eq hp.probe_eq).rows p.params _ _ hready] at hdelivers'
  obtain ⟨hending', hrows⟩ := hdelivers.resized hdelivers' hending
  obtain ⟨last, hflush, hlast⟩ := hsink hending
  obtain ⟨last', hflush', hlast'⟩ := hsink' hending'
  rw [hrows, hflush] at hflush'
  obtain rfl := Except.ok.inj hflush'
  refine ⟨_, last, (hrun' n).1.trans ((hresult' _).2 ⟨hending', rfl⟩), ?_, (hrun m).2.trans hlast,
    (hrun' n).2.trans hlast'⟩
  rw [Summary.rows_addAll_filter, Summary.rows_addAll_filter]
  exact congrArg List.length hrows

/-- The size of batches does not show. Rows are delivered in order, in full batches but for the
last; each has a value for every row in every column of a schema that the statement was described
with. What is written in the end depends on the rows alone, as long as memory can hold a batch. -/
theorem batches_invisible (c : Connection δ) :
    (∀ sql params schema batchSize e, c.HasRoom batchSize →
      Delivers sql schema (effectiveSize batchSize) (c.fetch sql params e).1.problem?
          (c.fetch sql params e).1.rows (c.execute sql params schema batchSize e).1 ∧
        ∀ row ∈ (c.execute sql params schema batchSize e).1.rows, Row.ofCells schema row = row) ∧
    (c.ShowsColumns → ∀ sql columns e e', c.describe sql e = (.ok columns, e') →
      ∀ params batchSize cause, (c.execute sql params columns.schema batchSize e').1.ending ≠
        .error (.output (.mismatch cause))) ∧
    (∀ alike format chain supply e e' m n summary, c.RepeatsChain alike chain supply →
      alike e e' → c.HasRoom n →
      (run c.engine (Sink.ofFormat format) m chain supply e).result = .ok summary →
      ∃ summary' w,
        (run c.engine (Sink.ofFormat format) n chain supply e').result = .ok summary' ∧
        summary'.rows = summary.rows ∧
        (run c.engine (Sink.ofFormat format) m chain supply e).sink = some w ∧
        (run c.engine (Sink.ofFormat format) n chain supply e').sink = some w) := by
  refine ⟨?_, ?_, ?_⟩
  · intro sql params schema batchSize e hroom
    have hdelivers := @delivers_execute _ c sql schema batchSize hroom params e
    exact ⟨hdelivers, hdelivers.ofCells_eq⟩
  · intro hshows sql columns e e' h params batchSize cause
    exact execute_ne_mismatch hshows h params batchSize cause
  · intro alike format chain supply e e' m n summary hrepeats halike hroom h
    exact run_of_batchSize hrepeats halike hroom h

end Runs

/-! ## A table of towns -/

section Towns

theorem showsColumns_databaseConnection : databaseConnection.ShowsColumns := by
  intro sql db db' h params
  rw [columns_databaseConnection, Prod.mk.injEq] at h
  have hnone := Sql.rows_of_describeScript_nil (eq_ok_of_mapError_eq_ok h.1)
  rw [fetch_databaseConnection, rows_fetchedOf]
  exact hnone (params.map valueOf) db'

/-- A database with a table of three towns. -/
def towns : Sql.Database where
  tables := [⟨"main", "town",
    [{ name := "name", type? := some "TEXT" }, { name := "souls", type? := some "INTEGER" }],
    [⟨1, [.text "Ur", .whole 7]⟩, ⟨2, [.text "Kish", .null]⟩, ⟨3, [.text "Mari", .whole 12]⟩]⟩]

/-- Everything of the towns. -/
def allTowns : Chain := ⟨[{ select := some (.allOf "town") }]⟩

/-- What the towns look like in each format. -/
def townsText : OutputFormat → String
  | .csv => "name,souls\nUr,7\nKish,\nMari,12\n"
  | _ => "name souls\nUr   7\nKish NULL\nMari 12\n"

/-- The towns come in two batches of two, and are written alike in batches of any size that memory
can hold, as text and as aligned columns; all batches fit the schema. -/
theorem batches_invisible_towns :
    (∀ format ∈ [OutputFormat.csv, .column],
      (run databaseConnection.engine (Sink.ofFormat format) 2 allTowns {} towns).result =
        .ok ⟨2, 3⟩) ∧
      databaseConnection.describe "SELECT * FROM town AS t1" towns =
        (.ok [⟨"name", "TEXT"⟩, ⟨"souls", "INTEGER"⟩], towns) ∧
      databaseConnection.HasRoom 1000000 ∧
      (∀ format ∈ [OutputFormat.csv, .column], ∀ n, databaseConnection.HasRoom n →
        ∃ summary w,
          (run databaseConnection.engine (Sink.ofFormat format) n allTowns {} towns).result =
            .ok summary ∧
          summary.rows = 3 ∧
          (run databaseConnection.engine (Sink.ofFormat format) n allTowns {} towns).sink = some w ∧
          w.text? = some (townsText format)) ∧
      ∀ n cause, (databaseConnection.execute "SELECT * FROM town AS t1" []
          (Catalog.schema [⟨"name", "TEXT"⟩, ⟨"souls", "INTEGER"⟩]) n towns).1.ending ≠
        .error (.output (.mismatch cause)) := by
  have hrun : ∀ format ∈ [OutputFormat.csv, .column],
      (run databaseConnection.engine (Sink.ofFormat format) 2 allTowns {} towns).result =
        .ok ⟨2, 3⟩ := by decide +kernel
  have htext : ∀ format ∈ [OutputFormat.csv, .column],
      (run databaseConnection.engine (Sink.ofFormat format) 2 allTowns {} towns).sink.bind
        Writer.text? = some (townsText format) := by decide +kernel
  have hcolumns : databaseConnection.describe "SELECT * FROM town AS t1" towns =
      (.ok [⟨"name", "TEXT"⟩, ⟨"souls", "INTEGER"⟩], towns) :=
    Prod.ext (by decide +kernel) rfl
  obtain ⟨-, hfits, hruns⟩ := batches_invisible databaseConnection
  refine ⟨hrun, hcolumns, by decide +kernel, fun format hformat n hroom => ?_,
    fun n => hfits showsColumns_databaseConnection _ _ towns _ hcolumns [] n⟩
  obtain ⟨summary, w, hresult, hrows, hw, hw'⟩ :=
    hruns Eq format allTowns {} towns towns 2 n _
      (fun query probe _ _ => databaseConnection.repeats_eq query.text probe) rfl hroom
      (hrun format hformat)
  have hwritten := htext format hformat
  rw [hw] at hwritten
  exact ⟨summary, w, hresult, hrows, hw', hwritten⟩

end Towns

end Evaluation

end QueryPipe
