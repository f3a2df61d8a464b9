import QueryPipe.Proofs.Command.RowTools
import QueryPipe.Proofs.Evaluation.Answering
import QueryPipe.Proofs.Evaluation.Batching
import QueryPipe.Proofs.Typing.Lookup

/-!
# Evaluating tools over a file

Tools over a loaded file ask one question about it. The columns of its answer have the types that
the file has, its parameters are the values that the tools compare with, and the rows that are
delivered are those that the tools leave. That holds of any connection that answers questions as
documented.

* `lookup_describedAs`: the type that a column of the file is found under.
* `forall₂_operands`: what is bound.
* `exists_delivered_of_run_ok`: what an evaluation that succeeds has delivered.
* `IsFilePipeline.answersTools_run`: so it answers the tools.
-/

namespace QueryPipe

open Command Dataset
open Sql (Inquiry Record Rules Value)

/-! ## Catalogs -/

section Catalogs

variable {columns : List FileColumn} {name : String} {kind : ColumnKind}

theorem point_notMem (h : Sql.IsPlainName name) : '.' ∉ name.toList := by
  obtain ⟨c, rest, hchars, hstart, -, hrest⟩ := h.word
  rw [hchars]
  intro hmem
  rcases List.mem_cons.1 hmem with rfl | hmem
  · exact absurd hstart (by decide)
  · exact absurd (hrest _ hmem) (by decide)

/-- A plain name is looked up in a catalog of columns of the file. -/
theorem lookup_describedAs {names : List String} (hplain : Sql.IsPlainName name)
    (hname : name ∈ names) (hkind : kindOf? columns name = some kind) :
    Catalog.lookup (names.map (describedAs columns)) name = some kind.sqlName := by
  have hdescribed := describedAs_of_kindOf? hkind
  have hmem : (⟨name, kind.sqlName⟩ : ColumnDescription) ∈ names.map (describedAs columns) :=
    hdescribed ▸ List.mem_map_of_mem hname
  rw [Catalog.lookup_plain _ (point_notMem hplain)]
  refine Catalog.declared?_of_mem hmem fun other hother hsame => ?_
  obtain ⟨found, -, rfl⟩ := List.mem_map.1 hother
  obtain rfl : found = name := hsame
  rw [hdescribed]

end Catalogs

/-! ## Parameters -/

section Parameters

variable {columns : List FileColumn} {names : List String}

/-- An untyped literal is bound as the kind of its column says. -/
theorem literalValue?_of_bindAs {kind : ColumnKind} {column s : String} {b : Bound}
    (hnull : (Literal.untyped s).isNull = false)
    (h : Parameter.bindAs kind.sqlName column s = .ok b) :
    literalValue? kind (.untyped s) = some (Evaluation.valueOf b) := by
  have hinteger : TypeFamily.ofDeclared (ColumnKind.sqlName .integer) = .integer := by
    decide +kernel
  have hreal : TypeFamily.ofDeclared (ColumnKind.sqlName .real) = .float := by decide +kernel
  have htext : TypeFamily.ofDeclared (ColumnKind.sqlName .text) = .text := by decide +kernel
  simp only [literalValue?, hnull, Bool.false_eq_true, if_false]
  cases kind with
  | integer =>
    delta Parameter.bindAs at h
    simp only [hinteger] at h
    cases hn : Numeral.Whole.readInt64 (Text.trim s) with
    | error p => simp [hn] at h
    | ok n =>
      simp only [hn, Except.ok.injEq] at h
      subst h
      rfl
  | real =>
    delta Parameter.bindAs at h
    simp only [hreal] at h
    cases hx : Numeral.Decimal.readText (Text.trim s) with
    | error p => simp [hx] at h
    | ok x =>
      simp only [hx, Except.ok.injEq] at h
      subst h
      rfl
  | text =>
    delta Parameter.bindAs at h
    simp only [htext, Except.ok.injEq] at h
    subst h
    rfl

theorem operand?_of_bind {c : Condition} {b : Bound} (hplain : Sql.IsPlainName c.column)
    (hcolumn : c.column ∈ namesOf columns) (hname : c.column ∈ names)
    (hnull : c.value.isNull = false)
    (hb : Parameter.bind (names.map (describedAs columns)) ⟨c.column, c.value⟩ = .ok b) :
    operand? columns c = some (Evaluation.valueOf b) := by
  obtain ⟨kind, hkind⟩ := exists_kindOf? hcolumn
  have hlookup := lookup_describedAs hplain hname hkind
  rw [operand?, hkind, Option.bind_some]
  cases hvalue : c.value with
  | whole n =>
    rw [Parameter.bind, hvalue] at hb
    obtain rfl := Except.ok.inj hb
    rfl
  | text s =>
    rw [Parameter.bind, hvalue] at hb
    obtain rfl := Except.ok.inj hb
    rfl
  | untyped s =>
    rw [hvalue] at hnull
    rw [Parameter.bind, hvalue] at hb
    simp only [hlookup] at hb
    exact literalValue?_of_bindAs hnull hb

/-- Parameters are bound to what the conditions compare with. -/
theorem forall₂_operands {conditions : List Condition}
    (h : ∀ c ∈ conditions, Sql.IsPlainName c.column ∧ c.column ∈ namesOf columns ∧
      c.column ∈ names)
    {bounds : List Bound}
    (hbounds : Parameter.bindAll (names.map (describedAs columns))
      (conditions.filterMap Condition.parameter?) = .ok bounds) :
    List.Forall₂ (fun c v => operand? columns c = some v)
      (conditions.filter fun c => !c.value.isNull) (bounds.map Evaluation.valueOf) := by
  induction conditions generalizing bounds with
  | nil =>
    obtain rfl := Except.ok.inj hbounds
    exact .nil
  | cons c conditions ih =>
    rw [List.forall_mem_cons] at h
    obtain ⟨⟨hplain, hcolumn, hname⟩, hrest⟩ := h
    cases hnull : c.value.isNull with
    | true =>
      rw [List.filterMap_cons_none (by simp [Condition.parameter?, hnull])] at hbounds
      rw [List.filter_cons_of_neg (by simp [hnull])]
      exact ih hrest hbounds
    | false =>
      have hparameter : c.parameter? = some ⟨c.column, c.value⟩ := by
        simp [Condition.parameter?, hnull]
      rw [List.filterMap_cons_some hparameter, Parameter.bindAll] at hbounds
      rw [List.filter_cons_of_pos (by simp [hnull])]
      cases hb : Parameter.bind (names.map (describedAs columns)) ⟨c.column, c.value⟩ with
      | error fault => simp [hb] at hbounds
      | ok b =>
        rw [hb] at hbounds
        obtain ⟨more, hmore, rfl⟩ := exists_of_map_eq_ok hbounds
        exact .cons (operand?_of_bind hplain hcolumn hname hnull hb) (ih hrest hmore)

end Parameters

/-! ## Rows that are shown -/

section Shown

variable {columns : List FileColumn} {names : List String} {tools : List Tool}
  {rows : List Record}

/-- What tools make of rows is made of values of these rows. -/
theorem exists_row_of_mem_answerRows {rules : Rules} {record : Record}
    (h : record ∈ Tool.answerRows rules columns tools rows) :
    ∃ row ∈ rows, record =
      (Tool.shownColumns (namesOf columns) tools).map (valueIn columns row) := by
  obtain ⟨row, hrow, rfl⟩ := List.mem_map.1 h
  refine ⟨row, ?_, rfl⟩
  have hsorted : row ∈ Tool.sortedRows columns tools (rows.filter fun row =>
      (Tool.conditions tools).all (isTrueIn rules columns row)) := by
    rw [Tool.limitedRows] at hrow
    split at hrow
    · exact hrow
    · exact List.mem_of_mem_take hrow
  rw [Tool.sortedRows] at hsorted
  split at hsorted
  · exact List.mem_of_mem_filter hsorted
  · exact List.mem_of_mem_filter (List.mem_mergeSort.1 hsorted)

/-- The values of a row are shown as they are. -/
theorem shows_values (hnames : ∀ name ∈ names, name ∈ namesOf columns) {row : Record}
    (hrow : List.Forall₂ (fun c v => c.kind.Holds v) columns row) :
    Evaluation.Shows (Catalog.schema (names.map (describedAs columns)))
      (names.map (valueIn columns row)) ((names.map (valueIn columns row)).map cellOfValue) := by
  rw [Evaluation.Shows, Evaluation.ShowsFrom, List.forall₂_iff_get]
  refine ⟨by simp [Catalog.schema], fun i hi hi' => ?_⟩
  have hlt : i < names.length := by simpa [Catalog.schema] using hi
  obtain ⟨kind, hkind⟩ := exists_kindOf? (hnames _ (List.getElem_mem hlt))
  have hcell := cellOf_of_holds (holds_valueIn hrow hkind)
  have htype : (describedAs columns names[i]).cellType = kind.cellType := by
    rw [describedAs_of_kindOf? hkind]
    rfl
  simp [Catalog.schema, Evaluation.cellAt, htype, hlt, hcell]

end Shown

/-! ## Evaluations -/

namespace Evaluation

theorem exists_of_forall₂ {α β : Type} {R : α → β → Prop} {as : List α} {bs : List β}
    (h : List.Forall₂ R as bs) {a : α} (ha : a ∈ as) : ∃ b, R a b := by
  obtain ⟨i, hi, rfl⟩ := List.getElem_of_mem ha
  exact ⟨_, h.get hi (h.length_eq ▸ hi)⟩

/-- What an evaluation comes to that hands over all that the engine delivers. -/
structure Delivered {ε σ : Type} (engine : Engine ε) (batchSize : Nat) (p : Preparation ε)
    (r : Report ε σ) (summary : Summary) : Prop where
  /-- The delivery comes to its end. -/
  ending : (p.delivery engine batchSize).ending = .ok ()
  /-- The sink is opened with the columns of the statement. -/
  opened : r.openings = [p.columns.schema]
  /-- The sink takes the rows of the delivery. -/
  rows : r.writes.flatMap Batch.rows = (p.delivery engine batchSize).rows
  /-- The rows are counted. -/
  count : summary.rows = (r.writes.flatMap Batch.rows).length

theorem Course.calls_of_ok {ε σ : Type} {engine : Engine ε} {sink : Sink σ} {batchSize : Nat}
    {chain : Chain} {supply : AliasSupply} {e : ε} {calls : List Call} {phases : List Phase}
    {summary : Summary}
    (h : Course engine sink batchSize chain supply e calls phases (.ok summary)) :
    ∃ (p : Preparation ε) (handed : List Batch) (state : σ), p.Succeeds engine chain supply e ∧
      p.Runs engine sink batchSize handed (.ok state) ∧
      calls = p.callsThrough batchSize handed ++ [.flush] ∧
      summary = ({} : Summary).addAll handed := by
  cases h with
  | @flushed p _ handed state _ hp hruns hflush =>
    cases hflush with
    | completed hflush => exact ⟨p, handed, state, hp, hruns, rfl, rfl⟩

theorem Preparation.Runs.delivered_of_ok {ε σ : Type} {p : Preparation ε} {engine : Engine ε}
    {sink : Sink σ} {batchSize : Nat} {handed : List Batch} {state : σ}
    (h : p.Runs engine sink batchSize handed (.ok state)) :
    (p.delivery engine batchSize).ending = .ok () ∧
      handed = (p.delivery engine batchSize).batches.filter hasRows := by
  generalize houtcome : (Except.ok state : Except Fault σ) = outcome at h
  cases h with
  | @intro _ _ taken opened takes =>
    cases taken with
    | error problem => cases houtcome
    | ok last =>
      cases hending : (p.delivery engine batchSize).ending with
      | error fault =>
        rw [hending] at houtcome
        cases houtcome
      | ok _ => exact ⟨rfl, takes.eq_of_ok⟩

/-- An evaluation that succeeds hands over all that the engine delivers. -/
theorem exists_delivered_of_run_ok {ε σ : Type} {engine : Engine ε} {sink : Sink σ}
    {batchSize : Nat} {chain : Chain} {supply : AliasSupply} {e : ε} {summary : Summary}
    (h : (run engine sink batchSize chain supply e).result = .ok summary) :
    ∃ p : Preparation ε, p.Succeeds engine chain supply e ∧
      Delivered engine batchSize p (run engine sink batchSize chain supply e) summary := by
  have hcourse := run_course engine sink batchSize chain supply e
  simp only [h] at hcourse
  obtain ⟨p, handed, state, hp, hruns, hcalls, rfl⟩ := hcourse.calls_of_ok
  obtain ⟨hending, hhanded⟩ := hruns.delivered_of_ok
  have hwrites : (run engine sink batchSize chain supply e).writes = handed := by
    rw [Report.writes, hcalls, List.filterMap_append, p.writes_callsThrough]
    exact List.append_nil handed
  refine ⟨p, hp, hending, ?_, ?_, ?_⟩
  · rw [Report.openings, hcalls, List.filterMap_append, p.openings_callsThrough]
    rfl
  · rw [hwrites, hhanded, Delivery.rows]
    exact flatMap_rows_filter _
  · rw [hwrites]
    exact Summary.rows_addAll handed

/-- The report of an evaluation is what tools mean on the rows of a file, under some rules of
comparison. -/
structure AnswersTools {ε σ : Type} (rules : Rules) (columns : List FileColumn) (tools : List Tool)
    (loaded : List Record) (r : Report ε σ) (summary : Summary) : Prop where
  /-- The sink is opened once, with the columns chosen last in their order. -/
  opened : r.openings =
    [Catalog.schema ((Tool.shownColumns (namesOf columns) tools).map (describedAs columns))]
  /-- The rows that are written, batch after batch, are those that the tools leave. -/
  rows : r.writes.flatMap Batch.rows =
    (Tool.answerRows rules columns tools loaded).map (List.map cellOfValue)
  /-- They are counted. -/
  count : summary.rows = (Tool.answerRows rules columns tools loaded).length
  /-- Every condition compares with a value: its literal as it is typed, or as its column's type
  reads it. -/
  operands : ∀ c ∈ Tool.conditions tools, (operand? columns c).isSome

/-- What is known of a pipeline over a file. -/
structure IsFilePipeline (file : String) (columns : List FileColumn) (tools : List Tool) :
    Prop where
  /-- The name of the file is quoted in a statement. -/
  quoted : reference file = quoteIdentifier file
  /-- It does not end a statement. -/
  whole : '\x00' ∉ file.toList
  /-- The names in its header are plain. -/
  plain : ∀ name ∈ namesOf columns, Sql.IsPlainName name
  /-- The tools are over these names. -/
  areOver : ∀ t ∈ tools, t.IsOver (namesOf columns)
  /-- Columns that are chosen are some. -/
  shown : ∀ shown, Tool.last? Tool.columns? tools = some shown → shown ≠ []

/-- The plan of a pipeline over a file. -/
def filePlan (file : String) (tools : List Tool) : Plan :=
  planOf (.datasets { datasets := [file] }) tools

section Pipeline

variable {δ τ σ : Type} {c : Connection δ} {rules : Rules} {view : View δ τ} {file : String}
  {columns : List FileColumn} {tools : List Tool} {rows : List Record} {e : δ}
  {p : Preparation δ} {batchSize : Nat}

theorem params_filePlan (file : String) (tools : List Tool) :
    (filePlan file tools).params = (Tool.conditions tools).filterMap Condition.parameter? := by
  rw [Plan.params, filePlan, planOf, Tool.conditions]
  simp only [Tool.filterOf]
  split <;> simp [Filter.params, *]

namespace IsFilePipeline

variable (h : IsFilePipeline file columns tools)

include h

theorem concerns : (inquiryOf file tools).Concerns columns :=
  concerns_inquiryOf h.whole h.areOver h.plain h.shown

theorem asks : (filePlan file tools).Asks (inquiryOf file tools) := asks_planOf h.areOver h.quoted

variable (hanswers : c.Answers rules view) (hholds : view.holds e file columns rows)
  (hp : p.Succeeds c.engine ⟨[filePlan file tools]⟩ {} e)

include hanswers hholds hp

/-- What a preparation knows of a pipeline over a file: the statement is the question, the
parameters are what the conditions compare with, the columns are those chosen last, and the file is
as it was. -/
theorem of_succeeds :
    p.query.text = (inquiryOf file tools).text ∧
      List.Forall₂ (fun c v => operand? columns c = some v)
        ((Tool.conditions tools).filter fun c => !c.value.isNull) (p.params.map valueOf) ∧
      p.columns = (Tool.shownColumns (namesOf columns) tools).map (describedAs columns) ∧
      view.holds p.ready file columns rows := by
  have hquery := hp.query_unique (h.asks.query_eq h.concerns.plain)
  have hprobe := hp.probe_unique (h.asks.probe_eq h.concerns.plain)
  have hsources : c.describeSources p.probe e = _ := hp.sources_eq
  rw [hprobe] at hsources
  obtain ⟨hdescribed, hcatalog⟩ := hanswers.sources_eq h.concerns.probe hholds hsources
  have hcolumns : c.describe p.query.text p.described = _ := hp.columns_eq
  rw [hquery] at hcolumns
  obtain ⟨hready, hshown⟩ := hanswers.describe_eq h.concerns hdescribed hcolumns
  rw [shownIn_inquiryOf] at hshown
  have hparams := hp.params_eq
  rw [hquery, params_filePlan, hcatalog] at hparams
  refine ⟨congrArg Query.text hquery, forall₂_operands (fun c hc => ?_) hparams, hshown, hready⟩
  have hname := (of_mem_conditions h.areOver hc).1
  exact ⟨h.plain _ hname, hname, mem_shownIn_probe _ hname⟩

/-- What is delivered of a pipeline over a file is what its tools mean. -/
theorem rows_delivery
    (hkinds : ∀ row ∈ rows, List.Forall₂ (fun c v => c.kind.Holds v) columns row)
    (hending : (p.delivery c.engine batchSize).ending = .ok ()) :
    (p.delivery c.engine batchSize).rows =
      (Tool.answerRows rules columns tools rows).map (List.map cellOfValue) := by
  obtain ⟨htext, hoperands, hcolumns, hready⟩ := h.of_succeeds hanswers hholds hp
  have hdelivers := p.delivers (hasRoom_of_ending hending)
  have hproblem := (hdelivers.ended hending).1
  have hshows := hdelivers.shows_all hending
  rw [htext] at hproblem hshows
  rw [hanswers.fetch p.params h.concerns hready hproblem,
    answerOn_inquiryOf rules file rows h.areOver hoperands] at hshows
  have hrows : List.Forall₂ (Shows p.columns.schema) (Tool.answerRows rules columns tools rows)
      ((Tool.answerRows rules columns tools rows).map (List.map cellOfValue)) := by
    rw [List.forall₂_map_right_iff, List.forall₂_same, hcolumns]
    intro record hrecord
    obtain ⟨row, hrow, rfl⟩ := exists_row_of_mem_answerRows hrecord
    exact shows_values (mem_names_of_shownColumns h.areOver) (hkinds row hrow)
  have hunique : Relator.RightUnique (Shows p.columns.schema) := fun _ _ _ => Shows.unique
  exact hunique.forall₂ hshows hrows

omit hp in
/-- A pipeline over a file that is evaluated is answered with what its tools mean. -/
theorem answersTools_run {sink : Sink σ} {summary : Summary}
    (hkinds : ∀ row ∈ rows, List.Forall₂ (fun c v => c.kind.Holds v) columns row)
    (hrun : (run c.engine sink batchSize ⟨[filePlan file tools]⟩ {} e).result = .ok summary) :
    AnswersTools rules columns tools rows
      (run c.engine sink batchSize ⟨[filePlan file tools]⟩ {} e) summary := by
  obtain ⟨p, hp, hdelivered⟩ := exists_delivered_of_run_ok hrun
  obtain ⟨-, hoperands, hcolumns, -⟩ := h.of_succeeds hanswers hholds hp
  have hrows := hdelivered.rows.trans
    (h.rows_delivery hanswers hholds hp hkinds hdelivered.ending)
  refine ⟨hcolumns ▸ hdelivered.opened, hrows, ?_, fun c hc => ?_⟩
  · rw [hdelivered.count, hrows, List.length_map]
  · cases hnull : c.value.isNull with
    | true =>
      obtain ⟨kind, hkind⟩ := exists_kindOf? (of_mem_conditions h.areOver hc).1
      rw [operand?_of_isNull hkind hnull]
      rfl
    | false =>
      have hmem : c ∈ (Tool.conditions tools).filter fun c => !c.value.isNull :=
        List.mem_filter.2 ⟨hc, by simp [hnull]⟩
      obtain ⟨v, hv⟩ := exists_of_forall₂ hoperands hmem
      rw [hv]
      rfl

end IsFilePipeline

end Pipeline

end Evaluation

end QueryPipe
