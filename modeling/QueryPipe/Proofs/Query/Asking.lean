import QueryPipe.Proofs.Query.Wording
import QueryPipe.Query.Chain

/-!
# What a plan asks

A plan that selects from one quoted table asks a question about it, and its text is the question in
words. So the statement of a chain of one such plan is a question, and the statement that describes
its row source is another one.

* `Plan.Asks`: what is asked.
* `Plan.Asks.parts_eq`: the parts of the plan are the words of the question.
* `Plan.Asks.query_eq`, `Plan.Asks.probe_eq`: the statement of a chain of one plan, and the one that
  describes its row source.
-/

namespace QueryPipe

open Sql

/-! ## Plans -/

/-- Whether a condition of a plan makes a test. -/
structure Condition.Makes (c : Condition) (t : Test) : Prop where
  /-- It is about the column. -/
  column : c.column = t.column
  /-- It compares in this way. -/
  predicate : c.predicate = t.comparator.spelling
  /-- It compares with the missing value or not. -/
  missing : c.value.isNull = t.missing

/-- Whether a plan asks a question about one table. -/
structure Plan.Asks (p : Plan) (q : Inquiry) : Prop where
  /-- It reads the columns from the table. -/
  select : p.select =
    some { tables := [Dataset.quoteIdentifier q.table], columns := q.columns.map columnText }
  /-- It has no statement of its own. -/
  raw : p.raw = none
  /-- It joins nothing. -/
  join : p.join = none
  /-- Its conditions make the tests. -/
  filter : ∀ f, p.filter = some f → List.Forall₂ Condition.Makes f.conditions q.tests
  /-- Without conditions there are none. -/
  unfiltered : p.filter = none → q.tests = []
  /-- Its order is by the keys. -/
  sort : ∀ o, p.sort = some o → o.columns = q.keys ∧ o.descending = q.descending
  /-- Without an order there are none. -/
  unsorted : p.sort = none → q.keys = []
  /-- Its limit is the greatest number of rows. -/
  limit : p.limit = q.limit?
  /-- The table has the first name that is supplied. -/
  name : q.name = "t1"

namespace Plan.Asks

variable {p : Plan} {q : Inquiry}

/-- Conditions that make tests are put into the same words. -/
theorem map_sql_conditions {conditions : List Condition} {tests : List Test}
    (h : List.Forall₂ Condition.Makes conditions tests) :
    conditions.map Condition.sql = tests.map Inquiry.testText := by
  induction h with
  | nil => rfl
  | @cons c t _ _ hc _ ih =>
    have hwords : c.sql = Inquiry.testText t := by
      rw [Condition.sql, Inquiry.testText, hc.column, hc.predicate, hc.missing]
    rw [List.map_cons, List.map_cons, hwords, ih]

/-- Words are left of a clause, or nothing is. -/
theorem filter_singleton_append {s t : String} (h : s ≠ "") :
    [s ++ t].filter (fun clause => !clause.isEmpty) = [s ++ t] := by
  refine List.filter_eq_self.2 fun clause hclause => ?_
  rw [List.mem_singleton.1 hclause, Bool.not_eq_true', Bool.eq_false_iff, ne_eq,
    String.isEmpty_iff, String.append_eq_empty_iff]
  exact fun hempty => h hempty.1

theorem filter_where (h : p.Asks q) :
    (p.filter.map Filter.sql).toList.filter (fun clause => !clause.isEmpty) = q.whereTexts := by
  rw [Inquiry.whereTexts]
  cases hf : p.filter with
  | none => rw [h.unfiltered hf]; rfl
  | some f =>
    have hmakes := h.filter f hf
    have hwords := map_sql_conditions hmakes
    have hempty : f.conditions.isEmpty = q.tests.isEmpty := by
      rw [Bool.eq_iff_iff, List.isEmpty_iff_length_eq_zero, List.isEmpty_iff_length_eq_zero,
        hmakes.length_eq]
    rw [Option.map_some, Option.toList_some, Filter.sql, hwords, hempty]
    cases q.tests with
    | nil => rfl
    | cons t rest => exact filter_singleton_append (by decide)

theorem filter_order (h : p.Asks q) :
    (p.sort.map Sorting.sql).toList.filter (fun clause => !clause.isEmpty) = q.orderTexts := by
  rw [Inquiry.orderTexts]
  cases ho : p.sort with
  | none => rw [h.unsorted ho]; rfl
  | some o =>
    obtain ⟨hkeys, hdescending⟩ := h.sort o ho
    rw [Option.map_some, Option.toList_some, Sorting.sql, hkeys, hdescending]
    cases q.keys with
    | nil => rfl
    | cons key rest => exact filter_singleton_append (by decide)

theorem filter_limit (h : p.Asks q) :
    (p.limit.map limitSql).toList.filter (fun clause => !clause.isEmpty) = q.limitTexts := by
  rw [Inquiry.limitTexts, h.limit]
  cases q.limit? with
  | none => rfl
  | some n => exact filter_singleton_append (by decide)

/-- The parts of a plan that are not empty are the words of the question. -/
theorem parts_eq (h : p.Asks q) (hq : q.IsPlain) :
    (Selection.sql { tables := [Dataset.quoteIdentifier q.table]
                     columns := q.columns.map columnText } "t1" :: p.clauses).filter
        (fun clause => !clause.isEmpty) =
      q.headText :: (q.whereTexts ++ q.orderTexts ++ q.limitTexts) := by
  have hcolumns : (q.columns.map columnText).isEmpty = false := by simpa using hq.shown
  have hhead : Selection.sql { tables := [Dataset.quoteIdentifier q.table]
                               columns := q.columns.map columnText } "t1" = q.headText := by
    simp [Selection.sql, Selection.fromTable, Selection.columnsText, hcolumns, Inquiry.headText,
      h.name]
  rw [hhead, List.filter_cons_of_pos (by simp [Inquiry.headText]), Plan.clauses, h.join, List.filter_append,
    List.filter_append, List.filter_append, h.filter_where, h.filter_order, h.filter_limit]
  rfl

/-- The text of a plan is the question in words, and its parameters are those of its filter. -/
theorem render (h : p.Asks q) (hq : q.IsPlain) :
    p.render {} = (.ok ⟨q.text, p.params⟩, ({} : AliasSupply).advance) := by
  have hrender : p.render {} = (.ok ⟨Text.joined " " ((Selection.sql
      { tables := [Dataset.quoteIdentifier q.table]
        columns := q.columns.map columnText } "t1" :: p.clauses).filter
          fun clause => !clause.isEmpty), p.params⟩, ({} : AliasSupply).advance) := by
    rw [Plan.render, Plan.source?, h.raw, h.select]
    rfl
  rw [hrender, h.parts_eq hq, Inquiry.text]

end Plan.Asks

/-! ## The row source -/

/-- What is asked for the columns of the table: those of the question and all others, of all
rows. -/
def Sql.Inquiry.probe (q : Inquiry) : Inquiry where
  table := q.table
  name := q.name
  columns := if none ∈ q.columns then q.columns else q.columns ++ [none]

theorem Sql.Inquiry.isPlain_probe {q : Inquiry} (hq : q.IsPlain) : q.probe.IsPlain where
  name := hq.name
  columns s hs := by
    rw [Inquiry.probe] at hs
    split at hs
    · exact hq.columns s hs
    · exact hq.columns s (by simpa using hs)
  shown := by
    rw [Inquiry.probe]
    split
    · exact hq.shown
    · simp
  tests t ht := by cases ht
  keys key hkey := by cases hkey

theorem trim_columnText {column? : Option String} (h : ∀ s, column? = some s → IsPlainName s) :
    (Text.trim (columnText column?) == "*") = column?.isNone := by
  cases column? with
  | none => decide +kernel
  | some s =>
    obtain ⟨c, rest, hs, hstart, -, hrest⟩ := (h s rfl).word
    rw [Option.isNone_some, beq_eq_false_iff_ne]
    intro htrim
    have hmem : '*' ∈ Text.trimChars s.toList := by
      have hchars := congrArg String.toList htrim
      rw [columnText, Option.getD_some, Text.trim, String.toList_ofList] at hchars
      simp [hchars]
    have hstar := Text.mem_trimChars hmem
    rw [hs] at hstar
    rcases List.mem_cons.1 hstar with rfl | hstar
    · exact absurd hstart (by decide)
    · exact absurd (hrest _ hstar) (by decide)

theorem widen_columns {tables : List String} {columns : List (Option String)} (hne : columns ≠ [])
    (h : ∀ s, some s ∈ columns → IsPlainName s) :
    Selection.widen { tables, columns := columns.map columnText } =
      { tables
        columns := (if none ∈ columns then columns else columns ++ [none]).map columnText } := by
  have hany : ((columns.map columnText).any fun c => Text.trim c == "*") =
      decide (none ∈ columns) := by
    rw [Bool.eq_iff_iff, List.any_map, List.any_eq_true, decide_eq_true_eq]
    constructor
    · rintro ⟨column?, hmem, htrim⟩
      rw [Function.comp_apply, trim_columnText fun s hs => h s (hs ▸ hmem)] at htrim
      rwa [Option.isNone_iff_eq_none.1 htrim] at hmem
    · exact fun hmem => ⟨none, hmem, by decide +kernel⟩
  have hempty : (columns.map columnText).isEmpty = false := by simpa using hne
  rw [Selection.widen]
  simp only [hempty, hany, Bool.false_or, decide_eq_true_eq]
  split
  · rfl
  · simp [columnText]

theorem Plan.Asks.probe {p : Plan} {q : Inquiry} (h : p.Asks q) (hq : q.IsPlain) :
    p.base.widen.Asks q.probe where
  select := by
    rw [Plan.widen, Plan.base]
    simp only [h.select, Option.map_some, widen_columns hq.shown hq.columns]
    rfl
  raw := h.raw
  join := h.join
  filter f hf := by cases hf
  unfiltered _ := rfl
  sort o ho := by cases ho
  unsorted _ := rfl
  limit := rfl
  name := h.name

/-! ## Chains of one plan -/

section Chains

variable {p : Plan} {q : Inquiry}

theorem Chain.query_singleton {text : String} {params : List Parameter} {supply : AliasSupply}
    (h : p.render {} = (.ok ⟨text, params⟩, supply)) :
    (⟨[p]⟩ : Chain).query = .ok ⟨text, params⟩ := by
  simp [Chain.query, Chain.render, Chain.statement, Chain.statementFrom, h, Except.mapError,
    Except.map, Statement.query, Statement.text, Statement.params]

/-- The statement of a chain of one plan is its question. -/
theorem Plan.Asks.query_eq (h : p.Asks q) (hq : q.IsPlain) :
    (⟨[p]⟩ : Chain).query = .ok ⟨q.text, p.params⟩ := Chain.query_singleton (h.render hq)

/-- The statement that describes its row source asks for the columns of the table. -/
theorem Plan.Asks.probe_eq (h : p.Asks q) (hq : q.IsPlain) :
    (⟨[p]⟩ : Chain).probe = .ok q.probe.text := by
  have hquery := (h.probe hq).query_eq (Inquiry.isPlain_probe hq)
  have hbase : (⟨[p]⟩ : Chain).base = ⟨[p.base.widen]⟩ := rfl
  have hparams : p.base.widen.params = [] := rfl
  rw [hparams] at hquery
  simp [Chain.probe, hbase, hquery, bind, Except.bind, pure, Except.pure]

end Chains

end QueryPipe
