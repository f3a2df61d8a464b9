import QueryPipe.Proofs.Query.Draft

/-!
# Drafts of plans

The draft of a plan depends on the plan alone: its selection with a slot for the row source, then
the clauses that are not empty. A raw statement is its own draft and has no slot.

* `Plan.slots_draft`: a plan has one slot for its row source, unless it is raw.
* `Plan.comparisons_draft`: the comparisons of a plan are those of its filter, unless it is raw.
* `Plan.render_eq_write`: a plan that can be read from is rendered as its draft.
-/

namespace QueryPipe

/-! ## Drafts of fragments -/

/-- A selection up to the name of its row source. -/
def Selection.lead (s : Selection) : String :=
  match s.tables with
  | [table] => s.fromTable table ++ " AS "
  | tables =>
    "SELECT " ++ s.columnsText ++ " FROM (" ++
      Text.joined " UNION ALL " (tables.map s.fromTable) ++ ") AS "

/-- The name of what is selected from comes last. -/
theorem Selection.sql_eq_lead (s : Selection) (name : String) : s.sql name = s.lead ++ name := by
  cases ht : s.tables with
  | nil => simp only [Selection.sql, Selection.lead, ht, String.append_assoc]
  | cons table rest =>
    cases rest with
    | nil => simp only [Selection.sql, Selection.lead, ht, String.append_assoc]
    | cons other rest => simp only [Selection.sql, Selection.lead, ht, String.append_assoc]

/-- The draft of a selection. -/
def Selection.draft (index : Nat) (s : Selection) : Draft :=
  [.words s.lead, .slot ⟨index, .source, s.alias?⟩]

/-- The draft of a condition; the missing value is part of its words. -/
def Condition.draft (c : Condition) : Draft :=
  if c.value.isNull then [.words c.sql] else [.comparison c]

/-- The draft of a filter with conditions. -/
def Filter.draft (f : Filter) : Draft :=
  .words "WHERE " :: Draft.joined " AND " (f.conditions.map Condition.draft)

/-- The drafts of the clauses after the selection that are not empty. -/
def Plan.clauseDrafts (p : Plan) : List Draft :=
  (p.join.map fun j => [Piece.words j.sql]).toList ++
    ((p.filter.filter fun f => !f.conditions.isEmpty).map Filter.draft).toList ++
    ((p.sort.filter fun o => !o.columns.isEmpty).map fun o => [Piece.words o.sql]).toList ++
    (p.limit.map fun n => [Piece.words (limitSql n)]).toList

/-- The draft of the plan at an index of its chain. -/
def Plan.draft (index : Nat) (p : Plan) : Draft :=
  match p.raw with
  | some text => [.words text]
  | none =>
    match p.select with
    | none => []
    | some s => Draft.joined " " (s.draft index :: p.clauseDrafts)

/-! ## Clauses -/

/-- The draft of a condition is written as the condition is. -/
theorem Condition.text_draft (c : Condition) (supply : AliasSupply) :
    c.draft.text supply = c.sql := by
  cases h : c.value.isNull with
  | true =>
    rw [Condition.draft, if_pos h, Draft.text_words, Draft.text_nil, String.append_empty]
  | false =>
    rw [Condition.draft, if_neg (by simp [h]), Draft.text_comparison, Draft.text_nil,
      String.append_empty, Condition.lead, Condition.sql, h]
    rfl

theorem Condition.slots_draft (c : Condition) : c.draft.slots = [] := by
  unfold Condition.draft
  split <;> rfl

theorem Filter.slots_draft (f : Filter) : f.draft.slots = [] := by
  rw [Filter.draft, Draft.slots_words, Draft.slots_joined, List.flatMap_eq_nil_iff]
  intro d hd
  obtain ⟨c, -, rfl⟩ := List.mem_map.1 hd
  exact c.slots_draft

/-- The draft of a filter is written as the filter is. -/
theorem Filter.text_draft {f : Filter} (h : f.conditions.isEmpty = false) (supply : AliasSupply) :
    f.draft.text supply = f.sql := by
  rw [Filter.draft, Draft.text_words, Draft.text_joined, List.map_map, Filter.sql,
    if_neg (by simp [h])]
  · refine congrArg (fun parts => "WHERE " ++ Text.joined " AND " parts) ?_
    exact List.map_congr_left fun c _ => c.text_draft supply
  · intro d hd
    obtain ⟨c, -, rfl⟩ := List.mem_map.1 (List.mem_of_mem_tail hd)
    exact c.slots_draft

theorem Plan.slots_clauseDrafts {p : Plan} {d : Draft} (hd : d ∈ p.clauseDrafts) :
    d.slots = [] := by
  simp only [Plan.clauseDrafts, List.mem_append, Option.mem_toList,
    Option.map_eq_some_iff] at hd
  rcases hd with ((⟨j, -, rfl⟩ | ⟨f, -, rfl⟩) | ⟨o, -, rfl⟩) | ⟨n, -, rfl⟩
  · rfl
  · exact f.slots_draft
  · rfl
  · rfl

theorem Joining.isEmpty_sql (j : Joining) : j.sql.isEmpty = false := by
  simp [Joining.sql]

/-- A filter is written if and only if it has a condition. -/
theorem Filter.isEmpty_sql (f : Filter) : f.sql.isEmpty = f.conditions.isEmpty := by
  cases h : f.conditions.isEmpty <;> simp [Filter.sql, h]

theorem Sorting.isEmpty_sql (o : Sorting) : o.sql.isEmpty = o.columns.isEmpty := by
  cases h : o.columns.isEmpty <;> simp [Sorting.sql, h]

theorem isEmpty_limitSql (n : UInt32) : (limitSql n).isEmpty = false := by
  simp [limitSql]

/-- The clauses with text are those with a draft. -/
theorem Plan.text_clauseDrafts (p : Plan) (supply : AliasSupply) :
    p.clauseDrafts.map (·.text supply) = p.clauses.filter fun clause => !clause.isEmpty := by
  rw [Plan.clauseDrafts, Plan.clauses]
  simp only [List.map_append, List.filter_append]
  refine congr (congrArg _ (congr (congrArg _ (congr (congrArg _ ?join) ?filter)) ?sort)) ?limit
  case join => cases p.join <;> simp [Joining.isEmpty_sql, Draft.text_words]
  case filter =>
    cases p.filter with
    | none => rfl
    | some f =>
      cases h : f.conditions.isEmpty with
      | true => simp [Option.filter, Filter.isEmpty_sql, h]
      | false => simp [Option.filter, Filter.isEmpty_sql, h, Filter.text_draft h]
  case sort =>
    cases p.sort with
    | none => rfl
    | some o =>
      cases h : o.columns.isEmpty <;>
        simp [Option.filter, Sorting.isEmpty_sql, h, Draft.text_words]
  case limit => cases p.limit <;> simp [isEmpty_limitSql, Draft.text_words]

/-- A condition compares with a parameter unless its value is missing. -/
theorem Condition.comparisons_draft (c : Condition) :
    c.draft.comparisons = if c.value.isNull then [] else [c] := by
  unfold Condition.draft
  split <;> rfl

theorem Filter.comparisons_draft (f : Filter) :
    f.draft.comparisons = f.conditions.filter fun c => !c.value.isNull := by
  rw [Filter.draft, Draft.comparisons_words, Draft.comparisons_joined, List.flatMap_map]
  induction f.conditions with
  | nil => rfl
  | cons c conditions ih =>
    rw [List.flatMap_cons, ih, Condition.comparisons_draft]
    cases h : c.value.isNull <;> simp [h]

/-- The parameters of a filter are the values that are not missing, in the order of the
conditions. -/
theorem Filter.params_eq_map (f : Filter) :
    f.params = (f.conditions.filter fun c => !c.value.isNull).map
      fun c => ⟨c.column, c.value⟩ := by
  rw [Filter.params]
  induction f.conditions with
  | nil => rfl
  | cons c conditions ih =>
    cases h : c.value.isNull <;> simp [Condition.parameter?, h, ih]

/-- The conditions of a plan that compare with a value. -/
def Plan.comparisons (p : Plan) : List Condition :=
  ((p.filter.map Filter.conditions).getD []).filter fun c => !c.value.isNull

/-- The parameters of a plan are the values of its comparisons. -/
theorem Plan.params_eq_map (p : Plan) :
    p.params = p.comparisons.map fun c => ⟨c.column, c.value⟩ := by
  rw [Plan.params, Plan.comparisons]
  cases p.filter with
  | none => rfl
  | some f => exact f.params_eq_map

theorem Plan.comparisons_clauseDrafts (p : Plan) :
    p.clauseDrafts.flatMap Draft.comparisons = p.comparisons := by
  have hjoin : (p.join.map fun j => [Piece.words j.sql]).toList.flatMap Draft.comparisons = [] := by
    cases p.join <;> rfl
  have hfilter : ((p.filter.filter fun f => !f.conditions.isEmpty).map
      Filter.draft).toList.flatMap Draft.comparisons = p.comparisons := by
    rw [Plan.comparisons]
    cases p.filter with
    | none => rfl
    | some f =>
      cases h : f.conditions with
      | nil => simp [Option.filter, h]
      | cons c conditions => simp [Option.filter, h, Filter.comparisons_draft]
  have hsort : ((p.sort.filter fun o => !o.columns.isEmpty).map
      fun o => [Piece.words o.sql]).toList.flatMap Draft.comparisons = [] := by
    cases p.sort.filter fun o => !o.columns.isEmpty <;> rfl
  have hlimit : (p.limit.map fun n => [Piece.words (limitSql n)]).toList.flatMap
      Draft.comparisons = [] := by
    cases p.limit <;> rfl
  simp only [Plan.clauseDrafts, List.flatMap_append, hjoin, hfilter, hsort, hlimit,
    List.nil_append, List.append_nil]

/-! ## Plans -/

/-- Whether a plan can be read from: it is raw or it selects from a table. -/
def Plan.IsReadable (p : Plan) : Prop :=
  p.raw.isSome ∨ ∃ s, p.select = some s ∧ s.tables ≠ []

/-- What is wrong with a plan that cannot be read from. -/
def Plan.fault (p : Plan) : PlanFault :=
  if p.select.isNone then .missingSelect else .noSourceTable

/-- A plan is a text of its own, or selects from tables, or is unreadable. -/
theorem Plan.source_cases (p : Plan) :
    (∃ text, p.raw = some text ∧ p.source? = .ok (.inl text)) ∨
      (∃ s, p.raw = none ∧ p.select = some s ∧ s.tables ≠ [] ∧ p.source? = .ok (.inr s)) ∨
      (¬ p.IsReadable ∧ p.source? = .error p.fault) := by
  cases hraw : p.raw with
  | some text => exact .inl ⟨text, rfl, by rw [Plan.source?, hraw]⟩
  | none =>
    cases hselect : p.select with
    | none =>
      refine .inr (.inr ⟨?_, ?_⟩)
      · simp [Plan.IsReadable, hraw, hselect]
      · simp [Plan.source?, Plan.fault, hraw, hselect]
    | some s =>
      by_cases htables : s.tables = []
      · refine .inr (.inr ⟨?_, ?_⟩)
        · simp [Plan.IsReadable, hraw, hselect, htables]
        · simp [Plan.source?, Plan.fault, hraw, hselect, htables]
      · refine .inr (.inl ⟨s, rfl, rfl, htables, ?_⟩)
        simp [Plan.source?, hraw, hselect, htables]

/-- An unreadable plan fails and draws no name. -/
theorem Plan.render_of_not_isReadable {p : Plan} (h : ¬ p.IsReadable) (supply : AliasSupply) :
    p.render supply = (.error p.fault, supply) := by
  rcases p.source_cases with ⟨text, hraw, -⟩ | ⟨s, -, hselect, htables, -⟩ | ⟨-, hsource⟩
  · exact absurd (.inl (by rw [hraw]; rfl)) h
  · exact absurd (.inr ⟨s, hselect, htables⟩) h
  · rw [Plan.render, hsource]

theorem Selection.isEmpty_sql (s : Selection) (name : String) : (s.sql name).isEmpty = false := by
  unfold Selection.sql Selection.fromTable
  split <;> simp

/-- The draft of a selection is written as the selection is. -/
theorem Selection.text_draft (s : Selection) (index : Nat) (supply : AliasSupply) :
    (s.draft index).text supply = (s.render supply).1 := by
  rw [Selection.draft, Draft.text_words, Draft.text_slot, Draft.text_nil, String.append_empty,
    ← Selection.sql_eq_lead, Selection.render]

theorem Plan.draft_of_raw {p : Plan} {text : String} (h : p.raw = some text) (index : Nat) :
    p.draft index = [.words text] := by
  rw [Plan.draft, h]

theorem Plan.draft_of_select {p : Plan} {s : Selection} (hraw : p.raw = none)
    (hselect : p.select = some s) (index : Nat) :
    p.draft index = Draft.joined " " (s.draft index :: p.clauseDrafts) := by
  rw [Plan.draft, hraw, hselect]

/-- A plan has one slot for its row source, unless it is raw. -/
theorem Plan.slots_draft {p : Plan} (h : p.IsReadable) (index : Nat) :
    (p.draft index).slots = if p.raw.isSome then [] else [⟨index, .source, p.alias?⟩] := by
  rcases p.source_cases with ⟨text, hraw, -⟩ | ⟨s, hraw, hselect, -, -⟩ | ⟨hnot, -⟩
  · rw [p.draft_of_raw hraw, hraw]
    rfl
  · have hclauses : p.clauseDrafts.flatMap Draft.slots = [] :=
      List.flatMap_eq_nil_iff.2 fun d hd => Plan.slots_clauseDrafts hd
    rw [p.draft_of_select hraw hselect, Draft.slots_joined, List.flatMap_cons, hclauses, hraw,
      Plan.alias?, hselect]
    rfl
  · exact absurd h hnot

/-- The comparisons of a plan are those of its filter, unless it is raw. -/
theorem Plan.comparisons_draft {p : Plan} (h : p.IsReadable) (index : Nat) :
    (p.draft index).comparisons = if p.raw.isSome then [] else p.comparisons := by
  rcases p.source_cases with ⟨text, hraw, -⟩ | ⟨s, hraw, hselect, -, -⟩ | ⟨hnot, -⟩
  · rw [p.draft_of_raw hraw, hraw]
    rfl
  · rw [p.draft_of_select hraw hselect, Draft.comparisons_joined, List.flatMap_cons,
      p.comparisons_clauseDrafts, hraw]
    rfl
  · exact absurd h hnot

theorem Plan.text_draft_of_select {p : Plan} {s : Selection} (hraw : p.raw = none)
    (hselect : p.select = some s) (index : Nat) (supply : AliasSupply) :
    (p.draft index).text supply =
      Text.joined " " (((s.render supply).1 :: p.clauses).filter fun clause => !clause.isEmpty) := by
  have hslots : ∀ d ∈ (s.draft index :: p.clauseDrafts).tail, d.slots = [] :=
    fun d hd => Plan.slots_clauseDrafts hd
  have hhead : (s.render supply).1.isEmpty = false := s.isEmpty_sql _
  rw [p.draft_of_select hraw hselect, Draft.text_joined _ _ _ hslots, List.map_cons, s.text_draft,
    Plan.text_clauseDrafts, List.filter_cons_of_pos (by rw [hhead]; rfl)]

/-- A plan that can be read from is rendered as its draft. -/
theorem Plan.render_eq_write {p : Plan} (h : p.IsReadable) (index : Nat) (supply : AliasSupply) :
    p.render supply =
      (.ok ((p.draft index).query supply), supply.skip (openSlots (p.draft index).slots)) := by
  have hslots := p.slots_draft h index
  have hcomparisons := p.comparisons_draft h index
  rcases p.source_cases with ⟨text, hraw, hsource⟩ | ⟨s, hraw, hselect, -, hsource⟩ | ⟨hnot, -⟩
  · have htext : (p.draft index).text supply = text := by
      rw [p.draft_of_raw hraw, Draft.text_words, Draft.text_nil, String.append_empty]
    rw [hraw] at hslots hcomparisons
    rw [Plan.render, hsource, Draft.query, htext, Draft.params, hcomparisons, hslots]
    rfl
  · rw [hraw] at hslots hcomparisons
    have hsupply : (s.render supply).2 = supply.skip (openSlots (p.draft index).slots) := by
      rw [hslots, Plan.alias?, hselect, if_neg (by simp), openSlots_cons]
      exact AliasSupply.resolve_snd _ _
    have hparams : (p.draft index).params = p.params := by
      rw [Draft.params, hcomparisons, p.params_eq_map]
      rfl
    rw [Plan.render, hsource, Draft.query, p.text_draft_of_select hraw hselect, hparams, ← hsupply]
  · exact absurd h hnot

end QueryPipe
