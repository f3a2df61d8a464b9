import QueryPipe.Dataset.Reference

/-!
# Statements without their values

A masked chain has one and the same value in place of every literal but the missing one. Masking
a chain masks the parameters of its query and leaves all else of it alone: fault or text, names
drawn, columns of parameters, probe and files. So chains that are equal when masked differ in
nothing but values.

* `Chain.render_masked`: the query of a masked chain.
* `Chain.sameText_of_masked_eq`: what chains have in common that are equal when masked.
-/

namespace QueryPipe

/-! ## Conditions -/

/-- The missing value as it is, and one and the same text for every other literal. -/
def Literal.masked (v : Literal) : Literal := if v.isNull then .null else .text ""

/-- Masking leaves a missing value missing, and makes no other one so. -/
theorem Literal.isNull_masked (v : Literal) : v.masked.isNull = v.isNull := by
  unfold masked
  cases h : v.isNull <;> rfl

theorem Literal.masked_congr {v w : Literal} (h : v.isNull = w.isNull) : v.masked = w.masked := by
  rw [masked, h, masked]

/-- The parameter with its value masked. -/
def Parameter.masked (p : Parameter) : Parameter := { p with value := p.value.masked }

/-- The query with the values of its parameters masked. -/
def Query.masked (q : Query) : Query := { q with params := q.params.map Parameter.masked }

/-- Masking changes no column that a parameter is compared with. -/
theorem Query.columns_masked (q : Query) :
    q.masked.params.map Parameter.column = q.params.map Parameter.column := by
  simp [masked, Function.comp_def, Parameter.masked]

namespace Condition

/-- The condition with its value masked. -/
def masked (c : Condition) : Condition := { c with value := c.value.masked }

/-- A condition is written alike whatever its value. -/
theorem sql_masked (c : Condition) : c.masked.sql = c.sql := by
  simp only [sql, masked, Literal.isNull_masked]

theorem parameter?_masked (c : Condition) :
    c.masked.parameter? = c.parameter?.map Parameter.masked := by
  simp only [parameter?, masked, Literal.isNull_masked]
  split <;> rfl

end Condition

namespace Filter

/-- The filter with the values of its conditions masked. -/
def masked (f : Filter) : Filter := ⟨f.conditions.map Condition.masked⟩

/-- A filter is written alike whatever its values. -/
theorem sql_masked (f : Filter) : f.masked.sql = f.sql := by
  simp [sql, masked, Function.comp_def, Condition.sql_masked]

theorem params_masked (f : Filter) : f.masked.params = f.params.map Parameter.masked := by
  have hmasked : Condition.parameter? ∘ Condition.masked =
      fun c => c.parameter?.map Parameter.masked := funext Condition.parameter?_masked
  rw [params, params, masked, List.filterMap_map, hmasked, List.map_filterMap]

theorem masked_and (f : Filter) (c : Condition) : (f.and c).masked = f.masked.and c.masked := by
  simp [masked, Filter.and]

end Filter

/-! ## Plans -/

namespace Plan

/-- The plan with the values of its filter masked. -/
def masked (p : Plan) : Plan := { p with filter := p.filter.map Filter.masked }

/-- A condition may be added before or after masking. -/
theorem masked_addCondition (p : Plan) (c : Condition) :
    (p.addCondition c).masked = p.masked.addCondition c.masked := by
  have hfilter : ((p.filter.getD {}).and c).masked =
      ((p.filter.map Filter.masked).getD {}).and c.masked := by
    rw [Filter.masked_and]
    cases p.filter <;> rfl
  simp only [masked, addCondition, Option.map_some, hfilter]

theorem clauses_masked (p : Plan) : p.masked.clauses = p.clauses := by
  simp [clauses, masked, Function.comp_def, Filter.sql_masked]

theorem params_masked (p : Plan) : p.masked.params = p.params.map Parameter.masked := by
  cases h : p.filter <;> simp [params, masked, h, Filter.params_masked]

theorem source?_masked (p : Plan) : p.masked.source? = p.source? := rfl

/-- A plan is rendered alike but for the values of its parameters. -/
theorem render_masked (p : Plan) (supply : AliasSupply) :
    p.masked.render supply = ((p.render supply).1.map Query.masked, (p.render supply).2) := by
  unfold render
  rw [source?_masked]
  cases p.source? with
  | error fault => rfl
  | ok source =>
    cases source with
    | inl text => rfl
    | inr s => simp only [clauses_masked, params_masked, Except.map]; rfl

end Plan

/-! ## Chains -/

/-- The statement with the values of all parameters masked. -/
def Statement.masked (st : Statement) : Statement where
  stages := st.stages.map fun stage => (stage.1, stage.2.masked)
  last := st.last.masked

theorem Statement.query_masked (st : Statement) : st.masked.query = st.query.masked := by
  have hstages : st.masked.stages.map stageText = st.stages.map stageText := by
    rw [masked, List.map_map]
    exact List.map_congr_left fun _ _ => rfl
  have htext : st.masked.text = st.text := by
    rw [text, text, hstages]
    simp [masked, Query.masked]
  have hparams : st.masked.params = st.params.map Parameter.masked := by
    simp [params, masked, Query.masked, List.flatMap_map, List.map_flatMap]
  rw [query, htext, hparams]
  rfl

namespace Chain

/-- The chain with the values of all filters masked. -/
def masked (c : Chain) : Chain := ⟨c.plans.map Plan.masked⟩

theorem masked_push (c : Chain) (p : Plan) : (c.push p).masked = c.masked.push p.masked := by
  simp [masked, push]

/-- Stages are written alike but for the values of their parameters. -/
theorem statementFrom_masked (index : Nat) (plans : List Plan) (supply : AliasSupply) :
    statementFrom index (plans.map Plan.masked) supply =
      ((statementFrom index plans supply).1.map Statement.masked,
        (statementFrom index plans supply).2) := by
  induction plans generalizing index supply with
  | nil => rfl
  | cons p rest ih =>
    cases rest with
    | nil =>
      simp only [List.map_cons, List.map_nil, statementFrom, Plan.render_masked]
      cases (p.render supply).1 <;> rfl
    | cons next rest =>
      have halias : p.masked.alias? = p.alias? := rfl
      have ih' := ih (index + 1)
      simp only [List.map_cons] at ih'
      simp only [List.map_cons, statementFrom, halias, Plan.render_masked, ih']
      cases hrender : p.render (supply.resolve p.alias?).2 with
      | mk result drawn =>
        cases result with
        | error cause => rfl
        | ok query =>
          simp only [Except.map]
          cases (statementFrom (index + 1) (next :: rest) drawn).1 <;> rfl

/-- A chain is rendered alike but for the values of its parameters. -/
theorem render_masked (c : Chain) (supply : AliasSupply) :
    c.masked.render supply = ((c.render supply).1.map Query.masked, (c.render supply).2) := by
  simp only [render, statement, masked, statementFrom_masked]
  cases (statementFrom 0 c.plans supply).1 with
  | error fault => rfl
  | ok st => exact congrArg (fun q => (Except.ok q, _)) st.query_masked

/-- The query for the columns holds no value. -/
theorem base_masked (c : Chain) : c.masked.base = c.base := by
  have hbase : Plan.base ∘ Plan.masked = Plan.base := rfl
  rw [base, base, masked, List.map_map, hbase]

theorem files_masked (c : Chain) : c.masked.files = c.files := by
  rw [files, files, masked, List.flatMap_map]
  rfl

/-- What chains have in common that differ in nothing but values. -/
structure SameText (c d : Chain) : Prop where
  /-- The same fault or the same text. -/
  text : ∀ supply, (c.render supply).1.map Query.text = (d.render supply).1.map Query.text
  /-- Parameters for the same columns, as many of them and in the same order. -/
  columns : ∀ supply,
    ((c.render supply).1.map fun q => q.params.map Parameter.column) =
      (d.render supply).1.map fun q => q.params.map Parameter.column
  /-- The same names left to draw. -/
  supply : ∀ supply, (c.render supply).2 = (d.render supply).2
  /-- The same probe. -/
  probe : c.probe = d.probe
  /-- The same files. -/
  files : c.files = d.files

/-- A chain has the text of its masked chain. -/
theorem sameText_masked (c : Chain) : c.SameText c.masked where
  text supply := by rw [render_masked]; cases (c.render supply).1 <;> rfl
  columns supply := by
    rw [render_masked]
    cases (c.render supply).1 with
    | error fault => rfl
    | ok q => exact congrArg Except.ok q.columns_masked.symm
  supply supply := by rw [render_masked]
  probe := by rw [probe, probe, base_masked]
  files := c.files_masked.symm

theorem SameText.symm {c d : Chain} (h : c.SameText d) : d.SameText c where
  text supply := (h.text supply).symm
  columns supply := (h.columns supply).symm
  supply supply := (h.supply supply).symm
  probe := h.probe.symm
  files := h.files.symm

theorem SameText.trans {c d e : Chain} (h : c.SameText d) (h' : d.SameText e) :
    c.SameText e where
  text supply := (h.text supply).trans (h'.text supply)
  columns supply := (h.columns supply).trans (h'.columns supply)
  supply supply := (h.supply supply).trans (h'.supply supply)
  probe := h.probe.trans h'.probe
  files := h.files.trans h'.files

/-- Chains that are alike but for their values have the same text. -/
theorem sameText_of_masked_eq {c d : Chain} (h : c.masked = d.masked) : c.SameText d :=
  c.sameText_masked.trans (h ▸ d.sameText_masked.symm)

end Chain

end QueryPipe
