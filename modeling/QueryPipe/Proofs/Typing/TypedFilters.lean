import QueryPipe.Proofs.Command.Values
import QueryPipe.Proofs.Numeral.Whole
import QueryPipe.Proofs.Query.ChainDraft

/-!
# Filters with and without a type

The type of a filter's value is given with the filter, or it is left to the column. On a column of
whole numbers, a filter that is told its value is a number adds the condition that one without a
type comes to when it is bound; on a column of texts, a filter that is told its value is a text
does. The statements of the two are one text, and a value that one of them refuses the other
refuses as well, for the same reason.

* `Chain.render_addCondition`: a condition more is one parameter more, behind all others.
* `IsWholeText`: the values that are whole numbers.
* `BindAlike`: two chains that are bound to the same values under a catalog.
* `bindAlike_of_typed`: the two filters side by side.
-/

namespace QueryPipe

/-! ## One condition more -/

theorem Plan.params_addCondition {p : Plan} {k : Condition} (h : k.value.isNull = false) :
    (p.addCondition k).params = p.params ++ [⟨k.column, k.value⟩] := by
  have hparameter : k.parameter? = some ⟨k.column, k.value⟩ := by simp [Condition.parameter?, h]
  cases hfilter : p.filter with
  | none => simp [Plan.params, addCondition, hfilter, Filter.params, Filter.and, hparameter]
  | some f => simp [Plan.params, addCondition, hfilter, Filter.params, Filter.and, hparameter]

namespace Chain

/-- A condition that is added to the last plan leaves one parameter, and that comes last. -/
theorem render_addCondition {init : Chain} {p : Plan} {k : Condition} {supply : AliasSupply}
    {q : Query} (h : ((init.push p).render supply).1 = .ok q) (hraw : p.raw = none)
    (hvalue : k.value.isNull = false) :
    ∃ text, ((init.push (p.addCondition k)).render supply).1 =
      .ok ⟨text, q.params ++ [⟨k.column, k.value⟩]⟩ := by
  obtain ⟨-, hreadable⟩ := ((init.push p).render_isOk_iff supply).1 ⟨q, h⟩
  rw [plans_push, List.forall_mem_append, List.forall_mem_singleton] at hreadable
  have hreadable' : ∀ r ∈ (init.push (p.addCondition k)).plans, r.IsReadable := by
    rw [plans_push, List.forall_mem_append, List.forall_mem_singleton]
    exact hreadable
  obtain ⟨q', h'⟩ := ((init.push (p.addCondition k)).render_isOk_iff supply).2
    ⟨by simp, hreadable'⟩
  have hraw' : (p.addCondition k).raw = none := hraw
  have hparams : q'.params = q.params ++ [⟨k.column, k.value⟩] := by
    rw [params_of_render h', params_of_render h]
    simp [hraw, hraw', Plan.params_addCondition hvalue]
  exact ⟨q'.text, by rw [h', ← hparams]⟩

/-- Conditions that differ only in their values, neither of them missing, leave one text. -/
theorem sameText_addCondition (init : Chain) (p : Plan) {k l : Condition} (h : k.masked = l.masked) :
    (init.push (p.addCondition k)).SameText (init.push (p.addCondition l)) :=
  sameText_of_masked_eq (by rw [masked_push, masked_push, Plan.masked_addCondition,
    Plan.masked_addCondition, h])

end Chain

/-! ## Alike when bound -/

/-- How two chains are bound alike under a catalog, each of which is a chain with one condition
more on a column. Whatever names are drawn, they have one text; the parameters of the chain stand
in both as they are; and the parameters behind these are bound to one value. -/
def BindAlike (catalog : Catalog) (c typed untyped : Chain) (column : String) (value : Bound) :
    Prop :=
  ∀ supply, ∃ q text x y, (c.render supply).1 = .ok q ∧
    (typed.render supply).1 = .ok ⟨text, q.params ++ [⟨column, x⟩]⟩ ∧
    (untyped.render supply).1 = .ok ⟨text, q.params ++ [⟨column, y⟩]⟩ ∧
    Parameter.bind catalog ⟨column, x⟩ = .ok value ∧
    Parameter.bind catalog ⟨column, y⟩ = .ok value

theorem BindAlike.of_conditions {catalog : Catalog} {init : Chain} {p : Plan}
    {supply : AliasSupply} {q : Query} (h : ((init.push p).render supply).1 = .ok q)
    (hraw : p.raw = none) {column predicate : String} {x y : Literal} {value : Bound}
    (hx : x.isNull = false) (hy : y.isNull = false)
    (hbindx : Parameter.bind catalog ⟨column, x⟩ = .ok value)
    (hbindy : Parameter.bind catalog ⟨column, y⟩ = .ok value) :
    BindAlike catalog (init.push p) (init.push (p.addCondition ⟨column, predicate, x⟩))
      (init.push (p.addCondition ⟨column, predicate, y⟩)) column value := by
  intro supply'
  obtain ⟨q', hq'⟩ := ((init.push p).render_isOk_iff supply').2
    (((init.push p).render_isOk_iff supply).1 ⟨q, h⟩)
  obtain ⟨text, hrender⟩ :=
    Chain.render_addCondition (k := ⟨column, predicate, x⟩) hq' hraw hx
  obtain ⟨text', hrender'⟩ :=
    Chain.render_addCondition (k := ⟨column, predicate, y⟩) hq' hraw hy
  have hmasked : (⟨column, predicate, x⟩ : Condition).masked =
      (⟨column, predicate, y⟩ : Condition).masked := by
    simp only [Condition.masked, Literal.masked_congr (hx.trans hy.symm)]
  have htext := (init.sameText_addCondition p hmasked).text supply'
  rw [hrender, hrender'] at htext
  obtain rfl : text = text' := Except.ok.inj htext
  exact ⟨q', text, x, y, hq', hrender, hrender', hbindx, hbindy⟩

namespace Command

/-! ## Filters -/

/-- Whether a text, without the blanks around it, is a whole number of 64 bits: an optional sign
and digits that spell a number in the range. -/
def IsWholeText (value : String) (n : Int64) : Prop :=
  ∃ m : Int, Numeral.Whole.Spells (Text.trim value).toList m ∧ -2 ^ 63 ≤ m ∧ m ≤ 2 ^ 63 - 1 ∧
    n.toInt = m

theorem isWholeText_iff {value : String} {n : Int64} :
    IsWholeText value n ↔ Numeral.Whole.readInt64 (Text.trim value) = .ok n := by
  rw [Numeral.Whole.readInt64_eq_ok_iff]
  constructor
  · rintro ⟨m, hspells, -, -, rfl⟩
    exact hspells
  · exact fun hspells => ⟨n.toInt, hspells, n.le_toInt, Int.le_sub_one_of_lt n.toInt_lt, rfl⟩

/-- The filter with its column, its comparison and its value after switches. -/
def GrepRequest.ofSwitches (column predicate value : String) : GrepRequest where
  field? := some column
  predicate? := some predicate
  value? := some value

theorem GrepRequest.condition_ofSwitches (column predicate value : String) :
    (ofSwitches column predicate value).condition =
      .ok ⟨column, predicate, .untyped value⟩ := rfl

theorem GrepRequest.condition_text (column predicate value : String) :
    { ofSwitches column predicate value with text := true }.condition =
      .ok ⟨column, predicate, .text value⟩ := rfl

theorem GrepRequest.condition_integer (column predicate value : String) :
    { ofSwitches column predicate value with integer := true }.condition =
      match Numeral.Whole.readInt64 (Text.trim value) with
      | .ok n => .ok ⟨column, predicate, .whole n⟩
      | .error problem => .error (.notWhole value problem) := by
  have hcomparison : { ofSwitches column predicate value with integer := true }.comparison =
      .ok ⟨column, some predicate, value⟩ := rfl
  rw [condition, hcomparison]
  simp only [bind, Except.bind, literal, if_true]
  cases Numeral.Whole.readInt64 (Text.trim value) <;> rfl

namespace Tool

theorem apply_grep_of_ok {r : GrepRequest} {k : Condition} (h : r.condition = .ok k)
    (init : Chain) (p : Plan) :
    (Tool.grep r).apply (init.push p) = .ok (init.push (p.addCondition k)) := by
  simp only [apply, h, changeLast_push]

theorem apply_grep_of_error {r : GrepRequest} {problem : Problem} (h : r.condition = .error problem)
    (c : Chain) : (Tool.grep r).apply c = .error (.argument problem) := by
  simp only [apply, h]

/-- A filter that types its value beside one that leaves the type to the column. On a column of
whole numbers both fail for the same reason, or both come to the same number, and that is so
exactly if the value is one. On a column of texts both come to the text. -/
theorem bindAlike_of_typed {c : Chain} {supply : AliasSupply} {q : Query} {last : Plan}
    {catalog : Catalog} {column predicate value declared : String}
    (hgenerates : (c.render supply).1 = .ok q) (hlast : c.last? = some last)
    (hraw : last.raw = none) (hvalue : value ≠ "NULL")
    (hlookup : catalog.lookup column = some declared) :
    let untyped := GrepRequest.ofSwitches column predicate value
    ∃ d, (Tool.grep untyped).apply c = .ok d ∧
      (TypeFamily.ofDeclared declared = .integer →
        (∃ n e, IsWholeText value n ∧
          (Tool.grep { untyped with integer := true }).apply c = .ok e ∧
          BindAlike catalog c e d column (.whole n)) ∨
        ((¬ ∃ n, IsWholeText value n) ∧ ∃ problem,
          (Tool.grep { untyped with integer := true }).apply c =
            .error (.argument (.notWhole value problem)) ∧
          Parameter.bind catalog ⟨column, .untyped value⟩ =
            .error (.coercion column value (.whole problem)))) ∧
      (TypeFamily.ofDeclared declared = .text →
        ∃ e, (Tool.grep { untyped with text := true }).apply c = .ok e ∧
          BindAlike catalog c e d column (.text value)) := by
  intro untyped
  obtain ⟨init, rfl⟩ : ∃ init : Chain, c = init.push last := by
    rcases c.eq_empty_or_push with rfl | ⟨init, p, rfl⟩
    · cases hlast
    · obtain rfl : p = last := Option.some.inj ((Chain.last?_push init p).symm.trans hlast)
      exact ⟨init, rfl⟩
  have hopen : (Literal.untyped value).isNull = false := by simp [Literal.isNull, hvalue]
  have hbind : Parameter.bind catalog ⟨column, .untyped value⟩ =
      Parameter.bindAs declared column value := by
    simp only [Parameter.bind, hlookup]
  delta Parameter.bindAs at hbind
  refine ⟨_, apply_grep_of_ok (GrepRequest.condition_ofSwitches ..) init last, ?_, ?_⟩
  · intro hfamily
    have hcondition := GrepRequest.condition_integer column predicate value
    cases hread : Numeral.Whole.readInt64 (Text.trim value) with
    | ok n =>
      rw [hread] at hcondition
      simp only [hfamily, hread] at hbind
      exact .inl ⟨n, _, isWholeText_iff.2 hread, apply_grep_of_ok hcondition init last,
        .of_conditions hgenerates hraw rfl hopen rfl hbind⟩
    | error problem =>
      rw [hread] at hcondition
      simp only [hfamily, hread] at hbind
      refine .inr ⟨?_, problem, apply_grep_of_error hcondition _, hbind⟩
      rintro ⟨n, hn⟩
      rw [isWholeText_iff, hread] at hn
      cases hn
  · intro hfamily
    simp only [hfamily] at hbind
    exact ⟨_, apply_grep_of_ok (GrepRequest.condition_text ..) init last,
      .of_conditions hgenerates hraw rfl hopen rfl hbind⟩

/-- The least number of 64 bits on a column that is found by the tail of its name, behind a stage
and beside a condition that is there already. -/
theorem bindAlike_of_typed_least :
    let adults : Plan := { select := some { tables := ["people"], columns := ["*"] },
                           filter := some ⟨[⟨"name", "LIKE", .untyped "A%"⟩]⟩ }
    let c : Chain := ⟨[{ raw := some "SELECT * FROM staff" }, adults]⟩
    let catalog : Catalog := [⟨"name", "VARCHAR(20)"⟩, ⟨"age", "bigint"⟩]
    let untyped := GrepRequest.ofSwitches "p.age" ">" " -09223372036854775808\n"
    ∃ d e, (Tool.grep untyped).apply c = .ok d ∧
      (Tool.grep { untyped with integer := true }).apply c = .ok e ∧
      BindAlike catalog c e d "p.age" (.whole Int64.minValue) := by
  intro adults c catalog untyped
  have hgenerates : (c.render {}).1 = .ok
      ⟨"WITH t1 AS (SELECT * FROM staff) SELECT * FROM people AS t2 WHERE name LIKE ?",
        [⟨"name", .untyped "A%"⟩]⟩ := by decide +kernel
  have hlookup : catalog.lookup "p.age" = some "bigint" := by decide +kernel
  have hread : Numeral.Whole.readInt64 (Text.trim " -09223372036854775808\n") =
      .ok Int64.minValue := by decide +kernel
  have hvalue : " -09223372036854775808\n" ≠ "NULL" := by decide
  obtain ⟨d, hd, hinteger, -⟩ : ∃ d, (Tool.grep untyped).apply c = .ok d ∧ _ :=
    bindAlike_of_typed hgenerates rfl rfl hvalue hlookup
  rcases hinteger (by decide +kernel) with ⟨n, e, hn, he, halike⟩ | ⟨hnone, -⟩
  · rw [isWholeText_iff, hread] at hn
    obtain rfl := Except.ok.inj hn
    exact ⟨d, e, hd, he, halike⟩
  · exact absurd ⟨_, isWholeText_iff.2 hread⟩ hnone

end Tool

end Command

end QueryPipe
