import QueryPipe.Proofs.Command.NormalForm
import QueryPipe.Proofs.Dataset.Question
import QueryPipe.Proofs.Query.Asking

/-!
# What tools do to the rows of a file

Tools that choose columns, filter, sort and cut have a meaning on the rows of a file alone: the
rows that satisfy every condition, in the order of the last sort, as many as the last limit
leaves, in the columns that were chosen last. What it is to satisfy a condition is a matter of the
rules of comparison.

* `answerRows`: that meaning.
* `inquiryOf`: the question that the plan of such tools asks, and `asks_planOf` that it does.
* `answerOn_inquiryOf`: its answer is what the tools mean.
-/

namespace QueryPipe.Command

open Dataset (ColumnKind FileColumn kindOf? namesOf valueIn)
open Sql (Comparator Inquiry Record Rules Test Value)

/-! ## Conditions on rows -/

/-- The comparison of a spelling. -/
def comparator? (spelling : String) : Option Comparator :=
  [Comparator.eq, .ne, .lt, .le, .gt, .ge, .like, .same].find? fun k => k.spelling == spelling

/-- A literal as a value: of its own type, or read as the kind of the column says. -/
def literalValue? (kind : ColumnKind) : Literal → Option Value
  | .whole n => some (.whole n)
  | .text s => some (.text s)
  | .untyped s =>
    if (Literal.untyped s).isNull then some .null
    else
      match kind with
      | .integer => (Numeral.Whole.readInt64 (Text.trim s)).toOption.map .whole
      | .real => (Numeral.Decimal.readText (Text.trim s)).toOption.map .ofReal
      | .text => some (.text s)

/-- What a condition compares with. -/
def operand? (columns : List FileColumn) (c : Condition) : Option Value :=
  (kindOf? columns c.column).bind fun kind => literalValue? kind c.value

/-- Whether a condition is true in a row under some rules of comparison. -/
def isTrueIn (rules : Rules) (columns : List FileColumn) (row : Record) (c : Condition) : Bool :=
  match comparator? c.predicate, kindOf? columns c.column, operand? columns c with
  | some k, some kind, some v => rules.holds k kind.affinity (valueIn columns row c.column) v
  | _, _, _ => false

/-! ## Rows -/

namespace Tool

/-- Whether a tool chooses, filters, sorts or cuts by columns of some names, with one of the
comparisons. -/
def IsOver (names : List String) : Tool → Prop
  | .cut r => ∀ name ∈ r.fields ++ r.operands, name ∈ names
  | .grep r => ∀ c ∈ r.condition.toOption, c.column ∈ names ∧ (comparator? c.predicate).isSome
  | .sort r => ∀ name ∈ r.fields ++ r.operands, name ∈ names
  | .head _ => True
  | _ => False

instance decidableIsOver (names : List String) : (t : Tool) → Decidable (t.IsOver names)
  | .cut r => inferInstanceAs (Decidable (∀ name ∈ r.fields ++ r.operands, name ∈ names))
  | .grep r =>
    inferInstanceAs (Decidable (∀ c ∈ r.condition.toOption,
      c.column ∈ names ∧ (comparator? c.predicate).isSome))
  | .sort r => inferInstanceAs (Decidable (∀ name ∈ r.fields ++ r.operands, name ∈ names))
  | .head _ => inferInstanceAs (Decidable True)
  | .cat _ | .sql _ | .join _ | .eval _ => inferInstanceAs (Decidable False)

/-- The conditions of tools in their order. -/
def conditions (tools : List Tool) : List Condition := tools.filterMap condition?

/-- The columns that tools leave of some: those that were chosen last. -/
def shownColumns (names : List String) (tools : List Tool) : List String :=
  (last? columns? tools).getD names

/-- Rows in the order of the last sort; rows that it does not tell apart stay as they are. -/
def sortedRows (columns : List FileColumn) (tools : List Tool) (rows : List Record) :
    List Record :=
  match last? sorting? tools with
  | none => rows
  | some o =>
    rows.mergeSort fun a b =>
      Sql.orderOfValues o.descending (o.columns.map (valueIn columns a))
        (o.columns.map (valueIn columns b)) != .gt

/-- The rows that the last limit leaves. -/
def limitedRows (tools : List Tool) (rows : List Record) : List Record :=
  match last? limit? tools with
  | none => rows
  | some n => rows.take n.toNat

/-- What tools make of the rows of a file. -/
def answerRows (rules : Rules) (columns : List FileColumn) (tools : List Tool)
    (rows : List Record) : List Record :=
  let kept := rows.filter fun row => (conditions tools).all (isTrueIn rules columns row)
  (limitedRows tools (sortedRows columns tools kept)).map fun row =>
    (shownColumns (namesOf columns) tools).map (valueIn columns row)

end Tool

/-! ## The question of a pipeline -/

/-- A condition as a test, if it has one of the comparisons. -/
def test? (c : Condition) : Option Test :=
  (comparator? c.predicate).map fun k => ⟨c.column, k, c.value.isNull⟩

/-- What tools after a file ask of its table. -/
def inquiryOf (file : String) (tools : List Tool) : Inquiry where
  table := file
  name := "t1"
  columns :=
    match Tool.last? Tool.columns? tools with
    | none => [none]
    | some names => names.map some
  tests := (Tool.conditions tools).filterMap test?
  keys := ((Tool.last? Tool.sorting? tools).map Sorting.columns).getD []
  descending := ((Tool.last? Tool.sorting? tools).map Sorting.descending).getD false
  limit? := Tool.last? Tool.limit? tools

section Question

variable {tools : List Tool} {names : List String} {file : String}

/-- A comparator is spelled as the predicate that it was found for. -/
theorem spelling_of_comparator? {s : String} {k : Comparator} (h : comparator? s = some k) :
    k.spelling = s := by
  simpa using List.find?_some h

/-- The test of a condition is what the condition says. -/
theorem makes_test? {c : Condition} {t : Test} (h : test? c = some t) : c.Makes t := by
  obtain ⟨k, hk, rfl⟩ := Option.map_eq_some_iff.1 h
  exact ⟨rfl, (spelling_of_comparator? hk).symm, rfl⟩

theorem mem_of_last? {α : Type} {clause? : Tool → Option α} {a : α}
    (h : Tool.last? clause? tools = some a) : ∃ t ∈ tools, clause? t = some a := by
  have hmem := List.mem_of_getLast? h
  simpa using hmem

/-- Every condition is about a column of the file, under a predicate that is a comparator. -/
theorem of_mem_conditions (hover : ∀ t ∈ tools, t.IsOver names) {c : Condition}
    (hc : c ∈ Tool.conditions tools) : c.column ∈ names ∧ (comparator? c.predicate).isSome := by
  obtain ⟨t, ht, hcondition⟩ := List.mem_filterMap.1 hc
  cases t with
  | grep r => exact hover _ ht c hcondition
  | _ => cases hcondition

theorem forall₂_makes {conditions : List Condition}
    (h : ∀ c ∈ conditions, (comparator? c.predicate).isSome) :
    List.Forall₂ Condition.Makes conditions (conditions.filterMap test?) := by
  induction conditions with
  | nil => exact .nil
  | cons c conditions ih =>
    rw [List.forall_mem_cons] at h
    obtain ⟨k, hk⟩ := Option.isSome_iff_exists.1 h.1
    have htest : test? c = some ⟨c.column, k, c.value.isNull⟩ := by rw [test?, hk]; rfl
    rw [List.filterMap_cons_some htest]
    exact .cons (makes_test? htest) (ih h.2)

theorem mem_names_of_columns? (hover : ∀ t ∈ tools, t.IsOver names) {shown : List String}
    (h : Tool.last? Tool.columns? tools = some shown) : ∀ name ∈ shown, name ∈ names := by
  obtain ⟨t, ht, hcolumns⟩ := mem_of_last? h
  cases t with
  | cut r =>
    obtain rfl := Option.some.inj hcolumns
    exact hover _ ht
  | _ => cases hcolumns

/-- Only columns of the file are shown. -/
theorem mem_names_of_shownColumns (hover : ∀ t ∈ tools, t.IsOver names) :
    ∀ name ∈ Tool.shownColumns names tools, name ∈ names := by
  intro name hname
  rw [Tool.shownColumns] at hname
  cases hlast : Tool.last? Tool.columns? tools with
  | none => simpa [hlast] using hname
  | some shown => exact mem_names_of_columns? hover hlast name (by simpa [hlast] using hname)

/-- Only columns of the file are sorted by. -/
theorem mem_names_of_sorting? (hover : ∀ t ∈ tools, t.IsOver names) {o : Sorting}
    (h : Tool.last? Tool.sorting? tools = some o) : ∀ name ∈ o.columns, name ∈ names := by
  obtain ⟨t, ht, hsorting⟩ := mem_of_last? h
  cases t with
  | sort r =>
    obtain rfl := Option.some.inj hsorting
    exact hover _ ht
  | _ => cases hsorting

/-- The question is about columns of the names only. -/
theorem of_mem_inquiryOf (file : String) (hover : ∀ t ∈ tools, t.IsOver names) :
    (∀ name, some name ∈ (inquiryOf file tools).columns → name ∈ names) ∧
      (∀ test ∈ (inquiryOf file tools).tests, test.column ∈ names) ∧
      ∀ name ∈ (inquiryOf file tools).keys, name ∈ names := by
  refine ⟨fun name hname => ?_, fun test htest => ?_, fun name hname => ?_⟩
  · rw [inquiryOf] at hname
    cases hlast : Tool.last? Tool.columns? tools with
    | none => simp [hlast] at hname
    | some shown => exact mem_names_of_columns? hover hlast name (by simpa [hlast] using hname)
  · obtain ⟨c, hc, hmakes⟩ := List.mem_filterMap.1 htest
    rw [← (makes_test? hmakes).column]
    exact (of_mem_conditions hover hc).1
  · rw [inquiryOf] at hname
    cases hlast : Tool.last? Tool.sorting? tools with
    | none => simp [hlast] at hname
    | some o => exact mem_names_of_sorting? hover hlast name (by simpa [hlast] using hname)

theorem isPlainName_t1 : Sql.IsPlainName "t1" :=
  ⟨isWord_keyword (by decide), by decide +kernel⟩

/-- The question is about the file. -/
theorem concerns_inquiryOf {columns : List FileColumn} (hwhole : '\x00' ∉ file.toList)
    (hover : ∀ t ∈ tools, t.IsOver (namesOf columns))
    (hplain : ∀ name ∈ namesOf columns, Sql.IsPlainName name)
    (hshown : ∀ shown, Tool.last? Tool.columns? tools = some shown → shown ≠ []) :
    (inquiryOf file tools).Concerns columns := by
  obtain ⟨hcolumns, htests, hkeys⟩ := of_mem_inquiryOf file hover
  refine ⟨⟨isPlainName_t1, fun name h => hplain name (hcolumns name h), ?_,
    fun test h => hplain _ (htests test h), fun name h => hplain name (hkeys name h)⟩, rfl, hwhole,
    hcolumns, htests, hkeys⟩
  rw [inquiryOf]
  cases hlast : Tool.last? Tool.columns? tools with
  | none => simp
  | some shown => simpa [hlast] using hshown shown hlast

/-- The plan of the tools asks the question. -/
theorem asks_planOf (hover : ∀ t ∈ tools, t.IsOver names)
    (hreference : Dataset.reference file = Dataset.quoteIdentifier file) :
    (planOf (.datasets { datasets := [file] }) tools).Asks (inquiryOf file tools) where
  select := by
    have htext : (inquiryOf file tools).columns.map columnText =
        (Tool.last? Tool.columns? tools).getD ["*"] := by
      rw [inquiryOf]
      cases Tool.last? Tool.columns? tools with
      | none => rfl
      | some names => simp [columnText, Function.comp_def]
    rw [htext]
    simp [planOf, Source.selection?, hreference, inquiryOf]
  raw := rfl
  join := by
    have hnone : tools.filterMap Tool.joining? = [] := by
      rw [List.filterMap_eq_nil_iff]
      intro t ht
      cases t with
      | join r => exact absurd (hover _ ht) (by simp [Tool.IsOver])
      | _ => rfl
    simp [planOf, Tool.last?, hnone]
  filter f hf := by
    have hconditions : f.conditions = Tool.conditions tools := by
      simp only [planOf, Tool.filterOf] at hf
      rw [Tool.conditions]
      split at hf
      · cases hf
      · rw [← Option.some.inj hf]
    rw [hconditions]
    exact forall₂_makes fun c hc => (of_mem_conditions hover hc).2
  unfiltered hf := by
    have hnone : Tool.conditions tools = [] := by
      simp only [planOf, Tool.filterOf] at hf
      rw [Tool.conditions]
      split at hf
      · assumption
      · cases hf
    rw [inquiryOf]
    simp [hnone]
  sort o ho := by
    have hlast : Tool.last? Tool.sorting? tools = some o := ho
    simp [inquiryOf, hlast]
  unsorted ho := by
    have hlast : Tool.last? Tool.sorting? tools = none := ho
    simp [inquiryOf, hlast]
  limit := rfl
  name := rfl

end Question

/-! ## The answer -/

section Answer

variable {columns : List FileColumn} {file : String} {tools : List Tool} {params : List Value}

theorem operand?_of_isNull {c : Condition} {kind : ColumnKind}
    (hkind : kindOf? columns c.column = some kind) (h : c.value.isNull = true) :
    operand? columns c = some .null := by
  rw [operand?, hkind, (Literal.isNull_iff _).1 h]
  rfl

/-- The tests that conditions make hold in a row where the conditions are true, if the parameters
are what these compare with. -/
theorem allHoldOn_tests (rules : Rules) {conditions : List Condition}
    (h : ∀ c ∈ conditions, c.column ∈ namesOf columns ∧ (comparator? c.predicate).isSome)
    {k : Nat} (hparams : List.Forall₂ (fun c v => operand? columns c = some v)
      (conditions.filter fun c => !c.value.isNull) (params.drop k)) (row : Record) :
    Test.allHoldOn rules columns params row k (conditions.filterMap test?) =
      conditions.all (isTrueIn rules columns row) := by
  induction conditions generalizing k with
  | nil => rfl
  | cons c conditions ih =>
    rw [List.forall_mem_cons] at h
    obtain ⟨⟨hname, hcomparator⟩, hrest⟩ := h
    obtain ⟨comparator, hcomparator⟩ := Option.isSome_iff_exists.1 hcomparator
    obtain ⟨kind, hkind⟩ := Dataset.exists_kindOf? hname
    have htest : test? c = some ⟨c.column, comparator, c.value.isNull⟩ := by
      rw [test?, hcomparator]
      rfl
    have hholds : ∀ v, operand? columns c = some v →
        ((⟨c.column, comparator, c.value.isNull⟩ : Test).given params k = v) →
        (⟨c.column, comparator, c.value.isNull⟩ : Test).holdsOn rules columns params row k =
          isTrueIn rules columns row c := by
      intro v hv hgiven
      rw [Test.holdsOn, hgiven, hkind, isTrueIn, hcomparator, hkind, hv]
      rfl
    rw [List.filterMap_cons_some htest, List.all_cons, Test.allHoldOn]
    cases hnull : c.value.isNull with
    | true =>
      rw [List.filter_cons_of_neg (by simp [hnull])] at hparams
      rw [hnull] at hholds
      rw [hholds .null (operand?_of_isNull hkind hnull) rfl]
      exact congrArg _ (ih hrest hparams)
    | false =>
      rw [List.filter_cons_of_pos (by simp [hnull])] at hparams
      obtain ⟨v, others, hv, hothers, hdrop⟩ := List.forall₂_cons_left_iff.1 hparams
      have hgiven : params[k]? = some v := by
        rw [← List.head?_drop, hdrop]
        rfl
      have hnext : params.drop (k + 1) = others := by
        rw [← List.tail_drop, hdrop]
        rfl
      rw [hnull] at hholds
      rw [hholds v hv (by simp [Test.given, hgiven])]
      exact congrArg _ (ih hrest (hnext ▸ hothers))

theorem shownIn_inquiryOf (file : String) (tools : List Tool) (names : List String) :
    (inquiryOf file tools).shownIn names = Tool.shownColumns names tools := by
  rw [Inquiry.shownIn, inquiryOf, Tool.shownColumns]
  cases Tool.last? Tool.columns? tools with
  | none => simp
  | some names => simp [List.flatMap_map]

theorem sortedOn_inquiryOf (file : String) (tools : List Tool) (rows : List Record) :
    (inquiryOf file tools).sortedOn columns rows = Tool.sortedRows columns tools rows := by
  rw [Inquiry.sortedOn, inquiryOf, Tool.sortedRows]
  cases Tool.last? Tool.sorting? tools with
  | none =>
    exact List.mergeSort_of_pairwise (List.pairwise_of_forall fun _ _ => rfl)
  | some o => rfl

theorem cut_inquiryOf (file : String) (tools : List Tool) (rows : List Record) :
    (inquiryOf file tools).cut rows = Tool.limitedRows tools rows := rfl

/-- The answer to the question is what the tools mean. -/
theorem answerOn_inquiryOf (rules : Rules) (file : String) (rows : List Record)
    (hover : ∀ t ∈ tools, t.IsOver (namesOf columns))
    (hparams : List.Forall₂ (fun c v => operand? columns c = some v)
      ((Tool.conditions tools).filter fun c => !c.value.isNull) params) :
    (inquiryOf file tools).answerOn rules columns params rows =
      Tool.answerRows rules columns tools rows := by
  have hhold : ∀ row : Record,
      Test.allHoldOn rules columns params row 0 (inquiryOf file tools).tests =
        (Tool.conditions tools).all (isTrueIn rules columns row) :=
    fun row => allHoldOn_tests (k := 0) rules (fun c hc => of_mem_conditions hover hc) hparams row
  simp only [Inquiry.answerOn, hhold, shownIn_inquiryOf, sortedOn_inquiryOf, cut_inquiryOf,
    Tool.answerRows]

end Answer

end QueryPipe.Command
