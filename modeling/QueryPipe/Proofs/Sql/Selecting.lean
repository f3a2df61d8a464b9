import QueryPipe.Proofs.Sql.Inquiry
import QueryPipe.Sql.Script

/-!
# What a question about one table comes to

In a table whose columns can be told apart, a name stands for one column. So the names of a question
are found, a test comes to what the comparison of a cell says, and the outputs show the columns that
were asked for.

* `lookup_called`, `resolve_test`: names and tests as formulas.
* `filterRecords_tests`: the rows that are left.
* `outputs_question`: the columns that are shown.
-/

namespace QueryPipe.Sql

/-! ## Columns of a table -/

namespace Table

/-- The names of the columns. -/
def names (t : Table) : List String := t.columns.map TableColumn.name

/-- A column of a name, as relations see it. -/
def columnOf (t : Table) (name : String) : Column :=
  ((t.columns.find? fun c => c.name == name).map fun c => (t.field c).column).getD default

/-- The place of a column. -/
def place (t : Table) (name : String) : Place := ⟨t.names.idxOf name, t.columnOf name⟩

/-- What a row has in a column. -/
def cell (t : Table) (row : Record) (name : String) : Value :=
  row[t.names.idxOf name]?.getD .null

/-- A column of a table that has another name in a question. -/
def calledField (t : Table) (name : String) (c : TableColumn) : Field :=
  { t.field c with table? := some name }

/-- The columns of a table that has another name in a question, and the number of the row. -/
def calledFields (t : Table) (name : String) : List Field :=
  t.columns.map (t.calledField name) ++ [{ t.numberField with table? := some name }]

theorem map_called_fields (t : Table) (name : String) :
    (t.fields.map fun f => { f with table? := some name }) = t.calledFields name := by
  simp [fields, calledFields, calledField, Function.comp_def]

/-- Whether no two names are the same, without regard to case. -/
def HasDistinctNames (t : Table) : Prop :=
  t.names.Pairwise fun a b => Text.sameWord a b = false

end Table

theorem sameWord_self (s : String) : Text.sameWord s s = true := by simp [Text.sameWord]

theorem sameWord_comm (s t : String) : Text.sameWord s t = Text.sameWord t s := by
  rw [Text.sameWord, Text.sameWord, Bool.beq_comm]

section Lookup

variable {t : Table} {name called : String}

/-- A reference to a column, as it stands in a question without quotes. -/
def plainReference (name : String) : Reference := ⟨[], name, false, true⟩

theorem matching_none {fields : List Field} {r : Reference} {hidden : Bool} (n : Nat)
    (h : ∀ f ∈ fields, (f.hidden == hidden && f.isMeant r) = false) :
    Scope.matching r hidden n fields = [] := by
  induction fields generalizing n with
  | nil => rfl
  | cons f rest ih =>
    have hf := h f List.mem_cons_self
    rw [Scope.matching, if_neg (by simp [hf]), ih _ fun g hg => h g (List.mem_cons_of_mem f hg)]

/-- A bare name means the field of a called table whose column has that name. -/
theorem isMeant_calledField (c : TableColumn) :
    (t.calledField called c).isMeant (plainReference name) = Text.sameWord name c.name := by
  simp [Field.isMeant, plainReference, Table.calledField, Table.field, Field.fits]

/-- One column of a table has the name that it is asked for. -/
theorem matching_columns {columns : List TableColumn} {after : List Field} (n : Nat)
    (hdistinct : (columns.map TableColumn.name).Pairwise fun a b => Text.sameWord a b = false)
    (hname : name ∈ columns.map TableColumn.name) (hafter : ∀ f ∈ after, f.hidden = true) :
    Scope.matching (plainReference name) false n (columns.map (t.calledField called) ++ after) =
      [⟨n + (columns.map TableColumn.name).idxOf name,
        ((columns.find? fun c => c.name == name).map fun c =>
          (t.field c).column).getD default⟩] := by
  induction columns generalizing n with
  | nil => cases hname
  | cons c columns ih =>
    rw [List.map_cons, List.pairwise_cons] at hdistinct
    rw [List.map_cons, List.cons_append, Scope.matching, isMeant_calledField]
    by_cases hc : c.name = name
    · have hrest : Scope.matching (plainReference name) false (n + 1)
          (columns.map (t.calledField called) ++ after) = [] := by
        refine matching_none _ fun f hf => ?_
        rcases List.mem_append.1 hf with hf | hf
        · obtain ⟨d, hd, rfl⟩ := List.mem_map.1 hf
          have hne := hdistinct.1 d.name (List.mem_map_of_mem hd)
          rw [isMeant_calledField, ← hc, hne, Bool.and_false]
        · rw [hafter f hf]
          rfl
      rw [hrest, if_pos (by rw [hc, sameWord_self]; rfl)]
      simp [hc, Table.calledField]
    · have hmem : name ∈ columns.map TableColumn.name := by
        rcases List.mem_cons.1 hname with h | h
        · exact absurd h.symm hc
        · exact h
      have hne : Text.sameWord name c.name = false := by
        rw [sameWord_comm]
        exact hdistinct.1 name hmem
      rw [hne, Bool.and_false, if_neg (by simp), ih _ hdistinct.2 hmem]
      simp [hc, List.idxOf_cons_ne]
      omega

/-- A name without a qualifier stands for the column of that name. -/
theorem lookup_called (hdistinct : t.HasDistinctNames) (hname : name ∈ t.names) (s : Scope)
    (hfields : s.fields = t.calledFields called) :
    s.lookup (plainReference name) = .ok (.field (t.place name)) := by
  have hmatching : Scope.matching (plainReference name) false 0 s.fields = [t.place name] := by
    rw [hfields, Table.calledFields,
      matching_columns 0 hdistinct hname (by simp [Table.numberField]), Nat.zero_add]
    rfl
  rw [Scope.lookup, hmatching]

end Lookup

/-! ## Tests -/

namespace Comparator

/-- A comparison as a formula. -/
def formula (c : Comparator) (l value : Formula) : Formula :=
  match c.operator? with
  | some op => .binary op l value
  | none => .call (.scalar .like) [value, l]

/-- What a comparison of a column with a value comes to. -/
def value (c : Comparator) (a : Affinity) (v w : Value) : Value :=
  match c.operator? with
  | some op => Formula.binaryValue op a .binary v w
  | none =>
    if w.isNull || v.isNull then .null
    else .ofTruth (some (Value.isLike none w.toText v.toText))

end Comparator

namespace Test

/-- What the column is compared with as a formula, after a number of parameters. -/
def valueFormula (t : Test) (k : Nat) : Formula :=
  if t.missing then .literal .null else .parameter k

/-- A test as a formula. -/
def formula (t : Test) (table : Table) (k : Nat) : Formula :=
  t.comparator.formula (.field (table.place t.column)) (t.valueFormula k)

/-- A formula that must hold along with tests. -/
def conjoinedFormula (table : Table) (f : Formula) : Nat → List Test → Formula
  | _, [] => f
  | k, t :: rest => conjoinedFormula table (.binary .and f (t.formula table k)) (t.next k) rest

/-- All tests as one formula, if there are any. -/
def conjunctionFormula? (table : Table) : List Test → Option Formula
  | [] => none
  | t :: rest => some (conjoinedFormula table (t.formula table 0) (t.next 0) rest)

/-- What the column is compared with. -/
def given (t : Test) (params : List Value) (k : Nat) : Value :=
  if t.missing then .null else params[k]?.getD .null

/-- What a test comes to in a row. -/
def outcome (t : Test) (table : Table) (params : List Value) (row : Record) (k : Nat) : Value :=
  t.comparator.value ((table.columnOf t.column).affinity?.getD .blob) (table.cell row t.column)
    (t.given params k)

/-- Whether a test holds in a row. -/
def holds (t : Test) (table : Table) (params : List Value) (row : Record) (k : Nat) : Bool :=
  (t.outcome table params row k).truth? == some true

/-- Whether all tests hold in a row. -/
def allHold (table : Table) (params : List Value) (row : Record) : Nat → List Test → Bool
  | _, [] => true
  | k, t :: rest => t.holds table params row k && allHold table params row (t.next k) rest

end Test

section Tests

variable {table : Table} {called : String} {s : Scope} {params : List Value} {row : Record}

theorem operation_like (s : Scope) :
    s.operation ⟨"LIKE", false, false⟩ 2 = .ok (.scalar .like) := by
  have haggregate : Aggregate.find? "LIKE" 2 = none := by decide +kernel
  simp only [Scope.operation, haggregate]
  generalize hfound : List.find? _ Scalar.table = found
  have hscalar : found = some ("like", .like, 2, 3) := by
    rw [← hfound]
    decide +kernel
  rw [hscalar]

/-- A condition is resolved to a formula about the column that it names. -/
theorem resolve_test (hdistinct : table.HasDistinctNames)
    (hfields : s.fields = table.calledFields called) {t : Test} (ht : t.column ∈ table.names) (k : Nat) :
    s.resolve (t.expression k) = .ok (t.formula table k) := by
  have hcolumn : s.resolve (nameExpression t.column) = .ok (.field (table.place t.column)) := by
    rw [nameExpression, Scope.resolve]
    exact lookup_called hdistinct ht s hfields
  have hvalue : s.resolve (t.value k) = .ok (t.valueFormula k) := by
    rw [Test.value, Test.valueFormula]
    cases t.missing <;> simp [Scope.resolve]
  rw [Test.expression, Test.formula, Comparator.expression, Comparator.formula]
  cases hop : t.comparator.operator? with
  | some op => simp [Scope.resolve, hcolumn, hvalue, bind, Except.bind, pure, Except.pure]
  | none =>
    simp [Scope.resolve, Scope.resolveAll, operation_like, Scope.within, hcolumn, hvalue, bind,
      Except.bind, pure, Except.pure]

/-- Conditions that are conjoined are resolved one by one. -/
theorem resolve_conjoined (hdistinct : table.HasDistinctNames)
    (hfields : s.fields = table.calledFields called) {tests : List Test}
    (htests : ∀ t ∈ tests, t.column ∈ table.names) {e : Expression} {f : Formula}
    (he : s.resolve e = .ok f) (k : Nat) :
    s.resolve (Test.conjoined e k tests) = .ok (Test.conjoinedFormula table f k tests) := by
  induction tests generalizing e f k with
  | nil => exact he
  | cons t rest ih =>
    refine ih (fun u hu => htests u (List.mem_cons_of_mem t hu)) ?_ _
    have ht := resolve_test hdistinct hfields (htests t List.mem_cons_self) k
    simp [Scope.resolve, he, ht, bind, Except.bind, pure, Except.pure]

/-- The conditions of a question are resolved to the formulas of its tests. -/
theorem resolve?_conjunction (hdistinct : table.HasDistinctNames)
    (hfields : s.fields = table.calledFields called) {tests : List Test}
    (htests : ∀ t ∈ tests, t.column ∈ table.names) :
    s.resolve? (Test.conjunction? tests) = .ok (Test.conjunctionFormula? table tests) := by
  cases tests with
  | nil => rfl
  | cons t rest =>
    have hfirst := resolve_test hdistinct hfields (htests t List.mem_cons_self) 0
    have hall := resolve_conjoined hdistinct hfields
      (fun u hu => htests u (List.mem_cons_of_mem t hu)) hfirst (t.next 0)
    simp [Test.conjunction?, Test.conjunctionFormula?, Scope.resolve?, hall, Except.map]

/-! ## Tests in a row -/

/-- The formula of a condition is worth the outcome of its test. -/
theorem value_test (t : Test) (k : Nat) :
    Formula.value params [] row (t.formula table k) = .ok (t.outcome table params row k) := by
  have hvalue : Formula.value params [] row (t.valueFormula k) = .ok (t.given params k) := by
    rw [Test.valueFormula, Test.given]
    cases t.missing <;> simp [Formula.value]
  have hplain : Formula.affinity? (t.valueFormula k) = none ∧
      Formula.collation? (t.valueFormula k) = none := by
    rw [Test.valueFormula]
    cases t.missing <;> exact ⟨rfl, rfl⟩
  have haffinity : Formula.comparison (.field (table.place t.column)) (t.valueFormula k) =
      (table.columnOf t.column).affinity?.getD .blob := by
    have hfield : Formula.affinity? (.field (table.place t.column)) =
        (table.columnOf t.column).affinity? := rfl
    rw [Formula.comparison, hplain.1, hfield]
    cases (table.columnOf t.column).affinity? <;> rfl
  have hcollation : Formula.collation (.field (table.place t.column)) (t.valueFormula k) =
      .binary := by
    rw [Formula.collation, hplain.2]
    rfl
  rw [Test.formula, Test.outcome, Comparator.formula, Comparator.value]
  cases hop : t.comparator.operator? with
  | some op =>
    simp only [Formula.value, hvalue, haffinity, hcollation, bind, Except.bind]
    rfl
  | none =>
    simp only [Formula.value, Formula.values, hvalue, bind, Except.bind, Scalar.apply,
      Scalar.likeOf, Scalar.escapeOf, pure, Except.pure, List.any_nil, Bool.false_eq_true, if_false]
    show (if (t.given params k).isNull || (table.cell row t.column).isNull then
      Except.ok Value.null else _) = _
    split <;> rfl

/-- A truth value survives being written as a value. -/
theorem truth?_ofTruth (b? : Option Bool) : (Value.ofTruth b?).truth? = b? := by
  rcases b? with _ | _ | _ <;> rfl

/-- Two conditions hold together if and only if each of them does. -/
theorem both_eq_true (a b : Option Bool) :
    (Formula.both a b == some true) = (a == some true && b == some true) := by
  rcases a with _ | _ | _ <;> rcases b with _ | _ | _ <;> rfl

/-- A conjunction holds of a row if and only if each of its tests does. -/
theorem holds_conjoined {f : Formula} {v : Value}
    (hf : Formula.value params [] row f = .ok v) (k : Nat) (tests : List Test) :
    Formula.holds params [] row (Test.conjoinedFormula table f k tests) =
      .ok (v.truth? == some true && Test.allHold table params row k tests) := by
  induction tests generalizing f v k with
  | nil => simp [Test.conjoinedFormula, Formula.holds, hf, Test.allHold, Except.map]
  | cons t rest ih =>
    have hand : Formula.value params [] row (.binary .and f (t.formula table k)) =
        .ok (.ofTruth (Formula.both v.truth? (t.outcome table params row k).truth?)) := by
      simp [Formula.value, hf, value_test, bind, Except.bind, pure, Except.pure,
        Formula.binaryValue]
    rw [Test.conjoinedFormula, ih hand, truth?_ofTruth, both_eq_true, Test.allHold, Test.holds,
      Bool.and_assoc]

theorem filterM_of_ok {p : Record → Except Problem Bool} {q : Record → Bool}
    (h : ∀ row, p row = .ok (q row)) (rows : List Record) :
    rows.filterM p = .ok (rows.filter q) := by
  have haux : ∀ acc, List.filterAuxM p rows acc = .ok ((rows.filter q).reverse ++ acc) := by
    induction rows with
    | nil => intro acc; rfl
    | cons row rest ih =>
      intro acc
      simp only [List.filterAuxM, h, bind, Except.bind, ih]
      cases hrow : q row <;> simp [hrow]
  simp [List.filterM, haux, bind, Except.bind, pure, Except.pure]

/-- The rows that satisfy all tests. -/
theorem filterRecords_tests (tests : List Test) (rows : List Record) :
    filterRecords params (Test.conjunctionFormula? table tests) rows =
      .ok (rows.filter fun row => Test.allHold table params row 0 tests) := by
  cases tests with
  | nil =>
    show Except.ok rows = Except.ok (rows.filter fun _ => true)
    rw [List.filter_true]
  | cons t rest =>
    exact filterM_of_ok (fun row => holds_conjoined (value_test t 0) _ rest) rows

end Tests

/-! ## Columns that are shown -/

/-- The names of the columns that are shown. -/
def shownNames (t : Table) (columns : List (Option String)) : List String :=
  columns.flatMap fun column? =>
    match column? with
    | some name => [name]
    | none => t.names

/-- Whether an output shows the column of a name. -/
structure Output.Shows (t : Table) (name : String) (o : Output) : Prop where
  /-- Its formula is the place of the column. -/
  formula : o.formula = .field (t.place name)
  /-- It is described as the column is. -/
  column : o.column = t.columnOf name
  /-- It has no name but the column's. -/
  named : ∀ s, o.name? = some s → s = name

section Outputs

variable {t : Table} {called : String}

/-- Of things that exclude each other at most one is kept. -/
theorem length_filter_le_one {α : Type} {R : α → α → Prop} {p : α → Bool} {as : List α}
    (h : as.Pairwise R) (hp : ∀ a b, p a = true → p b = true → ¬ R a b) :
    (as.filter p).length ≤ 1 := by
  have hfilter := h.filter p
  rcases hcases : as.filter p with _ | ⟨a, _ | ⟨b, rest⟩⟩
  · simp
  · simp
  · have ha : a ∈ as.filter p := by simp [hcases]
    have hb : b ∈ as.filter p := by simp [hcases]
    rw [hcases, List.pairwise_cons] at hfilter
    exact absurd (hfilter.1 b List.mem_cons_self)
      (hp a b (List.of_mem_filter ha) (List.of_mem_filter hb))

/-- All columns of a table with distinct names can be told apart. -/
theorem ambiguousName?_called (hdistinct : t.HasDistinctNames) :
    ambiguousName? isStarred (t.calledFields called) = none := by
  rw [ambiguousName?, Option.map_eq_none_iff, List.find?_eq_none]
  intro f hf
  rw [Bool.and_eq_true, not_and, decide_eq_true_eq, Nat.not_le]
  intro hstarred
  have hcolumn : ∃ c, f = t.calledField called c := by
    rcases List.mem_append.1 hf with hf | hf
    · obtain ⟨c, -, rfl⟩ := List.mem_map.1 hf
      exact ⟨c, rfl⟩
    · rw [List.mem_singleton.1 hf] at hstarred
      cases hstarred
  obtain ⟨c, rfl⟩ := hcolumn
  have hnumber : areAlike (t.calledField called c) { t.numberField with table? := some called } =
      false := by
    simp [areAlike, Table.numberField]
  have hcolumns : ((t.columns.map (t.calledField called)).filter
      (areAlike (t.calledField called c))).length ≤ 1 := by
    refine length_filter_le_one (R := fun f g => Text.sameWord f.column.name g.column.name = false)
      ?_ ?_
    · rw [List.pairwise_map]
      exact List.pairwise_map.1 hdistinct
    · intro f g hf hg
      have hname : ∀ g, areAlike (t.calledField called c) g = true →
          (t.calledField called c).column.name.toLower = g.column.name.toLower := by
        intro g hg
        simp only [areAlike, Bool.and_eq_true] at hg
        simpa [Text.sameWord] using hg.2
      simp [Text.sameWord, ← hname f hf, hname g hg]
  rw [Table.calledFields, List.filter_append, List.filter_cons_of_neg (by simp [hnumber]),
    List.filter_nil, List.append_nil]
  omega

theorem columnOf_of_mem (hdistinct : t.HasDistinctNames) {c : TableColumn} (hc : c ∈ t.columns) :
    t.columnOf c.name = (t.field c).column := by
  have hfind : t.columns.find? (fun d => d.name == c.name) = some c := by
    have hpairwise := List.pairwise_map.1 hdistinct
    revert hpairwise hc
    generalize t.columns = columns
    intro hc hpairwise
    induction columns with
    | nil => cases hc
    | cons d rest ih =>
      rw [List.pairwise_cons] at hpairwise
      rcases List.mem_cons.1 hc with rfl | hc
      · simp
      · have hne : d.name ≠ c.name := by
          intro hname
          have hsame := hpairwise.1 c hc
          rw [hname, sameWord_self] at hsame
          cases hsame
        rw [List.find?_cons_of_neg (by simpa using hne)]
        exact ih hc hpairwise.2
  rw [Table.columnOf, hfind]
  rfl

/-- No name stands twice among columns whose names differ in more than case. -/
theorem nodup_names (hdistinct : t.HasDistinctNames) : t.names.Nodup := by
  refine hdistinct.imp fun {a b} hab => ?_
  rintro rfl
  rw [sameWord_self] at hab
  cases hab

theorem starOutputs_called (n : Nat) (columns : List TableColumn) :
    starOutputs isStarred n
        (columns.map (t.calledField called) ++ [{ t.numberField with table? := some called }]) =
      columns.mapIdx fun i c => Output.ofField (n + i) (t.calledField called c) := by
  induction columns generalizing n with
  | nil => rfl
  | cons c columns ih =>
    rw [List.map_cons, List.cons_append, starOutputs,
      if_pos (show isStarred (t.calledField called c) = true from rfl), ih, List.mapIdx_cons]
    simp [Nat.add_assoc, Nat.add_comm 1]

/-- All columns of a table are shown in their order. -/
theorem shows_star (hdistinct : t.HasDistinctNames) :
    List.Forall₂ (Output.Shows t) t.names (starOutputs isStarred 0 (t.calledFields called)) := by
  rw [Table.calledFields, starOutputs_called, List.forall₂_iff_get]
  refine ⟨by simp [Table.names], fun i hi hi' => ?_⟩
  have hlt : i < t.columns.length := by simpa [Table.names] using hi
  have hplace : t.names.idxOf t.columns[i].name = i := by
    have hnodup := (nodup_names hdistinct).idxOf_getElem i (by simpa [Table.names] using hlt)
    simpa [Table.names] using hnodup
  have hcolumn := columnOf_of_mem hdistinct (List.getElem_mem hlt)
  have hget : t.names.get ⟨i, hi⟩ = t.columns[i].name := by simp [Table.names]
  rw [hget]
  refine ⟨?_, ?_, ?_⟩
  · simp [Table.place, hplace, hcolumn, Output.ofField, Table.calledField]
  · simp [hcolumn, Output.ofField, Table.calledField, Table.field]
  · intro s hs
    simpa [Output.ofField, Table.calledField, Table.field] using hs.symm

/-- A name that a table has is shown as its column. -/
theorem shows_name {name : String} (hdistinct : t.HasDistinctNames) (hname : name ∈ t.names)
    (span : String) :
    (Output.ofFormula none (nameExpression name) span (.field (t.place name))).Shows t name := by
  obtain ⟨c, hc, rfl⟩ := List.mem_map.1 hname
  have hcolumn := columnOf_of_mem hdistinct hc
  refine ⟨rfl, ?_, ?_⟩
  · simp [Output.ofFormula, Table.place, hcolumn, Table.field]
  · intro s hs
    cases hs

/-- The outputs of a question. -/
theorem outputs_question (hdistinct : t.HasDistinctNames) {s : Scope}
    (hfields : s.fields = t.calledFields called) {asked : List (Option String)}
    {columns : List ResultColumn} (hcolumns : List.Forall₂ ResultColumn.IsFor asked columns)
    (hnames : ∀ name, some name ∈ asked → name ∈ t.names) :
    ∃ found, outputs s columns = .ok found ∧
      List.Forall₂ (Output.Shows t) (shownNames t asked) found := by
  induction hcolumns with
  | nil => exact ⟨[], rfl, .nil⟩
  | @cons column? c asked columns hc _ ih =>
    obtain ⟨more, hmore, hshows⟩ := ih fun name h => hnames name (List.mem_cons_of_mem _ h)
    cases column? with
    | none =>
      obtain rfl : c = .all := hc
      have hstar : List.Forall₂ (Output.Shows t) t.names
          (starOutputs isStarred 0 (t.calledFields called)) := shows_star hdistinct
      refine ⟨_, ?_, List.rel_append hstar hshows⟩
      rw [outputs, starColumns, hfields, ambiguousName?_called hdistinct, hmore]
      rfl
    | some name =>
      obtain ⟨span, rfl⟩ := hc
      have hname := hnames name List.mem_cons_self
      refine ⟨_, ?_, .cons (shows_name hdistinct hname span) hshows⟩
      have hlookup := lookup_called hdistinct hname s hfields
      rw [outputs, nameExpression, Scope.resolve]
      rw [plainReference] at hlookup
      rw [hlookup, hmore]
      rfl

end Outputs

end QueryPipe.Sql
