import Mathlib.Data.List.Pairwise
import QueryPipe.Proofs.Sql.Selecting

/-!
# What a question about one table answers

The answer to a question is stated on the table alone: the rows that hold all tests, sorted, cut,
and shown in the columns that were asked for. The plan of the question, with its names found,
comes to these rows.

* `sortedByKeys_shown`: rows that are sorted after they are shown are sorted before.
* `extent_question`: the columns and the rows of a question.
-/

namespace QueryPipe.Sql

/-! ## The answer -/

/-- The order of the values of keys, by their first difference. -/
def orderOfValues (descending : Bool) : List Value → List Value → Ordering
  | v :: vs, w :: ws =>
    (if descending then (Value.order v w).swap else Value.order v w).then
      (orderOfValues descending vs ws)
  | _, _ => .eq

namespace Inquiry

/-- Whether a row may stand before another. -/
def mayPrecede (q : Inquiry) (t : Table) (a b : Record) : Bool :=
  orderOfValues q.descending (q.keys.map (t.cell a)) (q.keys.map (t.cell b)) != .gt

/-- The part of rows that the limit leaves. -/
def cut (q : Inquiry) (rows : List Record) : List Record :=
  match q.limit? with
  | none => rows
  | some n => rows.take n.toNat

/-- The rows that a question answers. -/
def answer (q : Inquiry) (t : Table) (params : List Value) : List Record :=
  (q.cut ((t.records.filter fun row => Test.allHold t params row 0 q.tests).mergeSort
    (q.mayPrecede t))).map fun row => (shownNames t q.columns).map (t.cell row)

/-- The columns that a question answers. -/
def answerColumns (q : Inquiry) (t : Table) : List Column :=
  (shownNames t q.columns).map t.columnOf

/-- A limit cuts the rows alike before and after each of them is changed. -/
theorem cut_map (q : Inquiry) (f : Record → Record) (rows : List Record) :
    q.cut (rows.map f) = (q.cut rows).map f := by
  rw [cut, cut]
  cases q.limit? with
  | none => rfl
  | some n => exact List.map_take.symm

/-- Whether a question is about the columns of a table. -/
structure IsAbout (q : Inquiry) (t : Table) : Prop where
  /-- Those that are shown. -/
  columns : ∀ name, some name ∈ q.columns → name ∈ t.names
  /-- Those that are tested. -/
  tests : ∀ test ∈ q.tests, test.column ∈ t.names
  /-- Those that rows are sorted by. -/
  keys : ∀ name ∈ q.keys, name ∈ t.names

end Inquiry

/-! ## Order -/

/-- Whether a key sorts by the column of a name. -/
structure Key.Sorts (t : Table) (descending : Bool) (name : String) (k : Key) : Prop where
  /-- Its formula is the place of the column. -/
  formula : k.formula = .field (t.place name)
  /-- It has the direction. -/
  descending : k.descending = descending
  /-- It does not say where missing values stand. -/
  nullsFirst? : k.nullsFirst? = none

section Keys

variable {t : Table} {called : String} {s : Scope} {q : Inquiry}

/-- Two columns of a table whose names differ but in case are one column. -/
theorem eq_of_sameWord (hdistinct : t.HasDistinctNames) {a b : String} (ha : a ∈ t.names)
    (hb : b ∈ t.names) (h : Text.sameWord a b = true) : a = b := by
  have hsymm : Std.Symm fun a b => Text.sameWord a b = false := ⟨fun a b hab => by
    rw [sameWord_comm, hab]⟩
  by_contra hne
  have hunlike : Text.sameWord a b = false := List.Pairwise.forall hdistinct ha hb hne
  rw [h] at hunlike
  cases hunlike

/-- A key names the output that shows the column of that name. -/
theorem outputMeant?_shown {names : List String} {found : List Output}
    (hfound : List.Forall₂ (Output.Shows t) names found) (hdistinct : t.HasDistinctNames)
    (hnames : ∀ name ∈ names, name ∈ t.names) {key : String} (hkey : key ∈ t.names) {i : Nat}
    (hi : (found.map fun o => o.name?.toList).findIdx? (fun ns => ns.any (Text.sameWord key)) =
      some i) :
    outputFormula found i = .field (t.place key) := by
  induction hfound generalizing i with
  | nil => cases hi
  | @cons name o names found ho _ ih =>
    rw [List.map_cons, List.findIdx?_cons] at hi
    split at hi
    case isTrue hany =>
      obtain rfl := Option.some.inj hi
      obtain ⟨other, hother, hsame⟩ := List.any_eq_true.1 hany
      obtain rfl := ho.named other (by simpa using hother)
      have hname := hnames other List.mem_cons_self
      have heq := eq_of_sameWord hdistinct hkey hname hsame
      rw [heq, ← ho.formula]
      rfl
    case isFalse =>
      obtain ⟨j, hj, rfl⟩ := Option.map_eq_some_iff.1 hi
      rw [← ih (fun n hn => hnames n (List.mem_cons_of_mem _ hn)) hj]
      simp [outputFormula]

/-- The keys that are found sort by the columns that they name. -/
theorem foundKeys_sorts {names : List String} {found : List Output}
    (hfound : List.Forall₂ (Output.Shows t) names found) (hdistinct : t.HasDistinctNames)
    (hnames : ∀ name ∈ names, name ∈ t.names) (hfields : s.fields = t.calledFields called)
    {keys : List String} (hkeys : ∀ name ∈ keys, name ∈ t.names) (n : Nat) :
    ∃ ks, foundKeys s found n (keys.map q.sortKey) = .ok ks ∧
      List.Forall₂ (Key.Sorts t q.descending) keys ks := by
  induction keys generalizing n with
  | nil => exact ⟨[], rfl, .nil⟩
  | cons key keys ih =>
    obtain ⟨ks, hks, hsorts⟩ := ih (fun name h => hkeys name (List.mem_cons_of_mem _ h)) (n + 1)
    have hkey := hkeys key List.mem_cons_self
    have hresolve : s.resolve (nameExpression key) = .ok (.field (t.place key)) := by
      rw [nameExpression, Scope.resolve]
      exact lookup_called hdistinct hkey s hfields
    rw [List.map_cons, foundKeys, hks]
    simp only [Inquiry.sortKey, outputMeant?, nameExpression, Term.bare, if_true, bind,
      Except.bind]
    cases hi : (found.map fun o => o.name?.toList).findIdx?
        (fun ns => ns.any (Text.sameWord key)) with
    | some i =>
      have hmeant := outputMeant?_shown hfound hdistinct hnames hkey hi
      exact ⟨_, rfl, .cons ⟨by simp [collatedAs, hmeant], rfl, rfl⟩ hsorts⟩
    | none =>
      rw [nameExpression] at hresolve
      simp only [hresolve]
      exact ⟨_, rfl, .cons ⟨rfl, rfl, rfl⟩ hsorts⟩

end Keys

/-! ## Rows -/

/-- The selection of a question. -/
def Inquiry.core (q : Inquiry) (t : Table) (outputs : List Formula) (keys : List Key)
    (limit? : Option Limit) : Core where
  outputs
  condition? := Test.conjunctionFormula? t q.tests
  keys
  limit?

section Rows

variable {t : Table} {q : Inquiry} {params : List Value} {ks : List Key}

theorem values_places {names : List String} {fs : List Formula}
    (h : List.Forall₂ (fun name f => f = .field (t.place name)) names fs) (row : Record) :
    Formula.values params [] row fs = .ok (names.map (t.cell row)) := by
  induction h with
  | nil => simp [Formula.values]
  | cons hf _ ih =>
    subst hf
    simp [Formula.values, ih, bind, Except.bind, pure, Except.pure, Table.cell, Table.place]

/-- The order by the found keys is the order of the values of their columns. -/
theorem orderByKeys_sorts {descending : Bool} {names : List String}
    (h : List.Forall₂ (Key.Sorts t descending) names ks) (a b : Record) :
    orderByKeys ks (names.map (t.cell a)) (names.map (t.cell b)) =
      orderOfValues descending (names.map (t.cell a)) (names.map (t.cell b)) := by
  induction h with
  | nil => rfl
  | cons hk _ ih =>
    simp only [List.map_cons, orderByKeys, orderOfValues, ih, Key.order, hk.nullsFirst?,
      hk.descending, hk.formula]
    rfl

/-- Without keys rows stay as they are. -/
theorem mergeSort_mayPrecede_of_keys_eq_nil (h : q.keys = []) (rows : List Record) :
    rows.mergeSort (q.mayPrecede t) = rows := by
  have hany : ∀ a b, q.mayPrecede t a b = true := by
    simp [Inquiry.mayPrecede, h, orderOfValues]
  exact List.mergeSort_of_pairwise (List.pairwise_of_forall hany)

/-- Rows that are sorted after they are shown are sorted before. -/
theorem sortedByKeys_shown (h : List.Forall₂ (Key.Sorts t q.descending) q.keys ks)
    (shown : Record → Record) (rows : List Record) :
    (sortedByKeys ks Prod.snd
        (rows.map fun row => (shown row, q.keys.map (t.cell row)))).map Prod.fst =
      (rows.mergeSort (q.mayPrecede t)).map shown := by
  rw [sortedByKeys]
  cases hks : ks.isEmpty with
  | true =>
    obtain rfl := List.isEmpty_iff.1 hks
    have hkeys : q.keys = [] := List.forall₂_nil_right_iff.1 h
    simp [mergeSort_mayPrecede_of_keys_eq_nil hkeys]
  | false =>
    rw [if_neg Bool.false_ne_true, ← List.map_mergeSort (r := q.mayPrecede t), List.map_map]
    · rfl
    · intro a _ b _
      rw [orderByKeys_sorts h, Inquiry.mayPrecede]

theorem mapM_of_ok {α β : Type} {f : α → Except Problem β} {g : α → β}
    (h : ∀ a, f a = .ok (g a)) (as : List α) : as.mapM f = .ok (as.map g) := by
  induction as with
  | nil => rfl
  | cons a as ih => simp [List.mapM_cons, h, ih, bind, Except.bind, pure, Except.pure]

/-- The rows of a selection before the limit. -/
theorem rows_core {outputs : List Formula} {limit? : Option Limit} (width : Nat)
    (houtputs : List.Forall₂ (fun name f => f = .field (t.place name))
      (shownNames t q.columns) outputs)
    (hks : List.Forall₂ (Key.Sorts t q.descending) q.keys ks) (rows : List Record) :
    (q.core t outputs ks limit?).rows params width rows =
      .ok (((rows.filter fun row => Test.allHold t params row 0 q.tests).mergeSort
        (q.mayPrecede t)).map fun row => (shownNames t q.columns).map (t.cell row)) := by
  have hkeys : List.Forall₂ (fun name f => f = .field (t.place name)) q.keys
      (ks.map Key.formula) := by
    rw [List.forall₂_map_right_iff]
    exact hks.imp fun _ _ h => h.formula
  have hshown : ∀ kept : List Record,
      (q.core t outputs ks limit?).shown params (kept.map fun row => ([], row)) =
        .ok (kept.map fun row =>
          ((shownNames t q.columns).map (t.cell row), q.keys.map (t.cell row))) := by
    intro kept
    rw [Core.shown, List.mapM_map]
    refine mapM_of_ok (fun row => ?_) kept
    simp only [Inquiry.core, Function.comp_apply, values_places houtputs, values_places hkeys, bind,
      Except.bind]
    rfl
  have hfilter : filterRecords params (Test.conjunctionFormula? t q.tests) rows =
      .ok (rows.filter fun row => Test.allHold t params row 0 q.tests) :=
    filterRecords_tests q.tests rows
  have hsorted := sortedByKeys_shown hks
    (fun row => (shownNames t q.columns).map (t.cell row))
    (rows.filter fun row => Test.allHold t params row 0 q.tests)
  rw [← hsorted, Core.rows]
  show (do
    let kept ← filterRecords params (Test.conjunctionFormula? t q.tests) rows
    let shown ← (q.core t outputs ks limit?).shown params (kept.map fun row => ([], row))
    pure ((sortedByKeys ks Prod.snd shown).map Prod.fst)) = _
  rw [hfilter]
  simp only [bind, Except.bind, hshown]
  rfl

end Rows

/-! ## The question -/

/-- The limit of a question as it is found. -/
def Inquiry.foundLimit? (q : Inquiry) : Option Limit :=
  q.limit?.map fun n => ⟨.literal (.whole (Int64.ofInt n.toNat)), none⟩

section Question

variable {t : Table} {q : Inquiry} {columns : List ResultColumn}

/-- Cutting rows by the limit that is found cuts them as the question says. -/
theorem limitOf_foundLimit? (q : Inquiry) (params : List Value) (rows : List Record) :
    limitOf params q.foundLimit? (.ok rows) = .ok (q.cut rows) := by
  rw [Inquiry.foundLimit?, Inquiry.cut]
  cases q.limit? with
  | none => rfl
  | some n =>
    have hlt := n.toNat_lt
    have hn : (Int64.ofInt n.toNat).toInt = n.toNat := by
      rw [Int64.toInt_ofInt_of_le] <;> omega
    have hcount : countOf params (.literal (.whole (Int64.ofInt n.toNat))) =
        .ok (n.toNat : Int) := by
      simp [countOf, Formula.value, Value.preferNumber, Value.preferWhole, bind, Except.bind, pure,
        Except.pure, hn]
    have hnat : ¬ (n.toNat : Int) < 0 := by omega
    simp [limitOf, hcount, bind, Except.bind, pure, Except.pure, cutRecords, hnat]

theorem aggregateNameOf?_places {names : List String} {fs : List Formula}
    (h : List.Forall₂ (fun name f => f = .field (t.place name)) names fs) :
    Formula.aggregateNameOf? fs = none := by
  induction h with
  | nil => rfl
  | cons hf _ ih => simp [hf, Formula.aggregateNameOf?, Formula.aggregateName?, ih]

theorem aggregateName?_formula (test : Test) (k : Nat) :
    Formula.aggregateName? (test.formula t k) = none := by
  have hvalue : Formula.aggregateName? (test.valueFormula k) = none := by
    rw [Test.valueFormula]
    cases test.missing <;> simp [Formula.aggregateName?]
  rw [Test.formula, Comparator.formula]
  cases test.comparator.operator? <;>
    simp [Formula.aggregateName?, Formula.aggregateNameOf?, hvalue]

/-- No condition of a question calls an aggregate. -/
theorem aggregateName?_conjoined {f : Formula} (hf : Formula.aggregateName? f = none) (k : Nat)
    (tests : List Test) : Formula.aggregateName? (Test.conjoinedFormula t f k tests) = none := by
  induction tests generalizing f k with
  | nil => exact hf
  | cons test rest ih =>
    refine ih ?_ _
    simp [Formula.aggregateName?, hf, aggregateName?_formula]

/-- A question asks for no function over rows. -/
theorem checkAggregates_core {outputs : List Formula} {ks : List Key} {limit? : Option Limit}
    (hks : List.Forall₂ (Key.Sorts t q.descending) q.keys ks) :
    checkAggregates (q.core t outputs ks limit?) = .ok () := by
  have hcondition : (Test.conjunctionFormula? t q.tests).bind Formula.aggregateName? = none := by
    cases q.tests with
    | nil => rfl
    | cons test rest => exact aggregateName?_conjoined (aggregateName?_formula test 0) _ rest
  have hkeys : Formula.aggregateNameOf? (ks.map Key.formula) = none := by
    have hplaces : List.Forall₂ (fun name f => f = .field (t.place name)) q.keys
        (ks.map Key.formula) := by
      rw [List.forall₂_map_right_iff]
      exact hks.imp fun _ _ h => h.formula
    exact aggregateNameOf?_places hplaces
  simp [checkAggregates, Inquiry.core, hcondition, hkeys]

/-- No column of a question asks for a group. -/
theorem columnsAskForGroup_isFor {asked : List (Option String)}
    (h : List.Forall₂ ResultColumn.IsFor asked columns) : columnsAskForGroup columns = false := by
  induction h with
  | nil => rfl
  | @cons column? c _ columns hc _ ih =>
    rw [columnsAskForGroup] at ih ⊢
    rw [List.any_cons, ih, Bool.or_false]
    cases column? with
    | none =>
      obtain rfl : c = .all := hc
      rfl
    | some name =>
      obtain ⟨span, rfl⟩ := hc
      simp [asksForGroup, nameExpression, Term.hasCall]

theorem checkStars_isFor {fields : List Field} (hfields : fields ≠ [])
    {asked : List (Option String)} (h : List.Forall₂ ResultColumn.IsFor asked columns) :
    checkStars fields columns = .ok () := by
  induction h with
  | nil => rfl
  | @cons column? c _ columns hc _ ih =>
    cases column? with
    | none =>
      obtain rfl : c = .all := hc
      simpa [checkStars, hfields] using ih
    | some name =>
      obtain ⟨span, rfl⟩ := hc
      exact ih

/-- Only columns of the table are shown. -/
theorem shownNames_subset (h : ∀ name, some name ∈ q.columns → name ∈ t.names) :
    ∀ name ∈ shownNames t q.columns, name ∈ t.names := by
  intro name hname
  obtain ⟨column?, hcolumn, hname⟩ := List.mem_flatMap.1 hname
  cases column? with
  | none => exact hname
  | some other =>
    obtain rfl := List.mem_singleton.1 hname
    exact h name hcolumn

theorem map_eq_of_forall₂ {α β γ : Type} {f : α → γ} {g : β → γ} {as : List α} {bs : List β}
    (h : List.Forall₂ (fun a b => g b = f a) as bs) : bs.map g = as.map f := by
  induction h with
  | nil => rfl
  | cons hab _ ih => rw [List.map_cons, List.map_cons, hab, ih]

/-- A question as a selection from the table. -/
theorem selected_question (hdistinct : t.HasDistinctNames) (habout : q.IsAbout t)
    (hcolumns : List.Forall₂ ResultColumn.IsFor q.columns columns) (limit? : Option Limit)
    (called : String) :
    ∃ fields outputs ks, fields.map Field.column = q.answerColumns t ∧
      List.Forall₂ (fun name f => f = .field (t.place name)) (shownNames t q.columns) outputs ∧
      List.Forall₂ (Key.Sorts t q.descending) q.keys ks ∧
      selected false columns ⟨t.calledFields called, .ok (.table t)⟩ (Test.conjunction? q.tests) []
          none (q.keys.map q.sortKey) limit? =
        .ok ⟨fields, .ok (.select (q.core t outputs ks limit?) (t.calledFields called).length
          (.table t))⟩ := by
  have hfields : t.calledFields called ≠ [] := by simp [Table.calledFields]
  obtain ⟨found, hfound, hshows⟩ := outputs_question hdistinct
    (s := { fields := t.calledFields called, grouped := true }) rfl hcolumns habout.columns
  have hcondition := fun aliases => resolve?_conjunction
    (s := { fields := t.calledFields called, aliases }) hdistinct rfl habout.tests
  have hnone : ∀ s : Scope, s.resolve? none = .ok none := fun _ => rfl
  obtain ⟨ks, hks, hsorts⟩ := foundKeys_sorts (q := q)
    (s := ⟨t.calledFields called, found.filterMap fun o => o.name?.map fun name =>
      (name, o.formula), true⟩)
    hshows hdistinct (shownNames_subset habout.columns) rfl habout.keys 1
  have hchecked : checkAggregates (q.core t (found.map Output.formula) ks limit?) = .ok () :=
    checkAggregates_core hsorts
  rw [Inquiry.core] at hchecked
  refine ⟨found.map fun o =>
      { column := o.column, spelled := o.spelled, others := o.name?.toList ++ [o.spelled] },
    found.map Output.formula, ks, ?_, ?_, hsorts, ?_⟩
  · rw [List.map_map, Inquiry.answerColumns]
    have hcolumn : List.Forall₂ (fun name o => Output.column o = t.columnOf name)
        (shownNames t q.columns) found := hshows.imp fun _ _ h => h.column
    exact map_eq_of_forall₂ hcolumn
  · rw [List.forall₂_map_right_iff]
    exact hshows.imp fun _ _ h => h.formula
  · rw [selected]
    simp only [columnsAskForGroup_isFor hcolumns, checkStars_isFor hfields hcolumns, hfound,
      List.isEmpty_nil, Bool.not_true, Bool.or_self, Option.isSome_none, Bool.false_and,
      Bool.false_eq_true, if_false, hnone, hcondition, hks, foundGroups, hchecked, bind,
      Except.bind, pure, Except.pure]
    rfl

/-! ### Finding the table -/

/-- The relation of a question over its table. -/
def Inquiry.relation (q : Inquiry) (t : Table) (columns : List ResultColumn) : Relation Table :=
  .select false columns (.named q.name (.table t)) (Test.conjunction? q.tests) [] none
    (q.keys.map q.sortKey)

/-- A question is bound to the table that it names, and keeps its limit. -/
theorem bound_question {db : Database} (haccessible : db.foreign = false)
    (htable : db.table? ⟨none, q.table⟩ = some t) (columns : List ResultColumn) (n : Nat) :
    db.bound (n + 4) [] (q.question columns) =
      .ok (match q.limitExpression? with
        | some (limit, offset?) => .limited limit offset? (q.relation t columns)
        | none => q.relation t columns) := by
  have hfound : ∀ n, db.bound (n + 1) [] (.table ⟨none, q.table⟩) = .ok (.table t) := by
    intro n
    simp [Database.bound, Database.defined?, Database.accessible, haccessible, htable, bind,
      Except.bind, pure, Except.pure]
  have hselect : ∀ n, db.bound (n + 3) [] (.select false columns
      (.named q.name (.table ⟨none, q.table⟩)) (Test.conjunction? q.tests) [] none
      (q.keys.map q.sortKey)) = .ok (q.relation t columns) := by
    intro n
    rw [Database.bound, Database.bound, hfound]
    rfl
  rw [Inquiry.question]
  cases q.limitExpression? with
  | none => exact hselect (n + 1)
  | some limit =>
    rw [limitedBy, Database.bound, hselect]
    rfl

theorem resolve_relation (hdistinct : t.HasDistinctNames) (habout : q.IsAbout t)
    (hcolumns : List.Forall₂ ResultColumn.IsFor q.columns columns) (limit? : Option Limit) :
    ∃ fields outputs ks, fields.map Field.column = q.answerColumns t ∧
      List.Forall₂ (fun name f => f = .field (t.place name)) (shownNames t q.columns) outputs ∧
      List.Forall₂ (Key.Sorts t q.descending) q.keys ks ∧
      (q.relation t columns).resolve limit? =
        .ok ⟨fields, .ok (.select (q.core t outputs ks limit?) (t.calledFields q.name).length
          (.table t))⟩ := by
  obtain ⟨fields, outputs, ks, hfields, houtputs, hks, hselected⟩ :=
    selected_question hdistinct habout hcolumns limit? q.name
  refine ⟨fields, outputs, ks, hfields, houtputs, hks, ?_⟩
  rw [← hselected, Inquiry.relation]
  simp only [Relation.resolve, Relation.seen, Relation.isDerived, Resolved.called,
    Table.map_called_fields, bind, Except.bind, pure, Except.pure, Bool.false_eq_true, if_false]

/-- A selection from a table stays as it is. -/
theorem flattened_select (c : Core) (width : Nat) :
    (Plan.select c width (.table t)).flattened = .select c width (.table t) := by
  have hsource : Plan.sourceOf c (.table t) = .table t := by
    rw [Plan.sourceOf]
    · simp [Plan.withoutOrder]
    · nofun
  simp [Plan.flattened, Plan.size, Plan.flattenedWith, hsource, Plan.merged?]

/-- The columns and the rows of a question. -/
theorem extent_question {db : Database} (haccessible : db.foreign = false)
    (htable : db.table? ⟨none, q.table⟩ = some t) (hdistinct : t.HasDistinctNames)
    (habout : q.IsAbout t) (hcolumns : List.Forall₂ ResultColumn.IsFor q.columns columns)
    (params : List Value) :
    ∃ e, db.extent params (q.question columns) = .ok e ∧
      e.fields.map Field.column = q.answerColumns t ∧ e.rows = .ok (q.answer t params) := by
  obtain ⟨fields, outputs, ks, hfields, houtputs, hks, hresolve⟩ :=
    resolve_relation hdistinct habout hcolumns q.foundLimit?
  have hbound := bound_question haccessible htable columns 99996
  have hrelation : (match q.limitExpression? with
      | some (limit, offset?) => Relation.limited limit offset? (q.relation t columns)
      | none => q.relation t columns).resolve none =
        (q.relation t columns).resolve q.foundLimit? := by
    rw [Inquiry.limitExpression?, Inquiry.foundLimit?]
    cases q.limit? with
    | none => rfl
    | some n =>
      simp [Relation.resolve, foundLimit, Scope.resolve?, bind, Except.bind, pure, Except.pure]
  refine ⟨⟨fields, .ok (q.answer t params)⟩, ?_, hfields, rfl⟩
  rw [Database.extent, show Database.depth = 99996 + 4 from rfl, hbound]
  simp only [bind, Except.bind, Relation.extent, hrelation, hresolve, flattened_select, Plan.rows,
    pure, Except.pure]
  rw [rows_core _ houtputs hks]
  have hanswer := limitOf_foundLimit? q params
    (((t.records.filter fun row => Test.allHold t params row 0 q.tests).mergeSort
      (q.mayPrecede t)).map fun row => (shownNames t q.columns).map (t.cell row))
  rw [Inquiry.cut_map] at hanswer
  exact congrArg (fun rows => Except.ok (⟨fields, rows⟩ : Extent)) hanswer

/-! ### Scripts -/

/-- Nothing is run where no statement is left. -/
theorem runAll_done {c : Cursor} (h : c.rest = []) (params : List Value) (fuel : Nat)
    (db : Database) : runAll params fuel c db = ⟨[], none, db⟩ := by
  obtain ⟨source, rest, n, named⟩ := c
  obtain rfl : rest = [] := h
  cases fuel with
  | zero => rfl
  | succ fuel => simp [runAll, next?_nil]

theorem describeAll_done {c : Cursor} (h : c.rest = []) (db : Database) (fuel : Nat) :
    describeAll db fuel c = .ok [] := by
  obtain ⟨source, rest, n, named⟩ := c
  obtain rfl : rest = [] := h
  cases fuel with
  | zero => rfl
  | succ fuel => simp [describeAll, next?_nil, bind, Except.bind, pure, Except.pure]

variable {script : String} {db : Database}

/-- A script that spells the lexemes of a question is read from the first of them. -/
theorem isAt_ofScript (hscript : Fronts script.toList q.lexemes) :
    (Cursor.ofScript script).IsAt q.lexemes 0 :=
  ⟨hscript.map_lexeme_tokens, rfl, rfl⟩

/-- A script that is a question answers it and changes nothing. -/
theorem runScript_question (hscript : Fronts script.toList q.lexemes) (hq : q.IsPlain)
    (haccessible : db.foreign = false) (htable : db.table? ⟨none, q.table⟩ = some t)
    (hdistinct : t.HasDistinctNames) (habout : q.IsAbout t) (params : List Value)
    (hrun : (runScript script params db).problem? = none) :
    runScript script params db = ⟨q.answer t params, none, db⟩ := by
  rw [runScript] at hrun ⊢
  cases hnext : Reader.next? (Cursor.ofScript script) with
  | error p => simp [runAll, hnext] at hrun
  | ok found =>
    obtain ⟨s?, after⟩ := found
    obtain ⟨⟨_, ⟨columns, hcolumns, rfl⟩, rfl⟩, hafter⟩ :=
      reads_next? hq 0 _ _ _ (isAt_ofScript hscript) hnext
    have hrest : after.rest = [] := List.map_eq_nil_iff.1 hafter.lexemes
    obtain ⟨e, he, -, hrows⟩ :=
      extent_question haccessible htable hdistinct habout hcolumns params
    cases hfields : e.fields.isEmpty with
    | true =>
      simp [runAll, hnext, Database.run, he, hfields, bind, Except.bind, throw, throwThe,
        MonadExceptOf.throw] at hrun
    | false =>
      simp [runAll, hnext, Database.run, he, hfields, hrows, runAll_done hrest, bind, Except.bind,
        pure, Except.pure]

/-- A script that is a question is described by the columns of the table and the first row. -/
theorem describeScript_question (hscript : Fronts script.toList q.lexemes) (hq : q.IsPlain)
    (haccessible : db.foreign = false) (htable : db.table? ⟨none, q.table⟩ = some t)
    (hdistinct : t.HasDistinctNames) (habout : q.IsAbout t) {found : Catalog}
    (hfound : describeScript script db = .ok found) :
    found = (q.answerColumns t).mapIdx fun i c =>
      ⟨c.name, typeOf c ((q.answer t []).head?.getD [])[i]?⟩ := by
  rw [describeScript] at hfound
  cases hnext : Reader.next? (Cursor.ofScript script) with
  | error p => simp [describeAll, hnext, bind, Except.bind] at hfound
  | ok read =>
    obtain ⟨s?, after⟩ := read
    obtain ⟨⟨_, ⟨columns, hcolumns, rfl⟩, rfl⟩, hafter⟩ :=
      reads_next? hq 0 _ _ _ (isAt_ofScript hscript) hnext
    have hrest : after.rest = [] := List.map_eq_nil_iff.1 hafter.lexemes
    obtain ⟨e, he, hcolumn, hrows⟩ :=
      extent_question haccessible htable hdistinct habout hcolumns []
    cases hfields : e.fields.isEmpty with
    | true =>
      simp [describeAll, hnext, describeStatement, Database.run, he, hfields, Statement.isQuery,
        bind, Except.bind, throw, throwThe, MonadExceptOf.throw] at hfound
    | false =>
      simp [describeAll, hnext, describeStatement, Database.run, he, hfields,
        describeAll_done hrest, bind, Except.bind, pure, Except.pure, describeAnswer, hrows,
        hcolumn, Except.toOption] at hfound
      exact hfound.symm

end Question

end QueryPipe.Sql
