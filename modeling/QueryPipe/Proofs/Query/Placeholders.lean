import Mathlib.Data.List.Forall2
import QueryPipe.Proofs.Query.ChainDraft

/-!
# Placeholders and parameters

Values never stand in a statement. Each comparison with a value leaves a placeholder in the text
and a parameter beside it, and both come in the order of the conditions.

* `Draft.exists_split`: a draft splits at its placeholders, each behind its own comparison.
* `Draft.count_write`: a draft without other question marks has one for each comparison.
* `Chain.params_match_placeholders`: the parameters of a statement belong to its placeholders.
-/

namespace QueryPipe

/-! ## Splitting at placeholders -/

/-- Pieces of text in front of placeholders, and what follows the last. -/
def splitText (pieces : List String) (tail : String) : String :=
  String.join (pieces.map (· ++ "?")) ++ tail

/-- A piece that ends in the left side and the predicate of its comparison. -/
def EndsInLead (piece : String) (c : Condition) : Prop := ∃ s, piece = s ++ c.lead

/-- Text in front of a split text joins its first piece, or what follows when there is none. -/
theorem exists_splitText_append (s : String) {pieces : List String} {tail : String}
    {comparisons : List Condition} (h : List.Forall₂ EndsInLead pieces comparisons) :
    ∃ pieces' tail', List.Forall₂ EndsInLead pieces' comparisons ∧
      s ++ splitText pieces tail = splitText pieces' tail' := by
  cases h with
  | nil => exact ⟨[], s ++ tail, .nil, by simp [splitText]⟩
  | @cons piece c pieces comparisons hpiece hrest =>
    obtain ⟨t, rfl⟩ := hpiece
    refine ⟨(s ++ t ++ c.lead) :: pieces, tail, .cons ⟨s ++ t, rfl⟩ hrest, ?_⟩
    simp [splitText, String.append_assoc]

/-- A draft splits at its placeholders, each behind its own comparison. -/
theorem Draft.exists_split (d : Draft) (names : List String) :
    ∃ pieces tail, List.Forall₂ EndsInLead pieces d.comparisons ∧
      d.write names = splitText pieces tail := by
  induction d generalizing names with
  | nil => exact ⟨[], "", .nil, rfl⟩
  | cons piece d ih =>
    cases piece with
    | words s =>
      obtain ⟨pieces, tail, hpieces, hwrite⟩ := ih names
      rw [Draft.write, hwrite]
      exact exists_splitText_append s hpieces
    | slot slot =>
      obtain ⟨pieces, tail, hpieces, hwrite⟩ := ih names.tail
      rw [Draft.write, hwrite]
      exact exists_splitText_append _ hpieces
    | comparison c =>
      obtain ⟨pieces, tail, hpieces, hwrite⟩ := ih names
      refine ⟨c.lead :: pieces, tail, .cons ⟨"", by simp⟩ hpieces, ?_⟩
      rw [Draft.write, hwrite]
      simp [splitText, String.append_assoc]

/-! ## Text without question marks -/

/-- Whether a text has no question mark. -/
def Unmarked (s : String) : Prop := '?' ∉ s.toList

instance (s : String) : Decidable (Unmarked s) := inferInstanceAs (Decidable ('?' ∉ s.toList))

theorem unmarked_append {s t : String} : Unmarked (s ++ t) ↔ Unmarked s ∧ Unmarked t := by
  simp [Unmarked]

theorem unmarked_joined {joint : String} (hjoint : Unmarked joint) {parts : List String}
    (h : ∀ part ∈ parts, Unmarked part) : Unmarked (Text.joined joint parts) := by
  induction parts with
  | nil => simp [Unmarked]
  | cons part parts ih =>
    cases parts with
    | nil => exact h part (by simp)
    | cons next parts =>
      rw [Text.joined, unmarked_append, unmarked_append]
      exact ⟨⟨h part (by simp), hjoint⟩, ih fun p hp => h p (List.mem_cons_of_mem _ hp)⟩

/-- Digits hold no placeholder. -/
theorem unmarked_number (n : Nat) : Unmarked (toString n) := by
  intro h
  have hdigit : '?'.isDigit = true := by
    refine Nat.isDigit_of_mem_toDigits (b := 10) (n := n) (by decide) (by decide) ?_
    simpa using h
  exact absurd hdigit (by decide)

/-- Whether nothing that a piece brings along has a question mark. -/
def Piece.IsPlain : Piece → Prop
  | .words s => Unmarked s
  | .slot place => ∀ name, place.alias? = some name → Unmarked name
  | .comparison c => Unmarked c.column ∧ Unmarked c.predicate

namespace Draft

/-- Whether all pieces of a draft are plain. -/
def IsPlain (d : Draft) : Prop := ∀ piece ∈ d, piece.IsPlain

theorem isPlain_nil : Draft.IsPlain [] := fun _ h => absurd h (by simp)

theorem IsPlain.cons {piece : Piece} {d : Draft} (hpiece : piece.IsPlain) (hd : d.IsPlain) :
    Draft.IsPlain (piece :: d) := List.forall_mem_cons.2 ⟨hpiece, hd⟩

theorem isPlain_words {s : String} (h : Unmarked s) : Draft.IsPlain [.words s] :=
  .cons h isPlain_nil

theorem IsPlain.append {d e : Draft} (hd : d.IsPlain) (he : e.IsPlain) : (d ++ e).IsPlain := by
  intro piece hpiece
  rcases List.mem_append.1 hpiece with h | h
  · exact hd piece h
  · exact he piece h

theorem isPlain_joined {joint : String} (hjoint : Unmarked joint) {parts : List Draft}
    (h : ∀ d ∈ parts, d.IsPlain) : (joined joint parts).IsPlain := by
  induction parts with
  | nil => exact isPlain_nil
  | cons d parts ih =>
    cases parts with
    | nil => exact h d (by simp)
    | cons e parts =>
      have hrest := ih fun d' hd' => h d' (List.mem_cons_of_mem _ hd')
      exact (h d (by simp)).append (.cons hjoint hrest)

/-- A draft without other question marks has one for each comparison. -/
theorem count_write {d : Draft} (h : d.IsPlain) {names : List String}
    (hnames : ∀ name ∈ names, Unmarked name) :
    (d.write names).toList.count '?' = d.comparisons.length := by
  induction d generalizing names with
  | nil => rfl
  | cons piece d ih =>
    obtain ⟨hpiece, hd⟩ := List.forall_mem_cons.1 h
    cases piece with
    | words s =>
      have hs : s.toList.count '?' = 0 := List.count_eq_zero_of_not_mem hpiece
      rw [write, String.toList_append, List.count_append, hs, ih hd hnames, Nat.zero_add,
        comparisons_words]
    | slot place =>
      have hname : Unmarked (names.headD "") := by
        cases names with
        | nil => decide
        | cons name names => exact hnames name (by simp)
      have hzero : (names.headD "").toList.count '?' = 0 := List.count_eq_zero_of_not_mem hname
      have hrest := ih hd fun name hmem => hnames name (List.mem_of_mem_tail hmem)
      rw [write, String.toList_append, List.count_append, hzero, hrest, Nat.zero_add,
        comparisons_slot]
    | comparison c =>
      have hlead : Unmarked c.lead := by
        simp only [Condition.lead, unmarked_append]
        exact ⟨⟨⟨hpiece.1, by decide⟩, hpiece.2⟩, by decide⟩
      have hzero : c.lead.toList.count '?' = 0 := List.count_eq_zero_of_not_mem hlead
      have hone : ("?" : String).toList.count '?' = 1 := by decide
      rw [write, String.toList_append, String.toList_append, List.count_append, List.count_append,
        hzero, hone, ih hd hnames, comparisons_comparison, List.length_cons]
      omega

end Draft

/-! ## The words of a chain -/

/-- The texts that a selection is written with. -/
def Selection.texts (s : Selection) : List String := s.tables ++ s.alias?.toList ++ s.columns

/-- The texts that a join is written with. -/
def Joining.texts (j : Joining) : List String :=
  [j.table, j.how] ++ j.alias?.toList ++
    j.conditions.flatMap fun c => [c.left, c.predicate, c.right]

/-- The texts that a filter is written with; values are none of them. -/
def Filter.texts (f : Filter) : List String :=
  f.conditions.flatMap fun c => [c.column, c.predicate]

/-- The texts that a plan is written with. -/
def Plan.texts (p : Plan) : List String :=
  p.raw.toList ++ p.select.toList.flatMap Selection.texts ++
    p.join.toList.flatMap Joining.texts ++ p.filter.toList.flatMap Filter.texts ++
    p.sort.toList.flatMap Sorting.columns

theorem Selection.unmarked_lead {s : Selection} (h : ∀ t ∈ s.texts, Unmarked t) :
    Unmarked s.lead := by
  have hcolumns : Unmarked s.columnsText := by
    unfold Selection.columnsText
    split
    · decide
    · exact unmarked_joined (by decide) fun t ht => h t (by simp [Selection.texts, ht])
  have hfrom : ∀ table ∈ s.tables, Unmarked (s.fromTable table) := by
    intro table htable
    have htext : Unmarked table := h table (by simp [Selection.texts, htable])
    simp only [Selection.fromTable, unmarked_append]
    exact ⟨⟨⟨by decide, hcolumns⟩, by decide⟩, htext⟩
  unfold Selection.lead
  split
  · rename_i table htables
    exact unmarked_append.2 ⟨hfrom table (by simp [htables]), by decide⟩
  · have htables : Unmarked (Text.joined " UNION ALL " (s.tables.map s.fromTable)) := by
      refine unmarked_joined (by decide) ?_
      intro part hpart
      obtain ⟨table, htable, rfl⟩ := List.mem_map.1 hpart
      exact hfrom table htable
    simp only [unmarked_append]
    exact ⟨⟨⟨⟨by decide, hcolumns⟩, by decide⟩, htables⟩, by decide⟩

theorem Joining.unmarked_sql {j : Joining} (h : ∀ t ∈ j.texts, Unmarked t) : Unmarked j.sql := by
  have htable : Unmarked j.table := h _ (by simp [Joining.texts])
  have hhow : Unmarked j.how := h _ (by simp [Joining.texts])
  rw [Joining.sql]
  simp only [unmarked_append]
  refine ⟨⟨⟨⟨hhow, by decide⟩, htable⟩, ?named⟩, ?on⟩
  case named =>
    split
    · rename_i name hname
      exact unmarked_append.2 ⟨by decide, h name (by simp [Joining.texts, hname])⟩
    · decide
  case on =>
    split
    · decide
    · refine unmarked_append.2 ⟨by decide, unmarked_joined (by decide) ?_⟩
      intro part hpart
      obtain ⟨c, hc, rfl⟩ := List.mem_map.1 hpart
      have htexts : ∀ t ∈ [c.left, c.predicate, c.right], Unmarked t :=
        fun t ht => h t (List.mem_append_right _ (List.mem_flatMap.2 ⟨c, hc, ht⟩))
      simp only [JoinCondition.sql, unmarked_append]
      exact ⟨⟨⟨⟨htexts _ (by simp), by decide⟩, htexts _ (by simp)⟩, by decide⟩,
        htexts _ (by simp)⟩

/-- A condition holds no placeholder but its own. -/
theorem Condition.isPlain_draft {c : Condition} (hcolumn : Unmarked c.column)
    (hpredicate : Unmarked c.predicate) : c.draft.IsPlain := by
  cases hnull : c.value.isNull with
  | true =>
    rw [Condition.draft, if_pos hnull]
    refine Draft.isPlain_words ?_
    simp only [Condition.sql, hnull, if_true, unmarked_append]
    exact ⟨⟨⟨⟨hcolumn, by decide⟩, hpredicate⟩, by decide⟩, by decide⟩
  | false =>
    rw [Condition.draft, if_neg (by simp [hnull])]
    exact .cons ⟨hcolumn, hpredicate⟩ Draft.isPlain_nil

/-- A filter holds no placeholders but those of its conditions. -/
theorem Filter.isPlain_draft {f : Filter} (h : ∀ t ∈ f.texts, Unmarked t) : f.draft.IsPlain := by
  have hand : Unmarked " AND " := by decide
  refine .cons (show Unmarked "WHERE " by decide) (Draft.isPlain_joined hand ?_)
  intro d hd
  obtain ⟨c, hc, rfl⟩ := List.mem_map.1 hd
  have htexts : ∀ t ∈ [c.column, c.predicate], Unmarked t :=
    fun t ht => h t (List.mem_flatMap.2 ⟨c, hc, ht⟩)
  exact c.isPlain_draft (htexts _ (by simp)) (htexts _ (by simp))

theorem Sorting.unmarked_sql {o : Sorting} (h : ∀ t ∈ o.columns, Unmarked t) :
    Unmarked o.sql := by
  have hdirection : Unmarked (if o.descending then " DESC" else " ASC") := by
    split <;> decide
  unfold Sorting.sql
  split
  · decide
  · refine unmarked_append.2 ⟨by decide, unmarked_joined (by decide) ?_⟩
    intro part hpart
    obtain ⟨column, hcolumn, rfl⟩ := List.mem_map.1 hpart
    exact unmarked_append.2 ⟨h column hcolumn, hdirection⟩

theorem unmarked_limitSql (n : UInt32) : Unmarked (limitSql n) := by
  rw [limitSql, unmarked_append]
  exact ⟨by decide, unmarked_number _⟩

/-- No clause of a plan holds a placeholder of its own. -/
theorem Plan.isPlain_clauseDrafts {p : Plan} (h : ∀ t ∈ p.texts, Unmarked t) {d : Draft}
    (hd : d ∈ p.clauseDrafts) : d.IsPlain := by
  simp only [Plan.clauseDrafts, List.mem_append, Option.mem_toList, Option.map_eq_some_iff] at hd
  rcases hd with ((⟨j, hj, rfl⟩ | ⟨f, hf, rfl⟩) | ⟨o, ho, rfl⟩) | ⟨n, -, rfl⟩
  · refine Draft.isPlain_words (Joining.unmarked_sql fun t ht => h t ?_)
    simp [Plan.texts, hj, ht]
  · refine Filter.isPlain_draft fun t ht => h t ?_
    have hfilter : p.filter = some f := Option.eq_some_of_filter_eq_some hf
    simp [Plan.texts, hfilter, ht]
  · refine Draft.isPlain_words (Sorting.unmarked_sql fun t ht => h t ?_)
    have hsort : p.sort = some o := Option.eq_some_of_filter_eq_some ho
    simp [Plan.texts, hsort, ht]
  · exact Draft.isPlain_words (unmarked_limitSql n)

/-- A plan whose texts are unmarked holds no placeholders but those of its conditions. -/
theorem Plan.isPlain_draft {p : Plan} (h : ∀ t ∈ p.texts, Unmarked t) (index : Nat) :
    (p.draft index).IsPlain := by
  cases hraw : p.raw with
  | some text =>
    rw [p.draft_of_raw hraw]
    exact Draft.isPlain_words (h text (by simp [Plan.texts, hraw]))
  | none =>
    cases hselect : p.select with
    | none =>
      rw [Plan.draft, hraw, hselect]
      exact Draft.isPlain_nil
    | some s =>
      have hs : ∀ t ∈ s.texts, Unmarked t := fun t ht => h t (by simp [Plan.texts, hselect, ht])
      have halias : ∀ name, s.alias? = some name → Unmarked name :=
        fun name hname => hs name (by simp [Selection.texts, hname])
      have hhead : (s.draft index).IsPlain :=
        .cons (Selection.unmarked_lead hs) (.cons halias Draft.isPlain_nil)
      rw [p.draft_of_select hraw hselect]
      refine Draft.isPlain_joined (by decide) (List.forall_mem_cons.2 ⟨hhead, ?_⟩)
      exact fun d hd => Plan.isPlain_clauseDrafts h hd

theorem Plan.unmarked_alias {p : Plan} (h : ∀ t ∈ p.texts, Unmarked t) {name : String}
    (hname : p.alias? = some name) : Unmarked name := by
  obtain ⟨s, hs, halias⟩ := Option.bind_eq_some_iff.1 hname
  exact h name (by simp [Plan.texts, hs, Selection.texts, halias])

/-- Stages whose texts are unmarked hold no placeholders but those of their conditions. -/
theorem isPlain_draftFrom {plans : List Plan} (h : ∀ p ∈ plans, ∀ t ∈ p.texts, Unmarked t)
    (index : Nat) {lead : String} (hlead : Unmarked lead) :
    (draftFrom index lead plans).IsPlain := by
  induction plans generalizing index lead with
  | nil => exact Draft.isPlain_nil
  | cons p rest ih =>
    have hp : ∀ t ∈ p.texts, Unmarked t := h p (by simp)
    cases rest with
    | nil => exact p.isPlain_draft hp index
    | cons next rest =>
      have hopen : Unmarked " AS (" := by decide
      have hclose : Unmarked ") " := by decide
      have hcomma : Unmarked ", " := by decide
      have hrest := ih (fun q hq => h q (List.mem_cons_of_mem _ hq)) (index + 1) hcomma
      refine .cons hlead (.cons (fun name hname => Plan.unmarked_alias hp hname) (.cons hopen ?_))
      exact (p.isPlain_draft hp index).append (.cons hclose hrest)

theorem Draft.IsPlain.slots {d : Draft} (h : d.IsPlain) :
    ∀ slot ∈ d.slots, ∀ name, slot.alias? = some name → Unmarked name := by
  intro slot hslot
  obtain ⟨piece, hpiece, hsome⟩ := List.mem_filterMap.1 hslot
  cases piece with
  | words s => exact absurd hsome (by simp)
  | comparison c => exact absurd hsome (by simp)
  | slot place =>
    obtain rfl := Option.some.inj hsome
    exact h _ hpiece

/-- Names are plain when the given ones and the stem of the supply are. -/
theorem unmarked_slotNames {slots : List Slot}
    (h : ∀ slot ∈ slots, ∀ name, slot.alias? = some name → Unmarked name) {supply : AliasSupply}
    (hstem : Unmarked supply.stem) : ∀ name ∈ slotNames slots supply, Unmarked name := by
  induction slots generalizing supply with
  | nil => exact fun name hname => absurd hname (by simp [slotNames])
  | cons slot slots ih =>
    have hhead : Unmarked (supply.resolve slot.alias?).1 := by
      cases halias : slot.alias? with
      | some name => exact h slot (by simp) name halias
      | none => exact unmarked_append.2 ⟨hstem, unmarked_number _⟩
    rw [slotNames, AliasSupply.resolve_snd]
    exact List.forall_mem_cons.2 ⟨hhead, ih (fun s hs => h s (by simp [hs])) hstem⟩

namespace Chain

/-! ## Parameters of a chain -/

/-- The conditions of a chain that compare with a value, plan by plan; a raw plan has none. -/
def comparisons (c : Chain) : List Condition :=
  (c.plans.filter fun p => p.raw.isNone).flatMap Plan.comparisons

/-- The parameters of a statement belong to its placeholders, one by one and in order. -/
theorem params_match_placeholders {c : Chain} {supply : AliasSupply} {q : Query}
    (h : (c.render supply).1 = .ok q) :
    q.params = c.comparisons.map (fun cond => ⟨cond.column, cond.value⟩) ∧
    (∃ pieces tail, List.Forall₂ EndsInLead pieces c.comparisons ∧
      q.text = splitText pieces tail) ∧
    ((∀ p ∈ c.plans, ∀ t ∈ p.texts, Unmarked t) → Unmarked supply.stem →
      q.text.toList.count '?' = q.params.length) := by
  obtain ⟨hne, hreadable⟩ := (c.render_isOk_iff supply).1 ⟨q, h⟩
  have hcomparisons : c.draft.comparisons = c.comparisons :=
    comparisons_draftFrom hreadable 0 "WITH "
  rw [render_eq_write hne hreadable] at h
  obtain rfl := Except.ok.inj h
  rw [← hcomparisons]
  refine ⟨rfl, c.draft.exists_split _, ?_⟩
  intro htexts hstem
  have hplain : c.draft.IsPlain := isPlain_draftFrom htexts 0 (by decide)
  have hnames := unmarked_slotNames hplain.slots hstem
  rw [Draft.query, Draft.text, Draft.count_write hplain hnames, Draft.params, List.length_map]

/-- Neither a raw plan nor a condition on the missing value leaves a placeholder. -/
theorem params_match_one_placeholder :
    let raw : Plan := { raw := some "SELECT 1", filter := some ⟨[⟨"k", "=", .whole 3⟩]⟩ }
    let orders : Plan := { select := some { tables := ["orders"] },
                           filter := some ⟨[⟨"note", "IS", .null⟩, ⟨"id", "=", .whole 7⟩]⟩ }
    let text := "WITH t1 AS (SELECT 1) SELECT * FROM orders AS t2 WHERE note IS NULL AND id = ?"
    (Chain.render ⟨[raw, orders]⟩ {}).1 = .ok ⟨text, [⟨"id", .whole 7⟩]⟩ ∧
      text.toList.count '?' = 1 := by
  intro raw orders text
  have hrender : (Chain.render ⟨[raw, orders]⟩ {}).1 = .ok ⟨text, [⟨"id", .whole 7⟩]⟩ := by
    decide
  have htexts : ∀ p ∈ [raw, orders], ∀ t ∈ p.texts, Unmarked t := by decide
  exact ⟨hrender, (params_match_placeholders hrender).2.2 htexts (by decide)⟩

end Chain

end QueryPipe
