import Mathlib.Data.List.Forall2
import QueryPipe.Proofs.Command.Folding
import QueryPipe.Proofs.Numeral.Whole

/-!
# The plan of a stage

A stage is a tool that starts one and the tools after it, up to the next that starts one. What its
plan has in each slot is said here twice: as a function of the tools, and as what their requests
spell, field by field, without a word of how the function gets there.

* `planOf`: the plan of a source and the tools of its stage.
* `JoinRequest.Spells`, `GrepRequest.Spells`, `HeadRequest.Spells`: what single requests ask for.
* `HoldsLast`: a slot that the last tool of a kind fills.
* `SpelledBy`, `spelledBy_planOf`: the plan is what source and tools spell.
* `SpelledBy.unique`: they spell no other plan.
-/

namespace QueryPipe.Command

/-! ## Conditions of a join -/

namespace JoinRequest

/-- The condition at a place is made of what the switches hold there. -/
theorem getElem?_conditionsOfSwitches (ls ps rs : List String) (i : Nat) :
    (conditionsOfSwitches ls ps rs)[i]? =
      ls[i]?.bind fun l => ps[i]?.bind fun p => rs[i]?.map fun r => ⟨l, p, r⟩ := by
  induction ls generalizing ps rs i with
  | nil => simp [conditionsOfSwitches]
  | cons l ls ih =>
    cases ps with
    | nil => cases i <;> simp [conditionsOfSwitches]
    | cons p ps =>
      cases rs with
      | nil => simp [conditionsOfSwitches]
      | cons r rs =>
        cases i with
        | zero => rfl
        | succ i => simpa [conditionsOfSwitches] using ih ps rs i

/-- The condition at a place is made of three operands in turn. -/
theorem getElem?_conditionsOfOperands (ws : List String) (i : Nat) :
    (conditionsOfOperands ws)[i]? =
      ws[3 * i]?.bind fun l => ws[3 * i + 1]?.bind fun p => ws[3 * i + 2]?.map fun r =>
        ⟨l, p, r⟩ := by
  fun_induction conditionsOfOperands ws generalizing i with
  | case1 l p r rest ih =>
    cases i with
    | zero => rfl
    | succ i => simpa [Nat.mul_add] using ih i
  | case2 ws hnone =>
    -- two operands at most are left, so nothing stands at the third place
    have hshort : ws.length ≤ 2 := by
      rcases ws with _ | ⟨l, _ | ⟨p, _ | ⟨r, rest⟩⟩⟩
      · simp
      · simp
      · simp
      · exact absurd rfl (hnone l p r rest)
    have hthird : ws[3 * i + 2]? = none := List.getElem?_eq_none (by omega)
    rw [hthird]
    cases ws[3 * i]? <;> cases ws[3 * i + 1]? <;> rfl

/-- Whether conditions are what a join is matched on, place by place. -/
structure Matched (j : JoinRequest) (conditions : List JoinCondition) : Prop where
  /-- There are as many conditions as the shortest list of switches names, and one more for every
  three operands. -/
  length : conditions.length =
    min j.left.length (min j.predicate.length j.right.length) + j.operands.length / 3
  /-- The switches come first, those at the same place together. -/
  switches : ∀ (i : Nat) (l p r : String), j.left[i]? = some l → j.predicate[i]? = some p →
    j.right[i]? = some r → conditions[i]? = some ⟨l, p, r⟩
  /-- The operands come after them, three by three. -/
  operands : ∀ (i : Nat) (l p r : String), j.operands[3 * i]? = some l →
    j.operands[3 * i + 1]? = some p → j.operands[3 * i + 2]? = some r →
      conditions[min j.left.length (min j.predicate.length j.right.length) + i]? =
        some ⟨l, p, r⟩

/-- The conditions of a join are the triples of its switches, and then those of its operands. -/
theorem matched (j : JoinRequest) : j.Matched j.conditions where
  length := j.conditions_length
  switches i l p r hl hp hr := by
    have hi : (conditionsOfSwitches j.left j.predicate j.right)[i]? = some ⟨l, p, r⟩ := by
      simp [getElem?_conditionsOfSwitches, hl, hp, hr]
    rw [conditions, List.getElem?_append_left (List.getElem?_eq_some_iff.1 hi).1, hi]
  operands i l p r hl hp hr := by
    rw [conditions, ← conditionsOfSwitches_length,
      List.getElem?_append_right (Nat.le_add_right _ _), Nat.add_sub_cancel_left,
      getElem?_conditionsOfOperands]
    simp [hl, hp, hr]

end JoinRequest

namespace Tool

/-! ## Stages -/

/-- The tools in front of the first that starts a stage. -/
def inside (tools : List Tool) : List Tool := tools.takeWhile fun t => !t.startsStage

/-- The source of every tool that starts a stage, with the tools after it up to the next such. -/
def segments : List Tool → List (Source × List Tool)
  | [] => []
  | t :: rest =>
    match t.source? with
    | some s => (s, inside rest) :: segments rest
    | none => segments rest

theorem segments_cons_of_source {t : Tool} {s : Source} (h : t.source? = some s)
    (rest : List Tool) : segments (t :: rest) = (s, inside rest) :: segments rest := by
  simp [segments, h]

theorem segments_cons_of_not {t : Tool} (h : t.startsStage = false) (rest : List Tool) :
    segments (t :: rest) = segments rest := by
  simp [segments, source?_eq_none_iff.2 h]

theorem map_fst_segments (tools : List Tool) :
    (segments tools).map Prod.fst = tools.filterMap source? := by
  induction tools with
  | nil => rfl
  | cons t rest ih => cases h : t.source? <;> simp [segments, h, ih]

/-- The tools of a stage are some of the tools. -/
theorem mem_of_mem_segments {tools : List Tool} {segment : Source × List Tool} {t : Tool}
    (hsegment : segment ∈ segments tools) (ht : t ∈ segment.2) : t ∈ tools := by
  induction tools with
  | nil => cases hsegment
  | cons first rest ih =>
    rw [segments] at hsegment
    split at hsegment
    · rcases List.mem_cons.1 hsegment with rfl | hlater
      · exact List.mem_cons_of_mem _ (List.takeWhile_subset _ ht)
      · exact List.mem_cons_of_mem _ (ih hlater)
    · exact List.mem_cons_of_mem _ (ih hsegment)

/-- There are as many segments as tools that start a stage. -/
theorem length_segments (tools : List Tool) :
    (segments tools).length = tools.countP startsStage := by
  rw [← List.length_map, map_fst_segments, List.length_filterMap_eq_countP]
  exact List.countP_congr fun t _ => by rw [isSome_source?]

/-! ## The plan of a stage -/

/-- The columns that a tool chooses. -/
def columns? : Tool → Option (List String)
  | .cut r => some (r.fields ++ r.operands)
  | _ => none

/-- The condition that a tool adds. -/
def condition? : Tool → Option Condition
  | .grep r => r.condition.toOption
  | _ => none

/-- The row limit that a tool sets. -/
def limit? : Tool → Option UInt32
  | .head r => some r.limit
  | _ => none

/-- The order that a tool sets. -/
def sorting? : Tool → Option Sorting
  | .sort r => some { descending := r.reverse, columns := r.fields ++ r.operands }
  | _ => none

/-- The join that a tool adds. -/
def joining? : Tool → Option Joining
  | .join r => some r.joining
  | _ => none

/-- What the last tool that has a clause asks for. -/
def last? {α : Type} (clause? : Tool → Option α) (tools : List Tool) : Option α :=
  (tools.filterMap clause?).getLast?

theorem last?_append_singleton {α : Type} (clause? : Tool → Option α) (tools : List Tool)
    (t : Tool) : last? clause? (tools ++ [t]) = (clause? t).or (last? clause? tools) := by
  cases h : clause? t <;> simp [last?, List.filterMap_append, h]

/-- The filter with the conditions of all tools in their order, none without a condition. -/
def filterOf (tools : List Tool) : Option Filter :=
  match tools.filterMap condition? with
  | [] => none
  | conditions => some ⟨conditions⟩

/-- One more tool adds its condition, if it has one. -/
theorem filterOf_append_singleton (tools : List Tool) (t : Tool) :
    filterOf (tools ++ [t]) =
      match t.condition? with
      | some c => some (((filterOf tools).getD {}).and c)
      | none => filterOf tools := by
  cases h : t.condition? with
  | none => simp [filterOf, List.filterMap_append, h]
  | some c =>
    cases htools : tools.filterMap condition? <;>
      simp [filterOf, List.filterMap_append, h, htools, Filter.and]

end Tool

open Tool

/-- What a source selects after the tools of its stage: the tables and the name of the source, and
the columns that were chosen last. -/
def Source.selection? (tools : List Tool) : Source → Option Selection
  | .datasets r =>
    some
      { tables := r.datasets.map Dataset.reference
        alias? := r.alias?
        columns :=
          (last? columns? tools).getD (if r.columns.isEmpty then ["*"] else r.columns) }
  | .statement _ => none

/-- The statement of a source. -/
def Source.raw? : Source → Option String
  | .datasets _ => none
  | .statement text => some text

/-- The plan of a source and the tools of its stage. -/
def planOf (s : Source) (tools : List Tool) : Plan where
  select := s.selection? tools
  join := last? joining? tools
  filter := filterOf tools
  limit := last? limit? tools
  sort := last? sorting? tools
  raw := s.raw?

/-! ## What requests spell -/

/-- The join that is asked for. -/
structure JoinRequest.Spells (r : JoinRequest) (j : Joining) : Prop where
  /-- The table is referred to by its name. -/
  table : j.table = Dataset.reference r.table
  /-- It has the name that is given. -/
  called : j.alias? = r.alias?
  /-- It is the kind of join that is given. -/
  how : j.how = r.how
  /-- It is matched on the switches and then on the operands. -/
  matched : r.Matched j.conditions

/-- The number of rows that is asked for. -/
inductive HeadRequest.Spells (r : HeadRequest) : UInt32 → Prop
  /-- The switch comes first. -/
  | lines {n : UInt32} (h : r.lines? = some n) : Spells r n
  /-- The operand is for want of it. -/
  | count {n : UInt32} (hlines : r.lines? = none) (h : r.count? = some n) : Spells r n
  /-- Ten rows are left where neither is given. -/
  | usual (hlines : r.lines? = none) (hcount : r.count? = none) : Spells r 10

/-- The order that is asked for. -/
structure SortRequest.Spells (r : SortRequest) (o : Sorting) : Prop where
  /-- By the columns of switches and then of operands. -/
  columns : o.columns = r.fields ++ r.operands
  /-- In one direction. -/
  direction : o.descending = r.reverse

namespace GrepRequest

/-- The column of a filter, by switch or as the first operand, and the operands that are left. -/
inductive Leaves (r : GrepRequest) (column : String) (rest : List String) : Prop
  /-- The switch leaves all operands. -/
  | field (hfield : r.field? = some column) (hoperands : r.operands = rest)
  /-- Without it the first is taken. -/
  | operand (hfield : r.field? = none) (hoperands : r.operands = column :: rest)

/-- What a filter compares: a column, the comparison if it is given, and a text. -/
inductive Names (r : GrepRequest) (column : String) : Option String → String → Prop
  /-- The text is given by switch. -/
  | switched {text : String} (hcolumn : r.Leaves column []) (hvalue : r.value? = some text) :
    Names r column r.predicate? text
  /-- The text is the operand that is left. -/
  | operand {text : String} (hcolumn : r.Leaves column [text]) (hvalue : r.value? = none) :
    Names r column r.predicate? text
  /-- Two operands that are left are the comparison and the text. -/
  | operands {predicate text : String} (hcolumn : r.Leaves column [predicate, text])
    (hpredicate : r.predicate? = none) (hvalue : r.value? = none) :
    Names r column (some predicate) text

/-- What a text stands for in a filter, with the comparison that is usual for it. -/
inductive Reads (r : GrepRequest) (text : String) : String → Literal → Prop
  /-- A whole number, where one is asked for. -/
  | whole {n : Int64} (hinteger : r.integer = true)
    (hspells : Numeral.Whole.Spells (Text.trim text).toList n.toInt) : Reads r text "=" (.whole n)
  /-- A text, where one is asked for. -/
  | text (hinteger : r.integer = false) (htext : r.text = true) : Reads r text "LIKE" (.text text)
  /-- The missing value, under its name. -/
  | missing (hinteger : r.integer = false) (htext : r.text = false) (hnull : text = "NULL") :
    Reads r text "IS" (.untyped text)
  /-- What the type of the column makes of it. -/
  | untyped (hinteger : r.integer = false) (htext : r.text = false) (hnull : text ≠ "NULL") :
    Reads r text "LIKE" (.untyped text)

/-- The condition that is asked for. -/
inductive Spells (r : GrepRequest) : Condition → Prop
  | intro {column text usual : String} {predicate? : Option String} {value : Literal}
    (hnames : r.Names column predicate? text) (hreads : r.Reads text usual value) :
    Spells r ⟨column, predicate?.getD usual, value⟩

variable {r : GrepRequest}

theorem leaves_of_fieldAndRest? {column : String} {rest : List String}
    (h : r.fieldAndRest? = some (column, rest)) : r.Leaves column rest := by
  rw [fieldAndRest?] at h
  cases hfield : r.field? with
  | some field =>
    simp only [hfield] at h
    cases h
    exact .field hfield rfl
  | none =>
    cases hoperands : r.operands with
    | nil => simp [hfield, hoperands] at h
    | cons field operands =>
      simp only [hfield, hoperands] at h
      cases h
      exact .operand hfield hoperands

theorem names_of_comparison {c : Comparison} (h : r.comparison = .ok c) :
    r.Names c.field c.predicate? c.value := by
  rw [comparison] at h
  split at h
  · cases h
  · next field rest hrest =>
    have hleaves := leaves_of_fieldAndRest? hrest
    split at h
    · next hvalue =>
      cases h
      exact .switched hleaves hvalue
    · next hvalue =>
      cases h
      exact .operand hleaves hvalue
    · next hpredicate hvalue =>
      cases h
      exact .operands hleaves hpredicate hvalue
    · cases h

theorem reads_of_literal {text usual : String} {value : Literal}
    (h : r.literal text = .ok (usual, value)) : r.Reads text usual value := by
  rw [literal] at h
  cases hinteger : r.integer with
  | true =>
    rw [hinteger, if_pos rfl] at h
    cases hn : Numeral.Whole.readInt64 (Text.trim text) with
    | error problem => simp [hn] at h
    | ok n =>
      simp only [hn] at h
      cases h
      exact .whole hinteger (Numeral.Whole.readInt64_eq_ok_iff.1 hn)
  | false =>
    rw [hinteger, if_neg Bool.false_ne_true] at h
    cases htext : r.text with
    | true =>
      rw [htext, if_pos rfl] at h
      cases h
      exact .text hinteger htext
    | false =>
      rw [htext, if_neg Bool.false_ne_true] at h
      by_cases hnull : text = "NULL"
      · have hmissing : (Literal.untyped text).isNull = true := by simp [Literal.isNull, hnull]
        rw [hmissing, if_pos rfl] at h
        cases h
        exact .missing hinteger htext hnull
      · have hpresent : (Literal.untyped text).isNull = false := by simp [Literal.isNull, hnull]
        rw [hpresent, if_neg Bool.false_ne_true] at h
        cases h
        exact .untyped hinteger htext hnull

/-- A condition is spelled by the switches and operands that it was made of. -/
theorem spells_of_condition {c : Condition} (h : r.condition = .ok c) : r.Spells c := by
  rw [condition] at h
  cases hcomparison : r.comparison with
  | error problem => simp [hcomparison, bind, Except.bind] at h
  | ok parts =>
    cases hliteral : r.literal parts.value with
    | error problem => simp [hcomparison, hliteral, bind, Except.bind] at h
    | ok found =>
      simp only [hcomparison, hliteral, bind, Except.bind, pure, Except.pure] at h
      cases h
      exact .intro (names_of_comparison hcomparison) (reads_of_literal hliteral)

end GrepRequest

theorem HeadRequest.spells_limit (r : HeadRequest) : r.Spells r.limit := by
  rw [limit]
  cases hlines : r.lines? with
  | some n => exact .lines hlines
  | none =>
    cases hcount : r.count? with
    | some n => exact .count hlines hcount
    | none => exact .usual hlines hcount

/-! ## What a stage spells -/

/-- The last tool of a kind among some, with what it was asked for. -/
def IsLast {α : Type} (kind : α → Tool) (tools : List Tool) (r : α) : Prop :=
  ∃ before after, tools = before ++ kind r :: after ∧ ∀ other, kind other ∉ after

/-- A slot holds what the last tool of a kind spells, and nothing where there is no such tool. -/
structure HoldsLast {α β : Type} (kind : α → Tool) (spells : α → β → Prop) (tools : List Tool)
    (slot? : Option β) : Prop where
  /-- There is no tool of the kind. -/
  none : (∀ r, kind r ∉ tools) → slot? = none
  /-- There is a last one. -/
  last : ∀ r, IsLast kind tools r → ∃ b, slot? = some b ∧ spells r b

/-- What the filters among tools were asked for, in their order. -/
def grepRequests (tools : List Tool) : List GrepRequest :=
  tools.filterMap fun
    | .grep r => some r
    | _ => none

/-- A filter with the conditions that are asked for, none where nothing is. -/
inductive SpellsFilter : List GrepRequest → Option Filter → Prop
  | none : SpellsFilter [] none
  | some {r : GrepRequest} {rs : List GrepRequest} {conditions : List Condition}
    (h : List.Forall₂ GrepRequest.Spells (r :: rs) conditions) :
    SpellsFilter (r :: rs) (some ⟨conditions⟩)

/-- What a source selects, with the columns that the tools of its stage leave. -/
inductive SpellsSelection (tools : List Tool) : Source → Option Selection → Prop
  /-- Datasets are referred to by their names, and have the name that is given. -/
  | datasets {r : CatRequest} {columns : List String}
    (hcut : ∀ c, IsLast .cut tools c → columns = c.fields ++ c.operands)
    (huncut : (∀ c, .cut c ∉ tools) → columns = if r.columns = [] then ["*"] else r.columns) :
    SpellsSelection tools (.datasets r)
      (some { tables := r.datasets.map Dataset.reference, alias? := r.alias?, columns })
  /-- A statement selects nothing by itself. -/
  | statement (text : String) : SpellsSelection tools (.statement text) none

/-- A plan has in each slot what its source and the tools of its stage spell. -/
structure SpelledBy (s : Source) (tools : List Tool) (p : Plan) : Prop where
  /-- Tables and name are those of the source, columns those of the last cut. -/
  select : SpellsSelection tools s p.select
  /-- The last join counts. -/
  join : HoldsLast .join JoinRequest.Spells tools p.join
  /-- All filters count. -/
  filter : SpellsFilter (grepRequests tools) p.filter
  /-- The last limit counts. -/
  limit : HoldsLast .head HeadRequest.Spells tools p.limit
  /-- The last order counts. -/
  sort : HoldsLast .sort SortRequest.Spells tools p.sort
  /-- A statement is there as it is given. -/
  raw : ∀ text, p.raw = some text ↔ s = .statement text

/-- Where no tool is of a kind, none has the clause of that kind. -/
theorem filterMap_clause?_eq_nil {α β : Type} {kind : α → Tool} {clause? : Tool → Option β}
    (hother : ∀ t b, clause? t = some b → ∃ r, t = kind r) {tools : List Tool}
    (hnone : ∀ r, kind r ∉ tools) : tools.filterMap clause? = [] := by
  rw [List.filterMap_eq_nil_iff]
  intro t ht
  rw [Option.eq_none_iff_forall_ne_some]
  intro b hb
  obtain ⟨r, rfl⟩ := hother t b hb
  exact hnone r ht

/-- A clause that is the last of its kind holds what the last tool of that kind spells. -/
theorem holdsLast_last? {α β : Type} {kind : α → Tool} {spells : α → β → Prop}
    {clause? : Tool → Option β} (hkind : ∀ r, ∃ b, clause? (kind r) = some b ∧ spells r b)
    (hother : ∀ t b, clause? t = some b → ∃ r, t = kind r) (tools : List Tool) :
    HoldsLast kind spells tools (last? clause? tools) where
  none hnone := by
    rw [last?, filterMap_clause?_eq_nil hother hnone]
    rfl
  last r hlast := by
    obtain ⟨before, after, rfl, hafter⟩ := hlast
    obtain ⟨b, hb, hspells⟩ := hkind r
    refine ⟨b, ?_, hspells⟩
    rw [last?, List.filterMap_append, List.filterMap_cons_some hb,
      filterMap_clause?_eq_nil hother hafter, List.getLast?_concat]

/-- Filters spell the conditions of the tools one by one. -/
theorem forall₂_spells {tools : List Tool}
    (h : ∀ r, .grep r ∈ tools → ∃ c, r.condition = .ok c) :
    List.Forall₂ GrepRequest.Spells (grepRequests tools) (tools.filterMap condition?) := by
  induction tools with
  | nil => exact .nil
  | cons t tools ih =>
    have hrest := ih fun r hr => h r (List.mem_cons_of_mem _ hr)
    cases t with
    | grep r =>
      obtain ⟨c, hc⟩ := h r List.mem_cons_self
      have hcondition : condition? (.grep r) = some c := by rw [condition?, hc]; rfl
      rw [List.filterMap_cons_some hcondition]
      exact .cons (GrepRequest.spells_of_condition hc) hrest
    | _ => exact hrest

/-- The filter of a stage holds the conditions of its filter tools, in their order. -/
theorem spellsFilter_filterOf {tools : List Tool}
    (h : ∀ r, .grep r ∈ tools → ∃ c, r.condition = .ok c) :
    SpellsFilter (grepRequests tools) (filterOf tools) := by
  have hconditions := forall₂_spells h
  rw [filterOf]
  cases hrequests : grepRequests tools with
  | nil =>
    rw [hrequests, List.forall₂_nil_left_iff] at hconditions
    rw [hconditions]
    exact .none
  | cons r rs =>
    rw [hrequests] at hconditions
    obtain ⟨c, conditions, hc, hcs, hfound⟩ := List.forall₂_cons_left_iff.1 hconditions
    rw [hfound]
    exact .some (.cons hc hcs)

/-- The columns that are chosen last. -/
theorem holdsLast_columns? (tools : List Tool) :
    HoldsLast .cut (fun c columns => columns = c.fields ++ c.operands) tools
      (last? columns? tools) := by
  refine holdsLast_last? (fun c => ?_) (fun t b hb => ?_) tools
  · exact ⟨_, rfl, rfl⟩
  · cases t with
    | cut c => exact ⟨c, rfl⟩
    | _ => cases hb

/-- The last join. -/
theorem holdsLast_joining? (tools : List Tool) :
    HoldsLast .join JoinRequest.Spells tools (last? joining? tools) := by
  refine holdsLast_last? (fun r => ?_) (fun t b hb => ?_) tools
  · exact ⟨r.joining, rfl, rfl, rfl, rfl, r.matched⟩
  · cases t with
    | join r => exact ⟨r, rfl⟩
    | _ => cases hb

/-- The last limit. -/
theorem holdsLast_limit? (tools : List Tool) :
    HoldsLast .head HeadRequest.Spells tools (last? limit? tools) := by
  refine holdsLast_last? (fun r => ?_) (fun t b hb => ?_) tools
  · exact ⟨r.limit, rfl, r.spells_limit⟩
  · cases t with
    | head r => exact ⟨r, rfl⟩
    | _ => cases hb

/-- The last order. -/
theorem holdsLast_sorting? (tools : List Tool) :
    HoldsLast .sort SortRequest.Spells tools (last? sorting? tools) := by
  refine holdsLast_last? (fun r => ?_) (fun t b hb => ?_) tools
  · exact ⟨_, rfl, rfl, rfl⟩
  · cases t with
    | sort r => exact ⟨r, rfl⟩
    | _ => cases hb

/-- What a stage selects is spelled by its source and its tools. -/
theorem spellsSelection_selection? (s : Source) (tools : List Tool) :
    SpellsSelection tools s (s.selection? tools) := by
  have hcolumns := holdsLast_columns? tools
  cases s with
  | statement text => exact .statement text
  | datasets r =>
    refine .datasets (fun c hc => ?_) fun hnone => ?_
    · obtain ⟨columns, hlast, rfl⟩ := hcolumns.last c hc
      rw [hlast, Option.getD_some]
    · rw [hcolumns.none hnone, Option.getD_none]
      cases r.columns <;> rfl

/-- The plan of a stage has in each slot what its source and its tools spell. -/
theorem spelledBy_planOf (s : Source) {tools : List Tool}
    (h : ∀ r, .grep r ∈ tools → ∃ c, r.condition = .ok c) : SpelledBy s tools (planOf s tools) where
  select := spellsSelection_selection? s tools
  join := holdsLast_joining? tools
  filter := spellsFilter_filterOf h
  limit := holdsLast_limit? tools
  sort := holdsLast_sorting? tools
  raw text := by
    cases s with
    | datasets r => simp [planOf, Source.raw?]
    | statement other => simp [planOf, Source.raw?]

/-! ## No other plan -/

/-- Places within the switches and the operands leave no choice. -/
theorem JoinRequest.Matched.unique {r : JoinRequest} {cs ds : List JoinCondition}
    (hc : r.Matched cs) (hd : r.Matched ds) : cs = ds := by
  refine List.ext_getElem? fun i => ?_
  by_cases hi : i < min r.left.length (min r.predicate.length r.right.length)
  · have hl : r.left[i]? = some r.left[i] := List.getElem?_eq_getElem (by omega)
    have hp : r.predicate[i]? = some r.predicate[i] := List.getElem?_eq_getElem (by omega)
    have hr : r.right[i]? = some r.right[i] := List.getElem?_eq_getElem (by omega)
    rw [hc.switches i _ _ _ hl hp hr, hd.switches i _ _ _ hl hp hr]
  · obtain ⟨k, rfl⟩ := Nat.exists_eq_add_of_le (Nat.le_of_not_lt hi)
    by_cases hk : 3 * k + 2 < r.operands.length
    · have hl : r.operands[3 * k]? = some r.operands[3 * k] :=
        List.getElem?_eq_getElem (by omega)
      have hp : r.operands[3 * k + 1]? = some r.operands[3 * k + 1] :=
        List.getElem?_eq_getElem (by omega)
      have hr : r.operands[3 * k + 2]? = some r.operands[3 * k + 2] :=
        List.getElem?_eq_getElem hk
      rw [hc.operands k _ _ _ hl hp hr, hd.operands k _ _ _ hl hp hr]
    · have hcs := hc.length
      have hds := hd.length
      rw [List.getElem?_eq_none (by omega), List.getElem?_eq_none (by omega)]

/-- A request spells one join. -/
theorem JoinRequest.Spells.unique {r : JoinRequest} {j k : Joining} (hj : r.Spells j)
    (hk : r.Spells k) : j = k := by
  obtain ⟨jtable, jalias, jhow, jconditions⟩ := j
  obtain ⟨ktable, kalias, khow, kconditions⟩ := k
  obtain ⟨rfl, rfl, rfl, hjmatched⟩ := hj
  obtain ⟨rfl, rfl, rfl, hkmatched⟩ := hk
  exact congrArg (Joining.mk _ _ _) (hjmatched.unique hkmatched)

theorem HeadRequest.Spells.unique {r : HeadRequest} {m n : UInt32} (hm : r.Spells m)
    (hn : r.Spells n) : m = n := by
  cases hm <;> cases hn <;> simp_all

theorem SortRequest.Spells.unique {r : SortRequest} {o u : Sorting} (ho : r.Spells o)
    (hu : r.Spells u) : o = u := by
  obtain ⟨odescending, ocolumns⟩ := o
  obtain ⟨udescending, ucolumns⟩ := u
  obtain ⟨rfl, rfl⟩ := ho
  obtain ⟨rfl, rfl⟩ := hu
  rfl

namespace GrepRequest

variable {r : GrepRequest}

theorem Leaves.unique {column column' : String} {rest rest' : List String}
    (h : r.Leaves column rest) (h' : r.Leaves column' rest') : column = column' ∧ rest = rest' := by
  cases h <;> cases h' <;> simp_all

theorem Names.unique {column column' text text' : String} {predicate? predicate?' : Option String}
    (h : r.Names column predicate? text) (h' : r.Names column' predicate?' text') :
    column = column' ∧ predicate? = predicate?' ∧ text = text' := by
  cases h with
  | switched hcolumn hvalue =>
    cases h' with
    | switched hcolumn' hvalue' =>
      exact ⟨(hcolumn.unique hcolumn').1, rfl, Option.some.inj (hvalue.symm.trans hvalue')⟩
    | operand _ hvalue' => cases hvalue.symm.trans hvalue'
    | operands _ _ hvalue' => cases hvalue.symm.trans hvalue'
  | operand hcolumn hvalue =>
    cases h' with
    | switched _ hvalue' => cases hvalue.symm.trans hvalue'
    | operand hcolumn' _ =>
      obtain ⟨rfl, hrest⟩ := hcolumn.unique hcolumn'
      exact ⟨rfl, rfl, List.head_eq_of_cons_eq hrest⟩
    | operands hcolumn' _ _ => cases (hcolumn.unique hcolumn').2
  | operands hcolumn hpredicate hvalue =>
    cases h' with
    | switched _ hvalue' => cases hvalue.symm.trans hvalue'
    | operand hcolumn' _ => cases (hcolumn.unique hcolumn').2
    | operands hcolumn' _ _ =>
      obtain ⟨rfl, hrest⟩ := hcolumn.unique hcolumn'
      cases hrest
      exact ⟨rfl, rfl, rfl⟩

theorem Reads.unique {text usual usual' : String} {value value' : Literal}
    (h : r.Reads text usual value) (h' : r.Reads text usual' value') :
    usual = usual' ∧ value = value' := by
  cases h with
  | whole hinteger hspells =>
    cases h' with
    | whole _ hspells' =>
      have hread := Numeral.Whole.readInt64_eq_ok_iff.2 hspells
      rw [Numeral.Whole.readInt64_eq_ok_iff.2 hspells'] at hread
      rw [Except.ok.inj hread]
      exact ⟨rfl, rfl⟩
    | text hinteger' => cases hinteger.symm.trans hinteger'
    | missing hinteger' => cases hinteger.symm.trans hinteger'
    | untyped hinteger' => cases hinteger.symm.trans hinteger'
  | text hinteger htext => cases h' <;> simp_all
  | missing hinteger htext hnull => cases h' <;> simp_all
  | untyped hinteger htext hnull => cases h' <;> simp_all

/-- The switches and operands spell one condition. -/
theorem Spells.unique {c d : Condition} (hc : r.Spells c) (hd : r.Spells d) : c = d := by
  obtain ⟨hnames, hreads⟩ := hc
  obtain ⟨hnames', hreads'⟩ := hd
  obtain ⟨rfl, rfl, rfl⟩ := hnames.unique hnames'
  obtain ⟨rfl, rfl⟩ := hreads.unique hreads'
  rfl

end GrepRequest

/-- Among tools there is none of a kind, or a last one. -/
theorem notMem_or_exists_isLast {α : Type} (kind : α → Tool) (tools : List Tool) :
    (∀ r, kind r ∉ tools) ∨ ∃ r, IsLast kind tools r := by
  induction tools with
  | nil => exact .inl fun r => List.not_mem_nil
  | cons t tools ih =>
    rcases ih with hnone | ⟨r, before, after, rfl, hafter⟩
    · by_cases ht : ∃ r, t = kind r
      · obtain ⟨r, rfl⟩ := ht
        exact .inr ⟨r, [], tools, rfl, hnone⟩
      · refine .inl fun r hr => ?_
        rcases List.mem_cons.1 hr with rfl | hr
        · exact ht ⟨r, rfl⟩
        · exact hnone r hr
    · exact .inr ⟨r, t :: before, after, rfl, hafter⟩

/-- What requests of a kind leave no choice for is in the slot. -/
theorem HoldsLast.unique {α β : Type} {kind : α → Tool} {spells : α → β → Prop}
    {tools : List Tool} {slot? slot?' : Option β} (h : HoldsLast kind spells tools slot?)
    (h' : HoldsLast kind spells tools slot?')
    (hspells : ∀ r b b', spells r b → spells r b' → b = b') : slot? = slot?' := by
  rcases notMem_or_exists_isLast kind tools with hnone | ⟨r, hlast⟩
  · rw [h.none hnone, h'.none hnone]
  · obtain ⟨b, rfl, hb⟩ := h.last r hlast
    obtain ⟨b', rfl, hb'⟩ := h'.last r hlast
    rw [hspells r b b' hb hb']

/-- Filter tools spell one filter. -/
theorem SpellsFilter.unique {rs : List GrepRequest} {f f' : Option Filter}
    (h : SpellsFilter rs f) (h' : SpellsFilter rs f') : f = f' := by
  have hunique : Relator.RightUnique GrepRequest.Spells := fun _ _ _ => GrepRequest.Spells.unique
  cases h with
  | none => cases h'; rfl
  | some hconditions =>
    cases h' with
    | some hconditions' => rw [hunique.forall₂ hconditions hconditions']

/-- A source and tools spell one selection. -/
theorem SpellsSelection.unique {tools : List Tool} {s : Source} {found found' : Option Selection}
    (h : SpellsSelection tools s found) (h' : SpellsSelection tools s found') : found = found' := by
  cases h with
  | statement text => cases h'; rfl
  | @datasets r columns hcut huncut =>
    cases h' with
    | @datasets _ columns' hcut' huncut' =>
      have hcolumns : columns = columns' := by
        rcases notMem_or_exists_isLast Tool.cut tools with hnone | ⟨c, hlast⟩
        · rw [huncut hnone, huncut' hnone]
        · rw [hcut c hlast, hcut' c hlast]
      rw [hcolumns]

/-- A source and the tools of its stage spell one plan only. -/
theorem SpelledBy.unique {s : Source} {tools : List Tool} {p q : Plan} (hp : SpelledBy s tools p)
    (hq : SpelledBy s tools q) : p = q := by
  have hselect := hp.select.unique hq.select
  have hjoin := hp.join.unique hq.join fun r j k => JoinRequest.Spells.unique
  have hfilter := hp.filter.unique hq.filter
  have hlimit := hp.limit.unique hq.limit fun r m n => HeadRequest.Spells.unique
  have hsort := hp.sort.unique hq.sort fun r o u => SortRequest.Spells.unique
  have hraw : p.raw = q.raw := Option.ext fun text => (hp.raw text).trans (hq.raw text).symm
  obtain ⟨select, join, filter, limit, sort, raw⟩ := p
  obtain ⟨select', join', filter', limit', sort', raw'⟩ := q
  simp only [Plan.mk.injEq]
  exact ⟨hselect, hjoin, hfilter, hlimit, hsort, hraw⟩

end QueryPipe.Command
