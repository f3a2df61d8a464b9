import QueryPipe.Command.Action

/-!
# Tools one after another

Tools change a chain one after another, up to the first that fails. A tool that starts a stage
appends the plan of its source. Any other tool works on the last plan alone: whether it can is a
condition on that plan, and what it makes of it is a function of that plan.

* `apply_of_source`, `apply_push_eq_ok_iff`: all that a tool can do to a chain.
* `applyAll_append_eq_ok_iff`: a run of tools can be cut anywhere.
* `exists_failing_of_applyAll_eq_error`: a run that fails does so at one of its tools.
* `dropLast_prefix_of_applyAll`: a plan with another after it stays as it is.
-/

namespace QueryPipe

namespace Chain

/-- A chain is empty or ends in a plan. -/
theorem eq_empty_or_push (c : Chain) :
    c = .empty ∨ ∃ (init : Chain) (p : Plan), c = init.push p := by
  obtain ⟨plans⟩ := c
  rcases List.eq_nil_or_concat plans with rfl | ⟨init, p, rfl⟩
  · exact .inl rfl
  · exact .inr ⟨⟨init⟩, p, by rw [push, List.concat_eq_append]⟩

@[simp] theorem plans_push (c : Chain) (p : Plan) : (c.push p).plans = c.plans ++ [p] := rfl

theorem push_ne_empty (c : Chain) (p : Plan) : c.push p ≠ .empty := by
  intro h
  have hplans : c.plans ++ [p] = [] := congrArg Chain.plans h
  simp at hplans

end Chain

namespace Command

/-- The columns are those of the switches and then the operands; there must be one. -/
theorem columnsOf_eq (tool : String) (fields operands : List String) :
    columnsOf tool fields operands =
      if fields ++ operands = [] then .error (.noFields tool) else .ok (fields ++ operands) := by
  simp only [columnsOf, List.isEmpty_iff]

/-- What the stage of a tool reads. -/
inductive Source
  /-- The rows of datasets. -/
  | datasets (request : CatRequest)
  /-- The rows of a statement. -/
  | statement (text : String)
  deriving DecidableEq, Repr, Inhabited

/-- The plan that a stage starts with. -/
def Source.opening : Source → Plan
  | .datasets r => ({} : Plan).set (.select (Tool.selectionOf r))
  | .statement text => ({} : Plan).set (.raw text)

namespace Tool

/-- The source of the stage that a tool starts. -/
def source? : Tool → Option Source
  | .cat r => some (.datasets r)
  | .sql text => some (.statement text)
  | _ => none

/-- The tools that start a stage are those that have a source. -/
theorem isSome_source? (t : Tool) : t.source?.isSome = t.startsStage := by
  cases t <;> rfl

theorem source?_eq_none_iff {t : Tool} : t.source? = none ↔ t.startsStage = false := by
  rw [← isSome_source?, ← Option.not_isSome_iff_eq_none, Bool.not_eq_true]

/-- Whether the tool evaluates the chain. -/
def isEval : Tool → Bool
  | .eval _ => true
  | _ => false

/-! ## One tool -/

/-- Whether a tool that starts no stage can work on a plan. -/
def Fits : Tool → Plan → Prop
  | .cut r, p => r.fields ++ r.operands ≠ [] ∧ p.select.isSome = true
  | .grep r, _ => ∃ c, r.condition = .ok c
  | .sort r, _ => r.fields ++ r.operands ≠ []
  | _, _ => True

/-- What a tool that starts no stage makes of a plan it can work on. -/
def effect : Tool → Plan → Plan
  | .cut r, p =>
    { p with select := p.select.map fun s => { s with columns := r.fields ++ r.operands } }
  | .grep r, p =>
    { p with
      filter :=
        match r.condition with
        | .ok c => some ((p.filter.getD {}).and c)
        | .error _ => p.filter }
  | .head r, p => p.set (.limit r.limit)
  | .sort r, p => p.set (.sort { descending := r.reverse, columns := r.fields ++ r.operands })
  | .join r, p => p.set (.join r.joining)
  | _, p => p

/-- A tool that has a source opens a stage, and cannot fail. -/
theorem apply_of_source {t : Tool} {s : Source} (h : t.source? = some s) (c : Chain) :
    t.apply c = .ok (c.push s.opening) := by
  cases t with
  | cat r => cases h; rfl
  | sql text => cases h; rfl
  | _ => exact absurd h (by simp [source?])

/-- The last plan is the one that is changed. -/
theorem changeLast_push (c : Chain) (p : Plan) (change : Plan → Except ChainFault Plan) :
    changeLast (c.push p) change =
      match change p with
      | .ok q => .ok (c.push q)
      | .error fault => .error (.chain fault) := by
  rw [changeLast, Chain.mapLast_push]
  cases change p <;> rfl

/-- A tool that starts no stage gives a chain exactly when it fits the last plan, and then the
chain with its effect on that plan. -/
theorem apply_push_eq_ok_iff {t : Tool} (ht : t.startsStage = false) {c d : Chain} {p : Plan} :
    t.apply (c.push p) = .ok d ↔ t.Fits p ∧ d = c.push (t.effect p) := by
  cases t with
  | cat r => cases ht
  | sql text => cases ht
  | cut r =>
    simp only [apply, Fits, effect, CutRequest.columns, columnsOf_eq]
    by_cases hnone : r.fields ++ r.operands = []
    · simp [hnone]
    · rw [if_neg hnone]
      simp only [changeLast_push, withColumns, ne_eq, hnone, not_false_eq_true, true_and]
      cases hselect : p.select with
      | none => simp
      | some s =>
        simp only [Plan.set, Except.ok.injEq, Option.isSome_some, true_and, Option.map_some]
        exact eq_comm
  | grep r =>
    simp only [apply, Fits, effect]
    cases hcondition : r.condition with
    | error problem => simp
    | ok condition =>
      simp only [changeLast_push, Except.ok.injEq, exists_eq', true_and]
      exact eq_comm
  | sort r =>
    simp only [apply, Fits, effect, SortRequest.columns, columnsOf_eq]
    by_cases hnone : r.fields ++ r.operands = []
    · simp [hnone]
    · rw [if_neg hnone]
      simp only [changeLast_push, Except.ok.injEq, ne_eq, hnone, not_false_eq_true, true_and]
      exact eq_comm
  | head r | join r | eval r =>
    simp only [apply, Fits, effect, changeLast_push, Except.ok.injEq, true_and]
    exact eq_comm

theorem changeLast_empty (change : Plan → Except ChainFault Plan) :
    changeLast .empty change = .error (.chain .empty) := rfl

/-- Without a plan, a tool that starts no stage fails unless it evaluates. -/
theorem exists_eval_of_apply_empty {t : Tool} (ht : t.startsStage = false) {d : Chain}
    (h : t.apply .empty = .ok d) : ∃ r, t = .eval r ∧ d = .empty := by
  cases t with
  | cat r => cases ht
  | sql text => cases ht
  | eval r => exact ⟨r, rfl, (Except.ok.inj h).symm⟩
  | cut r => cases hcolumns : r.columns <;> simp [apply, hcolumns, changeLast_empty] at h
  | sort r => cases hcolumns : r.columns <;> simp [apply, hcolumns, changeLast_empty] at h
  | grep r => cases hcondition : r.condition <;> simp [apply, hcondition, changeLast_empty] at h
  | head r => simp [apply, changeLast_empty] at h
  | join r => simp [apply, changeLast_empty] at h

/-- All that a tool can do to a chain: append the plan of its source, change the last plan, or
leave no plan as it is. -/
theorem apply_cases {t : Tool} {c d : Chain} (h : t.apply c = .ok d) :
    (∃ s, t.source? = some s ∧ d = c.push s.opening) ∨
    (t.startsStage = false ∧ ∃ (init : Chain) (p : Plan),
      c = init.push p ∧ t.Fits p ∧ d = init.push (t.effect p)) ∨
    (∃ r, t = .eval r ∧ c = .empty ∧ d = .empty) := by
  cases hs : t.source? with
  | some s => exact .inl ⟨s, rfl, Except.ok.inj (h.symm.trans (apply_of_source hs c))⟩
  | none =>
    have ht := source?_eq_none_iff.1 hs
    rcases c.eq_empty_or_push with rfl | ⟨init, p, rfl⟩
    · obtain ⟨r, rfl, rfl⟩ := exists_eval_of_apply_empty ht h
      exact .inr (.inr ⟨r, rfl, rfl, rfl⟩)
    · exact .inr (.inl ⟨ht, init, p, rfl, (apply_push_eq_ok_iff ht).1 h⟩)

/-- Only tools that start no stage can fail. -/
theorem startsStage_of_apply_eq_error {t : Tool} {c : Chain} {fault : Fault}
    (h : t.apply c = .error fault) : t.startsStage = false := by
  rw [← source?_eq_none_iff]
  cases hs : t.source? with
  | none => rfl
  | some s => exact absurd (h.symm.trans (apply_of_source hs c)) (by simp)

/-! ## Many tools -/

/-- Tools one after another, up to the first that fails. -/
def applyAll : List Tool → Chain → Except Fault Chain
  | [], chain => .ok chain
  | t :: rest, chain => do applyAll rest (← t.apply chain)

@[simp] theorem applyAll_nil (c : Chain) : applyAll [] c = .ok c := rfl

theorem applyAll_cons_of_ok {t : Tool} {c d : Chain} (h : t.apply c = .ok d) (rest : List Tool) :
    applyAll (t :: rest) c = applyAll rest d := by
  simp [applyAll, h, bind, Except.bind]

/-- Tools succeed if and only if the first does and the others do after it. -/
theorem applyAll_cons_eq_ok_iff {t : Tool} {rest : List Tool} {c e : Chain} :
    applyAll (t :: rest) c = .ok e ↔ ∃ d, t.apply c = .ok d ∧ applyAll rest d = .ok e := by
  cases h : t.apply c <;> simp [applyAll, h, bind, Except.bind]

/-- Tools succeed if and only if those in front do and those behind do after them. -/
theorem applyAll_append_eq_ok_iff {before after : List Tool} {c e : Chain} :
    applyAll (before ++ after) c = .ok e ↔
      ∃ d, applyAll before c = .ok d ∧ applyAll after d = .ok e := by
  induction before generalizing c with
  | nil => simp
  | cons t rest ih =>
    simp only [List.cons_append, applyAll_cons_eq_ok_iff, ih]
    constructor
    · rintro ⟨d, hd, d', hd', he⟩
      exact ⟨d', ⟨d, hd, hd'⟩, he⟩
    · rintro ⟨d', ⟨d, hd, hd'⟩, he⟩
      exact ⟨d, hd, d', hd', he⟩

/-- The tool at which a run fails. -/
theorem exists_failing_of_applyAll_eq_error {tools : List Tool} {c : Chain} {fault : Fault}
    (h : applyAll tools c = .error fault) :
    ∃ before t after d, tools = before ++ t :: after ∧ applyAll before c = .ok d ∧
      t.apply d = .error fault := by
  induction tools generalizing c with
  | nil => cases h
  | cons t rest ih =>
    cases happly : t.apply c with
    | error cause =>
      have hcause : cause = fault := by simpa [applyAll, happly, bind, Except.bind] using h
      exact ⟨[], t, rest, c, rfl, rfl, hcause ▸ happly⟩
    | ok d =>
      rw [applyAll_cons_of_ok happly] at h
      obtain ⟨before, u, after, e, rfl, he, hfault⟩ := ih h
      exact ⟨t :: before, u, after, e, rfl, (applyAll_cons_of_ok happly before).trans he, hfault⟩

/-- The chains that a run passes through, one after each tool, up to the first that fails. -/
def trail : List Tool → Chain → List Chain
  | [], _ => []
  | t :: rest, chain =>
    match t.apply chain with
    | .ok changed => changed :: trail rest changed
    | .error _ => []

theorem trail_cons_of_ok {t : Tool} {c d : Chain} (h : t.apply c = .ok d) (rest : List Tool) :
    trail (t :: rest) c = d :: trail rest d := by
  simp [trail, h]

/-- Tools that succeed leave one chain each. -/
theorem length_trail {tools : List Tool} {c d : Chain} (h : applyAll tools c = .ok d) :
    (trail tools c).length = tools.length := by
  induction tools generalizing c with
  | nil => rfl
  | cons t rest ih =>
    obtain ⟨e, he, hd⟩ := applyAll_cons_eq_ok_iff.1 h
    rw [trail_cons_of_ok he, List.length_cons, List.length_cons, ih hd]

/-- The chain after some tools is what they give on their own. -/
theorem applyAll_take_of_getElem?_trail {tools : List Tool} {c e : Chain} {i : Nat}
    (h : (trail tools c)[i]? = some e) : applyAll (tools.take (i + 1)) c = .ok e := by
  induction tools generalizing c i with
  | nil => cases h
  | cons t rest ih =>
    cases happly : t.apply c with
    | error cause => simp [trail, happly] at h
    | ok d =>
      rw [trail_cons_of_ok happly] at h
      rw [List.take_succ_cons, applyAll_cons_of_ok happly]
      cases i with
      | zero => simpa using h
      | succ i => exact ih (by simpa using h)

theorem dropLast_prefix_of_apply {t : Tool} {c d : Chain} (h : t.apply c = .ok d) :
    c.plans.dropLast <+: d.plans.dropLast := by
  rcases apply_cases h with ⟨s, -, rfl⟩ | ⟨-, init, p, rfl, -, rfl⟩ | ⟨r, rfl, rfl, rfl⟩
  · simpa using List.dropLast_prefix c.plans
  · simp
  · exact List.prefix_refl _

/-- The stages that are over stay as they are. -/
theorem dropLast_prefix_of_applyAll {tools : List Tool} {c d : Chain}
    (h : applyAll tools c = .ok d) : c.plans.dropLast <+: d.plans.dropLast := by
  induction tools generalizing c with
  | nil => cases h; exact List.prefix_refl _
  | cons t rest ih =>
    obtain ⟨e, he, hd⟩ := applyAll_cons_eq_ok_iff.1 h
    exact (dropLast_prefix_of_apply he).trans (ih hd)

end Tool

end Command

end QueryPipe
