import Mathlib.Data.List.Forall2
import QueryPipe.Proofs.Query.Naming
import QueryPipe.Result

/-!
# Statements that describe columns

The probe of a chain is the statement of its row sources. It draws its names in lockstep with the
statement of the chain itself: taking the row source of a plan, or widening its columns, changes
neither its aliases nor whether it can be read from, so both statements name every stage and every
row source alike and fail alike.

* `Chain.statementFrom_lockstep`: plans that are named alike draw alike and fail alike.
* `Chain.base_base`: taking the row sources twice takes them once.
* `Chain.probe_eq`: a probe is the text of the statement of the row sources.
* `Chain.probe_agrees`: the probe and the statement of a chain fail alike and name alike.
-/

namespace QueryPipe

/-! ## Plans that are named alike -/

/-- Plans that draw the same names and fail in the same way. -/
structure Plan.NamedAlike (p q : Plan) : Prop where
  /-- Both are raw or neither is. -/
  raw : p.raw.isSome = q.raw.isSome
  /-- Their selections carry the same alias. -/
  alias? : p.alias? = q.alias?
  /-- Both can be read from or neither can. -/
  readable : p.IsReadable ↔ q.IsReadable
  /-- What is wrong with one is wrong with the other. -/
  fault : p.fault = q.fault

namespace Plan.NamedAlike

theorem refl (p : Plan) : p.NamedAlike p := ⟨rfl, rfl, Iff.rfl, rfl⟩

theorem trans {p q r : Plan} (hpq : p.NamedAlike q) (hqr : q.NamedAlike r) : p.NamedAlike r :=
  ⟨hpq.raw.trans hqr.raw, hpq.alias?.trans hqr.alias?, hpq.readable.trans hqr.readable,
    hpq.fault.trans hqr.fault⟩

/-- A plan is named as its base is. -/
theorem base (p : Plan) : p.NamedAlike p.base := ⟨rfl, rfl, Iff.rfl, rfl⟩

/-- Plans that are named alike draw as many names for their sources. -/
theorem sourceDraws {p q : Plan} (h : p.NamedAlike q) : p.sourceDraws = q.sourceDraws := by
  rw [Plan.sourceDraws, Plan.sourceDraws, h.raw, h.alias?]

theorem stageDraws {p q : Plan} (h : p.NamedAlike q) : p.stageDraws = q.stageDraws := by
  rw [Plan.stageDraws, Plan.stageDraws, h.alias?, h.sourceDraws]

end Plan.NamedAlike

theorem Selection.tables_widen (s : Selection) : s.widen.tables = s.tables := by
  unfold Selection.widen
  split <;> rfl

theorem Selection.alias_widen (s : Selection) : s.widen.alias? = s.alias? := by
  unfold Selection.widen
  split <;> rfl

/-- A selection is widened by `*`, unless it has no columns or one of them is `*` already. -/
theorem Selection.widen_eq (s : Selection) :
    s.widen = { s with columns :=
      if s.columns = [] ∨ "*" ∈ s.columns.map Text.trim then s.columns
      else s.columns ++ ["*"] } := by
  have hall : (s.columns.isEmpty || s.columns.any fun c => Text.trim c == "*") = true ↔
      s.columns = [] ∨ "*" ∈ s.columns.map Text.trim := by
    simp
  rw [widen]
  by_cases h : s.columns = [] ∨ "*" ∈ s.columns.map Text.trim
  · rw [if_pos (hall.2 h), if_pos h]
  · rw [if_neg (fun hany => h (hall.1 hany)), if_neg h]

/-- Widening twice widens once, since all columns are read after the first time. -/
theorem Selection.widen_widen (s : Selection) : s.widen.widen = s.widen := by
  by_cases h : s.columns.isEmpty || s.columns.any (fun c => Text.trim c == "*")
  · have hs : s.widen = s := by rw [Selection.widen, if_pos h]
    rw [hs, hs]
  · have hs : s.widen = { s with columns := s.columns ++ ["*"] } := by
      rw [Selection.widen, if_neg h]
    have hstar : (Text.trim "*" == "*") = true := by decide
    rw [hs, Selection.widen, if_pos (by simp [hstar])]

/-- Widening a plan changes none of its names. -/
theorem Plan.NamedAlike.widen (p : Plan) : p.NamedAlike p.widen := by
  cases hselect : p.select with
  | none =>
    have hp : p.widen = p := by
      obtain ⟨select, join, filter, limit, sort, raw⟩ := p
      cases hselect
      rfl
    rw [hp]
    exact .refl p
  | some s =>
    have hs : p.widen.select = some s.widen := by rw [Plan.widen, hselect]; rfl
    refine ⟨rfl, ?_, ?_, ?_⟩
    · rw [Plan.alias?, Plan.alias?, hselect, hs]
      exact s.alias_widen.symm
    · rw [Plan.IsReadable, Plan.IsReadable, hselect, hs]
      simp [s.tables_widen, Plan.widen]
    · rw [Plan.fault, Plan.fault, hselect, hs]
      rfl

/-- A plan that is widened is not widened further. -/
theorem Plan.widen_widen (p : Plan) : p.widen.widen = p.widen := by
  obtain ⟨select, join, filter, limit, sort, raw⟩ := p
  cases select with
  | none => rfl
  | some s => simp [Plan.widen, s.widen_widen]

namespace Chain

/-! ## The row sources of a chain -/

theorem widenLast_append (init : List Plan) (last : Plan) :
    widenLast (init ++ [last]) = init ++ [last.widen] := by
  induction init with
  | nil => rfl
  | cons p init ih =>
    obtain ⟨next, rest, hcons⟩ : ∃ next rest, init ++ [last] = next :: rest := by
      cases init <;> simp
    rw [List.cons_append, hcons, widenLast, ← hcons, ih]
    rfl

/-- The base of a chain is the base of its stages, the last of them widened. -/
theorem base_append {c : Chain} {init : List Plan} {last : Plan}
    (h : c.plans = init ++ [last]) :
    c.base = ⟨init.map Plan.base ++ [last.base.widen]⟩ := by
  rw [base, h, List.map_append, List.map_singleton, widenLast_append]

/-- Taking the row sources twice takes them once. -/
theorem base_base (c : Chain) : c.base.base = c.base := by
  rcases List.eq_nil_or_concat c.plans with h | ⟨init, last, h⟩
  · rw [base, base, h]
    rfl
  · have hlast : last.base.widen.base.widen = last.base.widen := last.base.widen_widen
    rw [List.concat_eq_append] at h
    rw [base_append h, base_append rfl, List.map_map, hlast]
    rfl

/-- Every stage of a chain is named alike in its base. -/
theorem namedAlike_widenLast (plans : List Plan) :
    List.Forall₂ Plan.NamedAlike plans (widenLast (plans.map Plan.base)) := by
  induction plans with
  | nil => exact .nil
  | cons p rest ih =>
    cases rest with
    | nil => exact .cons ((Plan.NamedAlike.base p).trans (.widen p.base)) .nil
    | cons next rest => exact .cons (.base p) ih

/-! ## Lockstep -/

/-- An unreadable stage in front is reported. -/
theorem statementFrom_of_not_isReadable {p : Plan} (hp : ¬ p.IsReadable) (rest : List Plan)
    (index : Nat) (supply : AliasSupply) :
    (statementFrom index (p :: rest) supply).1 = .error (.stage index p.fault) := by
  have hfault := @statementFrom_eq_fault [] p (by simp) hp rest index supply
  rw [List.nil_append] at hfault
  rw [hfault]
  rfl

/-- Plans that are named alike draw alike and fail alike. -/
theorem statementFrom_lockstep {plans others : List Plan}
    (h : List.Forall₂ Plan.NamedAlike plans others) (index : Nat) (supply : AliasSupply)
    (fault : ChainFault) :
    (statementFrom index plans supply).1 = .error fault ↔
      (statementFrom index others supply).1 = .error fault := by
  -- Both runs hold the same supply before every plan, since plans that are named alike draw the
  -- same number of names.
  induction h generalizing index supply with
  | nil => rfl
  | @cons p q rest rest' hpq hrest ih =>
    by_cases hp : p.IsReadable
    · have hq : q.IsReadable := hpq.readable.1 hp
      cases hrest with
      | nil =>
        rw [statementFrom, statementFrom, p.render_eq_write hp index, q.render_eq_write hq index]
        simp [Except.mapError, Except.map]
      | cons hnext hrest =>
        rw [statementFrom_cons hp, statementFrom_cons hq, map_eq_error_iff, map_eq_error_iff,
          hpq.stageDraws]
        exact ih (index + 1) _
    · have hq : ¬ q.IsReadable := fun hq => hp (hpq.readable.2 hq)
      rw [statementFrom_of_not_isReadable hp, statementFrom_of_not_isReadable hq, hpq.fault]

/-- Stages that are named alike have the same slots. -/
theorem slots_draftFrom_lockstep {plans others : List Plan}
    (h : List.Forall₂ Plan.NamedAlike plans others) (hreadable : ∀ p ∈ plans, p.IsReadable)
    (index : Nat) (lead : String) :
    (draftFrom index lead plans).slots = (draftFrom index lead others).slots := by
  induction h generalizing index lead with
  | nil => rfl
  | @cons p q rest rest' hpq hrest ih =>
    have hp : p.IsReadable := hreadable p (by simp)
    have hslots : (p.draft index).slots = (q.draft index).slots := by
      rw [p.slots_draft hp, q.slots_draft (hpq.readable.1 hp), hpq.raw, hpq.alias?]
    cases hrest with
    | nil => exact hslots
    | cons hnext hrest =>
      rw [slots_draftFrom_cons, slots_draftFrom_cons, hslots, hpq.alias?,
        ih (fun r hr => hreadable r (List.mem_cons_of_mem _ hr)) (index + 1) ", "]

/-! ## Probes -/

/-- A chain that has a query has stages, and all of them are readable. -/
theorem readable_of_query {c : Chain} {q : Query} (h : c.query = .ok q) :
    c.plans ≠ [] ∧ ∀ p ∈ c.plans, p.IsReadable := (c.render_isOk_iff {}).1 ⟨q, h⟩

/-- No stage of a base compares with a value. -/
theorem comparisons_base {p : Plan} {c : Chain} (hp : p ∈ c.base.plans) : p.comparisons = [] := by
  rcases List.eq_nil_or_concat c.plans with h | ⟨init, last, h⟩
  · rw [base, h] at hp
    exact absurd hp (by simp [widenLast])
  · rw [List.concat_eq_append] at h
    rw [base_append h] at hp
    rcases List.mem_append.1 hp with hp | hp
    · obtain ⟨q, -, rfl⟩ := List.mem_map.1 hp
      rfl
    · obtain rfl := List.mem_singleton.1 hp
      rfl

/-- A probe is the text of the statement of the row sources. -/
theorem probe_eq (c : Chain) : c.probe = c.base.query.map Query.text := by
  cases h : c.base.query with
  | error fault =>
    rw [probe, h]
    rfl
  | ok q =>
    obtain ⟨hne, hreadable⟩ := readable_of_query h
    have hparams : q.params = [] := by
      rw [query, render_eq_write hne hreadable] at h
      obtain rfl := Except.ok.inj h
      have hcomparisons : (c.base.plans.filter fun p => p.raw.isNone).flatMap Plan.comparisons =
          [] := List.flatMap_eq_nil_iff.2 fun p hp => comparisons_base (List.mem_of_mem_filter hp)
      rw [Draft.query, Draft.params, draft, comparisons_draftFrom hreadable, hcomparisons]
      rfl
    have hprobe : c.probe =
        if q.params.isEmpty then pure q.text else throw (.parameters q.params.length) := by
      rw [probe, h]
      rfl
    rw [hprobe, hparams]
    rfl

/-- Chains that differ only in filters, orders and limits have the same row sources. -/
theorem base_congr {c d : Chain}
    (h : List.Forall₂ (fun p q => p.select = q.select ∧ p.join = q.join ∧ p.raw = q.raw)
      c.plans d.plans) : c.base = d.base := by
  have hmap : c.plans.map Plan.base = d.plans.map Plan.base := by
    generalize c.plans = plans, d.plans = others at h
    induction h with
    | nil => rfl
    | cons hpq _ ih =>
      obtain ⟨hselect, hjoin, hraw⟩ := hpq
      rw [List.map_cons, List.map_cons, ih, Plan.base, Plan.base, hselect, hjoin, hraw]
  rw [base, base, hmap]

/-- A chain and its base fail alike. -/
theorem query_base_eq_error_iff (c : Chain) (fault : ChainFault) :
    c.base.query = .error fault ↔ c.query = .error fault := by
  have hquery : ∀ d : Chain, d.query = (statementFrom 0 d.plans {}).1.map Statement.query :=
    fun _ => rfl
  rw [hquery, hquery, map_eq_error_iff, map_eq_error_iff]
  exact (statementFrom_lockstep (namedAlike_widenLast c.plans) 0 {} fault).symm

/-- The fault of a chain is that it is empty or lies in one of its plans. -/
theorem query_error_cases {c : Chain} {fault : ChainFault} (h : c.query = .error fault) :
    fault = .empty ∨ ∃ k cause, fault = .stage k cause := by
  by_cases hne : c.plans = []
  · rw [query, render_empty hne] at h
    exact .inl (Except.error.inj h).symm
  · by_cases hreadable : ∀ p ∈ c.plans, p.IsReadable
    · rw [query, render_eq_write hne hreadable] at h
      exact absurd h (by simp)
    · obtain ⟨before, p, after, hc, hbefore, hp⟩ := exists_first_unreadable hreadable
      rw [query, render_eq_fault hc hbefore hp] at h
      exact .inr ⟨_, _, (Except.error.inj h).symm⟩

/-- A chain with a statement has a probe, and both write their drafts under the same names. -/
theorem probe_eq_write {c : Chain} {q : Query} (h : c.query = .ok q) :
    ∃ names,
      c.draft.slots = c.plans.zipIdx.flatMap (fun place =>
        place.1.slots c.plans.length place.2) ∧
      names.length = c.draft.slots.length ∧ q.text = c.draft.write names ∧
      c.base.draft.slots = c.draft.slots ∧ c.probe = .ok (c.base.draft.write names) := by
  obtain ⟨hne, hreadable⟩ := readable_of_query h
  have hslots : c.draft.slots = c.base.draft.slots :=
    slots_draftFrom_lockstep (namedAlike_widenLast c.plans) hreadable 0 "WITH "
  have htext : q.text = c.draft.write (slotNames c.draft.slots {}) := by
    rw [query, render_eq_write hne hreadable] at h
    obtain rfl := Except.ok.inj h
    rfl
  cases hbase : c.base.query with
  | error fault =>
    rw [query_base_eq_error_iff, h] at hbase
    exact absurd hbase (by simp)
  | ok r =>
    obtain ⟨hne', hreadable'⟩ := readable_of_query hbase
    refine ⟨slotNames c.draft.slots {}, slots_draft hreadable, length_slotNames _ _, htext,
      hslots.symm, ?_⟩
    rw [probe_eq, query, render_eq_write hne' hreadable', hslots]
    rfl

/-- The probe and the statement of a chain fail alike and name alike. -/
theorem probe_agrees (c : Chain) :
    (∀ fault, c.probe = .error fault ↔ c.query = .error fault) ∧
    (∀ fault, c.probe = .error fault → fault = .empty ∨ ∃ k cause, fault = .stage k cause) ∧
    (∀ q, c.query = .ok q → ∃ names,
      c.draft.slots = c.plans.zipIdx.flatMap (fun place =>
        place.1.slots c.plans.length place.2) ∧
      names.length = c.draft.slots.length ∧ q.text = c.draft.write names ∧
      c.base.draft.slots = c.draft.slots ∧ c.probe = .ok (c.base.draft.write names)) ∧
    (∀ init last, c.plans = init ++ [last] →
      c.probe = Except.map Query.text (Chain.query
        ⟨(init.map fun p => { p with filter := none, sort := none, limit := none }) ++
          [{ last with filter := none, sort := none, limit := none,
                       select := last.select.map fun s =>
                         { s with columns :=
                           if s.columns = [] ∨ "*" ∈ s.columns.map Text.trim then s.columns
                           else s.columns ++ ["*"] } }]⟩)) ∧
    (∀ d : Chain,
      List.Forall₂ (fun p q => p.select = q.select ∧ p.join = q.join ∧ p.raw = q.raw)
        c.plans d.plans → c.probe = d.probe) ∧
    c.base.base = c.base := by
  have herror : ∀ fault, c.probe = .error fault ↔ c.query = .error fault := by
    intro fault
    rw [probe_eq, map_eq_error_iff, query_base_eq_error_iff]
  refine ⟨herror, ?_, ?_, ?_, ?_, c.base_base⟩
  · intro fault h
    exact query_error_cases ((herror fault).1 h)
  · intro q h
    exact probe_eq_write h
  · intro init last h
    rw [probe_eq, base_append h, Plan.widen, funext Selection.widen_eq]
    rfl
  · intro d h
    rw [probe_eq, probe_eq, base_congr h]

end Chain

end QueryPipe
