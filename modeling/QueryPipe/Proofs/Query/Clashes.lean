import QueryPipe.Proofs.Query.Probe

/-!
# Given names and drawn names

Names that a chain gives and names that are drawn for it stand side by side in one statement. Drawn
names never meet each other. A given name meets a drawn one if it is itself one of the names that
the statement draws, and nothing in the chain keeps it from that.

* `stageNames`: the stages of a statement are named by the aliases of their plans, or with the
  number of names that were drawn up to them.
* `nodup_stageNames_iff`: when these names are distinct.
* `Chain.names_distinct_of_unlike`: how the names of a statement can clash.
-/

namespace QueryPipe

/-- The names of the stages of plans. -/
def stageNames (plans : List Plan) (supply : AliasSupply) : List String :=
  plans.dropLast.mapIdx fun k p => ((supply.skip (drawsBefore (plans.take k))).resolve p.alias?).1

theorem stageNames_cons (p next : Plan) (rest : List Plan) (supply : AliasSupply) :
    stageNames (p :: next :: rest) supply =
      (supply.resolve p.alias?).1 :: stageNames (next :: rest) (supply.skip p.stageDraws) := by
  rw [stageNames, List.dropLast_cons_cons, List.mapIdx_cons]
  congr 1
  refine List.mapIdx_eq_mapIdx_iff.2 fun k hk => ?_
  rw [List.take_succ_cons, drawsBefore_cons, AliasSupply.skip_skip]

/-- The stages of a statement have these names. -/
theorem Chain.map_fst_stages {plans : List Plan} {index : Nat} {supply : AliasSupply}
    {st : Statement} (h : (statementFrom index plans supply).1 = .ok st) :
    st.stages.map Prod.fst = stageNames plans supply := by
  induction plans generalizing index supply st with
  | nil => cases h
  | cons p rest ih =>
    by_cases hp : p.IsReadable
    · cases rest with
      | nil =>
        rw [statementFrom, p.render_eq_write hp index] at h
        cases h
        rfl
      | cons next rest =>
        rw [statementFrom_cons hp] at h
        obtain ⟨more, hmore, rfl⟩ := exists_of_map_eq_ok h
        rw [Statement.precede, List.map_cons, ih hmore, stageNames_cons]
    · rw [statementFrom_of_not_isReadable hp] at h
      cases h

/-! ## Distinct names -/

/-- A stage without an alias draws at least its own name. -/
theorem drawsBefore_lt {plans : List Plan} {i j : Nat} {p : Plan} (hij : i < j)
    (hp : plans[i]? = some p) (halias : p.alias? = none) :
    drawsBefore (plans.take i) < drawsBefore (plans.take j) := by
  obtain ⟨hlt, hget⟩ := List.getElem?_eq_some_iff.1 hp
  have hsplit : plans.take j = plans.take i ++ p :: (plans.drop (i + 1)).take (j - (i + 1)) := by
    obtain ⟨k, rfl⟩ := Nat.exists_eq_add_of_lt hij
    rw [Nat.add_assoc, List.take_add, List.drop_eq_getElem_cons hlt, hget, List.take_succ_cons]
    congr 3
    omega
  have hdraws : p.stageDraws ≥ 1 := by
    rw [Plan.stageDraws, halias]
    exact Nat.le_add_right 1 _
  rw [hsplit, drawsBefore_append, drawsBefore_cons]
  omega

theorem alias?_ne_of_lt {plans : List Plan} (h : (plans.filterMap Plan.alias?).Nodup) {i j : Nat}
    {p q : Plan} (hij : i < j) (hp : plans[i]? = some p) (hq : plans[j]? = some q) {name : String}
    (hname : p.alias? = some name) : q.alias? ≠ some name := by
  obtain ⟨hi, rfl⟩ := List.getElem?_eq_some_iff.1 hp
  obtain ⟨hj, rfl⟩ := List.getElem?_eq_some_iff.1 hq
  rw [List.Nodup, List.pairwise_filterMap, List.pairwise_iff_getElem] at h
  intro hother
  exact h i j hi hj hij name hname name hother rfl

theorem getElem?_of_dropLast {plans : List Plan} {i : Nat} {p : Plan}
    (h : plans.dropLast[i]? = some p) : plans[i]? = some p := by
  rw [List.getElem?_dropLast] at h
  split at h
  · exact h
  · cases h

theorem getElem?_stageNames (plans : List Plan) (supply : AliasSupply) (k : Nat) :
    (stageNames plans supply)[k]? = plans.dropLast[k]?.map fun p =>
      ((supply.skip (drawsBefore (plans.take k))).resolve p.alias?).1 := List.getElem?_mapIdx

/-- The stages of plans with different aliases have different names, unless an alias is the name
that is drawn for another stage. -/
theorem nodup_stageNames_iff {plans : List Plan} (haliases : (plans.filterMap Plan.alias?).Nodup)
    (supply : AliasSupply) :
    (stageNames plans supply).Nodup ↔
      ∀ (i j : Nat) (p q : Plan), plans.dropLast[i]? = some p → plans.dropLast[j]? = some q →
        q.alias? = none → p.alias? ≠ some (supply.skip (drawsBefore (plans.take j))).next := by
  constructor
  · intro hnodup i j p q hp hq hopen hclash
    have hi : (stageNames plans supply)[i]? = (stageNames plans supply)[j]? := by
      rw [getElem?_stageNames, getElem?_stageNames, hp, hq, Option.map_some, Option.map_some,
        hopen, hclash]
      rfl
    have hlt : i < (stageNames plans supply).length := by
      rw [stageNames, List.length_mapIdx]
      exact (List.getElem?_eq_some_iff.1 hp).1
    obtain rfl := (List.getElem?_inj hlt hnodup).1 hi
    rw [hp] at hq
    cases hq
    rw [hopen] at hclash
    cases hclash
  · intro hclear
    rw [List.nodup_iff_getElem?_ne_getElem?]
    intro i j hij hj heq
    rw [stageNames, List.length_mapIdx] at hj
    obtain ⟨p, hp⟩ : ∃ p, plans.dropLast[i]? = some p :=
      ⟨_, List.getElem?_eq_getElem (Nat.lt_trans hij hj)⟩
    obtain ⟨q, hq⟩ : ∃ q, plans.dropLast[j]? = some q := ⟨_, List.getElem?_eq_getElem hj⟩
    have hp' : plans[i]? = some p := getElem?_of_dropLast hp
    have hq' : plans[j]? = some q := getElem?_of_dropLast hq
    simp only [getElem?_stageNames, hp, hq, Option.map_some, Option.some.injEq] at heq
    rcases hpa : p.alias? with _ | a <;> rcases hqa : q.alias? with _ | b <;>
      simp only [hpa, hqa, AliasSupply.resolve_none, AliasSupply.resolve_some] at heq
    · -- Both names are drawn, the second one later.
      have hlt := drawsBefore_lt hij hp' hpa
      have hsame := AliasSupply.nameAt_inj heq
      simp only [AliasSupply.skip] at hsame
      omega
    · exact hclear j i q p hq hp hpa (hqa.trans (congrArg some heq.symm))
    · exact hclear i j p q hp hq hqa (hpa.trans (congrArg some heq))
    · exact alias?_ne_of_lt haliases hij hp' hq' hpa (hqa.trans (congrArg some heq.symm))

namespace Chain

/-! ## The names of a statement -/

/-- The aliases that the selections of a chain are given. -/
def aliases (c : Chain) : List String := c.plans.filterMap Plan.alias?

/-- The number of names that the statement of a chain draws. -/
def draws (c : Chain) : Nat := unnamedStages c.plans.dropLast + unnamedSources c.plans

/-- The name of a stage without an alias is one of those that are drawn. -/
theorem drawsBefore_lt_draws {c : Chain} {j : Nat} {q : Plan} (hq : c.plans.dropLast[j]? = some q)
    (halias : q.alias? = none) : drawsBefore (c.plans.take j) < c.draws := by
  have hj : j < c.plans.length - 1 := by
    rw [← List.length_dropLast]
    exact (List.getElem?_eq_some_iff.1 hq).1
  have hlt := drawsBefore_lt hj (getElem?_of_dropLast hq) halias
  have hsources : unnamedSources c.plans.dropLast ≤ unnamedSources c.plans :=
    (List.dropLast_sublist c.plans).countP_le
  rw [← List.dropLast_eq_take] at hlt
  exact Nat.lt_of_lt_of_le hlt (Nat.add_le_add_left hsources _)

theorem statement_of_ok {c : Chain} {supply : AliasSupply} {st : Statement}
    (h : (c.statement supply).1 = .ok st) :
    (∀ p ∈ c.plans, p.IsReadable) ∧ st.text = c.draft.write (slotNames c.draft.slots supply) := by
  have hrender : (c.render supply).1 = .ok st.query := by
    show (c.statement supply).1.map Statement.query = .ok st.query
    rw [h]
    rfl
  obtain ⟨hne, hreadable⟩ := (c.render_isOk_iff supply).1 ⟨_, hrender⟩
  obtain ⟨found, hfound, htext, -⟩ := statementFrom_eq_write hne hreadable 0 "WITH " supply
  rw [statement, hfound] at h
  obtain rfl := Except.ok.inj h
  exact ⟨hreadable, htext⟩

/-- How the names of a statement can clash. Drawn names are distinct, and so are aliases that are
given as distinct. The two kinds meet only where an alias is one of the names that the statement
draws; otherwise no stage is named twice. -/
theorem names_distinct_of_unlike {c : Chain} {st : Statement} (h : (c.statement {}).1 = .ok st)
    (haliases : c.aliases.Nodup) :
    ∃ names, st.text = c.draft.write names ∧ names.length = c.draft.slots.length ∧
      openNames c.draft.slots names =
        (List.range c.draws).map (fun k => AliasSupply.nameAt "t" (1 + k)) ∧
      (openNames c.draft.slots names).Nodup ∧
      ((st.stages.map Prod.fst).Nodup ↔
        ∀ (i j : Nat) (p q : Plan), c.plans.dropLast[i]? = some p → c.plans.dropLast[j]? = some q →
          q.alias? = none →
          p.alias? ≠ some (AliasSupply.nameAt "t" (1 + drawsBefore (c.plans.take j)))) ∧
      ((∀ k < c.draws, AliasSupply.nameAt "t" (1 + k) ∉ c.aliases) →
        (st.stages.map Prod.fst).Nodup ∧
        ∀ name ∈ openNames c.draft.slots names, name ∉ c.aliases) := by
  obtain ⟨hreadable, htext⟩ := statement_of_ok h
  have hcount : openSlots c.draft.slots = c.draws := openSlots_draftFrom hreadable 0 "WITH "
  have hopen : openNames c.draft.slots (slotNames c.draft.slots {}) =
      (List.range c.draws).map (fun k => AliasSupply.nameAt "t" (1 + k)) := by
    rw [openNames_slotNames, hcount, AliasSupply.take_eq_map]
  have hstages := nodup_stageNames_iff haliases {}
  rw [← map_fst_stages h] at hstages
  refine ⟨_, htext, length_slotNames _ _, hopen, ?_, hstages, ?_⟩
  · rw [openNames_slotNames]
    exact AliasSupply.nodup_take _ _
  · intro hclear
    constructor
    · refine hstages.2 fun i j p q hp hq hunnamed hclash => ?_
      refine hclear _ (drawsBefore_lt_draws hq hunnamed) ?_
      exact List.mem_filterMap.2 ⟨p, List.mem_of_getElem? (getElem?_of_dropLast hp), hclash⟩
    · intro name hname
      rw [hopen] at hname
      obtain ⟨k, hk, rfl⟩ := List.mem_map.1 hname
      exact hclear k (List.mem_range.1 hk)

/-- Names do not clash in a statement of an unnamed stage and a named one. -/
theorem names_distinct_of_two_stages :
    let c : Chain := ⟨[{ select := some (.allOf "a") },
      { select := some { tables := ["b"], alias? := some "u", columns := ["*"] } },
      { select := some (.allOf "u") }]⟩
    ∃ st, (c.statement {}).1 = .ok st ∧ c.aliases.Nodup ∧ (st.stages.map Prod.fst).Nodup := by
  intro c
  have haliases : c.aliases.Nodup := by decide
  obtain ⟨names, -, -, -, -, -, hclear⟩ := names_distinct_of_unlike (c := c) rfl haliases
  exact ⟨_, rfl, haliases, (hclear (by decide)).1⟩

/-- Two stages have one name where a plan is given the first name that is drawn. -/
theorem names_clash_of_drawn_alias :
    let c : Chain := ⟨[{ select := some (.allOf "a") },
      { select := some { tables := ["b"], alias? := some "t1", columns := ["*"] } },
      { select := some (.allOf "c") }]⟩
    ∃ st, (c.statement {}).1 = .ok st ∧ c.aliases.Nodup ∧
      st.text = "WITH t1 AS (SELECT * FROM a AS t2) , t1 AS (SELECT * FROM b AS t1) " ++
        "SELECT * FROM c AS t3" ∧
      ¬ (st.stages.map Prod.fst).Nodup ∧
      ∃ name ∈ openNames c.draft.slots (slotNames c.draft.slots {}), name ∈ c.aliases := by
  intro c
  exact ⟨_, rfl, by decide, by decide, by decide, "t1", by decide, by decide⟩

end Chain

end QueryPipe
