import QueryPipe.Proofs.Query.PlanDraft
import QueryPipe.Query.Chain

/-!
# Drafts of chains

The draft of a chain lists its plans in order. Every plan but the last stands behind a slot for
the name of its stage, so one supply names the whole statement from left to right.

* `Chain.render_eq_write`: a chain whose plans can all be read from is rendered as its draft.
* `Chain.render_eq_fault`: otherwise the first plan that cannot be read from is the fault, and the
  names drawn up to there stay drawn.
-/

namespace QueryPipe

/-- The draft of plans that follow `index` others; `lead` stands before the first stage. -/
def draftFrom (index : Nat) (lead : String) : List Plan → Draft
  | [] => []
  | [p] => p.draft index
  | p :: next :: rest =>
    .words lead :: .slot ⟨index, .stage, p.alias?⟩ :: .words " AS (" ::
      (p.draft index ++ .words ") " :: draftFrom (index + 1) ", " (next :: rest))

/-- The draft of a chain. -/
def Chain.draft (c : Chain) : Draft := draftFrom 0 "WITH " c.plans

/-! ## Names drawn -/

/-- The names that a plan draws for its row source. -/
def Plan.sourceDraws (p : Plan) : Nat :=
  if p.raw.isSome then 0 else AliasSupply.drawsFor p.alias?

/-- The names that a plan draws as a stage, its row source included. -/
def Plan.stageDraws (p : Plan) : Nat := AliasSupply.drawsFor p.alias? + p.sourceDraws

/-- The number of plans whose stage would have no name of its own. -/
def unnamedStages (plans : List Plan) : Nat := plans.countP fun p => p.alias?.isNone

/-- The number of plans whose row source has no name of its own; a raw plan has no row source. -/
def unnamedSources (plans : List Plan) : Nat :=
  plans.countP fun p => p.raw.isNone && p.alias?.isNone

theorem unnamedStages_cons (p : Plan) (plans : List Plan) :
    unnamedStages (p :: plans) = AliasSupply.drawsFor p.alias? + unnamedStages plans := by
  rw [unnamedStages, List.countP_cons, Nat.add_comm]
  rfl

theorem unnamedSources_cons (p : Plan) (plans : List Plan) :
    unnamedSources (p :: plans) = p.sourceDraws + unnamedSources plans := by
  rw [unnamedSources, List.countP_cons, Nat.add_comm, Plan.sourceDraws]
  cases p.raw <;> rfl

/-- The names drawn for plans that are followed by another. -/
def drawsBefore (plans : List Plan) : Nat := unnamedStages plans + unnamedSources plans

theorem drawsBefore_cons (p : Plan) (plans : List Plan) :
    drawsBefore (p :: plans) = p.stageDraws + drawsBefore plans := by
  rw [drawsBefore, unnamedStages_cons, unnamedSources_cons, Plan.stageDraws, drawsBefore]
  omega

/-- The draws of stages in a row add up. -/
theorem drawsBefore_append (plans others : List Plan) :
    drawsBefore (plans ++ others) = drawsBefore plans + drawsBefore others := by
  simp only [drawsBefore, unnamedStages, unnamedSources, List.countP_append]
  omega

/-- A readable plan leaves open the names of its own sources. -/
theorem Plan.openSlots_draft {p : Plan} (h : p.IsReadable) (index : Nat) :
    openSlots (p.draft index).slots = p.sourceDraws := by
  rw [p.slots_draft h, Plan.sourceDraws]
  cases p.raw.isSome with
  | true => rfl
  | false => rw [if_neg (by simp), if_neg (by simp), openSlots_cons]; rfl

/-! ## Statements piece by piece -/

namespace Statement

/-- A statement as text, with a lead of its own in front of the first stage. -/
def textFrom (lead : String) (st : Statement) : String :=
  (if st.stages.isEmpty then "" else lead ++ Text.joined ", " (st.stages.map stageText)) ++
    st.last.text

theorem text_eq_textFrom (st : Statement) : st.text = st.textFrom "WITH " := rfl

/-- A stage in front is written in front. -/
theorem textFrom_precede (lead : String) (stage : String × Query) (st : Statement) :
    (st.precede stage).textFrom lead = lead ++ stageText stage ++ st.textFrom ", " := by
  cases hst : st.stages with
  | nil => simp [textFrom, precede, hst]
  | cons next stages => simp [textFrom, precede, hst, String.append_assoc]

/-- The parameters of a stage in front come first. -/
theorem params_precede (stage : String × Query) (st : Statement) :
    (st.precede stage).params = stage.2.params ++ st.params := by
  simp [params, precede]

end Statement

/-- The names of a chain are the name of its first stage, those inside it, and those of the rest. -/
theorem slots_draftFrom_cons (index : Nat) (lead : String) (p next : Plan) (rest : List Plan) :
    (draftFrom index lead (p :: next :: rest)).slots =
      ⟨index, .stage, p.alias?⟩ ::
        ((p.draft index).slots ++ (draftFrom (index + 1) ", " (next :: rest)).slots) := by
  rw [draftFrom, Draft.slots_words, Draft.slots_slot, Draft.slots_words, Draft.slots_append,
    Draft.slots_words]

theorem comparisons_draftFrom_cons (index : Nat) (lead : String) (p next : Plan)
    (rest : List Plan) :
    (draftFrom index lead (p :: next :: rest)).comparisons =
      (p.draft index).comparisons ++
        (draftFrom (index + 1) ", " (next :: rest)).comparisons := by
  rw [draftFrom, Draft.comparisons_words, Draft.comparisons_slot, Draft.comparisons_words,
    Draft.comparisons_append, Draft.comparisons_words]

/-- The comparisons of a chain are those of its plans in order; a raw plan has none. -/
theorem comparisons_draftFrom {plans : List Plan} (h : ∀ p ∈ plans, p.IsReadable) (index : Nat)
    (lead : String) :
    (draftFrom index lead plans).comparisons =
      (plans.filter fun p => p.raw.isNone).flatMap Plan.comparisons := by
  induction plans generalizing index lead with
  | nil => rfl
  | cons p rest ih =>
    have hp := p.comparisons_draft (h p (by simp)) index
    have hrest := ih (fun q hq => h q (List.mem_cons_of_mem _ hq)) (index + 1) ", "
    have hcons : (draftFrom index lead (p :: rest)).comparisons =
        (p.draft index).comparisons ++ (draftFrom (index + 1) ", " rest).comparisons := by
      cases rest with
      | nil => exact (List.append_nil _).symm
      | cons next rest => exact comparisons_draftFrom_cons index lead p next rest
    rw [hcons, hrest, hp]
    cases hraw : p.raw with
    | none => rw [List.filter_cons_of_pos (by simp [hraw])]; rfl
    | some text => rw [List.filter_cons_of_neg (by simp [hraw])]; rfl

theorem text_draftFrom_cons (index : Nat) (lead : String) (p next : Plan) (rest : List Plan)
    (supply : AliasSupply) :
    (draftFrom index lead (p :: next :: rest)).text supply =
      lead ++ Statement.stageText ((supply.resolve p.alias?).1,
          (p.draft index).query (supply.resolve p.alias?).2) ++
        (draftFrom (index + 1) ", " (next :: rest)).text
          ((supply.resolve p.alias?).2.skip (openSlots (p.draft index).slots)) := by
  rw [draftFrom, Draft.text_words, Draft.text_slot, Draft.text_words, Draft.text_append,
    Draft.text_words, Statement.stageText, Draft.query]
  simp only [String.append_assoc]

/-! ## Rendering -/

namespace Chain

/-- A chain is written stage by stage, and the first that fails is the one that is reported. -/
theorem statementFrom_step (index : Nat) (p next : Plan) (rest : List Plan)
    (supply : AliasSupply) :
    statementFrom index (p :: next :: rest) supply =
      match p.render (supply.resolve p.alias?).2 with
      | (.error cause, left) => (.error (.stage index cause), left)
      | (.ok query, left) =>
        ((statementFrom (index + 1) (next :: rest) left).1.map
            (Statement.precede ((supply.resolve p.alias?).1, query)),
          (statementFrom (index + 1) (next :: rest) left).2) := rfl

/-- A readable stage is written, and the rest goes on after the names that it draws. -/
theorem statementFrom_cons {p : Plan} (h : p.IsReadable) (index : Nat) (next : Plan)
    (rest : List Plan) (supply : AliasSupply) :
    statementFrom index (p :: next :: rest) supply =
      ((statementFrom (index + 1) (next :: rest) (supply.skip p.stageDraws)).1.map
          (Statement.precede ((supply.resolve p.alias?).1,
            (p.draft index).query (supply.resolve p.alias?).2)),
        (statementFrom (index + 1) (next :: rest) (supply.skip p.stageDraws)).2) := by
  rw [statementFrom_step, p.render_eq_write h index, p.openSlots_draft h, AliasSupply.resolve_snd,
    AliasSupply.skip_skip]
  rfl

/-- Plans that can all be read from give the statement that their draft describes. -/
theorem statementFrom_eq_write {plans : List Plan} (hne : plans ≠ [])
    (h : ∀ p ∈ plans, p.IsReadable) (index : Nat) (lead : String) (supply : AliasSupply) :
    ∃ st, statementFrom index plans supply =
        (.ok st, supply.skip (openSlots (draftFrom index lead plans).slots)) ∧
      st.textFrom lead = (draftFrom index lead plans).text supply ∧
      st.params = (draftFrom index lead plans).params := by
  -- The lead is part of the induction: only the first stage has `WITH ` in front of it.
  induction plans generalizing index lead supply with
  | nil => exact absurd rfl hne
  | cons p rest ih =>
    have hp : p.IsReadable := h p (by simp)
    cases rest with
    | nil =>
      refine ⟨{ last := (p.draft index).query supply }, ?_, ?_, ?_⟩
      · rw [statementFrom, p.render_eq_write hp index]
        rfl
      · rw [Statement.textFrom, draftFrom]
        exact String.empty_append
      · rfl
    | cons next rest =>
      obtain ⟨st, hst, htext, hparams⟩ :=
        ih (by simp) (fun q hq => h q (List.mem_cons_of_mem _ hq)) (index + 1) ", "
          (supply.skip p.stageDraws)
      refine ⟨st.precede ((supply.resolve p.alias?).1,
        (p.draft index).query (supply.resolve p.alias?).2), ?_, ?_, ?_⟩
      · rw [statementFrom_cons hp, hst, AliasSupply.skip_skip, slots_draftFrom_cons,
          openSlots_cons, openSlots_append, p.openSlots_draft hp, ← Nat.add_assoc]
        rfl
      · rw [Statement.textFrom_precede, htext, text_draftFrom_cons, p.openSlots_draft hp,
          AliasSupply.resolve_snd, AliasSupply.skip_skip]
        rfl
      · rw [Statement.params_precede, hparams, Draft.params, Draft.params,
          comparisons_draftFrom_cons, List.map_append]
        rfl

/-- The first plan that cannot be read from ends the statement. -/
theorem statementFrom_eq_fault {before : List Plan} {p : Plan} (h : ∀ q ∈ before, q.IsReadable)
    (hp : ¬ p.IsReadable) (after : List Plan) (index : Nat) (supply : AliasSupply) :
    statementFrom index (before ++ p :: after) supply =
      (.error (.stage (index + before.length) p.fault),
        supply.skip (unnamedStages before + unnamedSources before +
          if after.isEmpty then 0 else AliasSupply.drawsFor p.alias?)) := by
  induction before generalizing index supply with
  | nil =>
    have hnone : unnamedStages [] + unnamedSources [] = 0 := rfl
    rw [List.nil_append, hnone, Nat.zero_add, List.length_nil, Nat.add_zero]
    cases after with
    | nil =>
      rw [statementFrom, p.render_of_not_isReadable hp]
      rfl
    | cons next after =>
      -- The stage is named before its plan fails, and the name stays drawn.
      rw [statementFrom_step, p.render_of_not_isReadable hp, AliasSupply.resolve_snd]
      rfl
  | cons q before ih =>
    have hq : q.IsReadable := h q (by simp)
    have hrest := ih (fun r hr => h r (by simp [hr])) (index + 1) (supply.skip q.stageDraws)
    obtain ⟨next, rest, hcons⟩ : ∃ next rest, before ++ p :: after = next :: rest := by
      cases before <;> simp
    rw [hcons] at hrest
    have hindex : index + 1 + before.length = index + (q :: before).length := by
      rw [List.length_cons]
      omega
    have hdraws : ∀ more, q.stageDraws + (unnamedStages before + unnamedSources before + more) =
        unnamedStages (q :: before) + unnamedSources (q :: before) + more := by
      intro more
      rw [unnamedStages_cons, unnamedSources_cons, Plan.stageDraws]
      omega
    rw [List.cons_append, hcons, statementFrom_cons hq, hrest, AliasSupply.skip_skip, hdraws,
      hindex]
    rfl

/-- A chain whose plans can all be read from is rendered as its draft. -/
theorem render_eq_write {c : Chain} (hne : c.plans ≠ []) (h : ∀ p ∈ c.plans, p.IsReadable)
    (supply : AliasSupply) :
    c.render supply = (.ok (c.draft.query supply), supply.skip (openSlots c.draft.slots)) := by
  obtain ⟨st, hst, htext, hparams⟩ := statementFrom_eq_write hne h 0 "WITH " supply
  have hquery : st.query = c.draft.query supply := by
    rw [Statement.query, Statement.text_eq_textFrom, htext, hparams]
    rfl
  rw [render, statement, hst, ← hquery]
  rfl

/-- The first plan that cannot be read from is the fault of the chain. -/
theorem render_eq_fault {c : Chain} {before : List Plan} {p : Plan} {after : List Plan}
    (hc : c.plans = before ++ p :: after) (h : ∀ q ∈ before, q.IsReadable)
    (hp : ¬ p.IsReadable) (supply : AliasSupply) :
    c.render supply =
      (.error (.stage before.length p.fault),
        supply.skip (unnamedStages before + unnamedSources before +
          if after.isEmpty then 0 else AliasSupply.drawsFor p.alias?)) := by
  rw [render, statement, hc, statementFrom_eq_fault h hp, Nat.zero_add]
  rfl

theorem render_empty {c : Chain} (h : c.plans = []) (supply : AliasSupply) :
    c.render supply = (.error .empty, supply) := by
  rw [render, statement, h]
  rfl

/-- Plans that cannot all be read from split at the first that cannot. -/
theorem exists_first_unreadable {plans : List Plan} (h : ¬ ∀ p ∈ plans, p.IsReadable) :
    ∃ before p after, plans = before ++ p :: after ∧ (∀ q ∈ before, q.IsReadable) ∧
      ¬ p.IsReadable := by
  induction plans with
  | nil => exact absurd (fun p hp => absurd hp (by simp)) h
  | cons p plans ih =>
    by_cases hp : p.IsReadable
    · have hplans : ¬ ∀ q ∈ plans, q.IsReadable := fun hall => h (List.forall_mem_cons.2 ⟨hp, hall⟩)
      obtain ⟨before, q, after, rfl, hbefore, hq⟩ := ih hplans
      exact ⟨p :: before, q, after, rfl, List.forall_mem_cons.2 ⟨hp, hbefore⟩, hq⟩
    · exact ⟨[], p, plans, rfl, by simp, hp⟩

/-- Exactly the chains of plans that can all be read from have a statement. -/
theorem render_isOk_iff (c : Chain) (supply : AliasSupply) :
    (∃ q, (c.render supply).1 = .ok q) ↔ c.plans ≠ [] ∧ ∀ p ∈ c.plans, p.IsReadable := by
  constructor
  · rintro ⟨q, hq⟩
    by_cases hne : c.plans = []
    · rw [render_empty hne] at hq
      exact absurd hq (by simp)
    · refine ⟨hne, ?_⟩
      by_contra hnot
      obtain ⟨before, p, after, hc, hbefore, hp⟩ := exists_first_unreadable hnot
      rw [render_eq_fault hc hbefore hp] at hq
      exact absurd hq (by simp)
  · rintro ⟨hne, h⟩
    exact ⟨_, by rw [render_eq_write hne h]⟩

/-- The parameters of a query are those of the plans that are not raw, in order. -/
theorem params_of_render {c : Chain} {supply : AliasSupply} {query : Query}
    (h : (c.render supply).1 = .ok query) :
    query.params = (c.plans.filter fun p => p.raw.isNone).flatMap Plan.params := by
  obtain ⟨hne, hreadable⟩ := (c.render_isOk_iff supply).1 ⟨_, h⟩
  rw [render_eq_write hne hreadable] at h
  obtain rfl := Except.ok.inj h
  rw [Draft.query, Draft.params, draft, comparisons_draftFrom hreadable, List.map_flatMap]
  exact List.flatMap_congr fun p _ => (p.params_eq_map).symm

end Chain

end QueryPipe
