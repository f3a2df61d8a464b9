import Mathlib.Data.List.Induction
import QueryPipe.Proofs.Command.Stage

/-!
# The normal form of a pipeline

What a pipeline makes can be read off its tools. Every tool that starts a stage has one plan, and
that plan is made of the tool's own source and of the tools after it up to the next such tool: the
conditions of all filters in their order, and for every other clause what the last tool of its
kind spells out. So a plan with another after it is final, and tools of different kinds that stand
next to one another in a stage can change places.

* `planOf_append_singleton`: one more tool has its effect on the plan of a stage.
* `applyAll_swap`: tools of different kinds change places.
* `NormalForm`, `normalForm_of_applyAll`: the normal form of every pipeline that gives a chain.
* `normalForm_of_two_stages`: two stages, with a join whose conditions come from switches and words.
-/

namespace QueryPipe.Command

open Tool

theorem planOf_nil (s : Source) : planOf s [] = s.opening := by
  cases s <;> rfl

/-- One more tool changes what is selected only by the columns that it names. -/
theorem selection?_append_singleton (s : Source) (tools : List Tool) (t : Tool) :
    s.selection? (tools ++ [t]) =
      (s.selection? tools).map fun selection =>
        { selection with columns := (columns? t).getD selection.columns } := by
  cases s with
  | statement text => rfl
  | datasets r =>
    simp only [Source.selection?, last?_append_singleton, Option.map_some]
    cases columns? t <;> rfl

theorem planOf_append_singleton (s : Source) (tools : List Tool) (t : Tool) :
    planOf s (tools ++ [t]) = t.effect (planOf s tools) := by
  have hselect := selection?_append_singleton s tools t
  simp only [planOf, last?_append_singleton, filterOf_append_singleton, hselect]
  cases t with
  | grep r =>
    cases hcondition : r.condition <;>
      simp [effect, condition?, columns?, limit?, sorting?, joining?, hcondition, Except.toOption]
  | _ => simp [effect, condition?, columns?, limit?, sorting?, joining?, Plan.set]

namespace Tool

/-- The plan of a stage is what its tools make of the opening, one after the other. -/
theorem foldl_effect_opening (s : Source) (tools : List Tool) :
    tools.foldl (fun p t => t.effect p) s.opening = planOf s tools := by
  induction tools using List.reverseRecOn with
  | nil => exact (planOf_nil s).symm
  | append_singleton tools t ih =>
    rw [List.foldl_append, ih, planOf_append_singleton]
    rfl

/-! ## Plans of a run -/

/-- A run on a chain keeps all its plans but the last, which has the effects of the tools of its
stage, and appends the plans of the stages that are started. -/
theorem plans_of_applyAll_push {tools : List Tool} {c d : Chain} {p : Plan}
    (h : applyAll tools (c.push p) = .ok d) :
    d.plans = c.plans ++ (inside tools).foldl (fun p t => t.effect p) p ::
      (segments tools).map fun segment => planOf segment.1 segment.2 := by
  induction tools generalizing c p with
  | nil => cases h; rfl
  | cons t rest ih =>
    obtain ⟨e, he, hd⟩ := applyAll_cons_eq_ok_iff.1 h
    cases hs : t.source? with
    | some s =>
      have hstarts : t.startsStage = true := by rw [← isSome_source?, hs]; rfl
      obtain rfl : (c.push p).push s.opening = e :=
        Except.ok.inj ((apply_of_source hs _).symm.trans he)
      -- the plan so far is final, and the opening of the new stage takes its place as the last
      rw [ih hd, segments_cons_of_source hs, foldl_effect_opening]
      simp [inside, hstarts]
    | none =>
      have ht := source?_eq_none_iff.1 hs
      obtain ⟨-, rfl⟩ := (apply_push_eq_ok_iff ht).1 he
      rw [ih hd, segments_cons_of_not ht]
      simp [inside, ht]

/-- Each stage of a chain is the plan of its segment. -/
theorem plans_of_applyAll_empty {tools : List Tool} {d : Chain}
    (h : applyAll tools .empty = .ok d) :
    d.plans = (segments tools).map fun segment => planOf segment.1 segment.2 := by
  induction tools with
  | nil => cases h; rfl
  | cons t rest ih =>
    obtain ⟨e, he, hd⟩ := applyAll_cons_eq_ok_iff.1 h
    rcases apply_cases he with ⟨s, hs, rfl⟩ | ⟨-, init, p, hempty, -, -⟩ | ⟨r, rfl, -, rfl⟩
    · rw [plans_of_applyAll_push hd, segments_cons_of_source hs, foldl_effect_opening]
      rfl
    · exact absurd hempty.symm (Chain.push_ne_empty init p)
    · rw [segments_cons_of_not rfl, ih hd]

/-- A filter that is applied has a condition. -/
theorem exists_condition_of_apply {r : GrepRequest} {c d : Chain}
    (h : (Tool.grep r).apply c = .ok d) : ∃ condition, r.condition = .ok condition := by
  rcases apply_cases h with ⟨s, hs, -⟩ | ⟨-, init, p, -, hfits, -⟩ | ⟨e, he, -⟩
  · cases hs
  · exact hfits
  · cases he

/-- In a run that gives a chain, every filter has a condition. -/
theorem exists_condition_of_applyAll {tools : List Tool} {chain : Chain} {r : GrepRequest}
    (h : applyAll tools .empty = .ok chain) (hr : .grep r ∈ tools) :
    ∃ condition, r.condition = .ok condition := by
  obtain ⟨before, after, rfl⟩ := List.append_of_mem hr
  obtain ⟨c, -, hafter⟩ := applyAll_append_eq_ok_iff.1 h
  obtain ⟨d, hd, -⟩ := applyAll_cons_eq_ok_iff.1 hafter
  exact exists_condition_of_apply hd

/-! ## Plans that are left alone -/

/-- A tool that starts a stage adds a plan. -/
theorem exists_push_of_apply {t : Tool} {c d : Chain} (ht : t.startsStage = true)
    (h : t.apply c = .ok d) : ∃ p, d = c.push p := by
  rcases apply_cases h with ⟨s, -, rfl⟩ | ⟨hnot, -⟩ | ⟨r, rfl, -, -⟩
  · exact ⟨s.opening, rfl⟩
  · cases ht.symm.trans hnot
  · cases ht

/-- A tool that starts no stage changes nothing before the last plan. -/
theorem dropLast_of_apply {t : Tool} {c d : Chain} (ht : t.startsStage = false)
    (h : t.apply c = .ok d) :
    d.plans.dropLast = c.plans.dropLast ∧ d.length = c.length := by
  rcases apply_cases h with ⟨s, hs, -⟩ | ⟨-, init, p, rfl, -, rfl⟩ | ⟨r, rfl, rfl, rfl⟩
  · cases (source?_eq_none_iff.2 ht).symm.trans hs
  · simp [Chain.length]
  · exact ⟨rfl, rfl⟩

/-! ## Tools that change places -/

/-- Tools of different kinds fill different slots. -/
theorem effect_comm {s t : Tool} (h : s.name ≠ t.name) (p : Plan) :
    t.effect (s.effect p) = s.effect (t.effect p) := by
  cases s <;> cases t <;> first | rfl | exact absurd rfl h

theorem isSome_select_effect (t : Tool) (p : Plan) :
    (t.effect p).select.isSome = p.select.isSome := by
  cases t <;> simp [effect, Plan.set]

/-- Whether a tool fits a plan does not depend on the tools before it. -/
theorem fits_effect_iff (s t : Tool) (p : Plan) : s.Fits (t.effect p) ↔ s.Fits p := by
  cases s with
  | cut r => simp only [Fits, isSome_select_effect]
  | _ => exact Iff.rfl

theorem applyAll_swap {s t : Tool} {rest : List Tool} {c d : Chain} (hs : s.startsStage = false)
    (ht : t.startsStage = false) (hne : s.name ≠ t.name)
    (h : applyAll (s :: t :: rest) c = .ok d) : applyAll (t :: s :: rest) c = .ok d := by
  obtain ⟨e, he, h⟩ := applyAll_cons_eq_ok_iff.1 h
  obtain ⟨f, hf, hd⟩ := applyAll_cons_eq_ok_iff.1 h
  rcases c.eq_empty_or_push with rfl | ⟨init, p, rfl⟩
  · -- without a plan both would have to evaluate
    obtain ⟨r, rfl, rfl⟩ := exists_eval_of_apply_empty hs he
    obtain ⟨r', rfl, -⟩ := exists_eval_of_apply_empty ht hf
    exact absurd rfl hne
  · obtain ⟨hsfits, rfl⟩ := (apply_push_eq_ok_iff hs).1 he
    obtain ⟨htfits, rfl⟩ := (apply_push_eq_ok_iff ht).1 hf
    rw [fits_effect_iff] at htfits
    rw [applyAll_cons_of_ok ((apply_push_eq_ok_iff ht).2 ⟨htfits, rfl⟩),
      applyAll_cons_of_ok ((apply_push_eq_ok_iff hs).2 ⟨(fits_effect_iff s t p).2 hsfits, rfl⟩),
      ← effect_comm hne]
    exact hd

/-! ## The normal form -/

/-- The normal form of a pipeline and the chain it makes. -/
structure NormalForm (tools : List Tool) (chain : Chain) : Prop where
  /-- There is one plan for each tool that starts a stage. -/
  length : chain.length = tools.countP startsStage
  /-- Each is made of the source of its tool and of the tools up to the next such, in order. -/
  plans : chain.plans = (segments tools).map fun segment => planOf segment.1 segment.2
  /-- The sources stand in the order of their tools. -/
  sources : (segments tools).map Prod.fst = tools.filterMap source?
  /-- Every filter has a condition, so that none is left out of its plan. -/
  conditions : ∀ r, .grep r ∈ tools → ∃ condition, r.condition = .ok condition
  /-- Each plan has in every slot what its source and the tools of its stage spell. -/
  spelled : List.Forall₂ (fun segment p => SpelledBy segment.1 segment.2 p) (segments tools)
    chain.plans
  /-- A join is matched on its switches and operands, place by place. -/
  matched : ∀ r, .join r ∈ tools → r.Matched r.conditions
  /-- An evaluation changes nothing: without it the chain is the same. -/
  idle : ∀ before r after, tools = before ++ .eval r :: after →
    applyAll (before ++ after) .empty = .ok chain
  /-- No tool changes a plan but the last, and one that starts a stage changes none. -/
  kept : ∀ before t after, tools = before ++ t :: after →
    ∃ c d, applyAll before .empty = .ok c ∧ t.apply c = .ok d ∧
      (t.startsStage = true → ∃ p, d = c.push p) ∧
      (t.startsStage = false → d.plans.dropLast = c.plans.dropLast ∧ d.length = c.length)
  /-- A plan with another after it is there at the end. -/
  final : ∀ before after c, tools = before ++ after → applyAll before .empty = .ok c →
    c.plans.dropLast <+: chain.plans.dropLast
  /-- Tools of different kinds that stand next to one another in a stage can change places: chain
  and statement stay the same. -/
  swapped : ∀ before s t after, tools = before ++ s :: t :: after → s.startsStage = false →
    t.startsStage = false → s.name ≠ t.name →
      ∃ d, applyAll (before ++ t :: s :: after) .empty = .ok d ∧ d = chain ∧
        ∀ supply, d.render supply = chain.render supply

/-- Every pipeline that gives a chain gives its normal form. -/
theorem normalForm_of_applyAll {tools : List Tool} {chain : Chain}
    (h : applyAll tools .empty = .ok chain) : NormalForm tools chain where
  length := by rw [Chain.length, plans_of_applyAll_empty h, List.length_map, length_segments]
  plans := plans_of_applyAll_empty h
  sources := map_fst_segments tools
  conditions r hr := exists_condition_of_applyAll h hr
  spelled := by
    rw [plans_of_applyAll_empty h, List.forall₂_map_right_iff, List.forall₂_same]
    intro segment hsegment
    exact spelledBy_planOf segment.1 fun r hr =>
      exists_condition_of_applyAll h (mem_of_mem_segments hsegment hr)
  matched r _ := r.matched
  idle before r after htools := by
    subst htools
    obtain ⟨c, hc, hafter⟩ := applyAll_append_eq_ok_iff.1 h
    obtain ⟨d, hd, hd'⟩ := applyAll_cons_eq_ok_iff.1 hafter
    obtain rfl : c = d := Except.ok.inj ((apply_eval r c).symm.trans hd)
    exact applyAll_append_eq_ok_iff.2 ⟨c, hc, hd'⟩
  kept before t after htools := by
    subst htools
    obtain ⟨c, hc, hafter⟩ := applyAll_append_eq_ok_iff.1 h
    obtain ⟨d, hd, -⟩ := applyAll_cons_eq_ok_iff.1 hafter
    exact ⟨c, d, hc, hd, fun ht => exists_push_of_apply ht hd, fun ht => dropLast_of_apply ht hd⟩
  final before after c htools hc := by
    subst htools
    obtain ⟨d, hd, hafter⟩ := applyAll_append_eq_ok_iff.1 h
    obtain rfl : d = c := Except.ok.inj (hd.symm.trans hc)
    exact dropLast_prefix_of_applyAll hafter
  swapped before s t after htools hs ht hne := by
    subst htools
    obtain ⟨c, hc, hafter⟩ := applyAll_append_eq_ok_iff.1 h
    exact ⟨chain, applyAll_append_eq_ok_iff.2 ⟨c, hc, applyAll_swap hs ht hne hafter⟩, rfl,
      fun _ => rfl⟩

/-- Tools of two stages: a table that is joined, filtered, ordered and cut off, and a statement of
its own. The join is matched on switches, of which one is left over, and on three operands. -/
def twoStages : List Tool :=
  [.cat { datasets := ["people"] },
    .grep { field? := some "age", value? := some "4", text := true },
    .join { table := "towns", how := "LEFT", left := ["t1.town", "t1.x"], predicate := ["="],
            right := ["towns.id"], operands := ["t1.age", "<", "towns.age", "t1.y"] },
    .sort { fields := ["age"] }, .head {}, .sql "SELECT 1", .head { count? := some 3 }]

theorem normalForm_of_two_stages :
    ∃ chain, applyAll twoStages .empty = .ok chain ∧ NormalForm twoStages chain ∧
      chain.plans.map Plan.join =
        [some { table := "towns", how := "LEFT",
                conditions := [⟨"t1.town", "=", "towns.id"⟩, ⟨"t1.age", "<", "towns.age"⟩] },
          none] :=
  ⟨_, rfl, normalForm_of_applyAll rfl, by decide⟩

end Tool

end QueryPipe.Command
