import QueryPipe.Proofs.Query.Clashes

/-!
# Appending a plan

A plan that is appended makes a stage of the plan that was last. The stages before it keep their
names and their bodies. The plan that was last keeps its body where that body names no row source
of its own, or names it by an alias; otherwise its stage takes the name that its row source had,
and the row source takes the next one.

* `Plan.query_congr`, `Plan.text_open`: what of a body depends on the supply.
* `Chain.statementFrom_concat`: the two statements side by side.
* `Chain.statement_push`: what appending a plan keeps of a statement.
-/

namespace QueryPipe

/-! ## Bodies under two supplies -/

/-- A body without a row source of its own, or with one that has an alias, is the same under every
supply. -/
theorem Plan.query_congr {p : Plan} (h : p.IsReadable) (hname : p.raw.isSome ∨ p.alias?.isSome)
    (index : Nat) (supply other : AliasSupply) :
    (p.draft index).query supply = (p.draft index).query other := by
  have htext : (p.draft index).text supply = (p.draft index).text other := by
    rcases p.source_cases with ⟨text, hraw, -⟩ | ⟨s, hraw, hselect, -, -⟩ | ⟨hnot, -⟩
    · rw [p.draft_of_raw hraw, Draft.text_words, Draft.text_words, Draft.text_nil, Draft.text_nil]
    · obtain ⟨name, hs⟩ : ∃ name, s.alias? = some name := by
        rw [hraw, Plan.alias?, hselect] at hname
        simpa [Option.isSome_iff_exists] using hname
      rw [p.text_draft_of_select hraw hselect, p.text_draft_of_select hraw hselect,
        Selection.render, Selection.render, hs, AliasSupply.resolve_some, AliasSupply.resolve_some]
    · exact absurd h hnot
  rw [Draft.query, Draft.query, htext]

/-- A body whose row source has no alias is the same under every supply up to the one name that it
draws, which stands right behind its selection. -/
theorem Plan.text_open {p : Plan} {s : Selection} (hraw : p.raw = none)
    (hselect : p.select = some s) (hs : s.alias? = none) (index : Nat) :
    ∃ after, ∀ supply, (p.draft index).text supply = s.lead ++ supply.next ++ after := by
  have hparts : ∀ supply : AliasSupply,
      ((s.render supply).1 :: p.clauses).filter (fun clause => !clause.isEmpty) =
        (s.lead ++ supply.next) :: p.clauses.filter fun clause => !clause.isEmpty := by
    intro supply
    have hhead : (s.render supply).1 = s.lead ++ supply.next := by
      rw [Selection.render, hs, AliasSupply.resolve_none]
      exact s.sql_eq_lead _
    rw [List.filter_cons_of_pos (by rw [Selection.render, s.isEmpty_sql]; rfl), hhead]
  cases hclauses : p.clauses.filter fun clause => !clause.isEmpty with
  | nil =>
    refine ⟨"", fun supply => ?_⟩
    rw [p.text_draft_of_select hraw hselect, hparts, hclauses, Text.joined, String.append_empty]
  | cons clause rest =>
    refine ⟨" " ++ Text.joined " " (clause :: rest), fun supply => ?_⟩
    rw [p.text_draft_of_select hraw hselect, hparts, hclauses, Text.joined]
    simp only [String.append_assoc]

namespace Chain

/-! ## Two statements side by side -/

/-- The statement of plans and that of the same plans with one more behind them: the earlier
stages agree, and the plan that was last is rendered after the name of its stage was taken. -/
theorem statementFrom_concat {earlier : List Plan} {last q : Plan} {index : Nat}
    {supply : AliasSupply} {st st' : Statement}
    (hreadable : ∀ p ∈ earlier ++ [last], p.IsReadable)
    (h : (statementFrom index (earlier ++ [last]) supply).1 = .ok st)
    (h' : (statementFrom index (earlier ++ [last, q]) supply).1 = .ok st') :
    st.last = (last.draft (index + earlier.length)).query (supply.skip (drawsBefore earlier)) ∧
    st'.stages = st.stages ++
      [(((supply.skip (drawsBefore earlier)).resolve last.alias?).1,
        (last.draft (index + earlier.length)).query
          ((supply.skip (drawsBefore earlier)).resolve last.alias?).2)] := by
  induction earlier generalizing index supply st st' with
  | nil =>
    have hlast : last.IsReadable := hreadable last (by simp)
    rw [List.nil_append, statementFrom, last.render_eq_write hlast index] at h
    rw [List.nil_append, statementFrom_cons hlast] at h'
    obtain ⟨more, hmore, rfl⟩ := exists_of_map_eq_ok h'
    have hstages : more.stages = [] := by
      have hnames := map_fst_stages hmore
      rwa [stageNames, List.dropLast_singleton, List.mapIdx_nil, List.map_eq_nil_iff] at hnames
    cases h
    exact ⟨rfl, congrArg (List.cons _) hstages⟩
  | cons p earlier ih =>
    have hp : p.IsReadable := hreadable p (by simp)
    obtain ⟨next, rest, hcons⟩ : ∃ next rest, earlier ++ [last] = next :: rest := by
      cases earlier <;> simp
    have hcons' : earlier ++ [last, q] = next :: (rest ++ [q]) := by
      rw [← List.cons_append, ← hcons, List.append_assoc]
      rfl
    rw [List.cons_append, hcons, statementFrom_cons hp, ← hcons] at h
    rw [List.cons_append, hcons', statementFrom_cons hp, ← hcons'] at h'
    obtain ⟨more, hmore, rfl⟩ := exists_of_map_eq_ok h
    obtain ⟨more', hmore', rfl⟩ := exists_of_map_eq_ok h'
    obtain ⟨hlast, hstages⟩ :=
      ih (fun r hr => hreadable r (List.mem_cons_of_mem _ hr)) hmore hmore'
    have hindex : index + 1 + earlier.length = index + (p :: earlier).length := by
      rw [List.length_cons]
      omega
    rw [hindex, AliasSupply.skip_skip, ← drawsBefore_cons] at hlast hstages
    exact ⟨hlast, congrArg (List.cons _) hstages⟩

/-! ## Appending -/

/-- What appending a plan keeps of a statement. Every stage stays as it is, and the plan that was
last becomes one more. Its body is kept where it is raw or has an alias; otherwise its stage takes
the name of its row source, which is named by the next number, and the rest of its text is kept.
The parameters that were there come first. -/
theorem statement_push {c : Chain} {q : Plan} {supply : AliasSupply} {st st' : Statement}
    (h : (c.statement supply).1 = .ok st) (h' : ((c.push q).statement supply).1 = .ok st') :
    ∃ earlier last stage, c.plans = earlier ++ [last] ∧ st.stages.length = earlier.length ∧
      st'.stages = st.stages ++ [stage] ∧
      (last.raw.isSome ∨ last.alias?.isSome → stage.2 = st.last) ∧
      (last.raw = none → last.alias? = none → ∃ s number after, last.select = some s ∧
        number = supply.counter + drawsBefore earlier ∧
        st.last.text = s.lead ++ AliasSupply.nameAt supply.stem number ++ after ∧
        stage.1 = AliasSupply.nameAt supply.stem number ∧
        stage.2.text = s.lead ++ AliasSupply.nameAt supply.stem (number + 1) ++ after) ∧
      stage.2.params = st.last.params ∧ st.params <+: st'.params := by
  obtain ⟨hreadable, -⟩ := statement_of_ok h
  obtain ⟨earlier, last, hc⟩ : ∃ earlier last, c.plans = earlier ++ [last] := by
    rcases List.eq_nil_or_concat c.plans with hnil | ⟨earlier, last, hc⟩
    · rw [statement, hnil] at h
      cases h
    · exact ⟨earlier, last, by rw [hc, List.concat_eq_append]⟩
  have hpush : (c.push q).plans = earlier ++ [last, q] := by rw [push, hc, List.append_assoc]; rfl
  have hlast : last.IsReadable := hreadable last (by simp [hc])
  have hnames := map_fst_stages h
  rw [statement, hc] at h
  rw [statement, hpush] at h'
  rw [hc] at hreadable hnames
  obtain ⟨hbody, hstages⟩ := statementFrom_concat hreadable h h'
  have hparams : ∀ s s' : AliasSupply, ((last.draft (0 + earlier.length)).query s).params =
      ((last.draft (0 + earlier.length)).query s').params := fun _ _ => rfl
  refine ⟨earlier, last, _, hc, ?_, hstages, ?_, ?_, ?_, ?_⟩
  · have hlength := congrArg List.length hnames
    simpa [stageNames] using hlength
  · intro hname
    rw [hbody]
    exact last.query_congr hlast hname _ _ _
  · intro hraw halias
    rcases last.source_cases with ⟨text, hx, -⟩ | ⟨s, -, hselect, -, -⟩ | ⟨hnot, -⟩
    · rw [hraw] at hx
      cases hx
    · have hs : s.alias? = none := by rwa [Plan.alias?, hselect] at halias
      obtain ⟨after, htext⟩ := last.text_open hraw hselect hs (0 + earlier.length)
      refine ⟨s, _, after, hselect, rfl, ?_, ?_, ?_⟩
      · rw [hbody]
        exact htext _
      · rw [halias]
        rfl
      · rw [halias]
        exact htext _
    · exact absurd hlast hnot
  · rw [hbody]
    exact hparams _ _
  · refine ⟨st'.last.params, ?_⟩
    rw [Statement.params, Statement.params, hstages, List.flatMap_append, List.flatMap_singleton,
      hbody, hparams]

/-- A stage that nothing names is read under its own name once a plan is appended. -/
theorem statement_push_people :
    let people : Plan :=
      { select := some { tables := ["people"], columns := ["id"] }
        filter := some ⟨[⟨"age", "=", .whole 42⟩]⟩ }
    let c : Chain := ⟨[people]⟩
    ∃ st st' stage, (c.statement {}).1 = .ok st ∧
      ((c.push { select := some (.allOf "t1") }).statement {}).1 = .ok st' ∧
      st.last.text = "SELECT id FROM people AS t1 WHERE age = ?" ∧
      st'.stages = [stage] ∧ stage.1 = "t1" ∧
      stage.2.text = "SELECT id FROM people AS t2 WHERE age = ?" ∧ st.params <+: st'.params := by
  intro people c
  obtain ⟨st, h⟩ : ∃ st, (c.statement {}).1 = .ok st := ⟨_, rfl⟩
  obtain ⟨st', h'⟩ : ∃ st',
      ((c.push { select := some (.allOf "t1") }).statement {}).1 = .ok st' := ⟨_, rfl⟩
  obtain ⟨earlier, last, stage, -, -, hstages, -, -, -, hparams⟩ := statement_push h h'
  cases h
  cases h'
  cases hstages
  exact ⟨_, _, _, rfl, rfl, by decide, rfl, by decide, by decide, hparams⟩

/-- Appending a plan renames the row source of a plan that nothing names, so that a join condition
on it comes to mean the stage. -/
theorem statement_push_renames :
    let users : Joining :=
      { table := "users", how := "INNER", conditions := [⟨"t1.uid", "=", "users.id"⟩] }
    let c : Chain := ⟨[{ select := some (.allOf "events"), join := some users }]⟩
    ∃ st st' stage, (c.statement {}).1 = .ok st ∧
      ((c.push { select := some (.allOf "t1") }).statement {}).1 = .ok st' ∧
      st'.stages = [stage] ∧ stage.2.text ≠ st.last.text ∧
      st.last.text = "SELECT * FROM events AS t1 INNER JOIN users ON t1.uid = users.id" ∧
      stage.2.text = "SELECT * FROM events AS t2 INNER JOIN users ON t1.uid = users.id" :=
  ⟨_, _, _, rfl, rfl, rfl, by decide, by decide, by decide⟩

end Chain

end QueryPipe
