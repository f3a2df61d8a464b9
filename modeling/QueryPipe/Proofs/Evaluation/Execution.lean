import Mathlib.Algebra.GroupWithZero.Nat
import QueryPipe.Evaluation.Run

/-!
# Running a statement into a sink

What an evaluation comes to, said without the evaluation itself: what a sink is handed of the
batches that are there, what has to succeed before the sink is opened, and what running the
statement then returns.

* `Sink.Takes`: batches are handed over up to and including the first that the sink refuses.
* `Preparation.Succeeds`: the chain is rendered and probed, its parameters are bound, and its
  statement is described.
* `Executes`, `exists_executes_iff`: the statement is run, and when.
* `feed_takes`: feeding a sink hands over the batches that have rows.
-/

namespace QueryPipe.Evaluation

variable {ε σ : Type}

/-! ## Handing over -/

/-- Whether there is a row in a batch. -/
def hasRows (b : Batch) : Bool := !b.rows.isEmpty

/-- Batches go to a sink one after the other, up to and including the first that it refuses. The
sink is handed a list of them, and what comes of it is its state after them or the problem of the
last one. -/
inductive Sink.Takes (sink : Sink σ) :
    σ → List Batch → List Batch → Except Output.Problem σ → Prop
  /-- Nothing is left. -/
  | nil (state : σ) : Takes sink state [] [] (.ok state)
  /-- A batch is refused, and those after it are not handed over. -/
  | refused {state : σ} {b : Batch} {problem : Output.Problem} (rest : List Batch)
      (h : sink.write b state = .error problem) :
      Takes sink state (b :: rest) [b] (.error problem)
  /-- A batch is taken. -/
  | taken {state next : σ} {b : Batch} {rest handed : List Batch}
      {outcome : Except Output.Problem σ} (h : sink.write b state = .ok next)
      (more : Takes sink next rest handed outcome) :
      Takes sink state (b :: rest) (b :: handed) outcome

namespace Sink.Takes

variable {sink : Sink σ} {state : σ} {batches handed handed' : List Batch}
  {outcome outcome' : Except Output.Problem σ}

theorem unique (h : sink.Takes state batches handed outcome)
    (h' : sink.Takes state batches handed' outcome') : handed = handed' ∧ outcome = outcome' := by
  induction h generalizing handed' with
  | nil state =>
    cases h'
    exact ⟨rfl, rfl⟩
  | refused rest h =>
    cases h' with
    | refused _ h' =>
      rw [h] at h'
      exact ⟨rfl, congrArg _ (Except.error.inj h')⟩
    | taken h' _ =>
      rw [h] at h'
      cases h'
  | taken h _ ih =>
    cases h' with
    | refused _ h' =>
      rw [h] at h'
      cases h'
    | taken h' more' =>
      rw [h] at h'
      obtain rfl := Except.ok.inj h'
      obtain ⟨rfl, rfl⟩ := ih more'
      exact ⟨rfl, rfl⟩

/-- What a sink is handed is a beginning of what there was. -/
theorem isPrefix (h : sink.Takes state batches handed outcome) : handed <+: batches := by
  induction h with
  | nil state => exact List.prefix_refl []
  | @refused _ b _ rest h => exact List.prefix_append [b] rest
  | @taken _ _ b _ _ _ h _ ih => exact (List.prefix_cons_inj b).2 ih

/-- A sink that refuses nothing is handed everything. -/
theorem eq_of_ok {final : σ} (h : sink.Takes state batches handed (.ok final)) :
    handed = batches := by
  generalize houtcome : (Except.ok final : Except Output.Problem σ) = outcome at h
  induction h with
  | nil state => rfl
  | refused rest h => cases houtcome
  | taken h _ ih => rw [ih houtcome]

end Sink.Takes

/-- The summary of some batches after another summary. -/
def Summary.addAll (s : Summary) (batches : List Batch) : Summary :=
  ⟨s.batches + batches.length, s.rows + (batches.map Batch.length).sum⟩

theorem Summary.addAll_add (s : Summary) (b : Batch) (batches : List Batch) :
    (s.add b).addAll batches = s.addAll (b :: batches) := by
  simp only [addAll, add, List.length_cons, List.map_cons, List.sum_cons]
  congr 1 <;> omega

theorem Summary.addAll_empty (batches : List Batch) :
    ({} : Summary).addAll batches = ⟨batches.length, (batches.map Batch.length).sum⟩ := by
  simp [addAll]

/-- Feeding hands the batches with rows over, and sums up what was taken. -/
theorem feed_takes (sink : Sink σ) (summary : Summary) (batches : List Batch) (state : σ) :
    ∃ outcome,
      sink.Takes state (batches.filter hasRows) (feed sink summary batches state).writes outcome ∧
      ((∃ problem, outcome = .error problem ∧
          (feed sink summary batches state).result = .error problem) ∨
        (outcome = .ok (feed sink summary batches state).sink ∧
          (feed sink summary batches state).result =
            .ok (summary.addAll (feed sink summary batches state).writes))) := by
  induction batches generalizing summary state with
  | nil => exact ⟨.ok state, .nil state, .inr ⟨rfl, rfl⟩⟩
  | cons b rest ih =>
    by_cases hb : b.rows.isEmpty = true
    · rw [feed, if_pos hb, List.filter_cons_of_neg (by simp [hasRows, hb])]
      exact ih summary state
    · rw [feed, if_neg hb, List.filter_cons_of_pos (by simp [hasRows, hb])]
      cases hw : sink.write b state with
      | error problem => exact ⟨.error problem, .refused _ hw, .inl ⟨problem, rfl, rfl⟩⟩
      | ok next =>
        obtain ⟨outcome, htakes, hresult⟩ := ih (summary.add b) next
        refine ⟨outcome, .taken hw htakes, ?_⟩
        rw [summary.addAll_add b] at hresult
        exact hresult

/-! ## Before the sink is opened -/

/-- What is known before a sink is opened. -/
structure Preparation (ε : Type) where
  /-- The query of the chain. -/
  query : Query
  /-- The statement of its row sources. -/
  probe : String
  /-- The columns of the row sources. -/
  sources : Catalog
  /-- The engine after these were described. -/
  described : ε
  /-- The parameters of the query, bound by those columns. -/
  params : List Bound
  /-- The columns of the query. -/
  columns : Catalog
  /-- The engine after these were described. -/
  ready : ε

namespace Preparation

/-- Every step up to the opening of the sink succeeds, and this is what it gives. -/
structure Succeeds (p : Preparation ε) (engine : Engine ε) (chain : Chain) (supply : AliasSupply)
    (e : ε) : Prop where
  query_eq : (chain.render supply).1 = .ok p.query
  probe_eq : chain.probe = .ok p.probe
  sources_eq : engine.describeSources p.probe e = (.ok p.sources, p.described)
  params_eq : Parameter.bindAll p.sources p.query.params = .ok p.params
  columns_eq : engine.describe p.query.text p.described = (.ok p.columns, p.ready)

namespace Succeeds

variable {p : Preparation ε} {engine : Engine ε} {chain : Chain} {supply : AliasSupply} {e : ε}
  {query : Query} {probe : String} {sources columns : Catalog} {params : List Bound}
  {described ready : ε}

theorem query_unique (hp : p.Succeeds engine chain supply e)
    (h : (chain.render supply).1 = .ok query) : p.query = query :=
  Except.ok.inj (hp.query_eq.symm.trans h)

theorem probe_unique (hp : p.Succeeds engine chain supply e) (h : chain.probe = .ok probe) :
    p.probe = probe := Except.ok.inj (hp.probe_eq.symm.trans h)

theorem sources_unique (hp : p.Succeeds engine chain supply e) (hprobe : chain.probe = .ok probe)
    (h : engine.describeSources probe e = (.ok sources, described)) :
    p.sources = sources ∧ p.described = described := by
  have heq := hp.sources_eq
  rw [hp.probe_unique hprobe, h] at heq
  exact ⟨(Except.ok.inj (congrArg Prod.fst heq)).symm, (congrArg Prod.snd heq).symm⟩

theorem unique {q : Preparation ε} (hp : p.Succeeds engine chain supply e)
    (hq : q.Succeeds engine chain supply e) : p = q := by
  have hquery := hp.query_unique hq.query_eq
  have hprobe := hp.probe_unique hq.probe_eq
  obtain ⟨hsources, hdescribed⟩ := hp.sources_unique hq.probe_eq hq.sources_eq
  have hparams := hp.params_eq
  rw [hsources, hquery, hq.params_eq] at hparams
  have hcolumns := hp.columns_eq
  rw [hquery, hdescribed, hq.columns_eq] at hcolumns
  obtain ⟨query, probe, sources, described, params, columns, ready⟩ := p
  obtain ⟨query', probe', sources', described', params', columns', ready'⟩ := q
  simp_all

end Succeeds

/-- The calls up to and including the opening of the sink. -/
def calls (p : Preparation ε) : List Call :=
  [.describeSources p.probe, .describe p.query.text, .create p.columns.schema]

/-- What the engine delivers when the query is run. -/
def delivery (p : Preparation ε) (engine : Engine ε) (batchSize : Nat) : Delivery :=
  (engine.execute p.query.text p.params p.columns.schema (effectiveSize batchSize) p.ready).1

/-- The calls up to and including the last batch. -/
def callsThrough (p : Preparation ε) (batchSize : Nat) (handed : List Batch) : List Call :=
  p.calls ++ .execute p.query.text p.params (effectiveSize batchSize) :: handed.map .write

end Preparation

/-! ## Running the statement -/

/-- What running a statement returns: the problem of a sink that refused a batch, which ends the
run, and otherwise the engine's own ending with the state of the sink. -/
def returned (taken : Except Output.Problem σ) (ending : Except Fault Unit) : Except Fault σ :=
  match taken, ending with
  | .error problem, _ => .error (.output problem)
  | .ok _, .error fault => .error fault
  | .ok state, .ok () => .ok state

/-- After a preparation the sink is opened and the statement is run. The sink is handed those
batches, and the run returns that outcome. -/
inductive Preparation.Runs (p : Preparation ε) (engine : Engine ε) (sink : Sink σ)
    (batchSize : Nat) : List Batch → Except Fault σ → Prop
  | intro {state : σ} {handed : List Batch} {taken : Except Output.Problem σ}
      (opened : sink.create p.columns.schema = .ok state)
      (takes : sink.Takes state ((p.delivery engine batchSize).batches.filter hasRows) handed
        taken) :
      p.Runs engine sink batchSize handed (returned taken (p.delivery engine batchSize).ending)

/-- The statement of a chain is run, the sink is handed those batches, and the run returns that
outcome. -/
def Executes (engine : Engine ε) (sink : Sink σ) (batchSize : Nat) (chain : Chain)
    (supply : AliasSupply) (e : ε) (handed : List Batch) (outcome : Except Fault σ) : Prop :=
  ∃ p : Preparation ε,
    p.Succeeds engine chain supply e ∧ p.Runs engine sink batchSize handed outcome

/-- The statement is run exactly when the sink was opened after everything before it succeeded. -/
theorem exists_executes_iff (engine : Engine ε) (sink : Sink σ) (batchSize : Nat) (chain : Chain)
    (supply : AliasSupply) (e : ε) :
    (∃ handed outcome, Executes engine sink batchSize chain supply e handed outcome) ↔
      ∃ (p : Preparation ε) (state : σ), p.Succeeds engine chain supply e ∧
        sink.create p.columns.schema = .ok state := by
  constructor
  · rintro ⟨handed, outcome, p, hp, ⟨opened, -⟩⟩
    exact ⟨p, _, hp, opened⟩
  · rintro ⟨p, state, hp, opened⟩
    obtain ⟨taken, htakes, -⟩ := feed_takes sink {} (p.delivery engine batchSize).batches state
    exact ⟨_, _, p, hp, .intro opened htakes⟩

theorem Preparation.Runs.unique {p : Preparation ε} {engine : Engine ε} {sink : Sink σ}
    {batchSize : Nat} {handed handed' : List Batch} {outcome outcome' : Except Fault σ}
    (h : p.Runs engine sink batchSize handed outcome)
    (h' : p.Runs engine sink batchSize handed' outcome') :
    handed = handed' ∧ outcome = outcome' := by
  cases h with
  | intro opened takes =>
    cases h' with
    | intro opened' takes' =>
      obtain rfl := Except.ok.inj (opened.symm.trans opened')
      obtain ⟨rfl, rfl⟩ := takes.unique takes'
      exact ⟨rfl, rfl⟩

section Executes

variable {engine : Engine ε} {sink : Sink σ} {batchSize : Nat} {chain : Chain}
  {supply : AliasSupply} {e : ε}

theorem Executes.unique {handed handed' : List Batch} {outcome outcome' : Except Fault σ}
    (h : Executes engine sink batchSize chain supply e handed outcome)
    (h' : Executes engine sink batchSize chain supply e handed' outcome') :
    handed = handed' ∧ outcome = outcome' := by
  obtain ⟨p, hp, hruns⟩ := h
  obtain ⟨q, hq, hruns'⟩ := h'
  obtain rfl := hp.unique hq
  exact hruns.unique hruns'

theorem not_executes_of_create {p : Preparation ε} {problem : Output.Problem}
    (hp : p.Succeeds engine chain supply e)
    (hcreate : sink.create p.columns.schema = .error problem) (handed : List Batch)
    (outcome : Except Fault σ) :
    ¬ Executes engine sink batchSize chain supply e handed outcome := by
  rintro ⟨q, hq, hruns⟩
  obtain rfl := hp.unique hq
  cases hruns with
  | intro opened takes =>
    rw [hcreate] at opened
    cases opened

end Executes

end QueryPipe.Evaluation
