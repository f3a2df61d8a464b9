import QueryPipe.Proofs.Evaluation.Execution

/-!
# The ways an evaluation can go

An evaluation ends in one of four ways: before the sink is opened, at its opening, while the
statement is run, or with the flush. Each way fixes what was asked of engine and sink up to there,
and the result.

* `Course`: the ways, with their calls, phases and results.
* `run_course`: every evaluation goes one of them.
-/

namespace QueryPipe.Evaluation

variable {ε σ : Type}

/-- Whether a call only asks for columns. -/
def Call.isDescription : Call → Bool
  | .describeSources _ => true
  | .describe _ => true
  | _ => false

/-- What comes of flushing a sink that was handed some batches: its problem, or the end of all
phases and the summary of the batches. -/
inductive FlushedTo (sink : Sink σ) (state : σ) (handed : List Batch) :
    List Phase → Except Fault Summary → Prop
  | failed {phases : List Phase} {problem : Output.Problem}
      (h : sink.flush state = .error problem) :
      FlushedTo sink state handed phases (.error (.output problem))
  | completed {final : σ} (h : sink.flush state = .ok final) :
      FlushedTo sink state handed [.schemaProbed, .prepared, .streaming, .flushed, .done]
        (.ok (({} : Summary).addAll handed))

/-- How an evaluation went, by its calls, its phases and its result. -/
inductive Course (engine : Engine ε) (sink : Sink σ) (batchSize : Nat) (chain : Chain)
    (supply : AliasSupply) (e : ε) :
    List Call → List Phase → Except Fault Summary → Prop
  /-- A step before the opening of the sink fails. -/
  | unready {calls : List Call} {phases : List Phase} (fault : Fault)
      (h : ∀ p : Preparation ε, ¬ p.Succeeds engine chain supply e)
      (hcalls : ∀ call ∈ calls, call.isDescription = true) :
      Course engine sink batchSize chain supply e calls phases (.error fault)
  /-- The sink cannot be opened. -/
  | unopened {p : Preparation ε} {phases : List Phase} {problem : Output.Problem}
      (h : p.Succeeds engine chain supply e)
      (hcreate : sink.create p.columns.schema = .error problem) :
      Course engine sink batchSize chain supply e p.calls phases (.error (.output problem))
  /-- The run of the statement fails. -/
  | stopped {p : Preparation ε} {phases : List Phase} {handed : List Batch} {fault : Fault}
      (h : p.Succeeds engine chain supply e)
      (hruns : p.Runs engine sink batchSize handed (.error fault)) :
      Course engine sink batchSize chain supply e (p.callsThrough batchSize handed) phases
        (.error fault)
  /-- The statement runs to its end, and the result is that of flushing the sink. -/
  | flushed {p : Preparation ε} {phases : List Phase} {handed : List Batch} {state : σ}
      {result : Except Fault Summary} (h : p.Succeeds engine chain supply e)
      (hruns : p.Runs engine sink batchSize handed (.ok state))
      (hflush : FlushedTo sink state handed phases result) :
      Course engine sink batchSize chain supply e (p.callsThrough batchSize handed ++ [.flush])
        phases result

/-- Streaming hands over what the engine delivers, and flushes the sink if that came to its end. -/
theorem stream_cases {engine : Engine ε} {sql : String} {params : List Bound} {schema : Schema}
    {batchSize : Nat} {e e' : ε} {d : Delivery}
    (h : engine.execute sql params schema batchSize e = (d, e')) (sink : Sink σ) (state : σ)
    (supply : AliasSupply) :
    let r := stream engine sink batchSize sql params schema e state supply
    ∃ handed taken, sink.Takes state (d.batches.filter hasRows) handed taken ∧
      ((∃ fault, returned taken d.ending = .error fault ∧
          r.calls = .execute sql params batchSize :: handed.map .write ∧
          r.result = .error fault) ∨
        (∃ last, returned taken d.ending = .ok last ∧
          r.calls = .execute sql params batchSize :: handed.map .write ++ [.flush] ∧
          FlushedTo sink last handed (.schemaProbed :: .prepared :: r.phases) r.result)) := by
  obtain ⟨taken, htakes, htaken⟩ := feed_takes sink {} d.batches state
  refine ⟨_, taken, htakes, ?_⟩
  rcases htaken with ⟨problem, rfl, hresult⟩ | ⟨rfl, hresult⟩
  · exact .inl ⟨.output problem, rfl, by simp [stream, h, hresult]⟩
  · cases hending : d.ending with
    | error fault => exact .inl ⟨fault, rfl, by simp [stream, h, hresult, hending]⟩
    | ok _ =>
      refine .inr ⟨_, rfl, ?_⟩
      cases hflush : sink.flush (feed sink {} d.batches state).sink with
      | error problem => simpa [stream, h, hresult, hending, hflush] using FlushedTo.failed hflush
      | ok final => simpa [stream, h, hresult, hending, hflush] using FlushedTo.completed hflush

/-! ## Evaluations -/

section Evaluations

variable {engine : Engine ε} {chain : Chain} {supply : AliasSupply} {e : ε} {query : Query}
  {probe : String}

theorem stream_course {p : Preparation ε} (hp : p.Succeeds engine chain supply e) {sink : Sink σ}
    {state : σ} (hcreate : sink.create p.columns.schema = .ok state) {batchSize : Nat}
    (supply' : AliasSupply) :
    let r := stream engine sink (effectiveSize batchSize) p.query.text p.params p.columns.schema
      p.ready state supply'
    Course engine sink batchSize chain supply e (p.calls ++ r.calls)
      (.schemaProbed :: .prepared :: r.phases) r.result := by
  have hexecute : engine.execute p.query.text p.params p.columns.schema (effectiveSize batchSize)
      p.ready = (p.delivery engine batchSize, _) := rfl
  obtain ⟨handed, taken, htakes, hcases⟩ := stream_cases hexecute sink state supply'
  have hruns := Preparation.Runs.intro hcreate htakes
  rcases hcases with ⟨fault, hreturned, hcalls, hresult⟩ | ⟨last, hreturned, hcalls, hflush⟩
  · rw [hreturned] at hruns
    simp only [hcalls, hresult]
    exact .stopped hp hruns
  · rw [hreturned] at hruns
    simp only [hcalls, ← List.append_assoc]
    exact .flushed hp hruns hflush

theorem prepare_course {sources : Catalog} {described : ε} {params : List Bound}
    (hquery : (chain.render supply).1 = .ok query) (hprobe : chain.probe = .ok probe)
    (hsources : engine.describeSources probe e = (.ok sources, described))
    (hparams : Parameter.bindAll sources query.params = .ok params) (sink : Sink σ)
    (batchSize : Nat) (supply' : AliasSupply) :
    let r := prepare engine sink (effectiveSize batchSize) query.text params described supply'
    Course engine sink batchSize chain supply e (.describeSources probe :: r.calls)
      (.schemaProbed :: r.phases) r.result := by
  rcases hcolumns : engine.describe query.text described with ⟨fault | columns, ready⟩
  · have hnone : ∀ p : Preparation ε, ¬ p.Succeeds engine chain supply e := by
      intro p hp
      have heq := hp.columns_eq
      rw [hp.query_unique hquery, (hp.sources_unique hprobe hsources).2, hcolumns] at heq
      cases heq
    simp only [prepare, hcolumns]
    exact .unready fault hnone (by simp [Call.isDescription])
  · have hp : Preparation.Succeeds ⟨query, probe, sources, described, params, columns, ready⟩
        engine chain supply e := ⟨hquery, hprobe, hsources, hparams, hcolumns⟩
    rcases hcreate : sink.create columns.schema with problem | state
    · simp only [prepare, hcolumns, hcreate]
      exact .unopened hp hcreate
    · simp only [prepare, hcolumns, hcreate, Report.after]
      exact stream_course hp hcreate supply'

theorem bindAndRun_course (hquery : (chain.render supply).1 = .ok query)
    (hprobe : chain.probe = .ok probe) (sink : Sink σ) (batchSize : Nat) (supply' : AliasSupply) :
    let r := bindAndRun engine sink (effectiveSize batchSize) query probe e supply'
    Course engine sink batchSize chain supply e r.calls r.phases r.result := by
  rcases hsources : engine.describeSources probe e with ⟨fault | sources, described⟩
  · have hnone : ∀ p : Preparation ε, ¬ p.Succeeds engine chain supply e := by
      intro p hp
      have heq := hp.sources_eq
      rw [hp.probe_unique hprobe, hsources] at heq
      cases heq
    simp only [bindAndRun, hsources]
    exact .unready fault hnone (by simp [Call.isDescription])
  · rcases hparams : Parameter.bindAll sources query.params with fault | params
    · have hnone : ∀ p : Preparation ε, ¬ p.Succeeds engine chain supply e := by
        intro p hp
        have heq := hp.params_eq
        rw [hp.query_unique hquery, (hp.sources_unique hprobe hsources).1, hparams] at heq
        cases heq
      simp only [bindAndRun, hsources, hparams]
      exact .unready (.binding fault) hnone (by simp [Call.isDescription])
    · simp only [bindAndRun, hsources, hparams, Report.after]
      exact prepare_course hquery hprobe hsources hparams sink batchSize supply'

theorem attempt_course (engine : Engine ε) (sink : Sink σ) (batchSize : Nat) (chain : Chain)
    (supply : AliasSupply) (e : ε) :
    let r := attempt engine sink batchSize chain supply e
    Course engine sink batchSize chain supply e r.calls r.phases r.result := by
  rcases hrender : chain.render supply with ⟨fault | query, supply'⟩
  · have hnone : ∀ p : Preparation ε, ¬ p.Succeeds engine chain supply e := by
      intro p hp
      have heq := hp.query_eq
      rw [hrender] at heq
      cases heq
    simp only [attempt, hrender]
    exact .unready (.chain fault) hnone (by simp)
  · rcases hprobe : chain.probe with fault | probe
    · have hnone : ∀ p : Preparation ε, ¬ p.Succeeds engine chain supply e := by
        intro p hp
        have heq := hp.probe_eq
        rw [hprobe] at heq
        cases heq
      simp only [attempt, hrender, hprobe]
      exact .unready (.chain fault) hnone (by simp)
    · simp only [attempt, hrender, hprobe]
      exact bindAndRun_course (by rw [hrender]) hprobe sink batchSize supply'

/-- Every evaluation goes one of these ways. -/
theorem run_course (engine : Engine ε) (sink : Sink σ) (batchSize : Nat) (chain : Chain)
    (supply : AliasSupply) (e : ε) :
    let r := run engine sink batchSize chain supply e
    Course engine sink batchSize chain supply e r.calls r.phases r.result := by
  intro r
  have h := attempt_course engine sink batchSize chain supply e
  rcases hresult : (attempt engine sink batchSize chain supply e).result with fault | summary
  · -- Only the phases differ from the attempt's, and after a failure they are left open.
    simp only [r, run, Report.calls_settled, Report.result_settled]
    simp only [hresult] at h ⊢
    generalize (attempt engine sink batchSize chain supply e).calls = calls,
      (attempt engine sink batchSize chain supply e).phases = phases at h
    cases h with
    | unready _ h hcalls => exact .unready fault h hcalls
    | unopened h hcreate => exact .unopened h hcreate
    | stopped h hruns => exact .stopped h hruns
    | flushed h hruns hflush =>
      cases hflush with
      | failed hflush => exact .flushed h hruns (.failed hflush)
  · simp only [r, run, Report.settled_of_ok hresult]
    exact h

end Evaluations

end QueryPipe.Evaluation
