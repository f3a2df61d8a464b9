import QueryPipe.Proofs.Evaluation.Course

/-!
# The order of an evaluation

What an evaluation asks of engine and sink, and when, whatever fails. The sink is opened at most
once and only for a statement whose parameters are bound and whose columns are known. It is handed
the batches that have rows, in order, up to and including the first it refuses, and is flushed
once, as the last thing of all, exactly when the statement ran to its end.

* `Protocol`: the rules of the order.
* `run_protocol`: every evaluation keeps them, for every engine, sink, chain and supply.
-/

namespace QueryPipe.Evaluation

variable {ε σ : Type}

/-! ## Calls -/

/-- The schema that a call opens the sink for. -/
def Call.opening? : Call → Option Schema
  | .create schema => some schema
  | _ => none

/-- The batch that a call hands over. -/
def Call.batch? : Call → Option Batch
  | .write b => some b
  | _ => none

/-- The openings of the sink. -/
def Report.openings (r : Report ε σ) : List Schema := r.calls.filterMap Call.opening?

/-- The batches that the sink was handed. -/
def Report.writes (r : Report ε σ) : List Batch := r.calls.filterMap Call.batch?

theorem ne_of_isDescription {call : Call} (h : call.isDescription = true) :
    call.opening? = none ∧ call.batch? = none ∧ call ≠ .flush := by
  cases call <;> simp_all [Call.isDescription, Call.opening?, Call.batch?]

namespace Preparation

variable (p : Preparation ε) (batchSize : Nat) (handed : List Batch)

theorem openings_callsThrough :
    (p.callsThrough batchSize handed).filterMap Call.opening? = [p.columns.schema] := by
  have hmap : (handed.map Call.write).filterMap Call.opening? = [] := by
    simp [List.filterMap_map, Function.comp_def, Call.opening?]
  rw [callsThrough, List.filterMap_append]
  simp [calls, List.filterMap_cons, Call.opening?, hmap]

theorem writes_callsThrough :
    (p.callsThrough batchSize handed).filterMap Call.batch? = handed := by
  have hmap : (handed.map Call.write).filterMap Call.batch? = handed := by
    simp [List.filterMap_map, Function.comp_def, Call.batch?]
  rw [callsThrough, List.filterMap_append]
  simp [calls, List.filterMap_cons, Call.batch?, hmap]

theorem flush_notMem_callsThrough : Call.flush ∉ p.callsThrough batchSize handed := by
  simp [callsThrough, calls]

end Preparation

/-! ## The rules -/

/-- The rules that an evaluation keeps. -/
structure Protocol (engine : Engine ε) (sink : Sink σ) (batchSize : Nat) (chain : Chain)
    (supply : AliasSupply) (e : ε) (r : Report ε σ) : Prop where
  /-- The sink is opened at most once. -/
  opened_once : r.openings.length ≤ 1
  /-- It is opened only after the chain was rendered and probed, every parameter was bound and the
  statement was described, and nothing but the two descriptions was asked before. -/
  opened_when_ready : ∀ schema, .create schema ∈ r.calls →
    ∃ p : Preparation ε, p.Succeeds engine chain supply e ∧ schema = p.columns.schema ∧
      p.calls <+: r.calls
  /-- It is handed the batches with rows, in order, up to and including the first it refuses. -/
  handed : ∀ handed outcome, Executes engine sink batchSize chain supply e handed outcome →
    r.writes = handed
  /-- It is handed nothing unless the statement is run. -/
  handed_nothing : (∀ handed outcome,
    ¬ Executes engine sink batchSize chain supply e handed outcome) → r.writes = []
  /-- It is flushed once, after everything else, when the run of the statement succeeds. -/
  flushed : ∀ handed state, Executes engine sink batchSize chain supply e handed (.ok state) →
    r.calls.count .flush = 1 ∧ r.calls.getLast? = some .flush
  /-- It is not flushed otherwise. -/
  not_flushed : (∀ handed state,
    ¬ Executes engine sink batchSize chain supply e handed (.ok state)) → .flush ∉ r.calls
  /-- The evaluation fails as the run of the statement does. -/
  result_error : ∀ handed fault,
    Executes engine sink batchSize chain supply e handed (.error fault) → r.result = .error fault
  /-- The evaluation succeeds exactly when the flush does, and counts what the sink was handed. -/
  result_ok : ∀ summary, r.result = .ok summary ↔
    (∃ handed state final, Executes engine sink batchSize chain supply e handed (.ok state) ∧
      sink.flush state = .ok final) ∧
    summary = ⟨r.writes.length, (r.writes.map Batch.length).sum⟩
  /-- It ends done exactly when it succeeds. -/
  phase_done : r.phase = .done ↔ ∃ summary, r.result = .ok summary
  /-- It ends failed, with the exit status of its fault, when it fails. -/
  phase_failed : ∀ fault, r.result = .error fault → r.phase = .failed fault.exitStatus

section Rules

variable {engine : Engine ε} {sink : Sink σ} {batchSize : Nat} {chain : Chain}
  {supply : AliasSupply} {e : ε} {calls : List Call} {phases : List Phase}
  {result : Except Fault Summary}

namespace Course

theorem openings (h : Course engine sink batchSize chain supply e calls phases result) :
    calls.filterMap Call.opening? = [] ∨
      ∃ p : Preparation ε, p.Succeeds engine chain supply e ∧
        calls.filterMap Call.opening? = [p.columns.schema] ∧ p.calls <+: calls := by
  cases h with
  | unready fault h hcalls =>
    exact .inl (List.filterMap_eq_nil_iff.2 fun call hcall =>
      (ne_of_isDescription (hcalls call hcall)).1)
  | @unopened p _ _ hp _ => exact .inr ⟨p, hp, rfl, List.prefix_refl _⟩
  | @stopped p _ handed _ hp _ =>
    exact .inr ⟨p, hp, p.openings_callsThrough batchSize handed, List.prefix_append _ _⟩
  | @flushed p _ handed _ _ hp _ _ =>
    refine .inr ⟨p, hp, ?_, (List.prefix_append _ _).trans (List.prefix_append _ _)⟩
    rw [List.filterMap_append, p.openings_callsThrough]
    rfl

theorem writes_of_executes (h : Course engine sink batchSize chain supply e calls phases result)
    {handed : List Batch} {outcome : Except Fault σ}
    (hexecutes : Executes engine sink batchSize chain supply e handed outcome) :
    calls.filterMap Call.batch? = handed := by
  cases h with
  | unready fault h hcalls =>
    obtain ⟨p, hp, _⟩ := hexecutes
    exact absurd hp (h p)
  | unopened hp hcreate => exact absurd hexecutes (not_executes_of_create hp hcreate handed outcome)
  | @stopped p _ handed' fault hp hruns =>
    rw [p.writes_callsThrough]
    exact (Executes.unique ⟨p, hp, hruns⟩ hexecutes).1
  | @flushed p _ handed' _ _ hp hruns _ =>
    rw [List.filterMap_append, p.writes_callsThrough]
    exact (List.append_nil handed').trans (Executes.unique ⟨p, hp, hruns⟩ hexecutes).1

theorem writes_of_not_executes
    (h : Course engine sink batchSize chain supply e calls phases result)
    (hnone : ∀ handed outcome,
      ¬ Executes engine sink batchSize chain supply e handed outcome) :
    calls.filterMap Call.batch? = [] := by
  cases h with
  | unready fault h hcalls =>
    exact List.filterMap_eq_nil_iff.2 fun call hcall =>
      (ne_of_isDescription (hcalls call hcall)).2.1
  | unopened hp hcreate => rfl
  | @stopped p _ handed' fault hp hruns => exact absurd ⟨p, hp, hruns⟩ (hnone _ _)
  | @flushed p _ handed' _ _ hp hruns _ => exact absurd ⟨p, hp, hruns⟩ (hnone _ _)

/-- The sink is flushed last, and only when the run of the statement succeeds. -/
theorem flush_of_executes (h : Course engine sink batchSize chain supply e calls phases result)
    {handed : List Batch} {state : σ}
    (hexecutes : Executes engine sink batchSize chain supply e handed (.ok state)) :
    calls.count .flush = 1 ∧ calls.getLast? = some .flush ∧
      FlushedTo sink state handed phases result := by
  cases h with
  | unready fault h hcalls =>
    obtain ⟨p, hp, _⟩ := hexecutes
    exact absurd hp (h p)
  | unopened hp hcreate => exact absurd hexecutes (not_executes_of_create hp hcreate _ _)
  | @stopped p _ handed' fault hp hruns =>
    cases (Executes.unique ⟨p, hp, hruns⟩ hexecutes).2
  | @flushed p _ handed' state' _ hp hruns hflush =>
    obtain ⟨rfl, houtcome⟩ := Executes.unique ⟨p, hp, hruns⟩ hexecutes
    obtain rfl := Except.ok.inj houtcome
    refine ⟨?_, List.getLast?_concat, hflush⟩
    rw [List.count_append, List.count_eq_zero.2 (p.flush_notMem_callsThrough _ _)]
    rfl

theorem flush_notMem (h : Course engine sink batchSize chain supply e calls phases result)
    (hnone : ∀ handed state,
      ¬ Executes engine sink batchSize chain supply e handed (.ok state)) : .flush ∉ calls := by
  cases h with
  | unready fault h hcalls =>
    exact fun hmem => (ne_of_isDescription (hcalls _ hmem)).2.2 rfl
  | unopened hp hcreate => simp [Preparation.calls]
  | @stopped p _ handed' fault hp hruns => exact p.flush_notMem_callsThrough batchSize handed'
  | @flushed p _ handed' _ _ hp hruns _ => exact absurd ⟨p, hp, hruns⟩ (hnone _ _)

/-- The fault of the run is the fault of the evaluation. -/
theorem result_of_executes (h : Course engine sink batchSize chain supply e calls phases result)
    {handed : List Batch} {fault : Fault}
    (hexecutes : Executes engine sink batchSize chain supply e handed (.error fault)) :
    result = .error fault := by
  cases h with
  | unready fault h hcalls =>
    obtain ⟨p, hp, _⟩ := hexecutes
    exact absurd hp (h p)
  | unopened hp hcreate => exact absurd hexecutes (not_executes_of_create hp hcreate _ _)
  | @stopped p _ handed' fault' hp hruns =>
    have houtcome := (Executes.unique ⟨p, hp, hruns⟩ hexecutes).2
    rw [Except.error.inj houtcome]
  | @flushed p _ handed' _ _ hp hruns _ =>
    cases (Executes.unique ⟨p, hp, hruns⟩ hexecutes).2

/-- An evaluation that succeeds flushed its sink and went through all phases. -/
theorem flushed_of_ok {summary : Summary}
    (h : Course engine sink batchSize chain supply e calls phases (.ok summary)) :
    phases = [.schemaProbed, .prepared, .streaming, .flushed, .done] ∧
      (∃ handed state final, Executes engine sink batchSize chain supply e handed (.ok state) ∧
        sink.flush state = .ok final) := by
  cases h with
  | @flushed p _ handed state _ hp hruns hflush =>
    cases hflush with
    | @completed final hflush => exact ⟨rfl, handed, state, final, ⟨p, hp, hruns⟩, hflush⟩

theorem result_eq_ok_iff (h : Course engine sink batchSize chain supply e calls phases result)
    (summary : Summary) : result = .ok summary ↔
      (∃ handed state final, Executes engine sink batchSize chain supply e handed (.ok state) ∧
        sink.flush state = .ok final) ∧
      summary = ({} : Summary).addAll (calls.filterMap Call.batch?) := by
  constructor
  · rintro rfl
    obtain ⟨-, handed, state, final, hexecutes, hflush⟩ := h.flushed_of_ok
    refine ⟨⟨handed, state, final, hexecutes, hflush⟩, ?_⟩
    obtain ⟨-, -, hflushed⟩ := h.flush_of_executes hexecutes
    rw [h.writes_of_executes hexecutes]
    cases hflushed
    rfl
  · rintro ⟨⟨handed, state, final, hexecutes, hflush⟩, rfl⟩
    obtain ⟨-, -, hflushed⟩ := h.flush_of_executes hexecutes
    rw [h.writes_of_executes hexecutes]
    cases hflushed with
    | failed hproblem =>
      rw [hproblem] at hflush
      cases hflush
    | completed _ => rfl

end Course

/-- Every evaluation keeps the rules. -/
theorem run_protocol (engine : Engine ε) (sink : Sink σ) (batchSize : Nat) (chain : Chain)
    (supply : AliasSupply) (e : ε) :
    Protocol engine sink batchSize chain supply e
      (run engine sink batchSize chain supply e) := by
  have hcourse := run_course engine sink batchSize chain supply e
  have hfailed : ∀ fault, (run engine sink batchSize chain supply e).result = .error fault →
      (run engine sink batchSize chain supply e).phase = .failed fault.exitStatus := by
    intro fault h
    rw [run, Report.result_settled] at h
    exact Report.phase_settled_of_error h
  generalize run engine sink batchSize chain supply e = r at hcourse hfailed ⊢
  refine ⟨?_, ?_, ?_, ?_, ?_, ?_, ?_, ?_, ?_, hfailed⟩
  · rcases hcourse.openings with h | ⟨p, -, h, -⟩
    · simp [Report.openings, h]
    · simp [Report.openings, h]
  · intro schema hmem
    have hopening : schema ∈ r.openings := List.mem_filterMap.2 ⟨_, hmem, rfl⟩
    rcases hcourse.openings with h | ⟨p, hp, h, hprefix⟩
    · rw [Report.openings, h] at hopening
      cases hopening
    · rw [Report.openings, h] at hopening
      exact ⟨p, hp, List.mem_singleton.1 hopening, hprefix⟩
  · intro handed outcome hexecutes
    exact hcourse.writes_of_executes hexecutes
  · intro hnone
    exact hcourse.writes_of_not_executes hnone
  · intro handed state hexecutes
    obtain ⟨hcount, hlast, -⟩ := hcourse.flush_of_executes hexecutes
    exact ⟨hcount, hlast⟩
  · intro hnone
    exact hcourse.flush_notMem hnone
  · intro handed fault hexecutes
    exact hcourse.result_of_executes hexecutes
  · intro summary
    rw [hcourse.result_eq_ok_iff, Summary.addAll_empty]
    rfl
  · constructor
    · intro hdone
      rcases hresult : r.result with fault | summary
      · rw [hfailed fault hresult] at hdone
        cases hdone
      · exact ⟨summary, rfl⟩
    · rintro ⟨summary, h⟩
      simp only [h] at hcourse
      rw [Report.phase, hcourse.flushed_of_ok.1]
      rfl

end Rules

end QueryPipe.Evaluation
