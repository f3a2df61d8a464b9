import QueryPipe.Evaluation.Engine

/-!
# Evaluating a chain

A chain is evaluated in one pass. Its statement is rendered; the row sources are described to type
the parameters; the statement is described to open the sink; then batches go from the engine to
the sink, and the sink is flushed. The first failure ends the run, and what was asked of engine
and sink up to there stands in the report, in order.
-/

namespace QueryPipe.Evaluation

/-- How far an evaluation has come. -/
inductive Phase
  /-- Nothing has been done. -/
  | init
  /-- All parameters are bound. -/
  | schemaProbed
  /-- The sink is open. -/
  | prepared
  /-- Batches are on their way. -/
  | streaming
  /-- The sink is flushed. -/
  | flushed
  /-- All is done. -/
  | done
  /-- It failed and leaves an exit status behind. -/
  | failed (status : ExitStatus)
  deriving DecidableEq, Repr, Inhabited

/-- The name of a phase. -/
def Phase.name : Phase → String
  | .init => "init"
  | .schemaProbed => "schema-probed"
  | .prepared => "prepared"
  | .streaming => "streaming"
  | .flushed => "flushed"
  | .done => "done"
  | .failed status => "failed(" ++ status.name ++ ")"

/-- Something asked of the engine or the sink. -/
inductive Call
  /-- Describe the row sources. -/
  | describeSources (sql : String)
  /-- Describe the statement. -/
  | describe (sql : String)
  /-- Open the sink. -/
  | create (schema : Schema)
  /-- Run the statement. -/
  | execute (sql : String) (params : List Bound) (batchSize : Nat)
  /-- Take a batch. -/
  | write (batch : Batch)
  /-- Complete the result. -/
  | flush
  deriving DecidableEq, Repr, Inhabited

/-- What a successful evaluation wrote. -/
structure Summary where
  /-- The number of batches. -/
  batches : Nat := 0
  /-- The number of rows in them. -/
  rows : Nat := 0
  deriving DecidableEq, Repr, Inhabited

/-- The summary after one more batch. -/
def Summary.add (s : Summary) (b : Batch) : Summary := ⟨s.batches + 1, s.rows + b.length⟩

/-- How an evaluation went. -/
structure Report (ε σ : Type) where
  /-- What came of it. -/
  result : Except Fault Summary
  /-- Everything asked of engine and sink, in order. -/
  calls : List Call
  /-- The phases entered, in order. -/
  phases : List Phase
  /-- The engine afterwards. -/
  engine : ε
  /-- The sink afterwards, if it was opened. -/
  sink : Option σ
  /-- The supply of names afterwards. -/
  supply : AliasSupply

namespace Report

variable {ε σ : Type}

/-- The phase after an evaluation: the last one entered. -/
def phase (r : Report ε σ) : Phase := r.phases.getLast?.getD .init

/-- A report with the calls and phases that went before it. -/
def after (calls : List Call) (phases : List Phase) (r : Report ε σ) : Report ε σ :=
  { r with calls := calls ++ r.calls, phases := phases ++ r.phases }

/-- A report in which a failure is a phase of its own. -/
def settled (r : Report ε σ) : Report ε σ :=
  match r.result with
  | .ok _ => r
  | .error fault => { r with phases := r.phases ++ [.failed fault.exitStatus] }

@[simp] theorem result_settled (r : Report ε σ) : r.settled.result = r.result := by
  cases h : r.result <;> simp [settled, h]

@[simp] theorem calls_settled (r : Report ε σ) : r.settled.calls = r.calls := by
  cases h : r.result <;> simp [settled, h]

/-- A report that ends well is settled as it is. -/
theorem settled_of_ok {r : Report ε σ} {summary : Summary} (h : r.result = .ok summary) :
    r.settled = r := by
  simp [settled, h]

/-- One that does not ends in failure, under the status of its fault. -/
theorem phase_settled_of_error {r : Report ε σ} {fault : Fault} (h : r.result = .error fault) :
    r.settled.phase = .failed fault.exitStatus := by
  simp [settled, phase, h]

end Report

/-- What feeding a sink came to. -/
structure Feed (σ : Type) where
  /-- The summary, or the problem of the write that failed. -/
  result : Except Output.Problem Summary
  /-- The writes in order, up to the one that failed. -/
  writes : List Batch
  /-- The sink afterwards. -/
  sink : σ

/-- Writes the batches that have rows, up to the first write that fails. -/
def feed {σ : Type} (sink : Sink σ) (summary : Summary) : List Batch → σ → Feed σ
  | [], state => ⟨.ok summary, [], state⟩
  | b :: rest, state =>
    if b.rows.isEmpty then feed sink summary rest state
    else
      match sink.write b state with
      | .error problem => ⟨.error problem, [b], state⟩
      | .ok state =>
        let more := feed sink (summary.add b) rest state
        { more with writes := b :: more.writes }

/-- Runs a prepared statement into an open sink. -/
def stream {ε σ : Type} (engine : Engine ε) (sink : Sink σ) (batchSize : Nat) (sql : String)
    (params : List Bound) (schema : Schema) (e : ε) (state : σ) (supply : AliasSupply) :
    Report ε σ :=
  let (delivery, e) := engine.execute sql params schema batchSize e
  let fed := feed sink {} delivery.batches state
  let calls := .execute sql params batchSize :: fed.writes.map .write
  match fed.result, delivery.ending with
  | .error problem, _ => ⟨.error (.output problem), calls, [.streaming], e, some fed.sink, supply⟩
  | .ok _, .error fault => ⟨.error fault, calls, [.streaming], e, some fed.sink, supply⟩
  | .ok summary, .ok () =>
    let calls := calls ++ [.flush]
    match sink.flush fed.sink with
    | .error problem => ⟨.error (.output problem), calls, [.streaming], e, some fed.sink, supply⟩
    | .ok state => ⟨.ok summary, calls, [.streaming, .flushed, .done], e, some state, supply⟩

/-- Describes a statement, opens the sink for it and runs it. -/
def prepare {ε σ : Type} (engine : Engine ε) (sink : Sink σ) (batchSize : Nat) (sql : String)
    (params : List Bound) (e : ε) (supply : AliasSupply) : Report ε σ :=
  match engine.describe sql e with
  | (.error fault, e) => ⟨.error fault, [.describe sql], [], e, none, supply⟩
  | (.ok catalog, e) =>
    let schema := catalog.schema
    let calls := [.describe sql, .create schema]
    match sink.create schema with
    | .error problem => ⟨.error (.output problem), calls, [], e, none, supply⟩
    | .ok state =>
      (stream engine sink batchSize sql params schema e state supply).after calls [.prepared]

/-- Describes the row sources, binds the parameters of a query and runs it. -/
def bindAndRun {ε σ : Type} (engine : Engine ε) (sink : Sink σ) (batchSize : Nat) (query : Query)
    (probe : String) (e : ε) (supply : AliasSupply) : Report ε σ :=
  let calls := [.describeSources probe]
  match engine.describeSources probe e with
  | (.error fault, e) => ⟨.error fault, calls, [], e, none, supply⟩
  | (.ok catalog, e) =>
    match Parameter.bindAll catalog query.params with
    | .error fault => ⟨.error (.binding fault), calls, [], e, none, supply⟩
    | .ok params =>
      (prepare engine sink batchSize query.text params e supply).after calls [.schemaProbed]

/-- Evaluates a chain up to the first failure. -/
def attempt {ε σ : Type} (engine : Engine ε) (sink : Sink σ) (batchSize : Nat) (chain : Chain)
    (supply : AliasSupply) (e : ε) : Report ε σ :=
  let (rendered, supply) := chain.render supply
  match rendered with
  | .error fault => ⟨.error (.chain fault), [], [], e, none, supply⟩
  | .ok query =>
    match chain.probe with
    | .error fault => ⟨.error (.chain fault), [], [], e, none, supply⟩
    | .ok probe =>
      bindAndRun engine sink (effectiveSize batchSize) query probe e supply

/-- Evaluates a chain. -/
def run {ε σ : Type} (engine : Engine ε) (sink : Sink σ) (batchSize : Nat) (chain : Chain)
    (supply : AliasSupply) (e : ε) : Report ε σ :=
  (attempt engine sink batchSize chain supply e).settled

end QueryPipe.Evaluation
