import QueryPipe.Fault
import QueryPipe.Output.Writer

/-!
# Engines and sinks

An engine describes statements and runs them; a sink takes the result. Evaluation knows both only
through the operations here, each of which may fail, and each of which passes a state on.
-/

namespace QueryPipe.Evaluation

/-- What running a statement delivers: batches in order, and how it ended after them. -/
structure Delivery where
  /-- The batches. -/
  batches : List Batch
  /-- Whether the statement ran to its end. -/
  ending : Except Fault Unit

/-- The number of rows of a batch; there is always at least one. -/
def effectiveSize (batchSize : Nat) : Nat := max batchSize 1

/-- An engine with states of type `ε`. -/
structure Engine (ε : Type) where
  /-- The result columns of a statement, without running it. -/
  describe : String → ε → Except Fault Catalog × ε
  /-- The result columns of a statement without parameters, typed as well as can be. -/
  describeSources : String → ε → Except Fault Catalog × ε
  /-- Runs a statement under parameters; batches have the schema and at most the given number of
  rows. -/
  execute : String → List Bound → Schema → Nat → ε → Delivery × ε

/-- A place for results with states of type `σ`. -/
structure Sink (σ : Type) where
  /-- Opens the sink for results of a schema. -/
  create : Schema → Except Output.Problem σ
  /-- Takes a batch. -/
  write : Batch → σ → Except Output.Problem σ
  /-- Completes the result. -/
  flush : σ → Except Output.Problem σ

/-- The sink of an output format, where nothing but the format can fail. -/
def Sink.ofFormat (format : OutputFormat) : Sink Output.Writer where
  create schema := .ok (.create format schema)
  write b w := w.write b
  flush w := w.flush

end QueryPipe.Evaluation
