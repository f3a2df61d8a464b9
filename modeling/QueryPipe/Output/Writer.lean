import QueryPipe.Output.Columns
import QueryPipe.Output.Csv
import QueryPipe.Output.Format
import QueryPipe.Output.Problem

/-!
# Writers of results

A writer is made once the columns of the result are known, takes batches, and is flushed once at
the end. Each format has a writer of its own.
-/

namespace QueryPipe.Output

/-- A writer of one of the formats. -/
inductive Writer
  /-- Comma separated values. -/
  | csv (w : Csv.Writer)
  /-- Aligned columns. -/
  | columns (w : Columns.Writer)
  /-- A Parquet file, which is complete after its flush. -/
  | parquet (complete : Bool)
  deriving DecidableEq, Repr, Inhabited

namespace Writer

/-- A writer of a format. -/
def create (format : OutputFormat) (schema : Schema) : Writer :=
  match format with
  | .csv => .csv (.create schema)
  | .column => .columns (.create Text.clusterCount schema)
  | .parquet => .parquet false

/-- Writes a batch. -/
def write (b : Batch) : Writer → Except Problem Writer
  | .csv w => .ok (.csv (w.write b))
  | .columns w => .ok (.columns (w.write Text.clusterCount b))
  | .parquet complete => if complete then .error .closed else .ok (.parquet false)

/-- Writes everything that was kept back. -/
def flush : Writer → Except Problem Writer
  | .csv w => .ok (.csv w)
  | .columns w => .ok (.columns (w.flush Text.clusterCount))
  | .parquet complete => if complete then .error .closed else .ok (.parquet true)

/-- The text that has been written; a Parquet file has none. -/
def text? : Writer → Option String
  | .csv w => some w.text
  | .columns w => some w.text
  | .parquet _ => none

end Writer

end QueryPipe.Output
