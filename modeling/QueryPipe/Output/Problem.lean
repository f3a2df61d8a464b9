import QueryPipe.Output.Batch

/-!
# Problems of output

What can go wrong when results are written. Some problems lie in how the program is used and some
in the world around it.
-/

namespace QueryPipe.Output

/-- Why results cannot be written. -/
inductive Problem
  /-- The target fails. -/
  | io (reason : String)
  /-- The Parquet file cannot be made. -/
  | parquet (reason : String)
  /-- The format needs a file that can be gone back in. -/
  | unseekable (format : String)
  /-- The format is not supported. -/
  | unavailable (format : String)
  /-- Results come after the end. -/
  | closed
  /-- The columns of a result are not those of its schema. -/
  | mismatch (cause : Batch.Mismatch)
  deriving DecidableEq, Repr, Inhabited

namespace Problem

/-- The wording of a problem. -/
def message : Problem → String
  | .io reason => "i/o error: " ++ reason
  | .parquet reason => "parquet error: " ++ reason
  | .unseekable format =>
    format ++ " output requires a seekable file target; cannot write it to standard output"
  | .unavailable format => format ++ " output is not available in this build"
  | .closed => "write after flush"
  | .mismatch cause => "result batch does not match schema: " ++ cause.message

/-- Whether the program is used in a way it should not be. -/
def isMisuse : Problem → Bool
  | .io _ | .parquet _ => false
  | .unseekable _ | .unavailable _ | .closed | .mismatch _ => true

end Problem

end QueryPipe.Output
