import QueryPipe.Command.Action
import QueryPipe.Dataset.Inference
import QueryPipe.Dataset.Loading
import QueryPipe.Dataset.Reference
import QueryPipe.Evaluation.DatabaseEngine
import QueryPipe.Evaluation.Run
import QueryPipe.Fault
import QueryPipe.Layout.Page
import QueryPipe.Main
import QueryPipe.Output.Writer
import QueryPipe.Proofs.Query.Naming
import QueryPipe.Proofs.Query.Placeholders
import QueryPipe.Proofs.Query.Probe
import QueryPipe.Proofs.Wire.ChainDocument
import QueryPipe.Proofs.Wire.Tolerance
import QueryPipe.Session.Run
import QueryPipe.Settings.Assignments
import QueryPipe.Settings.Settings
import QueryPipe.Sql.Script
import QueryPipe.Storage.Workspace
import QueryPipe.Wire.ChainDocument
import QueryPipe.Proofs.Dataset.Passes
import QueryPipe.Proofs.Evaluation.Protocol
import QueryPipe.Proofs.Command.Folding
import QueryPipe.Proofs.Command.NormalForm
import QueryPipe.Proofs.Command.Values
import QueryPipe.Proofs.Session.Piping
import QueryPipe.Proofs.Evaluation.Decoding
import QueryPipe.Proofs.Evaluation.Gathering
import QueryPipe.Proofs.Evaluation.Batching
import QueryPipe.Proofs.Query.Clashes
import QueryPipe.Proofs.Typing.ResultColumns
import QueryPipe.Proofs.Typing.Lookup
import QueryPipe.Proofs.Typing.LiteralTypes
import QueryPipe.Proofs.Typing.Downstream
import QueryPipe.Proofs.Query.Appending
import QueryPipe.Proofs.Command.DamagedInput
import QueryPipe.Proofs.Sql.Lexing
import QueryPipe.Proofs.Sql.Reading
import QueryPipe.Proofs.Sql.Comparing
import QueryPipe.Proofs.Sql.Inquiry
import QueryPipe.Proofs.Sql.Selecting
import QueryPipe.Proofs.Sql.Answering
import QueryPipe.Proofs.Query.Asking
import QueryPipe.Proofs.Dataset.Loading
import QueryPipe.Proofs.Dataset.Columns
import QueryPipe.Proofs.Dataset.Quoting
import QueryPipe.Proofs.Command.RowTools
import QueryPipe.Proofs.Evaluation.FileQuery
import QueryPipe.Proofs.Session.FilePipeline
import QueryPipe.Proofs.Session.WholeFile
import QueryPipe.Proofs.Text.Lines
import QueryPipe.Proofs.Output.Columns
import QueryPipe.Proofs.Layout.Comments
import QueryPipe.Proofs.Typing.TypedFilters
import QueryPipe.Proofs.Dataset.Headings
import QueryPipe.Proofs.Command.Words
