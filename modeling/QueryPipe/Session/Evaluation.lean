import QueryPipe.Dataset.Loading
import QueryPipe.Evaluation.DatabaseEngine
import QueryPipe.Evaluation.Run
import QueryPipe.Session.Host

/-!
# Evaluating a chain on a host

The database of the settings is opened, the statements of the settings are run, the files that the
chain names are loaded, and the chain is evaluated. What changed in the database is kept, however
the evaluation ends. What a database does with the statements is up to the library that it comes
from.

Results go to a file or to the output. A format that has to go back in what it wrote needs a file.
-/

namespace QueryPipe.Session

open QueryPipe.Evaluation (Connection Sink Summary)
open Dataset (Store)
open Storage (AccessFault)

/-- A library that databases come from, with states of type `δ`, and of type `τ` in a
transaction. -/
structure Library (δ τ : Type) where
  /-- How statements are described and run. -/
  connection : Connection δ
  /-- How files are loaded. -/
  store : Store δ τ

/-- The library of databases as they are modelled here. -/
def Library.ofDatabases : Library Sql.Database Dataset.Transaction where
  connection := Evaluation.databaseConnection
  store := Dataset.databaseStore

/-! ## Preparing the database -/

section Preparing

variable {m : Type → Type} [Monad m] {δ τ : Type}

/-- Runs the statements of the settings. -/
def afterSetup (library : Library δ τ) (settings : Settings) (e : δ) : Except Fault Unit × δ :=
  match settings.initSql with
  | none => (.ok (), e)
  | some script =>
    ((library.connection.script script e).1.mapError (.execution script),
      (library.connection.script script e).2)

/-- Loads those of some names that are files, each into a table of its name. -/
def loadFiles (library : Library δ τ) (host : Host m) :
    List String → δ → m (Except Fault Unit × δ)
  | [], e => return (.ok (), e)
  | name :: rest, e => do
    if ← host.isFile name then
      match library.store.load name name (← host.read name) e with
      | (.error fault, e) => return (.error fault, e)
      | (.ok _, e) => loadFiles library host rest e
    else loadFiles library host rest e

/-- The database with all that a chain needs. -/
def prepared (library : Library δ τ) (host : Host m) (settings : Settings) (chain : Chain)
    (e : δ) : m (Except Fault Unit × δ) :=
  match afterSetup library settings e with
  | (.error fault, e) => return (.error fault, e)
  | (.ok (), e) => loadFiles library host chain.files e

end Preparing

/-! ## Results -/

/-- The sink of a format; `accepted` is what the host says of the file it writes to. -/
def sinkOf (format : OutputFormat) (toFile : Bool) (accepted : Except AccessFault Unit) :
    Sink Output.Writer :=
  { Sink.ofFormat format with
    create := fun schema =>
      if format == .parquet && !toFile then .error (.unseekable format.name)
      else
        match accepted with
        | .error fault => .error (.io fault.message)
        | .ok () => .ok (.create format schema) }

/-- What came of evaluating a chain. -/
structure Evaluated where
  /-- The summary, or why there is none. -/
  result : Except Fault Summary
  /-- What was written, if the sink was opened. -/
  text? : Option String

section Evaluating

variable {m : Type → Type} [Monad m] {α δ τ : Type}

/-- Evaluates a chain on a host with a database of a library, which is opened first and kept under
what it was opened with. -/
def evaluateOn (library : Library δ τ) (host : Host m) (connect : m (Except Fault (α × δ)))
    (keep : α → δ → m Unit) (settings : Settings) (chain : Chain) (format : OutputFormat)
    (file? : Option String) : m Evaluated := do
  match ← connect with
  | .error fault => return ⟨.error fault, none⟩
  | .ok (address, e) =>
    match ← prepared library host settings chain e with
    | (.error fault, e) =>
      keep address e
      return ⟨.error fault, none⟩
    | (.ok (), e) =>
      let accepted ←
        match file? with
        | none => pure (.ok ())
        | some name => host.accepts name
      let sink := sinkOf format file?.isSome accepted
      let report :=
        QueryPipe.Evaluation.run library.connection.engine sink settings.batchSize chain {} e
      keep address report.engine
      let text? := report.sink.map fun w => w.text?.getD ""
      match file?, text? with
      | some name, some text => host.write name (Text.bytesOf text)
      | _, _ => pure ()
      return ⟨report.result, text?⟩

/-- Evaluates a chain on a host. -/
def evaluate (host : Host m) (settings : Settings) (chain : Chain) (format : OutputFormat)
    (file? : Option String) : m Evaluated :=
  evaluateOn .ofDatabases host (host.connect settings.database) host.keepDatabase settings chain
    format file?

end Evaluating

end QueryPipe.Session
