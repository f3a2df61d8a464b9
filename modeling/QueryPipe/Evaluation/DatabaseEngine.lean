import QueryPipe.Evaluation.Connection
import QueryPipe.Sql.Script

/-!
# Databases as engines

A database answers what a connection asks: it describes scripts, and runs them under parameters.

What it knows of the language is what the readers of statements and the table of functions have.
Scripts that ask for anything else are refused. It has no transactions of its own and no settings
that could be changed, no random numbers, no dates and no clock, so that what it answers depends on
its tables and on the script alone. A text is read as the nearest floating point number, which an
embedded database misses by one in the last place for some texts of many digits.

* `snd_describeSources`: describing leaves a database as it is.
-/

namespace QueryPipe.Evaluation

open Sql (Database Value)

/-- A parameter as a value. -/
def valueOf : Bound → Value
  | .whole n => .whole n
  | .float x => .ofReal x
  | .text s => .text s

/-- What a run of a script fetches. -/
def fetchedOf (run : Sql.ScriptRun) : Fetched := ⟨run.rows, run.problem?.map Sql.Problem.message⟩

@[simp] theorem rows_fetchedOf (run : Sql.ScriptRun) : (fetchedOf run).rows = run.rows := rfl

/-- The greatest number of bytes that can be asked for at once. -/
def greatestAllocation : Nat := Numeral.twoTo 63 - 1

/-- The number of bytes of a reference to a fetched row: three words, and the length of one. -/
def rowBytes : Nat := 32

/-- The connection to a database. -/
def databaseConnection : Connection Database where
  greatestBatch := greatestAllocation / rowBytes
  script sql db :=
    let run := Sql.runScript (Text.trim sql) [] db
    (match run.problem? with
      | none => .ok ()
      | some p => .error p.message, run.database)
  columns sql db := ((Sql.describeScript (Text.trim sql) db).mapError Sql.Problem.message, db)
  first? sql db := ((Sql.runScript (Text.trim sql) [] db).rows.head?, db)
  fetch sql params db :=
    let run := Sql.runScript (Text.trim sql) (params.map valueOf) db
    (fetchedOf run, run.database)

theorem columns_databaseConnection (sql : String) (db : Database) :
    databaseConnection.columns sql db =
      ((Sql.describeScript (Text.trim sql) db).mapError Sql.Problem.message, db) := rfl

theorem fetch_databaseConnection (sql : String) (params : List Bound) (db : Database) :
    databaseConnection.fetch sql params db =
      (fetchedOf (Sql.runScript (Text.trim sql) (params.map valueOf) db),
        (Sql.runScript (Text.trim sql) (params.map valueOf) db).database) := rfl

/-- Row sources are described without a change to the database. -/
theorem snd_describeSources (sql : String) (db : Database) :
    (databaseConnection.describeSources sql db).2 = db :=
  @Connection.describeSources_keeps _ _ (· = db) _ (fun _ h => h) (fun _ _ h => h) _ rfl

/-- The columns of row sources in a database. -/
def describeSources (sql : String) (db : Database) : Except Fault Catalog :=
  (databaseConnection.describeSources sql db).1

/-- Runs a script under parameters in a database. -/
def execute (sql : String) (params : List Bound) (schema : Schema) (size : Nat) (db : Database) :
    Delivery × Database :=
  databaseConnection.execute sql params schema size db

end QueryPipe.Evaluation

/-- The engine that databases are. -/
def QueryPipe.Sql.Database.engine : QueryPipe.Evaluation.Engine QueryPipe.Sql.Database :=
  QueryPipe.Evaluation.databaseConnection.engine
