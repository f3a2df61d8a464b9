import QueryPipe.Sql.Database
import QueryPipe.Sql.StatementReader
import QueryPipe.Typing.Catalog

/-!
# Running and describing scripts

The statements of a script are read and run one after the other; the first that is refused ends
it, and what those before it did stays done. Describing reads them all and runs none.
-/

namespace QueryPipe.Sql

/-- What running a script comes to. -/
structure ScriptRun where
  /-- The rows of all statements in order. -/
  rows : List Record
  /-- Why the script ended early, if it did. -/
  problem? : Option Problem
  /-- The database after it. -/
  database : Database

/-- Runs the statements that are left. The fuel is the number of tokens. -/
def runAll (params : List Value) : Nat → Cursor → Database → ScriptRun
  | 0, _, db => ⟨[], none, db⟩
  | fuel + 1, cursor, db =>
    match Reader.next? cursor with
    | .error p => ⟨[], some p, db⟩
    | .ok (none, _) => ⟨[], none, db⟩
    | .ok (some s, after) =>
      match db.run params s with
      | .error p => ⟨[], some p, db⟩
      | .ok (answer, db) =>
        match answer.rows with
        | .error p => ⟨[], some p, db⟩
        | .ok rows =>
          let more := runAll (params.drop after.parameters) fuel after db
          { more with rows := rows ++ more.rows }

/-- Runs a script under parameters. -/
def runScript (script : String) (params : List Value) (db : Database) : ScriptRun :=
  let cursor := Cursor.ofScript script
  runAll params (cursor.rest.length + 1) cursor db

/-! ## Describing -/

/-- The name of the kind of a value. -/
def kindOf : Value → Option String
  | .null => none
  | .whole _ => some "INTEGER"
  | .real _ => some "REAL"
  | .text _ => some "TEXT"
  | .blob _ => some "BLOB"

/-- The type of a column: as declared if that is known, else the kind of its first value, else
what is known of it without values. -/
def typeOf (c : Column) (first? : Option Value) : String :=
  match c.declared?.bind kindOfType? with
  | some kind => kind
  | none => ((first?.bind kindOf).or c.kind?).getD "NULL"

/-- The columns of an answer with their types. -/
def describeAnswer (answer : Database.Answer) : Catalog :=
  let first := ((answer.rows.toOption.bind List.head?).getD [])
  answer.columns.mapIdx fun i c => { name := c.name, declared := typeOf c first[i]? }

/-- Whether a problem comes up before the first row is looked at. -/
def Problem.isEarly (p : Problem) : Bool :=
  (p.code == 1 || p == .notDatabase) && p != .overflow && p != .escape

/-- The columns of a statement that is not run. -/
def describeStatement (db : Database) (s : Statement) : Except Problem Catalog :=
  match db.run [] s with
  | .ok (answer, _) => .ok (describeAnswer answer)
  | .error p => if s.isQuery || p.isEarly then .error p else .ok []

/-- The columns of the statements that are left. The fuel is the number of tokens. -/
def describeAll (db : Database) : Nat → Cursor → Except Problem Catalog
  | 0, _ => .ok []
  | fuel + 1, cursor => do
    let (s?, after) ← Reader.next? cursor
    match s? with
    | none => return []
    | some s =>
      let columns ← describeStatement db s
      let more ← describeAll db fuel after
      return columns ++ more

/-- The columns of a script. -/
def describeScript (script : String) (db : Database) : Except Problem Catalog :=
  let cursor := Cursor.ofScript script
  describeAll db (cursor.rest.length + 1) cursor

end QueryPipe.Sql
