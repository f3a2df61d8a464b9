import QueryPipe.Dataset.Inference
import QueryPipe.Dataset.Reference
import QueryPipe.Evaluation.DatabaseEngine
import QueryPipe.Fault
import QueryPipe.Sql.Database
import QueryPipe.Sql.Token

/-!
# Loading delimited files

A delimited file becomes a temporary table: a column for each name in the header, a row for each
data record, in the order of the file. A cell that is missing or empty is a missing value; any
other is the value that its column's type reads in it.

The file is read twice: once for the columns, and once more for the rows, which are added one by
one. The table is made only once the whole file was read. The rows are added in a transaction that
is begun after that, so either all of them are there in the end or none.

* `length_boundsOf`: a row is as wide as the header.
-/

namespace QueryPipe.Dataset

open Sql (Database Record Value)

/-! ## Values -/

/-- What is bound for a cell that is not empty, if it can be read. -/
def ColumnKind.boundOf? (kind : ColumnKind) (cell : String) : Option Bound :=
  match kind with
  | .integer => (Numeral.Whole.readInt64 cell).toOption.map .whole
  | .real => (Numeral.Decimal.readText cell).toOption.map .float
  | .text => some (.text cell)

/-- What is bound for a cell; nothing is for an empty one. -/
def FileColumn.boundOf? (c : FileColumn) (cell : String) : Option Bound :=
  if cell.isEmpty then none else c.kind.boundOf? cell

/-- What is bound for a record, column by column. -/
def boundsOf : List FileColumn → List String → List (Option Bound)
  | [], _ => []
  | _ :: columns, [] => none :: boundsOf columns []
  | c :: columns, cell :: cells => c.boundOf? cell :: boundsOf columns cells

/-- A short record is filled up, and what is too much in a long one is left out. -/
theorem length_boundsOf (columns : List FileColumn) (cells : List String) :
    (boundsOf columns cells).length = columns.length := by
  induction columns generalizing cells with
  | nil => rfl
  | cons c columns ih => cases cells <;> simp [boundsOf, ih]

/-- The value of what is bound. -/
def valueOfBound : Option Bound → Value
  | none => .null
  | some b => Evaluation.valueOf b

/-! ## Tables -/

/-- A column as a statement defines it. -/
def FileColumn.definition (c : FileColumn) : String :=
  quoteIdentifier c.name ++ " " ++ c.kind.sqlName

/-- The statement that makes the table of a file. -/
def tableStatement (table : String) (columns : List FileColumn) : String :=
  "CREATE TEMP TABLE " ++ quoteIdentifier table ++ " (" ++
    Text.joined ", " (columns.map FileColumn.definition) ++ ")"

/-- The problem of a statement that ends inside a name. -/
def cutOff? (statement : String) : Option Sql.Problem :=
  if statement.toList.contains '\x00' then
    (Sql.tokens statement).getLast?.map fun t => .unrecognized t.written
  else none

/-- The database with the empty table of a file. -/
def withTable (table : String) (columns : List FileColumn) (db : Database) :
    Except Sql.Problem Database :=
  match cutOff? (tableStatement table columns) with
  | some problem => .error problem
  | none =>
    db.createTable ⟨true, false, ⟨none, table⟩, quoteIdentifier table⟩
      (columns.map fun c => { name := c.name, type? := some c.kind.sqlName })

/-- The statement that adds a row to the table of a file. -/
def rowStatement (table : String) (columns : List FileColumn) : String :=
  "INSERT INTO " ++ quoteIdentifier table ++ " VALUES (" ++
    Text.joined ", " (columns.map fun _ => "?") ++ ")"

/-- The database with one more row at the end of the table of a file. -/
def withRow (table : String) (row : Record) (db : Database) : Except Sql.Problem Database := do
  let t ← db.changeable ⟨none, table⟩
  if row.length != t.columns.length then throw (.rowWidth t.name t.columns.length row.length)
  let cells := List.zipWith (fun c v => Value.store c.affinity v) t.columns row
  return db.withRows t (t.rows ++ [⟨Int64.ofInt (t.rows.length + 1), cells⟩])

/-! ## Stores -/

/-- What loading a file asks of a database. Its states are of type `σ`, and of type `τ` while it is
in a transaction. -/
structure Store (σ τ : Type) where
  /-- Makes the empty table of some columns. -/
  create : String → List FileColumn → σ → Except String σ
  /-- Begins a transaction. -/
  begin : σ → Except String τ
  /-- Adds a row of bound values to a table. -/
  insert : String → List (Option Bound) → τ → Except String τ
  /-- Ends a transaction and keeps what was done in it. -/
  commit : τ → Except String σ
  /-- Ends a transaction and takes back what was done in it. -/
  rollBack : τ → σ

namespace Store

variable {σ τ : Type}

/-- Adds a row for each record that is read, and counts on. -/
def fill (store : Store σ τ) (table file : String) (columns : List FileColumn) (count : Nat)
    (records : List (Except RecordProblem (List String))) (s : τ) : Except Fault Nat × τ :=
  match records with
  | [] => (.ok count, s)
  | .error problem :: _ => (.error (.execution file problem.message), s)
  | .ok cells :: rest =>
    match store.insert table (boundsOf columns cells) s with
    | .error message => (.error (.execution (rowStatement table columns) message), s)
    | .ok s => store.fill table file columns (count + 1) rest s

/-- Opens a file again and adds its rows to its table. -/
def fillFrom (store : Store σ τ) (table file : String) (columns : List FileColumn)
    (content : Except Storage.AccessFault (List UInt8)) (s : τ) : Except Fault Nat × τ :=
  match content with
  | .error fault => (.error (.execution file fault.message), s)
  | .ok bytes =>
    store.fill table file columns 0
      (Table.ofBytes (delimiterOf (delimiter? file)) bytes).dataOnly s

/-- Adds the rows of a file to its table in one transaction. -/
def fillAll (store : Store σ τ) (table file : String) (columns : List FileColumn)
    (content : Except Storage.AccessFault (List UInt8)) (s : σ) : Except Fault Nat × σ :=
  match store.begin s with
  | .error message => (.error (.execution (rowStatement table columns) message), s)
  | .ok begun =>
    match store.fillFrom table file columns content begun with
    | (.error fault, s) => (.error fault, store.rollBack s)
    | (.ok count, filled) =>
      match store.commit filled with
      | .error message =>
        (.error (.execution (rowStatement table columns) message), store.rollBack filled)
      | .ok done => (.ok count, done)

/-- Loads a file into a temporary table. Returns the number of rows. Rows that were added before a
problem came up are taken back; the table stays. -/
def load (store : Store σ τ) (table file : String)
    (content : Except Storage.AccessFault (List UInt8)) (s : σ) : Except Fault Nat × σ :=
  match columnsOf file content with
  | .error problem => (.error (.execution file problem.message), s)
  | .ok columns =>
    match store.create table columns s with
    | .error message => (.error (.execution (tableStatement table columns) message), s)
    | .ok made => store.fillAll table file columns content made

end Store

/-- A database in a transaction. -/
structure Transaction where
  /-- The database as it was. -/
  before : Database
  /-- The database as it is. -/
  now : Database

/-- A database as a store. A transaction can always be begun, as no script begins one. -/
def databaseStore : Store Database Transaction where
  create table columns db := (withTable table columns db).mapError Sql.Problem.message
  begin db := .ok ⟨db, db⟩
  insert table bounds t :=
    match withRow table (bounds.map valueOfBound) t.now with
    | .error problem => .error problem.message
    | .ok db => .ok { t with now := db }
  commit t := .ok t.now
  rollBack t := t.before

/-! ## Files -/

/-- Loads a file into a temporary table of a database. Returns the number of rows. -/
def load (table file : String) (content : Except Storage.AccessFault (List UInt8))
    (db : Database) : Except Fault (Nat × Database) :=
  match databaseStore.load table file content db with
  | (.error fault, _) => .error fault
  | (.ok count, db) => .ok (count, db)

end QueryPipe.Dataset
