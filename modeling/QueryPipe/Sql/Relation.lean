import QueryPipe.Sql.Term

/-!
# Relations and statements

A relation is a table or is built from others: joined, selected from, combined, sorted, cut. Where
a script is read its tables are names; the same relation over tables that were found is what is
evaluated. A statement asks for a relation or changes the tables.

* `Combination.name`: how a combination is spelled, also in messages.
-/

namespace QueryPipe.Sql

/-- Which rows without a partner a join keeps. -/
inductive Join
  /-- None. -/
  | inner
  /-- Those of the left. -/
  | left
  /-- Those of the right. -/
  | right
  /-- Those of both sides. -/
  | full
  deriving DecidableEq, Repr, Inhabited

/-- What makes two rows partners. -/
inductive Tie
  /-- Nothing: any two rows are. -/
  | none
  /-- A condition. -/
  | on (t : Expression)
  /-- Equal values in the columns of these names. -/
  | using (names : List String)
  /-- Equal values in all columns of the same name. -/
  | natural
  deriving Repr, Inhabited

/-- How two relations are combined. -/
inductive Combination
  /-- The rows of both. -/
  | all
  /-- The rows of both, each once. -/
  | union
  /-- The rows that are in both, each once. -/
  | intersect
  /-- The rows that are in the first only, each once. -/
  | except
  deriving DecidableEq, Repr, Inhabited

/-- The words for a combination. -/
def Combination.name : Combination → String
  | .all => "UNION ALL"
  | .union => "UNION"
  | .intersect => "INTERSECT"
  | .except => "EXCEPT"

/-- A result column as a script has it. -/
inductive ResultColumn
  /-- All columns. -/
  | all
  /-- All columns of a table. -/
  | allOf (table : String)
  /-- A term under a name, if one is given; `span` is its text as written. -/
  | term (t : Expression) (name? : Option String) (span : String)
  deriving Repr, Inhabited

/-- What rows are sorted by. -/
structure SortKey where
  /-- The term. -/
  term : Expression
  /-- Whether greater values come first. -/
  descending : Bool := false
  /-- Whether missing values come first, if that is said. -/
  nullsFirst? : Option Bool := none
  deriving Repr, Inhabited

/-- A relation over tables `τ`. -/
inductive Relation (τ : Type)
  /-- One row without columns. -/
  | unit
  /-- A table. -/
  | table (t : τ)
  /-- Rows as they stand in a script. -/
  | values (rows : List (List Expression))
  /-- A relation under a name for its columns' table. -/
  | named (name : String) (r : Relation τ)
  /-- A relation under names for its columns. -/
  | renamed (table : String) (names : List String) (r : Relation τ)
  /-- Two relations side by side. -/
  | join (kind : Join) (tie : Tie) (left right : Relation τ)
  /-- Rows selected from a relation, grouped and sorted. -/
  | select (distinct : Bool) (columns : List ResultColumn) (source : Relation τ)
      (condition? : Option Expression) (groups : List Expression) (having? : Option Expression)
      (order : List SortKey)
  /-- Two relations one below the other. -/
  | combine (how : Combination) (left right : Relation τ)
  /-- A relation sorted by its own columns. -/
  | sorted (order : List SortKey) (r : Relation τ)
  /-- A part of the rows. -/
  | limited (limit : Expression) (offset? : Option Expression) (r : Relation τ)
  /-- A relation in which a name stands for another. -/
  | within (name : String) (names? : Option (List String)) (definition body : Relation τ)
  deriving Repr, Inhabited

/-- The name of a table as a script has it. -/
structure TableName where
  /-- The schema, if it is named. -/
  schema? : Option String := none
  /-- The name. -/
  name : String
  deriving DecidableEq, Repr, Inhabited

/-- The name with its schema. -/
def TableName.text (t : TableName) : String :=
  match t.schema? with
  | some s => s ++ "." ++ t.name
  | none => t.name

/-- A relation as a script has it. -/
abbrev Question := Relation TableName

/-- A column of a table that is to be made. -/
structure ColumnDefinition where
  /-- The name. -/
  name : String
  /-- The declared type, if there is one. -/
  type? : Option String := none
  /-- Whether it is the key. -/
  key : Bool := false
  /-- Whether missing values are refused. -/
  required : Bool := false
  /-- Whether a value may occur once only. -/
  unique : Bool := false
  /-- What stands in the column where nothing is said. -/
  default? : Option Expression := none
  deriving Repr, Inhabited

/-- A table to be made; its name as written is kept for messages. -/
structure NewTable where
  /-- Whether it is temporary. -/
  temporary : Bool
  /-- Whether an old table of the name is no fault. -/
  ifAbsent : Bool
  /-- The name. -/
  name : TableName
  /-- The name as written. -/
  written : String
  deriving DecidableEq, Repr, Inhabited

/-- A statement. -/
inductive Statement
  /-- Asks for the rows of a relation. -/
  | query (r : Question)
  /-- Makes a table with columns. -/
  | createTable (table : NewTable) (columns : List ColumnDefinition)
  /-- Makes a table with the rows of a relation. -/
  | createTableAs (table : NewTable) (r : Question)
  /-- Makes a name for a relation. -/
  | createView (view : NewTable) (names? : Option (List String)) (r : Question)
  /-- Adds the rows of a relation to a table; without one a row of defaults. -/
  | insert (table : TableName) (names : List String) (r? : Option Question)
  /-- Takes rows out of a table. -/
  | delete (table : TableName) (condition? : Option Expression)
  /-- Changes rows of a table. -/
  | update (table : TableName) (changes : List (String × Expression))
      (condition? : Option Expression)
  /-- Removes a table or a view. -/
  | drop (view ifPresent : Bool) (table : TableName)
  deriving Repr, Inhabited

/-- Whether a statement asks for rows. -/
def Statement.isQuery : Statement → Bool
  | .query _ => true
  | _ => false

namespace Relation

/-- Whether a relation is two or more side by side. -/
def isJoin {τ : Type} : Relation τ → Bool
  | .join .. => true
  | _ => false

end Relation

end QueryPipe.Sql
