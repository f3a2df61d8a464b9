import QueryPipe.Query.AliasSupply
import QueryPipe.Query.Literal

/-!
# Fragments

A fragment is one clause of a statement: the columns and tables read, a join, the row filter, the
row limit, the order, or a whole statement given as text. Names are written as given; values never
are, they stand as `?` and travel beside the text as parameters.

* `params_eq_nil`: only a filter carries parameters.
-/

namespace QueryPipe

/-- The columns read and the tables they are read from. -/
structure Selection where
  /-- The tables; the rows of several are concatenated. -/
  tables : List String
  /-- The name of the row source, when one is given. -/
  alias? : Option String := none
  /-- The columns as written; none means all. -/
  columns : List String := []
  deriving DecidableEq, Repr, Inhabited

namespace Selection

/-- All columns of one table. -/
def allOf (table : String) : Selection := { tables := [table], columns := ["*"] }

/-- Appends `*` to the columns unless all columns are read already. -/
def widen (s : Selection) : Selection :=
  if s.columns.isEmpty || s.columns.any (fun c => Text.trim c == "*") then s
  else { s with columns := s.columns ++ ["*"] }

/-- The columns as text. -/
def columnsText (s : Selection) : String :=
  if s.columns.isEmpty then "*" else Text.joined ", " s.columns

/-- Reading one table. -/
def fromTable (s : Selection) (table : String) : String :=
  "SELECT " ++ s.columnsText ++ " FROM " ++ table

/-- The text of the selection under the name of its row source. -/
def sql (s : Selection) (name : String) : String :=
  match s.tables with
  | [table] => s.fromTable table ++ " AS " ++ name
  | tables =>
    "SELECT " ++ s.columnsText ++ " FROM (" ++
      Text.joined " UNION ALL " (tables.map s.fromTable) ++ ") AS " ++ name

/-- The text of the selection, with a drawn name when it has no alias. -/
def render (s : Selection) (supply : AliasSupply) : String × AliasSupply :=
  let (name, supply) := supply.resolve s.alias?
  (s.sql name, supply)

end Selection

/-- A comparison between a column of either side of a join. -/
structure JoinCondition where
  /-- The column on the left. -/
  left : String
  /-- The comparison as written. -/
  predicate : String
  /-- The column on the right. -/
  right : String
  deriving DecidableEq, Repr, Inhabited

/-- The text of a join condition. -/
def JoinCondition.sql (c : JoinCondition) : String :=
  c.left ++ " " ++ c.predicate ++ " " ++ c.right

/-- A join with one more table. -/
structure Joining where
  /-- The table joined. -/
  table : String
  /-- Its name in the statement, when one is given. -/
  alias? : Option String := none
  /-- The kind of join as written, such as `INNER`. -/
  how : String
  /-- What the rows are matched on. -/
  conditions : List JoinCondition := []
  deriving DecidableEq, Repr, Inhabited

namespace Joining

/-- The text of the join. -/
def sql (j : Joining) : String :=
  j.how ++ " JOIN " ++ j.table ++
    (match j.alias? with
      | some name => " AS " ++ name
      | none => "") ++
    (if j.conditions.isEmpty then ""
      else " ON " ++ Text.joined " AND " (j.conditions.map JoinCondition.sql))

end Joining

/-- A row filter: every condition must hold. -/
structure Filter where
  /-- The conditions in the order they were added. -/
  conditions : List Condition := []
  deriving DecidableEq, Repr, Inhabited

namespace Filter

/-- The filter with one more condition. -/
def and (f : Filter) (c : Condition) : Filter := ⟨f.conditions ++ [c]⟩

/-- The text of the filter, empty without conditions. -/
def sql (f : Filter) : String :=
  if f.conditions.isEmpty then ""
  else "WHERE " ++ Text.joined " AND " (f.conditions.map Condition.sql)

/-- One parameter for each condition that compares with a value, in order. -/
def params (f : Filter) : List Parameter := f.conditions.filterMap Condition.parameter?

end Filter

/-- An order of rows. -/
structure Sorting where
  /-- Whether the order is descending, for every column. -/
  descending : Bool
  /-- The columns compared, first to last. -/
  columns : List String := []
  deriving DecidableEq, Repr, Inhabited

namespace Sorting

/-- The text of the order, empty without columns. -/
def sql (o : Sorting) : String :=
  if o.columns.isEmpty then ""
  else
    let direction := if o.descending then " DESC" else " ASC"
    "ORDER BY " ++ Text.joined ", " (o.columns.map (· ++ direction))

end Sorting

/-- The text of a row limit. -/
def limitSql (n : UInt32) : String := "LIMIT " ++ toString n.toNat

/-- One clause of a statement. -/
inductive Fragment
  /-- Columns and tables. -/
  | select (s : Selection)
  /-- A join. -/
  | join (j : Joining)
  /-- A row filter. -/
  | filter (f : Filter)
  /-- A row limit. -/
  | limit (n : UInt32)
  /-- An order. -/
  | sort (o : Sorting)
  /-- A whole statement as text. -/
  | raw (text : String)
  deriving DecidableEq, Repr, Inhabited

namespace Fragment

/-- The text of a fragment; only a selection draws a name. -/
def render (f : Fragment) (supply : AliasSupply) : String × AliasSupply :=
  match f with
  | .select s => s.render supply
  | .join j => (j.sql, supply)
  | .filter w => (w.sql, supply)
  | .limit n => (limitSql n, supply)
  | .sort o => (o.sql, supply)
  | .raw text => (text, supply)

/-- The parameters of a fragment. -/
def params : Fragment → List Parameter
  | .filter w => w.params
  | _ => []

/-- Only a filter carries parameters. -/
theorem params_eq_nil (f : Fragment) (h : ∀ w, f ≠ .filter w) : f.params = [] := by
  cases f with
  | filter w => exact absurd rfl (h w)
  | _ => rfl

end Fragment

end QueryPipe
