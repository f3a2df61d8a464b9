import QueryPipe.Typing.TypeFamily

/-!
# Catalogs

A catalog lists the columns of a result with their declared types. A column is looked up by its
name as written and, failing that, by what follows its last point; of several columns of one name
the last counts.

* `declared?_append`: a column described later hides an earlier one of the same name.
-/

namespace QueryPipe

/-- One column of a result. -/
structure ColumnDescription where
  /-- The name. -/
  name : String
  /-- The declared type. -/
  declared : String
  deriving DecidableEq, Repr, Inhabited

/-- The kind of cells of a column. -/
def ColumnDescription.cellType (c : ColumnDescription) : CellType :=
  (TypeFamily.ofDeclared c.declared).cellType

/-- The columns of a result in order. -/
abbrev Catalog := List ColumnDescription

namespace Catalog

/-- The declared type of the last column of that name. -/
def declared? (catalog : Catalog) (name : String) : Option String :=
  (catalog.reverse.find? (·.name == name)).map (·.declared)

/-- The last column of a name decides on its type. -/
theorem declared?_append (catalog : Catalog) (c : ColumnDescription) :
    declared? (catalog ++ [c]) c.name = some c.declared := by
  simp [declared?]

/-- The name of a column without what qualifies it, if anything does. -/
def unqualified? (column : String) : Option String :=
  (Text.splitLast? '.' column.toList).map fun (_, tail) => String.ofList tail

/-- The declared type of a column as a condition names it. -/
def lookup (catalog : Catalog) (column : String) : Option String :=
  catalog.declared? column <|> (unqualified? column).bind catalog.declared?

end Catalog

end QueryPipe
