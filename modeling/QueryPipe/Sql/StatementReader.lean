import QueryPipe.Sql.RelationReader

/-!
# Reading statements

A script is read one statement at a time, because what a statement means can depend on what those
before it did. Queries, the making and dropping of tables and views, and changes of rows are read.
What the language has beyond them is refused by name and never passed over: transactions and
savepoints, settings of the connection, indexes and triggers, checks, references and ways to
compare texts in the definition of a table, and what is to be done about broken rules.

* `next?_nil`: where no tokens are left there is no statement.
-/

namespace QueryPipe.Sql

namespace Reader

/-- Gives up where one of some words is next. They belong to the language, but what they ask for
is nothing that this database does. -/
def without (words : List String) : Reader Unit := do
  match ← peek? with
  | some t => if words.any fun w => t.isWord w then problem (.unsupported t.written)
  | none => pure ()

/-- The name of a table, with a schema if one is given. -/
def tableName : Reader TableName := do
  let first ← anyName
  if ← sign? "." then
    let name ← anyName
    pure ⟨some first, name⟩
  else pure ⟨none, first⟩

/-- The name of something new. -/
def newTable (temporary : Bool) : Reader NewTable := do
  let ifAbsent ←
    if ← word? "IF" then
      word "NOT"
      word "EXISTS"
      pure true
    else pure false
  let first ← peek?
  let name ← anyName
  if ← sign? "." then
    let second ← peek?
    let inner ← anyName
    pure ⟨temporary, ifAbsent, ⟨some name, inner⟩, (second.map Token.written).getD ""⟩
  else pure ⟨temporary, ifAbsent, ⟨none, name⟩, (first.map Token.written).getD ""⟩

/-- The words after a column that ask for more than the rules that are kept here. -/
def otherRules : List String :=
  ["AUTOINCREMENT", "CHECK", "COLLATE", "DEFERRABLE", "DESC", "GENERATED", "ON", "REFERENCES"]

/-- The rules of a column. -/
def columnRules (size : Nat) : Nat → ColumnDefinition → Reader ColumnDefinition
  | 0, _ => fail
  | fuel + 1, c => do
    without otherRules
    if ← word? "CONSTRAINT" then
      let _ ← anyName
      columnRules size fuel c
    else if ← word? "PRIMARY" then
      word "KEY"
      let _ ← word? "ASC"
      columnRules size fuel { c with key := true }
    else if ← word? "NOT" then
      word "NULL"
      columnRules size fuel { c with required := true }
    else if ← word? "NULL" then columnRules size fuel c
    else if ← word? "UNIQUE" then columnRules size fuel { c with unique := true }
    else if ← word? "DEFAULT" then
      let t ← operand size
      columnRules size fuel { c with default? := some t }
    else pure c

/-- The words that a rule of a whole table starts with. -/
def tableRules : List String := ["CHECK", "CONSTRAINT", "FOREIGN", "PRIMARY", "UNIQUE"]

/-- The columns of a table. -/
def columns (size : Nat) : Nat → Reader (List ColumnDefinition)
  | 0 => fail
  | fuel + 1 => do
    without tableRules
    let name ← anyName
    let type? ← type? size
    let c ← columnRules size size { name, type? }
    if ← sign? "," then
      let rest ← columns size fuel
      pure (c :: rest)
    else pure [c]

/-- What changes in a row. -/
def changes (size : Nat) : Nat → Reader (List (String × Expression))
  | 0 => fail
  | fuel + 1 => do
    let name ← anyName
    sign "="
    let t ← term size 0
    if ← sign? "," then
      let rest ← changes size fuel
      pure ((name, t) :: rest)
    else pure [(name, t)]

/-- What follows the word for making something. -/
def creation (fuel : Nat) : Reader Statement := do
  let temporary ← accept fun t => t.isWord "TEMP" || t.isWord "TEMPORARY"
  if ← word? "TABLE" then
    let table ← newTable temporary
    if ← word? "AS" then
      let r ← relation fuel
      pure (.createTableAs table r)
    else
      sign "("
      let found ← columns fuel fuel
      sign ")"
      without ["STRICT", "WITHOUT"]
      pure (.createTable table found)
  else if ← word? "VIEW" then
    let view ← newTable temporary
    let names? ←
      if ← sees (Token.isSign "(") then some <$> namesInParentheses fuel else pure none
    word "AS"
    let r ← relation fuel
    pure (.createView view names? r)
  else
    without ["INDEX", "TRIGGER", "UNIQUE", "VIRTUAL"]
    fail

/-- What follows the word for adding rows. -/
def insertion (fuel : Nat) : Reader Statement := do
  word "INTO"
  let table ← tableName
  let names ← if ← sees (Token.isSign "(") then namesInParentheses fuel else pure []
  if ← word? "DEFAULT" then
    word "VALUES"
    pure (.insert table names none)
  else
    let r ← relation fuel
    pure (.insert table names (some r))

/-- The words that start statements about transactions, about the connection and about how rows are
kept. -/
def otherStatements : List String :=
  ["ALTER", "ANALYZE", "ATTACH", "BEGIN", "COMMIT", "DETACH", "END", "EXPLAIN", "PRAGMA", "REINDEX",
    "RELEASE", "REPLACE", "ROLLBACK", "SAVEPOINT", "VACUUM"]

/-- A statement. -/
def statement (fuel : Nat) : Reader Statement := do
  if ← sees (fun t => t.isWord "SELECT" || t.isWord "WITH" || t.isWord "VALUES") then
    let r ← relation fuel
    pure (.query r)
  else if ← word? "CREATE" then creation fuel
  else if ← word? "INSERT" then
    without ["OR"]
    insertion fuel
  else if ← word? "DELETE" then
    word "FROM"
    let table ← tableName
    let condition? ← clause? fuel "WHERE"
    pure (.delete table condition?)
  else if ← word? "UPDATE" then
    let table ← tableName
    word "SET"
    let found ← changes fuel fuel
    let condition? ← clause? fuel "WHERE"
    pure (.update table found condition?)
  else if ← word? "DROP" then
    let view ← word? "VIEW"
    unless view do word "TABLE"
    let ifPresent ←
      if ← word? "IF" then
        word "EXISTS"
        pure true
      else pure false
    let table ← tableName
    pure (.drop view ifPresent table)
  else
    without otherStatements
    fail

/-- Takes the signs that end statements without one before them. -/
def passEnds : Reader Unit := fun cursor =>
  .ok ((), { cursor with rest := cursor.rest.dropWhile fun t => t.isSign ";" })

/-- The next statement of a script, if there is one. -/
def next? : Reader (Option Statement) := do
  passEnds
  let cursor ← get
  if cursor.rest.isEmpty then pure none
  else
    set { cursor with parameters := 0, named := [] }
    let s ← statement (8 * cursor.rest.length + 16)
    let ended ← accept fun t => t.isSign ";"
    let left ← peek?
    if ended || left.isNone then pure (some s) else fail

end Reader

/-- A script that nothing has been read of. -/
def Cursor.ofScript (script : String) : Cursor where
  source := script.toList
  rest := tokens script

theorem next?_nil (source : List Char) (n : Nat) (named : List (String × Nat)) :
    Reader.next? ⟨source, [], n, named⟩ = .ok (none, ⟨source, [], n, named⟩) := by
  rfl

end QueryPipe.Sql
