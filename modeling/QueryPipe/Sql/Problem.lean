import QueryPipe.Text.Blank

/-!
# Problems with statements

Why a database refuses a statement or gives up on it, with the wording and the number that goes
with it.
-/

namespace QueryPipe.Sql

/-- Why a statement is refused or given up. -/
inductive Problem
  /-- A token that cannot stand where it does. -/
  | unexpected (written : String)
  /-- The statement ends too early. -/
  | incomplete
  /-- Characters that are no token. -/
  | unrecognized (written : String)
  /-- No table has the name. -/
  | noTable (name : String)
  /-- No view has the name. -/
  | noView (name : String)
  /-- No column has the name. -/
  | noColumn (name : String)
  /-- Several columns have the name. -/
  | ambiguous (name : String)
  /-- All columns of no table. -/
  | noSource
  /-- No function has the name. -/
  | noFunction (name : String)
  /-- A function that does not work there. -/
  | wrongContext (name : String)
  /-- Too few or too many operands. -/
  | wrongArity (name : String)
  /-- A function over rows where there is only one. -/
  | misusedAggregate (name : String)
  /-- A function over rows where rows are chosen or sorted one by one. -/
  | earlyAggregate (name : String)
  /-- A name for a function over rows where there is only one. -/
  | misusedAlias (name : String)
  /-- Groups made by what is known of groups only. -/
  | groupedAggregate
  /-- A condition on groups without groups. -/
  | havingWithoutGroups
  /-- Relations of different width are combined. -/
  | uneven (how : String)
  /-- Rows of different width stand together. -/
  | unevenValues
  /-- A sort key stands for a column that there is not. -/
  | keyOutOfRange (index : Nat) (clause : String) (columns : Nat)
  /-- A sort key is no column of the result. -/
  | unmatchedKey (index : Nat)
  /-- A clause stands before a combination. -/
  | early (clause combination : String)
  /-- Words that name no join. -/
  | unknownJoin (words : String)
  /-- A condition of a join without a join. -/
  | missingJoin (word : String)
  /-- A join that is tied twice. -/
  | tiedTwice
  /-- A column that is not on both sides of a join. -/
  | unshared (name : String)
  /-- No way to compare texts has the name. -/
  | noCollation (name : String)
  /-- A parameter's number is too small or too great. -/
  | parameterNumber
  /-- A number that does not fit. -/
  | numberTooBig (written : String)
  /-- A relation within a name that is only being defined. -/
  | circular (name : String)
  /-- A relation has not as many columns as names. -/
  | unevenNames (table : String) (columns names : Nat)
  /-- A table or a view of the name is there. -/
  | exists (kind written : String)
  /-- A name that is kept for other uses. -/
  | reserved (name : String)
  /-- Two columns of one name. -/
  | duplicateColumn (name : String)
  /-- Too many columns. -/
  | tooManyColumns (table : String)
  /-- No schema has the name. -/
  | noSchema (name : String)
  /-- A temporary table in a named schema. -/
  | schemaOfTemporary
  /-- Rows of another width than the table. -/
  | rowWidth (table : String) (columns values : Nat)
  /-- Rows of another width than the columns they are for. -/
  | valueCount (values columns : Nat)
  /-- No column of the table has the name. -/
  | noColumnOf (table column : String)
  /-- A view is no place for rows. -/
  | viewChanged (name : String)
  /-- What was dropped is of the other kind. -/
  | dropKind (word name : String)
  /-- Not one character to take the meaning from others. -/
  | escape
  /-- A whole number that does not fit. -/
  | overflow
  /-- A value where only a whole number can be. -/
  | mismatch
  /-- A value that is there already. -/
  | notUnique (column : String) (isKey : Bool)
  /-- A value that must not be missing. -/
  | missingValue (column : String)
  /-- Nothing may be changed. -/
  | readOnly
  /-- A file that is none of a database. -/
  | notDatabase
  /-- A file that cannot be opened. -/
  | unopened
  /-- No way to reach files has the name. -/
  | noAccess (name : String)
  /-- A word of the language that this database knows nothing of. -/
  | unsupported (word : String)
  deriving DecidableEq, Repr, Inhabited

namespace Problem

/-- The number of a problem. -/
def code : Problem → Nat
  | .mismatch => 20
  | .notUnique _ isKey => if isKey then 1555 else 2067
  | .missingValue _ => 1299
  | .readOnly => 8
  | .notDatabase => 26
  | .unopened => 14
  | _ => 1

/-- A number with the ending of its place. -/
def ordinal (n : Nat) : String :=
  let ending :=
    if n / 10 % 10 == 1 then "th"
    else if n % 10 == 1 then "st"
    else if n % 10 == 2 then "nd"
    else if n % 10 == 3 then "rd"
    else "th"
  toString n ++ ending

/-- The wording of a problem. -/
def wording : Problem → String
  | .unexpected written => "near \"" ++ written ++ "\": syntax error"
  | .incomplete => "incomplete input"
  | .unrecognized written => "unrecognized token: \"" ++ written ++ "\""
  | .noTable name => "no such table: " ++ name
  | .noView name => "no such view: " ++ name
  | .noColumn name => "no such column: " ++ name
  | .ambiguous name => "ambiguous column name: " ++ name
  | .noSource => "no tables specified"
  | .noFunction name => "no such function: " ++ name
  | .wrongContext name => "unable to use function " ++ name ++ " in the requested context"
  | .wrongArity name => "wrong number of arguments to function " ++ name ++ "()"
  | .misusedAggregate name => "misuse of aggregate function " ++ name ++ "()"
  | .earlyAggregate name => "misuse of aggregate: " ++ name ++ "()"
  | .misusedAlias name => "misuse of aliased aggregate " ++ name
  | .groupedAggregate => "aggregate functions are not allowed in the GROUP BY clause"
  | .havingWithoutGroups => "HAVING clause on a non-aggregate query"
  | .uneven how =>
    "SELECTs to the left and right of " ++ how ++ " do not have the same number of result columns"
  | .unevenValues => "all VALUES must have the same number of terms"
  | .keyOutOfRange index clause columns =>
    ordinal index ++ " " ++ clause ++ " BY term out of range - should be between 1 and " ++
      toString columns
  | .unmatchedKey index =>
    ordinal index ++ " ORDER BY term does not match any column in the result set"
  | .early clause combination =>
    clause ++ " clause should come after " ++ combination ++ " not before"
  | .unknownJoin words => "unknown join type: " ++ words
  | .missingJoin word => "a JOIN clause is required before " ++ word
  | .tiedTwice => "a NATURAL join may not have an ON or USING clause"
  | .unshared name =>
    "cannot join using column " ++ name ++ " - column not present in both tables"
  | .noCollation name => "no such collation sequence: " ++ name
  | .parameterNumber => "variable number must be between ?1 and ?32766"
  | .numberTooBig written => "hex literal too big: " ++ written
  | .circular name => "circular reference: " ++ name
  | .unevenNames table columns names =>
    "table " ++ table ++ " has " ++ toString columns ++ " values for " ++ toString names ++
      " columns"
  | .exists kind written => kind ++ " " ++ written ++ " already exists"
  | .reserved name => "object name reserved for internal use: " ++ name
  | .duplicateColumn name => "duplicate column name: " ++ name
  | .tooManyColumns table => "too many columns on " ++ table
  | .noSchema name => "unknown database " ++ name
  | .schemaOfTemporary => "temporary table name must be unqualified"
  | .rowWidth table columns values =>
    "table " ++ table ++ " has " ++ toString columns ++ " columns but " ++ toString values ++
      " values were supplied"
  | .valueCount values columns =>
    toString values ++ " values for " ++ toString columns ++ " columns"
  | .noColumnOf table column => "table " ++ table ++ " has no column named " ++ column
  | .viewChanged name => "cannot modify " ++ name ++ " because it is a view"
  | .dropKind word name => "use DROP " ++ word ++ " to delete " ++ word.toLower ++ " " ++ name
  | .escape => "ESCAPE expression must be a single character"
  | .overflow => "integer overflow"
  | .mismatch => "datatype mismatch"
  | .notUnique column _ => "UNIQUE constraint failed: " ++ column
  | .missingValue column => "NOT NULL constraint failed: " ++ column
  | .readOnly => "attempt to write a readonly database"
  | .notDatabase => "file is not a database"
  | .unopened => "unable to open database file"
  | .noAccess name => "no such vfs: " ++ name
  | .unsupported word => "not supported: " ++ word

/-- The message of a problem: its number and its wording. -/
def message (p : Problem) : String :=
  "error returned from database: (code: " ++ toString p.code ++ ") " ++ p.wording

end Problem

end QueryPipe.Sql
