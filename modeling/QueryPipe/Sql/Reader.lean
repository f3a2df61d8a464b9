import QueryPipe.Sql.Problem
import QueryPipe.Sql.Relation
import QueryPipe.Sql.Token
import QueryPipe.Text.Search

/-!
# Reading tokens

A reader takes tokens from the front of what is left of a script and may fail. The first token
that nothing can be made of is the one that is complained about.
-/

namespace QueryPipe.Sql

/-- What is left to read, and the parameters met so far. -/
structure Cursor where
  /-- The whole script. -/
  source : List Char
  /-- The tokens that are left. -/
  rest : List Token
  /-- The greatest number of a parameter so far. -/
  parameters : Nat := 0
  /-- The parameters that have names, with their numbers. -/
  named : List (String × Nat) := []

/-- A step that reads tokens. -/
abbrev Reader (α : Type) := StateT Cursor (Except Problem) α

/-! ## Keywords -/

/-- The words that join two relations or say how. -/
def joinWords : List String := ["CROSS", "FULL", "INNER", "LEFT", "NATURAL", "OUTER", "RIGHT"]

/-- The words that are never names. -/
def reservedWords : List String :=
  ["ADD", "ALL", "ALTER", "AND", "AS", "AUTOINCREMENT", "BETWEEN", "CASE", "CHECK", "COLLATE",
    "COMMIT", "CONSTRAINT", "CREATE", "DEFAULT", "DEFERRABLE", "DELETE", "DISTINCT", "DROP", "ELSE",
    "ESCAPE", "EXCEPT", "EXISTS", "FOREIGN", "FROM", "GROUP", "HAVING", "IN", "INDEX", "INSERT",
    "INTERSECT", "INTO", "IS", "ISNULL", "JOIN", "LIMIT", "NOT", "NOTHING", "NOTNULL", "NULL", "ON",
    "OR", "ORDER", "PRIMARY", "REFERENCES", "RETURNING", "SELECT", "SET", "TABLE", "THEN", "TO",
    "TRANSACTION", "UNION", "UNIQUE", "UPDATE", "USING", "VALUES", "WHEN", "WHERE"]

/-- Whether a word is one of some words, in any case. -/
def isAmong (words : List String) (s : String) : Bool := words.contains s.toUpper

namespace Token

/-- Whether a token is a certain keyword. -/
def isWord (word : String) (t : Token) : Bool :=
  match t.lexeme with
  | .word s => s.toUpper == word
  | _ => false

/-- Whether a token is a certain sign. -/
def isSign (sign : String) (t : Token) : Bool := t.lexeme == .sign sign

/-- The name that a token is, where it cannot be taken for a text. -/
def identifier? (t : Token) : Option String :=
  match t.lexeme with
  | .word s => if isAmong reservedWords s || isAmong joinWords s then none else some s
  | .name s _ => some s
  | _ => none

/-- The name that a token is, where nothing but a name can stand. -/
def anyName? (t : Token) : Option String :=
  match t.lexeme with
  | .word s => if isAmong reservedWords s then none else some s
  | .name s _ => some s
  | .text s => some s
  | _ => none

/-- The name that a token is, where it stands alone after a name. -/
def alias? (t : Token) : Option String :=
  match t.lexeme with
  | .text s => some s
  | _ => t.identifier?

end Token

namespace Reader

/-! ## Steps -/

/-- Gives up at the next token. -/
def fail {α : Type} : Reader α := fun cursor =>
  .error <|
    match cursor.rest with
    | [] => .incomplete
    | t :: _ => if t.lexeme == .stray then .unrecognized t.written else .unexpected t.written

/-- Gives up because of a problem. -/
def problem {α : Type} (p : Problem) : Reader α := fun _ => .error p

/-- The next token, without taking it. -/
def peek? : Reader (Option Token) := fun cursor => .ok (cursor.rest.head?, cursor)

/-- The token after the next, without taking it. -/
def second? : Reader (Option Token) := fun cursor => .ok ((cursor.rest.drop 1).head?, cursor)

/-- Whether the next token satisfies a test. -/
def sees (p : Token → Bool) : Reader Bool := fun cursor =>
  .ok (cursor.rest.head?.any p, cursor)

/-- Whether the token after the next satisfies a test. -/
def seesSecond (p : Token → Bool) : Reader Bool := fun cursor =>
  .ok ((cursor.rest.drop 1).head?.any p, cursor)

/-- Takes the next token. -/
def skip : Reader Unit := fun cursor => .ok ((), { cursor with rest := cursor.rest.drop 1 })

/-- Takes the next token if it satisfies a test. -/
def accept (p : Token → Bool) : Reader Bool := fun cursor =>
  match cursor.rest with
  | t :: rest => if p t then .ok (true, { cursor with rest }) else .ok (false, cursor)
  | [] => .ok (false, cursor)

/-- Takes a keyword if it is next. -/
def word? (w : String) : Reader Bool := accept (Token.isWord w)

/-- Takes a sign if it is next. -/
def sign? (s : String) : Reader Bool := accept (Token.isSign s)

/-- Takes a keyword, which must be next. -/
def word (w : String) : Reader Unit := do
  unless ← word? w do fail

/-- Takes a sign, which must be next. -/
def sign (s : String) : Reader Unit := do
  unless ← sign? s do fail

/-- Takes what a token stands for, if it stands for anything. -/
def taken? {α : Type} (f : Token → Option α) : Reader (Option α) := fun cursor =>
  match cursor.rest with
  | t :: rest =>
    match f t with
    | some a => .ok (some a, { cursor with rest })
    | none => .ok (none, cursor)
  | [] => .ok (none, cursor)

/-- Takes a name, which must be next. -/
def anyName : Reader String := do
  match ← taken? Token.anyName? with
  | some s => pure s
  | none => fail

/-- Where the next token starts, or the script ends. -/
def position : Reader Nat := fun cursor =>
  .ok ((cursor.rest.head?.map Token.start).getD cursor.source.length, cursor)

/-- The text from a place up to the next token, without blanks at its ends. -/
def textFrom (start : Nat) : Reader String := do
  let stop ← position
  let source := (← get).source
  let cs := (source.drop start).take (stop - start)
  let cs := (cs.dropWhile isSpace).reverse.dropWhile isSpace
  pure (String.ofList cs.reverse)

/-- The number of a parameter by what is written for it. -/
def parameter (written : String) : Reader Nat := do
  let cursor ← get
  if written == "?" then
    let n := cursor.parameters + 1
    if 32766 < n then problem .parameterNumber
    set { cursor with parameters := n }
    pure (n - 1)
  else if Text.startsWith "?" written then
    let n := Numeral.Decimal.valueOf (written.toList.drop 1)
    if n == 0 || 32766 < n then problem .parameterNumber
    set { cursor with parameters := max cursor.parameters n }
    pure (n - 1)
  else
    match cursor.named.lookup written with
    | some n => pure n
    | none =>
      let n := cursor.parameters + 1
      set { cursor with parameters := n, named := (written, n - 1) :: cursor.named }
      pure (n - 1)

/-- The names between commas. The fuel is the number of tokens. -/
def names : Nat → Reader (List String)
  | 0 => fail
  | fuel + 1 => do
    let s ← anyName
    if ← sign? "," then
      let more ← names fuel
      pure (s :: more)
    else pure [s]

/-- Names in parentheses. -/
def namesInParentheses (fuel : Nat) : Reader (List String) := do
  sign "("
  let found ← names fuel
  sign ")"
  pure found

end Reader

end QueryPipe.Sql
