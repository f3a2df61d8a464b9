import QueryPipe.Query.Chain
import QueryPipe.Text.Search

/-!
# Names of datasets

A dataset is a table, or a delimited file that is loaded under its own name. The extension of the
name tells a file from a table. A file's name stands in a statement as a quoted identifier, with
every quote inside doubled; that identifier is also how a chain remembers that the name is a
file's.

* `unquote_quoteIdentifier`: a quoted name reads back as the name.
* `count_doubled`: quoting doubles quotes and nothing else.
-/

namespace QueryPipe.Dataset

/-! ## Extensions -/

/-- Whether a component of a path stands for no name: nothing, or the directory itself. -/
def isIdle (component : List Char) : Bool := component == [] || component == ['.']

/-- The last name of a path, if it ends in one. -/
def lastName? (path : List Char) : Option (List Char) :=
  match (Text.splitAll '/' path).reverse.dropWhile isIdle with
  | [] => none
  | name :: _ => if name == ['.', '.'] then none else some name

/-- What follows the last point of a path's last name. A name that only starts with a point has
no extension. -/
def extension? (path : List Char) : Option (List Char) := do
  let name ← lastName? path
  let (before, after) ← Text.splitLast? '.' name
  if before.isEmpty then none else some after

/-- What separates the fields of a file, by its extension; none for anything but a file. -/
def delimiter? (name : String) : Option Char := do
  let extension ← extension? name.toList
  let word := (String.ofList extension).toLower
  if word == "csv" then some ',' else if word == "tsv" then some '\t' else none

/-- Whether the name is that of a delimited file. -/
def isFile (name : String) : Bool := (delimiter? name).isSome

/-! ## Quoting -/

/-- Every quote twice. -/
def doubled : List Char → List Char
  | [] => []
  | c :: rest => if c == '"' then '"' :: '"' :: doubled rest else c :: doubled rest

/-- Every pair of quotes once. -/
def halved : List Char → List Char
  | '"' :: '"' :: rest => '"' :: halved rest
  | c :: rest => c :: halved rest
  | [] => []

theorem halved_doubled (cs : List Char) : halved (doubled cs) = cs := by
  induction cs with
  | nil => simp [doubled, halved]
  | cons c rest ih =>
    by_cases h : c = '"'
    · subst h
      simp [doubled, halved, ih]
    · rw [doubled, if_neg (by simpa using h), halved, ih]
      intro r hc
      exact absurd hc h

/-- Quotes stand twice in what is quoted, all else once. -/
theorem count_doubled (x : Char) (cs : List Char) :
    (doubled cs).count x = (if x = '"' then 2 else 1) * cs.count x := by
  induction cs with
  | nil => simp [doubled]
  | cons c rest ih =>
    by_cases h : c = '"'
    · subst h
      by_cases hx : x = '"'
      · subst hx
        simp [doubled, ih]
        omega
      · have hx' : '"' ≠ x := fun e => hx e.symm
        simp [doubled, ih, hx, hx', List.count_cons_of_ne]
    · by_cases hx : x = c
      · subst hx
        simp [doubled, ih, h]
      · have hx' : c ≠ x := fun e => hx e.symm
        rw [doubled, if_neg (by simpa using h), List.count_cons_of_ne hx', ih,
          List.count_cons_of_ne hx']

/-- A name as an identifier of a statement. -/
def quoteIdentifier (name : String) : String :=
  String.ofList ('"' :: (doubled name.toList ++ ['"']))

/-- The characters between the quotes of an identifier. -/
def innerChars? : List Char → Option (List Char)
  | '"' :: rest =>
    match rest.getLast? with
    | some '"' => some rest.dropLast
    | _ => none
  | _ => none

/-- The name that a quoted identifier stands for. -/
def unquote? (reference : String) : Option String :=
  (innerChars? reference.toList).map fun cs => String.ofList (halved cs)

/-- A quoted name is read as the name. -/
theorem unquote_quoteIdentifier (name : String) :
    unquote? (quoteIdentifier name) = some name := by
  simp [unquote?, quoteIdentifier, innerChars?, halved_doubled]

/-! ## References -/

/-- How a statement refers to a dataset: files by their quoted name, tables as given. -/
def reference (name : String) : String :=
  if isFile name && !Text.startsWith "\"" name then quoteIdentifier name else name

/-- The tables that a plan refers to: those of its selection, then the joined one. -/
def references (p : Plan) : List String :=
  ((p.select.map (·.tables)).getD []) ++ (p.join.map (·.table)).toList

/-- The file that a reference names, if it names one. -/
def file? (reference : String) : Option String :=
  (unquote? (Text.trim reference)).filter isFile

/-- The first occurrence of each name. -/
def distinct : List String → List String
  | [] => []
  | name :: rest => name :: (distinct rest).filter (· != name)

end QueryPipe.Dataset

/-- The files that a chain refers to, first mention first. -/
def QueryPipe.Chain.files (c : QueryPipe.Chain) : List String :=
  QueryPipe.Dataset.distinct
    ((c.plans.flatMap QueryPipe.Dataset.references).filterMap QueryPipe.Dataset.file?)
