import QueryPipe.Text.Blank
import QueryPipe.Text.Utf8
import QueryPipe.Text.WordTable

/-!
# Lines that set variables

A file next to the user may set variables of the environment, one a line: a name, an equals sign
and a value, perhaps after the word `export`. A value may be quoted, may escape characters with a
backslash, and may mention variables after a dollar sign. Comments start with a hash sign. The
first line that cannot be read ends the file.

A variable that the environment has already keeps its value.

* `scan_plain`: characters without a meaning of their own stand for themselves.
* `extend_known`: what the environment has is not changed.
-/

namespace QueryPipe.Settings

/-- A part of a value. -/
inductive Part
  /-- A character. -/
  | char (c : Char)
  /-- The value of a variable. -/
  | variable (name : String)
  deriving DecidableEq, Repr, Inhabited

/-- A line that sets a variable. -/
structure Assignment where
  /-- The name. -/
  name : String
  /-- The value. -/
  value : List Part
  deriving DecidableEq, Repr, Inhabited

/-! ## Values -/

/-- Where the reader of a value stands; most modes can be inside of double quotes. -/
inductive Mode
  /-- Between characters. -/
  | plain (quoted : Bool)
  /-- Inside of single quotes. -/
  | literal
  /-- After a backslash. -/
  | escape (quoted : Bool)
  /-- In the name of a variable, which is kept in reverse. -/
  | name (quoted : Bool) (reversed : List Char)
  /-- In the name of a variable within braces. -/
  | braced (quoted : Bool) (reversed : List Char)
  /-- After the value. -/
  | after
  deriving DecidableEq, Repr, Inhabited

/-- The variable whose name was read. -/
def Part.ofReversed (reversed : List Char) : Part := .variable (String.ofList reversed.reverse)

/-- Whether a character can be part of a variable's name. -/
def isNameChar (c : Char) : Bool :=
  c.isAlphanum || (c.toNat ≥ 0x80 && Text.WordTable.ranges.holds c.toNat)

/-- The character that an escaped one stands for. -/
def unescaped? (c : Char) : Option Char :=
  if c == 'n' then some '\n' else if ['\\', '\'', '"', '$', ' '].contains c then some c else none

/-- Whether a blank ends a value. -/
def isEnding (c : Char) : Bool := c == ' ' || c == '\t'

/-- The mode between two characters, of which the next one has a meaning of its own. -/
def Mode.entered? (quoted : Bool) (c : Char) : Option Mode :=
  if c == '$' then some (.name quoted [])
  else if c == '"' then some (.plain !quoted)
  else if c == '\\' then some (.escape quoted)
  else if quoted then none
  else if c == '\'' then some .literal
  else if isEnding c then some .after
  else none

/-- Reads a value. -/
def scan : Mode → List Char → Option (List Part)
  | .plain quoted, [] => if quoted then none else some []
  | .escape quoted, [] => if quoted then none else some []
  | .name quoted reversed, [] => if quoted then none else some [.ofReversed reversed]
  | .after, [] => some []
  | .literal, [] | .braced _ _, [] => none
  | .plain quoted, c :: rest =>
    match Mode.entered? quoted c with
    | some mode => scan mode rest
    | none => (scan (.plain quoted) rest).map (.char c :: ·)
  | .literal, c :: rest =>
    if c == '\'' then scan (.plain false) rest else (scan .literal rest).map (.char c :: ·)
  | .escape quoted, c :: rest =>
    match unescaped? c with
    | some d => (scan (.plain quoted) rest).map (.char d :: ·)
    | none => none
  | .name quoted reversed, c :: rest =>
    if isNameChar c then scan (.name quoted (c :: reversed)) rest
    else if c == '\x7b' && reversed.isEmpty then scan (.braced quoted []) rest
    else if c == '$' then (scan (.name quoted []) rest).map (.ofReversed reversed :: ·)
    else
      (scan (.plain quoted) rest).map fun parts => .ofReversed reversed :: .char c :: parts
  | .braced quoted reversed, c :: rest =>
    if c == '\x7d' then (scan (.plain quoted) rest).map (.ofReversed reversed :: ·)
    else scan (.braced quoted (c :: reversed)) rest
  | .after, c :: rest =>
    if isEnding c then scan .after rest else if c == '#' then some [] else none

/-- A line without quotes, escapes and variables stands for itself. -/
theorem scan_plain (cs : List Char) (h : ∀ c ∈ cs, Mode.entered? false c = none) :
    scan (.plain false) cs = some (cs.map .char) := by
  induction cs with
  | nil => simp [scan]
  | cons c rest ih =>
    simp only [List.mem_cons, forall_eq_or_imp] at h
    simp [scan, h.1, ih h.2]

/-! ## Lines -/

/-- A name at the start of a line, and what stands after it. -/
def readName (cs : List Char) : Option (String × List Char) :=
  match cs with
  | c :: _ =>
    if c.isAlpha || c == '_' then
      let name := cs.takeWhile fun c => c.isAlphanum || c == '_' || c == '.'
      some (String.ofList name, (cs.drop name.length).dropWhile Text.isBlank)
    else none
  | [] => none

/-- What stands after an equals sign. -/
def afterEquals : List Char → Option (List Char)
  | '=' :: rest => some (rest.dropWhile Text.isBlank)
  | _ => none

/-- The name that a line sets, and its value as written. The word `export` may stand before the
name, or be the name. -/
def readHead (cs : List Char) : Option (String × List Char) := do
  let (name, rest) ← readName cs
  match afterEquals rest with
  | some value => return (name, value)
  | none =>
    if name == "export" then
      let (name, rest) ← readName rest
      let value ← afterEquals rest
      return (name, value)
    else none

/-- Whether nothing but a comment is left. -/
def isOver (cs : List Char) : Bool := cs.isEmpty || cs.head? == some '#'

/-- Reads a line; one that sets nothing has no assignment. -/
def readLine (line : List Char) : Option (Option Assignment) :=
  let cs := Text.trimChars line
  if isOver cs then some none
  else
    match readHead cs with
    | none => none
    | some (name, value) =>
      if isOver value then some (some ⟨name, []⟩)
      else (scan (.plain false) value).map fun parts => some ⟨name, parts⟩

/-! ## Files -/

/-- The lines of a file, as bytes, without their ends. -/
def lines (bytes : List UInt8) : List (List UInt8) :=
  let parts := bytes.splitOn 0x0A
  let parts := if parts.getLast? == some [] then parts.dropLast else parts
  parts.map fun line => if line.getLast? == some 0x0D then line.dropLast else line

/-- The assignments of lines, up to the first that cannot be read. -/
def readLines : List (List UInt8) → List Assignment
  | [] => []
  | line :: rest =>
    match (Text.chars? (Text.glyphs line)).bind readLine with
    | none => []
    | some none => readLines rest
    | some (some a) => a :: readLines rest

/-- The assignments of a file. -/
def assignments (bytes : List UInt8) : List Assignment := readLines (lines bytes)

/-! ## Environments -/

/-- Variables with their values. -/
abbrev Environment := List (String × String)

/-- The value of a part. A variable that is not set counts as empty. -/
def Part.text (env : Environment) : Part → String
  | .char c => String.ofList [c]
  | .variable name => (env.lookup name).getD ""

/-- The environment after an assignment. -/
def Assignment.apply (a : Assignment) (env : Environment) : Environment :=
  if (env.lookup a.name).isSome then env
  else env ++ [(a.name, String.join (a.value.map (Part.text env)))]

/-- The environment after assignments. -/
def extend (env : Environment) (as : List Assignment) : Environment :=
  as.foldl (fun env a => a.apply env) env

/-- The names of all variables that assignments set or mention. -/
def mentioned (as : List Assignment) : List String :=
  as.flatMap fun a => a.name :: a.value.filterMap fun
    | .variable name => some name
    | .char _ => none

/-- An assignment does not replace what the environment has already. -/
theorem lookup_apply {a : Assignment} {env : Environment} {name value : String}
    (h : env.lookup name = some value) : (a.apply env).lookup name = some value := by
  unfold Assignment.apply
  split
  · exact h
  · simp [List.lookup_append, h]

/-- Neither do several, one after the other. -/
theorem extend_known {env : Environment} {as : List Assignment} {name value : String}
    (h : env.lookup name = some value) : (extend env as).lookup name = some value := by
  induction as generalizing env with
  | nil => exact h
  | cons a rest ih => exact ih (lookup_apply h)

end QueryPipe.Settings
