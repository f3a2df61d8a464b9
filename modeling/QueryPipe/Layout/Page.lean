import QueryPipe.Layout.Measure
import QueryPipe.Query.Plan
import QueryPipe.Text.Search

/-!
# Statements laid out for reading

Keywords are printed in capitals. Every clause starts a line; one that is too long has its parts
on lines of their own, indented below it. A block in parentheses stays on one line where it fits,
and otherwise is a paragraph of its own. The parameters of a query follow as comments, one line
each.
-/

namespace QueryPipe.Layout

/-! ## The page -/

/-- Whether a character is a blank inside a line. -/
def isIndentChar (c : Char) : Bool := c == ' ' || c == '\t'

/-- A step of indentation. -/
inductive Indent
  /-- For the parts of a clause of a certain size. -/
  | clause (size : Nat)
  /-- For a block. -/
  | block
  /-- For a block that starts on the line of its clause and so adds nothing. -/
  | folded
  deriving DecidableEq, Repr, Inhabited

/-- A clause under way. -/
structure Clause where
  /-- What it holds. -/
  extent : Extent
  /-- Whether its parts have lines of their own. -/
  broken : Bool
  deriving DecidableEq, Repr, Inhabited

/-- A level of blocks. -/
structure Level where
  /-- Its last clause. -/
  clause? : Option Clause := none
  /-- Its last keyword. -/
  keyword? : Option String := none
  deriving DecidableEq, Repr, Inhabited

/-- A page under way. -/
structure Page where
  /-- What is written, the last character first. -/
  written : List Char := []
  /-- The indentation, the innermost step first. -/
  indents : List Indent := []
  /-- The innermost level. -/
  level : Level := {}
  /-- The levels around it, the innermost first. -/
  outer : List Level := []
  /-- The sizes of the blocks that stay on one line, the innermost first. -/
  lines : List Nat := []
  deriving DecidableEq, Repr, Inhabited

namespace Page

/-- The page with more characters. -/
def write (p : Page) (cs : List Char) : Page := { p with written := cs.reverse ++ p.written }

/-- The page with a space. -/
def space (p : Page) : Page := p.write [' ']

/-- The page without the blanks at the end of its last line. -/
def trimLine (p : Page) : Page :=
  { p with written := p.written.dropWhile isIndentChar }

/-- The page without blanks at its end. -/
def trimEnd (p : Page) : Page := { p with written := p.written.dropWhile Text.isBlank }

/-- The number of steps that show. -/
def depth (p : Page) : Nat := p.indents.countP (· != .folded)

/-- The page at the start of a line. -/
def startLine (p : Page) : Page :=
  let p := p.trimLine
  let p := if p.written.head? == some '\n' then p else p.write ['\n']
  p.write (List.replicate (2 * p.depth) ' ')

/-- Whether the page is inside a block that stays on one line. -/
def inLine (p : Page) : Bool := !p.lines.isEmpty

/-- The page without the innermost step, where that belongs to a clause. -/
def leaveClause (p : Page) : Page :=
  match p.indents with
  | .clause _ :: rest => { p with indents := rest }
  | _ => p

/-- The page with one more step for the parts of a clause. -/
def enterClause (p : Page) (e : Extent) : Page :=
  { p with indents := .clause e.size :: p.indents }

/-- The steps that are left after the innermost block. A folded block takes the step of its
clause with it, so that it ends where the line of its clause starts. -/
def afterBlock : List Indent → List Indent
  | [] => []
  | .clause _ :: rest => afterBlock rest
  | .block :: rest => rest
  | .folded :: .clause _ :: rest => rest
  | .folded :: rest => rest

/-- The page inside one more block. -/
def enterBlock (p : Page) (step : Indent) : Page :=
  { p with indents := step :: p.indents, level := {}, outer := p.level :: p.outer }

/-- The page outside the innermost block. -/
def leaveBlock (p : Page) : Page :=
  { p with
    indents := afterBlock p.indents
    level := p.outer.headD {}
    outer := p.outer.tail }

/-- The size of the innermost clause whose parts have lines of their own. -/
def clauseSize (p : Page) : Nat :=
  (p.indents.findSome? fun
    | .clause size => some size
    | _ => none).getD 0

/-- The page after a keyword. -/
def noteKeyword (p : Page) (word : String) : Page :=
  { p with level := { p.level with keyword? := some word } }

/-- The page inside a clause of its level. -/
def noteClause (p : Page) (c : Clause) : Page :=
  { p with level := { p.level with clause? := some c } }

end Page

/-! ## Tokens on the page -/

/-- The words of a row without blanks, a space between them. -/
def singleSpaced : List Char → List Char
  | [] => []
  | c :: rest =>
    if Text.isBlank c then
      match rest with
      | [] => []
      | d :: _ => if Text.isBlank d then singleSpaced rest else ' ' :: singleSpaced rest
    else c :: singleSpaced rest

/-- A keyword as it is printed. -/
def Token.keywordText (t : Token) : String := capitals (singleSpaced t.chars)

namespace Page

/-- Places a keyword that starts a clause or stands between statements. -/
def placeTop (p : Page) (t : Token) (rest : List Token) : Page :=
  let e := extent rest
  let p :=
    if p.lines.head?.all (clauseLimit < ·) then p.leaveClause.startLine else p
  let p := p.write t.keywordText.toList
  let broken := decide (clauseLimit < e.size)
  let p :=
    if broken then
      (if t.kind == .keyword .clause then p.enterClause e else p).startLine
    else p.space
  (p.noteClause ⟨e, broken⟩).noteKeyword t.keywordText

/-- Gives the parts of the level's clause lines of their own. -/
def breakClause (p : Page) : Page :=
  match p.level.clause? with
  | some c => if c.broken then p else (p.enterClause c.extent).noteClause { c with broken := true }
  | none => p

/-- Places a keyword that may start a line inside a clause. -/
def placeConnective (p : Page) (t : Token) : Page :=
  let p :=
    if !p.inLine && clauseLimit < p.clauseSize then p.breakClause.startLine
    else p.trimLine.space
  ((p.write t.keywordText.toList).space).noteKeyword t.keywordText

/-- The blanks before a block, by the token before it: as written, and always a space after
another block and after a keyword. -/
def gapBefore (p : Page) (before? : Option Token) : Page :=
  match before?.map Token.kind with
  | some .blank | some .opening | some .lineComment => p
  | some .closing | some (.keyword .plain) => p.trimLine.space
  | _ => p.trimLine

/-- Whether a block that is a paragraph starts on the line of its clause: when it is all there is
to the clause. -/
def folds (p : Page) (solid? : Option Token) : Bool :=
  (solid?.any fun t => t.kind == .keyword .clause) &&
    p.level.clause?.any fun c => c.broken && c.extent.blocks ≤ 2 && c.extent.arguments == 1

/-- Places the start of a block; `before?` is the token before it, `solid?` the last one that is
not blank. -/
def placeOpening (p : Page) (before? solid? : Option Token) (t : Token) (rest : List Token) :
    Page :=
  let b := block (t :: rest)
  if p.inLine || b.fits then
    let p := ((p.gapBefore before?).write t.keywordText.toList).enterBlock .block
    let p := { p with lines := b.size :: p.lines }
    if t.chars == ['('] then p else p.space
  else if p.folds solid? then
    ((p.trimEnd.space.write t.keywordText.toList).enterBlock .folded).startLine
  else
    (((p.gapBefore before?).write t.keywordText.toList).enterBlock .block).startLine

/-- Places the end of a block. -/
def placeClosing (p : Page) (t : Token) : Page :=
  if p.inLine then
    let p := { p.leaveBlock with lines := p.lines.tail }
    let p := if t.chars == [')'] then p.trimLine else p.trimLine.space
    (p.write t.keywordText.toList).space
  else (p.leaveBlock.startLine.write t.keywordText.toList).space

/-- Places a comma. -/
def placeComma (p : Page) : Page :=
  let p := (p.trimLine.write [',']).space
  let short := p.level.clause?.any fun c => c.extent.size ≤ clauseLimit
  if p.inLine || p.level.keyword? == some "LIMIT" || short then p else p.startLine

/-- Places the end of a statement. -/
def placeEnd (p : Page) : Page :=
  { written := '\n' :: ';' :: p.trimLine.written }

/-- A later line of a comment: where it is indented, it is indented as the page is. -/
def commentLine (p : Page) (line : List Char) : List Char :=
  if line.head?.any isIndentChar then
    List.replicate (2 * p.depth + 1) ' ' ++ line.dropWhile isIndentChar
  else line

/-- The lines of a comment. -/
def commentChars (p : Page) (cs : List Char) : List Char :=
  match Text.splitAll '\n' cs with
  | [] => []
  | first :: rest => first ++ rest.flatMap fun line => '\n' :: p.commentLine line

/-- Places a token by its kind. -/
def place (p : Page) (before? solid? : Option Token) (t : Token) (rest : List Token) : Page :=
  match t.kind with
  | .blank => p
  | .lineComment => (p.write t.chars).startLine
  | .blockComment =>
    let p := p.startLine
    (p.write (p.commentChars t.chars)).startLine
  | .typing =>
    let p := p.trimEnd.write t.chars
    if t.chars == [':', ':'] then p else p.space
  | .keyword .clause | .keyword .divider => p.placeTop t rest
  | .keyword .connective => p.placeConnective t
  | .keyword .plain => (p.write t.keywordText.toList).space.noteKeyword t.keywordText
  | .opening => p.placeOpening before? solid? t rest
  | .closing => p.placeClosing t
  | .sign =>
    if t.chars == [','] then p.placeComma
    else if t.chars == ['.'] then p.trimLine.write ['.']
    else if t.chars == [';'] then p.placeEnd
    else if t.chars == [':'] then (p.trimLine.write [':']).space
    else (p.write t.chars).space
  | _ => (p.write t.chars).space

/-- Places tokens in order. -/
def placeAll (p : Page) (before? solid? : Option Token) : List Token → Page
  | [] => p
  | t :: rest =>
    (p.place before? solid? t rest).placeAll (some t)
      (if t.kind == .blank then solid? else some t) rest

/-- The text of a page. -/
def text (p : Page) : String := String.ofList (Text.trimChars p.written.reverse)

end Page

/-! ## Statements and queries -/

/-- A statement laid out, unless it is blank. -/
def layout? (sql : String) : Option String :=
  let sql := Text.trim sql
  if sql.isEmpty then none
  else some (({} : Page).placeAll none none (tokens sql.toList)).text

/-- A parameter as a comment. -/
def parameterLine (p : Parameter) : String :=
  "-- Column " ++ p.column ++ ": " ++ p.value.display

/-- Lines after a text; an empty text takes no line. -/
def appendLines (text : String) : List String → String
  | [] => text
  | line :: rest => appendLines (if text.isEmpty then line else text ++ "\n" ++ line) rest

/-- A query with its text as a formatter gives it, and a comment for each of its parameters. -/
def queryTextBy (format : String → Option String) (q : Query) : String :=
  appendLines ((format q.text).getD "") (q.params.map parameterLine)

/-- A query laid out, and a comment for each of its parameters. -/
def queryText (q : Query) : String := queryTextBy layout? q

end QueryPipe.Layout
