import QueryPipe.Layout.Keyword
import QueryPipe.Text.WordTable

/-!
# Tokens of a statement

A statement is cut into tokens that keep their characters, blanks among them, so nothing of it is
lost. What a token is, is decided by its first characters and by a little of what came before: a
name after a point is no keyword, and the `AND` of a `BETWEEN` connects no conditions.

* `tokens_chars`: the characters of the tokens in order are the characters of the statement.
-/

namespace QueryPipe.Layout

/-- What a token is. -/
inductive Kind
  /-- Blanks. -/
  | blank
  /-- A comment up to the end of its line. -/
  | lineComment
  /-- A comment with an end of its own. -/
  | blockComment
  /-- What follows a name to say its type. -/
  | typing
  /-- A quoted text or name. -/
  | quoted
  /-- The start of a block. -/
  | opening
  /-- The end of a block. -/
  | closing
  /-- A number. -/
  | number
  /-- A keyword. -/
  | keyword (rank : Rank)
  /-- Several signs that belong together. -/
  | operator
  /-- A place for a parameter. -/
  | placeholder
  /-- A word that is no keyword. -/
  | word
  /-- Any other character. -/
  | sign
  deriving DecidableEq, Repr, Inhabited

/-- A token with its characters. -/
structure Token where
  /-- What it is. -/
  kind : Kind
  /-- Its characters as written. -/
  chars : List Char
  deriving DecidableEq, Repr, Inhabited

namespace Token

/-- Its characters as a text. -/
def text (t : Token) : String := String.ofList t.chars

/-- Its size in bytes. -/
def size (t : Token) : Nat := t.text.utf8ByteSize

/-- Whether it is a certain single character. -/
def isSign (t : Token) (c : Char) : Bool := t.kind == .sign && t.chars == [c]

/-- Whether it starts a clause or stands between statements. -/
def isTop (t : Token) : Bool := t.kind == .keyword .clause || t.kind == .keyword .divider

end Token

/-! ## Characters -/

/-- Whether a character belongs to words. -/
def isWordChar (c : Char) : Bool :=
  c.isAlphanum || c == '_' || (c.toNat ≥ 0x80 && Text.WordTable.ranges.holds c.toNat)

/-- Whether a character belongs to operators. -/
def isOperatorChar (c : Char) : Bool := "!<>=|:-~*&@^?#/%".toList.contains c

/-! ## Sizes of tokens

Each of these counts the characters that belong to a token at the start of a row. -/

/-- How many characters at the start satisfy a test. -/
def runLength (p : Char → Bool) (cs : List Char) : Nat := (cs.takeWhile p).length

/-- Up to the end of the line. -/
def lineLength (cs : List Char) : Nat :=
  let line := cs.takeWhile (· != '\n')
  if line.getLast? == some '\r' && line.length < cs.length then line.length - 1 else line.length

/-- Up to and with the end of a block comment, or to the end of all. -/
def blockLength : List Char → Nat
  | '*' :: '/' :: _ => 2
  | [] => 0
  | _ :: rest => blockLength rest + 1

/-- Up to and with the closing quote. A quote that is doubled or follows a backslash closes
nothing. -/
def quotedLength (quote : Char) : List Char → Nat
  | [] => 0
  | [_] => 1
  | c :: d :: rest =>
    if c == '\\' && d == quote then quotedLength quote rest + 2
    else if c == quote then (if d == quote then quotedLength quote rest + 2 else 1)
    else quotedLength quote (d :: rest) + 1

/-- A quoted text, with the letter that may stand before it. -/
def quoted? : List Char → Option Nat
  | '\x60' :: rest => some (1 + quotedLength '\x60' rest)
  | '"' :: rest => some (1 + quotedLength '"' rest)
  | '\'' :: rest => some (1 + quotedLength '\'' rest)
  | c :: '\'' :: rest =>
    if ['N', 'E', 'x', 'X'].contains c then some (2 + quotedLength '\'' rest) else none
  | _ => none

/-- The digits of a number and what may follow them: a fraction and an exponent. -/
def digitsLength? (cs : List Char) : Option Nat :=
  let whole := runLength Char.isDigit cs
  if whole == 0 then none
  else
    let fraction :=
      match cs.drop whole with
      | '.' :: rest => 1 + runLength Char.isDigit rest
      | _ => 0
    let exponent :=
      match cs.drop (whole + fraction) with
      | 'e' :: rest =>
        let sign := match rest with
          | '-' :: _ | '+' :: _ => 1
          | _ => 0
        let digits := runLength Char.isDigit (rest.drop sign)
        if digits == 0 then 0 else 1 + sign + digits
      | _ => 0
    some (whole + fraction + exponent)

/-- A number with its sign. -/
def number? : List Char → Option Nat
  | '-' :: rest => (digitsLength? rest).map (1 + ·)
  | cs => digitsLength? cs

/-- A place for a parameter, by position or by name. -/
def placeholder? : List Char → Option Nat
  | '?' :: rest => some (1 + runLength Char.isDigit rest)
  | '$' :: rest =>
    let digits := runLength Char.isDigit rest
    let name := runLength isNameChar rest
    if digits > 0 then some (1 + digits) else if name > 0 then some (1 + name) else none
  | c :: rest =>
    let name := runLength isNameChar rest
    if (c == '@' || c == ':') && name > 0 then some (1 + name) else none
  | [] => none
where
  isNameChar (c : Char) : Bool := isWordChar c || c == '.' || c == '$'

/-- An operator of two to five signs. -/
def operator? (cs : List Char) : Option Nat :=
  let n := min 5 (runLength isOperatorChar cs)
  if n < 2 then none else some n

/-! ## Words -/

/-- A word in capitals. -/
def capitals (cs : List Char) : String := (String.ofList cs).toUpper

/-- The first words of a row in capitals, blanks between them, each with the number of
characters up to its end. -/
def wordsAt : Nat → List Char → List (String × Nat)
  | 0, _ => []
  | n + 1, cs =>
    let size := runLength isWordChar cs
    if size == 0 then []
    else
      let rest := cs.drop size
      let gap := runLength Text.isBlank rest
      let word := capitals (cs.take size)
      let more := if gap == 0 then [] else wordsAt n (rest.drop gap)
      (word, size) :: more.map fun (phrase, end') => (word ++ " " ++ phrase, size + gap + end')

/-- The keyword of most words at the start of a row. -/
def keyword? (cs : List Char) : Option (Rank × Nat) :=
  match callOfNow? cs with
  | some n => some (.plain, n)
  | none =>
    (wordsAt 3 cs).reverse.findSome? fun (phrase, size) => (rank? phrase).map fun r => (r, size)
where
  /-- The one keyword with parentheses. -/
  callOfNow? (cs : List Char) : Option Nat :=
    if capitals (cs.take 5) == "NOW()" && !((cs.drop 5).head?.any isWordChar) then some 5
    else none

/-- Whether the word at the start of a row is a certain one. -/
def startsWithWord (word : String) (cs : List Char) : Bool :=
  capitals (cs.take (runLength isWordChar cs)) == word

/-! ## Tokens -/

/-- What of the tokens before is of use. -/
structure Context where
  /-- Whether the token before is a point. -/
  afterPoint : Bool := false
  /-- Whether the last plain keyword is `BETWEEN`. -/
  afterBetween : Bool := false
  deriving DecidableEq, Repr, Inhabited

/-- The kind of the token at the start of a row, and its size; one character at least. -/
def tokenAt (context : Context) (cs : List Char) : Kind × Nat :=
  match cs with
  | '#' :: rest => (.lineComment, 1 + lineLength rest)
  | '-' :: '-' :: rest => (.lineComment, 2 + lineLength rest)
  | '/' :: '*' :: rest => (.blockComment, 2 + blockLength rest)
  | ':' :: ':' :: _ => (.typing, 2)
  | '[' :: ']' :: _ => (.typing, 2)
  | '(' :: _ => (.opening, 1)
  | ')' :: _ => (.closing, 1)
  | _ =>
    if runLength Text.isBlank cs > 0 then (.blank, runLength Text.isBlank cs)
    else if let some n := quoted? cs then (.quoted, n)
    else if startsWithWord "CASE" cs then (.opening, 4)
    else if startsWithWord "END" cs then (.closing, 3)
    else if let some n := number? cs then (.number, n)
    else if let some (rank, n) := if context.afterPoint then none else keyword? cs then
      if context.afterBetween && capitals (cs.take n) == "AND" then (.keyword .plain, n)
      else (.keyword rank, n)
    else if let some n := operator? cs then (.operator, n)
    else if let some n := placeholder? cs then (.placeholder, n)
    else if runLength isWordChar cs > 0 then (.word, runLength isWordChar cs)
    else (.sign, 1)

/-- The context after a token. -/
def Context.after (context : Context) (t : Token) : Context where
  afterPoint := t.isSign '.'
  afterBetween :=
    if t.kind == .keyword .plain then capitals t.chars == "BETWEEN" else context.afterBetween

/-- Cuts a row into tokens. -/
def tokensFrom (context : Context) : List Char → List Token
  | [] => []
  | c :: rest =>
    let (kind, n) := tokenAt context (c :: rest)
    let token : Token := ⟨kind, c :: rest.take (n - 1)⟩
    token :: tokensFrom (context.after token) (rest.drop (n - 1))
termination_by cs => cs.length
decreasing_by simp only [List.length_cons, List.length_drop]; omega

/-- Cuts a statement into tokens. -/
def tokens (cs : List Char) : List Token := tokensFrom {} cs

/-- Cutting a statement into tokens loses no character, wherever the cutting starts. -/
theorem tokensFrom_chars (context : Context) (cs : List Char) :
    (tokensFrom context cs).flatMap Token.chars = cs := by
  fun_induction tokensFrom context cs with
  | case1 => rfl
  | case2 context c rest kind n h token ih => simp [token, ih]

/-- The characters of the tokens are those of the statement. -/
theorem tokens_chars (cs : List Char) : (tokens cs).flatMap Token.chars = cs :=
  tokensFrom_chars {} cs

end QueryPipe.Layout
