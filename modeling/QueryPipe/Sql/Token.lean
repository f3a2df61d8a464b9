/-!
# Tokens of a script

A script is cut into words, quoted names, texts, numbers, places for parameters and signs; blanks
and comments between them are dropped. A token knows where it stands, so that the text of a whole
expression can be shown as it was written.
-/

namespace QueryPipe.Sql

/-- What a token is. -/
inductive Lexeme
  /-- A word without quotes: a keyword or a name. -/
  | word (s : String)
  /-- A quoted name; one in double quotes may also be meant as a text. -/
  | name (s : String) (double : Bool)
  /-- A text. -/
  | text (s : String)
  /-- A row of bytes. -/
  | bytes (bs : List UInt8)
  /-- A number as written. -/
  | number (s : String)
  /-- A place for a parameter, as written. -/
  | parameter (s : String)
  /-- A sign or several that belong together. -/
  | sign (s : String)
  /-- Characters that start nothing. -/
  | stray
  /-- A blank or a comment. -/
  | blank
  deriving DecidableEq, Repr, Inhabited

/-- A token with its place in the script. -/
structure Token where
  /-- What it is. -/
  lexeme : Lexeme
  /-- Its characters as written. -/
  written : String
  /-- How many characters stand before it. -/
  start : Nat
  deriving DecidableEq, Repr, Inhabited

/-- How many characters stand before the end of the token. -/
def Token.stop (t : Token) : Nat := t.start + t.written.length

/-! ## Characters -/

/-- Whether a character can start a name. -/
def isNameStart (c : Char) : Bool := c.isAlpha || c == '_' || 0x80 ≤ c.toNat

/-- Whether a character can stand inside a name. -/
def isNameChar (c : Char) : Bool := isNameStart c || c.isDigit || c == '$'

/-- Whether a character separates tokens. -/
def isGap (c : Char) : Bool :=
  c == ' ' || c == '\t' || c == '\n' || c == '\x0c' || c == '\r' || c == '\ufeff'

/-- Whether a character is a digit of base sixteen. -/
def isHexDigit (c : Char) : Bool :=
  c.isDigit || ('a' ≤ c && c ≤ 'f') || ('A' ≤ c && c ≤ 'F')

/-- The value of a digit of base sixteen. -/
def hexValue (c : Char) : Nat :=
  if c.isDigit then c.toNat - '0'.toNat else c.toLower.toNat - 'a'.toNat + 10

/-- The bytes that pairs of digits of base sixteen spell. -/
def hexBytes : List Char → List UInt8
  | a :: b :: rest => UInt8.ofNat (16 * hexValue a + hexValue b) :: hexBytes rest
  | _ => []

/-- The signs, a longer one before those it starts with. -/
def signs : List String :=
  ["->>", "->", "==", "<=", "<>", "<<", ">=", ">>", "!=", "||", "-", "(", ")", ";", "+", "*", "/",
    "%", "=", "<", ">", "|", ",", "&", "~", "."]

/-! ## Single tokens

Each of these takes the characters from the start of a token and returns what the token is and how
many characters it has. -/

/-- How many characters at the start satisfy a test. -/
def run (p : Char → Bool) (cs : List Char) : Nat := (cs.takeWhile p).length

/-- What stands in quotes, and the size of it with the closing mark; a doubled mark stands for
itself. -/
def quotedBody? (mark : Char) : List Char → Option (List Char × Nat)
  | [] => none
  | [c] => if c == mark then some ([], 1) else none
  | c :: d :: rest =>
    if c == mark then
      if d == mark then (quotedBody? mark rest).map fun (body, n) => (mark :: body, n + 2)
      else some ([], 1)
    else (quotedBody? mark (d :: rest)).map fun (body, n) => (c :: body, n + 1)

/-- Up to and with the end of a block comment, or to the end of all. -/
def commentSize : List Char → Nat
  | [] => 0
  | '*' :: '/' :: _ => 2
  | _ :: rest => commentSize rest + 1

/-- A name, a text or nothing that starts with a quote. -/
def quoted (mark : Char) (rest : List Char) : Lexeme × Nat :=
  match quotedBody? mark rest with
  | none => (.stray, rest.length + 1)
  | some (body, n) =>
    let s := String.ofList body
    (if mark == '\'' then .text s else .name s (mark == '"'), n + 1)

/-- Digits, with separators between them. -/
def isDigitOrSeparator (c : Char) : Bool := c.isDigit || c == '_'

/-- The size of a number: digits with a fraction and an exponent, or digits of base sixteen. -/
def numberSize (cs : List Char) : Nat :=
  let inHex :=
    match cs with
    | '0' :: x :: d :: _ => (x == 'x' || x == 'X') && isHexDigit d
    | _ => false
  if inHex then 2 + run (fun c => isHexDigit c || c == '_') (cs.drop 2)
  else
    let whole := run isDigitOrSeparator cs
    let fraction :=
      match cs.drop whole with
      | '.' :: rest => 1 + run isDigitOrSeparator rest
      | _ => 0
    let exponent :=
      match cs.drop (whole + fraction) with
      | e :: rest =>
        if e == 'e' || e == 'E' then
          let sign := match rest with
            | '-' :: _ | '+' :: _ => 1
            | _ => 0
          if (rest.drop sign).head?.any Char.isDigit then
            1 + sign + run isDigitOrSeparator (rest.drop sign)
          else 0
        else 0
      | [] => 0
    whole + fraction + exponent

/-- Whether every separator stands between two digits. -/
def separatorsFit : List Char → Bool
  | a :: '_' :: b :: rest => isHexDigit a && isHexDigit b && separatorsFit (b :: rest)
  | '_' :: _ => false
  | [_, '_'] => false
  | _ :: rest => separatorsFit rest
  | [] => true

/-- A number; one that runs into a name is none. -/
def number (cs : List Char) : Lexeme × Nat :=
  let size := numberSize cs
  let more := run isNameChar (cs.drop size)
  let written := cs.take size
  if more == 0 && separatorsFit written then
    (.number (String.ofList (written.filter (· != '_'))), size)
  else (.stray, size + more)

/-- The characters of a parameter's name: of names, and double colons. -/
def parameterSize : List Char → Nat
  | ':' :: ':' :: rest => parameterSize rest + 2
  | c :: rest => if isNameChar c then parameterSize rest + 1 else 0
  | [] => 0

/-- A row of bytes in base sixteen, after its first two characters. -/
def hexText (rest : List Char) : Lexeme × Nat :=
  let digits := rest.takeWhile isHexDigit
  let after := rest.drop digits.length
  if after.head? == some '\'' && digits.length % 2 == 0 then
    (.bytes (hexBytes digits), digits.length + 3)
  else
    let more := run (· != '\'') after
    (.stray, 2 + digits.length + more + (if more < after.length then 1 else 0))

/-- The sign that characters start with. -/
def sign? (cs : List Char) : Option String := signs.find? fun s => s.toList.isPrefixOf cs

/-- What a row of characters starts with. -/
def lexeme (cs : List Char) : Lexeme × Nat :=
  match cs with
  | [] => (.blank, 0)
  | c :: rest =>
    if isGap c then (.blank, 1)
    else if c == '-' && rest.head? == some '-' then (.blank, run (· != '\n') cs)
    else if c == '/' && rest.head? == some '*' && 2 ≤ rest.length then
      (.blank, 2 + commentSize (rest.drop 1))
    else if c == '\'' || c == '"' || c == '\x60' then quoted c rest
    else if c == '[' then
      let n := run (· != ']') rest
      if n < rest.length then (.name (String.ofList (rest.take n)) false, n + 2)
      else (.stray, n + 1)
    else if c.isDigit || (c == '.' && rest.head?.any Char.isDigit) then number cs
    else if c == '?' then
      let n := 1 + run Char.isDigit rest
      (.parameter (String.ofList (cs.take n)), n)
    else if c == '$' || c == '@' || c == '#' || c == ':' then
      let n := parameterSize rest
      if n == 0 then (.stray, 1) else (.parameter (String.ofList (cs.take (n + 1))), n + 1)
    else if (c == 'x' || c == 'X') && rest.head? == some '\'' then hexText (rest.drop 1)
    else if isNameStart c then
      let n := run isNameChar cs
      (.word (String.ofList (cs.take n)), n)
    else
      match sign? cs with
      | some s => (.sign s, s.length)
      | none => (.stray, 1)

/-! ## Whole scripts -/

/-- The tokens of characters that start at a place. The fuel is the number of characters. -/
def tokensFrom : Nat → Nat → List Char → List Token
  | 0, _, _ => []
  | _, _, [] => []
  | fuel + 1, start, cs =>
    let (lexeme, size) := lexeme cs
    let size := max size 1
    let rest := tokensFrom fuel (start + size) (cs.drop size)
    if lexeme == .blank then rest else ⟨lexeme, String.ofList (cs.take size), start⟩ :: rest

/-- The tokens of a script, which ends at its first NUL. -/
def tokens (script : String) : List Token :=
  let cs := script.toList.takeWhile (· != '\x00')
  tokensFrom cs.length 0 cs

end QueryPipe.Sql
