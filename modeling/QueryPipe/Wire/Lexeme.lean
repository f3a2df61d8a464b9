import QueryPipe.Wire.Quantity
import QueryPipe.Wire.QuotedText

/-!
# Lexemes of a document

A document is cut into brackets, separators, words, numbers and texts; blanks between them mean
nothing. A text or a number carries two outcomes, since a reader who wants its value is stricter
than one who passes over it. After a lexeme that cannot be passed over there is nothing more.

* `lexemes_blank`: a blank in front changes nothing.
-/

namespace QueryPipe.Wire

open Text (Glyph)

/-- The smallest meaningful piece of a document. -/
inductive Lexeme
  /-- `[` -/
  | openList
  /-- `]` -/
  | closeList
  /-- An opening brace. -/
  | openObject
  /-- A closing brace. -/
  | closeObject
  /-- `,` -/
  | comma
  /-- `:` -/
  | colon
  /-- The word `null`. -/
  | null
  /-- The words `true` and `false`. -/
  | flag (b : Bool)
  /-- A number: its value, and whether its end was found. -/
  | number (value : Except Problem Quantity) (passed : Except Problem Unit)
  /-- A text: its characters, and whether its end was found. -/
  | text (value : Except Problem String) (passed : Except Problem Unit)
  /-- A word that is cut off or misspelt. -/
  | badWord (problem : Problem)
  /-- Any other character. -/
  | stray

/-- Whether a glyph is a blank between lexemes. -/
def isSpace : Glyph → Bool
  | .char c => c == ' ' || c == '\n' || c == '\t' || c == '\r'
  | .stray _ => false

/-- Reads the rest of a word and gives what follows it. -/
def readWord : List Char → List Glyph → Except Problem (List Glyph)
  | [], gs => .ok gs
  | _ :: _, [] => .error .cutValue
  | c :: word, g :: rest => if g.isChar c then readWord word rest else .error .expectedWord

theorem length_of_readWord {word : List Char} {gs rest : List Glyph}
    (h : readWord word gs = .ok rest) : rest.length ≤ gs.length := by
  induction word generalizing gs with
  | nil => cases h; exact Nat.le_refl _
  | cons c word ih =>
    cases gs with
    | nil => cases h
    | cons g more =>
      simp only [readWord] at h
      split at h
      · have := ih h
        simp only [List.length_cons]
        omega
      · cases h

/-- The lexeme of a single character, if it is one. -/
def single? (c : Char) : Option Lexeme :=
  if c == '[' then some .openList
  else if c == ']' then some .closeList
  else if c == '\x7b' then some .openObject
  else if c == '\x7d' then some .closeObject
  else if c == ',' then some .comma
  else if c == ':' then some .colon
  else none

/-- The word that a letter starts: what it means and the letters that must follow. -/
def word? (c : Char) : Option (Lexeme × List Char) :=
  if c == 'n' then some (.null, ['u', 'l', 'l'])
  else if c == 't' then some (.flag true, ['r', 'u', 'e'])
  else if c == 'f' then some (.flag false, ['a', 'l', 's', 'e'])
  else none

/-- Cuts a document into lexemes, up to the first that cannot be passed over. -/
def lexemes : List Glyph → List Lexeme
  | [] => []
  | .stray _ :: _ => [.stray]
  | .char c :: rest =>
    if isSpace (.char c) then lexemes rest
    else if c == '"' then
      match h : skipText rest with
      | .error p => [.text (readText [] false rest) (.error p)]
      | .ok more =>
        have := length_of_skipText h
        .text (readText [] false rest) (.ok ()) :: lexemes more
    else if c == '-' || c.isDigit then
      match h : skipNumber (.char c :: rest) with
      | .error p => [.number (readNumber (.char c :: rest)) (.error p)]
      | .ok more =>
        have := length_of_skipNumber h
        .number (readNumber (.char c :: rest)) (.ok ()) :: lexemes more
    else
      match single? c with
      | some lexeme => lexeme :: lexemes rest
      | none =>
        match word? c with
        | none => [.stray]
        | some (lexeme, word) =>
          match h : readWord word rest with
          | .error p => [.badWord p]
          | .ok more =>
            have := length_of_readWord h
            lexeme :: lexemes more
termination_by gs => gs.length
decreasing_by all_goals simp_all; try omega

@[simp] theorem lexemes_nil : lexemes [] = [] := by rw [lexemes]

/-- Blanks between lexemes do not count. -/
theorem lexemes_blank {g : Glyph} (h : isSpace g = true) (rest : List Glyph) :
    lexemes (g :: rest) = lexemes rest := by
  cases g with
  | stray b => simp [isSpace] at h
  | char c => rw [lexemes]; simp [h]

end QueryPipe.Wire
