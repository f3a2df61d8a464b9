import Mathlib.Tactic.Tauto
import QueryPipe.Proofs.Wire.Quantity
import QueryPipe.Proofs.Wire.QuotedText
import QueryPipe.Wire.Lexeme

/-!
# Cutting what was written into lexemes

Each piece the writer puts into a document is cut off as one lexeme, and cutting goes on behind
it. Only a number depends on what follows; everything else ends by itself. `Spells` says this of
characters and lexemes, so that the lexemes of a document can be put together from its parts.

* `spells_quoted`, `spells_wholeChars`, `spells_flagChars`, `spells_null`: scalars.
* `spells_bracketed`, `spells_braced`: parts between brackets.
-/

namespace QueryPipe.Wire

open Text (Glyph)

/-! ## Blanks -/

/-- The characters that may stand between the lexemes of a document. -/
def blanks : List Char := [' ', '\n', '\r', '\t']

theorem isSpace_char_iff {c : Char} : isSpace (.char c) = true ↔ c ∈ blanks := by
  simp only [isSpace, blanks, Bool.or_eq_true, beq_iff_eq, List.mem_cons, List.not_mem_nil,
    or_false]
  tauto

/-! ## Single lexemes -/

theorem lexemes_single {c : Char} {lexeme : Lexeme} (h : single? c = some lexeme)
    (rest : List Glyph) : lexemes (.char c :: rest) = lexeme :: lexemes rest := by
  have hc : c ∈ ['[', ']', '\x7b', '\x7d', ',', ':'] := by
    by_contra hn
    simp only [List.mem_cons, List.not_mem_nil, or_false, not_or] at hn
    simp [single?, hn] at h
  have hplain : isSpace (.char c) = false ∧ c ≠ '"' ∧ c ≠ '-' ∧ c.isDigit = false := by
    simp only [List.mem_cons, List.not_mem_nil, or_false] at hc
    rcases hc with rfl | rfl | rfl | rfl | rfl | rfl <;> decide
  obtain ⟨hs, hq, hm, hd⟩ := hplain
  rw [lexemes]
  simp [hs, hq, hm, hd, h]

theorem readWord_map_char (word : List Char) (rest : List Glyph) :
    readWord word (word.map .char ++ rest) = .ok rest := by
  induction word with
  | nil => rfl
  | cons c word ih => simpa [readWord, Glyph.isChar] using ih

/-- A word that is told by its first character is one lexeme. -/
theorem lexemes_word {c : Char} {lexeme : Lexeme} {word : List Char}
    (h : word? c = some (lexeme, word)) (rest : List Glyph) :
    lexemes (.char c :: (word.map .char ++ rest)) = lexeme :: lexemes rest := by
  have hc : c ∈ ['n', 't', 'f'] := by
    by_contra hn
    simp only [List.mem_cons, List.not_mem_nil, or_false, not_or] at hn
    simp [word?, hn] at h
  have hplain : isSpace (.char c) = false ∧ c ≠ '"' ∧ c ≠ '-' ∧ c.isDigit = false ∧
      single? c = none := by
    simp only [List.mem_cons, List.not_mem_nil, or_false] at hc
    rcases hc with rfl | rfl | rfl <;> exact ⟨by decide, by decide, by decide, by decide, rfl⟩
  obtain ⟨hs, hq, hm, hd, hsingle⟩ := hplain
  have hnumber : (c == '-' || c.isDigit) = false := by simp [hm, hd]
  rw [lexemes]
  simp only [hs, Bool.false_eq_true, if_false, beq_iff_eq, hq, hnumber, hsingle, h]
  split
  · rename_i hx
    rw [readWord_map_char] at hx
    cases hx
  · rename_i hx
    rw [readWord_map_char] at hx
    cases hx
    rfl

/-- A text is one lexeme up to the quote that closes it. -/
theorem lexemes_text {gs rest : List Glyph} {value : Except Problem String}
    (hread : readText [] false gs = value) (hskip : skipText gs = .ok rest) :
    lexemes (.char '"' :: gs) = .text value (.ok ()) :: lexemes rest := by
  rw [lexemes, if_neg (by decide), if_pos (by decide)]
  split
  · rename_i hx
    rw [hskip] at hx
    cases hx
  · rename_i hx
    rw [hskip] at hx
    cases hx
    rw [hread]

/-- A number is one lexeme as far as it goes. -/
theorem lexemes_number {c : Char} {gs rest : List Glyph} {value : Except Problem Quantity}
    (hc : (c == '-' || c.isDigit) = true) (hread : readNumber (.char c :: gs) = value)
    (hskip : skipNumber (.char c :: gs) = .ok rest) :
    lexemes (.char c :: gs) = .number value (.ok ()) :: lexemes rest := by
  have hplain : isSpace (.char c) = false ∧ (c == '"') = false := by
    constructor
    · simp only [isSpace, Bool.or_eq_false_iff, beq_eq_false_iff_ne]
      refine ⟨⟨⟨?_, ?_⟩, ?_⟩, ?_⟩ <;> rintro rfl <;> exact absurd hc (by decide)
    · simp only [beq_eq_false_iff_ne]
      rintro rfl
      exact absurd hc (by decide)
  rw [lexemes, hplain.1, hplain.2, if_neg (by decide), if_neg (by decide), if_pos hc]
  split
  · rename_i hx
    rw [hskip] at hx
    cases hx
  · rename_i hx
    rw [hskip] at hx
    cases hx
    rw [hread]

/-! ## Characters that spell lexemes -/

/-- Characters that are cut into the lexemes, whatever follows them, as long as it does not
continue a number. -/
def Spells (cs : List Char) (ls : List Lexeme) : Prop :=
  ∀ rest, EndsNumber rest → lexemes (cs.map .char ++ rest) = ls ++ lexemes rest

/-- A text in quotes spells that text. -/
theorem spells_quoted (s : String) : Spells (quoted s) [.text (.ok s) (.ok ())] := by
  intro rest _
  rw [map_char_quoted, lexemes_text (readText_quoted s rest) (skipText_flatMap_escaped _ rest)]
  rfl

/-- A whole number that fits spells itself. -/
theorem spells_wholeChars {n : Int} (hlow : -(Numeral.twoTo 63 : Int) ≤ n)
    (hhigh : n ≤ (Numeral.twoTo 64 : Int) - 1) :
    Spells (wholeChars n) [.number (.ok (.whole n)) (.ok ())] := by
  intro rest h
  have hread := readNumber_wholeChars hlow hhigh h
  have hskip := skipNumber_wholeChars n h
  obtain ⟨c, cs, hc, hcs⟩ : ∃ c cs, (c == '-' || c.isDigit) = true ∧ wholeChars n = c :: cs := by
    by_cases hn : 0 ≤ n
    · obtain ⟨c, cs, hc, hcs⟩ := toDigits_head n.toNat
      exact ⟨c, cs, by simp [hc], by rw [wholeChars_of_nonneg hn, hcs]⟩
    · exact ⟨'-', _, by decide, wholeChars_of_neg (by omega)⟩
  rw [hcs, List.map_cons, List.cons_append] at hread hskip
  rw [hcs, List.map_cons, List.cons_append, lexemes_number hc hread hskip]
  rfl

theorem spells_flagChars (b : Bool) : Spells (flagChars b) [.flag b] := by
  intro rest _
  cases b with
  | false => exact @lexemes_word 'f' (.flag false) ['a', 'l', 's', 'e'] rfl rest
  | true => exact @lexemes_word 't' (.flag true) ['r', 'u', 'e'] rfl rest

theorem spells_null : Spells "null".toList [.null] := by
  intro rest _
  exact @lexemes_word 'n' .null ['u', 'l', 'l'] rfl rest

/-! ## Parts between brackets -/

/-- The lexemes of parts with a comma between neighbours. -/
def joinedLexemes : List (List Lexeme) → List Lexeme
  | [] => []
  | [part] => part
  | part :: next :: rest => part ++ .comma :: joinedLexemes (next :: rest)

theorem spells_joinedChars {parts : List (List Char)} {ls : List (List Lexeme)}
    (h : List.Forall₂ Spells parts ls) : Spells (joinedChars parts) (joinedLexemes ls) := by
  induction h with
  | nil =>
    intro rest _
    rfl
  | @cons part l parts ls hp hps ih =>
    cases hps with
    | nil => exact hp
    | @cons next l' parts ls hn hps =>
      intro rest hr
      have hcomma : EndsNumber (.char ',' :: ((joinedChars (next :: parts)).map .char ++ rest)) :=
        endsNumber_cons (by decide) (by decide) (by decide) (by decide) _
      rw [joinedChars, joinedLexemes, List.map_append, List.append_assoc, List.map_cons,
        List.cons_append, hp _ hcomma, lexemes_single (c := ',') rfl, ih rest hr,
        List.append_assoc, List.cons_append]

/-- Parts between an opening and a closing character, with anything behind them. -/
theorem lexemes_enclosed {first last : Char} {opening closing : Lexeme}
    (ho : single? first = some opening) (hc : single? last = some closing)
    (hl : ∀ gs, EndsNumber (.char last :: gs)) {cs : List Char} {ls : List Lexeme}
    (h : Spells cs ls) (rest : List Glyph) :
    lexemes ((first :: (cs ++ [last])).map .char ++ rest) =
      opening :: (ls ++ [closing]) ++ lexemes rest := by
  rw [List.map_cons, List.cons_append, lexemes_single ho, List.map_append, List.append_assoc,
    List.map_singleton, List.singleton_append, h _ (hl rest), lexemes_single hc]
  simp

/-- Parts between an opening and a closing character. -/
theorem spells_enclosed {first last : Char} {opening closing : Lexeme}
    (ho : single? first = some opening) (hc : single? last = some closing)
    (hl : ∀ gs, EndsNumber (.char last :: gs)) {cs : List Char} {ls : List Lexeme}
    (h : Spells cs ls) : Spells (first :: (cs ++ [last])) (opening :: (ls ++ [closing])) :=
  fun rest _ => lexemes_enclosed ho hc hl h rest

/-- Parts in brackets spell the lexemes of a list. -/
theorem spells_bracketed {parts : List (List Char)} {ls : List (List Lexeme)}
    (h : List.Forall₂ Spells parts ls) :
    Spells (bracketed parts) (.openList :: (joinedLexemes ls ++ [.closeList])) :=
  spells_enclosed rfl rfl
    (fun gs => endsNumber_cons (by decide) (by decide) (by decide) (by decide) gs)
    (spells_joinedChars h)

/-- Parts in braces spell the lexemes of an object. -/
theorem spells_braced {parts : List (List Char)} {ls : List (List Lexeme)}
    (h : List.Forall₂ Spells parts ls) :
    Spells (braced parts) (.openObject :: (joinedLexemes ls ++ [.closeObject])) :=
  spells_enclosed rfl rfl
    (fun gs => endsNumber_cons (by decide) (by decide) (by decide) (by decide) gs)
    (spells_joinedChars h)

theorem spells_memberChars (name : String) {cs : List Char} {ls : List Lexeme}
    (h : Spells cs ls) :
    Spells (memberChars name cs) (.text (.ok name) (.ok ()) :: .colon :: ls) := by
  intro rest hr
  have hcolon : EndsNumber (.char ':' :: (cs.map .char ++ rest)) :=
    endsNumber_cons (by decide) (by decide) (by decide) (by decide) _
  rw [memberChars, List.map_append, List.append_assoc, List.map_cons, List.cons_append,
    spells_quoted name _ hcolon, lexemes_single (c := ':') rfl, h rest hr]
  rfl

end QueryPipe.Wire
