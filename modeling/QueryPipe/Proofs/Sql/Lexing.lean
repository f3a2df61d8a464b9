import Mathlib.Data.List.TakeWhile
import QueryPipe.Dataset.Reference
import QueryPipe.Sql.Reader
import QueryPipe.Text.Blank

/-!
# What texts are cut into

A statement is put together from parts with blanks and commas between them. Each part is cut into
the same lexemes whatever follows it, as long as that starts with a blank or a comma, so the
lexemes of a statement are those of its parts.

* `Lexes`: the lexemes of characters, wherever they start.
* `Fronts`: the lexemes of a part that something may follow.
* `fronts_word`, `fronts_quoted`, `fronts_number`: words, quoted names and whole numbers.
* `map_lexeme_tokens`: the lexemes of a script.
-/

namespace QueryPipe.Sql

/-! ## One lexeme after the other -/

/-- The lexemes of characters, wherever they start. -/
def Lexes (cs : List Char) (ls : List Lexeme) : Prop :=
  ∀ fuel start, cs.length ≤ fuel → (tokensFrom fuel start cs).map Token.lexeme = ls

theorem lexes_nil : Lexes [] [] := by
  intro fuel start _
  cases fuel <;> rfl

/-- A lexeme in front of a text that is told apart is one lexeme more. -/
theorem Lexes.cons {front rest : List Char} {l : Lexeme} {ls : List Lexeme} (h : Lexes rest ls)
    (hl : lexeme (front ++ rest) = (l, front.length)) (hfront : front ≠ []) (hblank : l ≠ .blank) :
    Lexes (front ++ rest) (l :: ls) := by
  intro fuel start hfuel
  have hpos : 0 < front.length := List.length_pos_iff.2 hfront
  rw [List.length_append] at hfuel
  obtain ⟨fuel, rfl⟩ := Nat.exists_eq_add_one_of_ne_zero (n := fuel) (by omega)
  have hstep : tokensFrom (fuel + 1) start (front ++ rest) =
      ⟨l, String.ofList front, start⟩ :: tokensFrom fuel (start + front.length) rest := by
    cases hcs : front ++ rest with
    | nil => exact absurd (List.append_eq_nil_iff.1 hcs).1 hfront
    | cons c cs =>
      rw [tokensFrom, ← hcs, hl]
      simp [hblank, Nat.max_eq_left hpos]
      intro h
      cases h
  rw [hstep, List.map_cons, h fuel _ (by omega)]

/-- A blank between lexemes is passed over. -/
theorem Lexes.blank {rest : List Char} {ls : List Lexeme} (h : Lexes rest ls) :
    Lexes (' ' :: rest) ls := by
  intro fuel start hfuel
  rw [List.length_cons] at hfuel
  obtain ⟨fuel, rfl⟩ := Nat.exists_eq_add_one_of_ne_zero (n := fuel) (by omega)
  have hstep : tokensFrom (fuel + 1) start (' ' :: rest) = tokensFrom fuel (start + 1) rest := rfl
  rw [hstep]
  exact h fuel _ (by omega)

/-! ## Parts that something may follow -/

/-- Whether characters are at their end, or start with a blank or a comma. -/
def AtBreak (rest : List Char) : Prop := rest = [] ∨ ∃ more, rest = ' ' :: more ∨ rest = ',' :: more

/-- The lexemes of a part, whatever follows it after a break. -/
structure Fronts (part : List Char) (ls : List Lexeme) : Prop where
  /-- The part is cut into these lexemes, and what follows it into its own. -/
  lexes : ∀ rest others, AtBreak rest → Lexes rest others → Lexes (part ++ rest) (ls ++ others)
  /-- The script does not end inside the part. -/
  whole : '\x00' ∉ part

/-- A part that is one lexeme wherever a break follows fronts whatever stands behind it. -/
theorem Fronts.of_lexeme {part : List Char} {l : Lexeme}
    (h : ∀ rest, AtBreak rest → lexeme (part ++ rest) = (l, part.length)) (hpart : part ≠ [])
    (hblank : l ≠ .blank) (hwhole : '\x00' ∉ part) : Fronts part [l] where
  lexes := fun rest _ hrest hothers => hothers.cons (h rest hrest) hpart hblank
  whole := hwhole

/-- Two parts with a blank between them. -/
theorem Fronts.spaced {a b : List Char} {ls ms : List Lexeme} (ha : Fronts a ls)
    (hb : Fronts b ms) : Fronts (a ++ ' ' :: b) (ls ++ ms) where
  lexes := by
    intro rest others hrest hothers
    rw [List.append_assoc, List.cons_append, List.append_assoc]
    exact ha.lexes _ _ (.inr ⟨_, .inl rfl⟩) (hb.lexes rest others hrest hothers).blank
  whole := by simp [ha.whole, hb.whole]

theorem lexes_comma {rest : List Char} {ls : List Lexeme} (h : Lexes rest ls) :
    Lexes (',' :: rest) (.sign "," :: ls) := by
  have hl : lexeme ([','] ++ rest) = (.sign ",", 1) := by
    cases rest <;> rfl
  exact h.cons hl (by simp) (by simp)

/-- Two parts with a comma and a blank between them. -/
theorem Fronts.listed {a b : List Char} {ls ms : List Lexeme} (ha : Fronts a ls)
    (hb : Fronts b ms) : Fronts (a ++ ',' :: ' ' :: b) (ls ++ .sign "," :: ms) where
  lexes := by
    intro rest others hrest hothers
    rw [List.append_assoc, List.cons_append, List.cons_append, List.append_assoc,
      List.cons_append]
    exact ha.lexes _ _ (.inr ⟨_, .inr rfl⟩)
      (lexes_comma (hb.lexes rest others hrest hothers).blank)
  whole := by simp [ha.whole, hb.whole]

/-- The lexemes of a script. -/
theorem Fronts.map_lexeme_tokens {script : String} {ls : List Lexeme}
    (h : Fronts script.toList ls) : (tokens script).map Token.lexeme = ls := by
  have hall : script.toList.takeWhile (· != '\x00') = script.toList := by
    rw [List.takeWhile_eq_self_iff]
    intro c hc
    have hne : c ≠ '\x00' := fun e => h.whole (e ▸ hc)
    simpa using hne
  have hlexes := h.lexes [] [] (.inl rfl) lexes_nil
  rw [List.append_nil, List.append_nil] at hlexes
  rw [tokens, hall]
  exact hlexes _ 0 (Nat.le_refl _)

/-! ## Words -/

/-- Whether characters are a word: they can stand inside a name, and the first can start one. -/
def IsWord (cs : List Char) : Prop :=
  ∃ c rest, cs = c :: rest ∧ isNameStart c = true ∧ c ≠ '\ufeff' ∧ ∀ d ∈ rest, isNameChar d = true

/-- A letter and characters of names behind it are a word. -/
theorem IsWord.of_all {c : Char} {rest : List Char} (hstart : isNameStart c = true)
    (hmark : c ≠ '\ufeff') (hrest : rest.all isNameChar = true) : IsWord (c :: rest) :=
  ⟨c, rest, rfl, hstart, hmark, List.all_eq_true.1 hrest⟩

theorem toNat_of_isDigit {c : Char} (h : c.isDigit = true) : 48 ≤ c.toNat ∧ c.toNat ≤ 57 := by
  simp only [Char.isDigit, Bool.and_eq_true, decide_eq_true_eq] at h
  exact ⟨UInt32.le_iff_toNat_le.1 h.1, UInt32.le_iff_toNat_le.1 h.2⟩

theorem isNameStart_of_isDigit {c : Char} (h : c.isDigit = true) : isNameStart c = false := by
  obtain ⟨hlow, hhigh⟩ := toNat_of_isDigit h
  have hupper : ¬ 'A'.val ≤ c.val := fun hle => by
    have : 65 ≤ c.toNat := UInt32.le_iff_toNat_le.1 hle
    omega
  have hlower : ¬ 'a'.val ≤ c.val := fun hle => by
    have : 97 ≤ c.toNat := UInt32.le_iff_toNat_le.1 hle
    omega
  have hline : (c == '_') = false := by
    rw [beq_eq_false_iff_ne]
    rintro rfl
    exact absurd h (by decide)
  have hletter : c.isAlpha = false := by
    delta Char.isAlpha Char.isUpper Char.isLower
    simp only [ge_iff_le, hupper, hlower, false_and,
      decide_false, Bool.false_and, Bool.or_false]
  have hhigher : ¬ 0x80 ≤ c.toNat := by omega
  rw [isNameStart, hletter, hline, decide_eq_false hhigher]
  rfl

theorem run_of_all {p : Char → Bool} {front rest : List Char} (hfront : ∀ c ∈ front, p c = true)
    (hrest : ∀ c ∈ rest.head?, p c = false) : run p (front ++ rest) = front.length := by
  rw [run, List.takeWhile_append_of_pos hfront]
  cases rest with
  | nil => simp
  | cons c more => simp [hrest c rfl]

/-- A break is a blank or a comma. -/
theorem AtBreak.head?_eq {rest : List Char} (h : AtBreak rest) {c : Char} (hc : c ∈ rest.head?) :
    c = ' ' ∨ c = ',' := by
  rcases h with rfl | ⟨more, rfl | rfl⟩
  · cases hc
  · exact .inl (Option.some.inj hc).symm
  · exact .inr (Option.some.inj hc).symm

theorem lexeme_word {cs rest : List Char} (h : IsWord cs) (hrest : AtBreak rest) :
    lexeme (cs ++ rest) = (.word (String.ofList cs), cs.length) := by
  obtain ⟨c, more, rfl, hstart, hmark, hmore⟩ := h
  have hne : ∀ d, isNameStart d = false → (c == d) = false := by
    intro d hd
    simp only [beq_eq_false_iff_ne, ne_eq]
    rintro rfl
    rw [hd] at hstart
    cases hstart
  have hdigit : c.isDigit = false := by
    cases hd : c.isDigit with
    | false => rfl
    | true => rw [isNameStart_of_isDigit hd] at hstart; cases hstart
  have hall : ∀ d ∈ c :: more, isNameChar d = true := by
    intro d hd
    rcases List.mem_cons.1 hd with rfl | hd
    · simp [isNameChar, hstart]
    · exact hmore d hd
  have hsize : run isNameChar (c :: more ++ rest) = (c :: more).length := by
    refine run_of_all hall fun d hd => ?_
    rcases hrest.head?_eq hd with rfl | rfl <;> rfl
  -- the first letter of a row of bytes is followed by a quote
  have hquote : ((more ++ rest).head? == some '\'') = false := by
    cases more with
    | nil => rcases hrest with rfl | ⟨_, rfl | rfl⟩ <;> rfl
    | cons d more =>
      have hd := hmore d (by simp)
      simp only [List.cons_append, List.head?_cons, beq_eq_false_iff_ne, ne_eq, Option.some.injEq]
      rintro rfl
      exact absurd hd (by decide)
  have hgap : isGap c = false := by
    have hmark' : (c == '\ufeff') = false := by simpa using hmark
    simp (disch := decide) only [isGap, hne, hmark', Bool.or_false]
  rw [List.cons_append] at hsize ⊢
  rw [lexeme]
  simp (disch := decide) only [hgap, hdigit, hquote, hstart, hne, hsize, Bool.false_and,
    Bool.or_false, Bool.false_eq_true, if_false, if_true]
  simp

/-- A word is one lexeme. -/
theorem fronts_word {cs : List Char} (h : IsWord cs) :
    Fronts cs [.word (String.ofList cs)] := by
  refine .of_lexeme (fun rest hrest => lexeme_word h hrest) ?_ (by simp) ?_
  · obtain ⟨c, more, rfl, -⟩ := h
    simp
  · obtain ⟨c, more, rfl, hstart, -, hmore⟩ := h
    intro hmem
    rcases List.mem_cons.1 hmem with rfl | hmem
    · exact absurd hstart (by decide)
    · exact absurd (hmore _ hmem) (by decide)

/-! ## Quoted names -/

open Dataset (doubled quoteIdentifier)

/-- A name whose quotes are doubled is read up to the quote that closes it. -/
theorem quotedBody?_doubled (cs : List Char) {rest : List Char} (hrest : rest.head? ≠ some '"') :
    quotedBody? '"' (doubled cs ++ '"' :: rest) = some (cs, (doubled cs).length + 1) := by
  induction cs with
  | nil =>
    cases rest with
    | nil => rfl
    | cons d more =>
      have hd : d ≠ '"' := by simpa using hrest
      simp [doubled, quotedBody?, hd]
  | cons c cs ih =>
    by_cases hc : c = '"'
    · subst hc
      have hdoubled : doubled ('"' :: cs) = '"' :: '"' :: doubled cs := rfl
      rw [hdoubled, List.cons_append, List.cons_append, quotedBody?, ih]
      simp
    · have hdoubled : doubled (c :: cs) = c :: doubled cs := by simp [doubled, hc]
      obtain ⟨d, more, hmore⟩ : ∃ d more, doubled cs ++ '"' :: rest = d :: more :=
        List.exists_cons_of_ne_nil (by simp)
      rw [hdoubled, List.cons_append, hmore, quotedBody?, ← hmore, ih]
      simp [hc]

/-- A quoted name is read to its end and no further, unless another quote follows. -/
theorem lexeme_quoteIdentifier (name : String) {rest : List Char}
    (hrest : rest.head? ≠ some '"') :
    lexeme ((quoteIdentifier name).toList ++ rest) =
      (.name name true, (quoteIdentifier name).toList.length) := by
  have hbody := quotedBody?_doubled name.toList hrest
  simp only [quoteIdentifier, String.toList_ofList, List.cons_append, List.append_assoc,
    List.nil_append]
  show quoted '"' (doubled name.toList ++ '"' :: rest) = _
  rw [quoted, hbody]
  simp

theorem mem_doubled {c : Char} {cs : List Char} : c ∈ doubled cs ↔ c ∈ cs := by
  rw [← List.count_pos_iff, ← List.count_pos_iff, Dataset.count_doubled]
  split <;> omega

/-- A quoted name is one lexeme. -/
theorem fronts_quoted {name : String} (hwhole : '\x00' ∉ name.toList) :
    Fronts (quoteIdentifier name).toList [.name name true] := by
  refine .of_lexeme (fun rest hrest => lexeme_quoteIdentifier name fun hquote => ?_) ?_ (by simp) ?_
  · rcases hrest.head?_eq hquote with h | h <;> exact absurd h (by decide)
  · simp [quoteIdentifier]
  · simp [quoteIdentifier, mem_doubled, hwhole]

/-! ## Signs and places for parameters -/

/-- The signs that can stand alone between two breaks here. -/
def plainSigns : List String := ["=", "<>", "<", "<=", ">", ">=", "*"]

/-- A sign of a question is one lexeme. -/
theorem fronts_sign {s : String} (h : s ∈ plainSigns) : Fronts s.toList [.sign s] := by
  simp only [plainSigns, List.mem_cons, List.not_mem_nil, or_false] at h
  rcases h with rfl | rfl | rfl | rfl | rfl | rfl | rfl <;>
    refine .of_lexeme (fun rest hrest => ?_) (by decide) (by simp) (by decide) <;>
    rcases hrest with rfl | ⟨more, rfl | rfl⟩ <;> rfl

theorem fronts_parameter : Fronts ['?'] [.parameter "?"] := by
  refine .of_lexeme (fun rest hrest => ?_) (by simp) (by simp) (by simp)
  rcases hrest with rfl | ⟨more, rfl | rfl⟩ <;> rfl

/-! ## Whole numbers -/

theorem numberSize_digits {cs rest : List Char} (h : ∀ c ∈ cs, c.isDigit = true)
    (hrest : AtBreak rest) : numberSize (cs ++ rest) = cs.length := by
  have hwhole : run isDigitOrSeparator (cs ++ rest) = cs.length := by
    refine run_of_all (fun c hc => by simp [isDigitOrSeparator, h c hc]) fun c hc => ?_
    rcases hrest.head?_eq hc with rfl | rfl <;> rfl
  have hafter : (cs ++ rest).drop cs.length = rest := List.drop_left
  have hhex : ∀ x d more, cs ++ rest = '0' :: x :: d :: more → (x == 'x' || x == 'X') = false := by
    intro x d more heq
    have hx : x.isDigit = true ∨ x = ' ' ∨ x = ',' := by
      rcases cs with _ | ⟨a, _ | ⟨b, cs⟩⟩
      · rcases hrest with rfl | ⟨_, rfl | rfl⟩ <;> simp at heq
      · obtain ⟨-, rfl⟩ : a = '0' ∧ rest = x :: d :: more := by simpa using heq
        exact .inr (hrest.head?_eq rfl)
      · obtain ⟨-, rfl, -⟩ : a = '0' ∧ b = x ∧ _ := by simpa using heq
        exact .inl (h b (by simp))
    rcases hx with hx | rfl | rfl
    · rw [Bool.or_eq_false_iff, beq_eq_false_iff_ne, beq_eq_false_iff_ne]
      constructor <;> rintro rfl <;> exact absurd hx (by decide)
    · rfl
    · rfl
  simp only [numberSize, hwhole]
  rw [if_neg]
  · rcases hrest with rfl | ⟨more, rfl | rfl⟩ <;> simp [hafter]
  · split
    · rename_i x d more heq
      simp [hhex x d more heq]
    · simp

theorem separatorsFit_digits {cs : List Char} (h : ∀ c ∈ cs, c.isDigit = true) :
    separatorsFit cs = true := by
  fun_induction separatorsFit cs with
  | case1 a b rest ih => exact absurd (h '_' (by simp)) (by decide)
  | case2 => exact absurd (h '_' (by simp)) (by decide)
  | case3 => exact absurd (h '_' (by simp)) (by decide)
  | case4 c rest _ _ _ ih => exact ih fun d hd => h d (List.mem_cons_of_mem _ hd)
  | case5 => rfl

theorem number_digits {cs rest : List Char} (h : ∀ c ∈ cs, c.isDigit = true)
    (hrest : AtBreak rest) : number (cs ++ rest) = (.number (String.ofList cs), cs.length) := by
  have hmore : run isNameChar rest = 0 := by
    rcases hrest with rfl | ⟨more, rfl | rfl⟩ <;> rfl
  have hfilter : cs.filter (· != '_') = cs := by
    rw [List.filter_eq_self]
    intro c hc
    have hline : c ≠ '_' := by
      rintro rfl
      exact absurd (h _ hc) (by decide)
    simpa using hline
  simp [number, numberSize_digits h hrest, hmore, separatorsFit_digits h, hfilter]

/-- Digits are one number. -/
theorem fronts_number {cs : List Char} (hne : cs ≠ []) (h : ∀ c ∈ cs, c.isDigit = true) :
    Fronts cs [.number (String.ofList cs)] := by
  refine .of_lexeme (fun rest hrest => ?_) hne (by simp) ?_
  · obtain ⟨c, more, rfl⟩ := List.exists_cons_of_ne_nil hne
    have hc := h c (by simp)
    have hnot : ∀ d, d.isDigit = false → (c == d) = false := by
      intro d hd
      rw [beq_eq_false_iff_ne]
      rintro rfl
      rw [hd] at hc
      cases hc
    rw [← number_digits h hrest, List.cons_append, lexeme]
    simp (disch := decide) only [isGap, hnot, hc, Bool.false_and, Bool.or_false,
      Bool.false_eq_true, if_false, if_true]
  · intro hmem
    exact absurd (h _ hmem) (by decide)

end QueryPipe.Sql
