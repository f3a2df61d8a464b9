import QueryPipe.Proofs.Wire.Tree

/-!
# Brackets of a document that breaks off

Of the lexemes of a document only brackets open and close something. What stands in front of a
break has the brackets that it has in the whole document, whether the break is between two
lexemes or inside a text, a number, a word or a character: a lexeme that is cut is no bracket.

* `turns_cut`: the brackets in front of a break.
* `Stays`, `Node.neutral_lexemes`: a value closes what it opens and nothing else.
-/

namespace QueryPipe.Wire

open Text (Glyph)

/-! ## Brackets -/

/-- What a bracket does. -/
inductive Turn
  /-- It opens a list or an object. -/
  | opening
  /-- It closes one. -/
  | closing

/-- What a lexeme does, if it is a bracket. -/
def Lexeme.turn? : Lexeme → Option Turn
  | .openList | .openObject => some .opening
  | .closeList | .closeObject => some .closing
  | _ => none

/-- The brackets among lexemes. -/
def turnsOf (ls : List Lexeme) : List Turn := ls.filterMap Lexeme.turn?

/-- The brackets of a document. -/
def turns (gs : List Glyph) : List Turn := turnsOf (lexemes gs)

@[simp] theorem turnsOf_nil : turnsOf [] = [] := rfl

@[simp] theorem turnsOf_append (ls ms : List Lexeme) :
    turnsOf (ls ++ ms) = turnsOf ls ++ turnsOf ms :=
  List.filterMap_append

theorem turnsOf_cons (l : Lexeme) (ls : List Lexeme) :
    turnsOf (l :: ls) = l.turn?.toList ++ turnsOf ls := by
  cases h : l.turn? <;> simp [turnsOf, h]

theorem turnsOf_prefix {l : Lexeme} {ls ms : List Lexeme} (h : turnsOf ls <+: turnsOf ms) :
    turnsOf (l :: ls) <+: turnsOf (l :: ms) := by
  rw [turnsOf_cons, turnsOf_cons]
  exact (List.prefix_append_right_inj _).2 h

/-! ## What passing over takes -/

/-- Glyphs that are no characters. -/
def Strays (gs : List Glyph) : Prop := ∀ g ∈ gs, g.char? = none

theorem strays_cases {gs : List Glyph} (h : Strays gs) :
    gs = [] ∨ ∃ b rest, gs = .stray b :: rest := by
  match gs with
  | [] => exact .inl rfl
  | .stray b :: rest => exact .inr ⟨b, rest, rfl⟩
  | .char c :: rest => exact absurd (h _ List.mem_cons_self) (by simp [Glyph.char?])

/-- A way to pass over glyphs that looks no further than the character it ends with. -/
def TakesFront (skip : List Glyph → Except Problem (List Glyph)) : Prop :=
  ∀ gs rest, skip gs = .ok rest →
    ∃ front c, gs = front ++ .char c :: rest ∧ ∀ hs, skip (front ++ .char c :: hs) = .ok hs

section TakesFront

variable {skip : List Glyph → Except Problem (List Glyph)} {gs hs rest : List Glyph}

/-- What takes a front takes it whatever follows. -/
theorem TakesFront.append (h : TakesFront skip) (hgs : skip gs = .ok rest) (hs : List Glyph) :
    skip (gs ++ hs) = .ok (rest ++ hs) := by
  obtain ⟨front, c, rfl, htakes⟩ := h gs rest hgs
  rw [List.append_assoc, List.cons_append, htakes]

/-- What cannot be passed over cannot be passed over with strays behind it either. -/
theorem TakesFront.strays (h : TakesFront skip) {p : Problem} (hgs : skip gs = .error p)
    (hst : Strays hs) : ∃ p', skip (gs ++ hs) = .error p' := by
  cases hx : skip (gs ++ hs) with
  | error p' => exact ⟨p', rfl⟩
  | ok rest =>
    exfalso
    obtain ⟨front, c, heq, htakes⟩ := h _ _ hx
    rcases List.append_eq_append_iff.1 heq with ⟨missing, rfl, hhs⟩ | ⟨more, rfl, hmore⟩
    · -- The last character would stand among the strays.
      have hmem : Glyph.char c ∈ hs := by
        rw [hhs]
        simp
      exact absurd (hst _ hmem) (by simp [Glyph.char?])
    · cases more with
      | nil =>
        have hmem : Glyph.char c ∈ hs := by
          rw [← List.nil_append hs, ← hmore]
          simp
        exact absurd (hst _ hmem) (by simp [Glyph.char?])
      | cons g more =>
        obtain ⟨rfl, -⟩ := List.cons.inj hmore
        rw [htakes] at hgs
        cases hgs

end TakesFront

theorem takesFront_readHex : TakesFront fun gs => (readHex gs).map (·.2) := by
  intro gs rest h
  match gs with
  | a :: b :: c :: .char d :: more =>
    refine ⟨[a, b, c], d, ?_, ?_⟩
    · simp only [readHex] at h
      split at h
      · cases h
        rfl
      · cases h
    · intro hs
      simp only [readHex, List.cons_append, List.nil_append] at h ⊢
      split at h
      · rfl
      · cases h
  | a :: b :: c :: .stray d :: more =>
    simp only [readHex, hexDigit?] at h
    split at h
    · rename_i hd
      cases hd
    · cases h
  | [] | [_] | [_, _] | [_, _, _] =>
    simp only [readHex] at h
    split at h <;> cases h

theorem takesFront_skipEscape : TakesFront skipEscape := by
  intro gs rest h
  match gs with
  | [] => cases h
  | .stray b :: more => cases h
  | .char c :: more =>
    by_cases hu : c = 'u'
    · subst hu
      obtain ⟨front, d, rfl, htakes⟩ := takesFront_readHex more rest h
      exact ⟨.char 'u' :: front, d, rfl, htakes⟩
    · have hne : (c == 'u') = false := by simpa using hu
      simp only [skipEscape, hne, Bool.false_eq_true, if_false] at h
      split at h
      · rename_i he
        cases h
        exact ⟨[], c, rfl, fun hs => by simp [skipEscape, hu, he]⟩
      · cases h

theorem takesFront_skipText : TakesFront skipText := by
  intro gs rest h
  fun_induction skipText gs with
  | case1 => cases h
  | case2 b more ih =>
    obtain ⟨front, c, rfl, htakes⟩ := ih h
    exact ⟨.stray b :: front, c, rfl, fun hs => by rw [List.cons_append, skipText, htakes]⟩
  | case3 c more hc =>
    cases h
    exact ⟨[], c, rfl, fun hs => by rw [List.nil_append, skipText, if_pos hc]⟩
  | case4 => cases h
  | case5 c more hq hb others hx _ ih =>
    obtain rfl : c = '\\' := by simpa using hb
    obtain ⟨taken, e, rfl, hescape⟩ := takesFront_skipEscape more others hx
    obtain ⟨front, d, rfl, htakes⟩ := ih h
    refine ⟨.char '\\' :: (taken ++ .char e :: front), d, by simp, fun hs => ?_⟩
    have hsplit : (taken ++ .char e :: front) ++ .char d :: hs =
        taken ++ .char e :: (front ++ .char d :: hs) := by simp
    rw [List.cons_append, hsplit, skipText_escape (hescape _), htakes]
  | case6 => cases h
  | case7 c more hq hb hc ih =>
    obtain ⟨front, d, rfl, htakes⟩ := ih h
    refine ⟨.char c :: front, d, rfl, fun hs => ?_⟩
    rw [List.cons_append,
      skipText_plain (by simpa using hq) (by simpa using hb) (by simpa using hc), htakes]

/-- A word that is read stands there. -/
theorem eq_map_char_of_readWord {word : List Char} {gs rest : List Glyph}
    (h : readWord word gs = .ok rest) : gs = word.map .char ++ rest := by
  induction word generalizing gs with
  | nil =>
    cases h
    rfl
  | cons c word ih =>
    match gs with
    | [] => cases h
    | .stray b :: more => cases h
    | .char d :: more =>
      by_cases hd : d = c
      · subst hd
        simp only [readWord, Glyph.isChar, BEq.rfl, if_true] at h
        rw [ih h]
        rfl
      · simp [readWord, Glyph.isChar, hd] at h

theorem takesFront_readWord {word : List Char} (hne : word ≠ []) : TakesFront (readWord word) := by
  intro gs rest h
  obtain ⟨front, c, rfl⟩ := (List.eq_nil_or_concat word).resolve_left hne
  have hword : ∀ hs : List Glyph,
      (front.concat c).map .char ++ hs = front.map .char ++ .char c :: hs := by simp
  refine ⟨front.map .char, c, ?_, fun hs => ?_⟩
  · rw [eq_map_char_of_readWord h, hword]
  · rw [← hword, readWord_map_char]

/-! ## Numbers -/

/-- Whether what passing over a number gives stays so with more glyphs behind: because they are
strays, or because it ended before them. -/
def Settled (outcome : Except Problem (List Glyph)) (hs : List Glyph) : Prop :=
  Strays hs ∨ ∃ g rest, outcome = .ok (g :: rest)

theorem skipDigits_settled {gs hs : List Glyph} (h : Settled (.ok (skipDigits gs)) hs) :
    skipDigits (gs ++ hs) = skipDigits gs ++ hs := by
  rw [skipDigits, List.dropWhile_append]
  split
  · rename_i hempty
    rw [List.isEmpty_iff] at hempty
    rcases h with hst | ⟨g, rest, hg⟩
    · rw [skipDigits, hempty]
      rcases strays_cases hst with rfl | ⟨b, more, rfl⟩ <;> rfl
    · rw [skipDigits, hempty] at hg
      cases hg
  · rfl

theorem skipSomeDigits_settled {gs hs : List Glyph} (h : Settled (skipSomeDigits gs) hs) :
    skipSomeDigits (gs ++ hs) = (skipSomeDigits gs).map (· ++ hs) := by
  cases gs with
  | nil =>
    rcases h with hst | ⟨g, rest, hg⟩
    · rcases strays_cases hst with rfl | ⟨b, more, rfl⟩ <;> rfl
    · cases hg
  | cons g more =>
    by_cases hg : (digitOf? g).isSome = true
    · simp only [skipSomeDigits, List.cons_append, if_pos hg] at h ⊢
      rw [skipDigits_settled h]
      rfl
    · simp only [skipSomeDigits, List.cons_append, if_neg hg]
      rfl

theorem skipScale_settled {gs hs : List Glyph} (h : Settled (skipScale gs) hs) :
    skipScale (gs ++ hs) = (skipScale gs).map (· ++ hs) := by
  cases gs with
  | nil =>
    rcases h with hst | ⟨g, rest, hg⟩
    · rcases strays_cases hst with rfl | ⟨b, more, rfl⟩ <;> rfl
    · cases hg
  | cons g more =>
    by_cases hg : (g.isChar 'e' || g.isChar 'E') = true
    · cases more with
      | nil =>
        rcases h with hst | ⟨d, rest, hd⟩
        · rcases strays_cases hst with rfl | ⟨b, others, rfl⟩
          · simp only [List.append_nil, skipScale, if_pos hg]
            rfl
          · simp only [List.cons_append, List.nil_append, skipScale, if_pos hg]
            rfl
        · simp only [skipScale, if_pos hg] at hd
          cases hd
      | cons d others =>
        by_cases hd : (d.isChar '+' || d.isChar '-') = true
        · simp only [skipScale, List.cons_append, if_pos hg, if_pos hd] at h ⊢
          exact skipSomeDigits_settled h
        · simp only [skipScale, List.cons_append, if_pos hg, if_neg hd] at h ⊢
          rw [← List.cons_append]
          exact skipSomeDigits_settled h
    · simp only [skipScale, List.cons_append, if_neg hg]
      rfl

theorem skipTail_settled {gs hs : List Glyph} (h : Settled (skipTail gs) hs) :
    skipTail (gs ++ hs) = (skipTail gs).map (· ++ hs) := by
  cases gs with
  | nil =>
    rcases h with hst | ⟨g, rest, hg⟩
    · rcases strays_cases hst with rfl | ⟨b, more, rfl⟩ <;> rfl
    · cases hg
  | cons g more =>
    by_cases hg : g.isChar '.' = true
    · simp only [skipTail, List.cons_append, if_pos hg] at h ⊢
      have hdigits : Settled (skipSomeDigits more) hs := by
        refine h.imp_right ?_
        rintro ⟨d, rest, hd⟩
        cases hx : skipSomeDigits more with
        | error p => simp [hx] at hd
        | ok others =>
          simp only [hx] at hd
          cases others with
          | nil => cases hd
          | cons o others => exact ⟨o, others, rfl⟩
      rw [skipSomeDigits_settled hdigits]
      cases hx : skipSomeDigits more with
      | error p => rfl
      | ok others =>
        simp only [hx, Except.map] at h ⊢
        exact skipScale_settled h
    · simp only [skipTail, List.cons_append, if_neg hg] at h ⊢
      exact skipScale_settled h

theorem skipUnsigned_settled {gs hs : List Glyph} (h : Settled (skipUnsigned gs) hs) :
    skipUnsigned (gs ++ hs) = (skipUnsigned gs).map (· ++ hs) := by
  cases gs with
  | nil =>
    rcases h with hst | ⟨g, rest, hg⟩
    · rcases strays_cases hst with rfl | ⟨b, more, rfl⟩ <;> rfl
    · cases hg
  | cons g more =>
    cases hg : digitOf? g with
    | none =>
      simp only [skipUnsigned, List.cons_append, hg]
      rfl
    | some n =>
      cases n with
      | zero =>
        simp only [skipUnsigned, List.cons_append, hg] at h ⊢
        cases more with
        | nil =>
          -- The zero stands at the end, so that only strays can be behind it.
          rcases h with hst | ⟨d, rest, hd⟩
          · rcases strays_cases hst with rfl | ⟨b, others, rfl⟩ <;> rfl
          · cases hd
        | cons d others =>
          simp only [List.cons_append, List.head?_cons, Option.bind_some] at h ⊢
          cases hd : digitOf? d with
          | some n => rfl
          | none =>
            simp only [hd] at h
            exact skipTail_settled h
      | succ n =>
        simp only [skipUnsigned, List.cons_append, hg] at h ⊢
        have hdigits : Settled (.ok (skipDigits more)) hs := by
          refine h.imp_right ?_
          rintro ⟨d, rest, hd⟩
          cases hx : skipDigits more with
          | nil =>
            rw [hx] at hd
            cases hd
          | cons o others => exact ⟨o, others, rfl⟩
        rw [skipDigits_settled hdigits]
        exact skipTail_settled h

/-- A number that has settled is passed over alike whatever follows. -/
theorem skipNumber_settled {gs hs : List Glyph} (h : Settled (skipNumber gs) hs) (hne : gs ≠ []) :
    skipNumber (gs ++ hs) = (skipNumber gs).map (· ++ hs) := by
  cases gs with
  | nil => exact absurd rfl hne
  | cons g more =>
    by_cases hg : g.isChar '-' = true
    · simp only [skipNumber, List.cons_append, if_pos hg] at h ⊢
      exact skipUnsigned_settled h
    · simp only [skipNumber, List.cons_append, if_neg hg] at h ⊢
      exact skipUnsigned_settled h

/-! ## One lexeme after the other -/

/-- Stray bytes make no turn. -/
theorem turns_of_strays {gs : List Glyph} (h : Strays gs) : turns gs = [] := by
  rcases strays_cases h with rfl | ⟨b, rest, rfl⟩
  · rw [turns, lexemes_nil, turnsOf_nil]
  · rw [turns, lexemes]
    rfl

theorem turns_blank {c : Char} (h : isSpace (.char c) = true) (gs : List Glyph) :
    turns (.char c :: gs) = turns gs := by
  rw [turns, lexemes_blank h, turns]

/-- The brackets of what a way to pass over leaves, if it leaves anything. -/
def turnsAfter : Except Problem (List Glyph) → List Turn
  | .error _ => []
  | .ok rest => turns rest

theorem turns_text (gs : List Glyph) : turns (.char '"' :: gs) = turnsAfter (skipText gs) := by
  rw [turns, lexemes, if_neg (by decide), if_pos (by decide)]
  split <;> rename_i hx <;> exact (congrArg turnsAfter hx).symm

theorem turns_number {c : Char} (hs : isSpace (.char c) = false) (hq : c ≠ '"')
    (hc : (c == '-' || c.isDigit) = true) (gs : List Glyph) :
    turns (.char c :: gs) = turnsAfter (skipNumber (.char c :: gs)) := by
  rw [turns, lexemes, if_neg (by simp [hs]), if_neg (by simpa using hq), if_pos hc]
  split <;> rename_i hx <;> exact (congrArg turnsAfter hx).symm

theorem turn?_of_word? {c : Char} {l : Lexeme} {word : List Char} (h : word? c = some (l, word)) :
    l.turn? = none ∧ word ≠ [] := by
  unfold word? at h
  split at h
  · cases h
    exact ⟨rfl, by simp⟩
  · split at h
    · cases h
      exact ⟨rfl, by simp⟩
    · split at h
      · cases h
        exact ⟨rfl, by simp⟩
      · cases h

theorem turns_word {c : Char} {l : Lexeme} {word : List Char} (hw : word? c = some (l, word))
    (hs : isSpace (.char c) = false) (hq : c ≠ '"') (hc : (c == '-' || c.isDigit) = false)
    (hsingle : single? c = none) (gs : List Glyph) :
    turns (.char c :: gs) = turnsAfter (readWord word gs) := by
  rw [turns, lexemes, if_neg (by simp [hs]), if_neg (by simpa using hq), if_neg (by simp [hc])]
  simp only [hsingle, hw]
  split <;> rename_i hx
  · exact (congrArg turnsAfter hx).symm
  · rw [turnsOf_cons, (turn?_of_word? hw).1]
    exact (congrArg turnsAfter hx).symm

theorem turns_other {c : Char} (hw : word? c = none) (hs : isSpace (.char c) = false)
    (hq : c ≠ '"') (hc : (c == '-' || c.isDigit) = false) (hsingle : single? c = none)
    (gs : List Glyph) : turns (.char c :: gs) = [] := by
  rw [turns, lexemes, if_neg (by simp [hs]), if_neg (by simpa using hq), if_neg (by simp [hc])]
  simp only [hsingle, hw]
  rfl

/-! ## The brackets in front of a break -/

/-- Behind the front of a document that was passed over, or that could not be. -/
theorem TakesFront.turnsAfter_cut {skip : List Glyph → Except Problem (List Glyph)}
    (h : TakesFront skip) {front strays : List Glyph} (hst : Strays strays) (hs : List Glyph)
    (ih : ∀ rest, skip front = .ok rest → turns (rest ++ strays) <+: turns (rest ++ hs)) :
    turnsAfter (skip (front ++ strays)) <+: turnsAfter (skip (front ++ hs)) := by
  cases hx : skip front with
  | error p =>
    obtain ⟨p', hp'⟩ := h.strays hx hst
    rw [hp']
    exact List.nil_prefix
  | ok rest =>
    rw [h.append hx, h.append hx]
    exact ih rest hx

theorem turnsAfter_skipNumber_cut {front strays : List Glyph} (hne : front ≠ [])
    (hst : Strays strays) (hs : List Glyph)
    (ih : ∀ rest, skipNumber front = .ok rest → turns (rest ++ strays) <+: turns (rest ++ hs)) :
    turnsAfter (skipNumber (front ++ strays)) <+: turnsAfter (skipNumber (front ++ hs)) := by
  rw [skipNumber_settled (.inl hst) hne]
  cases hx : skipNumber front with
  | error p => exact List.nil_prefix
  | ok rest =>
    cases rest with
    | nil =>
      -- The number may go on behind the break, but nothing in front of it is left.
      rw [Except.map, List.nil_append, turnsAfter, turns_of_strays hst]
      exact List.nil_prefix
    | cons g rest =>
      rw [skipNumber_settled (.inr ⟨g, rest, hx⟩) hne, hx]
      exact ih _ hx

/-- A document that breaks off has no brackets but those in front of the break, whatever the break
leaves of the character in which it is. -/
theorem turns_cut (front : List Glyph) {strays : List Glyph} (hst : Strays strays)
    (hs : List Glyph) : turns (front ++ strays) <+: turns (front ++ hs) := by
  induction hn : front.length using Nat.strongRecOn generalizing front with
  | ind n ih =>
    subst hn
    match front with
    | [] =>
      rw [List.nil_append, turns_of_strays hst]
      exact List.nil_prefix
    | .stray b :: rest =>
      rw [List.cons_append, turns, lexemes]
      exact List.nil_prefix
    | .char c :: rest =>
      have hshorter : ∀ more : List Glyph, more.length ≤ rest.length →
          turns (more ++ strays) <+: turns (more ++ hs) := fun more hle =>
        ih _ (Nat.lt_succ_of_le hle) more rfl
      rw [List.cons_append, List.cons_append]
      by_cases hspace : isSpace (.char c) = true
      · rw [turns_blank hspace, turns_blank hspace]
        exact hshorter rest (Nat.le_refl _)
      rw [Bool.not_eq_true] at hspace
      by_cases hq : c = '"'
      · subst hq
        rw [turns_text, turns_text]
        exact takesFront_skipText.turnsAfter_cut hst hs fun more hmore =>
          hshorter more (Nat.le_of_lt (length_of_skipText hmore))
      cases hc : c == '-' || c.isDigit with
      | true =>
        rw [turns_number hspace hq hc, turns_number hspace hq hc, ← List.cons_append,
          ← List.cons_append]
        exact turnsAfter_skipNumber_cut (by simp) hst hs fun more hmore =>
          hshorter more (Nat.le_of_lt_succ (length_of_skipNumber hmore))
      | false =>
        cases hsingle : single? c with
        | some l =>
          rw [turns, turns, lexemes_single hsingle, lexemes_single hsingle]
          exact turnsOf_prefix (hshorter rest (Nat.le_refl _))
        | none =>
          cases hw : word? c with
          | none =>
            rw [turns_other hw hspace hq hc hsingle]
            exact List.nil_prefix
          | some w =>
            obtain ⟨l, word⟩ := w
            rw [turns_word hw hspace hq hc hsingle, turns_word hw hspace hq hc hsingle]
            have hfront := takesFront_readWord (turn?_of_word? hw).2
            exact hfront.turnsAfter_cut hst hs fun more hmore =>
              hshorter more (length_of_readWord hmore)

end QueryPipe.Wire
