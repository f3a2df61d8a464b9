import Mathlib.Tactic.IntervalCases
import QueryPipe.Proofs.Wire.Grammar

/-!
# Cutting every spelling of a document into lexemes

Whatever spelling of a document is chosen, it is cut into the lexemes of one tree. A text of the
tree is readable where its units are those of characters, however these are spelt, and a number
has its value where it is spelt as the writer spells it; nothing else depends on the spelling.

* `readText_textChars`: a text is read as its characters, whichever escapes spell them.
* `skipNumber_numberChars`: every number of the grammar is passed over.
* `Json.Tree`, `Json.Written.tells`: the tree of a document, and its lexemes.
-/

namespace QueryPipe.Wire

open Text (Glyph)

/-! ## Characters and their units -/

/-- A character is one unit, which is no half of a pair, or two, which are the halves of one. -/
theorem units_cases (c : Char) :
    (units c = [c.toNat] ∧ isTrailing c.toNat = false ∧ isLeading c.toNat = false) ∨
      ∃ first second, units c = [first, second] ∧ isTrailing first = false ∧
        isLeading first = true ∧ isTrailing second = true ∧ pairChar first second = c := by
  have hvalid : c.toNat < 0xD800 ∨ 0xDFFF < c.toNat ∧ c.toNat < 0x110000 := c.valid
  by_cases h : c.toNat < 0x10000
  · left
    refine ⟨if_pos h, ?_, ?_⟩
    · simp only [isTrailing, Bool.and_eq_false_iff, decide_eq_false_iff_not]
      omega
    · simp only [isLeading, Bool.and_eq_false_iff, decide_eq_false_iff_not]
      omega
  · right
    refine ⟨_, _, if_neg h, ?_, ?_, ?_, ?_⟩
    · simp only [isTrailing, Bool.and_eq_false_iff, decide_eq_false_iff_not]
      omega
    · simp only [isLeading, Bool.and_eq_true, decide_eq_true_eq]
      omega
    · simp only [isTrailing, Bool.and_eq_true, decide_eq_true_eq]
      omega
    · have hsum : (0xD800 + (c.toNat - 0x10000) / 0x400 - 0xD800) * 0x400 +
          (0xDC00 + (c.toNat - 0x10000) % 0x400 - 0xDC00) + 0x10000 = c.toNat := by omega
      rw [pairChar, hsum, Char.ofNat_toNat]

theorem units_ne_nil (c : Char) : units c ≠ [] := by
  rcases units_cases c with ⟨h, -⟩ | ⟨_, _, h, -⟩ <;> simp [h]

/-- The first unit of a character is no second half. -/
theorem isTrailing_of_units {c : Char} {first : Nat} {rest us : List Nat}
    (h : units c ++ us = first :: rest) : isTrailing first = false := by
  rcases units_cases c with ⟨hc, ht, -⟩ | ⟨a, b, hc, ht, -⟩
  · rw [hc] at h
    cases h
    exact ht
  · rw [hc] at h
    cases h
    exact ht

/-- The units of a character are told from what follows them. -/
theorem units_append_inj {c d : Char} {us vs : List Nat} (h : units c ++ us = units d ++ vs) :
    c = d ∧ us = vs := by
  rcases units_cases c with ⟨hc, -, hl⟩ | ⟨a, b, hc, -, hl, -, hpair⟩ <;>
    rcases units_cases d with ⟨hd, -, hl'⟩ | ⟨a', b', hd, -, hl', -, hpair'⟩ <;>
    rw [hc, hd] at h
  · simp only [List.singleton_append, List.cons.injEq] at h
    exact ⟨Char.toNat_inj.1 h.1, h.2⟩
  · simp only [List.cons_append, List.cons.injEq] at h
    rw [h.1, hl'] at hl
    cases hl
  · simp only [List.cons_append, List.cons.injEq] at h
    rw [← h.1, hl] at hl'
    cases hl'
  · simp only [List.cons_append, List.nil_append, List.cons.injEq] at h
    obtain ⟨rfl, rfl, hrest⟩ := h
    exact ⟨hpair.symm.trans hpair', hrest⟩

/-- Texts with the same units are the same. -/
theorem flatMap_units_inj {cs ds : List Char} (h : cs.flatMap units = ds.flatMap units) :
    cs = ds := by
  induction cs generalizing ds with
  | nil =>
    cases ds with
    | nil => rfl
    | cons d ds =>
      rw [List.flatMap_nil, List.flatMap_cons] at h
      exact absurd (List.append_eq_nil_iff.1 h.symm).1 (units_ne_nil d)
  | cons c cs ih =>
    cases ds with
    | nil =>
      rw [List.flatMap_nil, List.flatMap_cons] at h
      exact absurd (List.append_eq_nil_iff.1 h).1 (units_ne_nil c)
    | cons d ds =>
      rw [List.flatMap_cons, List.flatMap_cons] at h
      obtain ⟨rfl, hrest⟩ := units_append_inj h
      rw [ih hrest]

/-- A text is known by its units. -/
theorem textUnits_inj {s t : String} : textUnits s = textUnits t ↔ s = t :=
  ⟨fun h => String.toList_inj.1 (flatMap_units_inj h), fun h => h ▸ rfl⟩

/-! ## Texts -/

theorem hexDigit?_of_toLower {c : Char} {k : Nat} (hk : k < 16)
    (h : c.toLower = Char.ofNat (if k < 10 then 0x30 + k else 0x57 + k)) :
    hexDigit? (.char c) = some k := by
  delta Char.toLower at h
  split at h
  · rename_i hu
    have hrange : 65 ≤ c.toNat ∧ c.toNat ≤ 90 := by
      simpa [UInt32.le_iff_toNat_le] using hu
    have hnat := congrArg Char.toNat h
    have hleft : (c.val + ('a'.val - 'A'.val)).toNat = c.toNat + 32 := by
      have hval : c.val.toNat = c.toNat := rfl
      rw [UInt32.toNat_add, hval]
      exact Nat.mod_eq_of_lt (by simp; omega)
    have hright : (Char.ofNat (if k < 10 then 0x30 + k else 0x57 + k)).toNat =
        if k < 10 then 0x30 + k else 0x57 + k := by
      interval_cases k <;> rfl
    have hc : c.toNat = 0x37 + k ∧ 10 ≤ k := by
      rw [hright] at hnat
      have hsum : c.toNat + 32 = if k < 10 then 0x30 + k else 0x57 + k := hleft.symm.trans hnat
      split at hsum <;> omega
    simp only [hexDigit?, hc.1]
    rw [if_neg (by simp; omega), if_pos (by simp; omega), Nat.add_sub_cancel_left]
  · rw [h]
    exact hexDigit?_ofNat hk

/-- Four digits are read alike in either case. -/
theorem readHex_of_toLower {n : Nat} (hn : n < 0x10000) {ds : List Char}
    (hds : ds.map Char.toLower = fourHex n) (rest : List Glyph) :
    readHex (ds.map .char ++ rest) = .ok (n, rest) := by
  match ds with
  | [a, b, c, d] =>
    simp only [fourHex, List.map_cons, List.map_nil, List.cons.injEq, and_true] at hds
    obtain ⟨ha, hb, hc, hd⟩ := hds
    have hsum : ((n / 4096 % 16 * 16 + n / 256 % 16) * 16 + n / 16 % 16) * 16 + n % 16 = n := by
      omega
    simp only [List.map_cons, List.map_nil, List.cons_append, List.nil_append, readHex,
      hexDigit?_of_toLower (Nat.mod_lt _ (by omega)) ha,
      hexDigit?_of_toLower (Nat.mod_lt _ (by omega)) hb,
      hexDigit?_of_toLower (Nat.mod_lt _ (by omega)) hc,
      hexDigit?_of_toLower (Nat.mod_lt _ (by omega)) hd, hsum]
  | [] | [_] | [_, _] | [_, _, _] | _ :: _ :: _ :: _ :: _ :: _ => simp [fourHex] at hds

/-- A short escape stands for one character. -/
theorem shortEscape?_of_mem {e c : Char} (h : (e, c) ∈ shortEscapes) :
    e ≠ 'u' ∧ shortEscape? e = some c := by
  simp only [shortEscapes, List.mem_cons, Prod.mk.injEq, List.not_mem_nil, or_false] at h
  rcases h with ⟨rfl, rfl⟩ | ⟨rfl, rfl⟩ | ⟨rfl, rfl⟩ | ⟨rfl, rfl⟩ | ⟨rfl, rfl⟩ | ⟨rfl, rfl⟩ |
    ⟨rfl, rfl⟩ | ⟨rfl, rfl⟩ <;> exact ⟨by decide, rfl⟩

theorem readEscape_short {e c : Char} (h : (e, c) ∈ shortEscapes) (rest : List Glyph) :
    readEscape (.char e :: rest) = .ok (c, rest) := by
  obtain ⟨hu, hshort⟩ := shortEscape?_of_mem h
  simp [readEscape, hu, hshort]

theorem skipEscape_short {e c : Char} (h : (e, c) ∈ shortEscapes) (rest : List Glyph) :
    skipEscape (.char e :: rest) = .ok rest := by
  obtain ⟨hu, hshort⟩ := shortEscape?_of_mem h
  simp [skipEscape, hu, hshort]

theorem skipEscape_hex {n : Nat} (hn : n < 0x10000) {ds : List Char}
    (hds : ds.map Char.toLower = fourHex n) (rest : List Glyph) :
    skipEscape (.char 'u' :: (ds.map .char ++ rest)) = .ok rest := by
  simp [skipEscape, readHex_of_toLower hn hds, Except.map]

/-- A unit that is no half of a pair is a character of its own. -/
theorem readEscape_hex {n : Nat} (hn : n < 0x10000) {ds : List Char}
    (hds : ds.map Char.toLower = fourHex n) (ht : isTrailing n = false)
    (hl : isLeading n = false) (rest : List Glyph) :
    readEscape (.char 'u' :: (ds.map .char ++ rest)) = .ok (Char.ofNat n, rest) := by
  simp [readEscape, readCodePoint, readHex_of_toLower hn hds, ht, hl]

/-- Two units that are the halves of a pair are one character. -/
theorem readEscape_pair {n m : Nat} (hn : n < 0x10000) {ds es : List Char}
    (hds : ds.map Char.toLower = fourHex n) (ht : isTrailing n = false) (hl : isLeading n = true)
    (hm : m < 0x10000) (hes : es.map Char.toLower = fourHex m) (ht' : isTrailing m = true)
    (rest : List Glyph) :
    readEscape (.char 'u' :: (ds.map .char ++ .char '\\' :: .char 'u' :: (es.map .char ++ rest))) =
      .ok (pairChar n m, rest) := by
  simp [readEscape, readCodePoint, readHex_of_toLower hn hds, ht, hl, readSecondHalf, Glyph.isChar,
    readHex_of_toLower hm hes, ht']

theorem isControl_eq_false {c : Char} (h : 0x20 ≤ c.toNat) : isControl c = false := by
  simp only [isControl, decide_eq_false_iff_not]
  omega

/-- Passing over a text stops behind its closing quote, whatever it is made of. -/
theorem skipText_textChars {us : List Nat} {cs : List Char} (h : TextChars us cs)
    (rest : List Glyph) : skipText (cs.map .char ++ .char '"' :: rest) = .ok rest := by
  induction h with
  | nil => exact skipText_quote rest
  | plain hq hb hc _ ih =>
    rw [List.map_cons, List.cons_append, skipText_plain hq hb (isControl_eq_false hc), ih]
  | short he _ ih =>
    rw [List.map_cons, List.map_cons, List.cons_append, List.cons_append,
      skipText_escape (skipEscape_short he _), ih]
  | hex hn hds _ ih =>
    rw [List.map_cons, List.map_cons, List.map_append, List.cons_append, List.cons_append,
      List.append_assoc, skipText_escape (skipEscape_hex hn hds _), ih]

/-- A text whose units are those of characters is read as these, whichever way each is spelt. -/
theorem readText_textChars : ∀ {us : List Nat} {cs : List Char}, TextChars us cs →
    ∀ {ds : List Char}, us = ds.flatMap units → ∀ (before : List Char) (rest : List Glyph),
      readText before false (cs.map .char ++ .char '"' :: rest) =
        .ok (String.ofList (before.reverse ++ ds))
  | _, _, .nil, ds, hds, before, rest => by
    obtain rfl : ds = [] := flatMap_units_inj hds.symm
    rw [List.map_nil, List.nil_append, readText_quote, List.append_nil]
  | _, _, @TextChars.plain c us cs hq hb hc h, ds, hds, before, rest => by
    cases ds with
    | nil => exact absurd (List.append_eq_nil_iff.1 hds).1 (units_ne_nil c)
    | cons d ds =>
      obtain ⟨rfl, hus⟩ := units_append_inj hds
      rw [List.map_cons, List.cons_append, readText_plain hq hb (isControl_eq_false hc),
        readText_textChars h hus, List.reverse_cons, List.append_assoc, List.singleton_append]
  | _, _, @TextChars.short e c us cs he h, ds, hds, before, rest => by
    cases ds with
    | nil => exact absurd (List.append_eq_nil_iff.1 hds).1 (units_ne_nil c)
    | cons d ds =>
      obtain ⟨rfl, hus⟩ := units_append_inj hds
      rw [List.map_cons, List.map_cons, List.cons_append, List.cons_append,
        readText_escape (readEscape_short he _), readText_textChars h hus, List.reverse_cons,
        List.append_assoc, List.singleton_append]
  | _, _, @TextChars.hex n xs us cs hn hxs h, ds, hds, before, rest => by
    cases ds with
    | nil => cases hds
    | cons d ds =>
      rw [List.flatMap_cons] at hds
      rcases units_cases d with ⟨hd, ht, hl⟩ | ⟨first, second, hd, ht, hl, ht', hpair⟩
      · rw [hd, List.singleton_append, List.cons.injEq] at hds
        obtain ⟨rfl, hus⟩ := hds
        rw [List.map_cons, List.map_cons, List.map_append, List.cons_append, List.cons_append,
          List.append_assoc, readText_escape (readEscape_hex hn hxs ht hl _), Char.ofNat_toNat,
          readText_textChars h hus, List.reverse_cons, List.append_assoc, List.singleton_append]
      · rw [hd] at hds
        simp only [List.cons_append, List.nil_append, List.cons.injEq] at hds
        obtain ⟨rfl, hus⟩ := hds
        -- The second half of a pair has to be spelt by its number, too.
        cases h with
        | nil => cases hus
        | plain => rw [isTrailing_of_units hus] at ht'; cases ht'
        | short => rw [isTrailing_of_units hus] at ht'; cases ht'
        | @hex m ys us' cs' hm hys h' =>
          obtain ⟨rfl, hus'⟩ := List.cons.inj hus
          rw [List.map_cons, List.map_cons, List.map_append, List.map_cons, List.map_cons,
            List.map_append, List.cons_append, List.cons_append, List.append_assoc,
            List.cons_append, List.cons_append, List.append_assoc,
            readText_escape (readEscape_pair hn hxs ht hl hm hys ht' _), hpair,
            readText_textChars h' hus', List.reverse_cons, List.append_assoc,
            List.singleton_append]

/-! ## Numbers -/

theorem Digits.exists_cons {ds : List Char} (h : Digits ds) :
    ∃ d rest, ds = d :: rest ∧ d.isDigit = true ∧ ∀ c ∈ rest, c.isDigit = true := by
  obtain ⟨hne, hds⟩ := h
  obtain ⟨d, rest, rfl⟩ := List.exists_cons_of_ne_nil hne
  exact ⟨d, rest, rfl, hds d (by simp), fun c hc => hds c (by simp [hc])⟩

theorem skipSomeDigits_digits {ds : List Char} (hds : Digits ds) {gs : List Glyph}
    (h : gs.head?.bind digitOf? = none) : skipSomeDigits (ds.map .char ++ gs) = .ok gs := by
  obtain ⟨d, rest, rfl, hd, hrest⟩ := hds.exists_cons
  rw [List.map_cons, List.cons_append, skipSomeDigits, digitOf?_char hd, skipDigits_digits hrest h]
  rfl

theorem skipScale_exponentPart {cs : List Char} (hcs : ExponentPart cs) {gs : List Glyph}
    (h : EndsNumber gs) : skipScale (cs.map .char ++ gs) = .ok gs := by
  rcases hcs with rfl | ⟨e, sign, ds, rfl, he, hsign, hds⟩
  · cases gs with
    | nil => rfl
    | cons g rest =>
      obtain ⟨-, -, he, hE⟩ := h g rfl
      cases g with
      | stray b => rfl
      | char c => simp_all [skipScale, Glyph.isChar]
  · have hletter : (Glyph.isChar 'e' (.char e) || Glyph.isChar 'E' (.char e)) = true := by
      rcases he with rfl | rfl <;> rfl
    have hsome := skipSomeDigits_digits hds h.head_no_digit
    obtain ⟨d, rest, rfl, hd, -⟩ := hds.exists_cons
    rw [List.map_cons, List.cons_append] at hsome
    rcases hsign with rfl | rfl | rfl
    · have hplain : (Glyph.isChar '+' (.char d) || Glyph.isChar '-' (.char d)) = false := by
        simp only [Glyph.isChar, Bool.or_eq_false_iff, beq_eq_false_iff_ne]
        exact ⟨by rintro rfl; exact absurd hd (by decide), ne_minus_of_isDigit hd⟩
      simp only [List.nil_append, List.map_cons, List.cons_append, skipScale, if_pos hletter,
        hplain, Bool.false_eq_true, if_false, hsome]
    · simp only [List.map_cons, List.cons_append, List.nil_append, skipScale, if_pos hletter]
      exact hsome
    · simp only [List.map_cons, List.cons_append, List.nil_append, skipScale, if_pos hletter]
      exact hsome

theorem ExponentPart.no_digit {cs : List Char} (hcs : ExponentPart cs) {gs : List Glyph}
    (h : EndsNumber gs) : (cs.map Glyph.char ++ gs).head?.bind digitOf? = none := by
  rcases hcs with rfl | ⟨e, sign, ds, rfl, he, -, -⟩
  · exact h.head_no_digit
  · rcases he with rfl | rfl <;> rfl

theorem skipTail_fractionPart {cs ds : List Char} (hcs : FractionPart cs) (hds : ExponentPart ds)
    {gs : List Glyph} (h : EndsNumber gs) :
    skipTail (cs.map .char ++ (ds.map .char ++ gs)) = .ok gs := by
  have hscale := skipScale_exponentPart hds h
  rcases hcs with rfl | ⟨fs, rfl, hfs⟩
  · rw [List.map_nil, List.nil_append]
    cases hg : ds.map Glyph.char ++ gs with
    | nil =>
      rw [hg] at hscale
      exact hscale
    | cons g rest =>
      have hpoint : g.isChar '.' = false := by
        rcases hds with rfl | ⟨e, sign, es, rfl, he, -, -⟩
        · rw [List.map_nil, List.nil_append] at hg
          subst hg
          obtain ⟨-, hp, -, -⟩ := h g rfl
          cases g with
          | stray b => rfl
          | char c => simpa [Glyph.isChar] using hp
        · rw [List.map_cons, List.cons_append, List.cons.injEq] at hg
          rw [← hg.1]
          rcases he with rfl | rfl <;> rfl
      rw [hg] at hscale
      rw [skipTail, hpoint, if_neg (by decide), hscale]
  · rw [List.map_cons, List.cons_append, skipTail, if_pos (by decide),
      skipSomeDigits_digits hfs (hds.no_digit h)]
    exact hscale

theorem FractionPart.no_digit {cs ds : List Char} (hcs : FractionPart cs) (hds : ExponentPart ds)
    {gs : List Glyph} (h : EndsNumber gs) :
    (cs.map Glyph.char ++ (ds.map Glyph.char ++ gs)).head?.bind digitOf? = none := by
  rcases hcs with rfl | ⟨fs, rfl, -⟩
  · exact hds.no_digit h
  · rfl

/-- A number without a sign is passed over to its end, whatever parts it has. -/
theorem skipUnsigned_wholePart {ws cs ds : List Char} (hws : WholePart ws) (hcs : FractionPart cs)
    (hds : ExponentPart ds) {gs : List Glyph} (h : EndsNumber gs) :
    skipUnsigned (ws.map .char ++ (cs.map .char ++ (ds.map .char ++ gs))) = .ok gs := by
  have htail := skipTail_fractionPart hcs hds h
  rcases hws with rfl | ⟨hws, hzero⟩
  · have h0 : digitOf? (.char '0') = some 0 := rfl
    rw [List.map_cons, List.map_nil, List.cons_append, List.nil_append, skipUnsigned, h0]
    simp only [hcs.no_digit hds h]
    exact htail
  · obtain ⟨d, rest, rfl, hd, hrest⟩ := hws.exists_cons
    obtain ⟨k, hk⟩ : ∃ k, d.toNat - '0'.toNat = k + 1 := by
      have hne : d ≠ '0' := by simpa using hzero
      have hlow : '0'.toNat ≤ d.toNat := by
        simp only [Char.isDigit, Bool.and_eq_true, decide_eq_true_eq] at hd
        exact hd.1
      have hneq : d.toNat ≠ '0'.toNat := fun heq => hne (Char.toNat_inj.1 heq)
      exact ⟨d.toNat - '0'.toNat - 1, by omega⟩
    rw [List.map_cons, List.cons_append, skipUnsigned, digitOf?_char hd, hk]
    simp only
    rw [skipDigits_digits hrest (hcs.no_digit hds h), htail]

theorem WholePart.exists_cons {cs : List Char} (h : WholePart cs) :
    ∃ d rest, cs = d :: rest ∧ d.isDigit = true := by
  rcases h with rfl | ⟨hdigits, -⟩
  · exact ⟨'0', [], rfl, by decide⟩
  · obtain ⟨d, rest, rfl, hd, -⟩ := hdigits.exists_cons
    exact ⟨d, rest, rfl, hd⟩

/-- A number starts with a minus sign or a digit. -/
theorem NumberChars.exists_cons {cs : List Char} (h : NumberChars cs) :
    ∃ c rest, cs = c :: rest ∧ (c == '-' || c.isDigit) = true := by
  obtain ⟨sign, whole, fraction, exponent, rfl, hsign, hwhole, -, -⟩ := h
  rcases hsign with rfl | rfl
  · obtain ⟨d, rest, rfl, hd⟩ := hwhole.exists_cons
    exact ⟨d, _, rfl, by simp [hd]⟩
  · exact ⟨'-', _, rfl, by decide⟩

/-- Every number of the grammar is passed over, up to where it ends. -/
theorem skipNumber_numberChars {cs : List Char} (hcs : NumberChars cs) {gs : List Glyph}
    (h : EndsNumber gs) : skipNumber (cs.map .char ++ gs) = .ok gs := by
  obtain ⟨sign, whole, fraction, exponent, rfl, hsign, hwhole, hfraction, hexponent⟩ := hcs
  have hskip := skipUnsigned_wholePart hwhole hfraction hexponent h
  simp only [List.map_append, List.append_assoc]
  rcases hsign with rfl | rfl
  · obtain ⟨d, rest, rfl, hd⟩ := hwhole.exists_cons
    rw [List.map_cons, List.cons_append] at hskip
    rw [List.map_nil, List.nil_append, List.map_cons, List.cons_append, skipNumber,
      if_neg (by simpa [Glyph.isChar] using ne_minus_of_isDigit hd), hskip]
  · rw [List.map_cons, List.map_nil, List.cons_append, List.nil_append, skipNumber,
      if_pos (by decide), hskip]

/-! ## Trees -/

mutual

/-- The trees of a document. A text is readable where its units are those of characters; a number
of at most 64 bits that is written in decimal has its value. -/
inductive Json.Tree : Json → Node → Prop
  /-- The null value. -/
  | null : Json.Tree .null .null
  /-- A truth value. -/
  | flag (b : Bool) : Json.Tree (.flag b) (.flag b)
  /-- A number. -/
  | number {cs : List Char} {value : Except Problem Quantity}
    (h : ∀ n : Int, -(Numeral.twoTo 63 : Int) ≤ n → n ≤ (Numeral.twoTo 64 : Int) - 1 →
      cs = wholeChars n → value = .ok (.whole n)) :
    Json.Tree (.number cs) (.number value (.ok ()))
  /-- A text. -/
  | text {us : List Nat} {value : Except Problem String}
    (h : ∀ s, us = textUnits s → value = .ok s) : Json.Tree (.text us) (.text value (.ok ()))
  /-- A list. -/
  | list {js : List Json} {items : Items} (h : ItemsTree js items) :
    Json.Tree (.list js) (.list items)
  /-- An object. -/
  | object {ms : List (List Nat × Json)} {members : Members} (h : MembersTree ms members) :
    Json.Tree (.object ms) (.object members)

/-- The trees of items. -/
inductive ItemsTree : List Json → Items → Prop
  /-- No more items. -/
  | closed : ItemsTree [] .closed
  /-- One more item. -/
  | item {j : Json} {n : Node} {js : List Json} {items : Items} (hj : j.Tree n)
    (hjs : ItemsTree js items) : ItemsTree (j :: js) (.item n items)

/-- The trees of members, whose keys are readable where their units are those of characters. -/
inductive MembersTree : List (List Nat × Json) → Members → Prop
  /-- No more members. -/
  | closed : MembersTree [] .closed
  /-- One more member. -/
  | member {us : List Nat} {key : Except Problem String} {j : Json} {n : Node}
    {ms : List (List Nat × Json)} {members : Members} (hk : ∀ s, us = textUnits s → key = .ok s)
    (hj : j.Tree n) (hms : MembersTree ms members) :
    MembersTree ((us, j) :: ms) (.member key (.ok ()) n members)

end

mutual

/-- The tree of a document is complete. -/
theorem Json.Tree.complete : ∀ {j : Json} {n : Node}, j.Tree n → n.Complete
  | _, _, .null => .null
  | _, _, .flag b => .flag b
  | _, _, .number _ => .number _ _
  | _, _, .text _ => .text _ _
  | _, _, .list h => .list h.complete
  | _, _, .object h => .object h.complete

theorem ItemsTree.complete : ∀ {js : List Json} {items : Items}, ItemsTree js items → items.Complete
  | _, _, .closed => .closed
  | _, _, .item hj hjs => .item hj.complete hjs.complete

theorem MembersTree.complete : ∀ {ms : List (List Nat × Json)} {members : Members},
    MembersTree ms members → members.Complete
  | _, _, .closed => .closed
  | _, _, .member _ hj hms => .member _ _ hj.complete hms.complete

end

mutual

/-- Every document may be passed over. -/
theorem Json.Tree.skip : ∀ {j : Json} {n : Node}, j.Tree n → n.skip = .ok ()
  | _, _, .null => rfl
  | _, _, .flag _ => rfl
  | _, _, .number _ => rfl
  | _, _, .text _ => rfl
  | _, _, .list h => h.skip
  | _, _, .object h => h.skip

theorem ItemsTree.skip : ∀ {js : List Json} {items : Items}, ItemsTree js items →
    items.skip = .ok ()
  | _, _, .closed => rfl
  | _, _, .item hj hjs => by rw [Items.skip, hj.skip, hjs.skip]

theorem MembersTree.skip : ∀ {ms : List (List Nat × Json)} {members : Members},
    MembersTree ms members → members.skip = .ok ()
  | _, _, .closed => rfl
  | _, _, .member _ hj hms => by rw [Members.skip, hj.skip, hms.skip]

end

/-! ## The lexemes of a spelling -/

/-- Characters that are cut into the lexemes of a tree of a document, whatever follows them, as
long as it does not continue a number. -/
def Json.Tells (j : Json) (cs : List Char) : Prop :=
  ∀ rest, EndsNumber rest →
    ∃ n, j.Tree n ∧ lexemes (cs.map .char ++ rest) = n.lexemes ++ lexemes rest

theorem endsNumber_of_mem_blanks {b : Char} (hb : b ∈ blanks) (rest : List Glyph) :
    EndsNumber (.char b :: rest) := by
  simp only [blanks, List.mem_cons, List.not_mem_nil, or_false] at hb
  rcases hb with rfl | rfl | rfl | rfl <;>
    exact endsNumber_cons (by decide) (by decide) (by decide) (by decide) rest

/-- Blanks in front of a text add no lexeme. -/
theorem lexemes_blanks {cs : List Char} (h : ∀ c ∈ cs, c ∈ blanks) (rest : List Glyph) :
    lexemes (cs.map .char ++ rest) = lexemes rest := by
  induction cs with
  | nil => rfl
  | cons c cs ih =>
    rw [List.map_cons, List.cons_append, lexemes_blank (isSpace_char_iff.2 (h c (by simp))),
      ih fun d hd => h d (by simp [hd])]

theorem tells_flag (b : Bool) : (Json.flag b).Tells (if b then "true" else "false").toList := by
  intro rest hr
  exact ⟨_, .flag b, spells_flagChars b rest hr⟩

/-- The characters of a number tell it. -/
theorem tells_number {cs : List Char} (h : NumberChars cs) : (Json.number cs).Tells cs := by
  intro rest hr
  refine ⟨.number (readNumber (cs.map .char ++ rest)) (.ok ()), .number ?_, ?_⟩
  · rintro n hlow hhigh rfl
    exact readNumber_wholeChars hlow hhigh hr
  · have hskip := skipNumber_numberChars h hr
    obtain ⟨c, more, rfl, hc⟩ := h.exists_cons
    rw [List.map_cons, List.cons_append] at hskip ⊢
    exact lexemes_number hc rfl hskip

/-- The characters of a text in quotes tell it. -/
theorem tells_text {us : List Nat} {cs : List Char} (h : TextChars us cs) :
    (Json.text us).Tells ('"' :: (cs ++ ['"'])) := by
  intro rest _
  have hsplit : ('"' :: (cs ++ ['"'])).map Glyph.char ++ rest =
      .char '"' :: (cs.map .char ++ .char '"' :: rest) := by simp
  refine ⟨.text (readText [] false (cs.map .char ++ .char '"' :: rest)) (.ok ()), .text ?_, ?_⟩
  · intro s hs
    rw [readText_textChars h hs, List.reverse_nil, List.nil_append, String.ofList_toList]
  · rw [hsplit, lexemes_text rfl (skipText_textChars h rest)]
    rfl

theorem endsNumber_single {c : Char} {l : Lexeme} (h : single? c = some l) (rest : List Glyph) :
    EndsNumber (.char c :: rest) := by
  have hc : c ∈ ['[', ']', '\x7b', '\x7d', ',', ':'] := by
    by_contra hn
    simp only [List.mem_cons, List.not_mem_nil, or_false, not_or] at hn
    simp [single?, hn] at h
  simp only [List.mem_cons, List.not_mem_nil, or_false] at hc
  rcases hc with rfl | rfl | rfl | rfl | rfl | rfl <;>
    exact endsNumber_cons (by decide) (by decide) (by decide) (by decide) rest

theorem joinedLexemes_cons_of_ne_nil {part : List Lexeme} {parts : List (List Lexeme)}
    (h : parts ≠ []) : joinedLexemes (part :: parts) = part ++ .comma :: joinedLexemes parts := by
  cases parts with
  | nil => exact absurd rfl h
  | cons next parts => rfl

/-- A key, a colon and a value. -/
theorem Json.Tells.member {key : List Nat} {ks : List Char} {j : Json} {cs : List Char}
    (hk : (Json.text key).Tells ks) (h : j.Tells cs) {rest : List Glyph} (hr : EndsNumber rest) :
    ∃ value n, (∀ s, key = textUnits s → value = .ok s) ∧ j.Tree n ∧
      lexemes ((ks ++ ':' :: cs).map .char ++ rest) =
        (.text value (.ok ()) :: .colon :: n.lexemes) ++ lexemes rest := by
  obtain ⟨n, hn, hl⟩ := h rest hr
  obtain ⟨k, htree, hkl⟩ := hk (.char ':' :: (cs.map .char ++ rest)) (endsNumber_single rfl _)
  cases htree with
  | @text _ value hvalue =>
    refine ⟨value, n, hvalue, hn, ?_⟩
    rw [List.map_append, List.append_assoc, List.map_cons, List.cons_append, hkl,
      lexemes_single rfl, hl]
    rfl

mutual

/-- Every spelling of a document is cut into the lexemes of a tree of the document. -/
theorem Json.Written.tells : ∀ {j : Json} {cs : List Char}, j.Written cs → j.Tells cs
  | j, _, @Json.Written.blankBefore _ b cs hb h, rest, hr => by
    rw [List.map_cons, List.cons_append, lexemes_blank (isSpace_char_iff.2 hb)]
    exact h.tells rest hr
  | j, _, @Json.Written.blankAfter _ b cs hb h, rest, _ => by
    obtain ⟨n, hn, hl⟩ := h.tells (.char b :: rest) (endsNumber_of_mem_blanks hb rest)
    refine ⟨n, hn, ?_⟩
    rw [List.map_append, List.append_assoc, List.map_singleton, List.singleton_append, hl,
      lexemes_blank (isSpace_char_iff.2 hb)]
  | _, _, .null, rest, hr => ⟨_, .null, spells_null rest hr⟩
  | _, _, .flag b, rest, hr => tells_flag b rest hr
  | _, _, .number h, rest, hr => tells_number h rest hr
  | _, _, .text h, rest, hr => tells_text h rest hr
  | _, _, @Json.Written.emptyList cs h, rest, _ => by
    refine ⟨_, .list .closed, ?_⟩
    rw [List.map_cons, List.cons_append, lexemes_single rfl, List.map_append, List.append_assoc,
      lexemes_blanks h, List.map_singleton, List.singleton_append, lexemes_single rfl]
    rfl
  | _, _, @Json.Written.list js cs h, rest, _ => by
    obtain ⟨items, hitems, -, hl⟩ := h.tells (.char ']' :: rest) (endsNumber_single rfl rest)
    refine ⟨_, .list hitems, ?_⟩
    rw [List.map_cons, List.cons_append, lexemes_single rfl, List.map_append, List.append_assoc,
      List.map_singleton, List.singleton_append, hl, lexemes_single rfl, Node.lexemes]
    simp
  | _, _, @Json.Written.emptyObject cs h, rest, _ => by
    refine ⟨_, .object .closed, ?_⟩
    rw [List.map_cons, List.cons_append, lexemes_single rfl, List.map_append, List.append_assoc,
      lexemes_blanks h, List.map_singleton, List.singleton_append, lexemes_single rfl]
    rfl
  | _, _, @Json.Written.object ms cs h, rest, _ => by
    obtain ⟨members, hmembers, -, hl⟩ := h.tells (.char '\x7d' :: rest) (endsNumber_single rfl rest)
    refine ⟨_, .object hmembers, ?_⟩
    rw [List.map_cons, List.cons_append, lexemes_single rfl, List.map_append, List.append_assoc,
      List.map_singleton, List.singleton_append, hl, lexemes_single rfl, Node.lexemes]
    simp

/-- Every spelling of items is cut into the lexemes of their trees. -/
theorem ItemsWritten.tells : ∀ {js : List Json} {cs : List Char}, ItemsWritten js cs →
    ∀ rest, EndsNumber rest → ∃ items, ItemsTree js items ∧ items.lexemes ≠ [] ∧
      lexemes (cs.map .char ++ rest) = joinedLexemes items.lexemes ++ lexemes rest
  | _, _, .last h, rest, hr => by
    obtain ⟨n, hn, hl⟩ := h.tells rest hr
    exact ⟨_, .item hn .closed, by simp [Items.lexemes], hl⟩
  | _, _, @ItemsWritten.cons j cs js ds h hs, rest, hr => by
    obtain ⟨items, hitems, hne, hls⟩ := hs.tells rest hr
    obtain ⟨n, hn, hl⟩ := h.tells (.char ',' :: (ds.map .char ++ rest)) (endsNumber_single rfl _)
    refine ⟨_, .item hn hitems, by simp [Items.lexemes], ?_⟩
    rw [List.map_append, List.append_assoc, List.map_cons, List.cons_append, hl, lexemes_single rfl,
      hls, Items.lexemes, joinedLexemes_cons_of_ne_nil hne, List.append_assoc, List.cons_append]

/-- Every spelling of members is cut into the lexemes of their keys and trees. -/
theorem MembersWritten.tells : ∀ {ms : List (List Nat × Json)} {cs : List Char},
    MembersWritten ms cs → ∀ rest, EndsNumber rest → ∃ members, MembersTree ms members ∧
      members.lexemes ≠ [] ∧
      lexemes (cs.map .char ++ rest) = joinedLexemes members.lexemes ++ lexemes rest
  | _, _, .last hk h, rest, hr => by
    obtain ⟨value, n, hvalue, hn, hl⟩ := Json.Tells.member hk.tells h.tells hr
    exact ⟨_, .member hvalue hn .closed, by simp [Members.lexemes], hl⟩
  | _, _, @MembersWritten.cons key ks j cs ms ds hk h hs, rest, hr => by
    obtain ⟨members, hmembers, hne, hls⟩ := hs.tells rest hr
    obtain ⟨value, n, hvalue, hn, hl⟩ := Json.Tells.member hk.tells h.tells
      (endsNumber_single (show single? ',' = some .comma from rfl) (ds.map .char ++ rest))
    refine ⟨_, .member hvalue hn hmembers, by simp [Members.lexemes], ?_⟩
    have hsplit : (ks ++ ':' :: cs ++ ',' :: ds).map Glyph.char ++ rest =
        (ks ++ ':' :: cs).map .char ++ .char ',' :: (ds.map .char ++ rest) := by simp
    rw [hsplit, hl, lexemes_single rfl, hls, Members.lexemes, joinedLexemes_cons_of_ne_nil hne,
      List.append_assoc]
    rfl

end

/-- A document has a tree, whichever way it is spelt. -/
theorem Json.Written.exists_tree {j : Json} {cs : List Char} (h : j.Written cs) :
    ∃ n, j.Tree n ∧ Document.ofGlyphs (cs.map .char) = ⟨n, false⟩ := by
  obtain ⟨n, hn, hl⟩ := h.tells [] endsNumber_nil
  rw [List.append_nil, lexemes_nil, List.append_nil] at hl
  exact ⟨n, hn, ofGlyphs_of_lexemes hn.complete hl⟩

end QueryPipe.Wire
