import Mathlib.Tactic.IntervalCases
import QueryPipe.Wire.QuotedText

/-!
# Reading back a quoted text

Every character is written either as itself or as an escape, and both readers take what was
written for one character off the front, whatever follows. So a quoted text is read as its own
characters, and passing over it stops right behind its closing quote.

* `readHex_fourHex`: four hexadecimal digits give back their number.
* `readText_quoted`, `skipText_flatMap_escaped`: the two readers behind the opening quote.
-/

namespace QueryPipe.Wire

open Text (Glyph)

/-! ## Hexadecimal digits -/

theorem hexDigit?_ofNat {k : Nat} (hk : k < 16) :
    hexDigit? (.char (Char.ofNat (if k < 10 then 0x30 + k else 0x57 + k))) = some k := by
  interval_cases k <;> decide

/-- Four digits are read back as the number that they are written for. -/
theorem readHex_fourHex {n : Nat} (hn : n < 65536) (rest : List Glyph) :
    readHex ((fourHex n).map .char ++ rest) = .ok (n, rest) := by
  have h₃ := hexDigit?_ofNat (Nat.mod_lt (n / 4096) (by omega : 0 < 16))
  have h₂ := hexDigit?_ofNat (Nat.mod_lt (n / 256) (by omega : 0 < 16))
  have h₁ := hexDigit?_ofNat (Nat.mod_lt (n / 16) (by omega : 0 < 16))
  have h₀ := hexDigit?_ofNat (Nat.mod_lt n (by omega : 0 < 16))
  have hsum : ((n / 4096 % 16 * 16 + n / 256 % 16) * 16 + n / 16 % 16) * 16 + n % 16 = n := by
    omega
  simp only [fourHex, List.map_cons, List.map_nil, List.cons_append, List.nil_append, readHex,
    h₃, h₂, h₁, h₀, hsum]

theorem readHex_control {c : Char} (hc : isControl c = true) (rest : List Glyph) :
    readHex ((fourHex c.toNat).map .char ++ rest) = .ok (c.toNat, rest) := by
  simp only [isControl, decide_eq_true_eq] at hc
  exact readHex_fourHex (by omega) rest

theorem readEscape_control {c : Char} (hc : isControl c = true) (rest : List Glyph) :
    readEscape (.char 'u' :: ((fourHex c.toNat).map .char ++ rest)) = .ok (c, rest) := by
  have hlt : c.toNat < 0x20 := by simpa [isControl] using hc
  have ht : isTrailing c.toNat = false := by
    simp only [isTrailing, Bool.and_eq_false_iff, decide_eq_false_iff_not]
    omega
  have hl : isLeading c.toNat = false := by
    simp only [isLeading, Bool.and_eq_false_iff, decide_eq_false_iff_not]
    omega
  simp [readEscape, readCodePoint, readHex_control hc, ht, hl, Char.ofNat_toNat]

theorem skipEscape_control {c : Char} (hc : isControl c = true) (rest : List Glyph) :
    skipEscape (.char 'u' :: ((fourHex c.toNat).map .char ++ rest)) = .ok rest := by
  simp [skipEscape, readHex_control hc, Except.map]

/-! ## Single steps of the readers -/

theorem readText_quote (before : List Char) (rest : List Glyph) :
    readText before false (.char '"' :: rest) = .ok (String.ofList before.reverse) := by
  rw [readText]
  simp

theorem readText_escape {gs rest : List Glyph} {c : Char} (h : readEscape gs = .ok (c, rest))
    (before : List Char) (stray : Bool) :
    readText before stray (.char '\\' :: gs) = readText (c :: before) stray rest := by
  rw [readText]
  simp only [Char.reduceBEq, Bool.false_eq_true, if_false, if_true]
  split
  · rename_i hx
    rw [h] at hx
    cases hx
  · rename_i hx
    rw [h] at hx
    cases hx
    rfl

theorem readText_plain {c : Char} (hq : c ≠ '"') (hb : c ≠ '\\') (hc : isControl c = false)
    (before : List Char) (stray : Bool) (rest : List Glyph) :
    readText before stray (.char c :: rest) = readText (c :: before) stray rest := by
  rw [readText]
  simp [hq, hb, hc]

theorem skipText_quote (rest : List Glyph) : skipText (.char '"' :: rest) = .ok rest := by
  rw [skipText]
  simp

theorem skipText_escape {gs rest : List Glyph} (h : skipEscape gs = .ok rest) :
    skipText (.char '\\' :: gs) = skipText rest := by
  rw [skipText]
  simp only [Char.reduceBEq, Bool.false_eq_true, if_false, if_true]
  split
  · rename_i hx
    rw [h] at hx
    cases hx
  · rename_i hx
    rw [h] at hx
    cases hx
    rfl

theorem skipText_plain {c : Char} (hq : c ≠ '"') (hb : c ≠ '\\') (hc : isControl c = false)
    (rest : List Glyph) : skipText (.char c :: rest) = skipText rest := by
  rw [skipText]
  simp [hq, hb, hc]

/-! ## What was written for one character -/

/-- How a character is written: behind a backslash as one letter, behind a backslash by its
number, or as itself. -/
theorem escaped_cases (c : Char) :
    (∃ e, e ≠ 'u' ∧ shortEscape? e = some c ∧ escaped c = ['\\', e]) ∨
      (isControl c = true ∧ escaped c = '\\' :: 'u' :: fourHex c.toNat) ∨
      (c ≠ '"' ∧ c ≠ '\\' ∧ isControl c = false ∧ escaped c = [c]) := by
  by_cases hs : c ∈ ['"', '\\', '\x08', '\x0c', '\n', '\r', '\t']
  · left
    simp only [List.mem_cons, List.not_mem_nil, or_false] at hs
    rcases hs with rfl | rfl | rfl | rfl | rfl | rfl | rfl
    · exact ⟨'"', by decide, rfl, rfl⟩
    · exact ⟨'\\', by decide, rfl, rfl⟩
    · exact ⟨'b', by decide, rfl, rfl⟩
    · exact ⟨'f', by decide, rfl, rfl⟩
    · exact ⟨'n', by decide, rfl, rfl⟩
    · exact ⟨'r', by decide, rfl, rfl⟩
    · exact ⟨'t', by decide, rfl, rfl⟩
  · right
    simp only [List.mem_cons, List.not_mem_nil, or_false, not_or] at hs
    obtain ⟨hq, hb, h₁, h₂, h₃, h₄, h₅⟩ := hs
    cases hc : isControl c with
    | true => exact .inl ⟨rfl, by simp [escaped, hq, hb, h₁, h₂, h₃, h₄, h₅, hc]⟩
    | false => exact .inr ⟨hq, hb, rfl, escaped_plain c hc hq hb⟩

/-- A character that is escaped is read back. -/
theorem readText_escaped (c : Char) (before : List Char) (stray : Bool) (rest : List Glyph) :
    readText before stray ((escaped c).map .char ++ rest) = readText (c :: before) stray rest := by
  rcases escaped_cases c with ⟨e, hu, he, hx⟩ | ⟨hc, hx⟩ | ⟨hq, hb, hc, hx⟩
  · rw [hx]
    exact readText_escape (by simp [readEscape, hu, he]) before stray
  · rw [hx]
    exact readText_escape (readEscape_control hc rest) before stray
  · rw [hx]
    exact readText_plain hq hb hc before stray rest

/-- A character that is escaped is passed over. -/
theorem skipText_escaped (c : Char) (rest : List Glyph) :
    skipText ((escaped c).map .char ++ rest) = skipText rest := by
  rcases escaped_cases c with ⟨e, hu, he, hx⟩ | ⟨hc, hx⟩ | ⟨hq, hb, hc, hx⟩
  · rw [hx]
    exact skipText_escape (by simp [skipEscape, hu, he])
  · rw [hx]
    exact skipText_escape (skipEscape_control hc rest)
  · rw [hx]
    exact skipText_plain hq hb hc rest

/-! ## Whole texts -/

/-- A text that is escaped is read back up to its quote. -/
theorem readText_flatMap_escaped (cs before : List Char) (rest : List Glyph) :
    readText before false ((cs.flatMap escaped).map .char ++ .char '"' :: rest) =
      .ok (String.ofList (before.reverse ++ cs)) := by
  induction cs generalizing before with
  | nil =>
    rw [List.flatMap_nil, List.map_nil, List.nil_append, readText_quote, List.append_nil]
  | cons c cs ih =>
    rw [List.flatMap_cons, List.map_append, List.append_assoc, readText_escaped, ih,
      List.reverse_cons, List.append_assoc, List.singleton_append]

theorem skipText_flatMap_escaped (cs : List Char) (rest : List Glyph) :
    skipText ((cs.flatMap escaped).map .char ++ .char '"' :: rest) = .ok rest := by
  induction cs with
  | nil => exact skipText_quote rest
  | cons c cs ih =>
    rw [List.flatMap_cons, List.map_append, List.append_assoc, skipText_escaped, ih]

theorem map_char_quoted (s : String) (rest : List Glyph) :
    (quoted s).map .char ++ rest =
      .char '"' :: ((s.toList.flatMap escaped).map .char ++ .char '"' :: rest) := by
  simp [quoted]

/-- What stands behind the opening quote is read as the text. -/
theorem readText_quoted (s : String) (rest : List Glyph) :
    readText [] false ((s.toList.flatMap escaped).map .char ++ .char '"' :: rest) = .ok s := by
  rw [readText_flatMap_escaped, List.reverse_nil, List.nil_append, String.ofList_toList]

end QueryPipe.Wire
