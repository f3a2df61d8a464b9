import QueryPipe.Proofs.Numeral.Whole
import QueryPipe.Wire.Quantity
import QueryPipe.Wire.Writer

/-!
# Reading back a whole number

A whole number is written in decimal, with a minus sign when it is negative. Its digits are read
into a significand that never exceeds the number itself, so a number of at most 64 bits comes back
exactly. What follows must not go on with the number.

* `readNumber_wholeChars`: the value that is read.
* `skipNumber_wholeChars`: where passing over the number stops.
-/

namespace QueryPipe.Wire

open Text (Glyph)

/-- What stands behind a number and does not continue it. -/
def EndsNumber (gs : List Glyph) : Prop :=
  ∀ g ∈ gs.head?, digitOf? g = none ∧ g ≠ .char '.' ∧ g ≠ .char 'e' ∧ g ≠ .char 'E'

theorem endsNumber_nil : EndsNumber [] := by
  intro g hg
  simp at hg

theorem endsNumber_cons {c : Char} (hd : c.isDigit = false) (hp : c ≠ '.') (he : c ≠ 'e')
    (hE : c ≠ 'E') (rest : List Glyph) : EndsNumber (.char c :: rest) := by
  intro g hg
  cases Option.some.inj hg
  exact ⟨by simp [digitOf?, Numeral.digit?, hd], by simpa using hp, by simpa using he,
    by simpa using hE⟩

/-! ## Decimal digits -/

theorem digitOf?_char {c : Char} (hc : c.isDigit = true) :
    digitOf? (.char c) = some (c.toNat - '0'.toNat) := by
  simp [digitOf?, Numeral.digit?, hc]

theorem isDigit_of_mem_toDigits {n : Nat} {c : Char} (hc : c ∈ Nat.toDigits 10 n) :
    c.isDigit = true := Nat.isDigit_of_mem_toDigits (by decide) (by decide) hc

/-- Only the number zero is written with a leading zero. -/
theorem toDigits_eq_cons {n : Nat} (hn : 0 < n) :
    ∃ d cs, 0 < d ∧ d < 10 ∧ Nat.toDigits 10 n = d.digitChar :: cs := by
  induction n using Nat.strongRecOn with
  | ind n ih =>
    by_cases h : n < 10
    · exact ⟨n, [], hn, h, Nat.toDigits_of_lt_base h⟩
    · obtain ⟨d, cs, hd, hd', hcs⟩ := ih (n / 10) (by omega) (by omega)
      refine ⟨d, cs ++ [Nat.digitChar (n % 10)], hd, hd', ?_⟩
      rw [Nat.toDigits_of_base_le (by omega) (by omega), hcs, List.cons_append]

/-- A positive number is a digit above zero and further digits, and these give it back. -/
theorem toDigits_of_pos {n : Nat} (hn : 0 < n) :
    ∃ k cs, k + 1 < 10 ∧ (∀ c ∈ cs, c.isDigit = true) ∧ Nat.ofDigitChars 10 cs (k + 1) = n ∧
      Nat.toDigits 10 n = (k + 1).digitChar :: cs := by
  obtain ⟨d, cs, hd, hd', hcs⟩ := toDigits_eq_cons hn
  obtain ⟨k, rfl⟩ : ∃ k, d = k + 1 := ⟨d - 1, by omega⟩
  refine ⟨k, cs, hd', ?_, ?_, hcs⟩
  · intro c hc
    exact isDigit_of_mem_toDigits (n := n) (by simp [hcs, hc])
  · have := Nat.ofDigitChars_ten_toDigits (n := n)
    rwa [hcs, Nat.ofDigitChars_cons_digitChar_of_lt_ten hd', Nat.mul_zero, Nat.zero_add] at this

theorem digitOf?_digitChar {d : Nat} (hd : d < 10) : digitOf? (.char d.digitChar) = some d := by
  rw [digitOf?_char (by simpa using hd)]
  simp [Nat.toNat_digitChar_of_lt_ten hd]

/-- What ends a number starts with no digit. -/
theorem EndsNumber.head_no_digit {gs : List Glyph} (h : EndsNumber gs) :
    gs.head?.bind digitOf? = none := by
  cases gs with
  | nil => rfl
  | cons g rest => exact (h g rfl).1

/-! ## Reading the value -/

theorem readTail_ends {gs : List Glyph} (h : EndsNumber gs) (negative : Bool) (n : Nat) :
    readTail negative n gs = .ok (wholeOf negative n) := by
  cases gs with
  | nil => rfl
  | cons g rest =>
    obtain ⟨-, hp, he, hE⟩ := h g rfl
    unfold readTail
    split <;> simp_all

theorem readDigits_ends {gs : List Glyph} (h : EndsNumber gs) (negative : Bool) (n : Nat) :
    readDigits negative n gs = .ok (wholeOf negative n) := by
  cases gs with
  | nil => rfl
  | cons g rest => rw [readDigits, (h g rfl).1, readTail_ends h]

/-- Digits that do not overflow the significand are all taken into it. -/
theorem readDigits_append {gs : List Glyph} (h : EndsNumber gs) (negative : Bool)
    {cs : List Char} (hcs : ∀ c ∈ cs, c.isDigit = true) {value : Nat}
    (hv : Nat.ofDigitChars 10 cs value ≤ greatestSignificand) :
    readDigits negative value (cs.map .char ++ gs) =
      .ok (wholeOf negative (Nat.ofDigitChars 10 cs value)) := by
  induction cs generalizing value with
  | nil => simpa using readDigits_ends h negative value
  | cons c cs ih =>
    rw [Nat.ofDigitChars_cons] at hv
    -- Further digits only make the number larger, so the significand fits at every digit.
    have hle := Numeral.Whole.le_ofDigitChars cs (10 * value + (c.toNat - '0'.toNat))
    have hnext : value * 10 + (c.toNat - '0'.toNat) = 10 * value + (c.toNat - '0'.toNat) := by
      omega
    have hfit : ¬ greatestSignificand < 10 * value + (c.toNat - '0'.toNat) := by omega
    rw [List.map_cons, List.cons_append, readDigits, digitOf?_char (hcs c (by simp))]
    simp only [hnext, if_neg hfit]
    rw [ih (fun d hd => hcs d (by simp [hd])) hv, Nat.ofDigitChars_cons]

/-- Reading the digits of a number gives the number. -/
theorem readUnsigned_toDigits {gs : List Glyph} (h : EndsNumber gs) (negative : Bool) {n : Nat}
    (hn : n ≤ greatestSignificand) :
    readUnsigned negative ((Nat.toDigits 10 n).map .char ++ gs) = .ok (wholeOf negative n) := by
  by_cases hz : n = 0
  · have h0 : digitOf? (.char '0') = some 0 := rfl
    subst hz
    rw [Nat.toDigits_zero, List.map_cons, List.map_nil, List.cons_append, List.nil_append,
      readUnsigned, h0]
    simp only [h.head_no_digit]
    exact readTail_ends h negative 0
  · obtain ⟨k, cs, hk, hmem, hval, hcs⟩ := toDigits_of_pos (Nat.pos_of_ne_zero hz)
    rw [hcs, List.map_cons, List.cons_append, readUnsigned, digitOf?_digitChar hk]
    simp only
    rw [readDigits_append h negative hmem (by rw [hval]; exact hn), hval]

theorem wholeOf_false (n : Nat) : wholeOf false n = .whole n := rfl

/-- A number below zero is whole as far as it fits. -/
theorem wholeOf_true {n : Nat} (hpos : 0 < n) (hle : n ≤ Numeral.twoTo 63) :
    wholeOf true n = .whole (-n) := by
  have h : ¬ (n = 0 ∨ Numeral.twoTo 63 < n) := by omega
  simp [wholeOf, h]

/-! ## Passing over -/

/-- Behind digits that something else ends, passing over them stops. -/
theorem skipDigits_digits {cs : List Char} (hcs : ∀ c ∈ cs, c.isDigit = true) {gs : List Glyph}
    (h : gs.head?.bind digitOf? = none) : skipDigits (cs.map .char ++ gs) = gs := by
  induction cs with
  | nil =>
    cases gs with
    | nil => rfl
    | cons g rest =>
      have hg : digitOf? g = none := h
      simp [skipDigits, hg]
  | cons c cs ih =>
    rw [List.map_cons, List.cons_append, skipDigits, List.dropWhile_cons,
      digitOf?_char (hcs c (by simp))]
    exact ih fun d hd => hcs d (by simp [hd])

theorem skipDigits_append {gs : List Glyph} (h : EndsNumber gs) {cs : List Char}
    (hcs : ∀ c ∈ cs, c.isDigit = true) : skipDigits (cs.map .char ++ gs) = gs :=
  skipDigits_digits hcs h.head_no_digit

theorem skipTail_ends {gs : List Glyph} (h : EndsNumber gs) : skipTail gs = .ok gs := by
  cases gs with
  | nil => rfl
  | cons g rest =>
    obtain ⟨-, hp, he, hE⟩ := h g rfl
    cases g with
    | stray b => rfl
    | char c => simp_all [skipTail, skipScale, Glyph.isChar]

/-- A number without a sign is passed over to its end. -/
theorem skipUnsigned_toDigits {gs : List Glyph} (h : EndsNumber gs) (n : Nat) :
    skipUnsigned ((Nat.toDigits 10 n).map .char ++ gs) = .ok gs := by
  by_cases hz : n = 0
  · have h0 : digitOf? (.char '0') = some 0 := rfl
    subst hz
    rw [Nat.toDigits_zero, List.map_cons, List.map_nil, List.cons_append, List.nil_append,
      skipUnsigned, h0]
    simp only [h.head_no_digit]
    exact skipTail_ends h
  · obtain ⟨k, cs, hk, hmem, -, hcs⟩ := toDigits_of_pos (Nat.pos_of_ne_zero hz)
    rw [hcs, List.map_cons, List.cons_append, skipUnsigned, digitOf?_digitChar hk]
    simp only
    rw [skipDigits_append h hmem, skipTail_ends h]

/-! ## Signed numbers -/

theorem wholeChars_of_nonneg {n : Int} (hn : 0 ≤ n) :
    wholeChars n = Nat.toDigits 10 n.toNat := by
  rw [wholeChars, Int.toString_eq_repr, Int.repr_eq_if, if_pos hn, Nat.toList_repr]

theorem wholeChars_of_neg {n : Int} (hn : n < 0) :
    wholeChars n = '-' :: Nat.toDigits 10 (-n).toNat := by
  rw [wholeChars, Int.toString_eq_repr, Int.repr_eq_if, if_neg (by omega), String.toList_append,
    Nat.toList_repr]
  rfl

/-- The first character of a number that is not negative is a digit. -/
theorem toDigits_head (n : Nat) : ∃ c cs, c.isDigit = true ∧ Nat.toDigits 10 n = c :: cs := by
  cases h : Nat.toDigits 10 n with
  | nil => exact absurd h Nat.toDigits_ne_nil
  | cons c cs => exact ⟨c, cs, isDigit_of_mem_toDigits (n := n) (by simp [h]), rfl⟩

theorem ne_minus_of_isDigit {c : Char} (hc : c.isDigit = true) : c ≠ '-' := by
  rintro rfl
  exact absurd hc (by decide)

/-- A number from -2^63 to 2^64 - 1 is read as itself. -/
theorem readNumber_wholeChars {n : Int} (hlow : -(Numeral.twoTo 63 : Int) ≤ n)
    (hhigh : n ≤ (Numeral.twoTo 64 : Int) - 1) {gs : List Glyph} (h : EndsNumber gs) :
    readNumber ((wholeChars n).map .char ++ gs) = .ok (.whole n) := by
  have h63 : Numeral.twoTo 63 = 9223372036854775808 := rfl
  have h64 : Numeral.twoTo 64 = 18446744073709551616 := rfl
  have hsig : greatestSignificand = 18446744073709551615 := rfl
  by_cases hn : 0 ≤ n
  · obtain ⟨c, cs, hc, hcs⟩ := toDigits_head n.toNat
    have hread := readUnsigned_toDigits h false (n := n.toNat) (by omega)
    rw [wholeChars_of_nonneg hn, hcs] at *
    rw [List.map_cons, List.cons_append] at *
    -- A leading digit rules the minus sign out.
    unfold readNumber
    split
    · rename_i hx
      simp only [List.cons.injEq, Glyph.char.injEq] at hx
      exact absurd hx.1 (ne_minus_of_isDigit hc)
    · rw [hread, wholeOf_false, Int.toNat_of_nonneg hn]
  · rw [wholeChars_of_neg (by omega), List.map_cons, List.cons_append, readNumber,
      readUnsigned_toDigits h true (by omega)]
    rw [wholeOf_true (by omega) (by omega), Int.toNat_of_nonneg (by omega), Int.neg_neg]

/-- A whole number is passed over to its end. -/
theorem skipNumber_wholeChars (n : Int) {gs : List Glyph} (h : EndsNumber gs) :
    skipNumber ((wholeChars n).map .char ++ gs) = .ok gs := by
  by_cases hn : 0 ≤ n
  · obtain ⟨c, cs, hc, hcs⟩ := toDigits_head n.toNat
    have hskip := skipUnsigned_toDigits h n.toNat
    rw [wholeChars_of_nonneg hn, hcs] at *
    rw [List.map_cons, List.cons_append] at *
    rw [skipNumber, if_neg (by simpa [Glyph.isChar] using ne_minus_of_isDigit hc), hskip]
  · rw [wholeChars_of_neg (by omega), List.map_cons, List.cons_append, skipNumber,
      if_pos (by decide), skipUnsigned_toDigits h]

end QueryPipe.Wire
