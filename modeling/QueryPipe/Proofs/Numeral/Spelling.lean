import Mathlib.Data.List.TakeDrop
import Mathlib.Data.List.TakeWhile
import QueryPipe.Numeral.Decimal
import QueryPipe.Result

/-!
# Which texts are numbers

Every text that is a whole number is a floating point number as well: signs, leading zeros and
numbers at the ends of the range are all spelt in the same way. Of the texts that are floating
point numbers, only the word `nan` stands for no number; digits never do, however long they are.

* `exists_readText_of_readInt64`: whole numbers are floating point numbers.
* `isNaN_of_readText`: a text that stands for no number is the word for it.
-/

namespace QueryPipe.Numeral

/-! ## Digits -/

namespace Whole

theorem isDigit_of_digit? {c : Char} {d : Nat} (h : digit? c = some d) : c.isDigit = true := by
  rw [digit?] at h
  split at h
  · assumption
  · cases h

/-- What is read as a row of digits is one. -/
theorem all_isDigit_of_readDigits {range : WholeRange} {negative : Bool} {cs : List Char}
    {value n : Int} (h : readDigits range negative value cs = .ok n) :
    cs.all Char.isDigit = true := by
  induction cs generalizing value with
  | nil => rfl
  | cons c rest ih =>
    rw [readDigits] at h
    cases hd : digit? c with
    | none => simp [hd] at h
    | some d =>
      simp only [hd] at h
      generalize value * 10 + (if negative = true then -(d : Int) else d) = next at h
      split at h
      · cases h
      · split at h
        · cases h
        · rw [List.all_cons, isDigit_of_digit? hd, ih h]
          rfl

/-- A whole number is written as an optional sign and digits. -/
theorem exists_digits_of_read {range : WholeRange} {cs : List Char} {n : Int}
    (h : read range cs = .ok n) :
    ∃ digits : List Char, digits ≠ [] ∧ digits.all Char.isDigit = true ∧
      (cs = digits ∨ cs = '+' :: digits ∨ cs = '-' :: digits) := by
  unfold read at h
  split at h
  · cases h
  · cases h
  · cases h
  · rename_i rest hrest
    exact ⟨rest, fun e => hrest (e ▸ rfl), all_isDigit_of_readDigits h, .inr (.inl rfl)⟩
  · rename_i rest hrest
    split at h
    · exact ⟨rest, fun e => hrest (e ▸ rfl), all_isDigit_of_readDigits h, .inr (.inr rfl)⟩
    · cases h
  · rename_i hempty _ _ _ _
    exact ⟨cs, hempty, all_isDigit_of_readDigits h, .inl rfl⟩

end Whole

namespace Decimal

/-- Digits alone are a number. -/
theorem readSpelled_digits {digits : List Char} (hsome : digits ≠ [])
    (hdigits : digits.all Char.isDigit = true) :
    readSpelled digits = some ⟨digits, 0⟩ := by
  have hall : ∀ c ∈ digits, c.isDigit = true := List.all_eq_true.1 hdigits
  have htake : digits.takeWhile Char.isDigit = digits := List.takeWhile_eq_self_iff.2 hall
  have hdrop : digits.dropWhile Char.isDigit = [] := List.dropWhile_eq_nil_iff.2 hall
  have hempty : digits.isEmpty = false := by simpa using hsome
  simp [readSpelled, htake, hdrop, hempty]

theorem readUnsigned_digits (negative : Bool) {digits : List Char} (hsome : digits ≠ [])
    (hdigits : digits.all Char.isDigit = true) :
    readUnsigned negative digits = some (Binary64.ofDecimal negative (valueOf digits) 0) := by
  rw [readUnsigned, readSpelled_digits hsome hdigits]

/-- Every whole number is a floating point number. -/
theorem exists_readText_of_readInt64 {s : String} {n : Int64}
    (h : Whole.readInt64 s = .ok n) : ∃ x, readText s = .ok x := by
  rw [Whole.readInt64] at h
  obtain ⟨m, hread, -⟩ := exists_of_map_eq_ok h
  obtain ⟨digits, hsome, hdigits, hcs⟩ := Whole.exists_digits_of_read hread
  rw [readText]
  rcases hcs with hcs | hcs | hcs
  · rw [hcs]
    obtain ⟨c, rest, rfl⟩ := List.exists_cons_of_ne_nil hsome
    have hc : c.isDigit = true := List.all_eq_true.1 hdigits c List.mem_cons_self
    have hplus : c ≠ '+' := by rintro rfl; exact absurd hc (by decide)
    have hminus : c ≠ '-' := by rintro rfl; exact absurd hc (by decide)
    refine ⟨Binary64.ofDecimal false (valueOf (c :: rest)) 0, ?_⟩
    rw [read.eq_4 _ (by simp) (by simp [hplus]) (by simp [hminus]),
      readUnsigned_digits false hsome hdigits]
    rfl
  · exact ⟨_, by rw [hcs, read, readUnsigned_digits false hsome hdigits]; rfl⟩
  · exact ⟨_, by rw [hcs, read, readUnsigned_digits true hsome hdigits]; rfl⟩

end Decimal

/-! ## The word for no number -/

namespace Binary64

theorem isNaN_ofMagnitude (negative : Bool) {magnitude : Nat} (h : magnitude < twoTo 63) :
    (ofMagnitude negative magnitude).isNaN = decide (2047 * unit < magnitude) := by
  have h63 : twoTo 63 = 9223372036854775808 := rfl
  rw [h63] at h
  have hbits : (ofMagnitude negative magnitude).magnitudeBits = magnitude := by
    rw [magnitudeBits, ofMagnitude, UInt64.toNat_ofNat', h63]
    cases negative <;> simp only [Bool.false_eq_true, if_false, if_true] <;> omega
  rw [isNaN, hbits]

theorem isNaN_zero (negative : Bool) : (zero negative).isNaN = false := by
  cases negative <;> decide +kernel

theorem isNaN_infinity (negative : Bool) : (infinity negative).isNaN = false := by
  cases negative <;> decide +kernel

/-- A magnitude is one of a number or of an infinity. -/
theorem isNaN_ite_infinity (negative : Bool) (magnitude : Nat) :
    (if 2047 * unit ≤ magnitude then infinity negative
      else ofMagnitude negative magnitude).isNaN = false := by
  have hgreatest : 2047 * unit < twoTo 63 := by decide +kernel
  by_cases hmagnitude : 2047 * unit ≤ magnitude
  · rw [if_pos hmagnitude]
    exact isNaN_infinity negative
  · have hlt := Nat.lt_of_not_le hmagnitude
    rw [if_neg hmagnitude, isNaN_ofMagnitude negative (hlt.trans hgreatest),
      decide_eq_false_iff_not]
    exact Nat.lt_asymm hlt

/-- A fraction is rounded to a number or an infinity. -/
theorem isNaN_ofRatio (negative : Bool) (num den : Nat) :
    (ofRatio negative num den).isNaN = false := by
  rw [ofRatio]
  split
  · exact isNaN_zero negative
  · exact isNaN_ite_infinity negative _

theorem isNaN_ofDecimal (negative : Bool) (digits : Nat) (exponent : Int) :
    (ofDecimal negative digits exponent).isNaN = false := by
  simp only [ofDecimal]
  repeat' split
  all_goals simp only [isNaN_zero, isNaN_infinity, isNaN_ofRatio]

end Binary64

namespace Decimal

/-- A number without its sign. -/
def withoutSign : List Char → List Char
  | '+' :: rest => rest
  | '-' :: rest => rest
  | cs => cs

/-- Whether characters are the word for no number, in any letter case. -/
def isNaNWord (cs : List Char) : Bool := String.ofList (cs.map Char.toLower) == "nan"

/-- Whether a text is the word for no number, with or without a sign. -/
def spellsNaN (s : String) : Bool := isNaNWord (withoutSign s.toList)

theorem exists_readUnsigned_of_readText {s : String} {x : Binary64} (h : readText s = .ok x) :
    ∃ negative, readUnsigned negative (withoutSign s.toList) = some x := by
  have hget : ∀ {found? : Option Binary64},
      (found?.map Except.ok).getD (.error DecimalProblem.invalid) = Except.ok x →
        found? = some x := by
    rintro (_ | y) hy
    · cases hy
    · exact congrArg some (Except.ok.inj hy)
  rw [readText] at h
  unfold read at h
  split at h
  · cases h
  · rename_i rest hcs
    exact ⟨false, by rw [hcs]; exact hget h⟩
  · rename_i rest hcs
    exact ⟨true, by rw [hcs]; exact hget h⟩
  · rename_i hplus hminus
    refine ⟨false, ?_⟩
    rw [withoutSign.eq_3 _ hplus hminus]
    exact hget h

theorem toLower_of_isDigit {c : Char} (h : c.isDigit = true) : c.toLower = c := by
  have hlarge : ¬ (c.val ≥ 'A'.val ∧ c.val ≤ 'Z'.val) := by
    rw [Char.isDigit, Bool.and_eq_true, decide_eq_true_iff, decide_eq_true_iff] at h
    intro hupper
    exact absurd (UInt32.le_trans hupper.1 h.2) (by decide)
  exact dif_neg hlarge

/-- The word for no number has no digits to read. -/
theorem readSpelled_of_isNaNWord {cs : List Char} (h : isNaNWord cs = true) :
    readSpelled cs = none := by
  have hword : cs.map Char.toLower = "nan".toList := by
    rw [isNaNWord, beq_iff_eq] at h
    rw [← h, String.toList_ofList]
  cases cs with
  | nil => cases hword
  | cons c rest =>
    have hc : c.toLower = 'n' := (List.cons.inj hword).1
    have hdigit : c.isDigit = false := by
      rw [Bool.eq_false_iff]
      intro hdigit
      have hself : c.toLower = c := toLower_of_isDigit hdigit
      rw [hself] at hc
      subst hc
      exact absurd hdigit (by decide)
    have hpoint : c ≠ '.' := by
      rintro rfl
      exact absurd hc (by decide)
    simp [readSpelled, hdigit, hpoint]

/-- A text that stands for no number is the word for it. -/
theorem isNaN_of_readText {s : String} {x : Binary64} (h : readText s = .ok x) :
    x.isNaN = spellsNaN s := by
  obtain ⟨negative, hread⟩ := exists_readUnsigned_of_readText h
  rw [spellsNaN]
  rw [readUnsigned] at hread
  cases hspelled : readSpelled (withoutSign s.toList) with
  | some spelled =>
    rw [hspelled] at hread
    obtain rfl := Option.some.inj hread
    rw [Binary64.isNaN_ofDecimal, eq_comm, Bool.eq_false_iff]
    intro hword
    rw [readSpelled_of_isNaNWord hword] at hspelled
    cases hspelled
  | none =>
    simp only [hspelled] at hread
    generalize hw : String.ofList ((withoutSign s.toList).map Char.toLower) = word at hread
    rw [isNaNWord, hw]
    split at hread
    · rename_i hinfinite
      obtain rfl := Option.some.inj hread
      rw [Binary64.isNaN_infinity, eq_comm, beq_eq_false_iff_ne]
      rintro rfl
      exact absurd hinfinite (by decide +kernel)
    · split at hread
      · rename_i hnan
        obtain rfl := Option.some.inj hread
        rw [hnan]
        decide +kernel
      · cases hread

/-- A whole number is not the word for no number. -/
theorem spellsNaN_of_readInt64 {s : String} {n : Int64} (h : Whole.readInt64 s = .ok n) :
    spellsNaN s = false := by
  rw [Whole.readInt64] at h
  obtain ⟨m, hread, -⟩ := exists_of_map_eq_ok h
  obtain ⟨digits, hsome, hdigits, hcs⟩ := Whole.exists_digits_of_read hread
  have hunsigned : withoutSign s.toList = digits := by
    rcases hcs with hcs | hcs | hcs
    · have hsign : ∀ c, c.isDigit = false → ∀ rest, digits ≠ c :: rest := by
        rintro c hc rest rfl
        simp [hc] at hdigits
      rw [hcs, withoutSign.eq_3 _ (hsign '+' (by decide)) (hsign '-' (by decide))]
    · rw [hcs, withoutSign]
    · rw [hcs, withoutSign]
  rw [spellsNaN, hunsigned, Bool.eq_false_iff]
  intro hword
  have hspelled := readSpelled_digits hsome hdigits
  rw [readSpelled_of_isNaNWord hword] at hspelled
  cases hspelled

end Decimal

end QueryPipe.Numeral
