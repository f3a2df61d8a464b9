import Mathlib.Algebra.Group.Int.Defs
import Mathlib.Logic.Basic
import QueryPipe.Numeral.Whole
import QueryPipe.Result

/-!
# What a whole number is written as

A text is read as a whole number exactly when it is an optional sign and decimal digits, and the
number that these spell lies in the range. Leading zeros make no difference. Reading leaves the
range at most once, since every further digit takes it further away from zero.

* `Spells`: a sign and digits, and their number.
* `read_eq_ok_iff`, `readInt64_eq_ok_iff`: what is read.
* `spells_toString`: every number is spelt by its digits.
-/

namespace QueryPipe.Numeral.Whole

/-! ## Digits -/

/-- An optional sign and decimal digits, and the number that they spell. -/
inductive Spells : List Char → Int → Prop
  /-- Digits alone. -/
  | unsigned {digits : List Char} (hsome : digits ≠ []) (hdigits : ∀ c ∈ digits, c.isDigit = true) :
    Spells digits (Nat.ofDigitChars 10 digits 0)
  /-- A plus sign and digits. -/
  | plus {digits : List Char} (hsome : digits ≠ []) (hdigits : ∀ c ∈ digits, c.isDigit = true) :
    Spells ('+' :: digits) (Nat.ofDigitChars 10 digits 0)
  /-- A minus sign and digits. -/
  | minus {digits : List Char} (hsome : digits ≠ []) (hdigits : ∀ c ∈ digits, c.isDigit = true) :
    Spells ('-' :: digits) (-(Nat.ofDigitChars 10 digits 0))

/-- A number away from zero to either side. -/
def signed (negative : Bool) (n : Nat) : Int := if negative then -n else n

/-- More digits never make a number smaller. -/
theorem le_ofDigitChars (cs : List Char) (n : Nat) : n ≤ Nat.ofDigitChars 10 cs n := by
  induction cs generalizing n with
  | nil => simp
  | cons c cs ih =>
    rw [Nat.ofDigitChars_cons]
    have := ih (10 * n + (c.toNat - '0'.toNat))
    omega

/-- One more digit. -/
theorem signed_digit (negative : Bool) (n d : Nat) :
    signed negative n * 10 + (if negative then -(d : Int) else d) =
      signed negative (10 * n + d) := by
  cases negative <;> simp only [signed, Bool.false_eq_true, if_false, if_true] <;> omega

/-- What lies out of a range around zero stays out of it away from zero. -/
theorem holds_signed_of_le {range : WholeRange} (hzero : range.holds 0 = true) {negative : Bool}
    {m n : Nat} (hle : m ≤ n) (h : range.holds (signed negative n) = true) :
    range.holds (signed negative m) = true := by
  simp only [WholeRange.holds, Bool.and_eq_true, decide_eq_true_eq] at hzero h ⊢
  cases negative <;> simp only [signed, Bool.false_eq_true, if_false, if_true] at h ⊢ <;> omega

/-- Digits that follow a number are read to their end if they are digits and all of them together
lie in the range. -/
theorem readDigits_eq_ok_iff {range : WholeRange} (hzero : range.holds 0 = true)
    {negative : Bool} {value : Nat} (hvalue : range.holds (signed negative value) = true)
    {cs : List Char} {n : Int} :
    readDigits range negative (signed negative value) cs = .ok n ↔
      (∀ c ∈ cs, c.isDigit = true) ∧ n = signed negative (Nat.ofDigitChars 10 cs value) ∧
        range.holds n = true := by
  induction cs generalizing value with
  | nil =>
    simp only [readDigits, Except.ok.injEq, List.not_mem_nil, false_imp_iff, implies_true, true_and,
      Nat.ofDigitChars_nil]
    constructor
    · rintro rfl
      exact ⟨rfl, hvalue⟩
    · exact fun h => h.1.symm
  | cons c cs ih =>
    rw [readDigits, digit?]
    by_cases hc : c.isDigit = true
    · rw [if_pos hc]
      simp only [signed_digit, List.forall_mem_cons, hc, true_and, Nat.ofDigitChars_cons]
      by_cases hnext :
          range.holds (signed negative (10 * value + (c.toNat - '0'.toNat))) = true
      · have hbounds := hnext
        simp only [WholeRange.holds, Bool.and_eq_true, decide_eq_true_eq] at hbounds
        rw [if_neg (by omega), if_neg (by omega), ih hnext]
      · -- the number has left the range, and the digits to come take it no nearer to zero
        have hnever : ¬ range.holds (signed negative
            (Nat.ofDigitChars 10 cs (10 * value + (c.toNat - '0'.toNat)))) = true :=
          fun h => hnext (holds_signed_of_le hzero (le_ofDigitChars cs _) h)
        simp only [WholeRange.holds, Bool.and_eq_true, decide_eq_true_eq, not_and_or] at hnext
        refine iff_of_false (fun h => ?_) fun h => hnever (h.2.1 ▸ h.2.2)
        split at h
        · cases h
        · split at h
          · cases h
          · omega
    · rw [if_neg hc]
      simp [hc]

/-! ## Signs -/

theorem spells_plus_iff {digits : List Char} {n : Int} :
    Spells ('+' :: digits) n ↔
      digits ≠ [] ∧ (∀ c ∈ digits, c.isDigit = true) ∧ n = Nat.ofDigitChars 10 digits 0 := by
  constructor
  · intro h
    cases h with
    | unsigned _ hdigits => exact absurd (hdigits '+' List.mem_cons_self) (by decide)
    | plus hsome hdigits => exact ⟨hsome, hdigits, rfl⟩
  · rintro ⟨hsome, hdigits, rfl⟩
    exact .plus hsome hdigits

theorem spells_minus_iff {digits : List Char} {n : Int} :
    Spells ('-' :: digits) n ↔
      digits ≠ [] ∧ (∀ c ∈ digits, c.isDigit = true) ∧ n = -(Nat.ofDigitChars 10 digits 0) := by
  constructor
  · intro h
    cases h with
    | unsigned _ hdigits => exact absurd (hdigits '-' List.mem_cons_self) (by decide)
    | minus hsome hdigits => exact ⟨hsome, hdigits, rfl⟩
  · rintro ⟨hsome, hdigits, rfl⟩
    exact .minus hsome hdigits

theorem spells_unsigned_iff {cs : List Char} (hplus : ∀ rest, cs ≠ '+' :: rest)
    (hminus : ∀ rest, cs ≠ '-' :: rest) {n : Int} :
    Spells cs n ↔
      cs ≠ [] ∧ (∀ c ∈ cs, c.isDigit = true) ∧ n = Nat.ofDigitChars 10 cs 0 := by
  constructor
  · intro h
    cases h with
    | unsigned hsome hdigits => exact ⟨hsome, hdigits, rfl⟩
    | @plus digits _ _ => exact absurd rfl (hplus digits)
    | @minus digits _ _ => exact absurd rfl (hminus digits)
  · rintro ⟨hsome, hdigits, rfl⟩
    exact .unsigned hsome hdigits

/-- A text is read as a number if it spells the number and the number lies in the range. -/
theorem read_eq_ok_iff {range : WholeRange} (hleast : range.least < 0)
    (hgreatest : 0 ≤ range.greatest) {cs : List Char} {n : Int} :
    read range cs = .ok n ↔ Spells cs n ∧ range.holds n = true := by
  have hzero : range.holds 0 = true := by
    simp only [WholeRange.holds, Bool.and_eq_true, decide_eq_true_eq]
    omega
  have hdigits (negative : Bool) (rest : List Char) :
      readDigits range negative 0 rest = .ok n ↔ (∀ c ∈ rest, c.isDigit = true) ∧
        n = signed negative (Nat.ofDigitChars 10 rest 0) ∧ range.holds n = true := by
    have hstart : signed negative 0 = 0 := by cases negative <;> rfl
    rw [← readDigits_eq_ok_iff hzero (hstart ▸ hzero), hstart]
  unfold read
  split
  · exact iff_of_false (by simp) fun h => by cases h.1; contradiction
  · exact iff_of_false (by simp) fun h => (spells_plus_iff.1 h.1).1 rfl
  · exact iff_of_false (by simp) fun h => (spells_minus_iff.1 h.1).1 rfl
  · rename_i rest hrest
    have hsome : rest ≠ [] := fun e => hrest (e ▸ rfl)
    rw [hdigits, spells_plus_iff]
    simp [hsome, signed, and_assoc]
  · rename_i rest hrest
    have hsome : rest ≠ [] := fun e => hrest (e ▸ rfl)
    rw [if_pos hleast, hdigits, spells_minus_iff]
    simp [hsome, signed, and_assoc]
  · rename_i hempty _ _ hplus hminus
    have hsome : cs ≠ [] := hempty
    rw [hdigits, spells_unsigned_iff hplus hminus]
    simp [hsome, signed, and_assoc]

/-! ## Numbers of 64 bits -/

theorem holds_signed64_iff {n : Int} :
    WholeRange.signed64.holds n = true ↔ -2 ^ 63 ≤ n ∧ n ≤ 2 ^ 63 - 1 := by
  have htwo : twoTo 63 = 2 ^ 63 := by decide
  simp [WholeRange.holds, WholeRange.signed64, htwo]

/-- A text is read as a number of 64 bits if it spells the number. -/
theorem readInt64_eq_ok_iff {s : String} {n : Int64} :
    readInt64 s = .ok n ↔ Spells s.toList n.toInt := by
  have hread (m : Int) : read .signed64 s.toList = .ok m ↔
      Spells s.toList m ∧ -2 ^ 63 ≤ m ∧ m ≤ 2 ^ 63 - 1 := by
    rw [read_eq_ok_iff (by decide) (by decide), holds_signed64_iff]
  rw [readInt64]
  constructor
  · intro h
    obtain ⟨m, hfound, rfl⟩ := exists_of_map_eq_ok h
    obtain ⟨hspells, hleast, hgreatest⟩ := (hread m).1 hfound
    rw [Int64.toInt_ofInt_of_le hleast (by omega)]
    exact hspells
  · intro h
    have hfound : read .signed64 s.toList = .ok n.toInt :=
      (hread n.toInt).2 ⟨h, n.le_toInt, by have := n.toInt_lt; omega⟩
    rw [hfound]
    exact congrArg Except.ok n.ofInt_toInt

/-- A number is spelt by its digits. -/
theorem spells_toString (n : Nat) : Spells (toString n).toList n := by
  have hdigits : (toString n).toList = Nat.toDigits 10 n := String.toList_ofList
  have hspells := @Spells.unsigned (Nat.toDigits 10 n) Nat.toDigits_ne_nil fun _ hc =>
    Nat.isDigit_of_mem_toDigits (by decide) (by decide) hc
  rwa [Nat.ofDigitChars_toDigits (by decide) (by decide), ← hdigits] at hspells

end QueryPipe.Numeral.Whole
