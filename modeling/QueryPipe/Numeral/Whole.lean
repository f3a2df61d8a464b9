import QueryPipe.Numeral.Power

/-!
# Whole numbers in decimal

A whole number is written as an optional sign and decimal digits. Reading goes from left to right
and keeps to a range: the first character that is no digit, or the first digit that leaves the
range, ends it.

* `within_of_readDigits`: what is read lies within the range.
-/

namespace QueryPipe.Numeral

/-- The least and the greatest number of a kind. -/
structure WholeRange where
  /-- The least number. -/
  least : Int
  /-- The greatest number. -/
  greatest : Int
  deriving DecidableEq, Repr

namespace WholeRange

/-- Signed numbers of 64 bits. -/
def signed64 : WholeRange := ⟨-(twoTo 63), twoTo 63 - 1⟩

/-- Unsigned numbers of 32 bits. -/
def unsigned32 : WholeRange := ⟨0, twoTo 32 - 1⟩

/-- Unsigned numbers of 64 bits. -/
def unsigned64 : WholeRange := ⟨0, twoTo 64 - 1⟩

/-- Whether a number lies in the range. -/
def holds (range : WholeRange) (n : Int) : Bool := range.least ≤ n && n ≤ range.greatest

end WholeRange

/-- Why a text is no whole number of a range. -/
inductive WholeProblem
  /-- Nothing is written. -/
  | empty
  /-- A character other than a digit, or a sign alone. -/
  | invalidDigit
  /-- A number above the range. -/
  | tooLarge
  /-- A number below the range. -/
  | tooSmall
  deriving DecidableEq, Repr, Inhabited

/-- The wording of a problem. -/
def WholeProblem.message : WholeProblem → String
  | .empty => "cannot parse integer from empty string"
  | .invalidDigit => "invalid digit found in string"
  | .tooLarge => "number too large to fit in target type"
  | .tooSmall => "number too small to fit in target type"

/-- The value of a decimal digit. -/
def digit? (c : Char) : Option Nat := if c.isDigit then some (c.toNat - '0'.toNat) else none

namespace Whole

/-- Appends digits to a number, away from zero, within a range. -/
def readDigits (range : WholeRange) (negative : Bool) (value : Int) :
    List Char → Except WholeProblem Int
  | [] => .ok value
  | c :: rest =>
    match digit? c with
    | none => .error .invalidDigit
    | some d =>
      let next := value * 10 + (if negative then -(d : Int) else d)
      if range.greatest < next then .error .tooLarge
      else if next < range.least then .error .tooSmall
      else readDigits range negative next rest

/-- Reads an optional sign and digits. A minus sign is for ranges that go below zero. -/
def read (range : WholeRange) : List Char → Except WholeProblem Int
  | [] => .error .empty
  | ['+'] => .error .invalidDigit
  | ['-'] => .error .invalidDigit
  | '+' :: rest => readDigits range false 0 rest
  | '-' :: rest => if range.least < 0 then readDigits range true 0 rest else .error .invalidDigit
  | cs => readDigits range false 0 cs

/-- Reading on from a number within a range stays within it. -/
theorem within_of_readDigits {range : WholeRange} {negative : Bool} {cs : List Char}
    {value n : Int} (hv : range.holds value = true)
    (h : readDigits range negative value cs = .ok n) : range.holds n = true := by
  induction cs generalizing value with
  | nil => simp [readDigits] at h; exact h ▸ hv
  | cons c rest ih =>
    simp only [readDigits] at h
    cases hd : digit? c with
    | none => simp [hd] at h
    | some d =>
      simp only [hd] at h
      generalize value * 10 + (if negative = true then -(d : Int) else d) = next at h
      split at h
      · cases h
      · split at h
        · cases h
        · refine ih ?_ h
          simp only [WholeRange.holds, Bool.and_eq_true, decide_eq_true_eq]
          omega

/-- Reads a signed number of 64 bits. -/
def readInt64 (s : String) : Except WholeProblem Int64 :=
  (read .signed64 s.toList).map Int64.ofInt

/-- Reads an unsigned number of 32 bits. -/
def readUInt32 (s : String) : Except WholeProblem UInt32 :=
  (read .unsigned32 s.toList).map fun n => UInt32.ofNat n.toNat

/-- Reads an unsigned number of 64 bits. -/
def readSize (s : String) : Except WholeProblem Nat :=
  (read .unsigned64 s.toList).map Int.toNat

end Whole

end QueryPipe.Numeral
