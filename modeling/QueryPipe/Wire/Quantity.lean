import QueryPipe.Numeral.Whole
import QueryPipe.Text.Utf8
import QueryPipe.Wire.Problem

/-!
# Numbers of a document

A number is read in two ways. Where its value matters, `readNumber` gives a whole number when it
is written without a fraction or an exponent and fits, and a floating point number otherwise.
Where a value is passed over, `skipNumber` only finds its end.

* `length_of_skipNumber`: passing over a number uses up at least one character.
-/

namespace QueryPipe.Wire

open Text (Glyph)
open Numeral (Binary64)

/-- The value of a number. -/
inductive Quantity
  /-- A whole number of at most 64 bits. -/
  | whole (n : Int)
  /-- Any other number. -/
  | float (x : Binary64)
  deriving DecidableEq, Repr, Inhabited

/-- The value of a digit. -/
def digitOf? : Glyph → Option Nat
  | .char c => Numeral.digit? c
  | .stray _ => none

/-- The largest significand; further digits only scale. -/
def greatestSignificand : Nat := Numeral.twoTo 64 - 1

/-! ## Reading -/

/-- A significand scaled down by powers of ten below the range of one factor. Two such steps turn
any significand into zero, so the fuel never runs out. -/
def scaleDown : Nat → Binary64 → Nat → Binary64
  | 0, x, _ => x
  | fuel + 1, x, places =>
    if places ≤ 308 then x.div (.ofDecimal false 1 places)
    else if x.isZero then x
    else scaleDown fuel (x.div (.ofDecimal false 1 308)) (places - 308)

/-- The number `significand * 10 ^ exponent`, by one multiplication or by divisions. -/
def ofParts (negative : Bool) (significand : Nat) (exponent : Int) : Except Problem Quantity :=
  let x := Binary64.ofInt significand
  let signed (y : Binary64) : Quantity := .float (if negative then y.negate else y)
  if 0 ≤ exponent then
    if exponent ≤ 308 then
      let y := x.mul (.ofDecimal false 1 exponent)
      if y.isInfinite then .error .numberOutOfRange else .ok (signed y)
    else if x.isZero then .ok (signed x)
    else .error .numberOutOfRange
  else .ok (signed (scaleDown 4 x (-exponent).toNat))

/-- Reads the digits of an exponent after the first. -/
def readExponentDigits (negative : Bool) (significand : Nat) (start : Int) (down : Bool)
    (value : Nat) : List Glyph → Except Problem Quantity
  | [] => ofParts negative significand (if down then start - value else start + value)
  | g :: rest =>
    match digitOf? g with
    | none => ofParts negative significand (if down then start - value else start + value)
    | some d =>
      let next := value * 10 + d
      if Numeral.twoTo 31 - 1 < next then
        if significand != 0 && !down then .error .numberOutOfRange
        else .ok (.float (.zero negative))
      else readExponentDigits negative significand start down next rest

/-- Reads what follows the `e` of an exponent. -/
def readExponent (negative : Bool) (significand : Nat) (start : Int) (gs : List Glyph) :
    Except Problem Quantity :=
  let (down, digits) :=
    match gs with
    | .char '+' :: rest => (false, rest)
    | .char '-' :: rest => (true, rest)
    | _ => (false, gs)
  match digits with
  | [] => .error .cutValue
  | g :: rest =>
    match digitOf? g with
    | none => .error .invalidNumber
    | some d => readExponentDigits negative significand start down d rest

/-- Reads an exponent if there is one, at the end of the digits. -/
def readScale (negative : Bool) (significand : Nat) (exponent : Int) :
    List Glyph → Except Problem Quantity
  | .char 'e' :: rest => readExponent negative significand exponent rest
  | .char 'E' :: rest => readExponent negative significand exponent rest
  | _ => ofParts negative significand exponent

/-- Passes over digits that no longer fit into the significand. -/
def readSurplus (negative : Bool) (significand : Nat) (exponent : Int) (gs : List Glyph) :
    Except Problem Quantity :=
  readScale negative significand exponent (gs.dropWhile fun g => (digitOf? g).isSome)

/-- Reads the digits of a fraction; `any` tells whether there was one. -/
def readFraction (negative : Bool) (significand : Nat) (exponent : Int) (any : Bool) :
    List Glyph → Except Problem Quantity
  | [] => if any then ofParts negative significand exponent else .error .cutValue
  | g :: rest =>
    match digitOf? g with
    | some d =>
      let next := significand * 10 + d
      if greatestSignificand < next then readSurplus negative significand exponent rest
      else readFraction negative next (exponent - 1) true rest
    | none =>
      if any then readScale negative significand exponent (g :: rest) else .error .invalidNumber

/-- Reads further digits of a whole number whose significand is full. -/
def readLong (negative : Bool) (significand : Nat) (exponent : Int) :
    List Glyph → Except Problem Quantity
  | [] => ofParts negative significand exponent
  | g :: rest =>
    match digitOf? g with
    | some _ => readLong negative significand (exponent + 1) rest
    | none =>
      if g.isChar '.' then readFraction negative significand exponent false rest
      else readScale negative significand exponent (g :: rest)

/-- A number without fraction and exponent. Minus zero and what is below the range of 64 bits
are floating point numbers. -/
def wholeOf (negative : Bool) (significand : Nat) : Quantity :=
  if !negative then .whole significand
  else if significand = 0 || Numeral.twoTo 63 < significand then
    .float (Binary64.ofInt significand).negate
  else .whole (-significand)

/-- Reads what follows the digits of a whole number. -/
def readTail (negative : Bool) (significand : Nat) : List Glyph → Except Problem Quantity
  | .char '.' :: rest => readFraction negative significand 0 false rest
  | .char 'e' :: rest => readExponent negative significand 0 rest
  | .char 'E' :: rest => readExponent negative significand 0 rest
  | _ => .ok (wholeOf negative significand)

/-- Reads the digits of a whole number after the first. -/
def readDigits (negative : Bool) (significand : Nat) : List Glyph → Except Problem Quantity
  | [] => .ok (wholeOf negative significand)
  | g :: rest =>
    match digitOf? g with
    | some d =>
      let next := significand * 10 + d
      if greatestSignificand < next then readLong negative significand 1 rest
      else readDigits negative next rest
    | none => readTail negative significand (g :: rest)

/-- Reads a number after its sign. A leading zero stands alone. -/
def readUnsigned (negative : Bool) : List Glyph → Except Problem Quantity
  | [] => .error .cutValue
  | g :: rest =>
    match digitOf? g with
    | none => .error .invalidNumber
    | some 0 =>
      match rest.head?.bind digitOf? with
      | some _ => .error .invalidNumber
      | none => readTail negative 0 rest
    | some d => readDigits negative d rest

/-- Reads the number at the start. -/
def readNumber : List Glyph → Except Problem Quantity
  | .char '-' :: rest => readUnsigned true rest
  | gs => readUnsigned false gs

/-! ## Passing over -/

/-- What is left after the digits at the start. -/
def skipDigits (gs : List Glyph) : List Glyph := gs.dropWhile fun g => (digitOf? g).isSome

/-- Passes over at least one digit. -/
def skipSomeDigits : List Glyph → Except Problem (List Glyph)
  | [] => .error .invalidNumber
  | g :: rest => if (digitOf? g).isSome then .ok (skipDigits rest) else .error .invalidNumber

/-- Passes over an exponent if there is one. -/
def skipScale : List Glyph → Except Problem (List Glyph)
  | [] => .ok []
  | g :: rest =>
    if g.isChar 'e' || g.isChar 'E' then
      match rest with
      | [] => .error .invalidNumber
      | h :: more =>
        if h.isChar '+' || h.isChar '-' then skipSomeDigits more else skipSomeDigits (h :: more)
    else .ok (g :: rest)

/-- Passes over a fraction and an exponent if they are there. -/
def skipTail : List Glyph → Except Problem (List Glyph)
  | [] => .ok []
  | g :: rest =>
    if g.isChar '.' then
      match skipSomeDigits rest with
      | .error p => .error p
      | .ok more => skipScale more
    else skipScale (g :: rest)

/-- Passes over a number after its sign. -/
def skipUnsigned : List Glyph → Except Problem (List Glyph)
  | [] => .error .invalidNumber
  | g :: rest =>
    match digitOf? g with
    | none => .error .invalidNumber
    | some 0 =>
      match rest.head?.bind digitOf? with
      | some _ => .error .invalidNumber
      | none => skipTail rest
    | some _ => skipTail (skipDigits rest)

/-- Passes over the number at the start and gives the rest. -/
def skipNumber : List Glyph → Except Problem (List Glyph)
  | [] => .error .invalidNumber
  | g :: rest => if g.isChar '-' then skipUnsigned rest else skipUnsigned (g :: rest)

theorem length_skipDigits (gs : List Glyph) : (skipDigits gs).length ≤ gs.length :=
  (List.dropWhile_sublist _).length_le

theorem length_of_skipSomeDigits {gs rest : List Glyph} (h : skipSomeDigits gs = .ok rest) :
    rest.length < gs.length := by
  cases gs with
  | nil => cases h
  | cons g more =>
    simp only [skipSomeDigits] at h
    split at h
    · cases h
      have := length_skipDigits more
      simp only [List.length_cons]
      omega
    · cases h

theorem length_of_skipScale {gs rest : List Glyph} (h : skipScale gs = .ok rest) :
    rest.length ≤ gs.length := by
  cases gs with
  | nil => cases h; exact Nat.le_refl _
  | cons g more =>
    simp only [skipScale] at h
    split at h
    · cases more with
      | nil => cases h
      | cons d others =>
        simp only at h
        split at h <;> have := length_of_skipSomeDigits h <;>
          simp only [List.length_cons] at * <;> omega
    · cases h; exact Nat.le_refl _

theorem length_of_skipTail {gs rest : List Glyph} (h : skipTail gs = .ok rest) :
    rest.length ≤ gs.length := by
  cases gs with
  | nil => cases h; exact Nat.le_refl _
  | cons g more =>
    simp only [skipTail] at h
    split at h
    · cases hs : skipSomeDigits more with
      | error p => simp [hs] at h
      | ok others =>
        simp only [hs] at h
        have h₁ := length_of_skipSomeDigits hs
        have h₂ := length_of_skipScale h
        simp only [List.length_cons]
        omega
    · exact length_of_skipScale h

theorem length_of_skipUnsigned {gs rest : List Glyph} (h : skipUnsigned gs = .ok rest) :
    rest.length < gs.length := by
  cases gs with
  | nil => cases h
  | cons g more =>
    simp only [skipUnsigned] at h
    have := length_skipDigits more
    split at h
    · cases h
    · split at h
      · cases h
      · have := length_of_skipTail h
        simp only [List.length_cons]
        omega
    · have := length_of_skipTail h
      simp only [List.length_cons]
      omega

/-- A number that is passed over takes at least one character. -/
theorem length_of_skipNumber {gs rest : List Glyph} (h : skipNumber gs = .ok rest) :
    rest.length < gs.length := by
  cases gs with
  | nil => cases h
  | cons g more =>
    simp only [skipNumber] at h
    split at h
    · have := length_of_skipUnsigned h
      simp only [List.length_cons]
      omega
    · exact length_of_skipUnsigned h

end QueryPipe.Wire
