import QueryPipe.Numeral.Binary64
import QueryPipe.Numeral.Whole

/-!
# Floating point numbers in decimal

A number is written as an optional sign and either digits with at most one point among them,
optionally followed by an exponent, or one of the words `inf`, `infinity` and `nan` in any letter
case. It is read as the nearest floating point number.
-/

namespace QueryPipe.Numeral

/-- Why a text is no floating point number. -/
inductive DecimalProblem
  /-- Nothing is written. -/
  | empty
  /-- What is written is no number. -/
  | invalid
  deriving DecidableEq, Repr, Inhabited

/-- The wording of a problem. -/
def DecimalProblem.message : DecimalProblem → String
  | .empty => "cannot parse float from empty string"
  | .invalid => "invalid float literal"

namespace Decimal

/-- The number that a row of digits spells. -/
def valueOf (digits : List Char) : Nat :=
  digits.foldl (fun n c => n * 10 + (c.toNat - '0'.toNat)) 0

/-- Digits, a power of ten that scales them, and how many digits there are. -/
structure Spelled where
  /-- The digits without the point. -/
  digits : List Char
  /-- The power of ten that stands for the point and the exponent. -/
  exponent : Int
  deriving DecidableEq, Repr, Inhabited

/-- Reads an exponent: an optional sign and at least one digit, to the end. -/
def readExponent (cs : List Char) : Option Int :=
  let (negative, digits) :=
    match cs with
    | '+' :: rest => (false, rest)
    | '-' :: rest => (true, rest)
    | _ => (false, cs)
  if digits.isEmpty || !digits.all Char.isDigit then none
  else
    let n : Int := valueOf digits
    some (if negative then -n else n)

/-- Reads digits with at most one point and an optional exponent, to the end. -/
def readSpelled (cs : List Char) : Option Spelled :=
  let whole := cs.takeWhile Char.isDigit
  let afterWhole := cs.dropWhile Char.isDigit
  let (fraction, rest) :=
    match afterWhole with
    | '.' :: more => (more.takeWhile Char.isDigit, more.dropWhile Char.isDigit)
    | _ => ([], afterWhole)
  if whole.isEmpty && fraction.isEmpty then none
  else
    let scale : Int := -fraction.length
    match rest with
    | [] => some ⟨whole ++ fraction, scale⟩
    | e :: more =>
      if e == 'e' || e == 'E' then
        (readExponent more).map fun n => ⟨whole ++ fraction, scale + n⟩
      else none

/-- Reads an unsigned number or word. -/
def readUnsigned (negative : Bool) (cs : List Char) : Option Binary64 :=
  match readSpelled cs with
  | some s => some (Binary64.ofDecimal negative (valueOf s.digits) s.exponent)
  | none =>
    let word := String.ofList (cs.map Char.toLower)
    if word == "inf" || word == "infinity" then some (.infinity negative)
    else if word == "nan" then some .nan
    else none

/-- Reads a number. -/
def read (cs : List Char) : Except DecimalProblem Binary64 :=
  match cs with
  | [] => .error .empty
  | '+' :: rest => ((readUnsigned false rest).map .ok).getD (.error .invalid)
  | '-' :: rest => ((readUnsigned true rest).map .ok).getD (.error .invalid)
  | _ => ((readUnsigned false cs).map .ok).getD (.error .invalid)

/-- Reads a number from a text. -/
def readText (s : String) : Except DecimalProblem Binary64 := read s.toList

end Decimal

end QueryPipe.Numeral
