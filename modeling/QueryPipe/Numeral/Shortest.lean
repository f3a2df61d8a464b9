import QueryPipe.Numeral.Binary64

/-!
# The fewest digits that read back

A finite number is written with the fewest decimal digits that read back as that number; of
several such decimals the nearest is taken, and of two equally near ones the one that ends in an
even digit. Where the point and the exponent go is a separate choice, the `FloatLayout`.
-/

namespace QueryPipe.Numeral

/-- A decimal `0.d₁d₂… × 10 ^ point`: its digits as a number without trailing zeros. -/
structure ShortDecimal where
  /-- The digits as one number. -/
  digits : Nat
  /-- The position of the point in front of or behind the first digit. -/
  point : Int
  deriving DecidableEq, Repr, Inhabited

namespace ShortDecimal

/-- The digits as characters. -/
def chars (d : ShortDecimal) : List Char := (toString d.digits).toList

end ShortDecimal

namespace Shortest

/-- The number of decimal digits of a positive fraction's whole part, zero or below for fractions
under one: the `k` with `10 ^ (k - 1) ≤ num / den < 10 ^ k`. The guess from the binary length is
at most one too small. -/
def decimalOrder (num den : Nat) : Int :=
  let guess : Int := (((num.log2 : Int) - den.log2 - 1) * 30103).fdiv 100000
  let below (k : Int) : Bool :=
    if 0 ≤ k then num < den * tenTo k.toNat else num * tenTo (-k).toNat < den
  if below guess then guess
  else if below (guess + 1) then guess + 1
  else guess + 2

/-- The interval of fractions that read back as a number, in units of its last place over four. -/
structure Interval where
  /-- The number of quarter units of the lower end. -/
  low : Nat
  /-- The number of quarter units of the number itself. -/
  middle : Nat
  /-- The number of quarter units of the upper end. -/
  high : Nat
  /-- Whether the ends read back too. -/
  closed : Bool

/-- The interval around a mantissa. Below a power of two the gap is half as wide. -/
def interval (mantissa : Nat) (exponent : Int) : Interval where
  low := 4 * mantissa - (if mantissa = Binary64.unit && -1074 < exponent then 1 else 2)
  middle := 4 * mantissa
  high := 4 * mantissa + 2
  closed := mantissa % 2 = 0

/-- The nearest decimal with at most `count` digits that reads back, if there is one. The number
is `num / den` where the interval counts quarter units of `unitNum / unitDen`. -/
def withDigits (around : Interval) (unitNum unitDen : Nat) (point : Int) (count : Nat) :
    Option ShortDecimal :=
  let place := point - count
  let (gridNum, gridDen) :=
    if 0 ≤ place then (tenTo place.toNat, 1) else (1, tenTo (-place).toNat)
  -- a candidate `n * grid` against `q * unit / 4`, both over the common denominator
  let value (n : Nat) : Nat := n * gridNum * unitDen * 4
  let bound (q : Nat) : Nat := q * unitNum * gridDen
  let hits (n : Nat) : Bool :=
    if around.closed then bound around.low ≤ value n && value n ≤ bound around.high
    else bound around.low < value n && value n < bound around.high
  let down := bound around.middle / (gridNum * unitDen * 4)
  let up := down + 1
  let choice : Option Nat :=
    match hits down && down != 0, hits up with
    | false, false => none
    | true, false => some down
    | false, true => some up
    | true, true =>
      let below := bound around.middle - value down
      let above := value up - bound around.middle
      if below < above then some down
      else if above < below then some up
      else some (down + down % 2)
  choice.map fun n => ⟨n, point⟩

/-- Takes trailing zeros off; the fuel is the number of digits there can be. -/
def dropZeros : Nat → Nat → Nat
  | 0, n => n
  | fuel + 1, n => if n % 10 = 0 && n != 0 then dropZeros fuel (n / 10) else n

/-- A decimal from digits that may have one place more than the count they were found with. -/
def normalize (count : Nat) (d : ShortDecimal) : ShortDecimal :=
  let point := if d.digits = tenTo count then d.point + 1 else d.point
  ⟨dropZeros 20 d.digits, point⟩

/-- The first decimal found with `count` digits or more. Seventeen digits always suffice. -/
def search (around : Interval) (unitNum unitDen : Nat) (point : Int) :
    Nat → Nat → Option ShortDecimal
  | 0, _ => none
  | fuel + 1, count =>
    match withDigits around unitNum unitDen point count with
    | some d => some (normalize count d)
    | none => search around unitNum unitDen point fuel (count + 1)

/-- The shortest decimal of a positive finite number. -/
def decimal (mantissa : Nat) (exponent : Int) : ShortDecimal :=
  let (num, den) := Binary64.ratio mantissa exponent
  let (unitNum, unitDen) := Binary64.ratio 1 exponent
  (search (interval mantissa exponent) unitNum unitDen (decimalOrder num den) 17 1).getD ⟨0, 0⟩

/-- The quotient rounded to the nearest whole number, a half up. -/
def roundHalfUp (num den : Nat) : Nat := (2 * num + den) / (2 * den)

/-- The nearest decimal with at most `count` digits, a half up. -/
def rounded (mantissa : Nat) (exponent : Int) (count : Nat) : ShortDecimal :=
  let (num, den) := Binary64.ratio mantissa exponent
  let point := decimalOrder num den
  let place := point - count
  let n :=
    if 0 ≤ place then roundHalfUp num (den * tenTo place.toNat)
    else roundHalfUp (num * tenTo (-place).toNat) den
  normalize count ⟨n, point⟩

end Shortest

/-! ## Layout -/

/-- How a floating point number is laid out. -/
structure FloatLayout where
  /-- The number is written plainly when its point lies above this position, -/
  plainAbove : Int
  /-- and up to this position. -/
  plainUpTo : Int
  /-- Written between `e` and an exponent that is not negative. -/
  exponentSign : String
  /-- Whether a lone digit in front of the exponent gets a fraction of zero. -/
  fractionBeforeExponent : Bool := false
  /-- The least number of digits of an exponent. -/
  exponentWidth : Nat := 1
  deriving Repr

namespace FloatLayout

/-- Floating point cells: plain from `0.00001` to below `1e16`. -/
def cell : FloatLayout := ⟨-5, 16, "", false, 1⟩

/-- Floating point numbers named in a problem of a document. -/
def quoted : FloatLayout := ⟨-5, 16, "+", false, 1⟩

/-- Floating point numbers turned into text inside a statement. -/
def stored : FloatLayout := ⟨-4, 15, "+", true, 2⟩

/-- Whether a decimal is written without an exponent. -/
def plain (l : FloatLayout) (d : ShortDecimal) : Bool :=
  l.plainAbove < d.point && d.point ≤ l.plainUpTo

/-- A decimal without an exponent, always with a digit on either side of the point. -/
def plainText (d : ShortDecimal) : String :=
  let cs := d.chars
  if d.point ≤ 0 then
    "0." ++ String.ofList (List.replicate (-d.point).toNat '0' ++ cs)
  else
    let k := d.point.toNat
    if cs.length ≤ k then
      String.ofList (cs ++ List.replicate (k - cs.length) '0') ++ ".0"
    else String.ofList (cs.take k) ++ "." ++ String.ofList (cs.drop k)

/-- A decimal with one digit in front of the point and an exponent. -/
def exponentText (l : FloatLayout) (d : ShortDecimal) : String :=
  let cs := d.chars
  let fraction :=
    match cs.drop 1 with
    | [] => if l.fractionBeforeExponent then ".0" else ""
    | more => "." ++ String.ofList more
  let e := d.point - 1
  let size := (toString e.natAbs).toList
  String.ofList (cs.take 1) ++ fraction ++ "e" ++ (if e < 0 then "-" else l.exponentSign) ++
    String.ofList (List.replicate (l.exponentWidth - size.length) '0' ++ size)

/-- A positive decimal in this layout. -/
def decimalText (l : FloatLayout) (d : ShortDecimal) : String :=
  if l.plain d then plainText d else l.exponentText d

/-- A floating point number in this layout. -/
def text (l : FloatLayout) (x : Binary64) : String :=
  match x.decode with
  | .nan => "NaN"
  | .infinite negative => if negative then "-inf" else "inf"
  | .finite negative m e =>
    (if negative then "-" else "") ++
      (if m = 0 then "0.0" else l.decimalText (Shortest.decimal m e))

end FloatLayout

end QueryPipe.Numeral
