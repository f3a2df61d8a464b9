import QueryPipe.Numeral.Power

/-!
# Floating point numbers of 64 bits

A number is kept as its bits and read as a sign, a whole mantissa and a power of two. All
arithmetic is exact on fractions of whole numbers and rounds once, to the nearest number and on a
tie to the even mantissa.
-/

namespace QueryPipe.Numeral

/-- The bits of a floating point number. -/
structure Binary64 where
  /-- Sign, eleven bits of exponent, fifty-two bits of mantissa. -/
  bits : UInt64
  deriving DecidableEq, Repr, Inhabited

/-- What the bits of a floating point number stand for. -/
inductive Decoded
  /-- No number. -/
  | nan
  /-- An infinity. -/
  | infinite (negative : Bool)
  /-- The mantissa times two to the exponent, with a sign. -/
  | finite (negative : Bool) (mantissa : Nat) (exponent : Int)
  deriving DecidableEq, Repr, Inhabited

namespace Binary64

/-- The number two to the fifty-second, which separates the fields of the bits. -/
def unit : Nat := twoTo 52

/-- Whether the sign bit is set. -/
def isNegative (x : Binary64) : Bool := twoTo 63 ≤ x.bits.toNat

/-- The bits without the sign. -/
def magnitudeBits (x : Binary64) : Nat := x.bits.toNat % twoTo 63

/-- What the bits stand for. -/
def decode (x : Binary64) : Decoded :=
  let field := x.magnitudeBits / unit
  let fraction := x.magnitudeBits % unit
  if field = 2047 then
    if fraction = 0 then .infinite x.isNegative else .nan
  else if field = 0 then .finite x.isNegative fraction (-1074)
  else .finite x.isNegative (unit + fraction) ((field : Int) - 1075)

/-- Bits from a sign and a magnitude. -/
def ofMagnitude (negative : Bool) (magnitude : Nat) : Binary64 :=
  ⟨UInt64.ofNat ((if negative then twoTo 63 else 0) + magnitude)⟩

/-- The bits that stand for no number, without a sign. -/
def nan : Binary64 := ofMagnitude false (2047 * unit + unit / 2)

/-- An infinity. -/
def infinity (negative : Bool) : Binary64 := ofMagnitude negative (2047 * unit)

/-- A zero. -/
def zero (negative : Bool := false) : Binary64 := ofMagnitude negative 0

/-- Whether the bits stand for no number. -/
def isNaN (x : Binary64) : Bool := 2047 * unit < x.magnitudeBits

/-- Whether the bits stand for an infinity. -/
def isInfinite (x : Binary64) : Bool := x.magnitudeBits == 2047 * unit

/-- Whether the bits stand for a zero of either sign. -/
def isZero (x : Binary64) : Bool := x.magnitudeBits == 0

/-- The number with the other sign. -/
def negate (x : Binary64) : Binary64 := ofMagnitude (!x.isNegative) x.magnitudeBits

/-! ## Rounding -/

/-- The quotient rounded to the nearest whole number, a half to the even one. -/
def roundHalfEven (num den : Nat) : Nat :=
  let floor := num / den
  let twice := 2 * (num % den)
  if twice < den then floor
  else if den < twice then floor + 1
  else floor + floor % 2

/-- The whole exponent `e` with `2 ^ e ≤ num / den < 2 ^ (e + 1)`, for positive numbers. -/
def binaryOrder (num den : Nat) : Int :=
  let guess : Int := (num.log2 : Int) - den.log2
  let reached :=
    if 0 ≤ guess then den * twoTo guess.toNat ≤ num else den ≤ num * twoTo (-guess).toNat
  if reached then guess else guess - 1

/-- The nearest number to the fraction `num / den`. -/
def ofRatio (negative : Bool) (num den : Nat) : Binary64 :=
  if num = 0 || den = 0 then zero negative
  else
    let exponent := max (binaryOrder num den - 52) (-1074)
    let mantissa :=
      if 0 ≤ exponent then roundHalfEven num (den * twoTo exponent.toNat)
      else roundHalfEven (num * twoTo (-exponent).toNat) den
    let magnitude := (exponent + 1074).toNat * unit + mantissa
    if 2047 * unit ≤ magnitude then infinity negative else ofMagnitude negative magnitude

/-- The nearest number to a whole number. -/
def ofInt (n : Int) : Binary64 := ofRatio (n < 0) n.natAbs 1

/-- The nearest number to `digits * 10 ^ exponent`. Exponents far outside of the range of the
format are decided without computing the power. -/
def ofDecimal (negative : Bool) (digits : Nat) (exponent : Int) : Binary64 :=
  if digits = 0 then zero negative
  else
    let order := exponent + (digits.log2 : Int) * 3 / 10
    if 400 < order then infinity negative
    else if order < -800 then zero negative
    else if 0 ≤ exponent then ofRatio negative (digits * tenTo exponent.toNat) 1
    else ofRatio negative digits (tenTo (-exponent).toNat)

/-! ## Fractions -/

/-- Numerator and denominator of a finite number's magnitude. -/
def ratio (mantissa : Nat) (exponent : Int) : Nat × Nat :=
  if 0 ≤ exponent then (mantissa * twoTo exponent.toNat, 1)
  else (mantissa, twoTo (-exponent).toNat)

/-- The product, rounded; infinite when a factor is. -/
def mul (x y : Binary64) : Binary64 :=
  match x.decode, y.decode with
  | .finite s m e, .finite t n f =>
    let (a, b) := ratio m e
    let (c, d) := ratio n f
    ofRatio (s != t) (a * c) (b * d)
  | .nan, _ => nan
  | _, .nan => nan
  | _, _ => if x.isZero || y.isZero then nan else infinity (x.isNegative != y.isNegative)

/-- The quotient of finite numbers, rounded; the divisor is not zero. -/
def div (x y : Binary64) : Binary64 :=
  match x.decode, y.decode with
  | .finite s m e, .finite t n f =>
    let (a, b) := ratio m e
    let (c, d) := ratio n f
    if c = 0 then (if m = 0 then nan else infinity (s != t)) else ofRatio (s != t) (a * d) (b * c)
  | .nan, _ => nan
  | _, .nan => nan
  | .infinite s, .finite t _ _ => infinity (s != t)
  | .finite s _ _, .infinite t => zero (s != t)
  | _, _ => nan

/-- A finite number as a whole multiple of `2 ^ -1074`. -/
def scaled (negative : Bool) (mantissa : Nat) (exponent : Int) : Int :=
  let n : Int := mantissa * twoTo (exponent + 1074).toNat
  if negative then -n else n

/-- The sum, rounded; a sum of zero is positive unless both numbers are negative. -/
def add (x y : Binary64) : Binary64 :=
  match x.decode, y.decode with
  | .finite s m e, .finite t n f =>
    let sum := scaled s m e + scaled t n f
    if sum = 0 then zero (s && t) else ofRatio (sum < 0) sum.natAbs (twoTo 1074)
  | .nan, _ => nan
  | _, .nan => nan
  | .infinite s, .infinite t => if s == t then infinity s else nan
  | .infinite s, _ => infinity s
  | _, .infinite t => infinity t

/-- The difference, rounded. -/
def sub (x y : Binary64) : Binary64 := x.add y.negate

/-! ## Order -/

/-- The order of two numbers; none when one of them is no number. -/
def order? (x y : Binary64) : Option Ordering :=
  match x.decode, y.decode with
  | .nan, _ => none
  | _, .nan => none
  | .finite s m e, .finite t n f => some (compare (scaled s m e) (scaled t n f))
  | .infinite s, .infinite t => some (if s == t then .eq else if s then .lt else .gt)
  | .infinite s, _ => some (if s then .lt else .gt)
  | _, .infinite t => some (if t then .gt else .lt)

/-- The order of a whole number and a floating point number, without rounding. -/
def orderInt? (n : Int) (y : Binary64) : Option Ordering :=
  match y.decode with
  | .nan => none
  | .finite t m f => some (compare (n * twoTo 1074) (scaled t m f))
  | .infinite t => some (if t then .gt else .lt)

/-- The whole part of a finite number, toward zero. -/
def truncate? (x : Binary64) : Option Int :=
  match x.decode with
  | .finite s m e =>
    let (a, b) := ratio m e
    some (if s then -((a / b : Nat) : Int) else ((a / b : Nat) : Int))
  | _ => none

end Binary64

end QueryPipe.Numeral
