import QueryPipe.Numeral.Decimal
import QueryPipe.Numeral.Shortest
import QueryPipe.Text.Search
import QueryPipe.Text.Utf8

/-!
# Values of a database

A value is missing, a number, a text or a row of bytes, whatever the column was declared as. The
affinity of a column says which of these it prefers: a value that is stored in it, or compared
with it, is converted where that loses nothing.

* `compare_null`: the missing value comes before every other.
* `store_null`: no column changes the missing value.
-/

namespace QueryPipe.Sql

open Numeral

/-- A value of a database. -/
inductive Value
  /-- The missing value. -/
  | null
  /-- A whole number. -/
  | whole (n : Int64)
  /-- A floating point number. -/
  | real (x : Binary64)
  /-- A text. -/
  | text (s : String)
  /-- A row of bytes. -/
  | blob (bytes : List UInt8)
  deriving DecidableEq, Repr, Inhabited

/-- What a column prefers to hold. -/
inductive Affinity
  /-- Values as they are. -/
  | blob
  /-- Texts. -/
  | text
  /-- Numbers. -/
  | numeric
  /-- Whole numbers. -/
  | integer
  /-- Floating point numbers. -/
  | real
  deriving DecidableEq, Repr, Inhabited

namespace Affinity

/-- Whether numbers are preferred. -/
def isNumeric : Affinity → Bool
  | .numeric | .integer | .real => true
  | .blob | .text => false

/-- The affinity of a declared type, by the words in it. -/
def ofType (type : String) : Affinity :=
  let s := type.toUpper
  if Text.contains "INT" s then .integer
  else if Text.contains "CHAR" s || Text.contains "CLOB" s || Text.contains "TEXT" s then .text
  else if Text.contains "BLOB" s || s.isEmpty then .blob
  else if Text.contains "REAL" s || Text.contains "FLOA" s || Text.contains "DOUB" s then .real
  else .numeric

end Affinity

/-! ## Numbers in texts -/

/-- A blank between a number and the ends of its text. -/
def isSpace (c : Char) : Bool := c == ' ' || (9 ≤ c.toNat && c.toNat ≤ 13)

/-- A number at the start of a text. -/
structure Leading where
  /-- The number without a fraction, where it has none. -/
  whole? : Option Int
  /-- The number. -/
  real : Binary64
  /-- Whether nothing but blanks follows. -/
  complete : Bool

/-- The digits behind a point, and how many characters the point itself takes: none where there is
no point. -/
def pointDigits : List Char → Nat × List Char
  | '.' :: more => (1, more.takeWhile Char.isDigit)
  | _ => (0, [])

/-- The number at the start of a text, if it starts with one: a sign, digits with a point among
them, and an exponent. -/
def leading? (cs : List Char) : Option Leading :=
  let cs := cs.dropWhile isSpace
  let (negative, cs) :=
    match cs with
    | '-' :: rest => (true, rest)
    | '+' :: rest => (false, rest)
    | _ => (false, cs)
  let whole := cs.takeWhile Char.isDigit
  let rest := cs.drop whole.length
  let (point, fraction) := pointDigits rest
  if whole.isEmpty && fraction.isEmpty then none
  else
    let rest := rest.drop (point + fraction.length)
    let (exponent?, rest) :=
      match rest with
      | e :: more =>
        if e == 'e' || e == 'E' then
          let (sign, digits) :=
            match more with
            | '-' :: digits => ((-1 : Int), digits)
            | '+' :: digits => (1, digits)
            | _ => (1, more)
          let run := digits.takeWhile Char.isDigit
          if run.isEmpty then (none, rest)
          else (some (sign * Decimal.valueOf run), digits.drop run.length)
        else (none, rest)
      | [] => (none, rest)
    let digits := Decimal.valueOf (whole ++ fraction)
    let isWhole := point == 0 && exponent?.isNone
    some {
      whole? := if isWhole then some (if negative then -(digits : Int) else digits) else none
      real := .ofDecimal negative digits (exponent?.getD 0 - fraction.length)
      complete := rest.all isSpace }

/-- The whole number that a floating point number is, if it is one that fits. -/
def exactWhole? (x : Binary64) : Option Int64 :=
  match x.truncate? with
  | none => none
  | some n =>
    if -(twoTo 63) < n && n < twoTo 63 - 1 && Binary64.orderInt? n x == some .eq then
      some (Int64.ofInt n)
    else none

/-- Whether a whole number fits into 64 bits. -/
def fits (n : Int) : Bool := WholeRange.signed64.holds n

/-- The nearest number of 64 bits. -/
def clamp (n : Int) : Int64 := Int64.ofInt (max (-(twoTo 63)) (min n (twoTo 63 - 1)))

namespace Value

/-! ## Conversions -/

/-- Whether the value is missing. -/
def isNull : Value → Bool
  | .null => true
  | _ => false

/-- A floating point number as text. -/
def realText (x : Binary64) : String :=
  match x.decode with
  | .nan => ""
  | .infinite negative => if negative then "-Inf" else "Inf"
  | .finite negative m e =>
    if m = 0 then "0.0"
    else
      (if negative then "-" else "") ++ FloatLayout.stored.decimalText (Shortest.rounded m e 15)

/-- Bytes as text; a byte that starts no character is shown as one that stands for that. -/
def lossyText (bytes : List UInt8) : String :=
  String.ofList ((Text.glyphs bytes).map fun
    | .char c => c
    | .stray _ => '\ufffd')

/-- The value as text. -/
def toText : Value → String
  | .null => ""
  | .whole n => toString n.toInt
  | .real x => realText x
  | .text s => s
  | .blob bytes => lossyText bytes

/-- The value as a floating point number; a text counts for the number it starts with. -/
def toReal : Value → Binary64
  | .null => .zero
  | .whole n => .ofInt n.toInt
  | .real x => x
  | v => ((leading? v.toText.toList).map Leading.real).getD .zero

/-- The digits at the start of a text as a whole number. -/
def leadingWhole (cs : List Char) : Int :=
  let cs := cs.dropWhile isSpace
  match cs with
  | '-' :: rest => -(Decimal.valueOf (rest.takeWhile Char.isDigit) : Int)
  | '+' :: rest => Decimal.valueOf (rest.takeWhile Char.isDigit)
  | _ => Decimal.valueOf (cs.takeWhile Char.isDigit)

/-- A floating point number cut to a whole one. -/
def cut (x : Binary64) : Int64 :=
  match x.truncate? with
  | some n => clamp n
  | none => if x.isInfinite then clamp (if x.isNegative then -(twoTo 64) else twoTo 64) else 0

/-- The value as a whole number; a text counts for the digits it starts with. -/
def toWhole : Value → Int64
  | .null => 0
  | .whole n => n
  | .real x => cut x
  | v => clamp (leadingWhole v.toText.toList)

/-- The value as bytes. -/
def toBytes : Value → List UInt8
  | .blob bytes => bytes
  | v => Text.bytesOf v.toText

/-- The value as a number: itself, or the number that a text starts with. -/
def toNumber : Value → Value
  | .null => .null
  | .whole n => .whole n
  | .real x => .real x
  | v =>
    match leading? v.toText.toList with
    | none => .whole 0
    | some l =>
      match l.whole? with
      | some n => if fits n then .whole (Int64.ofInt n) else .real l.real
      | none => .real l.real

/-- A floating point number as a value; what is no number is missing. -/
def ofReal (x : Binary64) : Value := if x.isNaN then .null else .real x

/-- A text as the number it spells, if it spells one from end to end. -/
def numeral? (s : String) : Option Value :=
  match leading? s.toList with
  | none => none
  | some l =>
    if !l.complete then none
    else
      match l.whole? with
      | some n => some (if fits n then .whole (Int64.ofInt n) else .real l.real)
      | none => some (.real l.real)

/-- A floating point number as a whole one where it is one. -/
def preferWhole : Value → Value
  | .real x =>
    match exactWhole? x with
    | some n => .whole n
    | none => .real x
  | v => v

/-- A number where a text spells one, a whole one where it can be. -/
def preferNumber : Value → Value
  | .text s =>
    match numeral? s with
    | some v => v.preferWhole
    | none => .text s
  | v => v.preferWhole

/-- A number as text. -/
def preferText : Value → Value
  | .whole n => .text (Value.whole n).toText
  | .real x => .text (Value.real x).toText
  | v => v

/-- The value as a column of an affinity holds it. -/
def store (a : Affinity) (v : Value) : Value :=
  match a with
  | .blob => v
  | .text => v.preferText
  | .numeric | .integer => v.preferNumber
  | .real =>
    match v.preferNumber with
    | .whole n => .real (.ofInt n.toInt)
    | w => w

/-- The missing value is stored as it is, whatever a column prefers. -/
@[simp] theorem store_null (a : Affinity) : store a .null = .null := by
  cases a <;> rfl

/-! ## Order -/

/-- The order of two numbers. -/
def compareNumbers : Value → Value → Ordering
  | .whole m, .whole n => compare m.toInt n.toInt
  | .whole m, .real y => (Binary64.orderInt? m.toInt y).getD .eq
  | .real x, .whole n => ((Binary64.orderInt? n.toInt x).map Ordering.swap).getD .eq
  | .real x, .real y => (Binary64.order? x y).getD .eq
  | _, _ => .eq

/-- The place of a value among values of other kinds. -/
def rank : Value → Nat
  | .null => 0
  | .whole _ | .real _ => 1
  | .text _ => 2
  | .blob _ => 3

/-- The order of texts and of bytes, by their first difference. -/
def compareLists {α : Type} (less : α → α → Bool) : List α → List α → Ordering
  | [], [] => .eq
  | [], _ => .lt
  | _, [] => .gt
  | a :: as, b :: bs => if less a b then .lt else if less b a then .gt else compareLists less as bs

/-- The order of values: the missing value, numbers, texts, bytes. -/
def order (v w : Value) : Ordering :=
  match v, w with
  | .text s, .text t => compareLists (fun a b => a.toNat < b.toNat) s.toList t.toList
  | .blob a, .blob b => compareLists (fun a b => a.toNat < b.toNat) a b
  | _, _ => if v.rank == w.rank then compareNumbers v w else compare v.rank w.rank

/-- The missing value comes before every other. -/
theorem compare_null (v : Value) (h : v ≠ .null) : order .null v = .lt := by
  cases v <;> first | exact absurd rfl h | rfl

/-- A value as it is compared under an affinity; `other` is what it is compared with. -/
def asCompared (a : Affinity) (v other : Value) : Value :=
  if a.isNumeric then
    match v with
    | .text s => (numeral? s).getD v
    | _ => v
  else if a == .text && (v.rank == 2 || other.rank == 2) then v.preferText
  else v

/-! ## Truth -/

/-- Whether a value counts as true; the missing value is neither. -/
def truth? : Value → Option Bool
  | .null => none
  | .whole n => some (n != 0)
  | v => some !v.toReal.isZero

/-- A truth value as a value. -/
def ofTruth : Option Bool → Value
  | none => .null
  | some b => .whole (if b then 1 else 0)

/-! ## Patterns -/

/-- Equality up to ASCII letter case. -/
def sameLetter (c d : Char) : Bool := c.toLower == d.toLower

/-- Whether a text matches a pattern in which `%` stands for any characters and `_` for one. An
escape character takes the meaning from the one after it. -/
def like (escape? : Option Char) : List Char → List Char → Bool
  | [], s => s.isEmpty
  | p :: ps, s =>
    if escape? == some p then
      match ps, s with
      | q :: ps, c :: cs => sameLetter q c && like escape? ps cs
      | _, _ => false
    else if p == '%' then
      match s with
      | [] => like escape? ps []
      | c :: cs => like escape? ps (c :: cs) || like escape? (p :: ps) cs
    else
      match s with
      | [] => false
      | c :: cs => (p == '_' || sameLetter p c) && like escape? ps cs
termination_by p s => p.length + s.length

/-- A text as far as patterns look at it: up to the character that ends it elsewhere. -/
def lookedAt (s : String) : List Char := s.toList.takeWhile (· != '\x00')

/-- Whether a text is like a pattern. -/
def isLike (escape? : Option Char) (pattern s : String) : Bool :=
  like escape? (lookedAt pattern) (lookedAt s)

/-- The characters of a class up to its closing bracket, and the pattern after it. -/
def classChars : List Char → Option (List Char × List Char)
  | [] => none
  | ']' :: rest => some ([], rest)
  | c :: rest => (classChars rest).map fun (cs, after) => (c :: cs, after)

/-- Whether a character is in a class; two characters with a hyphen between them are a range. -/
def inClass (c : Char) : List Char → Bool
  | a :: '-' :: b :: rest => (a.toNat ≤ c.toNat && c.toNat ≤ b.toNat) || inClass c rest
  | a :: rest => a == c || inClass c rest
  | [] => false

/-- Whether a text matches a pattern in which `*` stands for any characters, `?` for one, and
brackets for one of a class. The fuel is the size of pattern and text. -/
def glob : Nat → List Char → List Char → Bool
  | 0, _, _ => false
  | fuel + 1, pattern, s =>
    match pattern, s with
    | [], s => s.isEmpty
    | '*' :: ps, [] => glob fuel ps []
    | '*' :: ps, c :: cs => glob fuel ps (c :: cs) || glob fuel ('*' :: ps) cs
    | '?' :: ps, _ :: cs => glob fuel ps cs
    | '[' :: ps, c :: cs =>
      let (negated, ps) :=
        match ps with
        | '^' :: rest => (true, rest)
        | _ => (false, ps)
      let (first, ps) :=
        match ps with
        | ']' :: rest => ([']'], rest)
        | _ => ([], ps)
      match classChars ps with
      | none => false
      | some (members, after) => (inClass c (first ++ members) != negated) && glob fuel after cs
    | p :: ps, c :: cs => p == c && glob fuel ps cs
    | _ :: _, [] => false

end Value

end QueryPipe.Sql
