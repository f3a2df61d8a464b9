import QueryPipe.Sql.Problem
import QueryPipe.Sql.Term
import QueryPipe.Text.Search

/-!
# Functions

Functions of the values of one row, and functions over the rows of a group. Most give a missing
value for a missing operand; those over rows pass missing values over. What depends on more than its
operands is not among them: no random numbers, no dates or times, nothing about the connection.
-/

namespace QueryPipe.Sql

open Numeral

/-- A function of the values of one row. -/
inductive Scalar
  /-- The size of a number. -/
  | abs
  /-- A text of characters. -/
  | char
  /-- The first value that is there. -/
  | coalesce
  /-- Whether a text matches a pattern, with regard to case. -/
  | glob
  /-- Bytes in base sixteen. -/
  | hex
  /-- One of two values by the truth of a third. -/
  | iif
  /-- Where a text first stands in another. -/
  | instr
  /-- How many characters there are. -/
  | length
  /-- Whether a text matches a pattern. -/
  | like
  /-- In small ASCII letters. -/
  | lower
  /-- Without characters at the start. -/
  | ltrim
  /-- The greatest of several values. -/
  | greatest
  /-- The least of several values. -/
  | least
  /-- Nothing for a value that equals another. -/
  | nullif
  /-- As a literal. -/
  | quote
  /-- With a part replaced. -/
  | replace
  /-- To so many places. -/
  | round
  /-- Without characters at the end. -/
  | rtrim
  /-- Whether a number is below, at or above zero. -/
  | sign
  /-- A part of a text. -/
  | substr
  /-- Without characters at both ends. -/
  | trim
  /-- The kind of a value. -/
  | typeof
  /-- The number of the first character. -/
  | unicode
  /-- In capital ASCII letters. -/
  | upper
  deriving DecidableEq, Repr, Inhabited

/-- A function over the rows of a group. -/
inductive Aggregate
  /-- The number of rows. -/
  | rows
  /-- The number of values. -/
  | count
  /-- The sum, if there is a value. -/
  | sum
  /-- The sum as a floating point number. -/
  | total
  /-- The mean. -/
  | avg
  /-- The least value. -/
  | least
  /-- The greatest value. -/
  | greatest
  /-- The texts joined. -/
  | concat
  deriving DecidableEq, Repr, Inhabited

/-- The functions of one row by their names in small letters, with the least and the greatest
number of operands. -/
def Scalar.table : List (String × Scalar × Nat × Nat) :=
  [("abs", .abs, 1, 1), ("char", .char, 0, 1000), ("coalesce", .coalesce, 2, 1000),
    ("glob", .glob, 2, 2), ("hex", .hex, 1, 1), ("ifnull", .coalesce, 2, 2), ("iif", .iif, 3, 3),
    ("instr", .instr, 2, 2), ("length", .length, 1, 1), ("like", .like, 2, 3),
    ("lower", .lower, 1, 1), ("ltrim", .ltrim, 1, 2), ("max", .greatest, 2, 1000),
    ("min", .least, 2, 1000), ("nullif", .nullif, 2, 2), ("quote", .quote, 1, 1),
    ("replace", .replace, 3, 3), ("round", .round, 1, 2), ("rtrim", .rtrim, 1, 2),
    ("sign", .sign, 1, 1), ("substr", .substr, 2, 3), ("substring", .substr, 2, 3),
    ("trim", .trim, 1, 2), ("typeof", .typeof, 1, 1), ("unicode", .unicode, 1, 1),
    ("upper", .upper, 1, 1)]

/-- The functions over rows by their names in small letters and the number of operands. -/
def Aggregate.table : List (String × Nat × Aggregate) :=
  [("count", 0, .rows), ("count", 1, .count), ("sum", 1, .sum), ("total", 1, .total),
    ("avg", 1, .avg), ("min", 1, .least), ("max", 1, .greatest), ("group_concat", 1, .concat),
    ("group_concat", 2, .concat), ("string_agg", 2, .concat)]

/-- The function over rows of a name and a number of operands. -/
def Aggregate.find? (name : String) (arity : Nat) : Option Aggregate :=
  (table.find? fun (n, k, _) => n == name.toLower && k == arity).map fun (_, _, f) => f

/-- Whether a name is known, whatever the number of operands. -/
def isFunctionName (name : String) : Bool :=
  Scalar.table.any (fun (n, _) => n == name.toLower) ||
    Aggregate.table.any (fun (n, _) => n == name.toLower)

/-! ## Texts -/

namespace Value

/-- Without characters of a set at the start. -/
def trimStart (set : List Char) (cs : List Char) : List Char := cs.dropWhile set.contains

/-- Without characters of a set at the end. -/
def trimEnd (set : List Char) (cs : List Char) : List Char :=
  (cs.reverse.dropWhile set.contains).reverse

/-- Where a row first stands in another, from one; zero when it stands nowhere. -/
def placeOf {α : Type} [BEq α] (part : List α) : Nat → List α → Nat
  | n, [] => if part.isEmpty then n + 1 else 0
  | n, c :: rest => if part.isPrefixOf (c :: rest) then n + 1 else placeOf part (n + 1) rest

/-- With every place of a part replaced. The fuel is the size of the row. -/
def replaced (part other : List Char) : Nat → List Char → List Char
  | 0, cs => cs
  | _, [] => []
  | fuel + 1, c :: rest =>
    if part.isPrefixOf (c :: rest) then
      other ++ replaced part other fuel ((c :: rest).drop part.length)
    else c :: replaced part other fuel rest

/-- The part of a row of a length from a place; places count from one, or from the end when they
are negative, and a negative length reaches back. -/
def part {α : Type} (xs : List α) (start : Int) (length? : Option Int) : List α :=
  let size : Int := xs.length
  let count : Int := length?.getD (size + start.natAbs + 1)
  let (start, count) :=
    if start < 0 then
      if start + size < 0 then
        if count < 0 then (0, 0) else (0, max (count + (start + size)) 0)
      else (start + size, count)
    else if start > 0 then (start - 1, count)
    else (0, if count > 0 then count - 1 else count)
  let (start, count) :=
    if count < 0 then
      if start + count < 0 then (0, start) else (start + count, -count)
    else (start, count)
  (xs.drop start.toNat).take count.toNat

/-- The name of the kind of a value. -/
def kindName : Value → String
  | .null => "null"
  | .whole _ => "integer"
  | .real _ => "real"
  | .text _ => "text"
  | .blob _ => "blob"

/-- Bytes in base sixteen. -/
def hexOf (bytes : List UInt8) : String :=
  String.ofList (bytes.flatMap fun b =>
    [Nat.digitChar (b.toNat / 16), Nat.digitChar (b.toNat % 16)].map Char.toUpper)

/-- A value as a literal. -/
def literalText : Value → String
  | .null => "NULL"
  | .text s =>
    "'" ++ String.ofList (s.toList.flatMap fun c => if c == '\'' then [c, c] else [c]) ++ "'"
  | .blob bytes => "X'" ++ hexOf bytes ++ "'"
  | v => v.toText

/-- A floating point number to so many places; a half goes away from zero. -/
def roundTo (places : Nat) (x : Binary64) : Binary64 :=
  match x.decode with
  | .finite negative m e =>
    let (num, den) := Binary64.ratio m e
    .ofDecimal negative ((2 * num * tenTo places + den) / (2 * den)) (-(places : Int))
  | _ => x

/-- The character that a number stands for. -/
def charOf (n : Int) : Char :=
  if 0 ≤ n && n ≤ 0x10FFFF && (Nat.isValidChar n.toNat) then Char.ofNat n.toNat else '\ufffd'

end Value

namespace Collation

/-- The order of values where their texts are compared in a certain way. -/
def order (c : Collation) (v w : Value) : Ordering :=
  match c, v, w with
  | .caseless, .text s, .text t => Value.order (.text s.toLower) (.text t.toLower)
  | .trailing, .text s, .text t =>
    let cut (s : String) : Value := .text (String.ofList (Value.trimEnd [' '] s.toList))
    Value.order (cut s) (cut t)
  | _, _, _ => Value.order v w

end Collation

/-! ## Functions of one row -/

namespace Scalar

/-- The character that takes the meaning from others, if there is one. -/
def escapeOf : List Value → Except Problem (Option Char)
  | [] => .ok none
  | v :: _ =>
    match v.toText.toList with
    | [c] => .ok (some c)
    | _ => .error .escape

/-- Whether a text matches a pattern. -/
def likeOf (pattern v : Value) (escape : List Value) : Except Problem Value := do
  if escape.any Value.isNull then return .null
  let escape? ← escapeOf escape
  if pattern.isNull || v.isNull then return .null
  return .ofTruth (some (Value.isLike escape? pattern.toText v.toText))

/-- The size of a number. -/
def absOf : Value → Except Problem Value
  | .null => .ok .null
  | .whole n => if n == Int64.minValue then .error .overflow else .ok (.whole n.abs)
  | v => .ok (.real (.ofMagnitude false v.toReal.magnitudeBits))

/-- To so many places. -/
def roundOf (v : Value) (places : List Value) : Value :=
  if v.isNull || places.any Value.isNull then .null
  else
    let n := (places.head?.map fun p => p.toWhole.toInt).getD 0
    let n := (max 0 (min n 30)).toNat
    let x := v.toReal
    if x.isNaN || x.isInfinite || 52 + 1022 < x.magnitudeBits / twoTo 52 then Value.ofReal x
    else .real (Value.roundTo n x)

/-- A part of a text or of bytes. -/
def substrOf (v start : Value) (length : List Value) : Value :=
  if v.isNull || start.isNull || length.any Value.isNull then .null
  else
    let start := start.toWhole.toInt
    let length? := length.head?.map fun l => l.toWhole.toInt
    match v with
    | .blob bytes => .blob (Value.part bytes start length?)
    | v => .text (String.ofList (Value.part v.toText.toList start length?))

/-- A text without characters at its ends. -/
def trimOf (f : List Char → List Char → List Char) (v : Value) (set : List Value) : Value :=
  if v.isNull || set.any Value.isNull then .null
  else
    let set := (set.head?.map fun s => s.toText.toList).getD [' ']
    .text (String.ofList (f set v.toText.toList))

/-- The first greatest or least of several values. -/
def extreme (wanted : Ordering) (c : Collation) : List Value → Value
  | [] => .null
  | v :: rest =>
    if v.isNull || rest.any Value.isNull then .null
    else rest.foldl (fun best w => if c.order w best == wanted then w else best) v

/-- The value of a function for its operands, whose texts are compared as said. -/
def apply (f : Scalar) (c : Collation) (args : List Value) : Except Problem Value :=
  match f, args with
  | .abs, [v] => absOf v
  | .char, vs => .ok (.text (String.ofList (vs.map fun v => Value.charOf v.toWhole.toInt)))
  | .coalesce, vs => .ok ((vs.find? fun v => !v.isNull).getD .null)
  | .glob, [p, v] =>
    if p.isNull || v.isNull then .ok .null
    else
      let (p, s) := (p.toText.toList, v.toText.toList)
      .ok (.ofTruth (some (Value.glob (p.length + s.length + 1) p s)))
  | .hex, [v] => .ok (.text (Value.hexOf v.toBytes))
  | .iif, [c, yes, no] => .ok (if c.truth? == some true then yes else no)
  | .instr, [v, w] =>
    .ok <|
      match v, w with
      | .null, _ | _, .null => .null
      | .blob a, .blob b => .whole (Int64.ofInt (Value.placeOf b 0 a))
      | v, w => .whole (Int64.ofInt (Value.placeOf w.toText.toList 0 v.toText.toList))
  | .length, [v] =>
    .ok <|
      match v with
      | .null => .null
      | .blob bytes => .whole (Int64.ofInt bytes.length)
      | v => .whole (Int64.ofInt (v.toText.toList.takeWhile (· != '\x00')).length)
  | .like, p :: v :: escape => likeOf p v escape
  | .lower, [v] => .ok (if v.isNull then .null else .text v.toText.toLower)
  | .upper, [v] => .ok (if v.isNull then .null else .text v.toText.toUpper)
  | .ltrim, v :: set => .ok (trimOf Value.trimStart v set)
  | .rtrim, v :: set => .ok (trimOf Value.trimEnd v set)
  | .trim, v :: set => .ok (trimOf (fun s cs => Value.trimEnd s (Value.trimStart s cs)) v set)
  | .greatest, vs => .ok (extreme .gt c vs)
  | .least, vs => .ok (extreme .lt c vs)
  | .nullif, [v, w] => .ok (if !w.isNull && c.order v w == .eq then .null else v)
  | .quote, [v] => .ok (.text v.literalText)
  | .replace, [v, p, r] =>
    if v.isNull || p.isNull || r.isNull then .ok .null
    else if p.toText.isEmpty then .ok (.text v.toText)
    else
      let cs := v.toText.toList
      .ok (.text (String.ofList
        (Value.replaced p.toText.toList r.toText.toList (cs.length + 1) cs)))
  | .round, v :: places => .ok (roundOf v places)
  | .sign, [v] =>
    .ok <|
      match v with
      | .text s =>
        match Value.numeral? s with
        | some n => .whole (if n.toReal.isZero then 0 else if n.toReal.isNegative then -1 else 1)
        | none => .null
      | .null | .blob _ => .null
      | v => .whole (if v.toReal.isZero then 0 else if v.toReal.isNegative then -1 else 1)
  | .substr, v :: start :: size => .ok (substrOf v start size)
  | .typeof, [v] => .ok (.text v.kindName)
  | .unicode, [v] =>
    .ok <|
      match v.toText.toList with
      | c :: _ => if v.isNull then .null else .whole (Int64.ofInt c.toNat)
      | [] => .null
  | _, _ => .ok .null

end Scalar

/-! ## Functions over rows -/

namespace Aggregate

/-- How many values are there. -/
def countPresent (vs : List Value) : Nat := (vs.filter fun v => !v.isNull).length

/-- A sum under way: exact as long as there are whole numbers that fit, then a floating point sum
with what its rounding lost. -/
structure Sum where
  /-- How many values there were. -/
  count : Nat := 0
  /-- The sum of whole numbers, as long as it is exact. -/
  whole? : Option Int := some 0
  /-- The rounded sum. -/
  rounded : Binary64 := .zero
  /-- What rounding lost. -/
  lost : Binary64 := .zero
  /-- Whether whole numbers alone became too great. -/
  overflowed : Bool := false

/-- A rounded sum with one more number. -/
def Sum.addReal (s : Sum) (x : Binary64) : Sum :=
  let t := s.rounded.add x
  let lost :=
    if x.magnitudeBits < s.rounded.magnitudeBits then (s.rounded.sub t).add x
    else (x.sub t).add s.rounded
  { s with rounded := t, lost := s.lost.add lost }

/-- A rounded sum with one more whole number; a great one is added in two parts. -/
def Sum.addWhole (s : Sum) (n : Int) : Sum :=
  if -(twoTo 52) < n && n < twoTo 52 then s.addReal (.ofInt n)
  else
    let small := Int.tmod n 16384
    (s.addReal (.ofInt (n - small))).addReal (.ofInt small)

/-- The sum as a rounded one. -/
def Sum.loosen (s : Sum) : Sum :=
  match s.whole? with
  | none => s
  | some n =>
    if -(twoTo 52) < n && n < twoTo 52 then { s with whole? := none, rounded := .ofInt n }
    else
      let small := Int.tmod n 16384
      { s with whole? := none, rounded := .ofInt (n - small), lost := .ofInt small }

/-- A sum with one more value. -/
def Sum.add (s : Sum) (v : Value) : Sum :=
  let number : Value :=
    match v with
    | .text t => (Value.numeral? t).getD (.real v.toReal)
    | .blob _ => .real v.toReal
    | v => v
  match number with
  | .null => s
  | .whole n =>
    let s := { s with count := s.count + 1 }
    match s.whole? with
    | some m =>
      if fits (m + n.toInt) then { s with whole? := some (m + n.toInt) }
      else { s.loosen.addWhole n.toInt with overflowed := true }
    | none => s.addWhole n.toInt
  | w =>
    let loose := { s.loosen with count := s.count + 1, overflowed := false }
    loose.addReal w.toReal

/-- The sum as a floating point number. -/
def Sum.toReal (s : Sum) : Binary64 :=
  match s.whole? with
  | some n => .ofInt n
  | none => if s.lost.isNaN then s.rounded else s.rounded.add s.lost

/-- The sum of values. -/
def sumOf (vs : List Value) : Sum := vs.foldl Sum.add {}

/-- The first of the values that nothing is before, in an order. -/
def leastOf (order : Value → Value → Ordering) (vs : List Value) : Value :=
  vs.foldl (fun best v =>
    if v.isNull then best
    else if best.isNull || order v best == .lt then v
    else best) .null

/-- The texts of the values that are there, with a joint before each but the first. -/
def joinTexts (operands : List (List Value)) : String :=
  let present := operands.filter fun row => !(row.head?.getD .null).isNull
  let piece (row : List Value) : String := (row.head?.getD .null).toText
  let joint (row : List Value) : String :=
    match row with
    | _ :: j :: _ => j.toText
    | _ => ","
  match present with
  | [] => ""
  | first :: rest => rest.foldl (fun s row => s ++ joint row ++ piece row) (piece first)

/-- The value of a function for the operands in each row of a group. -/
def apply (f : Aggregate) (c : Collation) (operands : List (List Value)) :
    Except Problem Value :=
  let vs := operands.map fun row => row.head?.getD .null
  match f with
  | .rows => .ok (.whole (Int64.ofInt operands.length))
  | .count => .ok (.whole (Int64.ofInt (countPresent vs)))
  | .sum =>
    let s := sumOf vs
    if s.count == 0 then .ok .null
    else
      match s.whole? with
      | some n => .ok (.whole (Int64.ofInt n))
      | none => if s.overflowed then .error .overflow else .ok (Value.ofReal s.toReal)
  | .total => .ok (Value.ofReal (sumOf vs).toReal)
  | .avg =>
    let s := sumOf vs
    if s.count == 0 then .ok .null else .ok (Value.ofReal (s.toReal.div (.ofInt s.count)))
  | .least => .ok (leastOf c.order vs)
  | .greatest => .ok (leastOf (fun v w => (c.order v w).swap) vs)
  | .concat =>
    if countPresent vs == 0 then .ok .null else .ok (.text (joinTexts operands))

end Aggregate

end QueryPipe.Sql
