import QueryPipe.Sql.Function

/-!
# Formulas

A formula is a term whose names are places in a row and whose functions are known. Its value
depends on the row, on the rows of its group, and on the parameters.

* `value_literal`, `value_field`: a literal is its value, a place holds what the row has there.
-/

namespace QueryPipe.Sql

open Numeral

/-- A column of a relation. -/
structure Column where
  /-- The name. -/
  name : String
  /-- The declared type that a result shows. -/
  declared? : Option String := none
  /-- The declared type that a relation around this one sees. -/
  inner? : Option String := none
  /-- What the column prefers to hold; nothing for what is no column of a table. -/
  affinity? : Option Affinity := none
  /-- The name of the kind of its values, as far as it is known without them. -/
  kind? : Option String := none
  deriving DecidableEq, Repr, Inhabited

/-- A place in a row. -/
structure Place where
  /-- The number of the place. -/
  index : Nat
  /-- The column there. -/
  column : Column
  deriving DecidableEq, Repr, Inhabited

/-- A function that is known. -/
inductive Operation
  /-- A function of one row. -/
  | scalar (f : Scalar)
  /-- A function over the rows of a group, with its name as written; `distinct` counts equal
  operands once. -/
  | aggregate (f : Aggregate) (distinct : Bool) (name : String)
  deriving DecidableEq, Repr, Inhabited

/-- A term over places and known functions. -/
abbrev Formula := Term Operation Place

/-- A row. -/
abbrev Record := List Value

namespace Formula

/-! ## What is known without a row -/

/-- What a formula prefers to be compared as. -/
def affinity? : Formula → Option Affinity
  | .field p => p.column.affinity?
  | .cast a _ => some a
  | .collate _ t => affinity? t
  | _ => none

/-- How the texts of a formula are compared, where that is stated. -/
def collation? : Formula → Option Collation
  | .collate c _ => some c
  | _ => none

/-- The affinity under which two formulas are compared. -/
def comparison (l r : Formula) : Affinity :=
  match affinity? l, affinity? r with
  | some a, some b => if a.isNumeric || b.isNumeric then .numeric else .blob
  | some a, none | none, some a => a
  | none, none => .blob

/-- How the texts of two formulas are compared. -/
def collation (l r : Formula) : Collation :=
  ((collation? l).or (collation? r)).getD .binary

mutual

/-- The name of the first function over rows in a formula, if there is one. -/
def aggregateName? : Formula → Option String
  | .call (.aggregate _ _ name) _ => some name
  | .call (.scalar _) args => aggregateNameOf? args
  | .unary _ t | .cast _ t | .collate _ t => aggregateName? t
  | .binary _ l r => (aggregateName? l).or (aggregateName? r)
  | .choose c yes no => ((aggregateName? c).or (aggregateName? yes)).or (aggregateName? no)
  | .literal _ | .field _ | .parameter _ => none

/-- The name of the first function over rows in some formulas, if there is one. -/
def aggregateNameOf? : List Formula → Option String
  | [] => none
  | t :: rest => (aggregateName? t).or (aggregateNameOf? rest)

end

/-- Whether a formula has a function over rows in it. -/
def isAggregate (t : Formula) : Bool := (aggregateName? t).isSome

/-- The name of the kind of values of an affinity. -/
def kindOfAffinity : Affinity → Option String
  | .integer => some "INTEGER"
  | .real => some "REAL"
  | .text => some "TEXT"
  | .blob => some "BLOB"
  | .numeric => none

/-- The name of the kind of a formula's values, as far as it is known without a row. -/
def kind? : Formula → Option String
  | .literal (.whole _) => some "INTEGER"
  | .literal (.real _) => some "REAL"
  | .literal (.text _) => some "TEXT"
  | .literal (.blob _) => some "BLOB"
  | .literal .null | .parameter _ => none
  | .field p => p.column.kind?
  | .unary .not _ | .unary .complement _ => some "INTEGER"
  | .unary .minus t | .unary .plus t | .collate _ t => kind? t
  | .binary op l r =>
    match op with
    | .add | .sub | .mul | .div | .rem => (kind? l).or (kind? r)
    | .concat => some "TEXT"
    | _ => some "INTEGER"
  | .choose _ yes no => (kind? yes).or (kind? no)
  | .cast a _ => kindOfAffinity a
  | .call (.aggregate f _ _) args =>
    match f, args with
    | .rows, _ | .count, _ => some "INTEGER"
    | .sum, t :: _ => if kind? t == some "INTEGER" then some "INTEGER" else some "REAL"
    | .total, _ | .avg, _ => some "REAL"
    | .least, t :: _ | .greatest, t :: _ => kind? t
    | _, _ => none
  | .call (.scalar _) _ => none

/-! ## Operators -/

/-- A sum, difference or product: exact where it fits, else rounded. -/
def arithmetic (exact : Int → Int → Int) (rounded : Binary64 → Binary64 → Binary64)
    (v w : Value) : Value :=
  match v.toNumber, w.toNumber with
  | .null, _ | _, .null => .null
  | .whole m, .whole n =>
    let k := exact m.toInt n.toInt
    if fits k then .whole (Int64.ofInt k)
    else Value.ofReal (rounded (.ofInt m.toInt) (.ofInt n.toInt))
  | x, y => Value.ofReal (rounded x.toReal y.toReal)

/-- A quotient; nothing is divided by zero. -/
def quotient (v w : Value) : Value :=
  match v.toNumber, w.toNumber with
  | .null, _ | _, .null => .null
  | .whole m, .whole n =>
    if n == 0 then .null
    else
      let k := Int.tdiv m.toInt n.toInt
      if fits k then .whole (Int64.ofInt k)
      else Value.ofReal ((Binary64.ofInt m.toInt).div (.ofInt n.toInt))
  | x, y => if y.toReal.isZero then .null else Value.ofReal (x.toReal.div y.toReal)

/-- The remainder of whole numbers; of others what is left of their whole parts. -/
def remainder (v w : Value) : Value :=
  match v.toNumber, w.toNumber with
  | .null, _ | _, .null => .null
  | .whole m, .whole n =>
    if n == 0 then .null else .whole (Int64.ofInt (Int.tmod m.toInt n.toInt))
  | x, y =>
    let (m, n) := (x.toWhole.toInt, y.toWhole.toInt)
    if n == 0 then .null else Value.ofReal (.ofInt (Int.tmod m n))

/-- An operation on the bits of two whole numbers. -/
def bitwise (f : Int64 → Int64 → Int64) (v w : Value) : Value :=
  if v.isNull || w.isNull then .null else .whole (f v.toWhole w.toWhole)

/-- Bits moved up by a number of places, or down when that is negative. -/
def shifted (n places : Int64) : Int64 :=
  let k := places.toInt
  if k ≤ -64 then (if n < 0 then -1 else 0)
  else if k < 0 then Int64.ofInt (Int.fdiv n.toInt (twoTo k.natAbs))
  else if 64 ≤ k then 0
  else Int64.ofInt (n.toInt * twoTo k.natAbs)

/-- Both of two truth values. -/
def both : Option Bool → Option Bool → Option Bool
  | some false, _ | _, some false => some false
  | some true, some true => some true
  | _, _ => none

/-- One of two truth values. -/
def either : Option Bool → Option Bool → Option Bool
  | some true, _ | _, some true => some true
  | some false, some false => some false
  | _, _ => none

/-- The order of two values; none when one is missing. -/
def compared (a : Affinity) (c : Collation) (v w : Value) : Option Ordering :=
  if v.isNull || w.isNull then none
  else some (c.order (Value.asCompared a v w) (Value.asCompared a w v))

/-- Whether two values are the same, missing ones too. -/
def sameValue (a : Affinity) (c : Collation) (v w : Value) : Bool :=
  match compared a c v w with
  | some o => o == .eq
  | none => v.isNull && w.isNull

/-- The value of an operator with two operands. -/
def binaryValue (op : BinaryOp) (a : Affinity) (c : Collation) (v w : Value) : Value :=
  let test (p : Ordering → Bool) : Value := .ofTruth ((compared a c v w).map p)
  match op with
  | .or => .ofTruth (either v.truth? w.truth?)
  | .and => .ofTruth (both v.truth? w.truth?)
  | .eq => test (· == .eq)
  | .ne => test (· != .eq)
  | .lt => test (· == .lt)
  | .le => test (· != .gt)
  | .gt => test (· == .gt)
  | .ge => test (· != .lt)
  | .same => .ofTruth (some (sameValue a c v w))
  | .distinct => .ofTruth (some !(sameValue a c v w))
  | .bitAnd => bitwise (· &&& ·) v w
  | .bitOr => bitwise (· ||| ·) v w
  | .shiftLeft => bitwise shifted v w
  | .shiftRight =>
    bitwise (fun n k => if k == Int64.minValue then shifted n 64 else shifted n (-k)) v w
  | .add => arithmetic (· + ·) Binary64.add v w
  | .sub => arithmetic (· - ·) Binary64.sub v w
  | .mul => arithmetic (· * ·) Binary64.mul v w
  | .div => quotient v w
  | .rem => remainder v w
  | .concat => if v.isNull || w.isNull then .null else .text (v.toText ++ w.toText)

/-- The value of an operator with one operand. -/
def unaryValue (op : UnaryOp) (v : Value) : Value :=
  match op with
  | .plus => v
  | .minus => arithmetic (· - ·) Binary64.sub (if v.isNull then .null else .whole 0) v
  | .complement => if v.isNull then .null else .whole (~~~v.toWhole)
  | .not => .ofTruth (v.truth?.map (!·))

/-- A value as another kind of value. -/
def castValue (a : Affinity) (v : Value) : Value :=
  if v.isNull then .null
  else
    match a with
    | .text => .text v.toText
    | .integer => .whole v.toWhole
    | .real => .real v.toReal
    | .blob => .blob v.toBytes
    | .numeric =>
      match v with
      | .whole n => .whole n
      | .real x => .real x
      | w => w.toNumber.preferWhole

/-! ## Values -/

/-- Rows of operands in which no operand occurs twice. -/
def distinctOperands (c : Collation) : List (List Value) → List (List Value)
  | [] => []
  | row :: rest =>
    row :: (distinctOperands c rest).filter fun other =>
      c.order (row.head?.getD .null) (other.head?.getD .null) != .eq

mutual

/-- The value of a formula in a row of a group. -/
def value (params : List Value) (group : List Record) (row : Record) :
    Formula → Except Problem Value
  | .literal v => .ok v
  | .field p => .ok (row[p.index]?.getD .null)
  | .parameter k => .ok (params[k]?.getD .null)
  | .unary op t => (value params group row t).map (unaryValue op)
  | .binary op l r => do
    let v ← value params group row l
    let w ← value params group row r
    return binaryValue op (comparison l r) (collation l r) v w
  | .choose c yes no => do
    let v ← value params group row c
    if v.truth? == some true then value params group row yes else value params group row no
  | .cast a t => (value params group row t).map (castValue a)
  | .collate _ t => value params group row t
  | .call (.scalar f) args => do
    let vs ← values params group row args
    f.apply ((args.findSome? collation?).getD .binary) vs
  | .call (.aggregate f distinct _) args => do
    let operands ← group.mapM fun r => values params [] r args
    let c := (args.findSome? collation?).getD .binary
    f.apply c (if distinct then distinctOperands c operands else operands)

/-- The values of some formulas in a row of a group. -/
def values (params : List Value) (group : List Record) (row : Record) :
    List Formula → Except Problem (List Value)
  | [] => .ok []
  | t :: rest => do
    let v ← value params group row t
    let vs ← values params group row rest
    return v :: vs

end

@[simp] theorem value_literal (params : List Value) (group : List Record) (row : Record)
    (v : Value) : value params group row (.literal v) = .ok v := by
  simp [value]

@[simp] theorem value_field (params : List Value) (group : List Record) (row : Record)
    (p : Place) : value params group row (.field p) = .ok (row[p.index]?.getD .null) := by
  simp [value]

/-- Whether a formula is true in a row of a group. -/
def holds (params : List Value) (group : List Record) (row : Record) (t : Formula) :
    Except Problem Bool :=
  (value params group row t).map fun v => v.truth? == some true

end Formula

end QueryPipe.Sql
