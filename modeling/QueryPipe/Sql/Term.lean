import QueryPipe.Sql.Value
import QueryPipe.Text.Blank

/-!
# Terms

A term stands for a value. What its names and its functions are is left to two types: where a
script is read they are words, and where a row is looked at they are places in it and known
functions.
-/

namespace QueryPipe.Sql

/-- An operator in front of one operand. -/
inductive UnaryOp
  /-- No change, but no column any more. -/
  | plus
  /-- The number of the other sign. -/
  | minus
  /-- All bits turned around. -/
  | complement
  /-- The other truth value. -/
  | not
  deriving DecidableEq, Repr, Inhabited

/-- An operator between two operands. -/
inductive BinaryOp
  /-- One of two is true. -/
  | or
  /-- Both are true. -/
  | and
  /-- Equality; nothing is equal to a missing value. -/
  | eq
  /-- Inequality. -/
  | ne
  /-- Before. -/
  | lt
  /-- Before or equal. -/
  | le
  /-- After. -/
  | gt
  /-- After or equal. -/
  | ge
  /-- Equality, also of missing values. -/
  | same
  /-- Inequality, also of missing values. -/
  | distinct
  /-- Bits in both. -/
  | bitAnd
  /-- Bits in one of two. -/
  | bitOr
  /-- Bits moved up. -/
  | shiftLeft
  /-- Bits moved down. -/
  | shiftRight
  /-- Sum. -/
  | add
  /-- Difference. -/
  | sub
  /-- Product. -/
  | mul
  /-- Quotient. -/
  | div
  /-- Remainder. -/
  | rem
  /-- Two texts joined. -/
  | concat
  deriving DecidableEq, Repr, Inhabited

/-- How texts are compared. -/
inductive Collation
  /-- By their characters. -/
  | binary
  /-- Without regard to ASCII letter case. -/
  | caseless
  /-- Without regard to spaces at the end. -/
  | trailing
  deriving DecidableEq, Repr, Inhabited

/-- A term over functions `φ` and names `ν`. -/
inductive Term (φ ν : Type)
  /-- A value. -/
  | literal (v : Value)
  /-- What a name stands for. -/
  | field (x : ν)
  /-- A parameter by its number, from zero. -/
  | parameter (index : Nat)
  /-- An operator with one operand. -/
  | unary (op : UnaryOp) (t : Term φ ν)
  /-- An operator with two operands. -/
  | binary (op : BinaryOp) (l r : Term φ ν)
  /-- One of two terms, by the truth of a condition. -/
  | choose (c yes no : Term φ ν)
  /-- The value as another kind of value. -/
  | cast (a : Affinity) (t : Term φ ν)
  /-- A term whose texts are compared in a certain way. -/
  | collate (c : Collation) (t : Term φ ν)
  /-- A function of terms. -/
  | call (f : φ) (args : List (Term φ ν))
  deriving Repr, Inhabited

/-- What a script says about a function before the operands. -/
structure Callee where
  /-- The name as written. -/
  name : String
  /-- Whether equal operands count once. -/
  distinct : Bool := false
  /-- Whether a star stands for the operands. -/
  star : Bool := false
  deriving DecidableEq, Repr, Inhabited

/-- A name as a script has it. -/
structure Reference where
  /-- The names before the last point, of a schema and of a table. -/
  qualifiers : List String
  /-- The last name. -/
  name : String
  /-- Whether it stands in double quotes, so that it may be a text. -/
  double : Bool := false
  /-- Whether it stands without quotes, so that it may be a truth value. -/
  bare : Bool := false
  deriving DecidableEq, Repr, Inhabited

/-- The name with its qualifiers. -/
def Reference.text (r : Reference) : String :=
  Text.joined "." (r.qualifiers ++ [r.name])

/-- A term as a script has it. -/
abbrev Expression := Term Callee Reference

namespace Term

variable {φ ν : Type}

/-- Whether two terms are equal or both compared values are missing. -/
def isNull (t : Term φ ν) : Term φ ν := .binary .same t (.literal .null)

/-- Whether a value is there. -/
def isPresent (t : Term φ ν) : Term φ ν := .binary .distinct t (.literal .null)

/-- The term without what is said about its comparison. -/
def bare : Term φ ν → Term φ ν
  | .collate _ t => t.bare
  | t => t

mutual

/-- Whether a function that satisfies a test is called anywhere in a term. -/
def hasCall (p : φ → Nat → Bool) : Term φ ν → Bool
  | .call f args => p f args.length || anyHasCall p args
  | .unary _ t | .cast _ t | .collate _ t => t.hasCall p
  | .binary _ l r => l.hasCall p || r.hasCall p
  | .choose c yes no => c.hasCall p || yes.hasCall p || no.hasCall p
  | .literal _ | .field _ | .parameter _ => false

/-- Whether a function that satisfies a test is called anywhere in some terms. -/
def anyHasCall (p : φ → Nat → Bool) : List (Term φ ν) → Bool
  | [] => false
  | t :: rest => t.hasCall p || anyHasCall p rest

end

end Term

end QueryPipe.Sql
