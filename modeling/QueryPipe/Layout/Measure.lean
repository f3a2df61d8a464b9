import QueryPipe.Layout.Token

/-!
# Measures of clauses and blocks

Whether a clause or a block stays on one line is decided by what it holds, before any of it is
written. A clause reaches from its keyword to the next one of its level; a block reaches from its
start to its end. Sizes are in bytes.
-/

namespace QueryPipe.Layout

/-- The largest size of a block on one line. -/
def blockLimit : Nat := 50

/-- The largest size of a clause on one line. -/
def clauseLimit : Nat := 40

/-! ## Clauses -/

/-- What a clause holds. -/
structure Extent where
  /-- Its size; blanks between two tokens count one. -/
  size : Nat := 0
  /-- The number of its parts, one more than its commas, unless there is nothing in it. -/
  arguments : Nat := 0
  /-- The number of its blocks. -/
  blocks : Nat := 0
  deriving DecidableEq, Repr, Inhabited

/-- The extent with one more token; `depth` blocks of the clause are open. -/
def Extent.add (e : Extent) (depth : Nat) (t : Token) : Extent :=
  match t.kind with
  | .blank => { e with size := e.size + 1 }
  | .opening =>
    { e with size := e.size + t.size, blocks := if depth == 0 then e.blocks + 1 else e.blocks }
  | .closing => { e with size := e.size + t.size }
  | _ =>
    let arguments :=
      if t.isSign ',' then (if depth == 0 then e.arguments + 1 else e.arguments)
      else max e.arguments 1
    { e with size := e.size + t.size, arguments }

/-- The number of open blocks after a token. -/
def depthAfter (depth : Nat) (t : Token) : Nat :=
  match t.kind with
  | .opening => depth + 1
  | .closing => depth - 1
  | _ => depth

/-- Whether a clause ends before a token: at the next keyword of its level, or at the end of the
block it stands in. -/
def endsClause (depth : Nat) (t : Token) : Bool :=
  depth == 0 && (t.isTop || t.kind == .closing)

/-- The extent of a clause under way. -/
def extentFrom (e : Extent) (depth : Nat) : List Token → Extent
  | [] => e
  | t :: rest =>
    if endsClause depth t then e else extentFrom (e.add depth t) (depthAfter depth t) rest

/-- The extent of the clause whose keyword stands before the tokens. -/
def extent (rest : List Token) : Extent := extentFrom {} 0 rest

/-! ## Blocks -/

/-- What a block holds. -/
structure Block where
  /-- Its size, both ends included. -/
  size : Nat := 0
  /-- Whether something in it ends a line. -/
  broken : Bool := false
  /-- Whether something in it may start a line. -/
  connective : Bool := false
  /-- The largest size from the end of a clause's keyword to the end of the next one's. -/
  stretch : Nat := 0
  deriving DecidableEq, Repr, Inhabited

/-- Whether a token ends a line wherever it stands. -/
def endsLine (t : Token) : Bool :=
  t.kind == .lineComment || t.kind == .blockComment || t.isSign ';'

/-- The block with one more token. -/
def Block.add (b : Block) (t : Token) : Block :=
  { b with
    size := b.size + t.size
    broken := b.broken || endsLine t
    connective := b.connective || t.kind == .keyword .connective }

/-- The block with one more keyword of a clause; `last?` is the size before which the clause
before it began. -/
def Block.addTop (b : Block) (last? : Option Nat) : Block :=
  match last? with
  | none => b
  | some start => { b with stretch := max b.stretch (b.size - start) }

/-- A block under way. For every open level, the list tells where its last clause began. -/
def blockFrom (b : Block) (levels : List (Option Nat)) : List Token → Block
  | [] => b
  | t :: rest =>
    let b := b.add t
    match t.kind, levels with
    | .opening, levels => blockFrom b (none :: levels) rest
    | .closing, _ :: outer => if outer.isEmpty then b else blockFrom b outer rest
    | .closing, [] => b
    | .keyword _, last? :: outer =>
      if t.isTop then blockFrom (b.addTop last?) (some b.size :: outer) rest
      else blockFrom b levels rest
    | _, levels => blockFrom b levels rest

/-- The block that the tokens start with. -/
def block (ts : List Token) : Block := blockFrom {} [] ts

/-- Whether a block stays on one line. -/
def Block.fits (b : Block) : Bool :=
  !b.broken && b.size ≤ blockLimit && b.stretch ≤ clauseLimit &&
    (!b.connective || b.size ≤ clauseLimit)

end QueryPipe.Layout
