import QueryPipe.Sql.Records
import QueryPipe.Sql.Table

/-!
# Plans

A plan is a relation whose names were all found. Its rows are those of its source that satisfy
the condition, taken together in groups where that is asked for, shown as the result columns,
sorted, and cut.
-/

namespace QueryPipe.Sql

/-- How many rows there are at most, and how many are left out before them. -/
structure Limit where
  /-- The greatest number of rows. -/
  count : Formula
  /-- How many rows are left out, if that is stated. -/
  offset? : Option Formula
  deriving Inhabited

/-- What a selection makes of the rows of its source. -/
structure Core where
  /-- Whether equal rows count once. -/
  distinct : Bool := false
  /-- The result columns. -/
  outputs : List Formula
  /-- The condition on rows. -/
  condition? : Option Formula := none
  /-- Whether rows are taken together in groups. -/
  grouped : Bool := false
  /-- What rows are grouped by. -/
  groups : List Formula := []
  /-- The condition on groups. -/
  having? : Option Formula := none
  /-- What rows are sorted by. -/
  keys : List Key := []
  /-- The part of the rows that is shown. -/
  limit? : Option Limit := none
  deriving Inhabited

/-- A relation whose names were found. -/
inductive Plan
  /-- One row without columns. -/
  | unit
  /-- A table. -/
  | table (t : Table)
  /-- Rows of formulas. -/
  | values (rows : List (List Formula))
  /-- Two relations side by side, of certain widths; places of the left are filled from places of
  the right. -/
  | join (kind : Join) (condition? : Option Formula) (filled : List (Place × Place))
      (leftWidth rightWidth : Nat) (left right : Plan)
  /-- A selection from a source of a certain width. -/
  | select (core : Core) (width : Nat) (source : Plan)
  /-- Two relations one below the other. -/
  | combine (how : Combination) (left right : Plan)
  /-- A relation sorted by its own columns and cut. -/
  | arranged (keys : List Key) (limit? : Option Limit) (r : Plan)
  deriving Inhabited

/-! ## Limits -/

/-- The whole number that a formula without columns is. -/
def countOf (params : List Value) (t : Formula) : Except Problem Int := do
  let v ← t.value params [] []
  match v.preferNumber with
  | .whole n => return n.toInt
  | _ => throw .mismatch

/-- The part of rows that a limit leaves, if there is one. -/
def limitOf (params : List Value) (limit? : Option Limit) (rows : Except Problem (List Record)) :
    Except Problem (List Record) :=
  match limit? with
  | none => rows
  | some l => do
    let n ← countOf params l.count
    let k ←
      match l.offset? with
      | none => pure 0
      | some t => countOf params t
    let rows ← rows
    return cutRecords n k rows

/-! ## Groups -/

mutual

/-- The last least or greatest value that a formula asks for, with its operand. -/
def lastExtreme? : Formula → Option (Aggregate × Formula)
  | .call (.aggregate f _ _) args =>
    if f == .least || f == .greatest then args.head?.map (f, ·) else none
  | .call (.scalar _) args => lastExtremeOf? args
  | .unary _ t | .cast _ t | .collate _ t => lastExtreme? t
  | .binary _ l r => (lastExtreme? r).or (lastExtreme? l)
  | .choose c yes no => ((lastExtreme? no).or (lastExtreme? yes)).or (lastExtreme? c)
  | .literal _ | .field _ | .parameter _ => none

/-- The last least or greatest value that some formulas ask for. -/
def lastExtremeOf? : List Formula → Option (Aggregate × Formula)
  | [] => none
  | t :: rest => (lastExtremeOf? rest).or (lastExtreme? t)

end

/-- The row of a group that stands for it: the first, or the one with the extreme value that is
asked for. -/
def representative (params : List Value) (width : Nat) (extreme? : Option (Aggregate × Formula))
    (group : List Record) : Except Problem Record :=
  match group with
  | [] => .ok (List.replicate width .null)
  | first :: rest =>
    match extreme? with
    | none => .ok first
    | some (f, t) => do
      let start ← t.value params [] first
      let c := (Formula.collation? t).getD .binary
      let wanted : Ordering := if f == .least then .lt else .gt
      let (row, _) ← rest.foldlM (fun ((row, best) : Record × Value) r => do
        let v ← t.value params [] r
        return if !v.isNull && (best.isNull || c.order v best == wanted) then (r, v)
          else (row, best)) (first, start)
      return row

/-- Rows with equal values of formulas in groups, in the order of these values. -/
def groupRecords (params : List Value) (terms : List Formula) (rows : List Record) :
    Except Problem (List (List Record)) := do
  let keys : List Key := terms.map fun t => { formula := t }
  let keyed ← rows.mapM fun row => do
    let vs ← Formula.values params [] row terms
    return (vs, row)
  let sorted := sortedByKeys keys Prod.fst keyed
  let groups := sorted.splitBy fun a b => orderByKeys keys a.1 b.1 == .eq
  return groups.map fun g => g.map Prod.snd

namespace Core

/-- The rows that are shown, each with its group. -/
def contexts (c : Core) (params : List Value) (width : Nat) (rows : List Record) :
    Except Problem (List (List Record × Record)) := do
  if c.grouped then
    let groups ← if c.groups.isEmpty then pure [rows] else groupRecords params c.groups rows
    let extreme? := lastExtremeOf? c.outputs
    groups.mapM fun g => do
      let row ← representative params width extreme? g
      return (g, row)
  else return rows.map fun row => ([], row)

/-- The groups that satisfy the condition on groups, if there is one. -/
def keptGroups (c : Core) (params : List Value) (contexts : List (List Record × Record)) :
    Except Problem (List (List Record × Record)) :=
  match c.having? with
  | none => .ok contexts
  | some t => contexts.filterM fun (g, row) => t.holds params g row

/-- The result rows, each with the values of its keys. -/
def shown (c : Core) (params : List Value) (contexts : List (List Record × Record)) :
    Except Problem (List (Record × List Value)) :=
  contexts.mapM fun (g, row) => do
    let vs ← Formula.values params g row c.outputs
    let ks ← Formula.values params g row (c.keys.map Key.formula)
    return (vs, ks)

/-- The rows of a selection from the rows of its source. -/
def rows (c : Core) (params : List Value) (width : Nat) (source : List Record) :
    Except Problem (List Record) := do
  let kept ← filterRecords params c.condition? source
  let contexts ← c.contexts params width kept
  let contexts ← c.keptGroups params contexts
  let shown ← c.shown params contexts
  let once := if c.distinct then distinctBy Prod.fst shown else shown
  return (sortedByKeys c.keys Prod.snd once).map Prod.fst

end Core

/-- Rows in the order of some of their own columns. -/
def arrangedRecords (params : List Value) (keys : List Key) (rows : List Record) :
    Except Problem (List Record) := do
  let keyed ← rows.mapM fun row => do
    let vs ← Formula.values params [] row (keys.map Key.formula)
    return (row, vs)
  return (sortedByKeys keys Prod.snd keyed).map Prod.fst

namespace Plan

/-! ## Rows -/

/-- The rows of a plan under parameters. -/
def rows (params : List Value) : Plan → Except Problem (List Record)
  | .unit => .ok [[]]
  | .table t => .ok t.records
  | .values rows => rows.mapM (Formula.values params [] [])
  | .join kind condition? filled leftWidth rightWidth left right => do
    let l ← left.rows params
    let r ← right.rows params
    let joined ← joinRecords params kind condition? leftWidth rightWidth l r
    return joined.map (filledFrom filled)
  | .select core width source =>
    limitOf params core.limit? do
      let inner ← source.rows params
      core.rows params width inner
  | .combine how left right => do
    let l ← left.rows params
    let r ← right.rows params
    return combinedRecords how l r
  | .arranged keys limit? r =>
    limitOf params limit? do
      let inner ← r.rows params
      arrangedRecords params keys inner

end Plan

end QueryPipe.Sql
