import QueryPipe.Sql.Plan

/-!
# Flattening plans

A selection from a selection is taken as one where that is thought to make no difference. It makes
one where a limit without an order stands inside an order: the rows are then sorted before they
are cut. An order inside another, or inside a join, is dropped, so that rows with equal keys keep
the order of the source below.
-/

namespace QueryPipe.Sql

/-! ## Formulas over another source -/

namespace Formula

mutual

/-- A formula over the rows of a selection as one over the rows of its source. -/
def substitute (outputs : List Formula) : Formula → Formula
  | .literal v => .literal v
  | .field p => outputs[p.index]?.getD (.literal .null)
  | .parameter k => .parameter k
  | .unary op t => .unary op (substitute outputs t)
  | .binary op l r => .binary op (substitute outputs l) (substitute outputs r)
  | .choose c yes no =>
    .choose (substitute outputs c) (substitute outputs yes) (substitute outputs no)
  | .cast a t => .cast a (substitute outputs t)
  | .collate c t => .collate c (substitute outputs t)
  | .call f args => .call f (substituteAll outputs args)

/-- Formulas over the rows of a selection as ones over the rows of its source. -/
def substituteAll (outputs : List Formula) : List Formula → List Formula
  | [] => []
  | t :: rest => substitute outputs t :: substituteAll outputs rest

end

end Formula

/-- Both of two conditions, as far as there are any. -/
def bothConditions : Option Formula → Option Formula → Option Formula
  | some a, some b => some (.binary .and a b)
  | some a, none => some a
  | none, b? => b?

/-! ## Orders that do not count -/

namespace Core

/-- Whether a selection only chooses, shows and sorts rows. -/
def isPlain (c : Core) : Bool := !c.distinct && !c.grouped

/-- Whether functions over rows are asked for whose value can depend on the order of rows. -/
def keepsOrder (c : Core) : Bool :=
  let asks (t : Formula) : Bool :=
    t.hasCall fun f _ =>
      match f with
      | .aggregate f _ _ => !([Aggregate.rows, .count, .least, .greatest].contains f)
      | .scalar _ => false
  c.outputs.any asks || c.having?.any asks || c.keys.any fun k => asks k.formula

/-- Whether a result column calls a function. -/
def isComplex (c : Core) : Bool := c.outputs.any fun t => t.hasCall fun _ _ => true

end Core

namespace Plan

/-- A plan without its order, which counts where there is a limit. -/
def withoutOrder : Plan → Plan
  | .select core width source =>
    if core.limit?.isSome then .select core width source
    else .select { core with keys := [] } width source
  | .arranged keys limit? r => if limit?.isSome then .arranged keys limit? r else r
  | p => p

/-- A source of a join without orders that count for nothing there. -/
def loosened : Plan → Plan
  | .select core width source =>
    if core.limit?.isSome then .select core width source
    else if core.isPlain then .select { core with keys := [] } width source.loosened
    else .select { core with keys := [] } width source
  | .join kind condition? filled m n left right =>
    .join kind condition? filled m n left.loosened right.loosened
  | p => p.withoutOrder

/-- The source of a selection without orders that count for nothing there. -/
def sourceOf (core : Core) (source : Plan) : Plan :=
  if core.keepsOrder then source
  else
    match source with
    | .join .. => source.loosened
    | _ => if core.keys.isEmpty then source else source.withoutOrder

/-! ## Two selections in one -/

/-- Whether a selection from a selection can be taken as one; `among` tells that it is one of
combined relations. -/
def canMerge (among : Bool) (outer inner : Core) (innerSource : Plan) : Bool :=
  let limited := inner.limit?.isSome
  let ordered := !inner.keys.isEmpty
  let hasSource := match innerSource with | .unit => false | _ => true
  let cutsRows := (inner.limit?.bind Limit.offset?).isSome
  inner.isPlain && hasSource && !cutsRows &&
    !(ordered && (!outer.keys.isEmpty || outer.grouped || outer.isComplex)) &&
    !(limited && (outer.limit?.isSome || among || outer.grouped || outer.condition?.isSome ||
      outer.distinct))

/-- Two selections as one over the source of the inner. -/
def mergedCore (outer inner : Core) : Core where
  distinct := outer.distinct
  outputs := Formula.substituteAll inner.outputs outer.outputs
  condition? :=
    bothConditions inner.condition? (outer.condition?.map (Formula.substitute inner.outputs))
  grouped := outer.grouped
  groups := Formula.substituteAll inner.outputs outer.groups
  having? := outer.having?.map (Formula.substitute inner.outputs)
  keys :=
    if outer.keys.isEmpty then inner.keys
    else outer.keys.map fun k => { k with formula := Formula.substitute inner.outputs k.formula }
  limit? := outer.limit?.or inner.limit?

/-- The selections that are one below the other in a plan, if it is nothing else. -/
def members? : Plan → Option (List (Core × Nat × Plan))
  | .select core width source =>
    let hasSource := match source with | .unit => false | _ => true
    if core.isPlain && core.keys.isEmpty && core.limit?.isNone && hasSource then
      some [(core, width, source)]
    else none
  | .combine .all left right =>
    match members? left, members? right with
    | some l, some r => some (l ++ r)
    | _, _ => none
  | _ => none

/-- A selection from several relations one below the other as selections from each. -/
def distributed? (among : Bool) (outer : Core) (limit? : Option Limit) (r : Plan) : Option Plan :=
  let limited := limit?.isSome
  let refused := !outer.isPlain || (limit?.bind Limit.offset?).isSome ||
    (limited && (outer.limit?.isSome || among || outer.condition?.isSome)) ||
    outer.keys.any fun k => k.output?.isNone
  match if refused then none else members? r with
  | some (first :: second :: rest) =>
    let affinities (m : Core × Nat × Plan) : List (Option Affinity) :=
      m.1.outputs.map Formula.affinity?
    if !(second :: rest).all fun m => affinities m == affinities first then none
    else
      let each := { outer with keys := [], limit? := none }
      let select (m : Core × Nat × Plan) : Plan := .select (mergedCore each m.1) m.2.1 m.2.2
      let all := (second :: rest).foldl (fun p m => Plan.combine .all p (select m)) (select first)
      let keys := outer.keys.map fun k =>
        { k with formula := .field ⟨k.output?.getD 0, { name := "" }⟩ }
      let limit? := outer.limit?.or limit?
      some (if keys.isEmpty && limit?.isNone then all else .arranged keys limit? all)
  | _ => none

/-- A selection from a source as one plan with it, if that can be. -/
def merged? (among : Bool) (core : Core) (source : Plan) : Option Plan :=
  match source with
  | .select inner width below =>
    if canMerge among core inner below then some (.select (mergedCore core inner) width below)
    else none
  | .combine .all left right => distributed? among core none (.combine .all left right)
  | .arranged [] limit? r => distributed? among core limit? r
  | _ => none

/-- The number of relations that a plan is built from. -/
def size : Plan → Nat
  | .unit | .table _ | .values _ => 1
  | .join _ _ _ _ _ left right | .combine _ left right => left.size + right.size + 1
  | .select _ _ source => source.size + 1
  | .arranged _ _ r => r.size + 1

/-- The relations of combined ones without orders that count for nothing under another. -/
def underOrder : Plan → Plan
  | .combine how left right => .combine how left.underOrder right.underOrder
  | .select core width source => .select core width source.withoutOrder
  | p => p

/-- A plan with selections from selections taken as one, from the outside in. The fuel bounds the
number of steps. -/
def flattenedWith : Nat → Bool → Plan → Plan
  | 0, _, p => p
  | fuel + 1, among, p =>
    match p with
    | .select core width source =>
      let source := sourceOf core source
      match merged? among core source with
      | some q => flattenedWith fuel among q
      | none => .select core width (flattenedWith fuel false source)
    | .join kind condition? filled m n left right =>
      .join kind condition? filled m n (flattenedWith fuel false left)
        (flattenedWith fuel false right)
    | .combine how left right =>
      .combine how (flattenedWith fuel true left) (flattenedWith fuel true right)
    | .arranged keys limit? r =>
      let r := if keys.isEmpty then r else r.underOrder
      .arranged keys limit? (flattenedWith fuel true r)
    | .unit | .table _ | .values _ => p

/-- A plan with selections from selections taken as one. -/
def flattened (p : Plan) : Plan := flattenedWith (4 * p.size) false p

end Plan

end QueryPipe.Sql
