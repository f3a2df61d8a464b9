import QueryPipe.Query.Fragment

/-!
# Plans

A plan holds at most one fragment of each kind and stands for one `SELECT`. A raw statement on a
plan takes the place of everything else on it.

* `base_base`: taking the row source twice takes it once.
* `base_params`: a row source on its own carries no parameters.
-/

namespace QueryPipe

/-- SQL text and its parameters, in the order of their `?`. -/
structure Query where
  /-- The statement. -/
  text : String
  /-- One parameter for each placeholder. -/
  params : List Parameter := []
  deriving DecidableEq, Repr, Inhabited

/-- Why a plan has no text. -/
inductive PlanFault
  /-- Neither a selection nor a raw statement. -/
  | missingSelect
  /-- A selection without tables. -/
  | noSourceTable
  deriving DecidableEq, Repr, Inhabited

/-- The wording of a plan's fault. -/
def PlanFault.message : PlanFault → String
  | .missingSelect => "no SELECT clause or raw SQL present in query plan"
  | .noSourceTable => "SELECT names no table to read from"

/-- One slot for each kind of fragment. -/
structure Plan where
  /-- What is read. -/
  select : Option Selection := none
  /-- The join. -/
  join : Option Joining := none
  /-- The row filter. -/
  filter : Option Filter := none
  /-- The row limit. -/
  limit : Option UInt32 := none
  /-- The order. -/
  sort : Option Sorting := none
  /-- The raw statement, which wins over all else. -/
  raw : Option String := none
  deriving DecidableEq, Repr, Inhabited

namespace Plan

/-- Fills the slot of the fragment's kind. -/
def set (p : Plan) : Fragment → Plan
  | .select s => { p with select := some s }
  | .join j => { p with join := some j }
  | .filter w => { p with filter := some w }
  | .limit n => { p with limit := some n }
  | .sort o => { p with sort := some o }
  | .raw text => { p with raw := some text }

/-- Adds a condition to the filter, which is created on first use. -/
def addCondition (p : Plan) (c : Condition) : Plan :=
  { p with filter := some ((p.filter.getD {}).and c) }

/-- The row source alone: filter, order and limit removed. -/
def base (p : Plan) : Plan := { select := p.select, join := p.join, raw := p.raw }

/-- The row source of a row source is itself. -/
@[simp] theorem base_base (p : Plan) : p.base.base = p.base := rfl

/-- The plan with its selection widened, when it has one. -/
def widen (p : Plan) : Plan := { p with select := p.select.map Selection.widen }

/-- The alias of the selection, also the name of the plan's stage. -/
def alias? (p : Plan) : Option String := p.select.bind Selection.alias?

/-- The clauses after the selection, in the order SQL wants them. -/
def clauses (p : Plan) : List String :=
  (p.join.map Joining.sql).toList ++ (p.filter.map Filter.sql).toList ++
    (p.sort.map Sorting.sql).toList ++ (p.limit.map limitSql).toList

/-- The parameters of the filter. -/
def params (p : Plan) : List Parameter := (p.filter.map Filter.params).getD []

/-- What a plan reads from: a raw statement, or a selection with at least one table. -/
def source? (p : Plan) : Except PlanFault (String ⊕ Selection) :=
  match p.raw, p.select with
  | some text, _ => .ok (.inl text)
  | none, none => .error .missingSelect
  | none, some s => if s.tables.isEmpty then .error .noSourceTable else .ok (.inr s)

/-- The query of a plan, with the supply after it. Names are drawn only where text is made. -/
def render (p : Plan) (supply : AliasSupply) : Except PlanFault Query × AliasSupply :=
  match p.source? with
  | .error fault => (.error fault, supply)
  | .ok (.inl text) => (.ok { text }, supply)
  | .ok (.inr s) =>
    let (head, supply) := s.render supply
    let parts := (head :: p.clauses).filter (fun clause => !clause.isEmpty)
    (.ok { text := Text.joined " " parts, params := p.params }, supply)

/-- A row source asks for no parameters. -/
@[simp] theorem base_params (p : Plan) : p.base.params = [] := rfl

end Plan

end QueryPipe
