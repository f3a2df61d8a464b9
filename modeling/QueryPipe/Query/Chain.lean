import QueryPipe.Query.Plan

/-!
# Chains of plans

A chain is a list of plans. Every plan but the last becomes a named stage that later plans can
read from; the last gives the result. One supply of names serves the whole statement, and a stage
takes its name before its body is rendered.

* `base_base`: taking the row sources twice takes them once.
* `mapLast_push`: only the last plan is ever changed.
-/

namespace QueryPipe

/-- Why a chain has no statement. -/
inductive ChainFault
  /-- There is no plan. -/
  | empty
  /-- A plan on its own has no text. -/
  | plan (cause : PlanFault)
  /-- The plan at an index of the chain has no text. -/
  | stage (index : Nat) (cause : PlanFault)
  /-- A statement that is to describe columns has parameters. -/
  | parameters (count : Nat)
  deriving DecidableEq, Repr, Inhabited

/-- The wording of a chain's fault. -/
def ChainFault.message : ChainFault → String
  | .empty => "empty query plan"
  | .plan cause => cause.message
  | .stage index cause =>
    "error generating query from plan " ++ toString index ++ ": " ++ cause.message
  | .parameters count =>
    "programming error: schema probe query carries " ++ toString count ++
      " parameters, expected none"

/-- The rendered plans of a chain. -/
structure Statement where
  /-- Every plan but the last, under the name of its stage. -/
  stages : List (String × Query) := []
  /-- The plan that gives the result. -/
  last : Query
  deriving DecidableEq, Repr, Inhabited

namespace Statement

/-- A named stage as text. -/
def stageText (stage : String × Query) : String := stage.1 ++ " AS (" ++ stage.2.text ++ ") "

/-- The whole statement as text. -/
def text (st : Statement) : String :=
  (if st.stages.isEmpty then ""
    else "WITH " ++ Text.joined ", " (st.stages.map stageText)) ++ st.last.text

/-- The parameters of all plans in order. -/
def params (st : Statement) : List Parameter :=
  st.stages.flatMap (·.2.params) ++ st.last.params

/-- The statement as one query. -/
def query (st : Statement) : Query := { text := st.text, params := st.params }

/-- The statement with one more stage in front. -/
def precede (stage : String × Query) (st : Statement) : Statement :=
  { st with stages := stage :: st.stages }

end Statement

/-- Plans in the order their stages run. -/
structure Chain where
  /-- The plans. -/
  plans : List Plan := []
  deriving DecidableEq, Repr, Inhabited

namespace Chain

/-- The chain without plans. -/
def empty : Chain := {}

/-- Whether there is no plan. -/
def isEmpty (c : Chain) : Bool := c.plans.isEmpty

/-- The number of plans. -/
def length (c : Chain) : Nat := c.plans.length

/-- The plan that gives the result. -/
def last? (c : Chain) : Option Plan := c.plans.getLast?

/-- The chain with a plan appended. -/
def push (c : Chain) (p : Plan) : Chain := ⟨c.plans ++ [p]⟩

/-- The chain with its last plan replaced by what the function makes of it. -/
def mapLast (c : Chain) (f : Plan → Except ChainFault Plan) : Except ChainFault Chain :=
  match c.last? with
  | none => .error .empty
  | some p => (f p).map fun q => ⟨c.plans.dropLast ++ [q]⟩

@[simp] theorem last?_push (c : Chain) (p : Plan) : (c.push p).last? = some p := by
  simp [push, last?]

/-- A change of the last plan leaves the plans before it. -/
theorem mapLast_push (c : Chain) (p : Plan) (f : Plan → Except ChainFault Plan) :
    (c.push p).mapLast f = (f p).map c.push := by
  simp [mapLast, push, last?]
  rfl

/-- The last plan widened and all others kept. -/
def widenLast : List Plan → List Plan
  | [] => []
  | [p] => [p.widen]
  | p :: next :: rest => p :: widenLast (next :: rest)

/-- Every plan reduced to its row source. The last also reads `*` after its own columns, so that
each column its filter may name is among the columns of the result. -/
def base (c : Chain) : Chain := ⟨widenLast (c.plans.map Plan.base)⟩

/-- The statement of plans that follow `index` others, with the supply after it. -/
def statementFrom (index : Nat) :
    List Plan → AliasSupply → Except ChainFault Statement × AliasSupply
  | [], supply => (.error .empty, supply)
  | [p], supply =>
    let (query, supply) := p.render supply
    (query.mapError (.stage index ·) |>.map fun last => { last }, supply)
  | p :: next :: rest, supply =>
    let (name, supply) := supply.resolve p.alias?
    match p.render supply with
    | (.error cause, supply) => (.error (.stage index cause), supply)
    | (.ok query, supply) =>
      let (others, supply) := statementFrom (index + 1) (next :: rest) supply
      (others.map (Statement.precede (name, query)), supply)

/-- The statement of a chain, with the supply after it. Names drawn before a plan fails stay
drawn. -/
def statement (c : Chain) (supply : AliasSupply) : Except ChainFault Statement × AliasSupply :=
  statementFrom 0 c.plans supply

/-- The query of a chain, with the supply after it. -/
def render (c : Chain) (supply : AliasSupply) : Except ChainFault Query × AliasSupply :=
  let (st, supply) := c.statement supply
  (st.map Statement.query, supply)

/-- The query of the chain under names of its own. -/
def query (c : Chain) : Except ChainFault Query := (c.render {}).1

/-- The text of the statement whose result columns are those of the row sources. It has no
parameters, since only filters carry them. -/
def probe (c : Chain) : Except ChainFault String := do
  let query ← c.base.query
  if query.params.isEmpty then pure query.text else throw (.parameters query.params.length)

end Chain

end QueryPipe
