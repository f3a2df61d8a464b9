import QueryPipe.Command.Invocation
import QueryPipe.Fault
import QueryPipe.Wire.ChainDocument

/-!
# What a tool does

A tool reads the chain that reaches it, changes one clause, and hands the chain on, shows its
query, or has it evaluated. A terminal in place of the input means that no chain comes in; one in
place of the output means that there is no next tool, so the chain is evaluated there.

* `input_of_starting`: a tool that starts a stage is never stopped by its input.
* `apply_eval`: evaluating changes nothing.
-/

namespace QueryPipe.Command

/-- Which ends of a tool are terminals. -/
structure Terminals where
  /-- Whether the input is. -/
  input : Bool := false
  /-- Whether the output is. -/
  output : Bool := false
  deriving DecidableEq, Repr, Inhabited

/-- What becomes of the chain. -/
inductive Action
  /-- It goes to the next tool. -/
  | emit (chain : Chain)
  /-- Its query is shown. -/
  | display (chain : Chain)
  /-- It is evaluated, to a file if one is named. -/
  | evaluate (chain : Chain) (format : OutputFormat) (file? : Option String)
  deriving DecidableEq, Repr, Inhabited

/-- The chain that an action is about. -/
def Action.chain : Action → Chain
  | .emit chain => chain
  | .display chain => chain
  | .evaluate chain _ _ => chain

namespace Tool

/-! ## Input -/

/-- The chain that reaches a tool. A tool that starts a stage makes do with none where there is
nothing readable; every other tool needs a chain with a plan. -/
def input (t : Tool) (terminal : Bool) (document : List UInt8) : Except Fault Chain :=
  if t.startsStage then
    if terminal then .ok .empty
    else
      match Chain.load document with
      | .ok chain => .ok chain
      | .error _ => .ok .empty
  else if terminal then .error (.argument (.noInput t.name))
  else
    match Chain.load document with
    | .error problem => .error (.wire problem)
    | .ok chain => if chain.isEmpty then .error (.chain .empty) else .ok chain

/-- A tool that starts a stage can do without a chain: whatever reaches it, it has one to work
on. -/
theorem input_of_starting (t : Tool) (terminal : Bool) (document : List UInt8)
    (h : t.startsStage = true) : ∃ chain, t.input terminal document = .ok chain := by
  unfold input
  rw [if_pos h]
  cases terminal
  · cases Chain.load document <;> simp
  · simp

/-! ## Change -/

/-- The selection that `cat` starts a stage with. -/
def selectionOf (r : CatRequest) : Selection where
  tables := r.datasets.map Dataset.reference
  alias? := r.alias?
  columns := if r.columns.isEmpty then ["*"] else r.columns

/-- The plan with other columns; it must have a selection. -/
def withColumns (columns : List String) (p : Plan) : Except ChainFault Plan :=
  match p.select with
  | none => .error (.plan .missingSelect)
  | some s => .ok (p.set (.select { s with columns }))

/-- The chain with its last plan changed. -/
def changeLast (chain : Chain) (change : Plan → Except ChainFault Plan) : Except Fault Chain :=
  (chain.mapLast change).mapError .chain

/-- The one change of a tool. -/
def apply (t : Tool) (chain : Chain) : Except Fault Chain :=
  match t with
  | .cat r => .ok (chain.push (({} : Plan).set (.select (selectionOf r))))
  | .sql text => .ok (chain.push (({} : Plan).set (.raw text)))
  | .cut r =>
    match r.columns with
    | .error problem => .error (.argument problem)
    | .ok columns => changeLast chain (withColumns columns)
  | .grep r =>
    match r.condition with
    | .error problem => .error (.argument problem)
    | .ok condition => changeLast chain fun p => .ok (p.addCondition condition)
  | .head r => changeLast chain fun p => .ok (p.set (.limit r.limit))
  | .sort r =>
    match r.columns with
    | .error problem => .error (.argument problem)
    | .ok columns =>
      changeLast chain fun p => .ok (p.set (.sort { descending := r.reverse, columns }))
  | .join r => changeLast chain fun p => .ok (p.set (.join r.joining))
  | .eval _ => .ok chain

@[simp] theorem apply_eval (r : EvalRequest) (chain : Chain) :
    (Tool.eval r).apply chain = .ok chain := rfl

/-! ## Output -/

/-- What a tool does with the chain it has changed. -/
def action (t : Tool) (chain : Chain) (terminals : Terminals) (settings : Settings) : Action :=
  match t with
  | .eval r =>
    if r.query then .display chain
    else .evaluate chain (r.format?.getD settings.defaultFormat) r.out?
  | _ =>
    if terminals.output then .evaluate chain settings.defaultFormat none else .emit chain

/-- A tool from its input to what becomes of the chain. -/
def step (t : Tool) (terminals : Terminals) (settings : Settings) (document : List UInt8) :
    Except Fault Action := do
  let chain ← t.input terminals.input document
  let chain ← t.apply chain
  return t.action chain terminals settings

end Tool

end QueryPipe.Command
