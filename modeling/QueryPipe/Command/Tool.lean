import QueryPipe.Command.Problem
import QueryPipe.Dataset.Reference

/-!
# Tools

A tool is one step of a pipeline: it changes one clause of the chain that reaches it. Every tool
has a record of what it was asked for; what it is to do follows from that record.

* `condition_of_integer`: a filter that is told its value is a number never compares with a text.
* `conditions_length`: a join compares as many columns as the shortest list of switches names,
  and one more for every three parts.
-/

namespace QueryPipe.Command

/-- Starts a stage that reads datasets. -/
structure CatRequest where
  /-- Tables and files; the rows of several are concatenated. -/
  datasets : List String
  /-- The name of the stage. -/
  alias? : Option String := none
  /-- The columns read; none means all. -/
  columns : List String := []
  deriving DecidableEq, Repr, Inhabited

/-- Chooses the columns of the stage. -/
structure CutRequest where
  /-- Columns given with a switch. -/
  fields : List String := []
  /-- Columns given as operands, after the former. -/
  operands : List String := []
  deriving DecidableEq, Repr, Inhabited

/-- Filters the rows of the stage. -/
structure GrepRequest where
  /-- The column. -/
  field? : Option String := none
  /-- The comparison. -/
  predicate? : Option String := none
  /-- The value. -/
  value? : Option String := none
  /-- Whether the value is a number. -/
  integer : Bool := false
  /-- Whether the value is a text. -/
  text : Bool := false
  /-- What is not given with a switch, in the order column, comparison, value. -/
  operands : List String := []
  deriving DecidableEq, Repr, Inhabited

/-- Limits the number of rows. -/
structure HeadRequest where
  /-- The number given with a switch. -/
  lines? : Option UInt32 := none
  /-- The number given as an operand. -/
  count? : Option UInt32 := none
  deriving DecidableEq, Repr, Inhabited

/-- Orders the rows. -/
structure SortRequest where
  /-- Columns given with a switch. -/
  fields : List String := []
  /-- Columns given as operands, after the former. -/
  operands : List String := []
  /-- Whether the order is descending. -/
  reverse : Bool := false
  deriving DecidableEq, Repr, Inhabited

/-- Joins the stage with one more table. -/
structure JoinRequest where
  /-- The table or file joined. -/
  table : String
  /-- Its name in the statement. -/
  alias? : Option String := none
  /-- The kind of join. -/
  how : String := "INNER"
  /-- The columns on the left, by switch. -/
  left : List String := []
  /-- The comparisons, by switch. -/
  predicate : List String := []
  /-- The columns on the right, by switch. -/
  right : List String := []
  /-- Operands: column, comparison and column in turn. -/
  operands : List String := []
  deriving DecidableEq, Repr, Inhabited

/-- Evaluates the chain. -/
structure EvalRequest where
  /-- Whether to write CSV. -/
  csv : Bool := false
  /-- Whether to write Parquet. -/
  parquet : Bool := false
  /-- Whether to write aligned columns. -/
  column : Bool := false
  /-- The file to write to. -/
  out? : Option String := none
  /-- Whether to show the query instead of running it. -/
  query : Bool := false
  deriving DecidableEq, Repr, Inhabited

/-- A tool with what it was asked for. -/
inductive Tool
  /-- Starts a stage that reads datasets. -/
  | cat (request : CatRequest)
  /-- Starts a stage with a statement as text. -/
  | sql (text : String)
  /-- Chooses columns. -/
  | cut (request : CutRequest)
  /-- Filters rows. -/
  | grep (request : GrepRequest)
  /-- Limits rows. -/
  | head (request : HeadRequest)
  /-- Orders rows. -/
  | sort (request : SortRequest)
  /-- Joins a table. -/
  | join (request : JoinRequest)
  /-- Evaluates the chain. -/
  | eval (request : EvalRequest)
  deriving DecidableEq, Repr, Inhabited

namespace Tool

/-- The name of a tool. -/
def name : Tool → String
  | .cat _ => "cat"
  | .sql _ => "sql"
  | .cut _ => "cut"
  | .grep _ => "grep"
  | .head _ => "head"
  | .sort _ => "sort"
  | .join _ => "join"
  | .eval _ => "eval"

/-- Whether the tool starts a stage of its own and so can do without a chain. -/
def startsStage : Tool → Bool
  | .cat _ | .sql _ => true
  | _ => false

end Tool

/-! ## Columns -/

/-- Columns given with a switch and then those given as operands; there must be one. -/
def columnsOf (tool : String) (fields operands : List String) :
    Except Problem (List String) :=
  if (fields ++ operands).isEmpty then .error (.noFields tool) else .ok (fields ++ operands)

/-- The columns chosen. -/
def CutRequest.columns (c : CutRequest) : Except Problem (List String) :=
  columnsOf "cut" c.fields c.operands

/-- The columns compared. -/
def SortRequest.columns (s : SortRequest) : Except Problem (List String) :=
  columnsOf "sort" s.fields s.operands

/-! ## Rows -/

/-- The number of rows kept where none is named. -/
def defaultLines : UInt32 := 10

/-- The number of rows kept. -/
def HeadRequest.limit (h : HeadRequest) : UInt32 := (h.lines? <|> h.count?).getD defaultLines

/-- What a filter compares, with nothing settled about types. -/
structure Comparison where
  /-- The column. -/
  field : String
  /-- The comparison, when one is named. -/
  predicate? : Option String
  /-- The value. -/
  value : String
  deriving DecidableEq, Repr, Inhabited

namespace GrepRequest

/-- The column, and the operands that are left after it. -/
def fieldAndRest? (g : GrepRequest) : Option (String × List String) :=
  match g.field?, g.operands with
  | some field, operands => some (field, operands)
  | none, field :: operands => some (field, operands)
  | none, [] => none

/-- Switches and operands put together. Every operand must have a place, and there must be a
column and a value. -/
def comparison (g : GrepRequest) : Except Problem Comparison :=
  match g.fieldAndRest? with
  | none => .error .incompleteFilter
  | some (field, rest) =>
    match g.predicate?, g.value?, rest with
    | predicate?, some value, [] => .ok ⟨field, predicate?, value⟩
    | predicate?, none, [value] => .ok ⟨field, predicate?, value⟩
    | none, none, [predicate, value] => .ok ⟨field, some predicate, value⟩
    | _, _, _ => .error .incompleteFilter

/-- The value as a literal, and the comparison that is usual for it. -/
def literal (g : GrepRequest) (value : String) : Except Problem (String × Literal) :=
  if g.integer then
    match Numeral.Whole.readInt64 (Text.trim value) with
    | .ok n => .ok ("=", .whole n)
    | .error problem => .error (.notWhole value problem)
  else if g.text then .ok ("LIKE", .text value)
  else .ok (if (Literal.untyped value).isNull then "IS" else "LIKE", .untyped value)

/-- The condition that a filter adds. -/
def condition (g : GrepRequest) : Except Problem Condition := do
  let c ← g.comparison
  let (usual, value) ← g.literal c.value
  return { column := c.field, predicate := c.predicate?.getD usual, value }

/-- A filter that is told its value is a number never compares with a text. -/
theorem condition_of_integer (g : GrepRequest) (c : Condition) (hi : g.integer = true)
    (hc : g.condition = .ok c) : ∃ n, c.value = .whole n := by
  unfold condition at hc
  cases hp : g.comparison with
  | error e => simp [hp, bind, Except.bind] at hc
  | ok p =>
    simp only [hp, bind, Except.bind, literal, hi, if_true] at hc
    cases hn : Numeral.Whole.readInt64 (Text.trim p.value) with
    | error e => simp [hn] at hc
    | ok n =>
      simp only [hn, pure, Except.pure, Except.ok.injEq] at hc
      exact ⟨n, by rw [← hc]⟩

end GrepRequest

/-! ## Joins -/

namespace JoinRequest

/-- One condition for each place at which all three lists of switches have something. -/
def conditionsOfSwitches : List String → List String → List String → List JoinCondition
  | l :: ls, p :: ps, r :: rs => ⟨l, p, r⟩ :: conditionsOfSwitches ls ps rs
  | _, _, _ => []

/-- One condition for every three operands; what is left over counts for nothing. -/
def conditionsOfOperands : List String → List JoinCondition
  | l :: p :: r :: rest => ⟨l, p, r⟩ :: conditionsOfOperands rest
  | _ => []

/-- What the rows are matched on: switches first, then operands. -/
def conditions (j : JoinRequest) : List JoinCondition :=
  conditionsOfSwitches j.left j.predicate j.right ++ conditionsOfOperands j.operands

/-- The shortest list of switches says how many conditions there are. -/
theorem conditionsOfSwitches_length (ls ps rs : List String) :
    (conditionsOfSwitches ls ps rs).length = min ls.length (min ps.length rs.length) := by
  induction ls generalizing ps rs with
  | nil => simp [conditionsOfSwitches]
  | cons l ls ih =>
    cases ps with
    | nil => simp [conditionsOfSwitches]
    | cons p ps =>
      cases rs with
      | nil => simp [conditionsOfSwitches]
      | cons r rs =>
        simp only [conditionsOfSwitches, List.length_cons, ih]
        omega

theorem conditionsOfOperands_length (ws : List String) :
    (conditionsOfOperands ws).length = ws.length / 3 := by
  fun_induction conditionsOfOperands ws with
  | case1 l p r rest ih => simp only [List.length_cons, ih]; omega
  | case2 ws h =>
    match ws, h with
    | [], _ => simp
    | [_], _ => simp
    | [_, _], _ => simp
    | a :: b :: c :: rest, h => exact absurd rfl (h a b c rest)

/-- A join compares as many columns as the shortest list of switches names, and one more for every
three operands. -/
theorem conditions_length (j : JoinRequest) :
    j.conditions.length =
      min j.left.length (min j.predicate.length j.right.length) + j.operands.length / 3 := by
  simp [conditions, conditionsOfSwitches_length, conditionsOfOperands_length]

/-- The join that is added to the stage. -/
def joining (j : JoinRequest) : Joining :=
  { table := Dataset.reference j.table, alias? := j.alias?, how := j.how
    conditions := j.conditions }

end JoinRequest

end QueryPipe.Command
