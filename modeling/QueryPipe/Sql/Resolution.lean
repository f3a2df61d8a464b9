import QueryPipe.Sql.Flattening

/-!
# Finding names in relations

Every name in a relation is found before a row is looked at, so that a wrong one is noticed in an
empty table too. Of a selection the result columns come first, then the condition on groups, the
condition on rows, the conditions of joins, the order and the groups.

* `length_enclosed`: seen from outside a relation has as many columns.
-/

namespace QueryPipe.Sql

/-- A relation whose columns were found, with its plan unless a join in it has a problem. -/
structure Resolved where
  /-- The columns that can be named. -/
  fields : List Field
  /-- The plan. -/
  plan : Except Problem Plan

/-! ## Columns seen from outside -/

/-- Columns as a relation around theirs sees them. -/
def enclosed (fields : List Field) : List Field :=
  List.zipWith (fun f name =>
    { column := { f.column with name, declared? := f.column.inner? }, spelled := name })
    fields (uniqueNames [] (fields.map Field.spelled))

/-- Seen from outside, a relation has as many columns. -/
theorem length_enclosed (fields : List Field) : (enclosed fields).length = fields.length := by
  simp [enclosed, length_uniqueNames]

namespace Resolved

/-- A relation whose columns belong to a table of a name. -/
def called (r : Resolved) (name : String) : Resolved :=
  { r with fields := r.fields.map fun f => { f with table? := some name } }

/-- A relation under names for its columns. -/
def withNames (r : Resolved) (table : String) (names : List String) : Except Problem Resolved :=
  if names.length == r.fields.length then
    .ok { r with
      fields := List.zipWith (fun f name =>
        { f with column := { f.column with name }, spelled := name }) r.fields names }
  else .error (.unevenNames table r.fields.length names.length)

end Resolved

/-! ## Joins -/

/-- The places of a column of a name that is no part of another. -/
def placesOf (name : String) (fields : List Field) : List Place :=
  Scope.matching ⟨[], name, false, false⟩ false 0 fields

/-- The pairs of places that names stand for on both sides; those of the right are counted on
after those of the left. -/
def tiedPlaces (left right : List Field) : List String → Except Problem (List (Place × Place))
  | [] => .ok []
  | name :: rest =>
    match placesOf name left, placesOf name right with
    | l :: _, r :: _ =>
      (tiedPlaces left right rest).map ((l, { r with index := left.length + r.index }) :: ·)
    | _, _ => .error (.unshared name)

/-- The names that both sides have. -/
def sharedNames (left right : List Field) : List String :=
  (right.filter fun f => !f.hidden && !(placesOf f.column.name left).isEmpty).map
    fun f => f.column.name

/-- The condition that tied places hold equal values. -/
def tiedCondition? : List (Place × Place) → Option Formula
  | [] => none
  | (l, r) :: rest =>
    bothConditions (some (.binary .eq (.field l) (.field r))) (tiedCondition? rest)

/-- The names by which two relations are tied, if it is by names. -/
def tiedNames (tie : Tie) (left right : List Field) : List String :=
  match tie with
  | .none | .on _ => []
  | .using names => names
  | .natural => sharedNames left right

/-- Two relations side by side. -/
def joined (kind : Join) (tie : Tie) (left right : Resolved) : Except Problem Resolved := do
  let pairs ← tiedPlaces left.fields right.fields (tiedNames tie left.fields right.fields)
  let mergedPlaces := pairs.map fun (_, r) => r.index - left.fields.length
  let rightFields := right.fields.mapIdx fun i f =>
    if mergedPlaces.contains i then { f with merged := true } else f
  let fields := left.fields ++ rightFields
  return {
    fields
    plan := do
      let l ← left.plan
      let r ← right.plan
      let condition? ←
        match tie with
        | .on t => (Scope.resolve { fields } t).map some
        | _ => .ok (tiedCondition? pairs)
      return .join kind condition? pairs left.fields.length right.fields.length l r }

/-! ## Result columns -/

/-- A result column that was found. -/
structure Output where
  /-- The column. -/
  column : Column
  /-- The name under which a relation around this one sees it. -/
  spelled : String
  /-- The name by which order and groups can mean it, if it has one. -/
  name? : Option String
  /-- What it shows. -/
  formula : Formula

/-- The result column for a column of the source. -/
def Output.ofField (index : Nat) (f : Field) : Output where
  column := { f.column with declared? := f.column.inner? }
  spelled := f.column.name
  name? := some f.column.name
  formula := .field ⟨index, f.column⟩

/-- The result columns for some columns of the source, whose numbers start at a number. -/
def starOutputs (p : Field → Bool) : Nat → List Field → List Output
  | _, [] => []
  | n, f :: rest =>
    if p f then Output.ofField n f :: starOutputs p (n + 1) rest else starOutputs p (n + 1) rest

/-- The name under which a relation around this one sees a term. -/
def spelledName (t : Expression) (span : String) : String :=
  match t.bare with
  | .field r => r.name
  | _ => span

/-- The result column for a formula; `span` is the text it was written as. -/
def Output.ofFormula (name? : Option String) (t : Expression) (span : String) (f : Formula) :
    Output :=
  let shown : Column :=
    match f with
    | .field p => { p.column with declared? := p.column.inner? }
    | _ => { name := span, affinity? := Formula.affinity? f, kind? := Formula.kind? f }
  {
    column := { shown with name := name?.getD shown.name }
    spelled := name?.getD (spelledName t span)
    name?
    formula := f }

/-- Whether two columns cannot be told apart by the names of their schema, table and column. -/
def areAlike (f g : Field) : Bool :=
  !f.hidden && !g.hidden && f.table?.isSome && Field.fits f.table? g.table? &&
    f.schema? == g.schema? && Text.sameWord f.column.name g.column.name

/-- The name of the first of some columns that another cannot be told from. -/
def ambiguousName? (p : Field → Bool) (fields : List Field) : Option String :=
  (fields.find? fun f => p f && 2 ≤ (fields.filter (areAlike f)).length).map fun f =>
    Text.joined "." [f.schema?.getD "*", f.table?.getD "", f.column.name]

/-- The result columns for the columns of the source that a test picks. -/
def starColumns (p : Field → Bool) (fields : List Field) : Except Problem (List Output) :=
  match ambiguousName? p fields with
  | some name => .error (.ambiguous name)
  | none => .ok (starOutputs p 0 fields)

/-- Whether a column is one of those that a star stands for. -/
def isStarred (f : Field) : Bool := !f.hidden && !f.merged

/-- Whether a column is one of those that a star after the name of a table stands for. -/
def isStarredOf (table : String) (f : Field) : Bool :=
  !f.hidden && Field.fits (some table) f.table?

/-- What is wrong with the stars of a selection. -/
def checkStars (fields : List Field) : List ResultColumn → Except Problem Unit
  | [] => .ok ()
  | .all :: rest => if fields.isEmpty then .error .noSource else checkStars fields rest
  | .allOf table :: rest =>
    if fields.any (isStarredOf table) then checkStars fields rest else .error (.noTable table)
  | .term .. :: rest => checkStars fields rest

/-- The result columns that a script names. -/
def outputs (scope : Scope) : List ResultColumn → Except Problem (List Output)
  | [] => .ok []
  | .all :: rest => do
    let found ← starColumns isStarred scope.fields
    let more ← outputs scope rest
    return found ++ more
  | .allOf table :: rest => do
    let found ← starColumns (isStarredOf table) scope.fields
    let more ← outputs scope rest
    return found ++ more
  | .term t name? span :: rest => do
    let f ← scope.resolve t
    let more ← outputs scope rest
    return Output.ofFormula name? t span f :: more

/-! ## Order and groups -/

/-- The number of the result column that a term of an order or a group stands for, where it is a
number or, `byName`, the name of one. -/
def outputMeant? (names : List (List String)) (byName : Bool) (index : Nat) (clause : String)
    (t : Expression) : Except Problem (Option Nat) :=
  match t.bare with
  | .literal (.whole n) =>
    if 1 ≤ n.toInt && n.toInt ≤ names.length then .ok (some (n.toInt.toNat - 1))
    else .error (.keyOutOfRange index clause names.length)
  | .field ⟨[], name, _, _⟩ =>
    .ok (if byName then names.findIdx? fun ns => ns.any (Text.sameWord name) else none)
  | _ => .ok none

/-- A formula with the collation of the term it was found for. -/
def collatedAs (t : Expression) (f : Formula) : Formula :=
  match t with
  | .collate c _ => .collate c f
  | _ => f

/-- The formula of a result column. -/
def outputFormula (outputs : List Output) (i : Nat) : Formula :=
  (outputs[i]?.map Output.formula).getD (.literal .null)

/-- The number of the result column that shows a formula, if one does. -/
def shownPlace? (outputs : List Output) (f : Formula) : Option Nat :=
  match f with
  | .field p =>
    outputs.findIdx? fun o => match o.formula with | .field q => p.index == q.index | _ => false
  | _ => none

/-- The keys of a selection; the number of the first is given. -/
def foundKeys (scope : Scope) (outputs : List Output) :
    Nat → List SortKey → Except Problem (List Key)
  | _, [] => .ok []
  | index, k :: rest => do
    let found ←
      match ← outputMeant? (outputs.map fun o => o.name?.toList) true index "ORDER" k.term with
      | some i => pure (collatedAs k.term (outputFormula outputs i), some i)
      | none => do
        let f ← scope.resolve k.term
        pure (f, shownPlace? outputs f)
    let more ← foundKeys scope outputs (index + 1) rest
    return ⟨found.1, k.descending, k.nullsFirst?, found.2⟩ :: more

/-- What rows are grouped by; the number of the first is given. -/
def foundGroups (scope : Scope) (outputs : List Output) :
    Nat → List Expression → Except Problem (List Formula)
  | _, [] => .ok []
  | index, t :: rest => do
    let f ←
      match ← outputMeant? (outputs.map fun o => o.name?.toList) false index "GROUP" t with
      | some i => pure (collatedAs t (outputFormula outputs i))
      | none => scope.resolve t
    if Formula.isAggregate f then throw .groupedAggregate
    let more ← foundGroups scope outputs (index + 1) rest
    return f :: more

/-! ## Selections -/

/-- Whether a term asks for a function over rows. -/
def asksForGroup (t : Expression) : Bool :=
  t.hasCall fun c arity => (Aggregate.find? c.name arity).isSome

/-- Whether result columns ask for a function over rows. -/
def columnsAskForGroup (columns : List ResultColumn) : Bool :=
  columns.any fun c =>
    match c with
    | .term t _ _ => asksForGroup t
    | .all | .allOf _ => false

/-- A term with its names found, if there is one. -/
def Scope.resolve? (scope : Scope) : Option Expression → Except Problem (Option Formula)
  | none => .ok none
  | some t => (scope.resolve t).map some

/-- A function over rows where rows are chosen or sorted one by one. -/
def checkAggregates (c : Core) : Except Problem Unit :=
  let early? :=
    (c.condition?.bind Formula.aggregateName?).or
      (if c.grouped then none else Formula.aggregateNameOf? (c.keys.map Key.formula))
  match early? with
  | some name => .error (.earlyAggregate name)
  | none => .ok ()

/-- A selection from a source. -/
def selected (distinct : Bool) (columns : List ResultColumn) (source : Resolved)
    (condition? : Option Expression) (groups : List Expression) (having? : Option Expression)
    (order : List SortKey) (limit? : Option Limit) : Except Problem Resolved := do
  let fields := source.fields
  let grouped := !groups.isEmpty || columnsAskForGroup columns
  checkStars fields columns
  let found ← outputs { fields, grouped := true } columns
  let aliases := found.filterMap fun o => o.name?.map fun name => (name, o.formula)
  let inRows : Scope := { fields, aliases, grouped }
  let inGroups : Scope := { fields, aliases, grouped := true }
  if having?.isSome && !grouped then throw .havingWithoutGroups
  let having? ← inGroups.resolve? having?
  let condition? ← inRows.resolve? condition?
  let inner ← source.plan
  let keys ← foundKeys inGroups found 1 order
  let groups ← foundGroups inGroups found 1 groups
  let core : Core :=
    { distinct, outputs := found.map Output.formula, condition?, grouped, groups, having?, keys,
      limit? }
  checkAggregates core
  return {
    fields := found.map fun o =>
      { column := o.column, spelled := o.spelled, others := o.name?.toList ++ [o.spelled] }
    plan := .ok (.select core fields.length inner) }

/-! ## Other relations -/

/-- The column of rows as they stand in a script. -/
def givenField (index : Nat) (t : Formula) : Field :=
  let name := "column" ++ toString (index + 1)
  {
    column := { name, affinity? := Formula.affinity? t, kind? := Formula.kind? t }
    spelled := name }

/-- Rows as they stand in a script. -/
def givenRows (rows : List (List Expression)) : Except Problem Resolved := do
  let found ← rows.mapM ({ fields := [] : Scope }).resolveAll
  let first := found.head?.getD []
  if found.any fun row => row.length != first.length then throw .unevenValues
  return { fields := first.mapIdx givenField, plan := .ok (.values found) }

/-- Whether values of a column can be numbers. -/
def canBeNumber (c : Column) : Bool :=
  match c.affinity? with
  | some a => a != .text
  | none => c.kind? != some "TEXT" && c.kind? != some "BLOB"

/-- Whether values of a column can be texts. -/
def canBeText (c : Column) : Bool :=
  match c.affinity? with
  | some a => !a.isNumeric
  | none => c.kind? != some "INTEGER" && c.kind? != some "REAL"

/-- The column that two columns one below the other make: named by the first, seen from outside
as the second is declared, and without preference where the two do not agree. -/
def combinedField (l r : Field) : Field :=
  let affinity? : Option Affinity :=
    match l.column.affinity? with
    | some .text => some (if canBeNumber r.column then .blob else .text)
    | some a => some (if a.isNumeric && canBeText r.column then .blob else a)
    | none => none
  {
    column := { l.column with inner? := r.column.inner?, affinity? }
    spelled := l.spelled
    others := l.others ++ r.others }

/-- Two relations one below the other. -/
def combinedFields (how : Combination) (left right : List Field) : Except Problem (List Field) :=
  if left.length == right.length then .ok (List.zipWith combinedField left right)
  else .error (.uneven how.name)

/-- The keys of combined relations, which are columns of the result. -/
def columnKeys (fields : List Field) : Nat → List SortKey → Except Problem (List Key)
  | _, [] => .ok []
  | index, k :: rest => do
    match ← outputMeant? (fields.map Field.others) true index "ORDER" k.term with
    | none => throw (.unmatchedKey index)
    | some i =>
      let f : Formula := .field ⟨i, (fields[i]?.map Field.column).getD { name := "" }⟩
      let more ← columnKeys fields (index + 1) rest
      return ⟨collatedAs k.term f, k.descending, k.nullsFirst?, some i⟩ :: more

/-- A limit in which there are no names to be found. -/
def foundLimit (count : Expression) (offset? : Option Expression) : Except Problem Limit := do
  let nothing : Scope := { fields := [] }
  let n ← nothing.resolve count
  let k? ← nothing.resolve? offset?
  return ⟨n, k?⟩

namespace Relation

/-- Whether a relation around this one sees its columns under names of their own. -/
def isDerived {τ : Type} : Relation τ → Bool
  | .select .. | .values _ | .combine .. | .sorted .. | .limited .. | .within .. => true
  | .unit | .table _ | .named .. | .renamed .. | .join .. => false

/-- A relation of tables as the relation around it sees it. -/
def seen (r : Relation Table) (found : Resolved) : Resolved :=
  if r.isDerived then { found with fields := enclosed found.fields } else found

/-- A relation of tables with its names found, under a limit if there is one. Of combined
relations the last is looked at first. -/
def resolve : Option Limit → Relation Table → Except Problem Resolved
  | _, .unit => .ok ⟨[], .ok .unit⟩
  | _, .table t => .ok ⟨t.fields, .ok (.table t)⟩
  | limit?, .values rows => do
    let found ← givenRows rows
    return if limit?.isNone then found
      else { found with plan := found.plan.map (.arranged [] limit?) }
  | _, .named name r => do
    let found ← resolve none r
    return (r.seen found).called name
  | _, .renamed name names r => do
    let found ← resolve none r
    (r.seen found).withNames name names
  | _, .join kind tie left right => do
    let l ← resolve none left
    let r ← resolve none right
    joined kind tie (left.seen l) (right.seen r)
  | limit?, .select distinct columns source condition? groups having? order => do
    let inner ← resolve none source
    selected distinct columns (source.seen inner) condition? groups having? order limit?
  | limit?, .combine how left right => do
    let r ← resolve none right
    let l ← resolve none left
    let fields ← combinedFields how l.fields r.fields
    return {
      fields
      plan := do
        let a ← l.plan
        let b ← r.plan
        return if limit?.isNone then .combine how a b else .arranged [] limit? (.combine how a b) }
  | limit?, .sorted order r => do
    let found ← resolve none r
    let keys ← columnKeys found.fields 1 order
    return { found with plan := found.plan.map (.arranged keys limit?) }
  | _, .limited count offset? r => do
    let limit ← foundLimit count offset?
    resolve (some limit) r
  | limit?, .within _ _ _ body => resolve limit? body

end Relation

/-! ## Extents -/

/-- What a relation comes to: the columns that can be named in it, and its rows, or the problem
that comes up when they are wanted. -/
structure Extent where
  /-- The columns. -/
  fields : List Field
  /-- The rows. -/
  rows : Except Problem (List Record)

/-- What a relation of tables comes to under parameters. -/
def Relation.extent (params : List Value) (r : Relation Table) : Except Problem Extent := do
  let found ← r.resolve none
  let plan ← found.plan
  return ⟨found.fields, plan.flattened.rows params⟩

end QueryPipe.Sql
