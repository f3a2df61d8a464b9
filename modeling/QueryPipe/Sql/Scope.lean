import QueryPipe.Sql.Formula

/-!
# Names in scope

A name in a term is looked for among the columns of the sources; if none has it, among the names
that result columns were given; after that a name in double quotes is a text. A name that several
columns have is refused.

* `resolve_literal`: a literal needs no scope.
-/

namespace QueryPipe.Sql

/-- A column of the sources. -/
structure Field where
  /-- The schema of the table, if it has one. -/
  schema? : Option String := none
  /-- The name of the table, if it has one. -/
  table? : Option String := none
  /-- The column. -/
  column : Column
  /-- The name under which a relation around this one sees it. -/
  spelled : String
  /-- The names that it has in relations combined with this one. -/
  others : List String := []
  /-- Whether it stands for the number of the row, which is no column of the table. -/
  hidden : Bool := false
  /-- Whether it is one with a column of the same name before it. -/
  merged : Bool := false
  deriving DecidableEq, Repr, Inhabited

/-- What names can stand for. -/
structure Scope where
  /-- The columns of the sources. -/
  fields : List Field
  /-- The names that result columns were given. -/
  aliases : List (String × Formula) := []
  /-- Whether functions over rows can stand here. -/
  grouped : Bool := false

/-- The names for the number of a row. -/
def rowNumberNames : List String := ["rowid", "oid", "_rowid_"]

namespace Field

/-- Whether a qualifier, if it is given, is a certain name. -/
def fits (given? owned? : Option String) : Bool :=
  match given?, owned? with
  | none, _ => true
  | some s, some t => Text.sameWord s t
  | some _, none => false

/-- Whether a reference can mean a column. -/
def isMeant (r : Reference) (f : Field) : Bool :=
  let (schema?, table?) : Option String × Option String :=
    match r.qualifiers with
    | [] => (none, none)
    | [t] => (none, some t)
    | s :: t :: _ => (some s, some t)
  let named :=
    if f.hidden then rowNumberNames.any (Text.sameWord r.name)
    else Text.sameWord r.name f.column.name
  named && fits table? f.table? && fits schema? f.schema? && !(f.merged && table?.isNone)

end Field

namespace Scope

/-- The places of the columns that a reference can mean, counted from a number. -/
def matching (r : Reference) (hidden : Bool) : Nat → List Field → List Place
  | _, [] => []
  | n, f :: rest =>
    if f.hidden == hidden && f.isMeant r then ⟨n, f.column⟩ :: matching r hidden (n + 1) rest
    else matching r hidden (n + 1) rest

/-- What a reference that no column has stands for. -/
def fallback (s : Scope) (r : Reference) : Except Problem Formula :=
  if r.qualifiers.isEmpty then
    match s.aliases.find? fun (name, _) => Text.sameWord name r.name with
    | some (name, t) =>
      if !s.grouped && Formula.isAggregate t then .error (.misusedAlias name) else .ok t
    | none =>
      if r.double then .ok (.literal (.text r.name))
      else if r.bare && Text.sameWord r.name "true" then .ok (.literal (.whole 1))
      else if r.bare && Text.sameWord r.name "false" then .ok (.literal (.whole 0))
      else .error (.noColumn r.text)
  else .error (.noColumn r.text)

/-- What a reference stands for. -/
def lookup (s : Scope) (r : Reference) : Except Problem Formula :=
  match matching r false 0 s.fields with
  | [p] => .ok (.field p)
  | _ :: _ => .error (.ambiguous r.text)
  | [] =>
    match matching r true 0 s.fields with
    | [p] => .ok (.field p)
    | _ :: _ => .error (.ambiguous r.text)
    | [] => s.fallback r

/-- The function that a callee is for a number of operands. -/
def operation (s : Scope) (c : Callee) (arity : Nat) : Except Problem Operation :=
  match Aggregate.find? c.name arity with
  | some f =>
    if s.grouped then .ok (.aggregate f c.distinct c.name) else .error (.misusedAggregate c.name)
  | none =>
    match Scalar.table.find? fun (name, _, least, most) =>
        name == c.name.toLower && least ≤ arity && arity ≤ most && !c.star with
    | some (_, f, _) => .ok (.scalar f)
    | none =>
      if Text.sameWord c.name "match" then .error (.wrongContext c.name)
      else if isFunctionName c.name then .error (.wrongArity c.name)
      else .error (.noFunction c.name)

/-- The scope inside the operands of a function. -/
def within (s : Scope) : Operation → Scope
  | .aggregate .. => { s with grouped := false }
  | .scalar _ => s

mutual

/-- A term with its names and functions found. -/
def resolve (s : Scope) : Expression → Except Problem Formula
  | .literal v => .ok (.literal v)
  | .parameter k => .ok (.parameter k)
  | .field r => s.lookup r
  | .unary op t => (s.resolve t).map (.unary op)
  | .cast a t => (s.resolve t).map (.cast a)
  | .collate c t => (s.resolve t).map (.collate c)
  | .binary op l r => do
    let l ← s.resolve l
    let r ← s.resolve r
    return .binary op l r
  | .choose c yes no => do
    let c ← s.resolve c
    let yes ← s.resolve yes
    let no ← s.resolve no
    return .choose c yes no
  | .call c args => do
    let f ← s.operation c args.length
    let args ← (s.within f).resolveAll args
    return .call f args

/-- Terms with their names and functions found. -/
def resolveAll (s : Scope) : List Expression → Except Problem (List Formula)
  | [] => .ok []
  | t :: rest => do
    let t ← s.resolve t
    let rest ← s.resolveAll rest
    return t :: rest

end

@[simp] theorem resolve_literal (s : Scope) (v : Value) :
    s.resolve (.literal v) = .ok (.literal v) := by
  simp [resolve]

end Scope

end QueryPipe.Sql
