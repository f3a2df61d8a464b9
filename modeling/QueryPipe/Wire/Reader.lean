import QueryPipe.Wire.Scrutiny
import QueryPipe.Wire.Shape

/-!
# Reading values from a document

A value is read from a tree by going along its shape. Problems come in the order in which they
stand in the document. Members of a record may come in any order, those unknown are passed over,
and none may come twice.
-/

namespace QueryPipe.Wire

/-! ## Scalars -/

/-- Reads a text. -/
def Node.readText (expected : String) : Node → Except Problem String
  | .text value _ => value
  | node => .error (node.refuse expected)

/-- Reads a truth value. -/
def Node.readFlag : Node → Except Problem Bool
  | .flag b => .ok b
  | node => .error (node.refuse "a boolean")

/-- Reads a whole number of a range. -/
def Node.readWhole (range : Numeral.WholeRange) (title : String) : Node → Except Problem Int
  | .number (.ok (.whole n)) _ => if range.holds n then .ok n else .error (.wrongValue n title)
  | node => .error (node.refuse title)

/-- Refuses a name other than those allowed. -/
def allowedName (names : List String) (name : String) : Except Problem String :=
  if names.contains name then .ok name else .error (.unknownName name names)

/-- Reads one of some names, given as a text or as the key of an object whose value is null. -/
def Node.readChoice (names : List String) : Node → Except Problem String
  | .text value _ => value.bind (allowedName names)
  | .object members =>
    match members with
    | .cut => .error .cutValue
    | .keyless found => .error (found.refuse "variant identifier")
    | .member key _ value rest => do
      let name ← key.bind (allowedName names)
      match value with
      | .null => pure ()
      | other => throw (other.refuse "unit")
      match rest with
      | .closed => pure name
      | .cut => throw .cutObject
      | _ => throw .expectedValue
    | _ => .error .expectedValue
  | .broken problem => .error problem
  | _ => .error .expectedValue

/-! ## Lists -/

/-- Reads the items of a list. -/
def readItems {α : Type} (read : Node → Except Problem α) : Items → Except Problem (List α)
  | .closed => .ok []
  | .cut => .error .cutList
  | .unseparated => .error .expectedListComma
  | .dangling => .error .danglingComma
  | .item value rest =>
    match read value with
    | .error problem => .error problem
    | .ok a => (readItems read rest).map (a :: ·)

/-- Whether a list ends where its last wanted item was read. -/
def endOfList : Items → Except Problem Unit
  | .closed => .ok ()
  | .cut => .error .cutList
  | .dangling => .error .danglingComma
  | .unseparated => .error .trailing
  | .item _ _ => .error .trailing

/-- The next of the items, or none at the closing bracket. -/
def nextItem : Items → Except Problem (Option (Node × Items))
  | .closed => .ok none
  | .cut => .error .cutList
  | .unseparated => .error .expectedListComma
  | .dangling => .error .danglingComma
  | .item value rest => .ok (some (value, rest))

/-! ## Objects -/

/-- Goes through the members of an object and changes a state with each. -/
def foldMembers {σ : Type} (step : String → Node → σ → Except Problem σ) :
    Members → σ → Except Problem σ
  | .closed, state => .ok state
  | .cut, _ => .error .cutObject
  | .cutAfterComma, _ => .error .cutValue
  | .unseparated, _ => .error .expectedObjectComma
  | .dangling, _ => .error .danglingComma
  | .keyless _, _ => .error .keyNotText
  | .member key _ value rest, state =>
    match key with
    | .error problem => .error problem
    | .ok name =>
      match step name value state with
      | .error problem => .error problem
      | .ok state => foldMembers step rest state

/-! ## Literals -/

/-- Reads the value of a literal whose type is known. -/
def readLiteralAs (typeName : String) (value : Node) : Except Problem Literal :=
  if typeName == "NUMERIC" then
    (value.readWhole .signed64 "i64").map fun n => .whole (Int64.ofInt n)
  else if typeName == "TEXT" then (value.readText "a string").map .text
  else (value.readText "a string").map .untyped

/-- What is known of a literal while its object is read. -/
inductive LiteralParts
  /-- Nothing yet. -/
  | none
  /-- Its type. -/
  | typed (name : String)
  /-- Its value, which came first and is kept until the type is known. -/
  | value (node : Node)
  /-- The literal. -/
  | both (v : Literal)

/-- Takes one member of a literal's object. A value that comes before its type has to be
well-formed throughout, up to the given depth. -/
def LiteralParts.take (depth : Nat) (key : String) (node : Node) (parts : LiteralParts) :
    Except Problem LiteralParts :=
  if key == "type" then
    match parts with
    | .none => (node.readChoice literalTypes).map .typed
    | .value kept => do
      let name ← node.readChoice literalTypes
      let v ← readLiteralAs name kept
      pure (.both v)
    | .typed _ | .both _ => .error (.duplicateMember "type")
  else if key == "value" then
    match parts with
    | .none => (node.check depth).map fun _ => .value node
    | .typed name => (readLiteralAs name node).map .both
    | .value _ | .both _ => .error (.duplicateMember "value")
  else node.skip.map fun _ => parts

/-- The literal when its object has been read. -/
def LiteralParts.finish : LiteralParts → Except Problem Literal
  | .none => .error (.missingMember "type")
  | .typed _ => .error (.missingMember "value")
  | .value _ => .error (.missingMember "type")
  | .both v => .ok v

/-- Reads a literal given as a list of its type and its value. -/
def readLiteralList (items : Items) : Except Problem Literal := do
  match ← nextItem items with
  | none => throw (.wrongLength 0 literalTitle)
  | some (first, rest) =>
    let name ← first.readChoice literalTypes
    match ← nextItem rest with
    | none => throw (.wrongLength 1 literalTitle)
    | some (second, rest) =>
      let v ← readLiteralAs name second
      endOfList rest
      pure v

/-- Reads a literal. -/
def Node.readLiteral (depth : Nat) : Node → Except Problem Literal
  | .list items => readLiteralList items
  | .object members => do
    let parts ← foldMembers (LiteralParts.take (depth - 1)) members .none
    parts.finish
  | node => .error (node.refuse literalTitle)

/-! ## Shapes -/

/-- The members of a record that have been read. -/
def Fields.Slots : Fields → Type
  | .done => Unit
  | .required _ shape rest => Option shape.Value × rest.Slots
  | .defaulted _ shape rest => Option shape.Value × rest.Slots

/-- No member has been read. -/
def Fields.noSlots : (fields : Fields) → fields.Slots
  | .done => ()
  | .required _ _ rest => (none, rest.noSlots)
  | .defaulted _ _ rest => (none, rest.noSlots)

/-- The values of a record whose object has been read. -/
def Fields.finish : (fields : Fields) → fields.Slots → Except Problem fields.Value
  | .done, _ => .ok ()
  | .required name shape rest, (slot, slots) =>
    match slot <|> shape.absent? with
    | none => .error (.missingMember name)
    | some v => (rest.finish slots).map fun more => (v, more)
  | .defaulted _ _ rest, (slot, slots) => (rest.finish slots).map fun more => (slot, more)

/-- How a record's list form is called in a message. -/
def listTitle (title : String) (count : Nat) : String :=
  title ++ " with " ++ toString count ++ (if count = 1 then " element" else " elements")

mutual

/-- Reads a value of a shape; `depth` is the number of brackets that may still be opened. -/
def Shape.read : (shape : Shape) → Nat → Node → Except Problem shape.Value
  | .text, _, node => node.readText "a string"
  | .flag, _, node => node.readFlag
  | .whole range title, _, node => node.readWhole range title
  | .choice names, _, node => node.readChoice names
  | .literal, depth, node => node.readLiteral depth
  | .list item, depth, node =>
    match node with
    | .list items => readItems (item.read (depth - 1)) items
    | _ => .error (node.refuse "a sequence")
  | .nullable inner, depth, node =>
    match node with
    | .null => .ok none
    | _ => (inner.read depth node).map some
  | .record title fields, depth, node =>
    match node with
    | .list items => fields.readList (listTitle title fields.count) 0 (depth - 1) items
    | .object members =>
      match foldMembers (fields.put (depth - 1)) members fields.noSlots with
      | .error problem => .error problem
      | .ok slots => fields.finish slots
    | _ => .error (node.refuse title)

/-- Reads the members of a record given as a list; `index` of them have been read. -/
def Fields.readList : (fields : Fields) → String → Nat → Nat → Items →
    Except Problem fields.Value
  | .done, _, _, _, items => endOfList items
  | .required _ shape rest, title, index, depth, items =>
    match nextItem items with
    | .error problem => .error problem
    | .ok none => .error (.wrongLength index title)
    | .ok (some (node, items)) =>
      match shape.read depth node with
      | .error problem => .error problem
      | .ok v => (rest.readList title (index + 1) depth items).map fun more => (v, more)
  | .defaulted _ shape rest, title, index, depth, items =>
    match nextItem items with
    | .error problem => .error problem
    | .ok none => (rest.readList title (index + 1) depth .closed).map fun more => (none, more)
    | .ok (some (node, items)) =>
      match shape.read depth node with
      | .error problem => .error problem
      | .ok v => (rest.readList title (index + 1) depth items).map fun more => (some v, more)

/-- Puts a member into its slot; an unknown member is passed over. -/
def Fields.put : (fields : Fields) → Nat → String → Node → fields.Slots →
    Except Problem fields.Slots
  | .done, _, _, node, slots => node.skip.map fun _ => slots
  | .required name shape rest, depth, key, node, (slot, slots) =>
    if key == name then
      match slot with
      | some _ => .error (.duplicateMember name)
      | none => (shape.read depth node).map fun v => (some v, slots)
    else (rest.put depth key node slots).map fun slots => (slot, slots)
  | .defaulted name shape rest, depth, key, node, (slot, slots) =>
    if key == name then
      match slot with
      | some _ => .error (.duplicateMember name)
      | none => (shape.read depth node).map fun v => (some v, slots)
    else (rest.put depth key node slots).map fun slots => (slot, slots)

end

/-- The number of brackets that may be open at a time, plus one. -/
def depthLimit : Nat := 128

/-- Reads a document of a shape, after which nothing may follow. -/
def Shape.readDocument (shape : Shape) (document : Document) : Except Problem shape.Value :=
  match shape.read depthLimit document.root with
  | .error problem => .error problem
  | .ok v => if document.trailing then .error .trailing else .ok v

/-- Reads a text of a shape. -/
def Shape.ofText (shape : Shape) (s : String) : Except Problem shape.Value :=
  shape.readDocument (.ofGlyphs (Text.glyphsOf s))

/-- Reads bytes of a shape. -/
def Shape.ofBytes (shape : Shape) (bytes : List UInt8) : Except Problem shape.Value :=
  shape.readDocument (.ofGlyphs (Text.glyphs bytes))

end QueryPipe.Wire
