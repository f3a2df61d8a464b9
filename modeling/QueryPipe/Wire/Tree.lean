import QueryPipe.Wire.Lexeme

/-!
# Document trees

The lexemes of a document form a tree. A document may break off or go wrong at any place, so a
tree says at each place what stands there, whether it is what should stand there or not: a list
ends as it should, or with a dangling comma, or with the text. Nothing is lost, and the reader of
the tree decides which of several problems comes first.

Building goes through the lexemes once and keeps the brackets that are still open.
-/

namespace QueryPipe.Wire

mutual

/-- What stands where a value is due. -/
inductive Node
  /-- The null value. -/
  | null
  /-- A truth value. -/
  | flag (b : Bool)
  /-- A number: its value, and whether its end was found. -/
  | number (value : Except Problem Quantity) (passed : Except Problem Unit)
  /-- A text: its characters, and whether its end was found. -/
  | text (value : Except Problem String) (passed : Except Problem Unit)
  /-- A list. -/
  | list (items : Items)
  /-- An object. -/
  | object (members : Members)
  /-- A word that is cut off or misspelt. -/
  | badWord (problem : Problem)
  /-- Nothing that starts a value. -/
  | broken (problem : Problem)

/-- What stands inside a list. -/
inductive Items
  /-- The closing bracket. -/
  | closed
  /-- The end of the text. -/
  | cut
  /-- Something else where a comma or the closing bracket is due. -/
  | unseparated
  /-- A comma and then the closing bracket. -/
  | dangling
  /-- An item. -/
  | item (value : Node) (rest : Items)

/-- What stands inside an object. -/
inductive Members
  /-- The closing bracket. -/
  | closed
  /-- The end of the text. -/
  | cut
  /-- The end of the text after a comma. -/
  | cutAfterComma
  /-- Something else where a comma or the closing bracket is due. -/
  | unseparated
  /-- A comma and then the closing bracket. -/
  | dangling
  /-- Something that is no text where a key is due. -/
  | keyless (found : Node)
  /-- A key and its value. -/
  | member (key : Except Problem String) (passed : Except Problem Unit) (value : Node)
      (rest : Members)

end

/-- A document: its value, and whether anything follows it. -/
structure Document where
  /-- The value. -/
  root : Node
  /-- Whether anything follows. -/
  trailing : Bool

/-! ## Building -/

/-- A key of an object and whether its end was found. -/
structure Key where
  /-- The characters of the key. -/
  value : Except Problem String
  /-- Whether its end was found. -/
  passed : Except Problem Unit

/-- A bracket that is still open, with what was read inside, the last first. -/
inductive Open
  /-- A list and its items. -/
  | list (before : List Node)
  /-- An object, its members and the key whose value is due. -/
  | object (before : List (Key × Node)) (key : Key)

/-- Items in reverse order in front of others. -/
def Items.ofReverse (before : List Node) (rest : Items) : Items :=
  before.foldl (fun rest value => .item value rest) rest

/-- Members in reverse order in front of others. -/
def Members.ofReverse (before : List (Key × Node)) (rest : Members) : Members :=
  before.foldl (fun rest m => .member m.1.value m.1.passed m.2 rest) rest

/-- The tree when a value ends the text: every open bracket is cut after it. -/
def unwind (value : Node) : List Open → Node
  | [] => value
  | .list before :: outer => unwind (.list (.ofReverse (value :: before) .cut)) outer
  | .object before key :: outer =>
    unwind (.object (.ofReverse ((key, value) :: before) .cut)) outer

/-- What is due next. -/
inductive Due
  /-- A value: the whole document, an item after a comma, or a member's value. -/
  | value
  /-- The first item of a list, or its closing bracket. -/
  | firstItem
  /-- The first key of an object, or its closing bracket. -/
  | firstKey (before : List (Key × Node))
  /-- A key after a comma. -/
  | nextKey (before : List (Key × Node))
  /-- The colon after a key, or its absence. -/
  | colon
  /-- What follows a complete value. -/
  | separator (value : Node)

/-- The node of a lexeme that is a value by itself, or of one that is no value. -/
def Lexeme.node : Lexeme → Node
  | .null => .null
  | .flag b => .flag b
  | .number value passed => .number value passed
  | .text value passed => .text value passed
  | .badWord problem => .badWord problem
  | .openList => .list .cut
  | .openObject => .object .cut
  | _ => .broken .expectedValue

/-- Whether a lexeme is a value by itself. -/
def Lexeme.isScalar : Lexeme → Bool
  | .null | .flag _ | .number _ _ | .text _ _ => true
  | _ => false

/-- The document whose remaining text ends here. -/
def finish (due : Due) (opens : List Open) : Document :=
  match due with
  | .value => ⟨unwind (.broken .cutValue) opens, false⟩
  | .firstItem => ⟨unwind (.list .cut) opens, false⟩
  | .firstKey before => ⟨unwind (.object (.ofReverse before .cut)) opens, false⟩
  | .nextKey before => ⟨unwind (.object (.ofReverse before .cutAfterComma)) opens, false⟩
  | .colon => ⟨unwind (.broken .cutObject) opens, false⟩
  | .separator value => ⟨unwind value opens, false⟩

/-- Builds the tree of a document from its lexemes, given what is due and the open brackets. -/
def build : List Lexeme → Due → List Open → Document
  | [], due, opens => finish due opens
  | lexeme :: rest, due, opens =>
    let value (opens : List Open) : Document :=
      match lexeme with
      | .openList => build rest .firstItem opens
      | .openObject => build rest (.firstKey []) opens
      | _ =>
        if lexeme.isScalar then build rest (.separator lexeme.node) opens
        else ⟨unwind lexeme.node opens, false⟩
    let key (before : List (Key × Node)) : Document :=
      match lexeme with
      | .text k passed => build rest .colon (.object before ⟨k, passed⟩ :: opens)
      | _ => ⟨unwind (.object (.ofReverse before (.keyless lexeme.node))) opens, false⟩
    match due with
    | .value => value opens
    | .firstItem =>
      match lexeme with
      | .closeList => build rest (.separator (.list .closed)) opens
      | _ => value (.list [] :: opens)
    | .firstKey before =>
      match lexeme with
      | .closeObject => build rest (.separator (.object (.ofReverse before .closed))) opens
      | _ => key before
    | .nextKey before =>
      match lexeme with
      | .closeObject => ⟨unwind (.object (.ofReverse before .dangling)) opens, false⟩
      | _ => key before
    | .colon =>
      match lexeme with
      | .colon => build rest .value opens
      | _ => ⟨unwind (.broken .expectedColon) opens, false⟩
    | .separator node =>
      match opens with
      | [] => ⟨node, true⟩
      | .list before :: outer =>
        match lexeme with
        | .closeList =>
          build rest (.separator (.list (.ofReverse (node :: before) .closed))) outer
        | .comma =>
          match rest with
          | .closeList :: _ =>
            ⟨unwind (.list (.ofReverse (node :: before) .dangling)) outer, false⟩
          | _ => build rest .value (.list (node :: before) :: outer)
        | _ => ⟨unwind (.list (.ofReverse (node :: before) .unseparated)) outer, false⟩
      | .object before k :: outer =>
        match lexeme with
        | .closeObject =>
          build rest (.separator (.object (.ofReverse ((k, node) :: before) .closed))) outer
        | .comma => build rest (.nextKey ((k, node) :: before)) outer
        | _ =>
          ⟨unwind (.object (.ofReverse ((k, node) :: before) .unseparated)) outer, false⟩

/-- The document that glyphs spell. -/
def Document.ofGlyphs (gs : List Text.Glyph) : Document := build (lexemes gs) .value []

end QueryPipe.Wire
