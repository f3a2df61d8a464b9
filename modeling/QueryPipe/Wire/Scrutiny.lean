import QueryPipe.Wire.Tree

/-!
# Well-formed trees

A reader meets values it has no use for. A value that is passed over has to be well-formed only as
far as its end can be found; a value that is kept for later has to be well-formed throughout and
not nested too deep.
-/

namespace QueryPipe.Wire

mutual

/-- Passes over a value. -/
def Node.skip : Node → Except Problem Unit
  | .null => .ok ()
  | .flag _ => .ok ()
  | .number _ passed => passed
  | .text _ passed => passed
  | .list items => items.skip
  | .object members => members.skip
  | .badWord problem => .error problem
  | .broken problem => .error problem

/-- Passes over the items of a list. -/
def Items.skip : Items → Except Problem Unit
  | .closed => .ok ()
  | .cut => .error .cutList
  | .unseparated => .error .expectedListComma
  | .dangling => .error .expectedValue
  | .item value rest =>
    match value.skip with
    | .error problem => .error problem
    | .ok () => rest.skip

/-- Passes over the members of an object. -/
def Members.skip : Members → Except Problem Unit
  | .closed => .ok ()
  | .cut => .error .cutObject
  | .cutAfterComma => .error .cutObject
  | .unseparated => .error .expectedObjectComma
  | .dangling => .error .keyNotText
  | .keyless _ => .error .keyNotText
  | .member _ passed value rest =>
    match passed with
    | .error problem => .error problem
    | .ok () =>
      match value.skip with
      | .error problem => .error problem
      | .ok () => rest.skip

end

mutual

/-- Whether a value is well-formed and nested less deep than `depth` brackets. -/
def Node.check (depth : Nat) : Node → Except Problem Unit
  | .null => .ok ()
  | .flag _ => .ok ()
  | .number value _ => value.map fun _ => ()
  | .text value _ => value.map fun _ => ()
  | .list items => if depth ≤ 1 then .error .tooDeep else items.check (depth - 1)
  | .object members => if depth ≤ 1 then .error .tooDeep else members.check (depth - 1)
  | .badWord problem => .error problem
  | .broken problem => .error problem

/-- Whether all items of a list are well-formed. -/
def Items.check (depth : Nat) : Items → Except Problem Unit
  | .closed => .ok ()
  | .cut => .error .cutList
  | .unseparated => .error .expectedListComma
  | .dangling => .error .danglingComma
  | .item value rest =>
    match value.check depth with
    | .error problem => .error problem
    | .ok () => rest.check depth

/-- Whether all members of an object are well-formed. -/
def Members.check (depth : Nat) : Members → Except Problem Unit
  | .closed => .ok ()
  | .cut => .error .cutObject
  | .cutAfterComma => .error .cutValue
  | .unseparated => .error .expectedObjectComma
  | .dangling => .error .danglingComma
  | .keyless _ => .error .keyNotText
  | .member key _ value rest =>
    match key with
    | .error problem => .error problem
    | .ok _ =>
      match value.check depth with
      | .error problem => .error problem
      | .ok () => rest.check depth

end

/-- Why a value is not what is expected; a malformed value says what is wrong with itself. -/
def Node.refuse (expected : String) : Node → Problem
  | .null => .wrongKind .null expected
  | .flag b => .wrongKind (.flag b) expected
  | .number (.ok (.whole n)) _ => .wrongKind (.whole n) expected
  | .number (.ok (.float x)) _ => .wrongKind (.float x) expected
  | .number (.error problem) _ => problem
  | .text (.ok s) _ => .wrongKind (.text s) expected
  | .text (.error problem) _ => problem
  | .list _ => .wrongKind .list expected
  | .object _ => .wrongKind .object expected
  | .badWord problem => problem
  | .broken problem => problem

end QueryPipe.Wire
