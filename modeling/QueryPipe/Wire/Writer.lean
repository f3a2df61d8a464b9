import QueryPipe.Wire.QuotedText
import QueryPipe.Wire.Shape

/-!
# Writing values to a document

A value is written without blanks, its members in the order of its shape. Members that were left
out of a value are left out of its document.
-/

namespace QueryPipe.Wire

/-- Parts with a comma between neighbours. -/
def joinedChars : List (List Char) → List Char
  | [] => []
  | [part] => part
  | part :: next :: rest => part ++ ',' :: joinedChars (next :: rest)

/-- Parts between square brackets. -/
def bracketed (parts : List (List Char)) : List Char := '[' :: (joinedChars parts ++ [']'])

/-- Parts between braces. -/
def braced (parts : List (List Char)) : List Char := '\x7b' :: (joinedChars parts ++ ['\x7d'])

/-- A member of an object. -/
def memberChars (name : String) (value : List Char) : List Char := quoted name ++ ':' :: value

/-- A whole number. -/
def wholeChars (n : Int) : List Char := (toString n).toList

/-- The word for a truth value. -/
def flagChars (b : Bool) : List Char := (if b then "true" else "false").toList

/-- The value of a literal without its type. -/
def literalContent : Literal → List Char
  | .whole n => wholeChars n.toInt
  | .text s => quoted s
  | .untyped s => quoted s

/-- A literal with its type. -/
def literalChars (v : Literal) : List Char :=
  braced [memberChars "type" (quoted (literalType v)), memberChars "value" (literalContent v)]

mutual

/-- Writes a value of a shape. -/
def Shape.write : (shape : Shape) → shape.Value → List Char
  | .text, s => quoted s
  | .flag, b => flagChars b
  | .whole _ _, n => wholeChars n
  | .choice _, name => quoted name
  | .literal, v => literalChars v
  | .list item, vs => bracketed (vs.map item.write)
  | .nullable inner, v? =>
    match v? with
    | none => "null".toList
    | some v => inner.write v
  | .record _ fields, v => braced (fields.write v)

/-- Writes the members of a record. -/
def Fields.write : (fields : Fields) → fields.Value → List (List Char)
  | .done, _ => []
  | .required name shape rest, (v, more) => memberChars name (shape.write v) :: rest.write more
  | .defaulted name shape rest, (v?, more) =>
    match v? with
    | none => rest.write more
    | some v => memberChars name (shape.write v) :: rest.write more

end

/-- The text of a value of a shape. -/
def Shape.toText (shape : Shape) (v : shape.Value) : String := String.ofList (shape.write v)

end QueryPipe.Wire
