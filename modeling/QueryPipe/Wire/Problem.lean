import QueryPipe.Numeral.Shortest
import QueryPipe.Text.Blank
import QueryPipe.Text.Quotation

/-!
# Problems of a document

What can be wrong with a document: it is cut off, a character stands where another must, a text or
a number is malformed, or a well-formed value is not what the reader expects.
-/

namespace QueryPipe.Wire

/-- The kind of value that was found where another was expected. -/
inductive Found
  /-- The null value. -/
  | null
  /-- A truth value. -/
  | flag (b : Bool)
  /-- A whole number. -/
  | whole (n : Int)
  /-- A number with a fraction or an exponent. -/
  | float (x : Numeral.Binary64)
  /-- A text. -/
  | text (s : String)
  /-- A list. -/
  | list
  /-- An object. -/
  | object
  deriving DecidableEq, Repr, Inhabited

/-- A value as a message names it. -/
def Found.message : Found → String
  | .null => "null"
  | .flag b => "boolean \x60" ++ (if b then "true" else "false") ++ "\x60"
  | .whole n => "integer \x60" ++ toString n ++ "\x60"
  | .float x => "floating point \x60" ++ Numeral.FloatLayout.quoted.text x ++ "\x60"
  | .text s => "string " ++ Text.quotation s
  | .list => "sequence"
  | .object => "map"

/-- What is wrong with a document. -/
inductive Problem
  /-- The document ends inside a list. -/
  | cutList
  /-- The document ends inside an object. -/
  | cutObject
  /-- The document ends inside a text. -/
  | cutText
  /-- The document ends where a value is due. -/
  | cutValue
  /-- A key without a colon. -/
  | expectedColon
  /-- List items without a comma between them. -/
  | expectedListComma
  /-- Object members without a comma between them. -/
  | expectedObjectComma
  /-- A misspelt word. -/
  | expectedWord
  /-- No value where one is due. -/
  | expectedValue
  /-- An escape that is none. -/
  | invalidEscape
  /-- A number that is none. -/
  | invalidNumber
  /-- A number too large to be represented. -/
  | numberOutOfRange
  /-- Bytes in a text that are not UTF-8. -/
  | invalidCodePoint
  /-- A control character in a text. -/
  | controlCharacter
  /-- A key that is no text. -/
  | keyNotText
  /-- Half of a surrogate pair. -/
  | loneSurrogate
  /-- A surrogate pair that breaks off. -/
  | unfinishedPair
  /-- A comma before the closing bracket. -/
  | danglingComma
  /-- Something after the value. -/
  | trailing
  /-- Brackets nested too deep. -/
  | tooDeep
  /-- A value of another kind than expected. -/
  | wrongKind (found : Found) (expected : String)
  /-- A whole number outside of the expected range. -/
  | wrongValue (n : Int) (expected : String)
  /-- A list of another length than expected. -/
  | wrongLength (length : Nat) (expected : String)
  /-- A name other than the expected ones. -/
  | unknownName (name : String) (allowed : List String)
  /-- A member that is not there. -/
  | missingMember (name : String)
  /-- A member given twice. -/
  | duplicateMember (name : String)
  deriving DecidableEq, Repr, Inhabited

namespace Problem

/-- A name between back quotes. -/
def named (name : String) : String := "\x60" ++ name ++ "\x60"

/-- The wording of a problem. -/
def message : Problem → String
  | .cutList => "EOF while parsing a list"
  | .cutObject => "EOF while parsing an object"
  | .cutText => "EOF while parsing a string"
  | .cutValue => "EOF while parsing a value"
  | .expectedColon => "expected \x60:\x60"
  | .expectedListComma => "expected \x60,\x60 or \x60]\x60"
  | .expectedObjectComma => "expected \x60,\x60 or \x60\x7d\x60"
  | .expectedWord => "expected ident"
  | .expectedValue => "expected value"
  | .invalidEscape => "invalid escape"
  | .invalidNumber => "invalid number"
  | .numberOutOfRange => "number out of range"
  | .invalidCodePoint => "invalid unicode code point"
  | .controlCharacter => "control character (\\u0000-\\u001F) found while parsing a string"
  | .keyNotText => "key must be a string"
  | .loneSurrogate => "lone leading surrogate in hex escape"
  | .unfinishedPair => "unexpected end of hex escape"
  | .danglingComma => "trailing comma"
  | .trailing => "trailing characters"
  | .tooDeep => "recursion limit exceeded"
  | .wrongKind found expected => "invalid type: " ++ found.message ++ ", expected " ++ expected
  | .wrongValue n expected =>
    "invalid value: " ++ (Found.whole n).message ++ ", expected " ++ expected
  | .wrongLength length expected =>
    "invalid length " ++ toString length ++ ", expected " ++ expected
  | .unknownName name allowed =>
    "unknown variant " ++ named name ++ ", expected one of " ++
      Text.joined ", " (allowed.map named)
  | .missingMember name => "missing field " ++ named name
  | .duplicateMember name => "duplicate field " ++ named name

end Problem

end QueryPipe.Wire
