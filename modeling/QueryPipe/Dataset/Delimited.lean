import QueryPipe.Text.Utf8

/-!
# Delimited files

A delimited file is a row of records, a record a row of fields. Fields are separated by one byte;
records end with a line feed, a carriage return, or both, and empty lines between records count
for nothing. A field may be quoted; a quote inside is then written twice, and what follows the
closing quote belongs to the field as it stands. A quote that is not closed runs to the end. A
byte order mark at the start of the file is no part of it.

Reading works on bytes; a record whose fields are not UTF-8 is refused on its own.
-/

namespace QueryPipe.Dataset

/-- A place in a file. -/
structure Position where
  /-- The number of records before it. -/
  record : Nat := 0
  /-- The number of its line, counted from one. -/
  line : Nat := 1
  /-- The number of bytes before it. -/
  byte : Nat := 0
  deriving DecidableEq, Repr, Inhabited

/-- The place after one more byte. -/
def Position.after (p : Position) (b : UInt8) : Position :=
  { p with line := if b == 0x0A then p.line + 1 else p.line, byte := p.byte + 1 }

/-- A record as bytes. -/
structure RawRecord where
  /-- Where reading stood before the record. -/
  position : Position
  /-- The fields. -/
  fields : List (List UInt8)
  deriving DecidableEq, Repr, Inhabited

/-- Where the reader of a file stands. -/
inductive Mode
  /-- Before a record. -/
  | fresh
  /-- Before a field. -/
  | fieldStart
  /-- Inside a field, outside of quotes. -/
  | plain
  /-- Inside quotes. -/
  | quoted
  /-- After a quote inside quotes. -/
  | quoteSeen
  deriving DecidableEq, Repr, Inhabited

/-- The quote. -/
def quoteByte : UInt8 := 0x22

/-- Whether a byte ends a record. -/
def isTerminator (b : UInt8) : Bool := b == 0x0A || b == 0x0D

/-- A record under way: where it started, and its bytes so far, the last first. -/
structure Draft where
  /-- Where reading stood before the record. -/
  start : Position
  /-- The fields that are complete, the last first. -/
  fields : List (List UInt8) := []
  /-- The bytes of the field under way, the last first. -/
  field : List UInt8 := []

namespace Draft

/-- One more byte of the field. -/
def push (d : Draft) (b : UInt8) : Draft := { d with field := b :: d.field }

/-- The field is complete. -/
def endField (d : Draft) : Draft :=
  { d with fields := d.field.reverse :: d.fields, field := [] }

/-- The record is complete. -/
def record (d : Draft) : RawRecord := ⟨d.start, d.endField.fields.reverse⟩

/-- The draft of the record that starts at a place. -/
def startingAt (here : Position) : Draft := { start := here }

end Draft

/-- What a byte does to the record under way. -/
inductive Role
  /-- Nothing but to bring the reader to a mode. -/
  | mark (next : Mode)
  /-- It belongs to the field. -/
  | content (next : Mode)
  /-- It ends the field. -/
  | fieldEnd
  /-- It ends the record. -/
  | recordEnd
  deriving DecidableEq, Repr, Inhabited

/-- The role of a byte outside of quotes. -/
def Role.outside (delimiter b : UInt8) : Role :=
  if b == delimiter then .fieldEnd
  else if isTerminator b then .recordEnd
  else .content .plain

/-- The role of a byte. -/
def Mode.role (delimiter : UInt8) (mode : Mode) (b : UInt8) : Role :=
  match mode with
  | .fresh =>
    if isTerminator b then .mark .fresh
    else if b == quoteByte then .mark .quoted
    else .outside delimiter b
  | .fieldStart => if b == quoteByte then .mark .quoted else .outside delimiter b
  | .plain => .outside delimiter b
  | .quoted => if b == quoteByte then .mark .quoteSeen else .content .quoted
  | .quoteSeen => if b == quoteByte then .content .quoted else .outside delimiter b

/-- Reads the records of a file from a place on. -/
def scan (delimiter : UInt8) (mode : Mode) (here : Position) (draft : Draft) :
    List UInt8 → List RawRecord
  | [] => if mode == .fresh then [] else [draft.record]
  | b :: rest =>
    let next := here.after b
    match mode.role delimiter b with
    | .mark mode => scan delimiter mode next draft rest
    | .content mode => scan delimiter mode next (draft.push b) rest
    | .fieldEnd => scan delimiter .fieldStart next draft.endField rest
    | .recordEnd =>
      let place := { next with record := next.record + 1 }
      draft.record :: scan delimiter .fresh place (.startingAt place) rest

/-- A file without the byte order mark, and the place after it. -/
def afterMark : List UInt8 → Position × List UInt8
  | 0xEF :: 0xBB :: 0xBF :: rest => ({ byte := 3 }, rest)
  | bytes => ({}, bytes)

/-- All records of a file, the header first. Reading starts before a byte order mark. -/
def rawRecords (delimiter : UInt8) (bytes : List UInt8) : List RawRecord :=
  let (here, rest) := afterMark bytes
  scan delimiter .fresh here (.startingAt {}) rest

/-! ## Records as text -/

/-- A field of a record that is not UTF-8. -/
structure RecordProblem where
  /-- Where reading stood before the record. -/
  position : Position
  /-- The number of the field. -/
  field : Nat
  /-- The number of bytes of the field before the first that is not UTF-8. -/
  validUpTo : Nat
  deriving DecidableEq, Repr, Inhabited

/-- The wording of a problem. -/
def RecordProblem.message (p : RecordProblem) : String :=
  "CSV parse error: record " ++ toString p.position.record ++ " (line " ++
    toString p.position.line ++ ", field: " ++ toString p.field ++ ", byte: " ++
    toString p.position.byte ++ "): invalid utf-8: invalid UTF-8 in field " ++
    toString p.field ++ " near byte index " ++ toString p.validUpTo

/-- The number of bytes before the first that is not UTF-8. -/
def validUpTo (gs : List Text.Glyph) : Nat :=
  Text.sizeOf (gs.takeWhile fun g => g.char?.isSome)

/-- The fields of a record as texts; `index` fields come before them. -/
def textFields (position : Position) : Nat → List (List UInt8) →
    Except RecordProblem (List String)
  | _, [] => .ok []
  | index, field :: rest =>
    match Text.ofBytes? field with
    | some s => (textFields position (index + 1) rest).map (s :: ·)
    | none => .error ⟨position, index, validUpTo (Text.glyphs field)⟩

/-- The fields of a record as texts. -/
def RawRecord.texts (r : RawRecord) : Except RecordProblem (List String) :=
  textFields r.position 0 r.fields

/-! ## Header and data -/

/-- A file cut into its header and its data records. -/
structure Table where
  /-- The first record, if there is any. -/
  header : Option RawRecord
  /-- All records after the first. -/
  records : List RawRecord

/-- The header and the data records of a file. -/
def Table.ofBytes (delimiter : UInt8) (bytes : List UInt8) : Table :=
  let all := rawRecords delimiter bytes
  ⟨all.head?, all.tail⟩

/-- The names in the header; a file without records has none. -/
def Table.names (t : Table) : Except RecordProblem (List String) :=
  match t.header with
  | none => .ok []
  | some r => r.texts

/-- The data records of a file whose header was read before them. -/
def Table.data (t : Table) : List (Except RecordProblem (List String)) :=
  t.records.map RawRecord.texts

/-- The data records of a file that is read without looking at its header. The header is then
passed over on the way to the first data record, which counts from the start of the file. -/
def Table.dataOnly (t : Table) : List (Except RecordProblem (List String)) :=
  match t.records with
  | [] => []
  | first :: rest => { first with position := {} }.texts :: rest.map RawRecord.texts

end QueryPipe.Dataset
