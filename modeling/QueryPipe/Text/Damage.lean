import QueryPipe.Text.Utf8

/-!
# Bytes that are no text

Where bytes stop being UTF-8, how many of them belong to one broken character, and the text that
is left when every broken character is replaced.

* `repaired_chars`: a text without damage stays as it is.
-/

namespace QueryPipe.Text

/-- The least and the greatest of the bytes that may stand in one place. -/
abbrev ByteRange := UInt8 × UInt8

/-- Any byte that continues a character. -/
def continuation : ByteRange := (0x80, 0xBF)

/-- The bytes that may follow a first byte, place by place. -/
def followers (b : UInt8) : List ByteRange :=
  if 0xC2 ≤ b && b ≤ 0xDF then [continuation]
  else if b == 0xE0 then [(0xA0, 0xBF), continuation]
  else if b == 0xED then [(0x80, 0x9F), continuation]
  else if 0xE1 ≤ b && b ≤ 0xEF then [continuation, continuation]
  else if b == 0xF0 then [(0x90, 0xBF), continuation, continuation]
  else if 0xF1 ≤ b && b ≤ 0xF3 then [continuation, continuation, continuation]
  else if b == 0xF4 then [(0x80, 0x8F), continuation, continuation]
  else []

/-- How many bytes stand where they may. -/
def fitting : List ByteRange → List UInt8 → Nat
  | (least, greatest) :: ranges, b :: rest =>
    if least ≤ b && b ≤ greatest then fitting ranges rest + 1 else 0
  | _, _ => 0

/-- A broken character. -/
structure Damage where
  /-- The number of bytes before it. -/
  start : Nat
  /-- The number of its bytes, unless more bytes could have completed it. -/
  length? : Option Nat
  deriving DecidableEq, Repr, Inhabited

/-- The wording of a broken character. -/
def Damage.message (d : Damage) : String :=
  match d.length? with
  | some n =>
    "invalid utf-8 sequence of " ++ toString n ++ " bytes from index " ++ toString d.start
  | none => "incomplete utf-8 byte sequence from index " ++ toString d.start

/-- The first broken character of some bytes. -/
def damage? (bytes : List UInt8) : Option Damage :=
  let start := sizeOf ((glyphs bytes).takeWhile fun g => g.char?.isSome)
  match bytes.drop start with
  | [] => none
  | b :: rest =>
    let n := fitting (followers b) rest
    let complete := rest.length ≤ n && n < (followers b).length
    some ⟨start, if complete then none else some (n + 1)⟩

/-- The bytes of some glyphs that stand alone. -/
def strays : List Glyph → List UInt8
  | .stray b :: rest => b :: strays rest
  | _ => []

/-- The text with one replacement for each broken character. -/
def repaired : List Glyph → List Char
  | [] => []
  | .char c :: rest => c :: repaired rest
  | .stray b :: rest => '\ufffd' :: repaired (rest.drop (fitting (followers b) (strays rest)))
termination_by gs => gs.length
decreasing_by
  all_goals (simp only [List.length_cons, List.length_drop]; omega)

/-- A text without damage is repaired to itself. -/
theorem repaired_chars (cs : List Char) : repaired (cs.map .char) = cs := by
  induction cs with
  | nil => simp [repaired]
  | cons c rest ih => simp [repaired, ih]

end QueryPipe.Text
