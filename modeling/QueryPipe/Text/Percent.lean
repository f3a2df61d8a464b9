import QueryPipe.Text.Damage
import QueryPipe.Text.Search

/-!
# Percent signs in addresses

An address names bytes that could not stand in it by a percent sign and two hexadecimal digits.
After its question mark stand pairs of names and values, in which a plus sign is a blank.

* `percentDecoded_plain`: bytes without a percent sign stay as they are.
-/

namespace QueryPipe.Text

/-- The value of a hexadecimal digit. -/
def hexDigit? (b : UInt8) : Option UInt8 :=
  if 0x30 ≤ b && b ≤ 0x39 then some (b - 0x30)
  else if 0x41 ≤ b && b ≤ 0x46 then some (b - 0x37)
  else if 0x61 ≤ b && b ≤ 0x66 then some (b - 0x57)
  else none

/-- Bytes with every percent sign and its digits replaced by the byte they name. -/
def percentDecoded : List UInt8 → List UInt8
  | 0x25 :: a :: b :: rest =>
    match hexDigit? a, hexDigit? b with
    | some m, some n => (16 * m + n) :: percentDecoded rest
    | _, _ => 0x25 :: percentDecoded (a :: b :: rest)
  | b :: rest => b :: percentDecoded rest
  | [] => []

/-- Bytes without a percent sign stand for themselves. -/
theorem percentDecoded_plain (bytes : List UInt8) (h : 0x25 ∉ bytes) :
    percentDecoded bytes = bytes := by
  induction bytes with
  | nil => simp [percentDecoded]
  | cons b rest ih =>
    simp only [List.mem_cons, not_or] at h
    rw [percentDecoded, ih h.2]
    intro a c r hb
    exact absurd hb.symm h.1

/-- A name or a value as text. -/
def formText (cs : List Char) : String :=
  let spaced := cs.map fun c => if c == '+' then ' ' else c
  String.ofList (repaired (glyphs (percentDecoded (encode spaced))))

/-- The pairs of names and values after the question mark of an address. -/
def formPairs (cs : List Char) : List (String × String) :=
  ((splitAll '&' cs).filter fun part => !part.isEmpty).map fun part =>
    let name := beforeFirst '=' part
    (formText name, formText (part.drop (name.length + 1)))

end QueryPipe.Text
