import QueryPipe.Text.ClusterTable
import QueryPipe.Text.HiddenTable

/-!
# Texts shown in messages

A message quotes a text so that every character can be seen: the quote and the backslash are
escaped, and a character without a shape of its own is named by its number.
-/

namespace QueryPipe.Text

/-- Whether a character extends the one before it. -/
def isExtending (c : Char) : Bool :=
  let n := c.toNat
  0x300 ≤ n && ClusterTable.extend.holds n && !(0x1F3FB ≤ n && n ≤ 0x1F3FF)

/-- Whether a character has no shape to show. -/
def isHidden (c : Char) : Bool :=
  let n := c.toNat
  if n < 0x7F then n < 0x20 else HiddenTable.ranges.holds n

/-- A number in lower-case hexadecimal. -/
def hexDigits (n : Nat) : List Char := (Nat.toDigits 16 n).map Char.toLower

/-- A character between the quotes of a quotation. -/
def quotedChar (c : Char) : List Char :=
  if c == '\x00' then ['\\', '0']
  else if c == '\t' then ['\\', 't']
  else if c == '\r' then ['\\', 'r']
  else if c == '\n' then ['\\', 'n']
  else if c == '\\' || c == '"' then ['\\', c]
  else if isExtending c || isHidden c then
    ['\\', 'u', '\x7b'] ++ hexDigits c.toNat ++ ['\x7d']
  else [c]

/-- A text in quotes. -/
def quotation (s : String) : String :=
  String.ofList (['"'] ++ s.toList.flatMap quotedChar ++ ['"'])

end QueryPipe.Text
