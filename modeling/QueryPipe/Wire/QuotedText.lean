import QueryPipe.Result
import QueryPipe.Text.Utf8
import QueryPipe.Wire.Problem

/-!
# Texts of a document

A text stands between quotes; a backslash starts an escape. `readText` gives the characters of a
text and refuses halves of surrogate pairs and bytes that are not UTF-8. `skipText` only finds the
closing quote and looks no further than the shape of an escape. `quoted` writes a text and escapes
only what must be.

* `length_of_skipText`: passing over a text uses up at least the closing quote.
* `escaped_plain`: a character that needs no escape is written as it is.
-/

namespace QueryPipe.Wire

open Text (Glyph)

/-! ## Escapes -/

/-- The value of a hexadecimal digit. -/
def hexDigit? : Glyph → Option Nat
  | .char c =>
    let n := c.toNat
    if 0x30 ≤ n && n ≤ 0x39 then some (n - 0x30)
    else if 0x41 ≤ n && n ≤ 0x46 then some (n - 0x37)
    else if 0x61 ≤ n && n ≤ 0x66 then some (n - 0x57)
    else none
  | .stray _ => none

/-- The four hexadecimal digits of an escape and what follows them. The text must go on for four
bytes at least. -/
def readHex (gs : List Glyph) : Except Problem (Nat × List Glyph) :=
  match gs with
  | a :: b :: c :: d :: rest =>
    match hexDigit? a, hexDigit? b, hexDigit? c, hexDigit? d with
    | some a, some b, some c, some d => .ok (((a * 16 + b) * 16 + c) * 16 + d, rest)
    | _, _, _, _ => .error .invalidEscape
  | _ => if Text.sizeOf gs < 4 then .error .cutText else .error .invalidEscape

/-- Whether a number is the first half of a surrogate pair. -/
def isLeading (n : Nat) : Bool := 0xD800 ≤ n && n ≤ 0xDBFF

/-- Whether a number is the second half of a surrogate pair. -/
def isTrailing (n : Nat) : Bool := 0xDC00 ≤ n && n ≤ 0xDFFF

/-- The character of a surrogate pair. -/
def pairChar (first second : Nat) : Char :=
  Char.ofNat ((first - 0xD800) * 0x400 + (second - 0xDC00) + 0x10000)

/-- The second half of a surrogate pair, which must follow the first as another escape. -/
def readSecondHalf (first : Nat) : List Glyph → Except Problem (Char × List Glyph)
  | [] => .error .cutText
  | g :: more =>
    if g.isChar '\\' then
      match more with
      | [] => .error .cutText
      | u :: rest =>
        if u.isChar 'u' then
          match readHex rest with
          | .error p => .error p
          | .ok (second, rest) =>
            if isTrailing second then .ok (pairChar first second, rest)
            else .error .loneSurrogate
        else .error .unfinishedPair
    else .error .unfinishedPair

/-- The character named by the number after `\u`. -/
def readCodePoint (gs : List Glyph) : Except Problem (Char × List Glyph) :=
  match readHex gs with
  | .error p => .error p
  | .ok (n, rest) =>
    if isTrailing n then .error .loneSurrogate
    else if isLeading n then readSecondHalf n rest
    else .ok (Char.ofNat n, rest)

/-- The character that stands for an escape of one letter. -/
def shortEscape? : Char → Option Char
  | '"' => some '"'
  | '\\' => some '\\'
  | '/' => some '/'
  | 'b' => some '\x08'
  | 'f' => some '\x0c'
  | 'n' => some '\n'
  | 'r' => some '\r'
  | 't' => some '\t'
  | _ => none

/-- The character of the escape whose backslash has been read. -/
def readEscape : List Glyph → Except Problem (Char × List Glyph)
  | [] => .error .cutText
  | .stray _ :: _ => .error .invalidEscape
  | .char c :: rest =>
    if c == 'u' then readCodePoint rest
    else
      match shortEscape? c with
      | some e => .ok (e, rest)
      | none => .error .invalidEscape

/-- Passes over the escape whose backslash has been read. -/
def skipEscape : List Glyph → Except Problem (List Glyph)
  | [] => .error .cutText
  | .stray _ :: _ => .error .invalidEscape
  | .char c :: rest =>
    if c == 'u' then (readHex rest).map (·.2)
    else if (shortEscape? c).isSome then .ok rest
    else .error .invalidEscape

theorem length_of_readHex {gs rest : List Glyph} {n : Nat} (h : readHex gs = .ok (n, rest)) :
    rest.length < gs.length := by
  unfold readHex at h
  split at h
  · split at h
    · cases h
      simp only [List.length_cons]
      omega
    · cases h
  · split at h <;> cases h

theorem length_of_readSecondHalf {first : Nat} {gs rest : List Glyph} {c : Char}
    (h : readSecondHalf first gs = .ok (c, rest)) : rest.length < gs.length := by
  unfold readSecondHalf at h
  split at h
  · cases h
  · split at h
    · split at h
      · cases h
      · split at h
        · split at h
          · cases h
          · rename_i hx
            split at h
            · simp only [Except.ok.injEq, Prod.mk.injEq] at h
              have := length_of_readHex hx
              rw [← h.2]
              simp only [List.length_cons]
              omega
            · cases h
        · cases h
    · cases h

/-- A character that is named by its number takes at least one character of the text. -/
theorem length_of_readCodePoint {gs rest : List Glyph} {c : Char}
    (h : readCodePoint gs = .ok (c, rest)) : rest.length < gs.length := by
  unfold readCodePoint at h
  split at h
  · cases h
  · rename_i hx
    have := length_of_readHex hx
    split at h
    · cases h
    · split at h
      · have := length_of_readSecondHalf h
        omega
      · simp only [Except.ok.injEq, Prod.mk.injEq] at h
        rw [← h.2]
        assumption

/-- So does an escape. -/
theorem length_of_readEscape {gs rest : List Glyph} {c : Char}
    (h : readEscape gs = .ok (c, rest)) : rest.length < gs.length := by
  unfold readEscape at h
  split at h
  · cases h
  · cases h
  · split at h
    · have := length_of_readCodePoint h
      simp only [List.length_cons]
      omega
    · split at h
      · simp only [Except.ok.injEq, Prod.mk.injEq] at h
        simp [← h.2]
      · cases h

theorem length_of_skipEscape {gs rest : List Glyph} (h : skipEscape gs = .ok rest) :
    rest.length < gs.length := by
  unfold skipEscape at h
  split at h
  · cases h
  · cases h
  · rename_i c more
    split at h
    · obtain ⟨⟨n, others⟩, hmore, rfl⟩ := exists_of_map_eq_ok h
      have := length_of_readHex hmore
      simp only [List.length_cons]
      omega
    · split at h
      · cases h
        simp
      · cases h

/-! ## Reading -/

/-- Whether a character may not stand in a text as it is. -/
def isControl (c : Char) : Bool := c.toNat < 0x20

/-- Reads a text up to its closing quote. Characters collect in front of `before`, the last one
first; `stray` tells whether a byte was met that is not UTF-8. -/
def readText (before : List Char) (stray : Bool) : List Glyph → Except Problem String
  | [] => .error .cutText
  | .stray _ :: rest => readText before true rest
  | .char c :: rest =>
    if c == '"' then
      if stray then .error .invalidCodePoint else .ok (String.ofList before.reverse)
    else if c == '\\' then
      match h : readEscape rest with
      | .error p => .error p
      | .ok (e, more) =>
        have := length_of_readEscape h
        readText (e :: before) stray more
    else if isControl c then .error .controlCharacter
    else readText (c :: before) stray rest
termination_by gs => gs.length

/-- Passes over a text and its closing quote and gives the rest. -/
def skipText : List Glyph → Except Problem (List Glyph)
  | [] => .error .cutText
  | .stray _ :: rest => skipText rest
  | .char c :: rest =>
    if c == '"' then .ok rest
    else if c == '\\' then
      match h : skipEscape rest with
      | .error p => .error p
      | .ok more =>
        have := length_of_skipEscape h
        skipText more
    else if isControl c then .error .controlCharacter
    else skipText rest
termination_by gs => gs.length

/-- A text that is passed over takes at least its closing quote. -/
theorem length_of_skipText {gs rest : List Glyph} (h : skipText gs = .ok rest) :
    rest.length < gs.length := by
  fun_induction skipText gs with
  | case1 => cases h
  | case2 _ more ih =>
    have := ih h
    simp only [List.length_cons]
    omega
  | case3 c more hc =>
    cases h
    simp
  | case4 => cases h
  | case5 c more _ _ others hx _ ih =>
    have := length_of_skipEscape hx
    have := ih h
    simp only [List.length_cons]
    omega
  | case6 => cases h
  | case7 c more _ _ _ ih =>
    have := ih h
    simp only [List.length_cons]
    omega

/-! ## Writing -/

/-- Four lower-case hexadecimal digits. -/
def fourHex (n : Nat) : List Char :=
  let digit (k : Nat) : Char := Char.ofNat (if k < 10 then 0x30 + k else 0x57 + k)
  [digit (n / 4096 % 16), digit (n / 256 % 16), digit (n / 16 % 16), digit (n % 16)]

/-- A character as it stands between quotes. -/
def escaped (c : Char) : List Char :=
  if c == '"' then ['\\', '"']
  else if c == '\\' then ['\\', '\\']
  else if c == '\x08' then ['\\', 'b']
  else if c == '\x0c' then ['\\', 'f']
  else if c == '\n' then ['\\', 'n']
  else if c == '\r' then ['\\', 'r']
  else if c == '\t' then ['\\', 't']
  else if isControl c then '\\' :: 'u' :: fourHex c.toNat
  else [c]

/-- All but controls, quotes and backslashes are written as they are. -/
theorem escaped_plain (c : Char) (hc : isControl c = false) (hq : c ≠ '"') (hb : c ≠ '\\') :
    escaped c = [c] := by
  have h : ∀ d : Char, isControl d = true → (c == d) = false := by
    intro d hd
    simp only [beq_eq_false_iff_ne, ne_eq]
    rintro rfl
    simp [hc] at hd
  simp [escaped, hc, hq, hb, h '\x08' (by decide), h '\x0c' (by decide), h '\n' (by decide),
    h '\r' (by decide), h '\t' (by decide)]

/-- A text between quotes. -/
def quoted (s : String) : List Char := '"' :: (s.toList.flatMap escaped ++ ['"'])

end QueryPipe.Wire
