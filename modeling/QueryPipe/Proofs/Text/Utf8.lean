import QueryPipe.Text.Utf8

/-!
# Reading back the bytes of a text

A character's UTF-8 form has one to four bytes, and the decoder recognises it whatever follows.
So the bytes of a text read as exactly its characters, with no stray among them.

* `firstChar?_encode`: a character is found at the start of its own bytes.
* `glyphs_encode`: what was written from characters reads back as those characters.
-/

namespace QueryPipe.Text

theorem length_utf8EncodeChar_le (c : Char) : (String.utf8EncodeChar c).length ≤ 4 := by
  rw [String.length_utf8EncodeChar]
  exact c.utf8Size_le_four

theorem firstChar?_encode (c : Char) (rest : List UInt8) :
    firstChar? (String.utf8EncodeChar c ++ rest) = some c := by
  have h : (String.utf8EncodeChar c).take 4 = String.utf8EncodeChar c :=
    List.take_of_length_le (length_utf8EncodeChar_le c)
  rw [firstChar?, List.take_append, h, List.toByteArray_append]
  exact ByteArray.utf8DecodeChar?_utf8EncodeChar_append

theorem glyphs_encodeChar_append (c : Char) (rest : List UInt8) :
    glyphs (String.utf8EncodeChar c ++ rest) = .char c :: glyphs rest := by
  have hlen : (String.utf8EncodeChar c).length = c.utf8Size := String.length_utf8EncodeChar c
  cases hb : String.utf8EncodeChar c with
  | nil =>
    rw [hb, List.length_nil] at hlen
    have := c.utf8Size_pos
    omega
  | cons b more =>
    have hfirst := firstChar?_encode c rest
    rw [hb, List.length_cons] at hlen
    rw [hb, List.cons_append] at hfirst
    rw [List.cons_append, glyphs, hfirst]
    simp only
    rw [← hlen, Nat.add_sub_cancel, List.drop_left]

theorem glyphs_encode (cs : List Char) : glyphs (encode cs) = cs.map .char := by
  induction cs with
  | nil => simp [encode, glyphs]
  | cons c rest ih =>
    have h : encode (c :: rest) = String.utf8EncodeChar c ++ encode rest := rfl
    rw [h, glyphs_encodeChar_append, ih, List.map_cons]

/-- Bytes written from a text read as its characters. -/
theorem glyphs_bytesOf (s : String) : glyphs (bytesOf s) = glyphsOf s := glyphs_encode s.toList

end QueryPipe.Text
