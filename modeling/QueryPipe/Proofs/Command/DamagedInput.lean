import QueryPipe.Command.Action
import QueryPipe.Proofs.Text.Truncation
import QueryPipe.Proofs.Wire.ChainDocument
import QueryPipe.Proofs.Wire.Truncation

/-!
# Damaged documents of a chain

The document of a chain ends with the brace that closes its first one. So no part of it that lacks
its end is a document of any chain, and what stands behind it is never taken for a part of it: a
document with something behind it is read only if that is blank. A tool that needs a chain fails
on a document that lacks its end and on two documents in a row.

* `Chain.exists_problem_of_prefix`, `Chain.decode_encode_append`: reading a damaged document.
* `Chain.Guarded`, `Chain.guarded`: what holds of the document of every chain.
-/

namespace QueryPipe.Wire

open Text (Glyph)

/-! ## Blanks behind a document -/

/-- A text holds no lexeme if and only if it is blank. -/
theorem lexemes_glyphsOf_eq_nil_iff {t : String} :
    lexemes (Text.glyphsOf t) = [] ↔ ∀ c ∈ t.toList, c ∈ blanks := by
  simp only [lexemes_eq_nil_iff, Text.glyphsOf, List.forall_mem_map, isSpace_char_iff]

theorem encodeChar_of_mem_blanks {c : Char} (h : c ∈ blanks) :
    String.utf8EncodeChar c = [c.toUInt8] ∧ c.toUInt8 ∈ Text.encode blanks := by
  simp only [blanks, List.mem_cons, List.not_mem_nil, or_false] at h
  rcases h with rfl | rfl | rfl | rfl <;> exact ⟨by decide, by decide⟩

/-- Every byte of a blank is a blank by itself. -/
theorem exists_encodeChar_of_mem_blanks {b : UInt8} (h : b ∈ Text.encode blanks) :
    ∃ c ∈ blanks, String.utf8EncodeChar c = [b] := by
  obtain ⟨c, hc, hb⟩ := List.mem_flatMap.1 h
  rw [(encodeChar_of_mem_blanks hc).1, List.mem_singleton] at hb
  exact ⟨c, hc, by rw [(encodeChar_of_mem_blanks hc).1, hb]⟩

theorem mem_blanks_of_firstChar? {b : UInt8} {rest : List UInt8} {c : Char}
    (h : Text.firstChar? (b :: rest) = some c) (hc : c ∈ blanks) : b ∈ Text.encode blanks := by
  obtain ⟨more, hmore⟩ := Text.firstChar?_eq_some_iff.1 h
  obtain ⟨hbytes, hmem⟩ := encodeChar_of_mem_blanks hc
  rw [hbytes, List.singleton_append, List.cons.injEq] at hmore
  rw [hmore.1]
  exact hmem

/-- Bytes are read as blanks and nothing else if they are the bytes of blanks. -/
theorem lexemes_glyphs_eq_nil_iff {bytes : List UInt8} :
    lexemes (Text.glyphs bytes) = [] ↔ ∀ b ∈ bytes, b ∈ Text.encode blanks := by
  induction bytes with
  | nil => simp [Text.glyphs]
  | cons b rest ih =>
    rw [List.forall_mem_cons]
    by_cases hb : b ∈ Text.encode blanks
    · obtain ⟨c, hc, hbytes⟩ := exists_encodeChar_of_mem_blanks hb
      rw [← List.singleton_append, ← hbytes, Text.glyphs_encodeChar_append,
        lexemes_blank (isSpace_char_iff.2 hc), ih]
      simp [hb]
    · refine iff_of_false (fun hnil => ?_) fun h => hb h.1
      have hspace := lexemes_eq_nil_iff.1 hnil
      rw [Text.glyphs] at hspace
      split at hspace
      · rename_i c hc
        exact hb (mem_blanks_of_firstChar? hc (isSpace_char_iff.1 (hspace _ List.mem_cons_self)))
      · exact absurd (hspace _ List.mem_cons_self) (by simp [isSpace])

end QueryPipe.Wire

namespace QueryPipe.Chain

open Wire

/-! ## Reading a damaged document -/

/-- A chain that is written and cut short is refused, whatever stray bytes the cut leaves. -/
theorem readDocument_cut {c : Chain} {front : List Char} (h : front <+: c.encode.toList)
    (hne : front ≠ c.encode.toList) {strays : List Text.Glyph} (hst : Strays strays) :
    ∃ problem, chainShape.readDocument (.ofGlyphs (front.map .char ++ strays)) =
      .error problem := by
  rw [toList_encode] at h hne
  exact Fields.exists_problem_of_cut sound_chainShape (admits_chainValue c) h hne hst

/-- A document that breaks off is not read, wherever it does. -/
theorem exists_problem_of_prefix {c : Chain} {s : String} (h : s.toList <+: c.encode.toList)
    (hne : s ≠ c.encode) : ∃ problem, decode s = .error problem := by
  have hnone : Strays [] := by simp [Strays]
  obtain ⟨problem, hproblem⟩ := readDocument_cut h (fun heq => hne (String.toList_inj.1 heq)) hnone
  rw [List.append_nil] at hproblem
  exact ⟨problem, by rw [decode, Shape.ofText, Text.glyphsOf, hproblem]; rfl⟩

/-- Bytes of a document that break off are not read, not even inside a character. -/
theorem exists_problem_of_prefix_bytes {c : Chain} {bytes : List UInt8}
    (h : bytes <+: Text.bytesOf c.encode) (hne : bytes ≠ Text.bytesOf c.encode) :
    ∃ problem, load bytes = .error problem := by
  obtain ⟨front, strays, hfront, hproper, hglyphs, hstrays⟩ := Text.glyphs_of_prefix_encode h hne
  obtain ⟨problem, hproblem⟩ := readDocument_cut hfront hproper hstrays
  exact ⟨problem, by rw [load, Shape.ofBytes, hglyphs, hproblem]; rfl⟩

/-- What follows a chain that is written is accepted if and only if it holds no lexeme. -/
theorem readDocument_encode_append (c : Chain) (gs : List Text.Glyph) :
    (chainShape.readDocument (.ofGlyphs (c.encode.toList.map .char ++ gs))).map chainOfValue =
      if lexemes gs = [] then .ok c else .error .trailing := by
  have h : chainShape.readDocument (.ofGlyphs (c.encode.toList.map .char ++ gs)) =
      if lexemes gs = [] then .ok (chainValue c) else .error .trailing := by
    rw [toList_encode]
    exact Fields.readDocument_write_append sound_chainShape (admits_chainValue c) gs
  rw [h]
  split
  · exact congrArg Except.ok (chainOfValue_chainValue c)
  · rfl

/-- A text behind a document is refused unless it is blank. -/
theorem decode_encode_append (c : Chain) (t : String) :
    decode (c.encode ++ t) =
      if lexemes (Text.glyphsOf t) = [] then .ok c else .error .trailing := by
  rw [decode, Shape.ofText, Text.glyphsOf, String.toList_append, List.map_append,
    readDocument_encode_append, Text.glyphsOf]

/-- Bytes behind a document are refused unless they are blank. -/
theorem load_encode_append (c : Chain) (bytes : List UInt8) :
    load (Text.bytesOf c.encode ++ bytes) =
      if lexemes (Text.glyphs bytes) = [] then .ok c else .error .trailing := by
  rw [load, Shape.ofBytes, Text.bytesOf, Text.glyphs_encode_append, readDocument_encode_append]

/-! ## Every document of a chain -/

/-- The document of a chain is read whole or not at all. -/
structure Guarded (c : Chain) : Prop where
  /-- A text that lacks its end is refused. -/
  truncated : ∀ s : String, s.toList <+: c.encode.toList → s ≠ c.encode →
    ∃ problem, decode s = .error problem
  /-- A text with something behind it is read exactly if that is blank, and then as the chain. -/
  extended : ∀ t : String,
    ((∃ d, decode (c.encode ++ t) = .ok d) ↔
      ∀ ch ∈ t.toList, ch = ' ' ∨ ch = '\n' ∨ ch = '\r' ∨ ch = '\t') ∧
    ∀ d, decode (c.encode ++ t) = .ok d → d = c
  /-- A tool that needs a chain fails on bytes that lack their end. -/
  input_truncated : ∀ t : Command.Tool, t.startsStage = false → ∀ bytes,
    bytes <+: Text.bytesOf c.encode → bytes ≠ Text.bytesOf c.encode →
    ∃ problem, t.input false bytes = .error (.wire problem)
  /-- A tool that needs a chain fails on bytes that go on with anything that is not blank. -/
  input_extended : ∀ t : Command.Tool, t.startsStage = false → ∀ bytes : List UInt8,
    (∃ b ∈ bytes, b ≠ 0x20 ∧ b ≠ 0x0A ∧ b ≠ 0x0D ∧ b ≠ 0x09) →
    ∃ problem, t.input false (Text.bytesOf c.encode ++ bytes) = .error (.wire problem)

/-- A tool that starts no stage hands on that its input is refused. -/
theorem input_of_load_eq_error {t : Command.Tool} (ht : t.startsStage = false)
    {bytes : List UInt8} (h : ∃ problem, load bytes = .error problem) :
    ∃ problem, t.input false bytes = .error (.wire problem) := by
  obtain ⟨problem, hload⟩ := h
  exact ⟨problem, by simp only [Command.Tool.input, ht, hload, Bool.false_eq_true, if_false]⟩

/-- Nothing but the whole document of a chain, with blanks behind it or not, is taken for it. -/
theorem guarded (c : Chain) : c.Guarded where
  truncated s h hne := exists_problem_of_prefix h hne
  extended t := by
    have hblank : lexemes (Text.glyphsOf t) = [] ↔
        ∀ ch ∈ t.toList, ch = ' ' ∨ ch = '\n' ∨ ch = '\r' ∨ ch = '\t' := by
      rw [lexemes_glyphsOf_eq_nil_iff]
      simp [blanks]
    rw [decode_encode_append, ← hblank]
    split
    · rename_i h
      exact ⟨iff_of_true ⟨c, rfl⟩ h, fun d hd => (Except.ok.inj hd).symm⟩
    · rename_i h
      refine ⟨iff_of_false ?_ h, fun d hd => by cases hd⟩
      rintro ⟨d, hd⟩
      cases hd
  input_truncated t ht bytes h hne :=
    input_of_load_eq_error ht (exists_problem_of_prefix_bytes h hne)
  input_extended t ht bytes h := by
    refine input_of_load_eq_error ht ⟨.trailing, ?_⟩
    obtain ⟨b, hb, hne⟩ := h
    rw [load_encode_append, if_neg]
    intro hnil
    have hmem : b ∈ [0x20, 0x0A, 0x0D, 0x09] := lexemes_glyphs_eq_nil_iff.1 hnil b hb
    simp [hne] at hmem

end QueryPipe.Chain
