import QueryPipe.Proofs.Text.Utf8

/-!
# Bytes of a text that break off

A text may break off between two characters or inside one. What is left of a character then reads
as strays: its first byte starts no whole character, and no other byte of a UTF-8 form starts one.

* `firstChar?_eq_some_iff`: what stands at the start of bytes.
* `glyphs_of_prefix_encode`: a text that breaks off reads as fewer characters and some strays.
-/

namespace QueryPipe.Text

/-! ## The first character -/

/-- A character is found only where its whole UTF-8 form stands. -/
theorem firstChar?_eq_some_iff {bytes : List UInt8} {c : Char} :
    firstChar? bytes = some c ↔ ∃ rest, bytes = String.utf8EncodeChar c ++ rest := by
  constructor
  · intro h
    obtain ⟨more, hmore⟩ := ByteArray.exists_of_utf8DecodeChar?_eq_some h
    have htake := congrArg (·.data.toList) hmore
    simp only [List.data_toByteArray, ByteArray.data_append, Array.toList_append] at htake
    refine ⟨more.data.toList ++ bytes.drop 4, ?_⟩
    rw [← List.append_assoc, ← htake, List.take_append_drop]
  · rintro ⟨rest, rfl⟩
    exact firstChar?_encode c rest

theorem glyphs_stray {b : UInt8} {rest : List UInt8} (h : firstChar? (b :: rest) = none) :
    glyphs (b :: rest) = .stray b :: glyphs rest := by
  rw [glyphs, h]

theorem glyphs_encode_append (cs : List Char) (rest : List UInt8) :
    glyphs (encode cs ++ rest) = cs.map .char ++ glyphs rest := by
  induction cs with
  | nil => rfl
  | cons c cs ih =>
    rw [encode, List.flatMap_cons, List.append_assoc, glyphs_encodeChar_append, ← encode, ih]
    rfl

/-! ## What is left of a character -/

theorem isUTF8FirstByte_of_firstChar? {b : UInt8} {rest : List UInt8} {c : Char}
    (h : firstChar? (b :: rest) = some c) : b.IsUTF8FirstByte := by
  obtain ⟨more, hmore⟩ := firstChar?_eq_some_iff.1 h
  have hfirst := UInt8.isUTF8FirstByte_getElem_zero_utf8EncodeChar (c := c)
  cases hc : String.utf8EncodeChar c with
  | nil =>
    have hlength := String.length_utf8EncodeChar c
    rw [hc, List.length_nil] at hlength
    exact absurd hlength (Nat.ne_of_lt c.utf8Size_pos)
  | cons d ds =>
    rw [hc, List.cons_append, List.cons.injEq] at hmore
    simpa [hc, hmore.1] using hfirst

/-- Bytes none of which starts a character are strays. -/
theorem strays_of_continuation {bytes : List UInt8} (h : ∀ b ∈ bytes, ¬ b.IsUTF8FirstByte) :
    ∀ g ∈ glyphs bytes, g.char? = none := by
  induction bytes with
  | nil => simp [glyphs]
  | cons b rest ih =>
    have hnone : firstChar? (b :: rest) = none := by
      rw [Option.eq_none_iff_forall_not_mem]
      exact fun c hc => h b List.mem_cons_self (isUTF8FirstByte_of_firstChar? hc)
    rw [glyphs_stray hnone]
    intro g hg
    rcases List.mem_cons.1 hg with rfl | hg
    · rfl
    · exact ih (fun b hb => h b (List.mem_cons_of_mem _ hb)) g hg

/-- A part of a character that lacks its end is strays. -/
theorem strays_of_prefix_encodeChar {c : Char} {bytes : List UInt8}
    (h : bytes <+: String.utf8EncodeChar c) (hne : bytes ≠ String.utf8EncodeChar c) :
    ∀ g ∈ glyphs bytes, g.char? = none := by
  cases bytes with
  | nil => simp [glyphs]
  | cons b rest =>
    obtain ⟨missing, hmissing⟩ := h
    have hnone : firstChar? (b :: rest) = none := by
      rw [Option.eq_none_iff_forall_not_mem]
      intro d hd
      -- The character found here is also found at the start of the whole form, so it is `c`.
      obtain ⟨more, hmore⟩ := firstChar?_eq_some_iff.1 hd
      have hsame : some c = some d := by
        rw [← firstChar?_encode c [], List.append_nil, ← hmissing]
        exact firstChar?_eq_some_iff.2 ⟨more ++ missing, by rw [hmore, List.append_assoc]⟩
      obtain rfl := Option.some.inj hsame
      rw [hmore, List.append_assoc] at hmissing
      have hnil : more = [] := by
        have hlength := congrArg List.length hmissing
        simp only [List.length_append] at hlength
        exact List.eq_nil_of_length_eq_zero (by omega)
      exact hne (by rw [hmore, hnil, List.append_nil])
    rw [glyphs_stray hnone]
    intro g hg
    rcases List.mem_cons.1 hg with rfl | hg
    · rfl
    · refine strays_of_continuation ?_ g hg
      intro x hx hfirst
      obtain ⟨i, hi, rfl⟩ := List.getElem_of_mem hx
      have hlength := congrArg List.length hmissing
      simp only [List.length_append, List.length_cons] at hlength
      have hlt : i + 1 < (String.utf8EncodeChar c).length := by omega
      have hget : (String.utf8EncodeChar c)[i + 1] = rest[i] := by
        simp only [← hmissing, List.cons_append, List.getElem_cons_succ,
          List.getElem_append_left hi]
      rw [← hget, UInt8.isUTF8FirstByte_getElem_utf8EncodeChar] at hfirst
      omega

/-! ## What is left of a text -/

/-- A text whose bytes break off reads as the characters in front of the break, followed by the
strays that are left of the character in which it stands. -/
theorem glyphs_of_prefix_encode {cs : List Char} {bytes : List UInt8} (h : bytes <+: encode cs)
    (hne : bytes ≠ encode cs) :
    ∃ front strays, front <+: cs ∧ front ≠ cs ∧ glyphs bytes = front.map .char ++ strays ∧
      ∀ g ∈ strays, g.char? = none := by
  induction cs generalizing bytes with
  | nil => exact absurd (List.prefix_nil.1 h) hne
  | cons c cs ih =>
    have hcons : encode (c :: cs) = String.utf8EncodeChar c ++ encode cs := rfl
    rw [hcons] at h hne
    rcases List.prefix_or_prefix_of_prefix h (List.prefix_append _ _) with hc | ⟨rest, rfl⟩
    · by_cases heq : bytes = String.utf8EncodeChar c
      · have hcs : cs ≠ [] := by
          rintro rfl
          exact hne (by rw [heq]; exact (List.append_nil _).symm)
        refine ⟨[c], [], ⟨cs, rfl⟩, by simpa [eq_comm] using hcs, ?_, by simp⟩
        have hglyphs := glyphs_encode [c]
        rwa [encode, List.flatMap_singleton, ← heq] at hglyphs
      · exact ⟨[], glyphs bytes, List.nil_prefix, by simp, rfl,
          strays_of_prefix_encodeChar hc heq⟩
    · obtain ⟨front, strays, hfront, hproper, hglyphs, hstrays⟩ :=
        ih ((List.prefix_append_right_inj _).1 h) fun heq => hne (by rw [heq])
      refine ⟨c :: front, strays, (List.prefix_cons_inj c).2 hfront, by simpa using hproper, ?_,
        hstrays⟩
      rw [glyphs_encodeChar_append, hglyphs]
      rfl

end QueryPipe.Text
