import QueryPipe.Proofs.Text.Utf8
import QueryPipe.Proofs.Wire.Shape
import QueryPipe.Wire.ChainDocument

/-!
# The document of a chain keeps the chain

The shape of a chain is sound and admits the value of every chain: its only numbers are row limits
of 32 bits and literals of 64. So a chain comes back from its document unchanged, whichever slots
are filled, whatever its texts contain, and also from bytes with a line feed at their end.

* `Shape.ofBytes_toText`: a value is read back from the bytes of its line.
* `Chain.decode_encode_load_dump`: the round trip.
-/

namespace QueryPipe.Wire

/-! ## The shape of a chain -/

/-- The parts of a chain are told apart in a document. -/
theorem sound_chainShape : chainShape.Sound := by
  simp [chainShape, planShape, selectionShape, joiningShape, joinConditionShape, filterShape,
    conditionShape, limitShape, sortingShape, rawShape, textsShape, Shape.Sound, Fields.Sound,
    Fields.names, Shape.isNullable, Numeral.WholeRange.unsigned32, Numeral.twoTo]

/-! ## The values of a chain -/

theorem admits_limitValue (n : UInt32) : limitShape.Admits (limitValue n) := by
  have hlt : n.toNat < 2 ^ 32 := n.toNat_lt
  have h32 : (Numeral.twoTo 32 : Int) = 2 ^ 32 := rfl
  refine ⟨?_, trivial⟩
  show Numeral.WholeRange.unsigned32.holds (n.toNat : Int) = true
  simp only [Numeral.WholeRange.holds, Bool.and_eq_true, decide_eq_true_eq]
  simp only [Numeral.WholeRange.unsigned32]
  omega

theorem admits_texts (texts : List String) : textsShape.Admits texts :=
  List.forall_iff_forall_mem.2 fun _ _ => trivial

theorem admits_selectionValue (s : Selection) : selectionShape.Admits (selectionValue s) := by
  obtain ⟨tables, alias?, columns⟩ := s
  refine ⟨admits_texts tables, ?_, admits_texts columns, trivial⟩
  cases alias? <;> trivial

theorem admits_joiningValue (j : Joining) : joiningShape.Admits (joiningValue j) := by
  obtain ⟨table, alias?, how, conditions⟩ := j
  refine ⟨trivial, ?_, trivial, ?_, trivial⟩
  · cases alias? <;> trivial
  · exact List.forall_iff_forall_mem.2 fun _ _ => ⟨trivial, trivial, trivial, trivial⟩

theorem admits_filterValue (f : Filter) : filterShape.Admits (filterValue f) :=
  ⟨List.forall_iff_forall_mem.2 fun _ _ => ⟨trivial, trivial, trivial, trivial⟩, trivial⟩

theorem admits_sortingValue (o : Sorting) : sortingShape.Admits (sortingValue o) :=
  ⟨trivial, admits_texts o.columns, trivial⟩

theorem admits_rawValue (text : String) : rawShape.Admits (rawValue text) := ⟨trivial, trivial⟩

/-- An absent fragment is admitted as null, a present one by its own shape. -/
theorem admits_nullable_map {α : Type} {inner : Shape} {value : α → inner.Value}
    (h : ∀ a, inner.Admits (value a)) (o : Option α) :
    (Shape.nullable inner).Admits (o.map value) := by
  cases o with
  | none => trivial
  | some a => exact h a

theorem admits_planValue (p : Plan) : planShape.Admits (planValue p) :=
  ⟨admits_nullable_map admits_selectionValue p.select,
    admits_nullable_map admits_joiningValue p.join,
    admits_nullable_map admits_filterValue p.filter,
    admits_nullable_map admits_limitValue p.limit,
    admits_nullable_map admits_sortingValue p.sort,
    admits_nullable_map admits_rawValue p.raw, trivial⟩

/-- Every chain can be written. -/
theorem admits_chainValue (c : Chain) : chainShape.Admits (chainValue c) := by
  refine ⟨List.forall_iff_forall_mem.2 ?_, trivial⟩
  intro v hv
  obtain ⟨p, -, rfl⟩ := List.mem_map.1 hv
  exact admits_planValue p

theorem lexemes_lineFeed : lexemes [.char '\n'] = [] := by
  rw [lexemes_blank rfl, lexemes_nil]

/-- A value of a sound shape is read back from the bytes of its line. -/
theorem Shape.ofBytes_toText {shape : Shape} {v : shape.Value} (hs : shape.Sound)
    (hv : shape.Admits v) : shape.ofBytes (Text.bytesOf (shape.toText v ++ "\n")) = .ok v := by
  have hglyphs : Text.glyphs (Text.bytesOf (shape.toText v ++ "\n")) =
      (shape.write v).map .char ++ [.char '\n'] := by
    rw [Text.glyphs_bytesOf, Text.glyphsOf, String.toList_append, List.map_append, Shape.toText,
      String.toList_ofList]
    rfl
  rw [Shape.ofBytes, hglyphs]
  exact Shape.readDocument_write hs hv lexemes_lineFeed
    (endsNumber_cons (by decide) (by decide) (by decide) (by decide) [])

end QueryPipe.Wire

namespace QueryPipe.Chain

open Wire

theorem toList_encode (c : Chain) : c.encode.toList = chainShape.write (chainValue c) := by
  rw [encode, Shape.toText, String.toList_ofList]

/-- A chain that is dumped is loaded again. -/
theorem load_dump (c : Chain) : load c.dump = .ok c := by
  rw [load, dump, encode, Shape.ofBytes_toText sound_chainShape (admits_chainValue c)]
  exact congrArg Except.ok (chainOfValue_chainValue c)

/-- Where nothing comes in there is no chain. -/
theorem exists_load_nil_eq_error : ∃ problem, load [] = .error problem := by
  rw [load, Shape.ofBytes, Text.glyphs, Document.ofGlyphs, lexemes_nil]
  exact ⟨_, rfl⟩

/-- Every chain is read back from its document, given as a text or as bytes with a line feed at
their end. -/
theorem decode_encode_load_dump (c : Chain) :
    decode c.encode = .ok c ∧ load c.dump = .ok c := by
  have hread (blanks : List Text.Glyph) (hb : lexemes blanks = []) (he : EndsNumber blanks) :=
    Shape.readDocument_write sound_chainShape (admits_chainValue c) hb he
  constructor
  · have h := hread [] lexemes_nil endsNumber_nil
    rw [List.append_nil] at h
    rw [decode, encode, Shape.toText, Shape.ofText, Text.glyphsOf, String.toList_ofList, h]
    exact congrArg Except.ok (chainOfValue_chainValue c)
  · have h := hread [.char '\n'] lexemes_lineFeed
      (endsNumber_cons (by decide) (by decide) (by decide) (by decide) [])
    rw [load, dump, Shape.ofBytes, Text.glyphs_bytesOf, Text.glyphsOf, encode, Shape.toText,
      String.toList_append, String.toList_ofList, List.map_append]
    have hfeed : "\n".toList.map Text.Glyph.char = [.char '\n'] := rfl
    rw [hfeed, h]
    exact congrArg Except.ok (chainOfValue_chainValue c)

end QueryPipe.Chain
