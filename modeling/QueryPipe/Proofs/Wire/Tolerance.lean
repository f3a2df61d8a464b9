import QueryPipe.Proofs.Wire.ChainDocument
import QueryPipe.Proofs.Wire.Repetition
import QueryPipe.Proofs.Wire.Retelling

/-!
# What the document of a chain may look like

Documents of chains are also written by hand and by other programs, so reading one does not depend
on how it is laid out: on blanks, on how a character is spelt, on the order of members, on members
that say nothing or are not known. It does depend on every known member coming at most once.

* `Chain.decode_retold`: all documents that say the same as that of a chain, and those that say
  something twice.
-/

namespace QueryPipe.Wire

/-! ## Shapes of fragments -/

/-- Every member that a document of a chain can leave out stands for something. -/
theorem lenient_chainShape : chainShape.Lenient := by
  simp [chainShape, planShape, selectionShape, joiningShape, joinConditionShape, filterShape,
    conditionShape, limitShape, sortingShape, rawShape, textsShape, Shape.Lenient, Fields.Lenient,
    listKeys, Shape.isList, Shape.default?]
  -- lists that are left out are empty, and all else is missing
  and_intros
  all_goals rfl

theorem restore_texts (texts : List String) : textsShape.restore texts = texts :=
  List.map_id texts

theorem map_restore_eq_self {α : Type} {item : Shape} {value : α → item.Value}
    (h : ∀ a, item.restore (value a) = value a) (as : List α) :
    (as.map value).map item.restore = as.map value := by
  rw [List.map_map]
  exact List.map_congr_left fun a _ => h a

theorem restore_nullable_map {α : Type} {inner : Shape} {value : α → inner.Value}
    (h : ∀ a, inner.restore (value a) = value a) (o : Option α) :
    (Shape.nullable inner).restore (o.map value) = o.map value := by
  cases o with
  | none => rfl
  | some a => exact congrArg some (h a)

/-! ## Nothing of a chain is left out in its value -/

theorem restore_selectionValue (s : Selection) :
    selectionShape.restore (selectionValue s) = selectionValue s := by
  obtain ⟨tables, alias?, columns⟩ := s
  have halias : (Shape.nullable .text).restore alias? = alias? := by cases alias? <;> rfl
  show (textsShape.restore tables, (Shape.nullable .text).restore alias?,
    some (textsShape.restore columns), ()) = _
  rw [restore_texts, restore_texts, halias]
  rfl

theorem restore_joiningValue (j : Joining) :
    joiningShape.restore (joiningValue j) = joiningValue j := by
  obtain ⟨table, alias?, how, conditions⟩ := j
  have halias : (Shape.nullable .text).restore alias? = alias? := by cases alias? <;> rfl
  show (table, (Shape.nullable .text).restore alias?, how,
    some ((conditions.map joinConditionValue).map joinConditionShape.restore), ()) = _
  rw [halias, map_restore_eq_self fun _ => rfl]
  rfl

theorem restore_filterValue (f : Filter) : filterShape.restore (filterValue f) = filterValue f := by
  show (some ((f.conditions.map conditionValue).map conditionShape.restore), ()) = _
  rw [map_restore_eq_self fun _ => rfl]
  rfl

theorem restore_sortingValue (o : Sorting) :
    sortingShape.restore (sortingValue o) = sortingValue o := by
  show (o.descending, some (textsShape.restore o.columns), ()) = _
  rw [restore_texts]
  rfl

theorem restore_planValue (p : Plan) : planShape.restore (planValue p) = planValue p := by
  obtain ⟨select, join, filter, limit, sort, raw⟩ := p
  show (some ((Shape.nullable selectionShape).restore (select.map selectionValue)),
    some ((Shape.nullable joiningShape).restore (join.map joiningValue)),
    some ((Shape.nullable filterShape).restore (filter.map filterValue)),
    some ((Shape.nullable limitShape).restore (limit.map limitValue)),
    some ((Shape.nullable sortingShape).restore (sort.map sortingValue)),
    some ((Shape.nullable rawShape).restore (raw.map rawValue)), ()) = _
  rw [restore_nullable_map restore_selectionValue, restore_nullable_map restore_joiningValue,
    restore_nullable_map restore_filterValue, restore_nullable_map fun _ => rfl,
    restore_nullable_map restore_sortingValue, restore_nullable_map fun _ => rfl]
  rfl

/-- Nothing is left out of a chain that is written. -/
theorem restore_chainValue (c : Chain) : chainShape.restore (chainValue c) = chainValue c := by
  show (some ((c.plans.map planValue).map planShape.restore), ()) = _
  rw [map_restore_eq_self restore_planValue]
  rfl

/-! ## What was left out makes no difference -/

theorem getD_restore_texts (texts? : Option (List String)) :
    ((texts?.map textsShape.restore).or (some [])).getD [] = texts?.getD [] := by
  cases texts? with
  | none => rfl
  | some texts => exact restore_texts texts

theorem map_getD_restore {α : Type} {item : Shape} {ofValue : item.Value → α}
    (h : ∀ v, ofValue (item.restore v) = ofValue v) (vs? : Option (List item.Value)) :
    (((vs?.map (Shape.list item).restore).or (some [])).getD []).map ofValue =
      (vs?.getD []).map ofValue := by
  cases vs? with
  | none => rfl
  | some vs =>
    show (vs.map item.restore).map ofValue = vs.map ofValue
    rw [List.map_map]
    exact List.map_congr_left fun v _ => h v

theorem map_join_restore {α : Type} {inner : Shape} {ofValue : inner.Value → α}
    (h : ∀ v, ofValue (inner.restore v) = ofValue v) (v?? : Option (Option inner.Value)) :
    ((v??.map (Shape.nullable inner).restore).or (some none)).join.map ofValue =
      v??.join.map ofValue := by
  match v?? with
  | none | some none => rfl
  | some (some v) => exact congrArg some (h v)

theorem selectionOfValue_restore (v : selectionShape.Value) :
    selectionOfValue (selectionShape.restore v) = selectionOfValue v := by
  obtain ⟨tables, alias?, columns?, ⟨⟩⟩ := v
  have halias : (Shape.nullable .text).restore alias? = alias? := by cases alias? <;> rfl
  exact (Selection.mk.injEq ..).mpr ⟨restore_texts tables, halias, getD_restore_texts columns?⟩

theorem joiningOfValue_restore (v : joiningShape.Value) :
    joiningOfValue (joiningShape.restore v) = joiningOfValue v := by
  obtain ⟨table, alias?, how, conditions?, ⟨⟩⟩ := v
  have halias : (Shape.nullable .text).restore alias? = alias? := by cases alias? <;> rfl
  exact (Joining.mk.injEq ..).mpr
    ⟨rfl, halias, rfl, map_getD_restore (fun _ => rfl) conditions?⟩

theorem filterOfValue_restore (v : filterShape.Value) :
    filterOfValue (filterShape.restore v) = filterOfValue v := by
  obtain ⟨conditions?, ⟨⟩⟩ := v
  exact congrArg Filter.mk (map_getD_restore (fun _ => rfl) conditions?)

theorem sortingOfValue_restore (v : sortingShape.Value) :
    sortingOfValue (sortingShape.restore v) = sortingOfValue v := by
  obtain ⟨descending, columns?, ⟨⟩⟩ := v
  exact congrArg (Sorting.mk descending) (getD_restore_texts columns?)

/-- A plan is the same after what is left out is put back. -/
theorem planOfValue_restore (v : planShape.Value) :
    planOfValue (planShape.restore v) = planOfValue v := by
  obtain ⟨select, join, filter, limit, sort, raw, ⟨⟩⟩ := v
  exact (Plan.mk.injEq ..).mpr ⟨map_join_restore selectionOfValue_restore select,
    map_join_restore joiningOfValue_restore join, map_join_restore filterOfValue_restore filter,
    map_join_restore (fun _ => rfl) limit, map_join_restore sortingOfValue_restore sort,
    map_join_restore (fun _ => rfl) raw⟩

/-- A chain does not depend on what its document leaves out. -/
theorem chainOfValue_restore (v : chainShape.Value) :
    chainOfValue (chainShape.restore v) = chainOfValue v := by
  obtain ⟨plans?, ⟨⟩⟩ := v
  exact congrArg Chain.mk (map_getD_restore planOfValue_restore plans?)

end QueryPipe.Wire

namespace QueryPipe.Chain

open Wire

/-- The document of a chain as it is before it is spelt. -/
def json (c : Chain) : Json := chainShape.json (chainValue c)

/-- A chain is written as its document says. -/
theorem written_json (c : Chain) : c.json.Written c.encode.toList := by
  rw [toList_encode]
  exact chainShape.written_json (chainValue c)

/-- A document with a tree is read along the shape of chains. -/
theorem exists_decode_eq {j : Json} {d : String} (h : j.Written d.toList) :
    ∃ n, j.Tree n ∧ decode d = (chainShape.read depthLimit n).map chainOfValue := by
  obtain ⟨n, hn, hdocument⟩ := h.exists_tree
  refine ⟨n, hn, ?_⟩
  rw [decode, Shape.ofText, Text.glyphsOf, hdocument, Shape.readDocument]
  cases chainShape.read depthLimit n with
  | error p => rfl
  | ok v => rfl

/-- Every way to tell and to spell the document of a chain is read as the chain, and no document in
which a known name comes twice is read as any. -/
theorem decode_retold (c : Chain) :
    c.json.Written c.encode.toList ∧
      (∀ (j : Json) (d : String), c.json.Retold j → j.Written d.toList → decode d = .ok c) ∧
      ∀ (j : Json) (d : String), chainShape.Repeats j → j.Written d.toList →
        ∃ problem, decode d = .error problem := by
  refine ⟨written_json c, ?_, ?_⟩
  · intro j d hretold hwritten
    obtain ⟨n, hn, hdecode⟩ := exists_decode_eq hwritten
    obtain ⟨w, hread, hrestore⟩ := chainShape.read_retold (chainValue c) sound_chainShape
      (admits_chainValue c) lenient_chainShape (restore_chainValue c) hretold hn depthLimit
    rw [hdecode, hread]
    calc (Except.ok w).map chainOfValue = .ok (chainOfValue (chainShape.restore w)) :=
          congrArg Except.ok (chainOfValue_restore w).symm
      _ = .ok c := by rw [hrestore, chainOfValue_chainValue]
  · intro j d hrepeats hwritten
    obtain ⟨n, hn, hdecode⟩ := exists_decode_eq hwritten
    obtain ⟨p, hp⟩ := hrepeats.exists_problem sound_chainShape hn depthLimit
    exact ⟨p, by rw [hdecode, hp]; rfl⟩

/-! ## A key that is no text -/

/-- Half of a pair, spelt by its number. -/
def unpairedChars : List Char := ['\\', 'u', 'd', '8', '0', '0']

theorem textChars_unpairedChars : TextChars [0xD800] unpairedChars :=
  @TextChars.hex 0xD800 ['d', '8', '0', '0'] [] [] (by decide) rfl .nil

/-- A key that is half of a pair is no text, yet its end is found. -/
theorem lexemes_unpairedChars (rest : List Text.Glyph) :
    lexemes (('"' :: (unpairedChars ++ ['"'])).map .char ++ rest) =
      .text (.error .unfinishedPair) (.ok ()) :: lexemes rest := by
  have hread : readText [] false (unpairedChars.map .char ++ .char '"' :: rest) =
      .error .unfinishedPair := by
    simp [unpairedChars, readText, readEscape]
    rfl
  rw [List.map_cons, List.map_append, List.cons_append, List.append_assoc]
  exact lexemes_text hread (skipText_textChars textChars_unpairedChars rest)

/-- The document of a chain without plans, with another member under half of a pair. -/
def unpairedKey : String := "\x7b\"plans\":[],\"\\ud800\":null\x7d"

theorem toList_unpairedKey : unpairedKey.toList =
    '\x7b' :: ((quoted "plans" ++ ':' :: ['[', ']'] ++
      ',' :: ('"' :: (unpairedChars ++ ['"']) ++ ':' :: "null".toList)) ++ ['\x7d']) := rfl

/-- The document with an unpaired key is written by the grammar. -/
theorem written_unpairedKey :
    (Json.object [(textUnits "plans", .list []), ([0xD800], .null)]).Written
      unpairedKey.toList := by
  rw [toList_unpairedKey]
  refine .object (.cons (written_quoted "plans") ?_ (.last (.text textChars_unpairedChars) .null))
  exact @Json.Written.emptyList [] (by simp)

theorem lexemes_unpairedKey : lexemes (Text.glyphsOf unpairedKey) =
    [.openObject, .text (.ok "plans") (.ok ()), .colon, .openList, .closeList, .comma,
      .text (.error .unfinishedPair) (.ok ()), .colon, .null, .closeObject] := by
  have hsplit : Text.glyphsOf unpairedKey = .char '\x7b' :: ((quoted "plans").map .char ++
      .char ':' :: .char '[' :: .char ']' :: .char ',' ::
      (('"' :: (unpairedChars ++ ['"'])).map .char ++
      .char ':' :: ("null".toList.map .char ++ [.char '\x7d']))) := by
    rw [Text.glyphsOf, toList_unpairedKey]
    simp
  rw [hsplit, lexemes_single rfl, spells_quoted "plans" _ (endsNumber_single rfl _),
    lexemes_single rfl, lexemes_single rfl, lexemes_single rfl, lexemes_single rfl,
    lexemes_unpairedChars, lexemes_single rfl, spells_null _ (endsNumber_single rfl _),
    lexemes_single rfl, lexemes_nil]
  rfl

/-- A member that is not known still needs a key that is a text: this document is that of a chain
without plans but for such a member, and it is refused. -/
theorem decode_unpairedKey :
    (∃ ms, empty.json = .object ms ∧ [0xD800] ∉ ms.map Prod.fst ∧
      (Json.object (ms ++ [([0xD800], .null)])).Written unpairedKey.toList) ∧
    decode unpairedKey = .error .unfinishedPair := by
  refine ⟨⟨[(textUnits "plans", .list [])], rfl, by decide, written_unpairedKey⟩, ?_⟩
  rw [decode, Shape.ofText, Document.ofGlyphs, lexemes_unpairedKey]
  rfl

end QueryPipe.Chain
