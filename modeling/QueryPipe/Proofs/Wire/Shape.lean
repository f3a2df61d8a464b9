import Mathlib.Data.List.Forall2
import QueryPipe.Proofs.Wire.Tree
import QueryPipe.Wire.Reader
import QueryPipe.Wire.Writer

/-!
# What a shape writes, it reads

A value of a shape has a tree: what is written for the value is cut into the lexemes of that tree,
and reading the tree along the shape gives the value. This holds of every sound shape, one whose
records name no member twice, whose numbers fit into 64 bits and whose nullable values cannot
themselves be null.

* `Shape.spells_write`: the writer spells the tree of a value.
* `Shape.read_node`: the reader undoes the tree, members in any slot left out or filled.
* `Shape.readDocument_write`: reading a written document, with blanks behind it or not.
-/

namespace QueryPipe.Wire

open Text (Glyph)

/-! ## The tree of a value -/

/-- The tree of a literal without its type. -/
def literalContentNode : Literal → Node
  | .whole n => .number (.ok (.whole n.toInt)) (.ok ())
  | .text s => .text (.ok s) (.ok ())
  | .untyped s => .text (.ok s) (.ok ())

/-- The members of a literal. -/
def literalNodes (v : Literal) : List (String × Node) :=
  [("type", .text (.ok (literalType v)) (.ok ())), ("value", literalContentNode v)]

mutual

/-- The tree of a value of a shape. -/
def Shape.node : (shape : Shape) → shape.Value → Node
  | .text, s => .text (.ok s) (.ok ())
  | .flag, b => .flag b
  | .whole _ _, n => .number (.ok (.whole n)) (.ok ())
  | .choice _, name => .text (.ok name) (.ok ())
  | .literal, v => .object (.ofList (literalNodes v))
  | .list item, vs => .list (.ofList (vs.map item.node))
  | .nullable inner, v? =>
    match v? with
    | none => .null
    | some v => inner.node v
  | .record _ fields, v => .object (.ofList (fields.nodes v))

/-- The members of a record's value. -/
def Fields.nodes : (fields : Fields) → fields.Value → List (String × Node)
  | .done, _ => []
  | .required name shape rest, (v, more) => (name, shape.node v) :: rest.nodes more
  | .defaulted name shape rest, (v?, more) =>
    match v? with
    | none => rest.nodes more
    | some v => (name, shape.node v) :: rest.nodes more

end

/-- The names of a record's members. -/
def Fields.names : Fields → List String
  | .done => []
  | .required name _ rest => name :: rest.names
  | .defaulted name _ rest => name :: rest.names

/-- Whether a shape describes the null value beside others. -/
def Shape.isNullable : Shape → Bool
  | .nullable _ => true
  | _ => false

mutual

/-- A shape whose values can be told apart in a document. -/
def Shape.Sound : Shape → Prop
  | .whole range _ =>
    -(Numeral.twoTo 63 : Int) ≤ range.least ∧ range.greatest ≤ (Numeral.twoTo 64 : Int) - 1
  | .list item => item.Sound
  | .nullable inner => inner.isNullable = false ∧ inner.Sound
  | .record _ fields => fields.Sound
  | _ => True

/-- Members with names of their own and sound shapes. -/
def Fields.Sound : Fields → Prop
  | .done => True
  | .required name shape rest => name ∉ rest.names ∧ shape.Sound ∧ rest.Sound
  | .defaulted name shape rest => name ∉ rest.names ∧ shape.Sound ∧ rest.Sound

end

mutual

/-- A value that its shape admits: numbers lie in their range, names are among those allowed. -/
def Shape.Admits : (shape : Shape) → shape.Value → Prop
  | .whole range _, n => range.holds n = true
  | .choice names, name => names.contains name = true
  | .list item, vs => List.Forall item.Admits vs
  | .nullable inner, v? =>
    match v? with
    | none => True
    | some v => inner.Admits v
  | .record _ fields, v => fields.Admits v
  | .text, _ => True
  | .flag, _ => True
  | .literal, _ => True

/-- Members that their shapes admit. -/
def Fields.Admits : (fields : Fields) → fields.Value → Prop
  | .done, _ => True
  | .required _ shape rest, (v, more) => shape.Admits v ∧ rest.Admits more
  | .defaulted _ shape rest, (v?, more) =>
    match v? with
    | none => rest.Admits more
    | some v => shape.Admits v ∧ rest.Admits more

end

/-! ## Nothing of a tree is broken -/

theorem complete_literalContentNode (v : Literal) : (literalContentNode v).Complete := by
  cases v with
  | whole n => exact .number _ _
  | text s => exact .text _ _
  | untyped s => exact .text _ _

theorem complete_literalNodes (v : Literal) : ∀ m ∈ literalNodes v, m.2.Complete := by
  intro m hm
  simp only [literalNodes, List.mem_cons, List.not_mem_nil, or_false] at hm
  rcases hm with rfl | rfl
  · exact .text _ _
  · exact complete_literalContentNode v

mutual

/-- What a shape writes is complete. -/
theorem Shape.complete_node : ∀ (shape : Shape) (v : shape.Value), (shape.node v).Complete
  | .text, s => .text _ _
  | .flag, b => .flag _
  | .whole _ _, n => .number _ _
  | .choice _, name => .text _ _
  | .literal, v => .object (Members.complete_ofList (complete_literalNodes v))
  | .list item, vs => by
    refine .list (Items.complete_ofList ?_)
    intro n hn
    obtain ⟨v, -, rfl⟩ := List.mem_map.1 hn
    exact item.complete_node v
  | .nullable inner, none => .null
  | .nullable inner, some v => inner.complete_node v
  | .record _ fields, v => .object (Members.complete_ofList (fields.complete_nodes v))

theorem Fields.complete_nodes : ∀ (fields : Fields) (v : fields.Value),
    ∀ m ∈ fields.nodes v, m.2.Complete
  | .done, _, m, hm => absurd hm (by simp [Fields.nodes])
  | .required name shape rest, (v, more), m, hm => by
    rw [Fields.nodes] at hm
    rcases List.mem_cons.1 hm with rfl | hm
    · exact shape.complete_node v
    · exact rest.complete_nodes more m hm
  | .defaulted name shape rest, (none, more), m, hm => rest.complete_nodes more m hm
  | .defaulted name shape rest, (some v, more), m, hm => by
    rw [Fields.nodes] at hm
    rcases List.mem_cons.1 hm with rfl | hm
    · exact shape.complete_node v
    · exact rest.complete_nodes more m hm

end

/-! ## The writer spells the tree -/

theorem spells_literalContent (v : Literal) :
    Spells (literalContent v) (literalContentNode v).lexemes := by
  cases v with
  | whole n =>
    have h63 : (Numeral.twoTo 63 : Int) = 2 ^ 63 := rfl
    have h64 : (Numeral.twoTo 64 : Int) = 2 ^ 64 := rfl
    have hlow := n.le_toInt
    have hhigh := n.toInt_lt
    exact spells_wholeChars (by omega) (by omega)
  | text s => exact spells_quoted s
  | untyped s => exact spells_quoted s

theorem spells_list {α : Type} {write : α → List Char} {node : α → Node} {vs : List α}
    (h : ∀ v ∈ vs, Spells (write v) (node v).lexemes) :
    Spells (bracketed (vs.map write)) (Node.list (.ofList (vs.map node))).lexemes := by
  rw [Node.lexemes, Items.lexemes_ofList]
  refine spells_bracketed ?_
  rw [List.forall₂_map_left_iff, List.forall₂_map_right_iff, List.forall₂_map_right_iff,
    List.forall₂_same]
  exact h

theorem spells_object {ps : List (List Char)} {ms : List (String × Node)}
    (h : List.Forall₂ (fun p m => Spells p
      (.text (.ok m.1) (.ok ()) :: .colon :: m.2.lexemes)) ps ms) :
    Spells (braced ps) (Node.object (.ofList ms)).lexemes := by
  rw [Node.lexemes, Members.lexemes_ofList]
  exact spells_braced (List.forall₂_map_right_iff.2 h)

mutual

/-- What a shape writes spells the lexemes of its node. -/
theorem Shape.spells_write : ∀ (shape : Shape) (v : shape.Value), shape.Sound → shape.Admits v →
    Spells (shape.write v) (shape.node v).lexemes
  | .text, s, _, _ => spells_quoted s
  | .flag, b, _, _ => spells_flagChars b
  | .whole range _, n, hs, hv => by
    simp only [Shape.Sound] at hs
    have hv' : range.holds n = true := hv
    simp only [Numeral.WholeRange.holds, Bool.and_eq_true, decide_eq_true_eq] at hv'
    exact spells_wholeChars (by omega) (by omega)
  | .choice _, name, _, _ => spells_quoted name
  | .literal, v, _, _ => by
    refine spells_object (.cons ?_ (.cons ?_ .nil))
    · exact spells_memberChars "type" (spells_quoted (literalType v))
    · exact spells_memberChars "value" (spells_literalContent v)
  | .list item, vs, hs, hv =>
    spells_list fun v hmem => item.spells_write v hs (List.forall_iff_forall_mem.1 hv v hmem)
  | .nullable inner, none, _, _ => spells_null
  | .nullable inner, some v, hs, hv => inner.spells_write v hs.2 hv
  | .record _ fields, v, hs, hv => spells_object (fields.spells_write v hs hv)

theorem Fields.spells_write : ∀ (fields : Fields) (v : fields.Value), fields.Sound →
    fields.Admits v →
    List.Forall₂ (fun p m => Spells p (.text (.ok m.1) (.ok ()) :: .colon :: m.2.lexemes))
      (fields.write v) (fields.nodes v)
  | .done, _, _, _ => .nil
  | .required name shape rest, (v, more), hs, hv =>
    .cons (spells_memberChars name (shape.spells_write v hs.2.1 hv.1))
      (rest.spells_write more hs.2.2 hv.2)
  | .defaulted _ _ rest, (none, more), hs, hv => rest.spells_write more hs.2.2 hv
  | .defaulted name shape rest, (some v, more), hs, hv =>
    .cons (spells_memberChars name (shape.spells_write v hs.2.1 hv.1))
      (rest.spells_write more hs.2.2 hv.2)

end

/-! ## Reading the tree back -/

theorem readWhole_number {range : Numeral.WholeRange} {n : Int} (h : range.holds n = true)
    (title : String) :
    (Node.number (.ok (.whole n)) (.ok ())).readWhole range title = .ok n := by
  simp [Node.readWhole, h]

theorem holds_signed64 (n : Int64) : Numeral.WholeRange.signed64.holds n.toInt = true := by
  have h63 : (Numeral.twoTo 63 : Int) = 2 ^ 63 := rfl
  have hlow := n.le_toInt
  have hhigh := n.toInt_lt
  simp only [Numeral.WholeRange.holds, Bool.and_eq_true, decide_eq_true_eq]
  simp only [Numeral.WholeRange.signed64]
  omega

theorem readLiteralAs_content (v : Literal) :
    readLiteralAs (literalType v) (literalContentNode v) = .ok v := by
  cases v with
  | whole n =>
    rw [literalContentNode, literalType, readLiteralAs, if_pos (by decide),
      readWhole_number (holds_signed64 n)]
    simp [Except.map]
  | text s => rfl
  | untyped s => rfl

theorem readLiteral_nodes (v : Literal) (depth : Nat) :
    (Node.object (.ofList (literalNodes v))).readLiteral depth = .ok v := by
  have hname : (Node.text (.ok (literalType v)) (.ok ())).readChoice literalTypes =
      .ok (literalType v) := by
    cases v <;> rfl
  have htype : LiteralParts.take (depth - 1) "type"
      (.text (.ok (literalType v)) (.ok ())) .none = .ok (.typed (literalType v)) := by
    rw [LiteralParts.take, if_pos (by decide), hname]
    rfl
  have hvalue : LiteralParts.take (depth - 1) "value" (literalContentNode v)
      (.typed (literalType v)) = .ok (.both v) := by
    rw [LiteralParts.take, if_neg (by decide), if_pos (by decide), readLiteralAs_content]
    rfl
  simp only [Node.readLiteral, literalNodes, Members.ofList, foldMembers, htype, hvalue]
  rfl

theorem readItems_ofList {α : Type} {read : Node → Except Problem α} {node : α → Node}
    {vs : List α} (h : ∀ v ∈ vs, read (node v) = .ok v) :
    readItems read (.ofList (vs.map node)) = .ok vs := by
  induction vs with
  | nil => rfl
  | cons v vs ih =>
    rw [List.map_cons, Items.ofList, readItems, h v (by simp), ih fun w hw => h w (by simp [hw])]
    rfl

/-- Going through members with one state goes through them with another when every member does. -/
theorem foldMembers_lift {σ τ : Type} {step : String → Node → σ → Except Problem σ}
    {step' : String → Node → τ → Except Problem τ} (lift : σ → τ) {ms : List (String × Node)}
    (h : ∀ m ∈ ms, ∀ s, step' m.1 m.2 (lift s) = (step m.1 m.2 s).map lift) (s : σ) :
    foldMembers step' (.ofList ms) (lift s) = (foldMembers step (.ofList ms) s).map lift := by
  induction ms generalizing s with
  | nil => rfl
  | cons m ms ih =>
    rw [Members.ofList, foldMembers, foldMembers, h m (by simp)]
    cases hs : step m.1 m.2 s with
    | error p => rfl
    | ok s' => exact ih (fun k hk => h k (by simp [hk])) s'

theorem Fields.put_required_ne {name key : String} (hne : key ≠ name) {shape : Shape}
    {rest : Fields} (depth : Nat) (n : Node) (slot : Option shape.Value) (slots : rest.Slots) :
    (Fields.required name shape rest).put depth key n (slot, slots) =
      (rest.put depth key n slots).map (slot, ·) := by
  simp only [Fields.put, beq_iff_eq, hne, if_false]
  rfl

theorem Fields.put_defaulted_ne {name key : String} (hne : key ≠ name) {shape : Shape}
    {rest : Fields} (depth : Nat) (n : Node) (slot : Option shape.Value) (slots : rest.Slots) :
    (Fields.defaulted name shape rest).put depth key n (slot, slots) =
      (rest.put depth key n slots).map (slot, ·) := by
  simp only [Fields.put, beq_iff_eq, hne, if_false]
  rfl

/-- The slots of a record when all members of a value have been read. -/
def Fields.filled : (fields : Fields) → fields.Value → fields.Slots
  | .done, _ => ()
  | .required _ _ rest, (v, more) => (some v, rest.filled more)
  | .defaulted _ _ rest, (v?, more) => (v?, rest.filled more)

theorem Fields.finish_filled : ∀ (fields : Fields) (v : fields.Value),
    fields.finish (fields.filled v) = .ok v
  | .done, _ => rfl
  | .required _ _ rest, (v, more) => by
    have ih := rest.finish_filled more
    simp only [Fields.finish, Fields.filled, ih]
    rfl
  | .defaulted _ _ rest, (v?, more) => by
    have ih := rest.finish_filled more
    simp only [Fields.finish, Fields.filled, ih]
    rfl

theorem Fields.mem_names_of_mem_nodes : ∀ (fields : Fields) (v : fields.Value),
    ∀ m ∈ fields.nodes v, m.1 ∈ fields.names
  | .done, _, m, hm => absurd hm (by simp [Fields.nodes])
  | .required name shape rest, (v, more), m, hm => by
    rw [Fields.nodes] at hm
    rw [Fields.names]
    rcases List.mem_cons.1 hm with rfl | hm
    · exact List.mem_cons_self
    · exact List.mem_cons_of_mem _ (rest.mem_names_of_mem_nodes more m hm)
  | .defaulted name shape rest, (none, more), m, hm =>
    List.mem_cons_of_mem _ (rest.mem_names_of_mem_nodes more m hm)
  | .defaulted name shape rest, (some v, more), m, hm => by
    rw [Fields.nodes] at hm
    rw [Fields.names]
    rcases List.mem_cons.1 hm with rfl | hm
    · exact List.mem_cons_self
    · exact List.mem_cons_of_mem _ (rest.mem_names_of_mem_nodes more m hm)

/-- The members of the rest of a record are read into their own slots, whatever stands in the slot
in front of them, since none of them has its name. -/
theorem Fields.fold_others {σ : Type} {name : String} {rest : Fields} {depth : Nat} {slot : σ}
    {put : String → Node → σ × rest.Slots → Except Problem (σ × rest.Slots)}
    (hput : ∀ key n slots, key ≠ name →
      put key n (slot, slots) = (rest.put depth key n slots).map (slot, ·))
    (hn : name ∉ rest.names) (more : rest.Value) :
    foldMembers put (.ofList (rest.nodes more)) (slot, rest.noSlots) =
      (foldMembers (rest.put depth) (.ofList (rest.nodes more)) rest.noSlots).map (slot, ·) := by
  refine foldMembers_lift (slot, ·) ?_ rest.noSlots
  intro m hm slots
  refine hput m.1 m.2 slots ?_
  rintro rfl
  exact hn (rest.mem_names_of_mem_nodes more m hm)

theorem Fields.fold_required {name : String} {shape : Shape} {rest : Fields}
    (hn : name ∉ rest.names) (depth : Nat) (slot : Option shape.Value) (more : rest.Value) :
    foldMembers ((Fields.required name shape rest).put depth) (.ofList (rest.nodes more))
        (slot, rest.noSlots) =
      (foldMembers (rest.put depth) (.ofList (rest.nodes more)) rest.noSlots).map (slot, ·) :=
  Fields.fold_others (fun _ n slots hne => Fields.put_required_ne hne depth n slot slots) hn more

theorem Fields.fold_defaulted {name : String} {shape : Shape} {rest : Fields}
    (hn : name ∉ rest.names) (depth : Nat) (slot : Option shape.Value) (more : rest.Value) :
    foldMembers ((Fields.defaulted name shape rest).put depth) (.ofList (rest.nodes more))
        (slot, rest.noSlots) =
      (foldMembers (rest.put depth) (.ofList (rest.nodes more)) rest.noSlots).map (slot, ·) :=
  Fields.fold_others (fun _ n slots hne => Fields.put_defaulted_ne hne depth n slot slots) hn more

theorem readChoice_text {names : List String} {name : String} (h : names.contains name = true) :
    (Node.text (.ok name) (.ok ())).readChoice names = .ok name := by
  simp only [Node.readChoice, Except.bind, allowedName, h, if_true]

theorem Shape.read_record (title : String) (fields : Fields) (depth : Nat) (members : Members) :
    (Shape.record title fields).read depth (.object members) =
      (match foldMembers (fields.put (depth - 1)) members fields.noSlots with
        | .error problem => .error problem
        | .ok slots => fields.finish slots) := rfl

/-- Only a nullable shape has a node that is missing. -/
theorem Shape.node_ne_null {shape : Shape} (h : shape.isNullable = false) (v : shape.Value) :
    shape.node v ≠ .null := by
  cases shape with
  | nullable inner => cases h
  | _ => simp [Shape.node]

theorem Shape.read_nullable {inner : Shape} {n : Node} (h : n ≠ .null) (depth : Nat) :
    (Shape.nullable inner).read depth n = (inner.read depth n).map some := by
  cases n <;> first | rfl | exact absurd rfl h

mutual

/-- Reading the tree of a value along its shape gives the value. -/
theorem Shape.read_node : ∀ (shape : Shape) (v : shape.Value), shape.Sound → shape.Admits v →
    ∀ depth, shape.read depth (shape.node v) = .ok v
  | .text, _, _, _, _ => rfl
  | .flag, _, _, _, _ => rfl
  | .whole _ title, _, _, hv, _ => readWhole_number hv title
  | .choice _, _, _, hv, _ => readChoice_text hv
  | .literal, v, _, _, depth => readLiteral_nodes v depth
  | .list item, vs, hs, hv, depth =>
    readItems_ofList fun v hmem =>
      item.read_node v hs (List.forall_iff_forall_mem.1 hv v hmem) (depth - 1)
  | .nullable _, none, _, _, _ => rfl
  | .nullable inner, some v, hs, hv, depth => by
    -- The tree of a value that is there is never null, so it cannot be taken for an absent one.
    have ih := inner.read_node v hs.2 hv depth
    have hnode : (Shape.nullable inner).node (some v) = inner.node v := rfl
    rw [hnode, Shape.read_nullable (Shape.node_ne_null hs.1 v), ih]
    rfl
  | .record title fields, v, hs, hv, depth => by
    have ih := fields.fold_nodes v hs hv (depth - 1)
    have hnode : (Shape.record title fields).node v = .object (.ofList (fields.nodes v)) := rfl
    rw [hnode, Shape.read_record, ih]
    exact fields.finish_filled v

/-- The members of a value fill its slots one after the other, since no name comes twice. -/
theorem Fields.fold_nodes : ∀ (fields : Fields) (v : fields.Value), fields.Sound →
    fields.Admits v → ∀ depth,
    foldMembers (fields.put depth) (.ofList (fields.nodes v)) fields.noSlots =
      .ok (fields.filled v)
  | .done, _, _, _, _ => rfl
  | .required name shape rest, (v, more), hs, hv, depth => by
    have hfirst : (Fields.required name shape rest).put depth name (shape.node v)
        (none, rest.noSlots) = .ok (some v, rest.noSlots) := by
      simp only [Fields.put, BEq.rfl, if_true, shape.read_node v hs.2.1 hv.1 depth]
      rfl
    have hrest := Fields.fold_required hs.1 depth (some v) more
    rw [rest.fold_nodes more hs.2.2 hv.2 depth] at hrest
    simp only [Fields.nodes, Fields.noSlots, Members.ofList, foldMembers, hfirst]
    exact hrest
  | .defaulted name shape rest, (none, more), hs, hv, depth => by
    -- The member was left out: its slot stays empty and the rest fill theirs.
    have hrest := Fields.fold_defaulted hs.1 depth (none : Option shape.Value) more
    rw [rest.fold_nodes more hs.2.2 hv depth] at hrest
    exact hrest
  | .defaulted name shape rest, (some v, more), hs, hv, depth => by
    have hfirst : (Fields.defaulted name shape rest).put depth name (shape.node v)
        (none, rest.noSlots) = .ok (some v, rest.noSlots) := by
      simp only [Fields.put, BEq.rfl, if_true, shape.read_node v hs.2.1 hv.1 depth]
      rfl
    have hrest := Fields.fold_defaulted hs.1 depth (some v) more
    rw [rest.fold_nodes more hs.2.2 hv.2 depth] at hrest
    simp only [Fields.nodes, Fields.noSlots, Members.ofList, foldMembers, hfirst]
    exact hrest

end

/-! ## Whole documents -/

/-- A written document reads as its value, also with blanks behind it. -/
theorem Shape.readDocument_write {shape : Shape} {v : shape.Value} (hs : shape.Sound)
    (hv : shape.Admits v) {blanks : List Glyph} (hb : lexemes blanks = [])
    (he : EndsNumber blanks) :
    shape.readDocument (.ofGlyphs ((shape.write v).map .char ++ blanks)) = .ok v := by
  have hl := shape.spells_write v hs hv blanks he
  rw [hb, List.append_nil] at hl
  rw [ofGlyphs_of_lexemes (shape.complete_node v) hl, Shape.readDocument,
    shape.read_node v hs hv]
  rfl

end QueryPipe.Wire
