import QueryPipe.Proofs.Wire.Lexeme
import QueryPipe.Wire.Tree

/-!
# Building a tree from its own lexemes

A tree in which nothing is broken off can be laid out as lexemes again, and building turns these
back into the tree: whatever brackets are open, the lexemes of a value take the builder from
where a value is due to where that value is complete.

* `build_node`: the builder on the lexemes of a value.
* `ofGlyphs_of_lexemes`: the document that is cut into the lexemes of a value.
-/

namespace QueryPipe.Wire

/-! ## Trees laid out as lexemes -/

mutual

/-- The lexemes of a value. -/
def Node.lexemes : Node → List Lexeme
  | .null => [.null]
  | .flag b => [.flag b]
  | .number value passed => [.number value passed]
  | .text value passed => [.text value passed]
  | .list items => .openList :: (joinedLexemes items.lexemes ++ [.closeList])
  | .object members => .openObject :: (joinedLexemes members.lexemes ++ [.closeObject])
  | .badWord problem => [.badWord problem]
  | .broken _ => []

/-- The lexemes of each item of a list. -/
def Items.lexemes : Items → List (List Lexeme)
  | .item value rest => value.lexemes :: rest.lexemes
  | _ => []

/-- The lexemes of each member of an object. -/
def Members.lexemes : Members → List (List Lexeme)
  | .member key passed value rest => (.text key passed :: .colon :: value.lexemes) :: rest.lexemes
  | _ => []

end

mutual

/-- A value with every bracket closed and nothing in it broken. -/
inductive Node.Complete : Node → Prop
  /-- The null value. -/
  | null : Node.Complete .null
  /-- A truth value. -/
  | flag (b : Bool) : Node.Complete (.flag b)
  /-- A number. -/
  | number (value : Except Problem Quantity) (passed : Except Problem Unit) :
    Node.Complete (.number value passed)
  /-- A text. -/
  | text (value : Except Problem String) (passed : Except Problem Unit) :
    Node.Complete (.text value passed)
  /-- A list. -/
  | list {items : Items} (h : items.Complete) : Node.Complete (.list items)
  /-- An object. -/
  | object {members : Members} (h : members.Complete) : Node.Complete (.object members)

/-- A list that ends as it should, with complete items. -/
inductive Items.Complete : Items → Prop
  /-- No more items. -/
  | closed : Items.Complete .closed
  /-- One more item. -/
  | item {value : Node} {rest : Items} (hv : value.Complete) (hr : rest.Complete) :
    Items.Complete (.item value rest)

/-- An object that ends as it should, with complete values. -/
inductive Members.Complete : Members → Prop
  /-- No more members. -/
  | closed : Members.Complete .closed
  /-- One more member. -/
  | member (key : Except Problem String) (passed : Except Problem Unit) {value : Node}
    {rest : Members} (hv : value.Complete) (hr : rest.Complete) :
    Members.Complete (.member key passed value rest)

end

/-- The items of a list that ends as it should. -/
def Items.ofList : List Node → Items
  | [] => .closed
  | value :: rest => .item value (.ofList rest)

/-- The members of an object that ends as it should, under readable keys. -/
def Members.ofList : List (String × Node) → Members
  | [] => .closed
  | (key, value) :: rest => .member (.ok key) (.ok ()) value (.ofList rest)

/-- The items of a list have the lexemes of each. -/
theorem Items.lexemes_ofList (ns : List Node) :
    (Items.ofList ns).lexemes = ns.map Node.lexemes := by
  induction ns with
  | nil => rfl
  | cons n ns ih => rw [ofList, Items.lexemes, ih, List.map_cons]

theorem Members.lexemes_ofList (ms : List (String × Node)) :
    (Members.ofList ms).lexemes =
      ms.map fun m => .text (.ok m.1) (.ok ()) :: .colon :: m.2.lexemes := by
  induction ms with
  | nil => rfl
  | cons m ms ih => rw [ofList, Members.lexemes, ih, List.map_cons]

theorem Items.complete_ofList {ns : List Node} (h : ∀ n ∈ ns, n.Complete) :
    (Items.ofList ns).Complete := by
  induction ns with
  | nil => exact .closed
  | cons n ns ih => exact .item (h n (by simp)) (ih fun m hm => h m (by simp [hm]))

theorem Members.complete_ofList {ms : List (String × Node)} (h : ∀ m ∈ ms, m.2.Complete) :
    (Members.ofList ms).Complete := by
  induction ms with
  | nil => exact .closed
  | cons m ms ih => exact .member _ _ (h m (by simp)) (ih fun k hk => h k (by simp [hk]))

/-! ## Single steps of the builder -/

/-- A scalar is a value of its own. -/
theorem build_scalar {lexeme : Lexeme} (h : lexeme.isScalar = true) (rest : List Lexeme)
    (opens : List Open) :
    build (lexeme :: rest) .value opens = build rest (.separator lexeme.node) opens := by
  cases lexeme <;> first | rfl | exact absurd h (by simp [Lexeme.isScalar])

theorem build_openList (rest : List Lexeme) (opens : List Open) :
    build (.openList :: rest) .value opens = build rest .firstItem opens := rfl

theorem build_openObject (rest : List Lexeme) (opens : List Open) :
    build (.openObject :: rest) .value opens = build rest (.firstKey []) opens := rfl

theorem build_firstItem {lexeme : Lexeme} (h : lexeme ≠ .closeList) (rest : List Lexeme)
    (opens : List Open) :
    build (lexeme :: rest) .firstItem opens = build (lexeme :: rest) .value (.list [] :: opens) := by
  cases lexeme <;> first | rfl | exact absurd rfl h

theorem build_comma_item {lexeme : Lexeme} (h : lexeme ≠ .closeList) (rest : List Lexeme)
    (value : Node) (before : List Node) (outer : List Open) :
    build (.comma :: lexeme :: rest) (.separator value) (.list before :: outer) =
      build (lexeme :: rest) .value (.list (value :: before) :: outer) := by
  cases lexeme <;> first | rfl | exact absurd rfl h

theorem build_firstKey (key : Except Problem String) (passed : Except Problem Unit)
    (rest : List Lexeme) (before : List (Key × Node)) (opens : List Open) :
    build (.text key passed :: .colon :: rest) (.firstKey before) opens =
      build rest .value (.object before ⟨key, passed⟩ :: opens) := rfl

theorem build_comma_member (key : Except Problem String) (passed : Except Problem Unit)
    (rest : List Lexeme) (value : Node) (before : List (Key × Node)) (k : Key)
    (outer : List Open) :
    build (.comma :: .text key passed :: .colon :: rest) (.separator value)
        (.object before k :: outer) =
      build rest .value (.object ((k, value) :: before) ⟨key, passed⟩ :: outer) := rfl

/-! ## Whole values -/

theorem joinedLexemes_cons (part : List Lexeme) (parts : List (List Lexeme)) :
    joinedLexemes (part :: parts) = part ++ parts.flatMap (.comma :: ·) := by
  induction parts generalizing part with
  | nil => simp [joinedLexemes]
  | cons next parts ih => rw [joinedLexemes, ih, List.flatMap_cons, List.cons_append]

/-- A complete value starts with a lexeme, which does not close a list. -/
theorem Node.Complete.lexemes_eq_cons {n : Node} (h : n.Complete) :
    ∃ lexeme rest, n.lexemes = lexeme :: rest ∧ lexeme ≠ .closeList := by
  cases h <;> exact ⟨_, _, by rw [Node.lexemes], by simp⟩

mutual

/-- The lexemes of a value bring the builder to the end of that value. -/
theorem build_node {n : Node} : n.Complete → ∀ (rest : List Lexeme) (opens : List Open),
    build (n.lexemes ++ rest) .value opens = build rest (.separator n) opens
  | .null, rest, opens => build_scalar rfl rest opens
  | .flag _, rest, opens => build_scalar rfl rest opens
  | .number _ _, rest, opens => build_scalar rfl rest opens
  | .text _ _, rest, opens => build_scalar rfl rest opens
  | .list .closed, _, _ => rfl
  | .list (@Items.Complete.item v items hv hitems), rest, opens => by
    -- Behind an opening bracket the builder looks one lexeme ahead for the closing one, so the
    -- first lexeme of the first item has to be laid bare.
    obtain ⟨lexeme, more, hl, hne⟩ := hv.lexemes_eq_cons
    have ih := build_node hv
      (items.lexemes.flatMap (.comma :: ·) ++ .closeList :: rest) (.list [] :: opens)
    rw [Node.lexemes, Items.lexemes, joinedLexemes_cons, List.cons_append, build_openList]
    simp only [hl, List.cons_append, List.append_assoc, List.nil_append] at ih ⊢
    rw [build_firstItem hne, ih, build_items hitems]
    rfl
  | .object .closed, _, _ => rfl
  | .object (.member key passed hv hmembers), rest, opens => by
    rw [Node.lexemes, Members.lexemes, joinedLexemes_cons, List.cons_append, build_openObject]
    simp only [List.cons_append, List.append_assoc, List.nil_append]
    rw [build_firstKey, build_node hv, build_members hmembers]
    rfl

/-- Behind an item, the lexemes of further items bring the builder to the end of the list. -/
theorem build_items {items : Items} : items.Complete →
    ∀ (rest : List Lexeme) (value : Node) (before : List Node) (outer : List Open),
      build (items.lexemes.flatMap (.comma :: ·) ++ .closeList :: rest) (.separator value)
          (.list before :: outer) =
        build rest (.separator (.list (.ofReverse (value :: before) items))) outer
  | .closed, _, _, _, _ => rfl
  | @Items.Complete.item v items hv hitems, rest, value, before, outer => by
    obtain ⟨lexeme, more, hl, hne⟩ := hv.lexemes_eq_cons
    have ih := build_node hv (items.lexemes.flatMap (.comma :: ·) ++ .closeList :: rest)
      (.list (value :: before) :: outer)
    rw [Items.lexemes, List.flatMap_cons]
    simp only [hl, List.cons_append, List.append_assoc] at ih ⊢
    rw [build_comma_item hne, ih, build_items hitems]
    rfl

/-- Behind a member, the lexemes of further members bring the builder to the end of the
object. -/
theorem build_members {members : Members} : members.Complete →
    ∀ (rest : List Lexeme) (value : Node) (before : List (Key × Node)) (k : Key)
      (outer : List Open),
      build (members.lexemes.flatMap (.comma :: ·) ++ .closeObject :: rest) (.separator value)
          (.object before k :: outer) =
        build rest (.separator (.object (.ofReverse ((k, value) :: before) members))) outer
  | .closed, _, _, _, _, _ => rfl
  | .member key passed hv hmembers, rest, value, before, k, outer => by
    rw [Members.lexemes, List.flatMap_cons]
    simp only [List.cons_append, List.append_assoc]
    rw [build_comma_member, build_node hv, build_members hmembers]
    rfl

end

/-! ## Documents -/

/-- A document that is cut into the lexemes of a complete value has that value and nothing
else. -/
theorem ofGlyphs_of_lexemes {gs : List Text.Glyph} {n : Node} (hn : n.Complete)
    (h : lexemes gs = n.lexemes) : Document.ofGlyphs gs = ⟨n, false⟩ := by
  have hbuild := build_node hn [] []
  rw [List.append_nil] at hbuild
  rw [Document.ofGlyphs, h, hbuild]
  rfl

end QueryPipe.Wire
