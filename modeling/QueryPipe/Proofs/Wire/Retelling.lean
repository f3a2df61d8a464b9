import Mathlib.Data.List.Perm.Basic
import Mathlib.Data.List.Permutation
import QueryPipe.Proofs.Wire.Spelling

/-!
# Documents that say the same

The document of a value may be told in another way: its members may stand in any order, some that
are null or empty may be left out, and there may be members of other names, whatever they hold.
Reading such a document gives the value up to what was left out, and `Shape.restore` puts that
back.

* `Json.Retold`: the other ways to tell a document.
* `Shape.read_retold`: what is read from a document that is told in another way.
-/

namespace QueryPipe.Wire

/-! ## Other ways to tell a document -/

/-- The names of members that may be left out where they hold an empty list. -/
def listKeys : List String := ["plans", "columns", "conditions", "fields"]

/-- A member that may be left out. -/
def Omissible (key : List Nat) (value : Json) : Prop :=
  value = .null ∨ value = .list [] ∧ ∃ name ∈ listKeys, key = textUnits name

mutual

/-- Documents that say the same as a given one: the members of every object may come in another
order, without some that may be left out, and with others under keys that are not in use. -/
inductive Json.Retold : Json → Json → Prop
  /-- The null value. -/
  | null : Json.Retold .null .null
  /-- A truth value. -/
  | flag (b : Bool) : Json.Retold (.flag b) (.flag b)
  /-- A number, written in the same way. -/
  | number (cs : List Char) : Json.Retold (.number cs) (.number cs)
  /-- A text of the same units. -/
  | text (us : List Nat) : Json.Retold (.text us) (.text us)
  /-- A list of the same items in the same order, each told in its own way. -/
  | list {js js' : List Json} (h : ItemsRetold js js') : Json.Retold (.list js) (.list js')
  /-- An object. -/
  | object {ms kept extra ms' : List (List Nat × Json)} (h : MembersRetold ms kept)
    (hextra : ∀ m ∈ extra, (∃ s, m.1 = textUnits s) ∧ m.1 ∉ ms.map Prod.fst)
    (hperm : ms'.Perm (kept ++ extra)) : Json.Retold (.object ms) (.object ms')

/-- Items, each told in its own way. -/
inductive ItemsRetold : List Json → List Json → Prop
  /-- No more items. -/
  | nil : ItemsRetold [] []
  /-- One more item. -/
  | cons {j j' : Json} {js js' : List Json} (h : j.Retold j') (hs : ItemsRetold js js') :
    ItemsRetold (j :: js) (j' :: js')

/-- Members, each left out or told in its own way. -/
inductive MembersRetold : List (List Nat × Json) → List (List Nat × Json) → Prop
  /-- No more members. -/
  | nil : MembersRetold [] []
  /-- A member that is left out. -/
  | leave {key : List Nat} {j : Json} {ms ms' : List (List Nat × Json)} (h : Omissible key j)
    (hs : MembersRetold ms ms') : MembersRetold ((key, j) :: ms) ms'
  /-- A member that is kept. -/
  | keep {key : List Nat} {j j' : Json} {ms ms' : List (List Nat × Json)} (h : j.Retold j')
    (hs : MembersRetold ms ms') : MembersRetold ((key, j) :: ms) ((key, j') :: ms')

end

/-- Members that are told otherwise have no keys but the ones that were there. -/
theorem MembersRetold.keys_subset {ms ms' : List (List Nat × Json)} :
    MembersRetold ms ms' → ∀ m ∈ ms', m.1 ∈ ms.map Prod.fst
  | .nil, _, hm => by cases hm
  | .leave _ hs, m, hm => List.mem_cons_of_mem _ (hs.keys_subset m hm)
  | .keep _ hs, m, hm => by
    rcases List.mem_cons.1 hm with rfl | hm
    · exact List.mem_cons_self
    · exact List.mem_cons_of_mem _ (hs.keys_subset m hm)

theorem Json.eq_null_of_retold {j : Json} (h : j.Retold .null) : j = .null := by
  cases h
  rfl

/-! ## Putting back what was left out -/

/-- Whether a shape describes lists. -/
def Shape.isList : Shape → Bool
  | .list _ => true
  | _ => false

/-- The value that a member of a shape has where it is left out. -/
def Shape.default? : (shape : Shape) → Option shape.Value
  | .list _ => some []
  | .nullable _ => some none
  | .text | .flag | .whole _ _ | .choice _ | .literal | .record _ _ => none

mutual

/-- A value with all members that were left out put back. -/
def Shape.restore : (shape : Shape) → shape.Value → shape.Value
  | .text, s => s
  | .flag, b => b
  | .whole _ _, n => n
  | .choice _, name => name
  | .literal, v => v
  | .list item, vs => vs.map item.restore
  | .nullable inner, v? => v?.map inner.restore
  | .record _ fields, v => fields.restore v

/-- The members of a record with all that were left out put back. -/
def Fields.restore : (fields : Fields) → fields.Value → fields.Value
  | .done, _ => ()
  | .required _ shape rest, (v, more) => (shape.restore v, rest.restore more)
  | .defaulted _ shape rest, (v?, more) =>
    ((v?.map shape.restore).or shape.default?, rest.restore more)

end

mutual

/-- A shape that reads what may be left out as what it was. -/
def Shape.Lenient : Shape → Prop
  | .list item => item.Lenient
  | .nullable inner => inner.Lenient
  | .record _ fields => fields.Lenient
  | _ => True

/-- Members that are read as what they were where they are left out. -/
def Fields.Lenient : Fields → Prop
  | .done => True
  | .required name shape rest => name ∉ listKeys ∧ shape.Lenient ∧ rest.Lenient
  | .defaulted name shape rest =>
    (name ∈ listKeys → shape.isList = true) ∧ shape.default?.isSome = true ∧ shape.Lenient ∧
      rest.Lenient

end

/-! ## Members that were left out -/

/-- Only a nullable shape writes a missing value. -/
theorem Shape.json_ne_null {shape : Shape} (h : shape.isNullable = false) (v : shape.Value) :
    shape.json v ≠ .null := by
  cases shape with
  | nullable inner => cases h
  | _ => simp [Shape.json, textJson, literalJson]

/-- Only an absent value has the document null, and it is also what a shape gives where nothing
is. -/
theorem Shape.absent?_of_json {shape : Shape} (hs : shape.Sound) {v : shape.Value}
    (h : shape.json v = .null) : shape.absent? = some v ∧ shape.default? = some v := by
  cases shape with
  | nullable inner =>
    cases v with
    | none => exact ⟨rfl, rfl⟩
    | some v => exact absurd h (Shape.json_ne_null hs.1 v)
  | _ => simp [Shape.json, textJson, literalJson] at h

theorem Shape.default?_of_omissible {shape : Shape} (hs : shape.Sound) {name : String}
    (hlist : name ∈ listKeys → shape.isList = true) {v : shape.Value}
    (h : Omissible (textUnits name) (shape.json v)) : shape.default? = some v := by
  rcases h with hnull | ⟨hempty, other, hother, hname⟩
  · exact (absent?_of_json hs hnull).2
  · rw [textUnits_inj] at hname
    subst hname
    cases shape with
    | list item =>
      cases v with
      | nil => rfl
      | cons w ws => simp [Shape.json] at hempty
    | _ => exact absurd (hlist hother) (by simp [Shape.isList])

/-! ## Members in any order -/

/-- A member of a document and its key and tree. -/
def Entry (m : List Nat × Json) (e : String × Node) : Prop := m.1 = textUnits e.1 ∧ m.2.Tree e.2

/-- Members under readable keys have their keys and trees. -/
theorem MembersTree.exists_entries {ms : List (List Nat × Json)} {members : Members} :
    MembersTree ms members → (∀ m ∈ ms, ∃ s, m.1 = textUnits s) →
    ∃ es, members = .ofList es ∧ List.Forall₂ Entry ms es
  | .closed, _ => ⟨[], rfl, .nil⟩
  | .member hk hj hms, hkeys => by
    obtain ⟨s, hs⟩ := hkeys _ List.mem_cons_self
    obtain ⟨es, rfl, hes⟩ := hms.exists_entries fun m hm => hkeys m (List.mem_cons_of_mem _ hm)
    obtain rfl := hk s hs
    exact ⟨(s, _) :: es, rfl, .cons ⟨hs, hj⟩ hes⟩

theorem exists_entry_of_mem {ms : List (List Nat × Json)} {es : List (String × Node)}
    (h : List.Forall₂ Entry ms es) {e : String × Node} (he : e ∈ es) : ∃ m ∈ ms, Entry m e := by
  induction h with
  | nil => cases he
  | cons hm _ ih =>
    rcases List.mem_cons.1 he with rfl | he
    · exact ⟨_, List.mem_cons_self, hm⟩
    · obtain ⟨m, hmem, hentry⟩ := ih he
      exact ⟨m, List.mem_cons_of_mem _ hmem, hentry⟩

/-- Members of other names leave a slot as it is. -/
theorem foldMembers_absent {σ τ : Type} {put : String → Node → σ × τ → Except Problem (σ × τ)}
    {put' : String → Node → τ → Except Problem τ} {name : String}
    (hput : ∀ key n slot slots, key ≠ name →
      put key n (slot, slots) = (put' key n slots).map (slot, ·))
    {es : List (String × Node)} (hes : ∀ e ∈ es, e.1 ≠ name) (slot : σ) (slots : τ) :
    foldMembers put (.ofList es) (slot, slots) =
      (foldMembers put' (.ofList es) slots).map (slot, ·) :=
  foldMembers_lift (slot, ·) (fun e he slots => hput e.1 e.2 slot slots (hes e he)) slots

/-- A member fills its slot, wherever it stands among members of other names. -/
theorem foldMembers_present {σ τ : Type}
    {put : String → Node → Option σ × τ → Except Problem (Option σ × τ)}
    {put' : String → Node → τ → Except Problem τ} {name : String}
    (hput : ∀ key n slot slots, key ≠ name →
      put key n (slot, slots) = (put' key n slots).map (slot, ·))
    {n : Node} {v : σ} (hfill : ∀ slots, put name n (none, slots) = .ok (some v, slots))
    {before after : List (String × Node)} (hes : ∀ e ∈ before ++ after, e.1 ≠ name) (slots : τ) :
    foldMembers put (.ofList (before ++ (name, n) :: after)) (none, slots) =
      (foldMembers put' (.ofList (before ++ after)) slots).map (some v, ·) := by
  induction before generalizing slots with
  | nil =>
    rw [List.nil_append, Members.ofList, foldMembers, hfill]
    exact foldMembers_absent hput hes (some v) slots
  | cons e before ih =>
    have hrest : ∀ e ∈ before ++ after, e.1 ≠ name :=
      fun e' he' => hes e' (List.mem_cons_of_mem _ he')
    rw [List.cons_append, List.cons_append, Members.ofList, Members.ofList, foldMembers,
      foldMembers, hput _ _ _ _ (hes e (by simp))]
    cases put' e.1 e.2 slots with
    | error p => rfl
    | ok slots' => exact ih hrest slots'

/-- Where a member stands among others in any order. -/
theorem exists_split_of_perm {es rest : List (String × Node)} {e : String × Node}
    (h : es.Perm (e :: rest)) :
    ∃ before after, es = before ++ e :: after ∧ (before ++ after).Perm rest := by
  obtain ⟨before, after, rfl⟩ := List.append_of_mem (h.symm.subset List.mem_cons_self)
  exact ⟨before, after, rfl, (List.perm_middle.symm.trans h).cons_inv⟩

/-! ## Literals -/

/-- Members that change nothing may be left out. -/
theorem foldMembers_filter {σ : Type} {step : String → Node → σ → Except Problem σ}
    {p : String × Node → Bool} {es : List (String × Node)}
    (h : ∀ e ∈ es, p e = false → ∀ s, step e.1 e.2 s = .ok s) (s : σ) :
    foldMembers step (.ofList es) s = foldMembers step (.ofList (es.filter p)) s := by
  induction es generalizing s with
  | nil => rfl
  | cons e es ih =>
    have hrest := ih fun e' he' => h e' (List.mem_cons_of_mem _ he')
    cases hp : p e with
    | false =>
      rw [List.filter_cons_of_neg (by simp [hp]), Members.ofList, foldMembers,
        h e List.mem_cons_self hp s]
      exact hrest s
    | true =>
      rw [List.filter_cons_of_pos hp, Members.ofList, Members.ofList, foldMembers, foldMembers]
      cases step e.1 e.2 s with
      | error problem => rfl
      | ok s' => exact hrest s'

theorem check_literalContentNode (v : Literal) (depth : Nat) :
    (literalContentNode v).check depth = .ok () := by
  cases v <;> rfl

theorem readChoice_literalType (v : Literal) :
    (Node.text (.ok (literalType v)) (.ok ())).readChoice literalTypes = .ok (literalType v) := by
  cases v <;> rfl

/-- A literal is read with its value in front of its type as well. -/
theorem readLiteral_swapped (v : Literal) (depth : Nat) :
    (Node.object (.ofList (literalNodes v).reverse)).readLiteral depth = .ok v := by
  have hvalue : LiteralParts.take (depth - 1) "value" (literalContentNode v) .none =
      .ok (.value (literalContentNode v)) := by
    rw [LiteralParts.take, if_neg (by decide), if_pos (by decide), check_literalContentNode]
    rfl
  have htype : LiteralParts.take (depth - 1) "type" (.text (.ok (literalType v)) (.ok ()))
      (.value (literalContentNode v)) = .ok (.both v) := by
    rw [LiteralParts.take, if_pos (by decide)]
    simp only [readChoice_literalType, bind, Except.bind, readLiteralAs_content]
    rfl
  simp only [Node.readLiteral, literalNodes, List.reverse_cons, List.reverse_nil, List.nil_append,
    List.cons_append, Members.ofList, foldMembers, hvalue, htype]
  rfl

/-- A literal is read from its members in any order, among others that may be passed over. -/
theorem readLiteral_perm {v : Literal} {es extra : List (String × Node)}
    (hes : es.Perm (literalNodes v ++ extra))
    (hextra : ∀ e ∈ extra, e.1 ∉ ["type", "value"] ∧ e.2.skip = .ok ()) (depth : Nat) :
    (Node.object (.ofList es)).readLiteral depth = .ok v := by
  have hskip : ∀ e ∈ es, decide (e.1 ∈ ["type", "value"]) = false → ∀ parts,
      LiteralParts.take (depth - 1) e.1 e.2 parts = .ok parts := by
    intro e he hkey parts
    rw [decide_eq_false_iff_not] at hkey
    have hmem : e ∈ extra := by
      rcases List.mem_append.1 (hes.subset he) with hin | hin
      · simp only [literalNodes, List.mem_cons, List.not_mem_nil, or_false] at hin
        rcases hin with rfl | rfl <;> simp at hkey
      · exact hin
    simp only [List.mem_cons, List.not_mem_nil, or_false, not_or] at hkey
    unfold LiteralParts.take
    rw [if_neg (by simpa using hkey.1), if_neg (by simpa using hkey.2), (hextra e hmem).2]
    rfl
  have hfilter : (es.filter fun e => decide (e.1 ∈ ["type", "value"])).Perm (literalNodes v) := by
    refine (hes.filter _).trans ?_
    have hnone : extra.filter (fun e => decide (e.1 ∈ ["type", "value"])) = [] := by
      rw [List.filter_eq_nil_iff]
      intro e he
      simpa using (hextra e he).1
    rw [List.filter_append, hnone, List.append_nil]
    rfl
  have hread : (Node.object (.ofList es)).readLiteral depth =
      (Node.object (.ofList (es.filter fun e => decide (e.1 ∈ ["type", "value"])))).readLiteral
        depth := by
    simp only [Node.readLiteral, foldMembers_filter hskip]
  rw [hread]
  rcases List.perm_pair.1 hfilter with h | h
  · rw [h]
    exact readLiteral_nodes v depth
  · rw [h]
    exact readLiteral_swapped v depth

/-! ## Records -/

/-- An object that is told in another way has the members that were kept and others, each with
its key and tree, in some order. -/
theorem Json.Retold.exists_entries {ms : List (List Nat × Json)} {j : Json} {n : Node}
    (h : (Json.object ms).Retold j) (hn : j.Tree n) (hkeys : ∀ m ∈ ms, ∃ s, m.1 = textUnits s) :
    ∃ kept entries extra es, MembersRetold ms kept ∧ List.Forall₂ Entry kept entries ∧
      (∀ e ∈ extra, textUnits e.1 ∉ ms.map Prod.fst ∧ e.2.skip = .ok ()) ∧
      n = .object (.ofList es) ∧ es.Perm (entries ++ extra) := by
  cases h with
  | @object _ kept others ms' hkept hothers hperm =>
    cases hn with
    | @object _ members hmembers =>
      have hreadable : ∀ m ∈ ms', ∃ s, m.1 = textUnits s := by
        intro m hm
        rcases List.mem_append.1 (hperm.subset hm) with hm | hm
        · obtain ⟨m', hm', heq⟩ := List.mem_map.1 (hkept.keys_subset m hm)
          rw [← heq]
          exact hkeys m' hm'
        · exact (hothers m hm).1
      obtain ⟨es, rfl, hes⟩ := hmembers.exists_entries hreadable
      obtain ⟨sorted, hsorted, hes'⟩ := List.perm_comp_forall₂ hperm.symm hes
      have htake := List.forall₂_take kept.length hsorted
      have hdrop := List.forall₂_drop kept.length hsorted
      rw [List.take_left] at htake
      rw [List.drop_left] at hdrop
      refine ⟨kept, _, sorted.drop kept.length, es, hkept, htake, ?_, rfl, ?_⟩
      · intro e he
        obtain ⟨m, hm, hkey, htree⟩ := exists_entry_of_mem hdrop he
        exact ⟨hkey ▸ (hothers m hm).2, htree.skip⟩
      · rw [List.take_append_drop]
        exact hes'.symm

/-- Every key that is written is a text. -/
theorem Fields.exists_name_of_json : ∀ (fields : Fields) (v : fields.Value),
    ∀ m ∈ fields.json v, ∃ s, m.1 = textUnits s
  | .done, _, _, hm => by cases hm
  | .required name _ rest, (_, more), m, hm => by
    rcases List.mem_cons.1 hm with rfl | hm
    · exact ⟨name, rfl⟩
    · exact rest.exists_name_of_json more m hm
  | .defaulted _ _ rest, (none, more), m, hm => rest.exists_name_of_json more m hm
  | .defaulted name _ rest, (some _, more), m, hm => by
    rcases List.mem_cons.1 hm with rfl | hm
    · exact ⟨name, rfl⟩
    · exact rest.exists_name_of_json more m hm

/-- A member that may be left out is there in a value that nothing was left out of. -/
theorem Fields.eq_some_of_restore {name : String} {shape : Shape} {rest : Fields}
    {v? : Option shape.Value} {more : rest.Value} (hdefault : shape.default?.isSome = true)
    (hr : (Fields.defaulted name shape rest).restore (v?, more) = (v?, more)) :
    ∃ v, v? = some v ∧ shape.restore v = v ∧ rest.restore more = more := by
  obtain ⟨hv, hmore⟩ := Prod.mk.inj hr
  cases v? with
  | none =>
    have hnone : shape.default? = none := hv
    rw [hnone] at hdefault
    cases hdefault
  | some v => exact ⟨v, rfl, Option.some.inj hv, hmore⟩

/-- The names of a record's members are those of its document. -/
theorem Fields.map_fst_json : ∀ (fields : Fields) (v : fields.Value), fields.Lenient →
    fields.restore v = v → (fields.json v).map Prod.fst = fields.names.map textUnits
  | .done, _, _, _ => rfl
  | .required name shape rest, (v, more), hl, hr =>
    congrArg (textUnits name :: ·) (rest.map_fst_json more hl.2.2 (Prod.mk.inj hr).2)
  | .defaulted name shape rest, (v?, more), hl, hr => by
    obtain ⟨v, rfl, -, hmore⟩ := eq_some_of_restore hl.2.1 hr
    exact congrArg (textUnits name :: ·) (rest.map_fst_json more hl.2.2.2 hmore)

theorem Fields.mem_names_of_entry {fields : Fields} {v : fields.Value} (hl : fields.Lenient)
    (hr : fields.restore v = v) {kept : List (List Nat × Json)}
    (h : MembersRetold (fields.json v) kept) {entries : List (String × Node)}
    (hentries : List.Forall₂ Entry kept entries) {e : String × Node} (he : e ∈ entries) :
    e.1 ∈ fields.names := by
  obtain ⟨m, hm, hkey, -⟩ := exists_entry_of_mem hentries he
  have hmem := h.keys_subset m hm
  rw [fields.map_fst_json v hl hr, hkey, List.mem_map] at hmem
  obtain ⟨name, hname, heq⟩ := hmem
  rwa [← textUnits_inj.1 heq]

/-- Members of the rest of a record, and others, have other names than the member in front. -/
theorem Fields.ne_of_entry {name : String} {rest : Fields} (hname : name ∉ rest.names)
    {v : rest.Value} (hl : rest.Lenient) (hr : rest.restore v = v)
    {kept : List (List Nat × Json)} (h : MembersRetold (rest.json v) kept)
    {entries extra es : List (String × Node)} (hentries : List.Forall₂ Entry kept entries)
    (hextra : ∀ e ∈ extra, e.1 ∉ name :: rest.names ∧ e.2.skip = .ok ())
    (hperm : es.Perm (entries ++ extra)) : ∀ e ∈ es, e.1 ≠ name := by
  rintro e he rfl
  rcases List.mem_append.1 (hperm.subset he) with hin | hin
  · exact hname (mem_names_of_entry hl hr h hentries hin)
  · exact (hextra e hin).1 List.mem_cons_self

/-- A member that may not be left out is there, with its tree. -/
theorem exists_entry_of_kept {name : String} {j : Json} {ms kept : List (List Nat × Json)}
    (h : MembersRetold ((textUnits name, j) :: ms) kept) {entries : List (String × Node)}
    (hentries : List.Forall₂ Entry kept entries) (hkept : ¬ Omissible (textUnits name) j) :
    ∃ n j' kept' entries', entries = (name, n) :: entries' ∧ j.Retold j' ∧ j'.Tree n ∧
      MembersRetold ms kept' ∧ List.Forall₂ Entry kept' entries' := by
  cases h with
  | leave hleft => exact absurd hleft hkept
  | keep hj hms =>
    cases hentries with
    | @cons _ e _ entries he hentries =>
      obtain ⟨key, n⟩ := e
      obtain ⟨hkey, hn⟩ := he
      obtain rfl := textUnits_inj.1 hkey
      exact ⟨n, _, _, entries, rfl, hj, hn, hms, hentries⟩

/-- A member and those behind it: where it is left out its slot stays empty, where it is kept its
slot is filled from its tree, and the others fill theirs. -/
theorem exists_slot {α τ : Type} {name : String} {j : Json} {read : Node → Except Problem α}
    {put : String → Node → Option α × τ → Except Problem (Option α × τ)}
    {put' : String → Node → τ → Except Problem τ} {noSlots : τ} {Value : α → Prop}
    {Slots : τ → Prop} {ms kept : List (List Nat × Json)} {extra : List (String × Node)}
    (hput : ∀ key n slot slots, key ≠ name →
      put key n (slot, slots) = (put' key n slots).map (slot, ·))
    (hset : ∀ n slots, put name n (none, slots) = (read n).map fun v => (some v, slots))
    (hread : ∀ {j' n}, j.Retold j' → j'.Tree n → ∃ w, read n = .ok w ∧ Value w)
    (hrest : ∀ {kept}, MembersRetold ms kept → ∀ {entries es}, List.Forall₂ Entry kept entries →
      es.Perm (entries ++ extra) → (∀ e ∈ es, e.1 ≠ name) ∧
      ∃ slots, foldMembers put' (.ofList es) noSlots = .ok slots ∧ Slots slots)
    (h : MembersRetold ((textUnits name, j) :: ms) kept) {entries es : List (String × Node)}
    (hentries : List.Forall₂ Entry kept entries) (hperm : es.Perm (entries ++ extra)) :
    ∃ slot slots, foldMembers put (.ofList es) (none, noSlots) = .ok (slot, slots) ∧
      Slots slots ∧
      (slot = none ∧ Omissible (textUnits name) j ∨ ∃ w, slot = some w ∧ Value w) := by
  cases h with
  | leave hleft hms =>
    obtain ⟨hne, slots, hfold, hslots⟩ := hrest hms hentries hperm
    refine ⟨none, slots, ?_, hslots, .inl ⟨rfl, hleft⟩⟩
    rw [foldMembers_absent hput hne, hfold]
    rfl
  | keep hj hms =>
    cases hentries with
    | @cons _ e _ entries he hentries =>
      obtain ⟨key, n⟩ := e
      obtain ⟨hkey, hn⟩ := he
      obtain rfl := textUnits_inj.1 hkey
      obtain ⟨w, hw, hvalue⟩ := hread hj hn
      obtain ⟨before, after, rfl, hothers⟩ := exists_split_of_perm hperm
      obtain ⟨hne, slots, hfold, hslots⟩ := hrest hms hentries hothers
      have hfill : ∀ slots, put name n (none, slots) = .ok (some w, slots) := fun slots => by
        rw [hset, hw]
        rfl
      refine ⟨some w, slots, ?_, hslots, .inr ⟨w, rfl, hvalue⟩⟩
      rw [foldMembers_present hput hfill hne, hfold]
      rfl

/-- Items that are told in another way are read one by one. -/
theorem readItems_retold {α : Type} {read : Node → Except Problem α} {json : α → Json}
    {restore : α → α} : ∀ {vs : List α}, vs.map restore = vs →
    (∀ v ∈ vs, restore v = v → ∀ {j n}, (json v).Retold j → j.Tree n →
      ∃ w, read n = .ok w ∧ restore w = v) →
    ∀ {js : List Json} {items : Items}, ItemsRetold (vs.map json) js → ItemsTree js items →
    ∃ ws, readItems read items = .ok ws ∧ ws.map restore = vs
  | [], _, _, _, _, .nil, .closed => ⟨[], rfl, rfl⟩
  | v :: vs, hr, h, _, _, .cons hj hjs, .item hn hitems => by
    obtain ⟨hv, hvs⟩ := List.cons.inj hr
    obtain ⟨w, hread, hrestore⟩ := h v List.mem_cons_self hv hj hn
    obtain ⟨ws, hreads, hrestores⟩ :=
      readItems_retold hvs (fun u hu => h u (List.mem_cons_of_mem _ hu)) hjs hitems
    refine ⟨w :: ws, ?_, by rw [List.map_cons, hrestore, hrestores]⟩
    rw [readItems, hread, hreads]
    rfl

theorem literalContentNode_of_tree {v : Literal} {j : Json} {n : Node}
    (h : (literalContentJson v).Retold j) (hn : j.Tree n) : n = literalContentNode v := by
  cases v with
  | whole m =>
    have h63 : (Numeral.twoTo 63 : Int) = 2 ^ 63 := rfl
    have h64 : (Numeral.twoTo 64 : Int) = 2 ^ 64 := rfl
    have hlow := m.le_toInt
    have hhigh := m.toInt_lt
    cases h
    cases hn with
    | number hvalue =>
      rw [hvalue m.toInt (by omega) (by omega) rfl]
      rfl
  | text s | untyped s =>
    cases h
    cases hn with
    | text hvalue =>
      rw [hvalue s rfl]
      rfl

/-- The members of a literal are always there, each with its tree. -/
theorem literalNodes_of_entries {v : Literal} {kept : List (List Nat × Json)}
    (h : MembersRetold [(textUnits "type", textJson (literalType v)),
      (textUnits "value", literalContentJson v)] kept)
    {entries : List (String × Node)} (hentries : List.Forall₂ Entry kept entries) :
    entries = literalNodes v := by
  have hcontent : ¬ Omissible (textUnits "value") (literalContentJson v) := by
    cases v <;> simp [Omissible, literalContentJson, textJson]
  have htype : ¬ Omissible (textUnits "type") (textJson (literalType v)) := by
    simp [Omissible, textJson]
  obtain ⟨n₁, j₁, _, _, rfl, hj₁, hn₁, hms, hentries⟩ := exists_entry_of_kept h hentries htype
  obtain ⟨n₂, j₂, _, _, rfl, hj₂, hn₂, hms, hentries⟩ :=
    exists_entry_of_kept hms hentries hcontent
  cases hms
  cases hentries
  obtain rfl := literalContentNode_of_tree hj₂ hn₂
  cases hj₁
  cases hn₁ with
  | text hvalue =>
    obtain rfl := hvalue (literalType v) rfl
    rfl

mutual

/-- A document that says the same as that of a value is read as the value, up to what was left
out. -/
theorem Shape.read_retold : ∀ (shape : Shape) (v : shape.Value), shape.Sound → shape.Admits v →
    shape.Lenient → shape.restore v = v → ∀ {j : Json} {n : Node}, (shape.json v).Retold j →
    j.Tree n → ∀ depth, ∃ w, shape.read depth n = .ok w ∧ shape.restore w = v
  | .text, s, _, _, _, _, _, _, .text _, .text h, _ => ⟨s, h s rfl, rfl⟩
  | .flag, b, _, _, _, _, _, _, .flag _, .flag _, _ => ⟨b, rfl, rfl⟩
  | .whole range title, n, hs, hv, _, _, _, _, .number _, .number h, _ => by
    simp only [Shape.Sound] at hs
    have hholds : range.holds n = true := hv
    simp only [Numeral.WholeRange.holds, Bool.and_eq_true, decide_eq_true_eq] at hholds
    obtain rfl := h n (by omega) (by omega) rfl
    exact ⟨n, readWhole_number hv title, rfl⟩
  | .choice names, name, _, hv, _, _, _, _, .text _, .text h, _ => by
    obtain rfl := h name rfl
    exact ⟨name, readChoice_text hv, rfl⟩
  | .literal, v, _, _, _, _, j, n, h, hn, depth => by
    obtain ⟨kept, entries, extra, es, hkept, hentries, hextra, rfl, hperm⟩ :=
      h.exists_entries hn fun m hm => by
        simp only [List.mem_cons, List.not_mem_nil, or_false] at hm
        rcases hm with rfl | rfl <;> exact ⟨_, rfl⟩
    obtain rfl := literalNodes_of_entries hkept hentries
    refine ⟨v, readLiteral_perm hperm (fun e he => ?_) depth, rfl⟩
    obtain ⟨hkey, hskip⟩ := hextra e he
    refine ⟨fun hmem => hkey ?_, hskip⟩
    simp only [List.mem_cons, List.not_mem_nil, or_false] at hmem
    rcases hmem with hmem | hmem <;> simp [hmem]
  | .list item, vs, hs, hv, hl, hr, _, _, .list hjs, .list hitems, depth =>
    readItems_retold hr (fun v hmem hrestore _ _ hj hn =>
      item.read_retold v hs (List.forall_iff_forall_mem.1 hv v hmem) hl hrestore hj hn (depth - 1))
      hjs hitems
  | .nullable inner, none, _, _, _, _, _, _, .null, .null, _ => ⟨none, rfl, rfl⟩
  | .nullable inner, some v, hs, hv, hl, hr, j, n, h, hn, depth => by
    obtain ⟨w, hread, hrestore⟩ := inner.read_retold v hs.2 hv hl (Option.some.inj hr) h hn depth
    have hne : n ≠ .null := by
      rintro rfl
      cases hn
      exact Shape.json_ne_null hs.1 v (Json.eq_null_of_retold h)
    refine ⟨some w, ?_, congrArg some hrestore⟩
    rw [Shape.read_nullable hne, hread]
    rfl
  | .record title fields, v, hs, hv, hl, hr, j, n, h, hn, depth => by
    obtain ⟨kept, entries, extra, es, hkept, hentries, hextra, rfl, hperm⟩ :=
      h.exists_entries hn (fields.exists_name_of_json v)
    have hothers : ∀ e ∈ extra, e.1 ∉ fields.names ∧ e.2.skip = .ok () := by
      intro e he
      obtain ⟨hkey, hskip⟩ := hextra e he
      rw [fields.map_fst_json v hl hr] at hkey
      exact ⟨fun hmem => hkey (List.mem_map_of_mem hmem), hskip⟩
    obtain ⟨slots, hfold, w, hfinish, hrestore⟩ :=
      fields.fold_retold v hs hv hl hr hkept hentries hothers hperm (depth - 1)
    refine ⟨w, ?_, hrestore⟩
    rw [Shape.read_record, hfold]
    exact hfinish

/-- The members of a document that says the same fill the slots of those that were kept, in any
order and among any others. -/
theorem Fields.fold_retold : ∀ (fields : Fields) (v : fields.Value), fields.Sound →
    fields.Admits v → fields.Lenient → fields.restore v = v →
    ∀ {kept : List (List Nat × Json)}, MembersRetold (fields.json v) kept →
    ∀ {entries extra es : List (String × Node)}, List.Forall₂ Entry kept entries →
    (∀ e ∈ extra, e.1 ∉ fields.names ∧ e.2.skip = .ok ()) → es.Perm (entries ++ extra) →
    ∀ depth, ∃ slots, foldMembers (fields.put depth) (.ofList es) fields.noSlots = .ok slots ∧
      ∃ w, fields.finish slots = .ok w ∧ fields.restore w = v
  | .done, _, _, _, _, _, _, .nil, _, _, es, .nil, hextra, hperm, depth => by
    have hskip : ∀ e ∈ es, decide (e.1 ∈ Fields.done.names) = false → ∀ slots,
        Fields.done.put depth e.1 e.2 slots = .ok slots := by
      intro e he _ slots
      rw [Fields.put, (hextra e (hperm.subset he)).2]
      rfl
    refine ⟨(), ?_, (), rfl, rfl⟩
    have hfilter : es.filter (fun e => decide (e.1 ∈ Fields.done.names)) = [] := by
      simp [Fields.names]
    rw [foldMembers_filter hskip, hfilter]
    rfl
  | .required name shape rest, (v, more), hs, hv, hl, hr, _, h, entries, extra, es, hentries,
      hextra, hperm, depth => by
    obtain ⟨hv', hmore⟩ := Prod.mk.inj hr
    have hextra' : ∀ e ∈ extra, e.1 ∉ rest.names ∧ e.2.skip = .ok () := fun e he =>
      ⟨fun hmem => (hextra e he).1 (List.mem_cons_of_mem _ hmem), (hextra e he).2⟩
    obtain ⟨slot, slots, hfold, ⟨ws, hfinish, hrestores⟩, hslot⟩ := exists_slot
      (fun _ n slot slots hne => Fields.put_required_ne hne depth n slot slots)
      (fun n slots => by simp only [Fields.put, BEq.rfl, if_true]; rfl)
      (fun hj hn => shape.read_retold v hs.2.1 hv.1 hl.2.1 hv' hj hn depth)
      (fun hms _ _ hentries hperm =>
        ⟨Fields.ne_of_entry hs.1 hl.2.2 hmore hms hentries hextra hperm,
          rest.fold_retold more hs.2.2 hv.2 hl.2.2 hmore hms hentries hextra' hperm depth⟩)
      h hentries hperm
    refine ⟨(slot, slots), hfold, ?_⟩
    rcases hslot with ⟨rfl, hleft⟩ | ⟨w, rfl, hrestore⟩
    · -- Nothing but null can have been left out here, and that is what an empty slot stands for.
      have hnull : shape.json v = .null := by
        refine hleft.resolve_right ?_
        rintro ⟨-, other, hother, hname⟩
        exact hl.1 (textUnits_inj.1 hname ▸ hother)
      refine ⟨(v, ws), ?_, Prod.mk.injEq .. ▸ ⟨hv', hrestores⟩⟩
      simp only [Fields.finish, (Shape.absent?_of_json hs.2.1 hnull).1, hfinish]
      rfl
    · refine ⟨(w, ws), ?_, Prod.mk.injEq .. ▸ ⟨hrestore, hrestores⟩⟩
      simp only [Fields.finish, hfinish]
      rfl
  | .defaulted name shape rest, (v?, more), hs, hv, hl, hr, _, h, entries, extra, es, hentries,
      hextra, hperm, depth => by
    obtain ⟨v, rfl, hv', hmore⟩ := Fields.eq_some_of_restore hl.2.1 hr
    have hextra' : ∀ e ∈ extra, e.1 ∉ rest.names ∧ e.2.skip = .ok () := fun e he =>
      ⟨fun hmem => (hextra e he).1 (List.mem_cons_of_mem _ hmem), (hextra e he).2⟩
    obtain ⟨slot, slots, hfold, ⟨ws, hfinish, hrestores⟩, hslot⟩ := exists_slot
      (fun _ n slot slots hne => Fields.put_defaulted_ne hne depth n slot slots)
      (fun n slots => by simp only [Fields.put, BEq.rfl, if_true]; rfl)
      (fun hj hn => shape.read_retold v hs.2.1 hv.1 hl.2.2.1 hv' hj hn depth)
      (fun hms _ _ hentries hperm =>
        ⟨Fields.ne_of_entry hs.1 hl.2.2.2 hmore hms hentries hextra hperm,
          rest.fold_retold more hs.2.2 hv.2 hl.2.2.2 hmore hms hentries hextra' hperm depth⟩)
      h hentries hperm
    refine ⟨(slot, slots), hfold, (slot, ws), ?_, ?_⟩
    · simp only [Fields.finish, hfinish]
      rfl
    · refine Prod.mk.injEq .. ▸ ⟨?_, hrestores⟩
      rcases hslot with ⟨rfl, hleft⟩ | ⟨w, rfl, hrestore⟩
      · exact Shape.default?_of_omissible hs.2.1 hl.1 hleft
      · exact congrArg some hrestore

end

end QueryPipe.Wire
