import QueryPipe.Proofs.Wire.Shape
import QueryPipe.Proofs.Wire.Turns

/-!
# A document that is not closed is no record

As long as a bracket of a document stays open, its tree ends with what is missing, and no record
is read from such a tree. A value closes all that it opens, so a document of a record that breaks
off leaves at least its first bracket open.

* `Node.neutral_lexemes`: a value closes what it opens and nothing else.
* `isClosed_build`: the tree of lexemes that leave a bracket open.
* `Fields.isClosed_of_read`: what a record is read from.
-/

namespace QueryPipe.Wire

open Text (Glyph)

/-! ## Brackets that stay open -/

/-- With a number of brackets open, one of them stays open all the time. -/
def Stays : Nat → List Turn → Prop
  | 0, _ => False
  | _ + 1, [] => True
  | n + 1, .opening :: ts => Stays (n + 2) ts
  | n + 1, .closing :: ts => Stays n ts

theorem not_stays_zero (ts : List Turn) : ¬ Stays 0 ts := by
  cases ts <;> exact id

theorem Stays.pos {n : Nat} {ts : List Turn} (h : Stays n ts) : 0 < n := by
  cases n with
  | zero => exact absurd h (not_stays_zero ts)
  | succ n => exact Nat.succ_pos n

/-- Turns that stay inside do so as far as they are cut. -/
theorem Stays.of_prefix {ts us : List Turn} (h : ts <+: us) {n : Nat} (hn : Stays n us) :
    Stays n ts := by
  obtain ⟨n, rfl⟩ := Nat.exists_eq_succ_of_ne_zero hn.pos.ne'
  induction ts generalizing us n with
  | nil => trivial
  | cons t ts ih =>
    obtain ⟨us, rfl, hus⟩ := List.cons_prefix_iff.1 h
    cases t with
    | opening => exact ih hus _ hn
    | closing =>
      have hpos : Stays n us := hn
      obtain ⟨n, rfl⟩ := Nat.exists_eq_succ_of_ne_zero hpos.pos.ne'
      exact ih hus _ hpos

/-- Brackets that close what they open and nothing else. -/
def Neutral (ts : List Turn) : Prop := ∀ n us, Stays n (ts ++ us) ↔ Stays n us

theorem neutral_nil : Neutral [] := fun _ _ => Iff.rfl

theorem Neutral.stays_one {ts : List Turn} (h : Neutral ts) : Stays 1 ts := by
  rw [← List.append_nil ts, h]
  trivial

/-- Neutral turns in a row are neutral. -/
theorem Neutral.append {ts us : List Turn} (ht : Neutral ts) (hu : Neutral us) :
    Neutral (ts ++ us) := by
  intro n vs
  rw [List.append_assoc, ht, hu]

/-- Neutral turns are neutral when they are enclosed. -/
theorem Neutral.enclosed {ts : List Turn} (h : Neutral ts) :
    Neutral (.opening :: (ts ++ [.closing])) := by
  intro n us
  cases n with
  | zero => exact iff_of_false (not_stays_zero _) (not_stays_zero _)
  | succ n =>
    rw [List.cons_append, List.append_assoc, Stays, h]
    rfl

theorem neutral_joinedLexemes {parts : List (List Lexeme)}
    (h : ∀ part ∈ parts, Neutral (turnsOf part)) : Neutral (turnsOf (joinedLexemes parts)) := by
  induction parts with
  | nil => exact neutral_nil
  | cons part parts ih =>
    cases parts with
    | nil => exact h part (by simp)
    | cons next parts =>
      rw [joinedLexemes, turnsOf_append, turnsOf_cons]
      exact (h part (by simp)).append (ih fun p hp => h p (List.mem_cons_of_mem _ hp))

mutual

/-- A value closes what it opens and nothing else. -/
theorem Node.neutral_lexemes : ∀ n : Node, Neutral (turnsOf n.lexemes)
  | .null | .flag _ | .number _ _ | .text _ _ | .badWord _ | .broken _ => neutral_nil
  | .list items => by
    rw [Node.lexemes, turnsOf_cons, turnsOf_append]
    exact (neutral_joinedLexemes items.neutral_lexemes).enclosed
  | .object members => by
    rw [Node.lexemes, turnsOf_cons, turnsOf_append]
    exact (neutral_joinedLexemes members.neutral_lexemes).enclosed

theorem Items.neutral_lexemes : ∀ items : Items, ∀ part ∈ items.lexemes, Neutral (turnsOf part)
  | .closed | .cut | .unseparated | .dangling => by simp [Items.lexemes]
  | .item value rest => by
    rw [Items.lexemes, List.forall_mem_cons]
    exact ⟨value.neutral_lexemes, rest.neutral_lexemes⟩

theorem Members.neutral_lexemes :
    ∀ members : Members, ∀ part ∈ members.lexemes, Neutral (turnsOf part)
  | .closed | .cut | .cutAfterComma | .unseparated | .dangling | .keyless _ => by
    simp [Members.lexemes]
  | .member key passed value rest => by
    rw [Members.lexemes, List.forall_mem_cons]
    exact ⟨value.neutral_lexemes, rest.neutral_lexemes⟩

end

/-! ## Trees that are not closed -/

/-- Whether a list ends as it should. -/
def Items.isClosed : Items → Bool
  | .closed => true
  | .item _ rest => rest.isClosed
  | _ => false

/-- Whether an object ends as it should. -/
def Members.isClosed : Members → Bool
  | .closed => true
  | .member _ _ _ rest => rest.isClosed
  | _ => false

/-- Whether a value is a list or an object that ends as it should. -/
def Node.isClosed : Node → Bool
  | .list items => items.isClosed
  | .object members => members.isClosed
  | _ => false

@[simp] theorem Items.isClosed_ofReverse (before : List Node) (rest : Items) :
    (Items.ofReverse before rest).isClosed = rest.isClosed := by
  induction before generalizing rest with
  | nil => rfl
  | cons n before ih => exact ih _

@[simp] theorem Members.isClosed_ofReverse (before : List (Key × Node)) (rest : Members) :
    (Members.ofReverse before rest).isClosed = rest.isClosed := by
  induction before generalizing rest with
  | nil => rfl
  | cons m before ih => exact ih _

/-- A tree is not closed where its text ends inside a bracket, or in what is not closed itself. -/
theorem isClosed_unwind {value : Node} {opens : List Open}
    (h : value.isClosed = false ∨ opens ≠ []) : (unwind value opens).isClosed = false := by
  induction opens generalizing value with
  | nil => exact h.resolve_right fun hne => hne rfl
  | cons o outer ih =>
    cases o with
    | list before => exact ih (.inl (by simp [Node.isClosed, Items.isClosed]))
    | object before key => exact ih (.inl (by simp [Node.isClosed, Members.isClosed]))

/-- The number of brackets that are open. -/
def level (due : Due) (opens : List Open) : Nat :=
  match due with
  | .value | .colon | .separator _ => opens.length
  | .firstItem | .firstKey _ | .nextKey _ => opens.length + 1

/-- A document that ends inside something is not closed. -/
theorem isClosed_finish {due : Due} {opens : List Open} (h : 0 < level due opens) :
    (finish due opens).root.isClosed = false := by
  cases due with
  | value | colon | separator =>
    exact isClosed_unwind (.inr (List.length_pos_iff.1 h))
  | firstItem => exact isClosed_unwind (.inl rfl)
  | firstKey before | nextKey before =>
    exact isClosed_unwind (.inl (by simp [Node.isClosed, Members.isClosed]))

theorem isClosed_unwind_list {items : Items} (h : items.isClosed = false) (opens : List Open) :
    (unwind (.list items) opens).isClosed = false :=
  isClosed_unwind (.inl h)

theorem isClosed_unwind_object {members : Members} (h : members.isClosed = false)
    (opens : List Open) : (unwind (.object members) opens).isClosed = false :=
  isClosed_unwind (.inl h)

/-- The tree of lexemes that leave a bracket open is not closed. -/
theorem isClosed_build {ls : List Lexeme} (due : Due) (opens : List Open)
    (h : Stays (level due opens) (turnsOf ls)) : (build ls due opens).root.isClosed = false := by
  induction ls generalizing due opens with
  | nil => exact isClosed_finish h.pos
  | cons l rest ih =>
    have hvalue : ∀ opens : List Open, Stays opens.length (turnsOf (l :: rest)) →
        (build (l :: rest) .value opens).root.isClosed = false := by
      intro opens h
      have hne : opens ≠ [] := List.length_pos_iff.1 h.pos
      obtain ⟨o, outer, rfl⟩ := List.exists_cons_of_ne_nil hne
      cases l with
      | openList => exact ih .firstItem _ h
      | openObject => exact ih (.firstKey []) _ h
      | null | flag | number | text => exact ih (.separator _) _ h
      | _ => exact isClosed_unwind (.inr hne)
    cases due with
    | value => exact hvalue _ h
    | firstItem =>
      cases l with
      | closeList => exact ih (.separator _) _ h
      | _ => exact hvalue (.list [] :: opens) h
    | firstKey before =>
      cases l with
      | closeObject => exact ih (.separator _) _ h
      | text key passed => exact ih .colon (.object before ⟨key, passed⟩ :: opens) h
      | _ => exact isClosed_unwind_object (by simp [Members.isClosed]) _
    | nextKey before =>
      cases l with
      | text key passed => exact ih .colon (.object before ⟨key, passed⟩ :: opens) h
      | _ => exact isClosed_unwind_object (by simp [Members.isClosed]) _
    | colon =>
      cases l with
      | colon => exact ih .value _ h
      | _ => exact isClosed_unwind (.inr (List.length_pos_iff.1 h.pos))
    | separator node =>
      match opens with
      | [] => exact absurd h (not_stays_zero _)
      | .list before :: outer =>
        cases l with
        | closeList => exact ih (.separator _) _ h
        | comma =>
          cases rest with
          | nil => exact ih .value (.list (node :: before) :: outer) h
          | cons m more =>
            cases m with
            | closeList => exact isClosed_unwind_list (by simp [Items.isClosed]) _
            | _ => exact ih .value (.list (node :: before) :: outer) h
        | _ => exact isClosed_unwind_list (by simp [Items.isClosed]) _
      | .object before key :: outer =>
        cases l with
        | closeObject => exact ih (.separator _) _ h
        | comma => exact ih (.nextKey _) _ h
        | _ => exact isClosed_unwind_object (by simp [Members.isClosed]) _

/-! ## Records are read from closed trees -/

theorem isClosed_of_endOfList {items : Items} (h : endOfList items = .ok ()) :
    items.isClosed = true := by
  cases items <;> first | rfl | cases h

theorem eq_closed_of_nextItem {items : Items} (h : nextItem items = .ok none) :
    items = .closed := by
  cases items <;> first | rfl | cases h

theorem eq_item_of_nextItem {items rest : Items} {value : Node}
    (h : nextItem items = .ok (some (value, rest))) : items = .item value rest := by
  cases items <;> first | cases h; rfl | cases h

/-- The members of a record are read from a list that ends as it should. -/
theorem Fields.isClosed_of_readList : ∀ (fields : Fields) {title : String} {index depth : Nat}
    {items : Items} {v : fields.Value}, fields.readList title index depth items = .ok v →
    items.isClosed = true
  | .done, _, _, _, _, _, h => isClosed_of_endOfList h
  | .required name shape rest, title, index, depth, items, v, h => by
    simp only [Fields.readList] at h
    split at h
    · cases h
    · cases h
    · rename_i node more hnext
      rw [eq_item_of_nextItem hnext]
      split at h
      · cases h
      · obtain ⟨w, hmore, -⟩ := exists_of_map_eq_ok h
        have hclosed : more.isClosed = true := rest.isClosed_of_readList hmore
        exact hclosed
  | .defaulted name shape rest, title, index, depth, items, v, h => by
    simp only [Fields.readList] at h
    split at h
    · cases h
    · rename_i hnext
      rw [eq_closed_of_nextItem hnext]
      rfl
    · rename_i node more hnext
      rw [eq_item_of_nextItem hnext]
      split at h
      · cases h
      · obtain ⟨w, hmore, -⟩ := exists_of_map_eq_ok h
        have hclosed : more.isClosed = true := rest.isClosed_of_readList hmore
        exact hclosed

/-- Going through the members of an object reaches its end. -/
theorem isClosed_of_foldMembers {σ : Type} {step : String → Node → σ → Except Problem σ} :
    ∀ {members : Members} {s s' : σ}, foldMembers step members s = .ok s' →
    members.isClosed = true
  | .closed, _, _, _ => rfl
  | .cut, _, _, h | .cutAfterComma, _, _, h | .unseparated, _, _, h | .dangling, _, _, h
  | .keyless _, _, _, h => by cases h
  | .member key passed value rest, s, s', h => by
    simp only [foldMembers] at h
    split at h
    · cases h
    · split at h
      · cases h
      · have hrest : rest.isClosed = true := isClosed_of_foldMembers h
        exact hrest

/-- A record is read only from a tree that is closed. -/
theorem Fields.isClosed_of_read {fields : Fields} {title : String} {depth : Nat} {n : Node}
    {v : fields.Value} (h : (Shape.record title fields).read depth n = .ok v) :
    n.isClosed = true := by
  cases n with
  | list items => exact fields.isClosed_of_readList h
  | object members =>
    rw [Shape.read_record] at h
    split at h
    · cases h
    · rename_i slots hfold
      exact isClosed_of_foldMembers hfold
  | _ => cases h

/-- A record that is not closed is refused. -/
theorem Fields.exists_problem_of_not_closed {fields : Fields} {title : String} {d : Document}
    (h : d.root.isClosed = false) :
    ∃ problem, (Shape.record title fields).readDocument d = .error problem := by
  rw [Shape.readDocument]
  cases hread : (Shape.record title fields).read depthLimit d.root with
  | error problem => exact ⟨problem, rfl⟩
  | ok v =>
    rw [Fields.isClosed_of_read hread] at h
    cases h

/-! ## Documents that break off -/

theorem Fields.lexemes_joinedChars_write {fields : Fields} {v : fields.Value}
    (hs : fields.Sound) (hv : fields.Admits v) :
    lexemes ((joinedChars (fields.write v)).map .char) =
      joinedLexemes (Members.ofList (fields.nodes v)).lexemes := by
  have hspells := spells_joinedChars (List.forall₂_map_right_iff.2 (fields.spells_write v hs hv))
  have h := hspells [] endsNumber_nil
  rwa [List.append_nil, lexemes_nil, List.append_nil, ← Members.lexemes_ofList] at h

/-- A document of a record that breaks off is not read as a record, whatever the break leaves of
the character in which it is. -/
theorem Fields.exists_problem_of_cut {fields : Fields} {title : String} {v : fields.Value}
    (hs : fields.Sound) (hv : fields.Admits v) {front : List Char}
    (hfront : front <+: (Shape.record title fields).write v)
    (hne : front ≠ (Shape.record title fields).write v) {strays : List Glyph}
    (hst : Strays strays) :
    ∃ problem, (Shape.record title fields).readDocument (.ofGlyphs (front.map .char ++ strays)) =
      .error problem := by
  refine exists_problem_of_not_closed ?_
  cases front with
  | nil =>
    rcases strays_cases hst with rfl | ⟨b, rest, rfl⟩
    · rw [List.map_nil, List.nil_append, Document.ofGlyphs, lexemes_nil]
      rfl
    · rw [List.map_nil, List.nil_append, Document.ofGlyphs, lexemes]
      rfl
  | cons c front =>
    have hwrite : (Shape.record title fields).write v =
        '\x7b' :: (joinedChars (fields.write v) ++ ['\x7d']) := rfl
    rw [hwrite] at hfront hne
    obtain ⟨rfl, hmore⟩ := List.cons_prefix_cons.1 hfront
    obtain ⟨missing, hmissing⟩ := (List.prefix_concat_iff.1 hmore).resolve_left fun heq =>
      hne (by rw [heq])
    -- The members close what they open, so the brace in front of them stays open.
    have hstays : Stays 1 (turns ((joinedChars (fields.write v)).map .char)) := by
      rw [turns, fields.lexemes_joinedChars_write hs hv]
      exact (neutral_joinedLexemes (Members.neutral_lexemes _)).stays_one
    rw [← hmissing, List.map_append] at hstays
    have hcut := hstays.of_prefix (turns_cut (front.map .char) hst (missing.map .char))
    rw [List.map_cons, List.cons_append, Document.ofGlyphs, lexemes_single rfl]
    exact isClosed_build (.firstKey []) [] hcut

/-! ## Documents that something follows -/

/-- The lexemes of a document of a record are followed by those of what stands behind it. -/
theorem Fields.lexemes_write_append {fields : Fields} {title : String} {v : fields.Value}
    (hs : fields.Sound) (hv : fields.Admits v) (gs : List Glyph) :
    lexemes (((Shape.record title fields).write v).map .char ++ gs) =
      ((Shape.record title fields).node v).lexemes ++ lexemes gs := by
  have hmembers := spells_joinedChars (List.forall₂_map_right_iff.2 (fields.spells_write v hs hv))
  rw [← Members.lexemes_ofList] at hmembers
  have hbrace : ∀ gs : List Glyph, EndsNumber (.char '\x7d' :: gs) := fun gs =>
    endsNumber_cons (by decide) (by decide) (by decide) (by decide) gs
  exact lexemes_enclosed rfl rfl hbrace hmembers gs

theorem build_separator_nil (ls : List Lexeme) (n : Node) :
    build ls (.separator n) [] = ⟨n, !ls.isEmpty⟩ := by
  cases ls <;> rfl

/-- A document of a record is read if nothing but blanks follows it, and refused otherwise. -/
theorem Fields.readDocument_write_append {fields : Fields} {title : String} {v : fields.Value}
    (hs : fields.Sound) (hv : fields.Admits v) (gs : List Glyph) :
    (Shape.record title fields).readDocument
        (.ofGlyphs (((Shape.record title fields).write v).map .char ++ gs)) =
      if lexemes gs = [] then .ok v else .error .trailing := by
  have hread := (Shape.record title fields).read_node v hs hv depthLimit
  rw [Document.ofGlyphs, lexemes_write_append hs hv,
    build_node (Shape.complete_node (.record title fields) v), build_separator_nil,
    Shape.readDocument, hread]
  cases lexemes gs <;> rfl

/-- There are no lexemes in blanks and in nothing else. -/
theorem lexemes_eq_nil_iff {gs : List Glyph} :
    lexemes gs = [] ↔ ∀ g ∈ gs, isSpace g = true := by
  induction gs with
  | nil => simp
  | cons g gs ih =>
    rw [List.forall_mem_cons]
    by_cases hg : isSpace g = true
    · rw [lexemes_blank hg, ih]
      simp [hg]
    · refine iff_of_false ?_ fun h => hg h.1
      cases g with
      | stray b => simp [lexemes]
      | char c =>
        rw [lexemes, if_neg hg]
        repeat' split
        all_goals simp

end QueryPipe.Wire
