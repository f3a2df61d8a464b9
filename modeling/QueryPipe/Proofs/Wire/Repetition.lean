import Mathlib.Data.List.Duplicate
import QueryPipe.Proofs.Wire.Spelling

/-!
# Members given twice

Where a name of a record comes twice in an object, nothing is read: the first member of that name
fills its slot, no other member empties it, and the second finds it filled. This holds of every
object that stands where a record or a literal is due, however deep in a document.

* `Shape.Repeats`: documents in which a known name comes twice.
* `Shape.Repeats.exists_problem`: they are refused.
-/

namespace QueryPipe.Wire

/-! ## Documents with a name given twice -/

/-- The members of a record with their shapes. -/
def Fields.members : Fields → List (String × Shape)
  | .done => []
  | .required name shape rest => (name, shape) :: rest.members
  | .defaulted name shape rest => (name, shape) :: rest.members

/-- Somewhere in a document an object stands for a record or a literal and has one of its names
twice. -/
inductive Shape.Repeats : Shape → Json → Prop
  /-- A literal has its type or its value twice. -/
  | literal {ms : List (List Nat × Json)} {name : String} (hname : name ∈ ["type", "value"])
    (h : List.Duplicate (textUnits name) (ms.map Prod.fst)) : Shape.Repeats .literal (.object ms)
  /-- A record has one of its members twice. -/
  | record {title : String} {fields : Fields} {ms : List (List Nat × Json)} {name : String}
    (hname : name ∈ fields.names) (h : List.Duplicate (textUnits name) (ms.map Prod.fst)) :
    Shape.Repeats (.record title fields) (.object ms)
  /-- It is so in a member of a record. -/
  | member {title : String} {fields : Fields} {ms : List (List Nat × Json)} {name : String}
    {shape : Shape} {j : Json} (hfield : (name, shape) ∈ fields.members)
    (hmem : (textUnits name, j) ∈ ms) (h : shape.Repeats j) :
    Shape.Repeats (.record title fields) (.object ms)
  /-- It is so in a member of a record that is given as a list. -/
  | listed {title : String} {fields : Fields} {js : List Json} {i : Nat} {name : String}
    {shape : Shape} {j : Json} (hfield : fields.members[i]? = some (name, shape))
    (hj : js[i]? = some j) (h : shape.Repeats j) : Shape.Repeats (.record title fields) (.list js)
  /-- It is so in an item of a list. -/
  | item {item : Shape} {js : List Json} {j : Json} (hmem : j ∈ js) (h : item.Repeats j) :
    Shape.Repeats (.list item) (.list js)
  /-- It is so in a value that might have been null. -/
  | nullable {inner : Shape} {j : Json} (h : inner.Repeats j) : Shape.Repeats (.nullable inner) j

/-! ## Going through members -/

section Fold

variable {σ : Type} {step : String → Node → σ → Except Problem σ}

/-- One member that no state can take stops the reading. -/
theorem MembersTree.exists_problem_of_mem {name : String} {j : Json} :
    ∀ {ms : List (List Nat × Json)} {members : Members}, MembersTree ms members →
    (textUnits name, j) ∈ ms → (∀ n, j.Tree n → ∀ s, ∃ p, step name n s = .error p) →
    ∀ s, ∃ p, foldMembers step members s = .error p
  | _, _, .closed, hmem, _, _ => by cases hmem
  | _, _, @MembersTree.member us key j' n ms members hk hj hms, hmem, hstep, s => by
    cases key with
    | error p => exact ⟨p, rfl⟩
    | ok k =>
      cases hs : step k n s with
      | error p => exact ⟨p, by rw [foldMembers, hs]⟩
      | ok s' =>
        rw [foldMembers, hs]
        rcases List.mem_cons.1 hmem with heq | hmem
        · obtain ⟨rfl, rfl⟩ := Prod.mk.inj heq
          obtain rfl := Except.ok.inj (hk name rfl)
          obtain ⟨p, hp⟩ := hstep n hj s
          rw [hp] at hs
          cases hs
        · exact hms.exists_problem_of_mem hmem hstep s'

variable {name : String} {Filled : σ → Prop}

/-- Once a slot is filled, another member of its name stops the reading. -/
theorem MembersTree.exists_problem_of_filled
    (hkeep : ∀ key n s s', Filled s → step key n s = .ok s' → Filled s')
    (htwice : ∀ n s, Filled s → ∃ p, step name n s = .error p) :
    ∀ {ms : List (List Nat × Json)} {members : Members}, MembersTree ms members →
    textUnits name ∈ ms.map Prod.fst → ∀ s, Filled s → ∃ p, foldMembers step members s = .error p
  | _, _, .closed, hmem, _, _ => by cases hmem
  | _, _, @MembersTree.member us key j' n ms members hk _ hms, hmem, s, hs => by
    cases key with
    | error p => exact ⟨p, rfl⟩
    | ok k =>
      cases hstep : step k n s with
      | error p => exact ⟨p, by rw [foldMembers, hstep]⟩
      | ok s' =>
        rw [foldMembers, hstep]
        rcases List.mem_cons.1 hmem with heq | hmem
        · obtain rfl := Except.ok.inj (hk name heq.symm)
          obtain ⟨p, hp⟩ := htwice n s hs
          rw [hp] at hstep
          cases hstep
        · exact hms.exists_problem_of_filled hkeep htwice hmem s' (hkeep k n s s' hs hstep)

/-- A name that comes twice stops the reading. -/
theorem MembersTree.exists_problem_of_duplicate
    (hset : ∀ n s s', step name n s = .ok s' → Filled s')
    (hkeep : ∀ key n s s', Filled s → step key n s = .ok s' → Filled s')
    (htwice : ∀ n s, Filled s → ∃ p, step name n s = .error p) :
    ∀ {ms : List (List Nat × Json)} {members : Members}, MembersTree ms members →
    List.Duplicate (textUnits name) (ms.map Prod.fst) → ∀ s,
    ∃ p, foldMembers step members s = .error p
  | _, _, .closed, hdup, _ => by cases hdup
  | _, _, @MembersTree.member us key j' n ms members hk _ hms, hdup, s => by
    cases key with
    | error p => exact ⟨p, rfl⟩
    | ok k =>
      cases hstep : step k n s with
      | error p => exact ⟨p, by rw [foldMembers, hstep]⟩
      | ok s' =>
        rw [foldMembers, hstep]
        rw [List.map_cons, List.duplicate_cons_iff] at hdup
        rcases hdup with ⟨heq, hmem⟩ | hdup
        · obtain rfl := Except.ok.inj (hk name heq)
          exact hms.exists_problem_of_filled hkeep htwice hmem s' (hset n s s' hstep)
        · exact hms.exists_problem_of_duplicate hset hkeep htwice hdup s'

end Fold

/-! ## Slots of a record -/

section Slot

variable {α τ : Type}

/-- Puts a member into the slot of its name, or lets the slots behind it take it. -/
def putSlot (name : String) (read : Node → Except Problem α)
    (put : String → Node → τ → Except Problem τ) (key : String) (n : Node) :
    Option α × τ → Except Problem (Option α × τ)
  | (slot, slots) =>
    if key == name then
      match slot with
      | some _ => .error (.duplicateMember name)
      | none => (read n).map fun v => (some v, slots)
    else (put key n slots).map (slot, ·)

/-- The slot of a name is filled, here or behind. -/
def SlotFilled (name : String) (Filled : String → τ → Prop) (key : String) :
    Option α × τ → Prop
  | (slot, slots) => if key = name then slot.isSome = true else Filled key slots

variable {name key : String} {read : Node → Except Problem α}
  {put : String → Node → τ → Except Problem τ} {Filled : String → τ → Prop} {n : Node}

theorem putSlot_self (slot : Option α) (slots : τ) :
    putSlot name read put name n (slot, slots) = match slot with
      | some _ => .error (.duplicateMember name)
      | none => (read n).map fun v => (some v, slots) := by
  simp [putSlot]

theorem putSlot_ne (h : key ≠ name) (slot : Option α) (slots : τ) :
    putSlot name read put key n (slot, slots) = (put key n slots).map (slot, ·) := by
  simp [putSlot, h]

theorem slotFilled_self {slot : Option α} {slots : τ} :
    SlotFilled name Filled name (slot, slots) ↔ slot.isSome = true := by
  simp [SlotFilled]

theorem slotFilled_ne (h : key ≠ name) {slot : Option α} {slots : τ} :
    SlotFilled name Filled key (slot, slots) ↔ Filled key slots := by
  simp [SlotFilled, h]

/-- Putting a member fills the slot of its name. -/
theorem slotFilled_self_of_putSlot
    (hput : key ≠ name → ∀ slots slots', put key n slots = .ok slots' → Filled key slots')
    {s s' : Option α × τ} (h : putSlot name read put key n s = .ok s') :
    SlotFilled name Filled key s' := by
  obtain ⟨slot, slots⟩ := s
  by_cases hkey : key = name
  · subst hkey
    rw [putSlot_self] at h
    cases slot with
    | some v => cases h
    | none =>
      obtain ⟨v, -, rfl⟩ := exists_of_map_eq_ok h
      exact slotFilled_self.2 rfl
  · rw [putSlot_ne hkey] at h
    obtain ⟨slots', hslots, rfl⟩ := exists_of_map_eq_ok h
    exact (slotFilled_ne hkey).2 (hput hkey slots slots' hslots)

/-- No member empties a slot. -/
theorem slotFilled_of_putSlot {other : String}
    (hput : ∀ slots slots', Filled key slots → put other n slots = .ok slots' → Filled key slots')
    {s s' : Option α × τ} (hs : SlotFilled name Filled key s)
    (h : putSlot name read put other n s = .ok s') : SlotFilled name Filled key s' := by
  obtain ⟨slot, slots⟩ := s
  by_cases hother : other = name
  · subst hother
    rw [putSlot_self] at h
    cases slot with
    | some v => cases h
    | none =>
      obtain ⟨v, -, rfl⟩ := exists_of_map_eq_ok h
      by_cases hkey : key = other
      · subst hkey
        exact slotFilled_self.2 rfl
      · exact (slotFilled_ne hkey).2 ((slotFilled_ne hkey).1 hs)
  · rw [putSlot_ne hother] at h
    obtain ⟨slots', hslots, rfl⟩ := exists_of_map_eq_ok h
    by_cases hkey : key = name
    · subst hkey
      exact slotFilled_self.2 (slotFilled_self.1 hs)
    · exact (slotFilled_ne hkey).2 (hput slots slots' ((slotFilled_ne hkey).1 hs) hslots)

/-- A slot that is filled takes no other member. -/
theorem exists_problem_putSlot_of_filled
    (hput : ∀ slots, Filled key slots → ∃ p, put key n slots = .error p) {s : Option α × τ}
    (hs : SlotFilled name Filled key s) : ∃ p, putSlot name read put key n s = .error p := by
  obtain ⟨slot, slots⟩ := s
  by_cases hkey : key = name
  · subst hkey
    obtain ⟨v, rfl⟩ := Option.isSome_iff_exists.1 (slotFilled_self.1 hs)
    exact ⟨_, putSlot_self _ _⟩
  · obtain ⟨p, hp⟩ := hput slots ((slotFilled_ne hkey).1 hs)
    exact ⟨p, by rw [putSlot_ne hkey, hp]; rfl⟩

/-- A slot does not take what its shape refuses. -/
theorem exists_problem_putSlot_self {p : Problem} (h : read n = .error p) (s : Option α × τ) :
    ∃ p, putSlot name read put name n s = .error p := by
  obtain ⟨slot, slots⟩ := s
  rw [putSlot_self]
  cases slot with
  | some v => exact ⟨_, rfl⟩
  | none => exact ⟨p, by rw [h]; rfl⟩

theorem exists_problem_putSlot_ne (hne : key ≠ name)
    (h : ∀ slots, ∃ p, put key n slots = .error p) (s : Option α × τ) :
    ∃ p, putSlot name read put key n s = .error p := by
  obtain ⟨slot, slots⟩ := s
  obtain ⟨p, hp⟩ := h slots
  exact ⟨p, by rw [putSlot_ne hne, hp]; rfl⟩

end Slot

/-- The slot of a name is filled. -/
def Fields.Filled : (fields : Fields) → String → fields.Slots → Prop
  | .done => fun _ _ => False
  | .required name _ rest => SlotFilled name rest.Filled
  | .defaulted name _ rest => SlotFilled name rest.Filled

theorem Fields.put_required (name : String) (shape : Shape) (rest : Fields) (depth : Nat)
    (key : String) (n : Node) (slots : (Fields.required name shape rest).Slots) :
    (Fields.required name shape rest).put depth key n slots =
      putSlot name (shape.read depth) (rest.put depth) key n slots := by
  obtain ⟨slot, slots⟩ := slots
  simp only [Fields.put, putSlot]
  cases slot with
  | none => rfl
  | some v => rfl

theorem Fields.put_defaulted (name : String) (shape : Shape) (rest : Fields) (depth : Nat)
    (key : String) (n : Node) (slots : (Fields.defaulted name shape rest).Slots) :
    (Fields.defaulted name shape rest).put depth key n slots =
      putSlot name (shape.read depth) (rest.put depth) key n slots := by
  obtain ⟨slot, slots⟩ := slots
  simp only [Fields.put, putSlot]
  cases slot with
  | none => rfl
  | some v => rfl

/-- A member that is taken fills its slot. -/
theorem Fields.filled_of_put (depth : Nat) {name : String} {n : Node} : ∀ {fields : Fields},
    name ∈ fields.names → ∀ s s', fields.put depth name n s = .ok s' → fields.Filled name s'
  | .done, hname, _, _, _ => by cases hname
  | .required front shape rest, hname, s, s', h => by
    rw [put_required] at h
    exact slotFilled_self_of_putSlot (fun hne => filled_of_put depth
      (List.mem_of_ne_of_mem hne hname)) h
  | .defaulted front shape rest, hname, s, s', h => by
    rw [put_defaulted] at h
    exact slotFilled_self_of_putSlot (fun hne => filled_of_put depth
      (List.mem_of_ne_of_mem hne hname)) h

/-- A slot that is filled stays filled. -/
theorem Fields.Filled.of_put (depth : Nat) {name key : String} {n : Node} :
    ∀ {fields : Fields} (s s' : fields.Slots), fields.Filled name s →
    fields.put depth key n s = .ok s' → fields.Filled name s'
  | .done, _, _, hs, _ => by cases hs
  | .required front shape rest, s, s', hs, h => by
    rw [put_required] at h
    exact slotFilled_of_putSlot (Fields.Filled.of_put depth) hs h
  | .defaulted front shape rest, s, s', hs, h => by
    rw [put_defaulted] at h
    exact slotFilled_of_putSlot (Fields.Filled.of_put depth) hs h

/-- A member whose slot is filled is refused. -/
theorem Fields.exists_problem_put_of_filled (depth : Nat) {name : String} (n : Node) :
    ∀ {fields : Fields} (s : fields.Slots), fields.Filled name s →
    ∃ p, fields.put depth name n s = .error p
  | .done, _, hs => by cases hs
  | .required front shape rest, s, hs => by
    rw [put_required]
    exact exists_problem_putSlot_of_filled (exists_problem_put_of_filled depth n) hs
  | .defaulted front shape rest, s, hs => by
    rw [put_defaulted]
    exact exists_problem_putSlot_of_filled (exists_problem_put_of_filled depth n) hs

theorem Fields.mem_names_of_mem_members {name : String} {shape : Shape} : ∀ {fields : Fields},
    (name, shape) ∈ fields.members → name ∈ fields.names
  | .done, h => by cases h
  | .required front _ rest, h | .defaulted front _ rest, h => by
    rcases List.mem_cons.1 h with heq | h
    · obtain ⟨rfl, -⟩ := Prod.mk.inj heq
      exact List.mem_cons_self
    · exact List.mem_cons_of_mem _ (mem_names_of_mem_members h)

/-- The shapes of the members of a sound record are sound. -/
theorem Fields.sound_of_mem_members {name : String} {shape : Shape} : ∀ (fields : Fields),
    fields.Sound → (name, shape) ∈ fields.members → shape.Sound
  | .done, _, h => by cases h
  | .required front _ rest, hs, h | .defaulted front _ rest, hs, h => by
    rcases List.mem_cons.1 h with heq | h
    · obtain ⟨-, rfl⟩ := Prod.mk.inj heq
      exact hs.2.1
    · exact rest.sound_of_mem_members hs.2.2 h

/-- A record does not take a member that the member's shape refuses. -/
theorem Fields.exists_problem_put {depth : Nat} {name : String} {shape : Shape} {n : Node}
    (hread : ∃ p, shape.read depth n = .error p) : ∀ {fields : Fields}, fields.Sound →
    (name, shape) ∈ fields.members → ∀ s, ∃ p, fields.put depth name n s = .error p
  | .done, _, h, _ => by cases h
  | .required front _ rest, hs, h, s => by
    rw [put_required]
    rcases List.mem_cons.1 h with heq | h
    · obtain ⟨rfl, rfl⟩ := Prod.mk.inj heq
      obtain ⟨p, hp⟩ := hread
      exact exists_problem_putSlot_self hp s
    · have hne : name ≠ front := fun heq => hs.1 (heq ▸ mem_names_of_mem_members h)
      exact exists_problem_putSlot_ne hne (exists_problem_put hread hs.2.2 h) s
  | .defaulted front _ rest, hs, h, s => by
    rw [put_defaulted]
    rcases List.mem_cons.1 h with heq | h
    · obtain ⟨rfl, rfl⟩ := Prod.mk.inj heq
      obtain ⟨p, hp⟩ := hread
      exact exists_problem_putSlot_self hp s
    · have hne : name ≠ front := fun heq => hs.1 (heq ▸ mem_names_of_mem_members h)
      exact exists_problem_putSlot_ne hne (exists_problem_put hread hs.2.2 h) s

/-! ## Parts of a literal -/

/-- The type or the value of a literal is known. -/
def LiteralParts.Filled (key : String) : LiteralParts → Prop
  | .none => False
  | .typed _ => key = "type"
  | .value _ => key = "value"
  | .both _ => True

/-- What taking a member can do: the type and the value each come once, in either order, and other
members change nothing. -/
theorem LiteralParts.take_cases {depth : Nat} {key : String} {n : Node} {s s' : LiteralParts}
    (h : LiteralParts.take depth key n s = .ok s') :
    (key = "type" ∧ s = .none ∧ ∃ name, s' = .typed name) ∨
      (key = "type" ∧ (∃ kept, s = .value kept) ∧ ∃ v, s' = .both v) ∨
      (key = "value" ∧ s = .none ∧ ∃ kept, s' = .value kept) ∨
      (key = "value" ∧ (∃ name, s = .typed name) ∧ ∃ v, s' = .both v) ∨
      (key ∉ ["type", "value"] ∧ s' = s) := by
  by_cases htype : key = "type"
  · subst htype
    cases s with
    | none =>
      obtain ⟨name, -, rfl⟩ := exists_of_map_eq_ok h
      exact .inl ⟨rfl, rfl, name, rfl⟩
    | value kept =>
      have hbind : ((n.readChoice literalTypes).bind fun name =>
          (readLiteralAs name kept).bind fun v => .ok (.both v)) = .ok s' := h
      cases hname : n.readChoice literalTypes with
      | error p =>
        rw [hname] at hbind
        cases hbind
      | ok name =>
        rw [hname, Except.bind] at hbind
        cases hv : readLiteralAs name kept with
        | error p =>
          rw [hv] at hbind
          cases hbind
        | ok v =>
          rw [hv] at hbind
          exact .inr (.inl ⟨rfl, ⟨kept, rfl⟩, v, (Except.ok.inj hbind).symm⟩)
    | typed name => cases h
    | both v => cases h
  · by_cases hvalue : key = "value"
    · subst hvalue
      cases s with
      | none =>
        obtain ⟨_, -, rfl⟩ := exists_of_map_eq_ok h
        exact .inr (.inr (.inl ⟨rfl, rfl, n, rfl⟩))
      | typed name =>
        obtain ⟨v, -, rfl⟩ := exists_of_map_eq_ok h
        exact .inr (.inr (.inr (.inl ⟨rfl, ⟨name, rfl⟩, v, rfl⟩)))
      | value kept => cases h
      | both v => cases h
    · simp only [LiteralParts.take, beq_iff_eq, htype, hvalue, if_false] at h
      obtain ⟨_, -, rfl⟩ := exists_of_map_eq_ok h
      exact .inr (.inr (.inr (.inr ⟨by simp [htype, hvalue], rfl⟩)))

/-- What is known of a literal after its type or its value was taken. -/
theorem LiteralParts.filled_of_take (depth : Nat) {name : String}
    (hname : name ∈ ["type", "value"]) (n : Node) (s s' : LiteralParts)
    (h : LiteralParts.take depth name n s = .ok s') : s'.Filled name := by
  rcases take_cases h with ⟨rfl, -, _, rfl⟩ | ⟨-, -, _, rfl⟩ | ⟨rfl, -, _, rfl⟩ |
    ⟨-, -, _, rfl⟩ | ⟨hnot, -⟩
  · rfl
  · trivial
  · rfl
  · trivial
  · exact absurd hname hnot

theorem LiteralParts.Filled.of_take (depth : Nat) {name : String} (key : String) (n : Node)
    (s s' : LiteralParts) (hs : s.Filled name) (h : LiteralParts.take depth key n s = .ok s') :
    s'.Filled name := by
  rcases take_cases h with ⟨-, rfl, -⟩ | ⟨-, -, _, rfl⟩ | ⟨-, rfl, -⟩ | ⟨-, -, _, rfl⟩ | ⟨-, rfl⟩
  · cases hs
  · trivial
  · cases hs
  · trivial
  · exact hs

theorem LiteralParts.exists_problem_take (depth : Nat) {name : String}
    (hname : name ∈ ["type", "value"]) (n : Node) (s : LiteralParts) (hs : s.Filled name) :
    ∃ p, LiteralParts.take depth name n s = .error p := by
  cases h : LiteralParts.take depth name n s with
  | error p => exact ⟨p, rfl⟩
  | ok s' =>
    exfalso
    rcases take_cases h with ⟨-, rfl, -⟩ | ⟨rfl, ⟨_, rfl⟩, -⟩ | ⟨-, rfl, -⟩ | ⟨rfl, ⟨_, rfl⟩, -⟩ |
      ⟨hnot, -⟩
    · exact hs
    · exact absurd (show "type" = "value" from hs) (by decide)
    · exact hs
    · exact absurd (show "value" = "type" from hs) (by decide)
    · exact hnot hname

/-! ## Lists -/

/-- A list with an item that is refused is refused. -/
theorem ItemsTree.exists_problem_of_mem {α : Type} {read : Node → Except Problem α} {j : Json}
    (hread : ∀ n, j.Tree n → ∃ p, read n = .error p) {js : List Json} {items : Items}
    (h : ItemsTree js items) (hmem : j ∈ js) : ∃ p, readItems read items = .error p := by
  induction js generalizing items with
  | nil => cases hmem
  | cons j' js ih =>
    cases h with
    | @item _ n _ items hj hjs =>
      cases hn : read n with
      | error p => exact ⟨p, by rw [readItems, hn]⟩
      | ok v =>
        rw [readItems, hn]
        rcases List.mem_cons.1 hmem with rfl | hmem
        · obtain ⟨p, hp⟩ := hread n hj
          rw [hp] at hn
          cases hn
        · obtain ⟨p, hp⟩ := ih hjs hmem
          exact ⟨p, by rw [hp]; rfl⟩

/-- A record that is given as a list is refused where one of its members is. -/
theorem Fields.exists_problem_readList {depth : Nat} {name : String} {shape : Shape} {j : Json}
    (hread : ∀ n, j.Tree n → ∃ p, shape.read depth n = .error p) (title : String) :
    ∀ {fields : Fields} {js : List Json} {items : Items} {i : Nat}, ItemsTree js items →
    fields.members[i]? = some (name, shape) → js[i]? = some j →
    ∀ index, ∃ p, fields.readList title index depth items = .error p
  | .done, _, _, _, _, h, _, _ => by cases h
  | .required front shape' rest, _, _, i, .closed, _, hj, _ => by cases hj
  | .defaulted front shape' rest, _, _, i, .closed, _, hj, _ => by cases hj
  | .required front shape' rest, _, _, i, @ItemsTree.item j' n js items hn hjs, h, hj, index => by
    rw [Fields.readList, nextItem]
    cases hv : shape'.read depth n with
    | error p => exact ⟨p, by simp only [hv]⟩
    | ok v =>
      cases i with
      | zero =>
        obtain ⟨-, rfl⟩ := Prod.mk.inj (Option.some.inj h)
        obtain rfl := Option.some.inj hj
        obtain ⟨p, hp⟩ := hread n hn
        rw [hp] at hv
        cases hv
      | succ i =>
        obtain ⟨p, hp⟩ := rest.exists_problem_readList hread title hjs h hj (index + 1)
        exact ⟨p, by simp only [hv, hp]; rfl⟩
  | .defaulted front shape' rest, _, _, i, @ItemsTree.item j' n js items hn hjs, h, hj, index => by
    rw [Fields.readList, nextItem]
    cases hv : shape'.read depth n with
    | error p => exact ⟨p, by simp only [hv]⟩
    | ok v =>
      cases i with
      | zero =>
        obtain ⟨-, rfl⟩ := Prod.mk.inj (Option.some.inj h)
        obtain rfl := Option.some.inj hj
        obtain ⟨p, hp⟩ := hread n hn
        rw [hp] at hv
        cases hv
      | succ i =>
        obtain ⟨p, hp⟩ := rest.exists_problem_readList hread title hjs h hj (index + 1)
        exact ⟨p, by simp only [hv, hp]; rfl⟩

/-! ## Refusal -/

/-- What repeats a member is not missing. -/
theorem Shape.Repeats.ne_null {shape : Shape} {j : Json} (h : shape.Repeats j) : j ≠ .null := by
  induction h with
  | literal => simp
  | record => simp
  | member => simp
  | listed => simp
  | item => simp
  | nullable _ ih => exact ih

/-- A document in which a known name comes twice in an object is refused, whatever else is in
it. -/
theorem Shape.Repeats.exists_problem {shape : Shape} {j : Json} (h : shape.Repeats j) :
    shape.Sound → ∀ {n : Node}, j.Tree n → ∀ depth, ∃ p, shape.read depth n = .error p := by
  induction h with
  | @literal ms name hname hdup =>
    intro _ n hn depth
    cases hn with
    | @object _ members hms =>
      obtain ⟨p, hp⟩ := hms.exists_problem_of_duplicate
        (LiteralParts.filled_of_take (depth - 1) hname) (LiteralParts.Filled.of_take (depth - 1))
        (LiteralParts.exists_problem_take (depth - 1) hname) hdup .none
      refine ⟨p, ?_⟩
      show (foldMembers (LiteralParts.take (depth - 1)) members .none).bind
        LiteralParts.finish = .error p
      rw [hp]
      rfl
  | @record title fields ms name hname hdup =>
    intro _ n hn depth
    cases hn with
    | @object _ members hms =>
      have hset : ∀ n s s', fields.put (depth - 1) name n s = .ok s' → fields.Filled name s' :=
        fun _ => Fields.filled_of_put (depth - 1) hname
      have hkeep : ∀ key n s s', fields.Filled name s → fields.put (depth - 1) key n s = .ok s' →
          fields.Filled name s' :=
        fun _ _ => Fields.Filled.of_put (depth - 1)
      have htwice : ∀ n s, fields.Filled name s → ∃ p, fields.put (depth - 1) name n s = .error p :=
        fun n _ => Fields.exists_problem_put_of_filled (depth - 1) n _
      obtain ⟨p, hp⟩ := hms.exists_problem_of_duplicate hset hkeep htwice hdup fields.noSlots
      exact ⟨p, by rw [Shape.read_record, hp]⟩
  | @member title fields ms name shape j hfield hmem _ ih =>
    intro hs n hn depth
    have hfields : fields.Sound := hs
    have hshape : shape.Sound := fields.sound_of_mem_members hfields hfield
    cases hn with
    | @object _ members hms =>
      have hput : ∀ n, j.Tree n → ∀ s, ∃ p, fields.put (depth - 1) name n s = .error p :=
        fun n hn => Fields.exists_problem_put (ih hshape hn (depth - 1)) hfields hfield
      obtain ⟨p, hp⟩ := hms.exists_problem_of_mem hmem hput fields.noSlots
      exact ⟨p, by rw [Shape.read_record, hp]⟩
  | @listed title fields js i name shape j hfield hj _ ih =>
    intro hs n hn depth
    have hshape : shape.Sound := fields.sound_of_mem_members hs (List.mem_of_getElem? hfield)
    cases hn with
    | @list _ items hitems =>
      obtain ⟨p, hp⟩ := Fields.exists_problem_readList (fun n hn => ih hshape hn (depth - 1))
        (listTitle title fields.count) hitems hfield hj 0
      exact ⟨p, hp⟩
  | @item item js j hmem _ ih =>
    intro hs n hn depth
    cases hn with
    | @list _ items hitems =>
      obtain ⟨p, hp⟩ := hitems.exists_problem_of_mem (fun n hn => ih hs hn (depth - 1)) hmem
      exact ⟨p, hp⟩
  | @nullable inner j h ih =>
    intro hs n hn depth
    obtain ⟨p, hp⟩ := ih hs.2 hn depth
    have hne : n ≠ .null := by
      rintro rfl
      cases hn
      exact h.ne_null rfl
    exact ⟨p, by rw [Shape.read_nullable hne, hp]; rfl⟩

end QueryPipe.Wire
