import QueryPipe.Proofs.Query.AliasSupply
import QueryPipe.Query.Plan

/-!
# Drafts of statements

A statement is laid out before its names are known. Its draft is a row of pieces: words that are
written as they stand, slots for the names of stages and row sources, and comparisons that end in
a placeholder. A supply then names the slots from left to right, and writing the draft under these
names gives the text.

* `slotNames_append`: slots are named one after the other from one supply.
* `Draft.text_append`: a draft is written piece by piece, each with the supply its predecessors
  leave.
-/

namespace QueryPipe

/-! ## Pieces -/

/-- What a name in a statement belongs to. -/
inductive Role
  /-- The stage that a plan other than the last becomes. -/
  | stage
  /-- The tables that a plan selects from. -/
  | source
  deriving DecidableEq, Repr

/-- A place for a name. -/
structure Slot where
  /-- The index of the plan in its chain. -/
  plan : Nat
  /-- What the name belongs to. -/
  role : Role
  /-- The name itself, when the chain gives it. -/
  alias? : Option String
  deriving DecidableEq, Repr

/-- Whether a slot takes its name from the supply. -/
def Slot.isOpen (slot : Slot) : Bool := slot.alias?.isNone

/-- A piece of a draft. -/
inductive Piece
  /-- Words written as they stand. -/
  | words (s : String)
  /-- A place for a name. -/
  | slot (slot : Slot)
  /-- A comparison with a value that travels beside the text. -/
  | comparison (c : Condition)
  deriving DecidableEq, Repr

/-- The text of a comparison in front of its placeholder. -/
def Condition.lead (c : Condition) : String := c.column ++ " " ++ c.predicate ++ " "

/-- A statement whose names are still open. -/
abbrev Draft := List Piece

namespace Draft

/-- The slots of a draft, in the order of the text. -/
def slots (d : Draft) : List Slot :=
  d.filterMap fun | .slot slot => some slot | _ => none

/-- The comparisons of a draft, in the order of the text. -/
def comparisons (d : Draft) : List Condition :=
  d.filterMap fun | .comparison c => some c | _ => none

/-- The text of a draft, given a name for each slot. -/
def write : Draft → List String → String
  | [], _ => ""
  | .words s :: rest, names => s ++ write rest names
  | .comparison c :: rest, names => c.lead ++ "?" ++ write rest names
  | .slot _ :: rest, names => names.headD "" ++ write rest names.tail

/-- The parameters of a draft: the column and the value of each comparison. -/
def params (d : Draft) : List Parameter := d.comparisons.map fun c => ⟨c.column, c.value⟩

/-- Drafts with words between neighbours. -/
def joined (joint : String) : List Draft → Draft
  | [] => []
  | [part] => part
  | part :: next :: rest => part ++ .words joint :: joined joint (next :: rest)

end Draft

/-! ## Naming slots -/

/-- The names of slots: given ones as they are, all others drawn from left to right. -/
def slotNames : List Slot → AliasSupply → List String
  | [], _ => []
  | slot :: rest, supply =>
    (supply.resolve slot.alias?).1 :: slotNames rest (supply.resolve slot.alias?).2

/-- The number of names that slots draw. -/
def openSlots (slots : List Slot) : Nat := slots.countP Slot.isOpen

theorem length_slotNames (slots : List Slot) (supply : AliasSupply) :
    (slotNames slots supply).length = slots.length := by
  induction slots generalizing supply with
  | nil => rfl
  | cons slot slots ih => rw [slotNames, List.length_cons, ih, List.length_cons]

theorem openSlots_cons (slot : Slot) (slots : List Slot) :
    openSlots (slot :: slots) = AliasSupply.drawsFor slot.alias? + openSlots slots := by
  rw [openSlots, List.countP_cons, openSlots, AliasSupply.drawsFor, Slot.isOpen, Nat.add_comm]

/-- The open slots of two drafts add up. -/
theorem openSlots_append (slots others : List Slot) :
    openSlots (slots ++ others) = openSlots slots + openSlots others := List.countP_append

/-- The slots behind get their names after those in front. -/
theorem slotNames_append (slots others : List Slot) (supply : AliasSupply) :
    slotNames (slots ++ others) supply =
      slotNames slots supply ++ slotNames others (supply.skip (openSlots slots)) := by
  induction slots generalizing supply with
  | nil => rfl
  | cons slot slots ih =>
    rw [List.cons_append, slotNames, ih, slotNames, List.cons_append, AliasSupply.resolve_snd,
      AliasSupply.skip_skip, openSlots_cons]

/-! ## Writing drafts piece by piece -/

namespace Draft

@[simp] theorem slots_words (s : String) (d : Draft) : slots (.words s :: d) = slots d := rfl

@[simp] theorem slots_slot (slot : Slot) (d : Draft) :
    slots (.slot slot :: d) = slot :: slots d := rfl

theorem slots_append (d e : Draft) : slots (d ++ e) = slots d ++ slots e := List.filterMap_append

@[simp] theorem comparisons_words (s : String) (d : Draft) :
    comparisons (.words s :: d) = comparisons d := rfl

@[simp] theorem comparisons_comparison (c : Condition) (d : Draft) :
    comparisons (.comparison c :: d) = c :: comparisons d := rfl

@[simp] theorem comparisons_slot (slot : Slot) (d : Draft) :
    comparisons (.slot slot :: d) = comparisons d := rfl

theorem comparisons_append (d e : Draft) :
    comparisons (d ++ e) = comparisons d ++ comparisons e := List.filterMap_append

/-- Names that are exactly enough for a draft leave the next draft its own. -/
theorem write_append (d e : Draft) {names others : List String}
    (h : names.length = d.slots.length) :
    (d ++ e).write (names ++ others) = d.write names ++ e.write others := by
  induction d generalizing names with
  | nil =>
    rw [List.eq_nil_of_length_eq_zero h, List.nil_append, List.nil_append, write,
      String.empty_append]
  | cons piece d ih =>
    cases piece with
    | words s => rw [List.cons_append, write, ih h, write, String.append_assoc]
    | comparison c =>
      rw [List.cons_append, write, ih h, write, ← String.append_assoc]
    | slot slot =>
      cases names with
      | nil => simp at h
      | cons name names =>
        have h' : names.length = (slots d).length := by simpa using h
        rw [List.cons_append, write, write, List.cons_append, List.headD_cons, List.tail_cons,
          List.headD_cons, List.tail_cons, ih h', String.append_assoc]

/-- The text of a draft when a supply names its slots. -/
def text (d : Draft) (supply : AliasSupply) : String := d.write (slotNames d.slots supply)

/-- The text of two drafts is one text after the other, each with its own names. -/
theorem text_append (d e : Draft) (supply : AliasSupply) :
    (d ++ e).text supply = d.text supply ++ e.text (supply.skip (openSlots d.slots)) := by
  rw [text, slots_append, slotNames_append, write_append d e (length_slotNames _ _), text, text]

/-- The query of a draft when a supply names its slots. -/
def query (d : Draft) (supply : AliasSupply) : Query := ⟨d.text supply, d.params⟩

@[simp] theorem text_nil (supply : AliasSupply) : text [] supply = "" := rfl

theorem text_words (s : String) (d : Draft) (supply : AliasSupply) :
    text (.words s :: d) supply = s ++ text d supply := rfl

theorem text_comparison (c : Condition) (d : Draft) (supply : AliasSupply) :
    text (.comparison c :: d) supply = c.lead ++ "?" ++ text d supply := rfl

theorem text_slot (slot : Slot) (d : Draft) (supply : AliasSupply) :
    text (.slot slot :: d) supply =
      (supply.resolve slot.alias?).1 ++ text d (supply.resolve slot.alias?).2 := rfl

/-- A draft without slots reads the same under every supply. -/
theorem text_of_slots_eq_nil {d : Draft} (h : d.slots = []) (supply other : AliasSupply) :
    d.text supply = d.text other := by
  rw [text, text, h]
  rfl

/-- A draft that is joined of parts is written as its parts, joined. -/
theorem text_joined (joint : String) (parts : List Draft) (supply : AliasSupply)
    (h : ∀ d ∈ parts.tail, d.slots = []) :
    (joined joint parts).text supply = Text.joined joint (parts.map (·.text supply)) := by
  induction parts generalizing supply with
  | nil => rfl
  | cons d parts ih =>
    cases parts with
    | nil => rfl
    | cons e parts =>
      have hrest := ih (supply.skip (openSlots d.slots))
        fun d' hd' => h d' (List.mem_cons_of_mem _ hd')
      have hmap : (e :: parts).map (·.text (supply.skip (openSlots d.slots))) =
          (e :: parts).map (·.text supply) :=
        List.map_congr_left fun d' hd' => text_of_slots_eq_nil (h d' hd') _ _
      rw [joined, text_append, text_words, hrest, hmap]
      simp only [List.map_cons, Text.joined, String.append_assoc]

/-- Words between drafts add neither slots nor comparisons. -/
theorem filterMap_joined {α : Type} {f : Piece → Option α} (hf : ∀ s, f (.words s) = none)
    (joint : String) (parts : List Draft) :
    (joined joint parts).filterMap f = parts.flatMap (·.filterMap f) := by
  induction parts with
  | nil => rfl
  | cons d parts ih =>
    cases parts with
    | nil => simp [joined]
    | cons e parts =>
      rw [joined, List.filterMap_append, List.filterMap_cons_none (hf joint), ih]
      rfl

theorem slots_joined (joint : String) (parts : List Draft) :
    (joined joint parts).slots = parts.flatMap slots := filterMap_joined (fun _ => rfl) joint parts

theorem comparisons_joined (joint : String) (parts : List Draft) :
    (joined joint parts).comparisons = parts.flatMap comparisons :=
  filterMap_joined (fun _ => rfl) joint parts

end Draft

end QueryPipe
