import QueryPipe.Proofs.Query.ChainDraft

/-!
# The names of a statement

A statement draws one name for each stage without an alias and one for each row source without
one. The names stand in the text in the order in which they are drawn, and none stands twice. A
chain that fails keeps the names it drew on the way.

* `Chain.slots_draft`: where a statement has names.
* `openNames_slotNames`: the names at open slots are the next names of the supply.
* `Chain.render_naming`: which names rendering a chain draws, and where it puts them.
-/

namespace QueryPipe

/-! ## Open slots -/

/-- The names at the slots that the chain leaves open. -/
def openNames (slots : List Slot) (names : List String) : List String :=
  ((slots.zip names).filter fun place => place.1.isOpen).map Prod.snd

/-- The names at open slots are the next names of the supply. -/
theorem openNames_slotNames (slots : List Slot) (supply : AliasSupply) :
    openNames slots (slotNames slots supply) = supply.take (openSlots slots) := by
  induction slots generalizing supply with
  | nil => rfl
  | cons slot slots ih =>
    rw [openSlots_cons, AliasSupply.take_add, ← ih, slotNames, ← AliasSupply.resolve_snd]
    obtain ⟨plan, role, _ | name⟩ := slot
    · rfl
    · rfl

/-- A name that is given is the one that is used. -/
theorem slotNames_given {slots : List Slot} {supply : AliasSupply} {slot : Slot}
    {name given : String} (h : (slot, name) ∈ slots.zip (slotNames slots supply))
    (hgiven : slot.alias? = some given) : name = given := by
  induction slots generalizing supply with
  | nil => simp [slotNames] at h
  | cons head slots ih =>
    rw [slotNames, List.zip_cons_cons, List.mem_cons] at h
    rcases h with h | h
    · obtain ⟨rfl, rfl⟩ := Prod.mk.inj h
      rw [hgiven]
      rfl
    · exact ih h

/-! ## Where names stand -/

/-- The slots of the plan at an index among `total`: its stage unless it is last, its row source
unless it is raw. -/
def Plan.slots (total index : Nat) (p : Plan) : List Slot :=
  (if index + 1 < total then [⟨index, .stage, p.alias?⟩] else []) ++
    (if p.raw.isSome then [] else [⟨index, .source, p.alias?⟩])

/-- The slots of stages are those of each stage in turn. -/
theorem slots_draftFrom {plans : List Plan} (h : ∀ p ∈ plans, p.IsReadable) (index : Nat)
    (lead : String) :
    (draftFrom index lead plans).slots =
      (plans.zipIdx index).flatMap fun place =>
        place.1.slots (index + plans.length) place.2 := by
  induction plans generalizing index lead with
  | nil => rfl
  | cons p rest ih =>
    have hp : p.IsReadable := h p (by simp)
    cases rest with
    | nil => simp [draftFrom, p.slots_draft hp, Plan.slots]
    | cons next rest =>
      have hrest := ih (fun q hq => h q (List.mem_cons_of_mem _ hq)) (index + 1) ", "
      have htotal : index + 1 + (next :: rest).length = index + (p :: next :: rest).length := by
        simp only [List.length_cons]
        omega
      have hstage : index + 1 < index + (p :: next :: rest).length := by
        simp only [List.length_cons]
        omega
      have hplan : p.slots (index + (p :: next :: rest).length) index =
          ⟨index, .stage, p.alias?⟩ :: (p.draft index).slots := by
        rw [Plan.slots, if_pos hstage, p.slots_draft hp]
        rfl
      rw [slots_draftFrom_cons, hrest, htotal, ← List.cons_append, ← hplan]
      rfl

/-- Where a statement has names. -/
theorem Chain.slots_draft {c : Chain} (h : ∀ p ∈ c.plans, p.IsReadable) :
    c.draft.slots = c.plans.zipIdx.flatMap fun place =>
      place.1.slots c.plans.length place.2 := by
  rw [Chain.draft, slots_draftFrom h, Nat.zero_add]

/-- The open slots are the stages without a name, and the sources without one. -/
theorem openSlots_draftFrom {plans : List Plan} (h : ∀ p ∈ plans, p.IsReadable) (index : Nat)
    (lead : String) :
    openSlots (draftFrom index lead plans).slots =
      unnamedStages plans.dropLast + unnamedSources plans := by
  induction plans generalizing index lead with
  | nil => rfl
  | cons p rest ih =>
    have hp : p.IsReadable := h p (by simp)
    cases rest with
    | nil =>
      rw [draftFrom, p.openSlots_draft hp, unnamedSources_cons, List.dropLast_singleton]
      exact (Nat.zero_add _).symm
    | cons next rest =>
      have hrest := ih (fun q hq => h q (List.mem_cons_of_mem _ hq)) (index + 1) ", "
      rw [slots_draftFrom_cons, openSlots_cons, openSlots_append, hrest, p.openSlots_draft hp,
        List.dropLast_cons_cons, unnamedStages_cons, unnamedSources_cons p]
      simp only
      omega

namespace Chain

/-! ## Rendering -/

/-- The first unreadable stage is reported, and the names before it are drawn. -/
theorem render_at_fault {c : Chain} {k : Nat} {p : Plan} (hk : c.plans[k]? = some p)
    (hbefore : ∀ q ∈ c.plans.take k, q.IsReadable) (hp : ¬ p.IsReadable) (supply : AliasSupply) :
    c.render supply =
      (.error (.stage k p.fault),
        supply.skip (unnamedStages (c.plans.take k) + unnamedSources (c.plans.take k) +
          if k + 1 < c.plans.length ∧ p.alias? = none then 1 else 0)) := by
  obtain ⟨hlt, hget⟩ := List.getElem?_eq_some_iff.1 hk
  have hc : c.plans = c.plans.take k ++ p :: c.plans.drop (k + 1) := by
    rw [← hget, ← List.drop_eq_getElem_cons hlt, List.take_append_drop]
  have hlength : (c.plans.take k).length = k := List.length_take_of_le (Nat.le_of_lt hlt)
  have hlast : (if (c.plans.drop (k + 1)).isEmpty then 0 else AliasSupply.drawsFor p.alias?) =
      if k + 1 < c.plans.length ∧ p.alias? = none then 1 else 0 := by
    by_cases hmore : k + 1 < c.plans.length
    · have hne : (c.plans.drop (k + 1)).isEmpty = false := by simpa using hmore
      simp [hne, hmore, AliasSupply.drawsFor]
    · have hnil : c.plans.drop (k + 1) = [] := List.drop_eq_nil_of_le (Nat.le_of_not_lt hmore)
      simp [hnil, hmore]
  rw [render_eq_fault hc hbefore hp, hlength, hlast]

/-- Which names rendering a chain draws, and where it puts them. -/
theorem render_naming (c : Chain) (supply : AliasSupply) :
    ((∃ q, (c.render supply).1 = .ok q) ↔ c.plans ≠ [] ∧ ∀ p ∈ c.plans, p.IsReadable) ∧
    (c.plans = [] → c.render supply = (.error .empty, supply)) ∧
    (∀ k p, c.plans[k]? = some p → (∀ q ∈ c.plans.take k, q.IsReadable) → ¬ p.IsReadable →
      c.render supply =
        (.error (.stage k p.fault),
          supply.skip (unnamedStages (c.plans.take k) + unnamedSources (c.plans.take k) +
            if k + 1 < c.plans.length ∧ p.alias? = none then 1 else 0))) ∧
    (∀ q, (c.render supply).1 = .ok q →
      ∃ names, q.text = c.draft.write names ∧
        c.draft.slots = c.plans.zipIdx.flatMap (fun place =>
          place.1.slots c.plans.length place.2) ∧
        names.length = c.draft.slots.length ∧
        (∀ slot name given, (slot, name) ∈ c.draft.slots.zip names →
          slot.alias? = some given → name = given) ∧
        openNames c.draft.slots names =
          (List.range (unnamedStages c.plans.dropLast + unnamedSources c.plans)).map
            (fun k => AliasSupply.nameAt supply.stem (supply.counter + k)) ∧
        (openNames c.draft.slots names).Nodup ∧
        (c.render supply).2 =
          supply.skip (unnamedStages c.plans.dropLast + unnamedSources c.plans)) := by
  refine ⟨c.render_isOk_iff supply, fun h => render_empty h supply,
    fun k p hk hbefore hp => render_at_fault hk hbefore hp supply, ?_⟩
  intro q hq
  obtain ⟨hne, h⟩ := (c.render_isOk_iff supply).1 ⟨q, hq⟩
  have hcount : openSlots c.draft.slots =
      unnamedStages c.plans.dropLast + unnamedSources c.plans := openSlots_draftFrom h 0 "WITH "
  rw [render_eq_write hne h] at hq ⊢
  obtain rfl := Except.ok.inj hq
  refine ⟨slotNames c.draft.slots supply, rfl, slots_draft h, length_slotNames _ _, ?_, ?_, ?_, ?_⟩
  · intro slot name given hmem hgiven
    exact slotNames_given hmem hgiven
  · rw [openNames_slotNames, hcount, AliasSupply.take_eq_map]
  · rw [openNames_slotNames]
    exact AliasSupply.nodup_take _ _
  · rw [hcount]

example :
    (Chain.render ⟨[{ select := some (.allOf "a") }, { select := some (.allOf "b") }]⟩ {}).1 =
      .ok ⟨"WITH t1 AS (SELECT * FROM a AS t2) SELECT * FROM b AS t3", []⟩ := by decide

end Chain

end QueryPipe
