import Mathlib.Data.List.Forall2
import QueryPipe.Proofs.Command.Folding
import QueryPipe.Proofs.Query.Masking

/-!
# Values never reach the text

Two pipelines that differ only in the values given to their filters make chains that are equal
when masked. Of a value nothing but one thing can be seen from outside: whether a filter without
a type was given the missing value.

* `GrepRequest.SameButValue`, `SameButValue`: requests and tools that differ only in values.
* `SameButValue.masked_condition`: the conditions of two such requests are equal when masked.
* `SameButValue.masked_apply`: one tool of either pipeline keeps the masked chains equal.
* `sameText_of_applyAll`: the statements of two such pipelines.
-/

namespace QueryPipe

namespace Chain

theorem push_inj {c d : Chain} {p q : Plan} : c.push p = d.push q ↔ c = d ∧ p = q := by
  obtain ⟨plans⟩ := c
  obtain ⟨plans'⟩ := d
  simp [push]

/-- Masking neither empties nor fills a chain. -/
theorem masked_eq_empty_iff {c : Chain} : c.masked = .empty ↔ c = .empty := by
  obtain ⟨plans⟩ := c
  simp [masked, empty]

end Chain

namespace Command

namespace GrepRequest

/-- Whether the type of the value is left open. -/
def IsUntyped (g : GrepRequest) : Prop := g.integer = false ∧ g.text = false

/-- Requests that differ only in the value, given with the switch or as the last operand. Where
the type is left open, both values are the missing one or neither is. -/
inductive SameButValue : GrepRequest → GrepRequest → Prop
  /-- The value is given with the switch. -/
  | switch (g : GrepRequest) (v w : String) (h : g.IsUntyped → (v = "NULL" ↔ w = "NULL")) :
    SameButValue { g with value? := some v } { g with value? := some w }
  /-- The value is the last operand. -/
  | operand (g : GrepRequest) (front : List String) (v w : String)
    (h : g.IsUntyped → (v = "NULL" ↔ w = "NULL")) :
    SameButValue { g with value? := none, operands := front ++ [v] }
      { g with value? := none, operands := front ++ [w] }

/-! ## Conditions -/

/-- What is given with the switch is the value. -/
theorem comparison_switch {g : GrepRequest} {v : String} {c : Comparison}
    (h : { g with value? := some v }.comparison = .ok c) (w : String) :
    c.value = v ∧ { g with value? := some w }.comparison = .ok { c with value := w } := by
  have hplace (u : String) : { g with value? := some u }.fieldAndRest? = g.fieldAndRest? := rfl
  unfold comparison at h ⊢
  rw [hplace] at h ⊢
  cases hrest : g.fieldAndRest? with
  | none => simp [hrest] at h
  | some place =>
    obtain ⟨field, rest⟩ := place
    cases rest with
    | nil =>
      simp only [hrest, Except.ok.injEq] at h ⊢
      subst h
      exact ⟨rfl, rfl⟩
    | cons operand rest => simp [hrest] at h

/-- The last operand is the value. -/
theorem comparison_operand {g : GrepRequest} {front : List String} {v : String} {c : Comparison}
    (h : { g with value? := none, operands := front ++ [v] }.comparison = .ok c) (w : String) :
    c.value = v ∧ { g with value? := none, operands := front ++ [w] }.comparison =
      .ok { c with value := w } := by
  -- an operand that has to name the column leaves none for the value
  have hplace : ∃ field rest, ∀ u,
      { g with value? := none, operands := front ++ [u] }.fieldAndRest? =
        some (field, rest ++ [u]) := by
    cases hfield : g.field? with
    | some field => exact ⟨field, front, fun u => by simp [fieldAndRest?]⟩
    | none =>
      cases front with
      | nil => simp [comparison, fieldAndRest?, hfield] at h
      | cons field front => exact ⟨field, front, fun u => by simp [fieldAndRest?]⟩
  obtain ⟨field, rest, hplace⟩ := hplace
  unfold comparison at h ⊢
  rw [hplace] at h ⊢
  match rest, hpredicate : g.predicate? with
  | [], predicate? =>
    simp only [List.nil_append, Except.ok.injEq] at h ⊢
    subst h
    exact ⟨rfl, by rw [hpredicate]⟩
  | [predicate], none =>
    simp only [List.cons_append, List.nil_append, hpredicate, Except.ok.injEq] at h ⊢
    subst h
    exact ⟨rfl, rfl⟩
  | [predicate], some _ => simp [hpredicate] at h
  | _ :: _ :: rest, _ => cases rest <;> simp at h

/-- Filters that differ in their value name the same column and the same predicate. -/
theorem SameButValue.comparison {g h : GrepRequest} (hsame : g.SameButValue h) {c d : Comparison}
    (hc : g.comparison = .ok c) (hd : h.comparison = .ok d) :
    c.field = d.field ∧ c.predicate? = d.predicate? ∧
      (g.IsUntyped → (c.value = "NULL" ↔ d.value = "NULL")) := by
  cases hsame with
  | switch g v w hnull =>
    obtain ⟨rfl, hw⟩ := comparison_switch hc w
    obtain rfl : { c with value := w } = d := Except.ok.inj (hw.symm.trans hd)
    exact ⟨rfl, rfl, hnull⟩
  | operand g front v w hnull =>
    obtain ⟨rfl, hw⟩ := comparison_operand hc w
    obtain rfl : { c with value := w } = d := Except.ok.inj (hw.symm.trans hd)
    exact ⟨rfl, rfl, hnull⟩

theorem SameButValue.flags {g h : GrepRequest} (hsame : g.SameButValue h) :
    g.integer = h.integer ∧ g.text = h.text := by
  cases hsame <;> exact ⟨rfl, rfl⟩

/-- The usual comparison, and whether the value is missing, do not depend on the value. -/
theorem SameButValue.literal {g h : GrepRequest} (hsame : g.SameButValue h) {v w : String}
    (hnull : g.IsUntyped → (v = "NULL" ↔ w = "NULL")) {usual usual' : String} {a b : Literal}
    (ha : g.literal v = .ok (usual, a)) (hb : h.literal w = .ok (usual', b)) :
    usual = usual' ∧ a.masked = b.masked := by
  obtain ⟨hinteger, htext⟩ := hsame.flags
  unfold GrepRequest.literal at ha hb
  rw [← hinteger, ← htext] at hb
  cases hi : g.integer with
  | true =>
    simp only [hi, if_true] at ha hb
    cases hn : Numeral.Whole.readInt64 (Text.trim v) with
    | error problem => simp [hn] at ha
    | ok n =>
      cases hm : Numeral.Whole.readInt64 (Text.trim w) with
      | error problem => simp [hm] at hb
      | ok m =>
        simp only [hn, hm, Except.ok.injEq, Prod.mk.injEq] at ha hb
        obtain ⟨rfl, rfl⟩ := ha
        obtain ⟨rfl, rfl⟩ := hb
        exact ⟨rfl, rfl⟩
  | false =>
    cases ht : g.text with
    | true =>
      simp only [hi, ht, Bool.false_eq_true, if_false, if_true, Except.ok.injEq,
        Prod.mk.injEq] at ha hb
      obtain ⟨rfl, rfl⟩ := ha
      obtain ⟨rfl, rfl⟩ := hb
      exact ⟨rfl, rfl⟩
    | false =>
      have hmissing : (Literal.untyped v).isNull = (Literal.untyped w).isNull := by
        rw [Bool.eq_iff_iff, Literal.isNull, Literal.isNull, beq_iff_eq, beq_iff_eq]
        exact hnull ⟨hi, ht⟩
      simp only [hi, ht, Bool.false_eq_true, if_false, hmissing, Except.ok.injEq,
        Prod.mk.injEq] at ha hb
      obtain ⟨rfl, rfl⟩ := ha
      obtain ⟨rfl, rfl⟩ := hb
      exact ⟨rfl, Literal.masked_congr hmissing⟩

/-- A condition is made of a comparison and of a literal for its value. -/
theorem condition_eq_ok_iff {g : GrepRequest} {k : Condition} :
    g.condition = .ok k ↔ ∃ c usual v, g.comparison = .ok c ∧ g.literal c.value = .ok (usual, v) ∧
      k = { column := c.field, predicate := c.predicate?.getD usual, value := v } := by
  unfold condition
  cases g.comparison with
  | error problem => simp [bind, Except.bind]
  | ok c =>
    cases hliteral : g.literal c.value with
    | error problem => simp [bind, Except.bind, hliteral]
    | ok value =>
      simp only [bind, Except.bind, hliteral, pure, Except.pure, Except.ok.injEq]
      constructor
      · rintro rfl
        exact ⟨c, value.1, value.2, rfl, hliteral, rfl⟩
      · rintro ⟨c', usual, v, rfl, hv, rfl⟩
        obtain rfl : value = (usual, v) := Except.ok.inj (hliteral.symm.trans hv)
        rfl

/-- Filters that differ in their value have the same condition but for the value. -/
theorem SameButValue.masked_condition {g h : GrepRequest} (hsame : g.SameButValue h)
    {k l : Condition} (hk : g.condition = .ok k) (hl : h.condition = .ok l) :
    k.masked = l.masked := by
  obtain ⟨c, usual, v, hc, hv, rfl⟩ := condition_eq_ok_iff.1 hk
  obtain ⟨d, usual', w, hd, hw, rfl⟩ := condition_eq_ok_iff.1 hl
  obtain ⟨hfield, hpredicate, hnull⟩ := hsame.comparison hc hd
  obtain ⟨rfl, hvalue⟩ := hsame.literal hnull hv hw
  simp only [Condition.masked, hfield, hpredicate, hvalue]

end GrepRequest

namespace Tool

/-! ## Tools -/

/-- Tools that differ only in the value given to a filter. -/
inductive SameButValue : Tool → Tool → Prop
  /-- The same tool. -/
  | same (t : Tool) : SameButValue t t
  /-- Two filters. -/
  | filter {g h : GrepRequest} (hsame : g.SameButValue h) : SameButValue (.grep g) (.grep h)

/-- Tools that differ in a value have the same source. -/
theorem SameButValue.source? {t u : Tool} (h : t.SameButValue u) : t.source? = u.source? := by
  cases h <;> rfl

/-- What a filter does to a plan is to add its condition. -/
theorem effect_grep {r : GrepRequest} {c : Condition} (h : r.condition = .ok c) (p : Plan) :
    (Tool.grep r).effect p = p.addCondition c := by
  simp [effect, h, Plan.addCondition]

/-- A tool with no value looks at none. -/
theorem masked_effect {t : Tool} (h : ∀ r, t ≠ .grep r) (p : Plan) :
    (t.effect p).masked = t.effect p.masked := by
  cases t with
  | grep r => exact absurd rfl (h r)
  | _ => rfl

theorem masked_effect_grep {r : GrepRequest} {k : Condition} (h : r.condition = .ok k) (p : Plan) :
    ((Tool.grep r).effect p).masked = p.masked.addCondition k.masked := by
  rw [effect_grep h, Plan.masked_addCondition]

/-- Tools that differ in a value change plans alike but for the value. -/
theorem SameButValue.masked_effect {t u : Tool} (h : t.SameButValue u) {p q : Plan}
    (ht : t.Fits p) (hu : u.Fits q) (hpq : p.masked = q.masked) :
    (t.effect p).masked = (u.effect q).masked := by
  cases h with
  | filter hsame =>
    obtain ⟨k, hk⟩ := ht
    obtain ⟨l, hl⟩ := hu
    rw [masked_effect_grep hk, masked_effect_grep hl, hsame.masked_condition hk hl, hpq]
  | same t =>
    by_cases hgrep : ∃ r, t = .grep r
    · obtain ⟨r, rfl⟩ := hgrep
      obtain ⟨k, hk⟩ := ht
      rw [masked_effect_grep hk, masked_effect_grep hk, hpq]
    · rw [not_exists] at hgrep
      rw [Tool.masked_effect hgrep, Tool.masked_effect hgrep, hpq]

/-! ## Two runs -/

/-- Tools that differ in a value take chains alike to chains alike. -/
theorem SameButValue.masked_apply {t u : Tool} (h : t.SameButValue u) {c d c' d' : Chain}
    (hcd : c.masked = d.masked) (hc : t.apply c = .ok c') (hd : u.apply d = .ok d') :
    c'.masked = d'.masked := by
  rcases apply_cases hc with ⟨s, hs, rfl⟩ | ⟨ht, init, p, rfl, hp, rfl⟩ | ⟨r, rfl, rfl, rfl⟩
  · obtain rfl : d.push s.opening = d' :=
      Except.ok.inj ((apply_of_source (h.source? ▸ hs) d).symm.trans hd)
    rw [Chain.masked_push, Chain.masked_push, hcd]
  · have hu : u.startsStage = false :=
      source?_eq_none_iff.1 (h.source? ▸ source?_eq_none_iff.2 ht)
    rcases d.eq_empty_or_push with rfl | ⟨init', q, rfl⟩
    · exact absurd (Chain.masked_eq_empty_iff.1 hcd) (Chain.push_ne_empty init p)
    · obtain ⟨hq, rfl⟩ := (apply_push_eq_ok_iff hu).1 hd
      rw [Chain.masked_push, Chain.masked_push, Chain.push_inj] at hcd
      rw [Chain.masked_push, Chain.masked_push, hcd.1, h.masked_effect hp hq hcd.2]
  · cases h
    obtain rfl : d = d' := Except.ok.inj hd
    exact hcd

/-- Two runs of tools that differ only in values, from chains that are equal when masked. -/
theorem masked_applyAll {tools others : List Tool} (h : List.Forall₂ SameButValue tools others)
    {c d c' d' : Chain} (hcd : c.masked = d.masked) (hc : applyAll tools c = .ok c')
    (hd : applyAll others d = .ok d') : c'.masked = d'.masked := by
  induction h generalizing c d with
  | nil =>
    cases hc
    cases hd
    exact hcd
  | cons hhead _ ih =>
    obtain ⟨e, he, hc⟩ := applyAll_cons_eq_ok_iff.1 hc
    obtain ⟨f, hf, hd⟩ := applyAll_cons_eq_ok_iff.1 hd
    exact ih (hhead.masked_apply hcd he hf) hc hd

/-- Pipelines that differ only in the values given to filters, and that both give a chain, have
statements that differ in nothing but the values of parameters. -/
theorem sameText_of_applyAll {tools others : List Tool} {c d : Chain}
    (h : List.Forall₂ SameButValue tools others) (hc : applyAll tools .empty = .ok c)
    (hd : applyAll others .empty = .ok d) : c.SameText d :=
  Chain.sameText_of_masked_eq (masked_applyAll h rfl hc hd)

/-- Two filters, one with its value after a switch and one with it as an operand; the other
pipeline has texts in their place that look like statements. -/
theorem sameText_of_two_filters :
    ∃ c d,
      applyAll
        [.cat { datasets := ["people"] }, .grep { field? := some "name", value? := some "Ann" },
          .grep { text := true, operands := ["city", "=", "NULL"] }] .empty = .ok c ∧
      applyAll
        [.cat { datasets := ["people"] },
          .grep { field? := some "name", value? := some "x' OR 1 = 1 --" },
          .grep { text := true, operands := ["city", "=", "?; DROP TABLE people"] }]
        .empty = .ok d ∧
      c.SameText d := by
  have hname : GrepRequest.SameButValue { field? := some "name", value? := some "Ann" }
      { field? := some "name", value? := some "x' OR 1 = 1 --" } :=
    .switch { field? := some "name" } "Ann" "x' OR 1 = 1 --" fun _ => by decide
  have hcity : GrepRequest.SameButValue { text := true, operands := ["city", "=", "NULL"] }
      { text := true, operands := ["city", "=", "?; DROP TABLE people"] } :=
    .operand { text := true } ["city", "="] "NULL" "?; DROP TABLE people" fun h => by cases h.2
  exact ⟨_, _, rfl, rfl, sameText_of_applyAll
    (.cons (.same (.cat { datasets := ["people"] }))
      (.cons (.filter hname) (.cons (.filter hcity) .nil))) rfl rfl⟩

end Tool

end Command

end QueryPipe
