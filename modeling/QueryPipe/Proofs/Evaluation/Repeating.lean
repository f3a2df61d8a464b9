import QueryPipe.Evaluation.Connection
import QueryPipe.Proofs.Evaluation.Execution

/-!
# Asking twice

Two databases with the same contents need not give the same answers: a statement may look at a
clock, or draw at random. What answers a chain relies on when it is evaluated a second time is said
here of the few texts that the chain asks for, over any relation between states. Such a chain gets
as far the second time as it got the first time, and with the same columns and parameters.

* `Connection.Repeats`: the texts of a query are answered alike from states that are alike.
* `Connection.describeSources_alike`: then the row sources are typed alike.
* `Preparation.Succeeds.again`: then all goes well again up to the opening of the sink.
-/

namespace QueryPipe.Evaluation

variable {δ : Type}

/-- Two answers are the same, and leave states behind that are alike. -/
def SameAnswer {α : Type} (alike : δ → δ → Prop) (answer answer' : α × δ) : Prop :=
  answer.1 = answer'.1 ∧ alike answer.2 answer'.2

namespace Connection

/-- A connection answers the statement of a query, and that of its row sources, alike from states
that are alike. This fails for statements with a random number or the time in them. -/
structure Repeats (c : Connection δ) (alike : δ → δ → Prop) (statement probe : String) : Prop where
  /-- The row sources have the same columns. -/
  sources : ∀ e e', alike e e' → SameAnswer alike (c.columns probe e) (c.columns probe e')
  /-- The first value in each of them is the same. -/
  samples : ∀ column e e', alike e e' →
    SameAnswer alike (c.first? (sampleScript probe column) e)
      (c.first? (sampleScript probe column) e')
  /-- The statement has the same columns. -/
  columns : ∀ e e', alike e e' → SameAnswer alike (c.columns statement e) (c.columns statement e')
  /-- It comes to the same rows. -/
  rows : ∀ params e e', alike e e' → (c.fetch statement params e).1 = (c.fetch statement params e').1

/-- A connection answers a chain alike from states that are alike. -/
def RepeatsChain (c : Connection δ) (alike : δ → δ → Prop) (chain : Chain)
    (supply : AliasSupply) : Prop :=
  ∀ query probe, (chain.render supply).1 = .ok query → chain.probe = .ok probe →
    c.Repeats alike query.text probe

/-- From one and the same state everything is answered alike. -/
theorem repeats_eq (c : Connection δ) (statement probe : String) :
    c.Repeats Eq statement probe where
  sources := by
    rintro e _ rfl
    exact ⟨rfl, rfl⟩
  samples := by
    rintro column e _ rfl
    exact ⟨rfl, rfl⟩
  columns := by
    rintro e _ rfl
    exact ⟨rfl, rfl⟩
  rows := by
    rintro params e _ rfl
    rfl

section Describing

variable {c : Connection δ} {alike : δ → δ → Prop} {statement probe : String} {e e' : δ}

theorem describe_alike {sql : String}
    (h : SameAnswer alike (c.columns sql e) (c.columns sql e')) :
    SameAnswer alike (c.describe sql e) (c.describe sql e') :=
  ⟨by simp only [describe, h.1], h.2⟩

theorem sampled_alike (hrepeats : c.Repeats alike statement probe) (h : alike e e')
    (column : ColumnDescription) :
    SameAnswer alike (c.sampled probe column e) (c.sampled probe column e') := by
  obtain ⟨hfirst, hleft⟩ := hrepeats.samples column.name e e' h
  rw [sampled, sampled]
  split
  · refine ⟨?_, hleft⟩
    simp only [sampledType?, hfirst]
  · exact ⟨rfl, h⟩

/-- Columns are typed alike, one after the other. -/
theorem sampledAll_alike (hrepeats : c.Repeats alike statement probe) (h : alike e e')
    (catalog : Catalog) :
    SameAnswer alike (c.sampledAll probe catalog e) (c.sampledAll probe catalog e') := by
  induction catalog generalizing e e' with
  | nil => exact ⟨rfl, h⟩
  | cons column rest ih =>
    obtain ⟨hcolumn, hnext⟩ := sampled_alike hrepeats h column
    obtain ⟨hrest, hlast⟩ := ih hnext
    exact ⟨congrArg₂ List.cons hcolumn hrest, hlast⟩

/-- Row sources are described and typed alike. -/
theorem describeSources_alike (hrepeats : c.Repeats alike statement probe) (h : alike e e') :
    SameAnswer alike (c.describeSources probe e) (c.describeSources probe e') := by
  have hdescribed := describe_alike (hrepeats.sources e e' h)
  rw [describeSources, describeSources]
  revert hdescribed
  rcases c.describe probe e with ⟨answer, next⟩
  rcases c.describe probe e' with ⟨answer', next'⟩
  rintro ⟨rfl, hnext⟩
  cases answer with
  | error fault => exact ⟨rfl, hnext⟩
  | ok catalog =>
    obtain ⟨hcolumns, hlast⟩ := sampledAll_alike hrepeats hnext catalog
    exact ⟨congrArg Except.ok hcolumns, hlast⟩

end Describing

end Connection

/-- Where a chain is answered alike, what succeeds up to the opening of the sink does so again, and
with the same query, columns and parameters. -/
theorem Preparation.Succeeds.again {c : Connection δ} {alike : δ → δ → Prop} {chain : Chain}
    {supply : AliasSupply} {e e' : δ} {p : Preparation δ}
    (hp : p.Succeeds c.engine chain supply e) (hrepeats : c.RepeatsChain alike chain supply)
    (h : alike e e') :
    ∃ described ready, alike p.ready ready ∧
      Succeeds { p with described := described, ready := ready } c.engine chain supply e' := by
  have hrepeats := hrepeats p.query p.probe hp.query_eq hp.probe_eq
  have hsources := Connection.describeSources_alike hrepeats h
  rw [show c.describeSources p.probe e = _ from hp.sources_eq] at hsources
  have hcolumns := Connection.describe_alike (hrepeats.columns _ _ hsources.2)
  rw [show c.describe p.query.text p.described = _ from hp.columns_eq] at hcolumns
  exact ⟨(c.describeSources p.probe e').2,
    (c.describe p.query.text (c.describeSources p.probe e').2).2, hcolumns.2,
    { query_eq := hp.query_eq
      probe_eq := hp.probe_eq
      sources_eq := Prod.ext hsources.1.symm rfl
      params_eq := hp.params_eq
      columns_eq := Prod.ext hcolumns.1.symm rfl }⟩

end QueryPipe.Evaluation
