import QueryPipe.Proofs.Query.Draft
import QueryPipe.Typing.Binding

/-!
# Looking columns up

A catalog is searched for the name that a condition gives, then for what follows its last point.
What is appended to a catalog hides what stands in it under the same name.

* `declared?_append_catalog`: of two catalogs the second one counts first.
* `lookup_qualified`: where no name has a point, what qualifies a name does not count.
* `lookup_of_middle`: when columns around a catalog leave a lookup in it as it is.
-/

namespace QueryPipe

theorem Text.splitLast?_append {mark : Char} (before : List Char) {tail : List Char}
    (h : mark ∉ tail) : splitLast? mark (before ++ mark :: tail) = some (before, tail) := by
  induction before with
  | nil =>
    have htail : splitLast? mark tail = none := (splitLast?_eq_none_iff mark tail).2 h
    simp [splitLast?, htail]
  | cons c before ih => rw [List.cons_append, splitLast?, ih]

namespace Catalog

/-! ## Names -/

theorem unqualified?_qualified (source : String) {name : String} (h : '.' ∉ name.toList) :
    unqualified? (source ++ "." ++ name) = some name := by
  have hchars : (source ++ "." ++ name).toList = source.toList ++ '.' :: name.toList := by
    simp
  rw [unqualified?, hchars, Text.splitLast?_append _ h]
  simp

theorem unqualified?_eq_none {column : String} (h : '.' ∉ column.toList) :
    unqualified? column = none := by
  rw [unqualified?, (Text.splitLast?_eq_none_iff _ _).2 h]
  rfl

/-! ## Catalogs -/

theorem declared?_append_catalog (a b : Catalog) (name : String) :
    declared? (a ++ b) name = (declared? b name).or (declared? a name) := by
  rw [declared?, declared?, declared?, List.reverse_append, List.find?_append]
  cases b.reverse.find? (·.name == name) <;> rfl

theorem declared?_eq_none_iff {catalog : Catalog} {name : String} :
    declared? catalog name = none ↔ ∀ c ∈ catalog, c.name ≠ name := by
  simp [declared?, List.find?_eq_none]

theorem exists_of_declared? {catalog : Catalog} {name declared : String}
    (h : declared? catalog name = some declared) :
    ∃ c ∈ catalog, c.name = name ∧ c.declared = declared := by
  obtain ⟨c, hfind, hdeclared⟩ := Option.map_eq_some_iff.1 h
  refine ⟨c, List.mem_reverse.1 (List.mem_of_find?_eq_some hfind), ?_, hdeclared⟩
  simpa using List.find?_some hfind

/-- Columns of one name that are declared alike are found as they are declared. -/
theorem declared?_of_mem {catalog : Catalog} {c : ColumnDescription} (hc : c ∈ catalog)
    (h : ∀ other ∈ catalog, other.name = c.name → other.declared = c.declared) :
    declared? catalog c.name = some c.declared := by
  cases hfound : declared? catalog c.name with
  | none => exact absurd rfl (declared?_eq_none_iff.1 hfound c hc)
  | some declared =>
    obtain ⟨other, hother, hname, hdeclared⟩ := exists_of_declared? hfound
    rw [← hdeclared, h other hother hname]

theorem lookup_plain (catalog : Catalog) {column : String} (h : '.' ∉ column.toList) :
    catalog.lookup column = catalog.declared? column := by
  rw [lookup, unqualified?_eq_none h]
  cases catalog.declared? column <;> rfl

/-- Where no name has a point, what qualifies a name does not count. -/
theorem lookup_qualified {catalog : Catalog} (hnames : ∀ c ∈ catalog, '.' ∉ c.name.toList)
    (source : String) {name : String} (h : '.' ∉ name.toList) :
    catalog.lookup (source ++ "." ++ name) = catalog.declared? name := by
  have hnone : catalog.declared? (source ++ "." ++ name) = none := by
    rw [declared?_eq_none_iff]
    intro c hc hname
    refine hnames c hc ?_
    rw [hname]
    simp
  rw [lookup, hnone, unqualified?_qualified source h]
  rfl

end Catalog

/-! ## Columns around others -/

/-- Whether a column has the name that a condition gives, with or without what qualifies it. -/
def ColumnDescription.IsNamed (c : ColumnDescription) (column : String) : Prop :=
  c.name = column ∨ Catalog.unqualified? column = some c.name

instance (c : ColumnDescription) (column : String) : Decidable (c.IsNamed column) :=
  inferInstanceAs (Decidable (_ ∨ _))

namespace Catalog

variable {before catalog after : Catalog} {column name declared : String}

theorem declared?_of_isNamed (hname : name = column ∨ unqualified? column = some name)
    (h : ∀ c ∈ catalog, c.IsNamed column → c.declared = declared) :
    declared? catalog name = none ∨ declared? catalog name = some declared := by
  cases hfound : declared? catalog name with
  | none => exact .inl rfl
  | some found =>
    obtain ⟨c, hc, rfl, rfl⟩ := exists_of_declared? hfound
    exact .inr (congrArg some (h c hc hname))

theorem declared?_of_middle (hname : name = column ∨ unqualified? column = some name)
    (hfound : catalog.declared? name = some declared)
    (hafter : ∀ c ∈ after, c.IsNamed column → c.declared = declared) :
    (before ++ catalog ++ after).declared? name = some declared := by
  rw [declared?_append_catalog, declared?_append_catalog, hfound]
  rcases declared?_of_isNamed hname hafter with h | h <;> simp [h]

/-- A lookup in a catalog stays as it is when columns are put around it, as long as those of the
name looked for are declared as it is. In front, columns of the catalog itself may stand. -/
theorem lookup_of_middle (hlookup : catalog.lookup column = some declared)
    (hbefore : ∀ c ∈ before, c ∈ catalog ∨ (c.IsNamed column → c.declared = declared))
    (hafter : ∀ c ∈ after, c.IsNamed column → c.declared = declared) :
    (before ++ catalog ++ after).lookup column = some declared := by
  cases hverbatim : catalog.declared? column with
  | some found =>
    have hfound : found = declared := by simpa [lookup, hverbatim] using hlookup
    rw [hfound] at hverbatim
    rw [lookup, declared?_of_middle (.inl rfl) hverbatim hafter]
    rfl
  | none =>
    obtain ⟨tail, htail, hfound⟩ : ∃ tail, unqualified? column = some tail ∧
        catalog.declared? tail = some declared := by
      simpa [lookup, hverbatim, Option.bind_eq_some_iff] using hlookup
    have habsent := declared?_eq_none_iff.1 hverbatim
    have haround : ∀ c ∈ before ++ catalog ++ after, c.name = column → c.declared = declared := by
      intro c hc hname
      rcases List.mem_append.1 hc with hc | hc
      · rcases List.mem_append.1 hc with hc | hc
        · rcases hbefore c hc with hmem | hdeclared
          · exact absurd hname (habsent c hmem)
          · exact hdeclared (.inl hname)
        · exact absurd hname (habsent c hc)
      · exact hafter c hc (.inl hname)
    rw [lookup]
    cases hall : (before ++ catalog ++ after).declared? column with
    | some found =>
      obtain ⟨c, hc, hname, rfl⟩ := exists_of_declared? hall
      rw [haround c hc hname]
      rfl
    | none =>
      rw [htail, Option.bind_some, declared?_of_middle (.inr htail) hfound hafter]
      rfl

end Catalog

end QueryPipe
