import QueryPipe.Proofs.Dataset.Columns
import QueryPipe.Proofs.Dataset.Passes

/-!
# Cells of a file as they are shown

A cell of a file is read as its column's type says, stored, and shown again as a text. The text is
empty for a missing or empty cell. It is empty for one other kind of cell as well: a column of
floating point numbers cannot hold what is no number, and so the word for it is lost.

* `FloatLayout.text_ne_empty`: floating point numbers are shown.
* `shownField`: a stored value as a field.
* `shownRecord_eq_empty_iff`: which cells are shown as empty fields.
* `forall₂_showsRecord`: so all records of a file are shown.
-/

namespace QueryPipe

/-! ## Numbers -/

namespace Numeral.FloatLayout

theorem append_ne_empty_left {s t : String} (h : s ≠ "") : s ++ t ≠ "" := by
  simp [String.append_eq_empty_iff, h]

theorem append_ne_empty_right {s t : String} (h : t ≠ "") : s ++ t ≠ "" := by
  simp [String.append_eq_empty_iff, h]

theorem plainText_ne_empty (d : ShortDecimal) : plainText d ≠ "" := by
  simp only [plainText]
  split
  · exact append_ne_empty_left (by decide)
  · split
    · exact append_ne_empty_right (by decide)
    · exact append_ne_empty_left (append_ne_empty_right (by decide))

theorem exponentText_ne_empty (l : FloatLayout) (d : ShortDecimal) : l.exponentText d ≠ "" := by
  rw [exponentText]
  exact append_ne_empty_left (append_ne_empty_left (append_ne_empty_right (by decide)))

/-- A floating point number is never written as nothing. -/
theorem text_ne_empty (l : FloatLayout) (x : Binary64) : l.text x ≠ "" := by
  rw [text]
  split
  · decide
  · split <;> decide
  · refine append_ne_empty_right ?_
    split
    · decide
    · rw [decimalText]
      split
      · exact plainText_ne_empty _
      · exact exponentText_ne_empty l _

end Numeral.FloatLayout

namespace Dataset

open Numeral.Decimal (spellsNaN)
open Sql (Record Value)

/-! ## Values -/

/-- A value as a field of a record; the missing value is an empty one. -/
def shownField (v : Value) : String := (cellOfValue v).display ""

theorem shownField_whole (n : Int64) : shownField (.whole n) ≠ "" := by
  have hint : ∀ i : Int, toString i ≠ "" := by
    rintro (n | n)
    · exact Nat.repr_ne_empty
    · exact Numeral.FloatLayout.append_ne_empty_left (by decide)
  exact hint n.toInt

/-- A floating point number that is stored is shown, unless it is no number. -/
theorem shownField_ofReal (x : Numeral.Binary64) :
    shownField (Value.store ColumnKind.real.affinity (.ofReal x)) = "" ↔ x.isNaN = true := by
  rw [Value.ofReal, affinity_real]
  cases x.isNaN with
  | true => simp [shownField, cellOfValue, Cell.display]
  | false =>
    have hprefer : (Value.real x).preferNumber = (Value.real x).preferWhole := rfl
    have hstored : ∃ y, Value.store .real (.real x) = .real y := by
      rw [Value.store, hprefer, Value.preferWhole]
      cases Sql.exactWhole? x <;> exact ⟨_, rfl⟩
    obtain ⟨y, hy⟩ := hstored
    have hshown := Numeral.FloatLayout.cell.text_ne_empty y
    simpa [hy, shownField, cellOfValue, Cell.display] using hshown

/-- What the type of a column reads in a cell is shown, except for what is no number. -/
theorem shownField_eq_empty_iff_of_reads {kind : ColumnKind} {cell : String} (hsome : cell ≠ "")
    (h : kind.reads cell = true) :
    shownField (Value.store kind.affinity (valueOfBound (kind.boundOf? cell))) = "" ↔
      kind = .real ∧ spellsNaN cell = true := by
  obtain ⟨b, hbound, hread⟩ := ColumnKind.exists_isRead h
  rw [hbound]
  cases hread with
  | @whole _ n hn =>
    have hstored : Value.store ColumnKind.integer.affinity (.whole n) = .whole n := by
      rw [affinity_integer]
      rfl
    have hshown := shownField_whole n
    simp [valueOfBound, Evaluation.valueOf, hstored, hshown]
  | @float _ x hx =>
    rw [← Numeral.Decimal.isNaN_of_readText hx]
    simpa [valueOfBound, Evaluation.valueOf] using shownField_ofReal x
  | text =>
    have hstored : Value.store ColumnKind.text.affinity (.text cell) = .text cell := by
      rw [affinity_text]
      rfl
    simp [valueOfBound, Evaluation.valueOf, hstored, shownField, cellOfValue, Cell.display, hsome]

/-! ## Records -/

/-- A record of a file as it is stored and shown. -/
def shownRecord (columns : List FileColumn) (cells : List String) : List String :=
  (storedRow columns (rowOf columns cells)).map shownField

/-- Whether a cell is lost among the cells of its column: it is the word for no number, and the
column is one of floating point numbers. -/
def IsLost (others : List String) (cell : String) : Prop :=
  spellsNaN cell = true ∧ ∀ other ∈ others, ColumnKind.isFloat other = true

instance (others : List String) (cell : String) : Decidable (IsLost others cell) :=
  inferInstanceAs (Decidable (_ ∧ _))

theorem length_shownRecord (columns : List FileColumn) (cells : List String) :
    (shownRecord columns cells).length = columns.length := by
  rw [shownRecord, List.length_map, length_storedRow]

theorem getElem?_shownRecord (columns : List FileColumn) (cells : List String) (k : Nat) :
    (shownRecord columns cells)[k]? = columns[k]?.map fun c =>
      shownField (Value.store c.kind.affinity
        (valueOfBound ((cellAt? k cells).bind c.kind.boundOf?))) := by
  have hrow : (rowOf columns cells)[k]? = columns[k]?.map fun c =>
      valueOfBound ((cellAt? k cells).bind c.kind.boundOf?) := by
    rw [← map_valueOfBound_boundsOf, List.getElem?_map, getElem?_boundsOf, Option.map_map]
    rfl
  rw [shownRecord, storedRow, List.getElem?_map, List.getElem?_zipWith, hrow]
  cases columns[k]? <;> rfl

theorem kind_eq_real_iff_of_spellsNaN {others : List String} {cell : String}
    (hmem : cell ∈ others) (hword : spellsNaN cell = true) :
    ColumnKind.ofCells others = .real ↔ ∀ other ∈ others, ColumnKind.isFloat other = true := by
  have hwhole : ¬ ∀ other ∈ others, ColumnKind.isWhole other = true := by
    intro hall
    have hcell := hall cell hmem
    rw [ColumnKind.isWhole] at hcell
    cases hread : Numeral.Whole.readInt64 cell with
    | error p => simp [hread, Except.toOption] at hcell
    | ok n =>
      rw [Numeral.Decimal.spellsNaN_of_readInt64 hread] at hword
      cases hword
  rw [ColumnKind.ofCells_eq_real_iff]
  exact ⟨fun h => h.2.1, fun h => ⟨List.ne_nil_of_mem hmem, h, hwhole⟩⟩

/-- A field is empty where the cell is missing, empty or lost, and nowhere else. -/
theorem shownRecord_eq_empty_iff {t : Table} {names : List String} {records : List (List String)}
    {columns : List FileColumn} (hreads : t.Reads names records)
    (hcolumns : t.columns = .ok columns) {cells : List String} (hcells : cells ∈ records)
    {k : Nat} {field : String} (hfield : (shownRecord columns cells)[k]? = some field) :
    field = "" ↔ cellAt? k cells = none ∨
      ∃ cell, cellAt? k cells = some cell ∧ IsLost (cellsAt records k) cell := by
  obtain rfl := Except.ok.inj (hreads.columns_eq.symm.trans hcolumns)
  rw [getElem?_shownRecord, Option.map_eq_some_iff] at hfield
  obtain ⟨c, hc, rfl⟩ := hfield
  rw [List.getElem?_mapIdx, Option.map_eq_some_iff] at hc
  obtain ⟨header, -, rfl⟩ := hc
  cases hcell : cellAt? k cells with
  | none => simp [valueOfBound, shownField, cellOfValue, Cell.display]
  | some cell =>
    have hmem : cell ∈ cellsAt records k := List.mem_filterMap.2 ⟨cells, hcells, hcell⟩
    have hsome : cell ≠ "" := by
      have hfilter := (Option.filter_eq_some_iff.1 hcell).2
      simpa using hfilter
    simp only [Option.bind_some, reduceCtorEq, Option.some.injEq, exists_eq_left', false_or]
    rw [shownField_eq_empty_iff_of_reads hsome (ColumnKind.reads_ofCells hmem), IsLost, and_comm]
    exact and_congr_right fun hword => kind_eq_real_iff_of_spellsNaN hmem hword

/-- Whether fields show a record of some records under a header of some width. -/
structure ShowsRecord (width : Nat) (records : List (List String))
    (cells fields : List String) : Prop where
  /-- There is a field for each column. -/
  width : fields.length = width
  /-- It is empty where the cell is missing, empty or lost, and nowhere else. -/
  empty : ∀ k field, fields[k]? = some field →
    (field = "" ↔ cellAt? k cells = none ∨
      ∃ cell, cellAt? k cells = some cell ∧ IsLost (cellsAt records k) cell)

theorem forall₂_showsRecord {t : Table} {names : List String} {records : List (List String)}
    {columns : List FileColumn} (hreads : t.Reads names records)
    (hcolumns : t.columns = .ok columns) :
    List.Forall₂ (ShowsRecord names.length records) records
      (records.map (shownRecord columns)) := by
  have hwidth : columns.length = names.length := by
    obtain rfl := Except.ok.inj (hreads.columns_eq.symm.trans hcolumns)
    exact List.length_mapIdx
  rw [List.forall₂_map_right_iff, List.forall₂_same]
  intro cells hcells
  exact ⟨(length_shownRecord columns cells).trans hwidth,
    fun k field hfield => shownRecord_eq_empty_iff hreads hcolumns hcells hfield⟩

end Dataset

end QueryPipe
