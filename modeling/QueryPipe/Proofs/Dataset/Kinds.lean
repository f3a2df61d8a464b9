import Mathlib.Data.List.Basic
import QueryPipe.Dataset.Inference
import QueryPipe.Proofs.Numeral.Spelling

/-!
# The types of a file's columns

A column goes from whole numbers over floating point numbers to texts, and a step is never taken
back. As every whole number is a floating point number, what it comes to depends on its cells
alone, not on their order: it is of whole numbers when all are, of floating point numbers when
all are, and of texts otherwise.

* `ColumnKind.ofCells`: the type of a column as a property of its cells.
* `foldl_extend_none`: taking the cells one by one comes to it.
* `Table.Reads.columns_eq`: so does reading record after record.
* `Table.columns_isOk_iff`: a table has columns when all of it can be read.
-/

namespace QueryPipe.Dataset

/-! ## Cells of one column -/

namespace ColumnKind

/-- The type of a column as a property of its cells. -/
def ofCells (cells : List String) : ColumnKind :=
  if cells.isEmpty then .text
  else if cells.all isWhole then .integer
  else if cells.all isFloat then .real
  else .text

/-- Whether a cell can be read as a value of a type. -/
def reads (kind : ColumnKind) (cell : String) : Bool :=
  match kind with
  | .integer => isWhole cell
  | .real => isFloat cell
  | .text => true

theorem isFloat_of_isWhole {cell : String} (h : isWhole cell = true) : isFloat cell = true := by
  rw [isWhole] at h
  cases hwhole : Numeral.Whole.readInt64 cell with
  | error p => simp [hwhole, Except.toOption] at h
  | ok n =>
    obtain ⟨x, hx⟩ := Numeral.Decimal.exists_readText_of_readInt64 hwhole
    rw [isFloat, hx]
    rfl

/-- Every cell can be read as a value of the type that its column comes to. -/
theorem reads_ofCells {cells : List String} {cell : String} (h : cell ∈ cells) :
    (ofCells cells).reads cell = true := by
  have hempty : cells.isEmpty = false := List.isEmpty_eq_false_iff_exists_mem.2 ⟨cell, h⟩
  rw [ofCells, hempty]
  simp only [Bool.false_eq_true, if_false]
  split
  · rename_i hall
    exact List.all_eq_true.1 hall cell h
  · split
    · rename_i hall
      exact List.all_eq_true.1 hall cell h
    · rfl

section Iff

variable {cells : List String}

theorem ofCells_eq_integer_iff :
    ofCells cells = .integer ↔ cells ≠ [] ∧ ∀ cell ∈ cells, isWhole cell = true := by
  rw [← List.all_eq_true, ne_eq, ← List.isEmpty_iff, ofCells]
  cases cells.isEmpty <;> cases cells.all isWhole <;> cases cells.all isFloat <;> simp

theorem ofCells_eq_real_iff :
    ofCells cells = .real ↔ cells ≠ [] ∧ (∀ cell ∈ cells, isFloat cell = true) ∧
      ¬ ∀ cell ∈ cells, isWhole cell = true := by
  rw [← List.all_eq_true, ← List.all_eq_true, ne_eq, ← List.isEmpty_iff, ofCells]
  cases cells.isEmpty <;> cases cells.all isWhole <;> cases cells.all isFloat <;> simp

theorem ofCells_eq_text_iff :
    ofCells cells = .text ↔ cells = [] ∨ ¬ ∀ cell ∈ cells, isFloat cell = true := by
  have hfloat : cells.all isWhole = true → cells.all isFloat = true := by
    simp only [List.all_eq_true]
    exact fun hall cell hcell => isFloat_of_isWhole (hall cell hcell)
  rw [← List.all_eq_true, ← List.isEmpty_iff, ofCells]
  cases hempty : cells.isEmpty <;> cases hwhole : cells.all isWhole <;>
    cases hall : cells.all isFloat <;> simp_all

end Iff

/-- The order of the cells does not matter. -/
theorem ofCells_perm {cells cells' : List String} (h : cells.Perm cells') :
    ofCells cells = ofCells cells' := by
  rw [ofCells, ofCells, h.isEmpty_eq, h.all_eq, h.all_eq]

/-! ## Cell after cell -/

theorem foldl_widen_text (cells : List String) : cells.foldl widen .text = .text := by
  induction cells with
  | nil => rfl
  | cons cell cells ih => rw [List.foldl_cons, widen_text, ih]

theorem foldl_widen_real (cells : List String) :
    cells.foldl widen .real = if cells.all isFloat then .real else .text := by
  induction cells with
  | nil => rfl
  | cons cell cells ih =>
    rw [List.foldl_cons, widen, List.all_cons]
    cases isFloat cell with
    | false => simpa using foldl_widen_text cells
    | true => simpa using ih

theorem foldl_widen_integer (cells : List String) :
    cells.foldl widen .integer =
      if cells.all isWhole then .integer else if cells.all isFloat then .real else .text := by
  induction cells with
  | nil => rfl
  | cons cell cells ih =>
    rw [List.foldl_cons, widen, List.all_cons, List.all_cons]
    cases hwhole : isWhole cell with
    | true =>
      rw [isFloat_of_isWhole hwhole]
      simpa using ih
    | false =>
      cases isFloat cell with
      | false => simpa using foldl_widen_text cells
      | true => simpa using foldl_widen_real cells

/-- Once there was a cell, the type is there, and empty cells leave it as it is. -/
theorem foldl_extend_some (kind : ColumnKind) (cells : List String) :
    cells.foldl extend (some kind) =
      some ((cells.filter fun cell => !cell.isEmpty).foldl widen kind) := by
  induction cells generalizing kind with
  | nil => rfl
  | cons cell cells ih =>
    rw [List.foldl_cons, extend]
    cases hempty : cell.isEmpty with
    | true => simpa [hempty] using ih kind
    | false => simpa [hempty] using ih (kind.widen cell)

/-- The type that the cells of a column come to one by one. -/
theorem foldl_extend_none (cells : List String) :
    (cells.foldl extend none).getD .text =
      ofCells (cells.filter fun cell => !cell.isEmpty) := by
  induction cells with
  | nil => rfl
  | cons cell cells ih =>
    rw [List.foldl_cons, extend]
    cases hempty : cell.isEmpty with
    | true => simpa [hempty] using ih
    | false =>
      have hfilter : (cell :: cells).filter (fun cell => !cell.isEmpty) =
          cell :: cells.filter fun cell => !cell.isEmpty :=
        List.filter_cons_of_pos (by simp [hempty])
      have hfold := foldl_widen_integer (cell :: cells.filter fun cell => !cell.isEmpty)
      rw [hfilter, ofCells, ← hfold, if_neg (by simp), if_neg (by simp), foldl_extend_some]
      rfl

end ColumnKind

/-! ## Record after record -/

/-- The cell of a record in a column, unless it is missing or empty. -/
def cellAt? (k : Nat) (cells : List String) : Option String :=
  cells[k]?.filter fun cell => !cell.isEmpty

/-- The cells of a column that are there and not empty, record after record. -/
def cellsAt (records : List (List String)) (k : Nat) : List String :=
  records.filterMap (cellAt? k)

section Records

variable {records : List (List String)} {k : Nat}

theorem cellsAt_eq_filter (records : List (List String)) (k : Nat) :
    cellsAt records k =
      (records.filterMap fun cells => cells[k]?).filter fun cell => !cell.isEmpty := by
  rw [List.filter_filterMap]
  rfl

theorem mem_cellsAt {cells : List String} {cell : String} (hcells : cells ∈ records)
    (hcell : cellAt? k cells = some cell) : cell ∈ cellsAt records k :=
  List.mem_filterMap.2 ⟨cells, hcells, hcell⟩

theorem length_extendAll (kinds : List (Option ColumnKind)) (cells : List String) :
    (extendAll kinds cells).length = kinds.length := by
  induction kinds generalizing cells with
  | nil => rfl
  | cons kind? kinds ih => cases cells <;> simp [extendAll, ih]

/-- What a record does to one column depends on its cell in that column. -/
theorem getElem?_extendAll (kinds : List (Option ColumnKind)) (cells : List String) (k : Nat) :
    (extendAll kinds cells)[k]? =
      kinds[k]?.map fun kind? => cells[k]?.elim kind? (ColumnKind.extend kind?) := by
  induction kinds generalizing cells k with
  | nil => rfl
  | cons kind? kinds ih =>
    cases cells with
    | nil => simp [extendAll]
    | cons cell cells =>
      cases k with
      | zero => rfl
      | succ k => simpa [extendAll] using ih cells k

theorem getElem?_foldl_extendAll (records : List (List String))
    (kinds : List (Option ColumnKind)) (k : Nat) :
    (records.foldl extendAll kinds)[k]? =
      kinds[k]?.map ((records.filterMap fun cells => cells[k]?).foldl ColumnKind.extend) := by
  induction records generalizing kinds with
  | nil => simp
  | cons cells records ih =>
    rw [List.foldl_cons, ih, getElem?_extendAll, Option.map_map]
    congr 1
    funext kind?
    cases hcell : cells[k]? with
    | none => simp [hcell]
    | some cell => simp [hcell]

theorem length_foldl_extendAll (records : List (List String))
    (kinds : List (Option ColumnKind)) :
    (records.foldl extendAll kinds).length = kinds.length := by
  induction records generalizing kinds with
  | nil => rfl
  | cons cells records ih => rw [List.foldl_cons, ih, length_extendAll]

theorem kindsOf_ok (records : List (List String)) (kinds : List (Option ColumnKind)) :
    kindsOf kinds (records.map .ok) = .ok (records.foldl extendAll kinds) := by
  induction records generalizing kinds with
  | nil => rfl
  | cons cells records ih => exact ih (extendAll kinds cells)

/-- Types are told only of records that are all read. -/
theorem exists_of_kindsOf_eq_ok {data : List (Except RecordProblem (List String))}
    {kinds kinds' : List (Option ColumnKind)} (h : kindsOf kinds data = .ok kinds') :
    ∃ records : List (List String), data = records.map .ok := by
  induction data generalizing kinds with
  | nil => exact ⟨[], rfl⟩
  | cons record data ih =>
    cases record with
    | error problem => cases h
    | ok cells =>
      obtain ⟨records, rfl⟩ := ih h
      exact ⟨cells :: records, rfl⟩

/-! ## Records that tell nothing -/

/-- What records tell of a number of columns: their cells in these, missing and empty ones alike,
without the records that have none. -/
def telling (width : Nat) (records : List (List String)) : List (List (Option String)) :=
  (records.map fun cells => (List.range width).map fun k => cellAt? k cells).filter fun row =>
    row.any Option.isSome

theorem cellsAt_eq_telling {width : Nat} (hk : k < width) (records : List (List String)) :
    cellsAt records k = (telling width records).filterMap fun row => row[k]?.join := by
  rw [telling, List.filterMap_filter, List.filterMap_map, cellsAt]
  refine List.filterMap_congr fun cells _ => ?_
  have hcell : ((List.range width).map fun k => cellAt? k cells)[k]?.join = cellAt? k cells := by
    simp [hk]
  simp only [Function.comp_apply, hcell]
  split
  · rfl
  · rename_i hnone
    rw [List.any_eq_true] at hnone
    cases hvalue : cellAt? k cells with
    | none => rfl
    | some cell =>
      refine absurd ⟨some cell, ?_, rfl⟩ hnone
      exact List.mem_map.2 ⟨k, List.mem_range.2 hk, hvalue⟩

/-- Columns that are told the same in any order have the same cells. -/
theorem cellsAt_perm {width : Nat} {records' : List (List String)} (hk : k < width)
    (h : (telling width records').Perm (telling width records)) :
    (cellsAt records' k).Perm (cellsAt records k) := by
  rw [cellsAt_eq_telling hk records', cellsAt_eq_telling hk records]
  exact h.filterMap _

end Records

/-! ## Tables -/

/-- A table whose header and data records are all texts. -/
structure Table.Reads (t : Table) (names : List String) (records : List (List String)) : Prop where
  /-- The names in the header. -/
  header : t.names = .ok names
  /-- There are some. -/
  named : names ≠ []
  /-- The data records. -/
  data : t.data = records.map .ok

theorem textFields_of_ok {position : Position} (position' : Position) {fields : List (List UInt8)}
    {index : Nat} {cells : List String} (h : textFields position index fields = .ok cells) :
    textFields position' index fields = .ok cells := by
  induction fields generalizing index cells with
  | nil => exact h
  | cons field rest ih =>
    rw [textFields] at h ⊢
    cases htext : Text.ofBytes? field with
    | none => simp [htext] at h
    | some s =>
      simp only [htext] at h ⊢
      obtain ⟨more, hmore, rfl⟩ := exists_of_map_eq_ok h
      rw [ih hmore]
      rfl

namespace Table

variable {t t' : Table} {names : List String} {records records' : List (List String)}

/-- The records that can be read are the same without the header before them. -/
theorem Reads.dataOnly_eq (h : t.Reads names records) : t.dataOnly = records.map .ok := by
  have hdata := h.data
  rw [Table.data] at hdata
  rw [dataOnly]
  cases hrecords : t.records with
  | nil =>
    rw [hrecords] at hdata
    exact hdata
  | cons first rest =>
    rw [hrecords] at hdata
    obtain ⟨cells, more, rfl⟩ : ∃ cells more, records = cells :: more := by
      cases records with
      | nil => cases hdata
      | cons cells more => exact ⟨cells, more, rfl⟩
    obtain ⟨hfirst, hrest⟩ := List.cons.inj hdata
    have htexts : ({ first with position := {} } : RawRecord).texts = .ok cells :=
      textFields_of_ok {} hfirst
    simp only [htexts, hrest, List.map_cons]

/-- The columns of a table that can be read. -/
theorem Reads.columns_eq (h : t.Reads names records) :
    t.columns = .ok (names.mapIdx fun k header =>
      ⟨columnName k header, .ofCells (cellsAt records k)⟩) := by
  obtain ⟨name, rest, hnames⟩ := List.exists_cons_of_ne_nil h.named
  rw [columns, h.header, hnames]
  simp only [← hnames, h.data, kindsOf_ok, Except.map, Except.ok.injEq]
  have hlength : (records.foldl extendAll (names.map fun _ => none)).length = names.length := by
    rw [length_foldl_extendAll, List.length_map]
  have hkind : ∀ k < names.length, (records.foldl extendAll (names.map fun _ => none))[k]? =
      some ((records.filterMap fun cells => cells[k]?).foldl ColumnKind.extend none) := by
    intro k hk
    rw [getElem?_foldl_extendAll, List.getElem?_map, List.getElem?_eq_getElem hk]
    rfl
  generalize records.foldl extendAll (names.map fun _ => none) = kinds at hlength hkind
  refine List.ext_getElem (by simp [hlength]) fun k hk hk' => ?_
  have hlt : k < names.length := by simpa using hk'
  have hread := hkind k hlt
  rw [List.getElem?_eq_getElem (by omega), Option.some.injEq] at hread
  have hfold := ColumnKind.foldl_extend_none (records.filterMap fun cells => cells[k]?)
  rw [← cellsAt_eq_filter, ← hread] at hfold
  simp [hfold]

/-- A table has columns if and only if it can be read. -/
theorem columns_isOk_iff :
    (∃ columns, t.columns = .ok columns) ↔ ∃ names records, t.Reads names records := by
  constructor
  · rintro ⟨found, h⟩
    rw [columns] at h
    split at h
    · cases h
    · cases h
    · rename_i names hsome hnames
      cases hkinds : kindsOf (names.map fun _ => none) t.data with
      | error problem =>
        rw [hkinds] at h
        cases h
      | ok kinds =>
        obtain ⟨records, hdata⟩ := exists_of_kindsOf_eq_ok hkinds
        exact ⟨names, records, hnames, fun e => hsome (e ▸ rfl), hdata⟩
  · rintro ⟨names, records, h⟩
    exact ⟨_, h.columns_eq⟩

/-- What the columns of a table that can be read are: as many as the header has names, each of the
narrowest type that its cells have in common. They do not depend on the order of the records, on
records without a value, or on cells beyond the header. -/
theorem Reads.columns_determined (h : t.Reads names records) :
    ∃ columns, t.columns = .ok columns ∧ columns.length = names.length ∧
      (∀ k c, columns[k]? = some c →
        names[k]?.map (columnName k) = some c.name ∧
        (c.kind = .integer ↔ cellsAt records k ≠ [] ∧
          ∀ cell ∈ cellsAt records k, ColumnKind.isWhole cell = true) ∧
        (c.kind = .real ↔ cellsAt records k ≠ [] ∧
          (∀ cell ∈ cellsAt records k, ColumnKind.isFloat cell = true) ∧
          ¬ ∀ cell ∈ cellsAt records k, ColumnKind.isWhole cell = true) ∧
        (c.kind = .text ↔ cellsAt records k = [] ∨
          ¬ ∀ cell ∈ cellsAt records k, ColumnKind.isFloat cell = true)) ∧
      ∀ {t' : Table} {records' : List (List String)}, t'.Reads names records' →
        (telling names.length records').Perm (telling names.length records) →
        t'.columns = .ok columns := by
  refine ⟨_, h.columns_eq, List.length_mapIdx, fun k c hc => ?_, fun h' hperm => ?_⟩
  · rw [List.getElem?_mapIdx, Option.map_eq_some_iff] at hc
    obtain ⟨header, hheader, rfl⟩ := hc
    exact ⟨by rw [hheader]; rfl, ColumnKind.ofCells_eq_integer_iff,
      ColumnKind.ofCells_eq_real_iff, ColumnKind.ofCells_eq_text_iff⟩
  · rw [h'.columns_eq, Except.ok.injEq]
    refine List.mapIdx_eq_mapIdx_iff.2 fun k hk => ?_
    rw [ColumnKind.ofCells_perm (cellsAt_perm hk hperm)]

theorem columns_determined_reordered :
    let t := ofBytes 0x2C (Text.bytesOf "id,score,note\n1,2.5\n+007,-3\n")
    let t' := ofBytes 0x2C (Text.bytesOf "id,score,note\n+007,-3\n,,,x\n\"\"\n1,2.5,,9\n")
    ∃ columns, t.columns = .ok columns ∧ t'.columns = .ok columns ∧
      columns.map FileColumn.kind = [.integer, .real, .text] := by
  intro t t'
  have hreads : t.Reads ["id", "score", "note"] [["1", "2.5"], ["+007", "-3"]] :=
    ⟨by decide +kernel, by decide, by decide +kernel⟩
  have hreads' : t'.Reads ["id", "score", "note"]
      [["+007", "-3"], ["", "", "", "x"], [""], ["1", "2.5", "", "9"]] :=
    ⟨by decide +kernel, by decide, by decide +kernel⟩
  obtain ⟨columns, hcolumns, -, -, hsame⟩ := hreads.columns_determined
  have htelling : (telling 3 [["+007", "-3"], ["", "", "", "x"], [""], ["1", "2.5", "", "9"]]).Perm
      (telling 3 [["1", "2.5"], ["+007", "-3"]]) := by decide +kernel
  have hkinds : t.columns = .ok [⟨"id", .integer⟩, ⟨"score", .real⟩, ⟨"note", .text⟩] := by
    decide +kernel
  obtain rfl := Except.ok.inj (hkinds.symm.trans hcolumns)
  exact ⟨_, hcolumns, hsame hreads' htelling, rfl⟩

end Table

end QueryPipe.Dataset
