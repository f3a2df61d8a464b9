import Mathlib.Algebra.GroupWithZero.Nat
import Mathlib.Data.List.Forall2
import QueryPipe.Output.Writer
import QueryPipe.Proofs.Text.Lines
import QueryPipe.Session.Evaluation

/-!
# Aligned columns are aligned

A writer of aligned columns keeps rows until the end and knows the greatest width of every column
that it has seen so far. Whatever the width of a text may be, the rows that it prints have their
columns at the same places, and nothing of a cell is lost.

Cells have no line breaks once they are kept, so every row of a result is one line. The names of
columns are kept as they are, and a line break in one of them breaks the header.

* `Writer.Holds`, `holds_given`: what a writer knows after any batches.
* `IsAligned`, `isAligned_rowText`: how a row stands in its line.
* `IsAligned.starts`: where its cells start.
* `count_rowText`: the characters of a line.
-/

namespace QueryPipe.Output.Columns

/-! ## Greatest widths -/

/-- The greatest width of the cells in a column of some rows. -/
def columnWidth (width : String → Nat) (rows : List (List String)) (k : Nat) : Nat :=
  (rows.filterMap fun row => row[k]?.map width).foldr max 0

/-- The greatest widths in the first columns of some rows. -/
def columnWidths (width : String → Nat) (rows : List (List String)) (count : Nat) : List Nat :=
  (List.range count).map (columnWidth width rows)

section Widths

variable {width : String → Nat}

theorem le_columnWidth {rows : List (List String)} {row : List String} (hrow : row ∈ rows)
    {k : Nat} {cell : String} (hcell : row[k]? = some cell) :
    width cell ≤ columnWidth width rows k := by
  have hmem : width cell ∈ rows.filterMap fun row => row[k]?.map width :=
    List.mem_filterMap.2 ⟨row, hrow, by rw [hcell, Option.map_some]⟩
  rw [columnWidth]
  generalize rows.filterMap _ = widths at hmem
  induction widths with
  | nil => cases hmem
  | cons n widths ih =>
    rw [List.foldr_cons]
    rcases List.mem_cons.1 hmem with rfl | hmem
    · exact Nat.le_max_left _ _
    · exact Nat.le_trans (ih hmem) (Nat.le_max_right _ _)

/-- One more row widens a column to its own cell there, if it has one. -/
theorem columnWidth_append_singleton (rows : List (List String)) (row : List String) (k : Nat) :
    columnWidth width (rows ++ [row]) k =
      max (columnWidth width rows k) ((row.map width)[k]?.getD 0) := by
  have hfold : ∀ widths : List Nat, ∀ n, (widths ++ [n]).foldr max 0 = max (widths.foldr max 0) n := by
    intro widths n
    induction widths with
    | nil => simp
    | cons m widths ih => rw [List.cons_append, List.foldr_cons, ih, List.foldr_cons, Nat.max_assoc]
  rw [columnWidth, List.filterMap_append, List.getElem?_map]
  cases hcell : row[k]? with
  | none => simp [hcell, columnWidth]
  | some cell => simp [hcell, hfold, columnWidth]

theorem getElem?_zipMax (widths ns : List Nat) (k : Nat) :
    (zipMax widths ns)[k]? = widths[k]?.map fun w => max w (ns[k]?.getD 0) := by
  induction widths generalizing ns k with
  | nil => rfl
  | cons w widths ih =>
    cases ns with
    | nil => cases k <;> simp [zipMax]
    | cons n ns =>
      cases k with
      | zero => rfl
      | succ k => simpa [zipMax] using ih ns k

theorem getElem?_columnWidths (rows : List (List String)) (count k : Nat) :
    (columnWidths width rows count)[k]? =
      if k < count then some (columnWidth width rows k) else none := by
  rw [columnWidths, List.getElem?_map]
  split
  · rename_i hk
    rw [List.getElem?_range hk, Option.map_some]
  · rename_i hk
    rw [List.getElem?_eq_none (by simp only [List.length_range]; omega), Option.map_none]

theorem zipMax_columnWidths (rows : List (List String)) (row : List String) (count : Nat) :
    zipMax (columnWidths width rows count) (row.map width) =
      columnWidths width (rows ++ [row]) count := by
  refine List.ext_getElem? fun k => ?_
  rw [getElem?_zipMax, getElem?_columnWidths, getElem?_columnWidths,
    columnWidth_append_singleton]
  split <;> rfl

end Widths

/-! ## What is to be shown -/

/-- Whether a character breaks a line. -/
def IsBreak (c : Char) : Prop := c = '\n' ∨ c = '\r'

instance (c : Char) : Decidable (IsBreak c) := inferInstanceAs (Decidable (_ ∨ _))

/-- A cell as it is to be shown: the missing value by its name, and a blank for each line break. -/
def shownCell (cell : Cell) : String :=
  let content := if cell = .null then "NULL" else cell.display ""
  String.ofList (content.toList.map fun c => if IsBreak c then ' ' else c)

theorem cellText_eq_shownCell (cell : Cell) : cellText cell = shownCell cell := by
  have hcontent : cell.display "NULL" = if cell = .null then "NULL" else cell.display "" := by
    cases cell <;> rfl
  have hbreak : ∀ c : Char, (if c == '\n' || c == '\r' then ' ' else c) =
      if IsBreak c then ' ' else c := by
    intro c
    exact if_congr (by simp [IsBreak]) rfl rfl
  rw [cellText, flattened, hcontent, shownCell, ← String.toList_inj, String.toList_map,
    String.toList_ofList]
  exact List.map_congr_left fun c _ => hbreak c

/-- The rows that a result is printed as: the header, then the rows of all batches. -/
def shownRows (schema : Schema) (batches : List Batch) : List (List String) :=
  schema.map Field.name :: (batches.flatMap Batch.rows).map fun row => row.map shownCell

/-! ## What a writer knows -/

/-- A writer that is made for a result and is given batches of it. -/
def Writer.given (width : String → Nat) (schema : Schema) (batches : List Batch) : Writer :=
  batches.foldl (Writer.write width) (.create width schema)

/-- What is printed of a result in the end. -/
def printed (width : String → Nat) (schema : Schema) (batches : List Batch) : String :=
  ((Writer.given width schema batches).flush width).text

/-- A writer that has kept some rows: it knows the greatest width of each of its columns, and has
printed nothing. -/
structure Writer.Holds (width : String → Nat) (count : Nat) (rows : List (List String))
    (w : Writer) : Prop where
  /-- The rows are kept in their order. -/
  kept : w.rows = rows
  /-- The widths are the greatest ones so far. -/
  widest : w.widths = columnWidths width rows count
  /-- Nothing is printed. -/
  silent : w.text = ""

section Writers

variable {width : String → Nat} {count : Nat} {rows : List (List String)} {w : Writer}

theorem holds_create (width : String → Nat) (schema : Schema) :
    (Writer.create width schema).Holds width schema.length [schema.map Field.name] where
  kept := rfl
  widest := by
    refine List.ext_getElem? fun k => ?_
    rw [Writer.create, getElem?_columnWidths, List.getElem?_map, List.getElem?_map]
    split
    · rename_i hk
      simp [columnWidth, List.getElem?_eq_getElem hk]
    · rename_i hk
      rw [List.getElem?_eq_none (by omega), Option.map_none, Option.map_none]
  silent := rfl

theorem Writer.Holds.keep (h : w.Holds width count rows) (row : Row) :
    (w.keep width row).Holds width count (rows ++ [row.map shownCell]) where
  kept := by rw [Writer.keep, h.kept, funext cellText_eq_shownCell]
  widest := by
    rw [Writer.keep, h.widest, funext cellText_eq_shownCell]
    exact zipMax_columnWidths rows (row.map shownCell) count
  silent := h.silent

theorem Writer.Holds.write (h : w.Holds width count rows) (b : Batch) :
    (w.write width b).Holds width count (rows ++ b.rows.map fun row => row.map shownCell) := by
  rw [Writer.write]
  induction b.rows generalizing w rows with
  | nil => simpa using h
  | cons row more ih => simpa using ih (h.keep row)

/-- Any batches leave a writer with their rows behind those that it had. -/
theorem Writer.Holds.foldl_write (h : w.Holds width count rows) (batches : List Batch) :
    (batches.foldl (Writer.write width) w).Holds width count
      (rows ++ (batches.flatMap Batch.rows).map fun row => row.map shownCell) := by
  induction batches generalizing w rows with
  | nil => simpa using h
  | cons b batches ih => simpa using ih (h.write b)

theorem holds_given (width : String → Nat) (schema : Schema) (batches : List Batch) :
    (Writer.given width schema batches).Holds width schema.length (shownRows schema batches) :=
  (holds_create width schema).foldl_write batches

/-- The lines of a result. -/
def shownLines (width : String → Nat) (schema : Schema) (batches : List Batch) : List String :=
  let rows := shownRows schema batches
  rows.map (rowText width (columnWidths width rows schema.length))

theorem printed_eq (width : String → Nat) (schema : Schema) (batches : List Batch) :
    printed width schema batches =
      Text.joined "" ((shownLines width schema batches).map (· ++ "\n")) := by
  have h := holds_given width schema batches
  rw [printed, Writer.flush, h.silent, h.kept, h.widest, shownLines, List.map_map]
  simp [Function.comp_def]

end Writers

/-! ## Rows in their lines -/

/-- A line that shows a row in columns of some widths: one blank stands between two cells, and
every cell but the last has as many blanks behind it as it takes to fill its column. -/
inductive IsAligned (width : String → Nat) : List Nat → List String → String → Prop
  /-- No cells, nothing. -/
  | nil (widths : List Nat) : IsAligned width widths [] ""
  /-- The last cell stands as it is. -/
  | last (widths : List Nat) (cell : String) : IsAligned width widths [cell] cell
  /-- Any other cell is filled up. -/
  | cons {w gap : Nat} {widths : List Nat} {cell next line : String} {rest : List String}
      (hfull : width cell + gap = w) (hrest : IsAligned width widths (next :: rest) line) :
      IsAligned width (w :: widths) (cell :: next :: rest)
        (cell ++ Text.repeated gap ' ' ++ " " ++ line)

/-- What stands in a line before some cell: the cells before it, filled up, and a blank behind
each. The total is what the widths and the blanks come to. -/
inductive IsFront (width : String → Nat) : List String → Nat → String → Prop
  /-- Nothing is before the first cell. -/
  | nil : IsFront width [] 0 ""
  /-- A cell, blanks that fill it up, and the one that separates it. -/
  | cons {total gap : Nat} {cell front : String} {cells : List String}
      (hrest : IsFront width cells total front) :
      IsFront width (cell :: cells) (width cell + gap + 1 + total)
        (cell ++ Text.repeated gap ' ' ++ " " ++ front)

section Lines

variable {width : String → Nat}

theorem isAligned_rowText {row : List String} {widths : List Nat}
    (h : List.Forall₂ (fun cell w => width cell ≤ w) row widths) :
    IsAligned width widths row (rowText width widths row) := by
  induction h with
  | nil => exact .nil []
  | @cons cell w row widths hfits hrest ih =>
    cases row with
    | nil => exact .last _ cell
    | cons next rest =>
      have hline : rowText width (w :: widths) (cell :: next :: rest) =
          cell ++ Text.repeated (w - width cell) ' ' ++ " " ++
            rowText width widths (next :: rest) := by
        cases rest <;> rfl
      rw [hline]
      exact .cons (Nat.add_sub_of_le hfits) ih

/-- A cell starts where the columns before it and the blanks between them end, and none of it is
left out. -/
theorem IsAligned.starts {widths : List Nat} {row : List String} {line : String}
    (h : IsAligned width widths row line) {k : Nat} {cell : String} (hcell : row[k]? = some cell) :
    ∃ front rest, line = front ++ cell ++ rest ∧
      IsFront width (row.take k) ((widths.take k).sum + k) front := by
  induction h generalizing k with
  | nil => simp at hcell
  | last widths last =>
    cases k with
    | zero =>
      obtain rfl := Option.some.inj hcell
      exact ⟨"", "", by simp, .nil⟩
    | succ k => simp at hcell
  | @cons w gap widths first next line rest hfull _ ih =>
    cases k with
    | zero =>
      obtain rfl := Option.some.inj hcell
      exact ⟨"", Text.repeated gap ' ' ++ " " ++ line, by simp [String.append_assoc], .nil⟩
    | succ k =>
      obtain ⟨front, after, hline, hfront⟩ := ih hcell
      refine ⟨first ++ Text.repeated gap ' ' ++ " " ++ front, after, ?_, ?_⟩
      · rw [hline]
        simp only [String.append_assoc]
      · have htotal : ((w :: widths).take (k + 1)).sum + (k + 1) =
            width first + gap + 1 + ((widths.take k).sum + k) := by
          rw [List.take_succ_cons, List.sum_cons]
          omega
        rw [htotal]
        exact .cons hfront

/-- How a row of a result stands in its line: aligned, and with each cell at the start of its
column. -/
structure IsLineOf (width : String → Nat) (widths : List Nat) (row : List String)
    (line : String) : Prop where
  /-- The row is aligned. -/
  aligned : IsAligned width widths row line
  /-- A cell starts after the columns before it, each with a blank behind it. -/
  starts : ∀ k cell, row[k]? = some cell → ∃ front rest, line = front ++ cell ++ rest ∧
    IsFront width (row.take k) ((widths.take k).sum + k) front

/-- A row of a result that is as wide as its header stands aligned. -/
theorem isLineOf_rowText {rows : List (List String)} {row : List String} (hrow : row ∈ rows)
    {count : Nat} (hlength : row.length = count) :
    IsLineOf width (columnWidths width rows count) row
      (rowText width (columnWidths width rows count) row) := by
  have hfits : List.Forall₂ (fun cell w => width cell ≤ w) row (columnWidths width rows count) := by
    rw [List.forall₂_iff_get]
    refine ⟨by simp [columnWidths, hlength], fun k hk _ => ?_⟩
    simpa [columnWidths] using le_columnWidth hrow (List.getElem?_eq_getElem hk)
  have haligned := isAligned_rowText hfits
  exact ⟨haligned, fun _ _ hcell => haligned.starts hcell⟩

end Lines

theorem length_of_mem_shownRows {schema : Schema} {batches : List Batch}
    (hwidth : ∀ b ∈ batches, ∀ row ∈ b.rows, row.length = schema.length) {row : List String}
    (hrow : row ∈ shownRows schema batches) : row.length = schema.length := by
  rcases List.mem_cons.1 hrow with rfl | hrow
  · rw [List.length_map]
  · obtain ⟨cells, hcells, rfl⟩ := List.mem_map.1 hrow
    obtain ⟨b, hb, hcells⟩ := List.mem_flatMap.1 hcells
    rw [List.length_map, hwidth b hb cells hcells]

/-- Nothing is printed while batches come in. In the end there is a line for the header and one
for each row, in their order, and in all of them the columns are as wide as their widest cell. -/
theorem printed_aligned (width : String → Nat) {schema : Schema} {batches : List Batch}
    (hwidth : ∀ b ∈ batches, ∀ row ∈ b.rows, row.length = schema.length) :
    let rows := shownRows schema batches
    (∀ front, front <+: batches → (Writer.given width schema front).text = "") ∧
      ∃ lines : List String,
        printed width schema batches = Text.joined "" (lines.map (· ++ "\n")) ∧
        List.Forall₂ (IsLineOf width (columnWidths width rows schema.length)) rows lines := by
  intro rows
  refine ⟨fun front _ => (holds_given width schema front).silent,
    shownLines width schema batches, printed_eq width schema batches, ?_⟩
  rw [shownLines, List.forall₂_map_right_iff, List.forall₂_same]
  intro row hrow
  exact isLineOf_rowText hrow (length_of_mem_shownRows hwidth hrow)

theorem printed_aligned_people :
    let schema : Schema := [⟨"id", .whole⟩, ⟨"name", .text⟩, ⟨"note", .text⟩]
    let batches : List Batch :=
      [⟨[[.whole 1, .text "Zoë", .text "two\nlines"]]⟩, ⟨[]⟩, ⟨[[.null, .text "Al", .text ""]]⟩]
    let rows := shownRows schema batches
    printed Text.clusterCount schema batches =
        "id   name note\n1    Zoë  two lines\nNULL Al   \n" ∧
      (∀ front, front <+: batches → (Writer.given Text.clusterCount schema front).text = "") ∧
      ∃ lines : List String,
        printed Text.clusterCount schema batches = Text.joined "" (lines.map (· ++ "\n")) ∧
        List.Forall₂ (IsLineOf Text.clusterCount (columnWidths Text.clusterCount rows 3))
          rows lines := by
  intro schema batches rows
  have hwidth : ∀ b ∈ batches, ∀ row ∈ b.rows, row.length = schema.length := by decide
  exact ⟨by decide +kernel, printed_aligned Text.clusterCount hwidth⟩

/-! ## Line breaks -/

section Breaks

variable {width : String → Nat} {c : Char}

theorem count_repeated (hc : IsBreak c) (n : Nat) :
    (Text.repeated n ' ').toList.count c = 0 := by
  rw [List.count_eq_zero, Text.repeated, String.toList_ofList]
  intro hmem
  rw [List.eq_of_mem_replicate hmem] at hc
  exact absurd hc (by decide)

/-- A line has the line breaks of its cells and no other. -/
theorem count_rowText (hc : IsBreak c) (widths : List Nat) (row : List String) :
    (rowText width widths row).toList.count c = (row.map fun cell => cell.toList.count c).sum := by
  have hblank : (" ".toList).count c = 0 := count_repeated hc 1
  induction row generalizing widths with
  | nil => rfl
  | cons cell row ih =>
    cases row with
    | nil => simp [rowText, paddedCells]
    | cons next rest =>
      have hline : rowText width widths (cell :: next :: rest) =
          cell ++ Text.repeated (widths.head?.getD 0 - width cell) ' ' ++ " " ++
            rowText width widths.tail (next :: rest) := by
        cases rest <;> rfl
      rw [hline, List.map_cons, List.sum_cons, ← ih widths.tail]
      simp only [String.toList_append, List.count_append, hblank, count_repeated hc]
      omega

theorem count_shownCell (hc : IsBreak c) (cell : Cell) : (shownCell cell).toList.count c = 0 := by
  rw [shownCell, String.toList_ofList, List.count_eq_zero, List.mem_map]
  rintro ⟨d, -, hd⟩
  split at hd
  · subst hd
    exact absurd hc (by decide)
  · subst hd
    contradiction

/-- Only the header of a result has line breaks of its own. -/
theorem sum_count_shownLines (width : String → Nat) (hc : IsBreak c) (schema : Schema)
    (batches : List Batch) :
    ((shownLines width schema batches).map fun line => line.toList.count c).sum =
      (schema.map fun field => field.name.toList.count c).sum := by
  simp only [shownLines, shownRows, List.map_cons, List.map_map, List.sum_cons, Function.comp_def,
    count_rowText hc]
  simp [count_shownCell hc]

theorem length_shownLines (schema : Schema) (batches : List Batch) :
    (shownLines width schema batches).length = (batches.flatMap Batch.rows).length + 1 := by
  rw [shownLines, List.length_map, shownRows, List.length_cons, List.length_map]

theorem toList_printed (schema : Schema) (batches : List Batch) :
    (printed width schema batches).toList =
      ((shownLines width schema batches).map String.toList).flatMap (· ++ ['\n']) := by
  rw [printed_eq, Text.toList_joined_empty, List.flatMap_map, List.flatMap_map]
  exact List.flatMap_congr fun line _ => String.toList_append

end Breaks

theorem sum_count_eq_zero_iff {c : Char} {schema : Schema} :
    (schema.map fun field => field.name.toList.count c).sum = 0 ↔
      ∀ field ∈ schema, c ∉ field.name.toList := by
  rw [List.sum_eq_zero_iff_forall_eq_nat, List.forall_mem_map]
  exact forall₂_congr fun _ _ => List.count_eq_zero

theorem count_printed {c : Char} (hc : IsBreak c) (width : String → Nat) (schema : Schema)
    (batches : List Batch) :
    (printed width schema batches).toList.count c =
      (schema.map fun field => field.name.toList.count c).sum +
        if c = '\n' then (batches.flatMap Batch.rows).length + 1 else 0 := by
  rw [toList_printed, Text.count_flatMap_ended, List.map_map, List.length_map,
    length_shownLines, ← sum_count_shownLines width hc schema batches]
  rfl

/-- A result is printed with one line feed for the header, one for each row, and the line breaks
that the names of its columns have. So it has a line for the header and one for each row exactly
where no name has a line break. -/
theorem printed_breaks (width : String → Nat) (schema : Schema) (batches : List Batch) :
    let text := (printed width schema batches).toList
    let count := (batches.flatMap Batch.rows).length
    text.count '\n' = count + 1 + (schema.map fun field => field.name.toList.count '\n').sum ∧
      text.count '\r' = (schema.map fun field => field.name.toList.count '\r').sum ∧
      (text.count '\n' = count + 1 ∧ text.count '\r' = 0 ↔
        ∀ field ∈ schema, '\n' ∉ field.name.toList ∧ '\r' ∉ field.name.toList) ∧
      (Text.splitAll '\n' text = (shownLines width schema batches).map String.toList ++ [[]] ↔
        ∀ field ∈ schema, '\n' ∉ field.name.toList) := by
  intro text count
  have hfeeds : text.count '\n' =
      count + 1 + (schema.map fun field => field.name.toList.count '\n').sum := by
    rw [count_printed (.inl rfl), if_pos rfl, Nat.add_comm]
  have hreturns : text.count '\r' =
      (schema.map fun field => field.name.toList.count '\r').sum := by
    rw [count_printed (.inr rfl), if_neg (by decide), Nat.add_zero]
  refine ⟨hfeeds, hreturns, ?_, ?_⟩
  · have hnames : (∀ field ∈ schema, '\n' ∉ field.name.toList ∧ '\r' ∉ field.name.toList) ↔
        (∀ field ∈ schema, '\n' ∉ field.name.toList) ∧
          ∀ field ∈ schema, '\r' ∉ field.name.toList :=
      ⟨fun h => ⟨fun field hf => (h field hf).1, fun field hf => (h field hf).2⟩,
        fun h field hf => ⟨h.1 field hf, h.2 field hf⟩⟩
    rw [hfeeds, hreturns, hnames, ← sum_count_eq_zero_iff, ← sum_count_eq_zero_iff]
    omega
  · -- a line has a line feed exactly where its cells do, and only those of the header may
    have hlines : (∀ line ∈ (shownLines width schema batches).map String.toList, '\n' ∉ line) ↔
        ((shownLines width schema batches).map fun line => line.toList.count '\n').sum = 0 := by
      rw [List.sum_eq_zero_iff_forall_eq_nat, List.forall_mem_map, List.forall_mem_map]
      exact forall₂_congr fun _ _ => List.count_eq_zero.symm
    have htext : text =
        ((shownLines width schema batches).map String.toList).flatMap (· ++ ['\n']) :=
      toList_printed schema batches
    rw [htext, Text.splitAll_flatMap_ended, List.append_left_inj,
      Text.flatMap_splitAll_eq_self_iff, hlines, sum_count_shownLines width (.inl rfl),
      sum_count_eq_zero_iff]

/-- A file whose header has a line break in a name: the result is one row, and takes three
lines. -/
theorem printed_breaks_header :
    let w : Storage.Workspace :=
      { files := [(["h.csv"], .bytes (Text.bytesOf "\"a\nb\",c\n1,2\n"))] }
    let chain : Chain := ⟨[{ select := some (.allOf (Dataset.reference "h.csv")) }]⟩
    let evaluated :=
      ((Session.evaluate (Session.Host.ofWorkspace [] []) {} chain .column none).run w).1
    let text := printed Text.clusterCount [⟨"a\nb", .whole⟩, ⟨"c", .whole⟩]
      [⟨[[.whole 1, .whole 2]]⟩]
    evaluated.result = .ok ⟨1, 1⟩ ∧ evaluated.text? = some text ∧ text = "a\nb c\n1   2\n" ∧
      text.toList.count '\n' ≠ 1 + 1 := by
  decide +kernel

end QueryPipe.Output.Columns
