import QueryPipe.Proofs.Dataset.Columns
import QueryPipe.Proofs.Sql.Answering
import QueryPipe.Proofs.Sql.Rules

/-!
# Questions about a file

What a question about the table of a file answers is stated on the columns and rows of the file
alone, under rules of comparison that are left to the library: the rows that hold all tests, in the
order of the keys, those first that came first where the keys do not tell, as many as the limit
leaves, in the columns that were asked for.

* `Inquiry.answerOn`: the answer.
* `Inquiry.Concerns`: which questions are about a file.
* `answer_tableOf`: a database answers in this way, under its own rules.
-/

namespace QueryPipe

open Dataset (ColumnKind FileColumn kindOf? namesOf valueIn)
open Sql (Inquiry Record Rules Test Value)

namespace Sql

/-! ## Tests -/

/-- Whether a test holds in a row, with the parameters after a number of them. -/
def Test.holdsOn (t : Test) (rules : Rules) (columns : List FileColumn) (params : List Value)
    (row : Record) (k : Nat) : Bool :=
  (kindOf? columns t.column).any fun kind =>
    rules.holds t.comparator kind.affinity (valueIn columns row t.column) (t.given params k)

/-- Whether all tests hold in a row, with the parameters after a number of them. -/
def Test.allHoldOn (rules : Rules) (columns : List FileColumn) (params : List Value)
    (row : Record) : Nat → List Test → Bool
  | _, [] => true
  | k, t :: rest =>
    t.holdsOn rules columns params row k && allHoldOn rules columns params row (t.next k) rest

/-! ## The answer -/

namespace Inquiry

/-- The names of the columns that a question shows, where a star stands for some names. -/
def shownIn (q : Inquiry) (names : List String) : List String :=
  q.columns.flatMap fun column? =>
    match column? with
    | some name => [name]
    | none => names

/-- Rows in the order of the keys; rows that these do not tell apart stay as they are. -/
def sortedOn (q : Inquiry) (columns : List FileColumn) (rows : List Record) : List Record :=
  rows.mergeSort fun a b =>
    orderOfValues q.descending (q.keys.map (valueIn columns a)) (q.keys.map (valueIn columns b)) !=
      .gt

/-- The rows that a question answers on the columns and rows of a file. -/
def answerOn (q : Inquiry) (rules : Rules) (columns : List FileColumn) (params : List Value)
    (rows : List Record) : List Record :=
  let kept := rows.filter fun row => Test.allHoldOn rules columns params row 0 q.tests
  (q.cut (q.sortedOn columns kept)).map fun row =>
    (q.shownIn (namesOf columns)).map (valueIn columns row)

/-- Whether a question is about a file with some columns: its table has a name that does not end a
statement, and every column is one of the file, with a name that stands without quotes. -/
structure Concerns (q : Inquiry) (columns : List FileColumn) : Prop where
  /-- The names in it stand without quotes. -/
  plain : q.IsPlain
  /-- The table has the first name that is supplied. -/
  called : q.name = "t1"
  /-- The name of the file does not end a statement. -/
  whole : '\x00' ∉ q.table.toList
  /-- The columns that are shown. -/
  shown : ∀ name, some name ∈ q.columns → name ∈ namesOf columns
  /-- The columns that are tested. -/
  tests : ∀ test ∈ q.tests, test.column ∈ namesOf columns
  /-- The columns that rows are sorted by. -/
  keys : ∀ name ∈ q.keys, name ∈ namesOf columns

theorem Concerns.shownIn_subset {q : Inquiry} {columns : List FileColumn} (h : q.Concerns columns) :
    ∀ name ∈ q.shownIn (namesOf columns), name ∈ namesOf columns := by
  intro name hname
  obtain ⟨column?, hcolumn, hname⟩ := List.mem_flatMap.1 hname
  cases column? with
  | none => exact hname
  | some other =>
    obtain rfl := List.mem_singleton.1 hname
    exact h.shown name hcolumn

end Inquiry

end Sql

/-! ## Databases -/

namespace Dataset

variable {columns : List FileColumn} {rows : List Record} {file : String} {q : Inquiry}
  {params : List Value}

theorem isAbout_tableOf (h : q.Concerns columns) (file : String) (rows : List Record) :
    q.IsAbout (tableOf file columns rows) := by
  have hnames : (tableOf file columns rows).names = namesOf columns := names_tableOf
  exact ⟨hnames ▸ h.shown, hnames ▸ h.tests, hnames ▸ h.keys⟩

theorem shownNames_tableOf (q : Inquiry) (file : String) (rows : List Record) :
    Sql.shownNames (tableOf file columns rows) q.columns = q.shownIn (namesOf columns) := by
  rw [Sql.shownNames, names_tableOf]
  rfl

/-- What a record has in a column is what the row without its number has. -/
theorem cell_tableOf (record : Record) {name : String} (hname : name ∈ namesOf columns) :
    (tableOf file columns rows).cell record name =
      valueIn columns (record.take columns.length) name := by
  have hlt : (namesOf columns).idxOf name < columns.length := by
    have h := List.idxOf_lt_length_of_mem hname
    rwa [namesOf, List.length_map] at h
  rw [Sql.Table.cell, names_tableOf, valueIn, List.getElem?_take_of_lt hlt]

/-- Tests hold in a record of the table where they hold in its row under the rules of databases. -/
theorem allHold_tableOf {tests : List Test} (h : ∀ t ∈ tests, t.column ∈ namesOf columns)
    (record : Record) (k : Nat) :
    Test.allHold (tableOf file columns rows) params record k tests =
      Test.allHoldOn Rules.ofDatabase columns params (record.take columns.length) k tests := by
  induction tests generalizing k with
  | nil => rfl
  | cons t rest ih =>
    rw [List.forall_mem_cons] at h
    obtain ⟨kind, hkind⟩ := exists_kindOf? h.1
    have ht : t.holds (tableOf file columns rows) params record k =
        t.holdsOn Rules.ofDatabase columns params (record.take columns.length) k := by
      rw [Test.holds, Test.outcome, columnOf_tableOf hkind, cell_tableOf record h.1, Test.holdsOn,
        hkind, Option.any_some, Sql.holds_ofDatabase]
      rfl
    rw [Test.allHold, Test.allHoldOn, ht, ih h.2]

/-- A database answers a question about a file on the rows of its table. -/
theorem answer_tableOf (h : q.Concerns columns)
    (hwidth : ∀ row ∈ rows, row.length = columns.length) :
    q.answer (tableOf file columns rows) params =
      q.answerOn Rules.ofDatabase columns params (rows.map (storedRow columns)) := by
  have hhold : ∀ record : Record,
      Test.allHold (tableOf file columns rows) params record 0 q.tests =
        Test.allHoldOn Rules.ofDatabase columns params (record.take columns.length) 0 q.tests :=
    fun record => allHold_tableOf h.tests record 0
  have hshown : ∀ record : Record,
      (Sql.shownNames (tableOf file columns rows) q.columns).map
          ((tableOf file columns rows).cell record) =
        (q.shownIn (namesOf columns)).map (valueIn columns (record.take columns.length)) := by
    intro record
    rw [shownNames_tableOf]
    exact List.map_congr_left fun name hname => cell_tableOf record (h.shownIn_subset name hname)
  have hsorted : ∀ records : List Record,
      (records.mergeSort (q.mayPrecede (tableOf file columns rows))).map
          (List.take columns.length) =
        q.sortedOn columns (records.map (List.take columns.length)) := by
    intro records
    have hcells : ∀ record : Record,
        q.keys.map ((tableOf file columns rows).cell record) =
          q.keys.map (valueIn columns (record.take columns.length)) :=
      fun record => List.map_congr_left fun name hname => cell_tableOf record (h.keys name hname)
    rw [Inquiry.sortedOn]
    refine List.map_mergeSort fun a _ b _ => ?_
    rw [Inquiry.mayPrecede, hcells, hcells]
  rw [← map_take_records file hwidth, Inquiry.answerOn, Inquiry.answer]
  simp only [hhold, hshown]
  rw [List.filter_map, ← hsorted, Inquiry.cut_map, List.map_map]
  rfl

end Dataset

end QueryPipe
