import QueryPipe.Proofs.Dataset.Making
import QueryPipe.Proofs.Text.Blank

/-!
# Names of columns with blank headings

A blank heading is named after its place. These names differ from each other and are never blank,
but nothing keeps another heading from spelling one of them out: a heading `column2` and a blank one
in second place make two columns of one name, and a table with such columns is refused. Where no
heading does so, headings that differ make columns that differ.

* `numberedName`, `sameWord_numberedName`: the names of blank headings.
* `HasClash`, `pairwise_columnName_iff`: headings of which two make one name.
* `withTable_ne_duplicate`, `exists_duplicate_of_not_pairwise`: tables that are refused for names.
* `Table.Reads.columns_collide_iff`: what this means for a file.
* `Table.columns_collide_numbered`: a file that is not loaded.
-/

namespace QueryPipe.Dataset

open Sql (Database)

/-! ## Names -/

/-- The name of a blank heading at an index. -/
def numberedName (index : Nat) : String := "column" ++ toString (index + 1)

theorem columnName_of_blank {heading : String} (h : Text.trim heading = "") (k : Nat) :
    columnName k heading = numberedName k := by
  simp [columnName, h, numberedName]

theorem columnName_of_not_blank {heading : String} (h : Text.trim heading ≠ "") (k : Nat) :
    columnName k heading = Text.trim heading := by
  simp [columnName, h]

theorem toList_numberedName (k : Nat) :
    (numberedName k).toList = "column".toList ++ Nat.toDigits 10 (k + 1) := by
  have hdigits : (toString (k + 1)).toList = Nat.toDigits 10 (k + 1) := String.toList_ofList
  rw [numberedName, String.toList_append, hdigits]

theorem isDigit_of_mem_place {k : Nat} {c : Char} (h : c ∈ Nat.toDigits 10 (k + 1)) :
    c.isDigit = true :=
  Nat.isDigit_of_mem_toDigits (by decide) (by decide) h

/-- A name that ends in a number is the same in lower case. -/
theorem toLower_numberedName (k : Nat) : (numberedName k).toLower = numberedName k := by
  have hdigits : (Nat.toDigits 10 (k + 1)).map Char.toLower = Nat.toDigits 10 (k + 1) := by
    refine (List.map_congr_left fun c hc => ?_).trans (List.map_id _)
    exact Numeral.Decimal.toLower_of_isDigit (isDigit_of_mem_place hc)
  have hstem : "column".toList.map Char.toLower = "column".toList := by decide
  have hmap : (numberedName k).toLower.toList = (numberedName k).toList.map Char.toLower :=
    String.toList_map
  rw [← String.toList_inj, hmap, toList_numberedName, List.map_append, hstem, hdigits]

theorem numberedName_inj {i j : Nat} : numberedName i = numberedName j ↔ i = j := by
  constructor
  · intro h
    rw [← String.toList_inj, toList_numberedName, toList_numberedName] at h
    have hvalues := congrArg (fun digits => Nat.ofDigitChars 10 digits 0)
      (List.append_cancel_left h)
    simpa using hvalues
  · rintro rfl
    rfl

/-- Blank headings in different places get different names. -/
theorem sameWord_numberedName {i j : Nat} :
    Text.sameWord (numberedName i) (numberedName j) = true ↔ i = j := by
  rw [Text.sameWord, toLower_numberedName, toLower_numberedName, beq_iff_eq, numberedName_inj]

theorem sameWord_empty_numberedName (k : Nat) : Text.sameWord "" (numberedName k) = false := by
  have hlower : "".toLower = "" := by decide +kernel
  have hne : "" ≠ numberedName k := by
    intro h
    simpa [numberedName] using congrArg String.toList h
  rw [Text.sameWord, toLower_numberedName, hlower, beq_eq_false_iff_ne]
  exact hne

/-- No column is without a name. -/
theorem trim_columnName_ne_empty (k : Nat) (heading : String) :
    Text.trim (columnName k heading) ≠ "" := by
  by_cases h : Text.trim heading = ""
  · rw [columnName_of_blank h, ne_eq, Text.trim_eq_empty_iff]
    intro hblank
    exact absurd (hblank 'c' (by simp [numberedName])) (by decide)
  · rw [columnName_of_not_blank h, ne_eq, Text.trim_trim_eq_empty_iff]
    exact h

theorem notMem_columnName {k : Nat} {heading : String} (h : '\x00' ∉ heading.toList) :
    '\x00' ∉ (columnName k heading).toList := by
  by_cases hblank : Text.trim heading = ""
  · rw [columnName_of_blank hblank, toList_numberedName, List.mem_append, not_or]
    exact ⟨by decide, fun hmem => absurd (isDigit_of_mem_place hmem) (by decide)⟩
  · rw [columnName_of_not_blank hblank, Text.trim, String.toList_ofList]
    exact fun hmem => h (Text.mem_trimChars hmem)

/-! ## Clashes -/

/-- Whether headings that are not blank differ in more than case and blanks around them. -/
def AreUnlike (headings : List String) : Prop :=
  ((headings.map Text.trim).filter fun name => name ≠ "").Pairwise fun a b =>
    Text.sameWord a b = false

/-- Whether a heading spells out the name of a blank one. -/
def HasClash (headings : List String) : Prop :=
  ∃ (i j : Nat) (blank heading : String), headings[i]? = some blank ∧
    headings[j]? = some heading ∧ Text.trim blank = "" ∧
    Text.sameWord (Text.trim heading) (numberedName i) = true

section Clashes

variable {headings : List String}

theorem AreUnlike.pairwise (h : AreUnlike headings) :
    headings.Pairwise fun a b => Text.trim a ≠ "" → Text.trim b ≠ "" →
      Text.sameWord (Text.trim a) (Text.trim b) = false := by
  rw [AreUnlike, List.pairwise_filter, List.pairwise_map] at h
  exact h.imp fun hab ha hb => hab (by simpa using ha) (by simpa using hb)

/-- A blank heading and another one make one name only if there is a clash. -/
theorem sameWord_of_not_clash (h : ¬ HasClash headings) {i j : Nat} {blank heading : String}
    (hi : headings[i]? = some blank) (hj : headings[j]? = some heading)
    (hblank : Text.trim blank = "") (hheading : Text.trim heading ≠ "") :
    Text.sameWord (columnName j heading) (columnName i blank) = false := by
  rw [columnName_of_not_blank hheading, columnName_of_blank hblank, Bool.eq_false_iff]
  exact fun hsame => h ⟨i, j, blank, heading, hi, hj, hblank, hsame⟩

/-- Under headings that differ, the names of the columns differ unless a heading spells out the name
of a blank one. -/
theorem pairwise_columnName_iff (h : AreUnlike headings) :
    (headings.mapIdx columnName).Pairwise (fun a b => Text.sameWord a b = false) ↔
      ¬ HasClash headings := by
  constructor
  · rintro hpairwise ⟨i, j, blank, heading, hi, hj, hblank, hsame⟩
    have hheading : Text.trim heading ≠ "" := by
      intro hempty
      rw [hempty, sameWord_empty_numberedName] at hsame
      cases hsame
    have hne : i ≠ j := by
      rintro rfl
      obtain rfl := Option.some.inj (hi.symm.trans hj)
      exact hheading hblank
    have hnames : Text.sameWord (columnName j heading) (columnName i blank) = true := by
      rw [columnName_of_not_blank hheading, columnName_of_blank hblank]
      exact hsame
    rw [List.pairwise_iff_getElem] at hpairwise
    obtain ⟨hilt, rfl⟩ := List.getElem?_eq_some_iff.1 hi
    obtain ⟨hjlt, rfl⟩ := List.getElem?_eq_some_iff.1 hj
    rcases Nat.lt_or_gt_of_ne hne with hlt | hlt
    · have hunlike := hpairwise i j (by simpa using hilt) (by simpa using hjlt) hlt
      rw [List.getElem_mapIdx, List.getElem_mapIdx, Sql.sameWord_comm, hnames] at hunlike
      cases hunlike
    · have hunlike := hpairwise j i (by simpa using hjlt) (by simpa using hilt) hlt
      rw [List.getElem_mapIdx, List.getElem_mapIdx, hnames] at hunlike
      cases hunlike
  · intro hclash
    rw [List.pairwise_iff_getElem]
    intro i j hi hj hlt
    rw [List.length_mapIdx] at hi hj
    rw [List.getElem_mapIdx, List.getElem_mapIdx]
    have hfound : headings[i]? = some headings[i] := List.getElem?_eq_getElem hi
    have hfound' : headings[j]? = some headings[j] := List.getElem?_eq_getElem hj
    by_cases hblank : Text.trim headings[i] = ""
    · by_cases hblank' : Text.trim headings[j] = ""
      · rw [columnName_of_blank hblank, columnName_of_blank hblank', Bool.eq_false_iff,
          ne_eq, sameWord_numberedName]
        exact hlt.ne
      · rw [Sql.sameWord_comm]
        exact sameWord_of_not_clash hclash hfound hfound' hblank hblank'
    · by_cases hblank' : Text.trim headings[j] = ""
      · exact sameWord_of_not_clash hclash hfound' hfound hblank' hblank
      · rw [columnName_of_not_blank hblank, columnName_of_not_blank hblank']
        exact List.pairwise_iff_getElem.1 h.pairwise i j hi hj hlt hblank hblank'

end Clashes

/-! ## Tables that are refused -/

section Refused

variable {db : Database} {table : String} {columns : List FileColumn}

/-- Columns that are not too many are refused for their names alone. -/
theorem exists_duplicate_of_refusedColumns {seen : List String}
    {definitions : List Sql.ColumnDefinition} {problem : Sql.Problem}
    (hwidth : seen.length + definitions.length ≤ Database.greatestWidth)
    (h : Database.refusedColumns table seen definitions = .error problem) :
    ∃ name, problem = .duplicateColumn name := by
  induction definitions generalizing seen with
  | nil => cases h
  | cons c rest ih =>
    rw [List.length_cons] at hwidth
    rw [Database.refusedColumns, if_neg (by omega)] at h
    split at h
    · exact ⟨c.name, (Except.error.inj h).symm⟩
    · exact ih (by rw [List.length_cons]; omega) h

theorem refusedColumns_ne_duplicate {seen : List String}
    {definitions : List Sql.ColumnDefinition} {name : String}
    (hseen : ∀ c ∈ definitions, ∀ s ∈ seen, Text.sameWord c.name s = false)
    (hdistinct : definitions.Pairwise fun c d => Text.sameWord d.name c.name = false) :
    Database.refusedColumns table seen definitions ≠ .error (.duplicateColumn name) := by
  induction definitions generalizing seen with
  | nil => simp [Database.refusedColumns]
  | cons c rest ih =>
    rw [List.forall_mem_cons] at hseen
    rw [List.pairwise_cons] at hdistinct
    have hnew : ¬ seen.any (Text.sameWord c.name) = true := by
      rw [List.any_eq_true]
      rintro ⟨s, hs, hsame⟩
      rw [hseen.1 s hs] at hsame
      cases hsame
    rw [Database.refusedColumns]
    by_cases hwide : Database.greatestWidth ≤ seen.length
    · simp [if_pos hwide]
    · rw [if_neg hwide, if_neg hnew]
      refine ih (fun d hd s hs => ?_) hdistinct.2
      rcases List.mem_cons.1 hs with rfl | hs
      · exact hdistinct.1 d hd
      · exact hseen.2 d hd s hs

theorem placeFor_ne_duplicate {written name : String} :
    db.placeFor ⟨true, false, ⟨none, table⟩, written⟩ ≠ .error (.duplicateColumn name) := by
  intro h
  cases hforeign : db.foreign with
  | true => simp [Database.placeFor, Database.accessible, hforeign, bind, Except.bind] at h
  | false =>
    simp only [Database.placeFor, Database.accessible, hforeign, Database.schemaOf, if_true, bind,
      Except.bind, pure, Except.pure, throw, throwThe, MonadExceptOf.throw, Bool.false_eq_true,
      if_false] at h
    repeat' split at h
    all_goals cases h

/-- What can be wrong when a table is not made. -/
theorem cases_of_withTable_eq_error {problem : Sql.Problem}
    (h : withTable table columns db = .error problem) :
    (∃ written, problem = .unrecognized written) ∨
      db.placeFor ⟨true, false, ⟨none, table⟩, quoteIdentifier table⟩ = .error problem ∨
      Database.refusedColumns table [] (columns.map FileColumn.columnDefinition) =
        .error problem := by
  cases hcut : cutOff? (tableStatement table columns) with
  | some found =>
    rw [withTable, hcut] at h
    obtain rfl := Except.error.inj h
    rw [cutOff?] at hcut
    split at hcut
    · obtain ⟨token, -, rfl⟩ := Option.map_eq_some_iff.1 hcut
      exact .inl ⟨token.written, rfl⟩
    · cases hcut
  | none =>
    rw [withTable_of_whole hcut] at h
    cases hplace : db.placeFor ⟨true, false, ⟨none, table⟩, quoteIdentifier table⟩ with
    | error found =>
      rw [hplace] at h
      exact .inr (.inl (congrArg Except.error (Except.error.inj h)))
    | ok _ =>
      rw [hplace] at h
      exact .inr (.inr (map_eq_error_iff.1 h))

/-- No table is refused for its names if they differ in more than case. -/
theorem withTable_ne_duplicate {name : String}
    (h : (namesOf columns).Pairwise fun a b => Text.sameWord a b = false) :
    withTable table columns db ≠ .error (.duplicateColumn name) := by
  intro hmade
  rcases cases_of_withTable_eq_error hmade with ⟨written, hcut⟩ | hplace | hrefused
  · cases hcut
  · exact placeFor_ne_duplicate hplace
  · refine refusedColumns_ne_duplicate (by simp) (List.pairwise_map.2 ?_) hrefused
    refine (List.pairwise_map.1 h).imp fun {c d} hunlike => ?_
    rw [Sql.sameWord_comm]
    exact hunlike

/-- Where there is room, a table is refused for two names that differ at most in case. -/
theorem exists_duplicate_of_not_pairwise (hroom : HasRoomFor db table)
    (htable : '\x00' ∉ table.toList) (hwhole : ∀ name ∈ namesOf columns, '\x00' ∉ name.toList)
    (hwidth : columns.length ≤ Database.greatestWidth)
    (h : ¬ (namesOf columns).Pairwise fun a b => Text.sameWord a b = false) :
    ∃ name, withTable table columns db = .error (.duplicateColumn name) := by
  rw [withTable_of_room hroom (cutOff?_tableStatement htable hwhole)]
  cases hrefused : Database.refusedColumns table [] (columns.map FileColumn.columnDefinition) with
  | ok _ =>
    have hpairwise := (pairwise_of_refusedColumns hrefused).1
    rw [List.map_map] at hpairwise
    exact absurd hpairwise h
  | error problem =>
    obtain ⟨name, rfl⟩ := exists_duplicate_of_refusedColumns (by simpa using hwidth) hrefused
    exact ⟨name, rfl⟩

end Refused

/-! ## Files -/

namespace Table

variable {t : Table} {names : List String} {records : List (List String)}

/-- The columns of a file whose headings differ, where they are not blank, always have names. Two
have one name exactly if a heading spells out the name of a blank one. Then the table is refused for
it, and otherwise it never is. -/
theorem Reads.columns_collide_iff (hreads : t.Reads names records) (hunlike : AreUnlike names) :
    ∃ columns, t.columns = .ok columns ∧
      (∀ name ∈ namesOf columns, Text.trim name ≠ "") ∧
      ((namesOf columns).Pairwise (fun a b => Text.sameWord a b = false) ↔ ¬ HasClash names) ∧
      (¬ HasClash names → ∀ (db : Database) (table name : String),
        withTable table columns db ≠ .error (.duplicateColumn name)) ∧
      (HasClash names → ∀ (db : Database) (table : String), HasRoomFor db table →
        '\x00' ∉ table.toList → (∀ name ∈ names, '\x00' ∉ name.toList) →
        names.length ≤ Database.greatestWidth →
        ∃ name, withTable table columns db = .error (.duplicateColumn name)) := by
  have hcolumns := hreads.columns_eq
  generalize hfound : (names.mapIdx fun k header =>
    (⟨columnName k header, .ofCells (cellsAt records k)⟩ : FileColumn)) = columns at hcolumns
  have hnames : namesOf columns = names.mapIdx columnName := by
    rw [← hfound]
    refine List.ext_getElem (by simp [namesOf]) fun k hk hk' => ?_
    simp [namesOf]
  have hiff := pairwise_columnName_iff hunlike
  rw [← hnames] at hiff
  refine ⟨columns, hcolumns, ?_, hiff, ?_, ?_⟩
  · intro name hname
    rw [hnames] at hname
    obtain ⟨k, hk, rfl⟩ := List.mem_mapIdx.1 hname
    exact trim_columnName_ne_empty k _
  · exact fun hclash db table name => withTable_ne_duplicate (hiff.2 hclash)
  · intro hclash db table hroom htable hwhole hwidth
    refine exists_duplicate_of_not_pairwise hroom htable ?_ ?_ fun h => hiff.1 h hclash
    · intro name hname
      rw [hnames] at hname
      obtain ⟨k, hk, rfl⟩ := List.mem_mapIdx.1 hname
      exact notMem_columnName (hwhole _ (List.getElem_mem hk))
    · simpa [← hfound] using hwidth

theorem columns_collide_iff_spaced :
    let t := ofBytes 0x2C (Text.bytesOf "column1,, Column3,\" \"\n1,2,x\n")
    t.columns = .ok [⟨"column1", .integer⟩, ⟨"column2", .integer⟩, ⟨"Column3", .text⟩,
      ⟨"column4", .text⟩] ∧
    ∀ (db : Database) (table name : String), withTable table [⟨"column1", .integer⟩,
      ⟨"column2", .integer⟩, ⟨"Column3", .text⟩, ⟨"column4", .text⟩] db ≠
        .error (.duplicateColumn name) := by
  intro t
  have hreads : t.Reads ["column1", "", " Column3", " "] [["1", "2", "x"]] :=
    ⟨by decide +kernel, by decide, by decide +kernel⟩
  have hunlike : AreUnlike ["column1", "", " Column3", " "] := by
    unfold AreUnlike
    decide +kernel
  have hknown : t.columns = .ok [⟨"column1", .integer⟩, ⟨"column2", .integer⟩, ⟨"Column3", .text⟩,
      ⟨"column4", .text⟩] := by
    decide +kernel
  obtain ⟨columns, hcolumns, -, hiff, hnever, -⟩ := hreads.columns_collide_iff hunlike
  obtain rfl := Except.ok.inj (hknown.symm.trans hcolumns)
  exact ⟨hknown, hnever (hiff.1 (by decide +kernel))⟩

/-- A heading that spells out the name of the blank one after it keeps a file from being loaded. -/
theorem columns_collide_numbered :
    let bytes := Text.bytesOf "column2,\n1,2\n"
    let t := ofBytes 0x2C bytes
    t.Reads ["column2", ""] [["1", "2"]] ∧ AreUnlike ["column2", ""] ∧
      t.columns = .ok [⟨"column2", .integer⟩, ⟨"column2", .integer⟩] ∧
      (load "d.csv" "d.csv" (.ok bytes) {}).map Prod.fst = .error (.execution
        "CREATE TEMP TABLE \"d.csv\" (\"column2\" INTEGER, \"column2\" INTEGER)"
        "error returned from database: (code: 1) duplicate column name: column2") := by
  intro bytes t
  refine ⟨⟨by decide +kernel, by decide, by decide +kernel⟩, ?_, by decide +kernel,
    by decide +kernel⟩
  unfold AreUnlike
  decide +kernel

end Table

end QueryPipe.Dataset
