import QueryPipe.Proofs.Dataset.Loading
import QueryPipe.Proofs.Query.Asking

/-!
# Names of files between quotes

A file has any name, with quotes and blanks in it. Between quotes the name is safe: it is read back
from the reference, a statement is cut where the reference ends, and the table of the file is made
and found under it. So the files of a chain are the files among the names that its plans were given.

* `IsNamedBy`, `isNamedBy_quoteIdentifier`: what a quoted name is good for.
* `reference_reference`: a reference is not quoted again.
* `file?_reference`: which file a reference names.
* `IsFirstMention`, `isFirstMention_distinct`: names in the order in which they come up.
-/

namespace QueryPipe.Dataset

open Sql (Database lexeme)

/-! ## Quoted names -/

theorem trim_quoteIdentifier (name : String) :
    Text.trim (quoteIdentifier name) = quoteIdentifier name := by
  have hend : EndsSolid (quoteIdentifier name) :=
    ⟨'"' :: doubled name.toList, '"', by simp [quoteIdentifier], by decide⟩
  exact trim_eq_self (c := '"') (by simp [quoteIdentifier]) (by decide) hend

theorem startsWith_quoteIdentifier (name : String) :
    Text.startsWith "\"" (quoteIdentifier name) = true := by
  simp [Text.startsWith, quoteIdentifier]

theorem startsWith_quote_iff (s : String) :
    Text.startsWith "\"" s = true ↔ ∃ rest, s.toList = '"' :: rest := by
  rw [Text.startsWith, List.isPrefixOf_iff_prefix]
  exact exists_congr fun _ => eq_comm

/-- A text that starts with a quote still does without the blanks at its ends. -/
theorem startsWith_trim {s : String} (h : Text.startsWith "\"" s = true) :
    Text.startsWith "\"" (Text.trim s) = true := by
  obtain ⟨rest, hs⟩ := (startsWith_quote_iff s).1 h
  -- the quote is no blank, so nothing is cut off before it, and from the end at most up to it
  have hblank : Text.isBlank '"' = false := by decide
  rw [startsWith_quote_iff, Text.trim, String.toList_ofList, Text.trimChars, hs,
    List.dropWhile_cons_of_neg (by simp [hblank]), List.reverse_cons, List.dropWhile_append]
  split
  · exact ⟨[], by simp [hblank]⟩
  · exact ⟨_, by rw [List.reverse_append]; rfl⟩

theorem unquote?_eq_none {s : String} (h : Text.startsWith "\"" s = false) :
    unquote? s = none := by
  have hinner : innerChars? s.toList = none := by
    unfold innerChars?
    split
    · rename_i rest hs
      rw [(startsWith_quote_iff s).2 ⟨rest, hs⟩] at h
      cases h
    · rfl
  rw [unquote?, hinner, Option.map_none]

/-- Whether a text in a statement stands for the table of a file. -/
structure IsNamedBy (name text : String) : Prop where
  /-- The text is read as the name. -/
  unquoted : unquote? text = some name
  /-- A statement is cut behind the text, whatever follows but another quote. -/
  scanned : ∀ rest : List Char, rest.head? ≠ some '"' →
    lexeme (text.toList ++ rest) = (.name name true, text.toList.length)
  /-- The table of the file is made under this very text. -/
  made : ∀ columns, ∃ definitions,
    tableStatement name columns = "CREATE TEMP TABLE " ++ text ++ " (" ++ definitions ++ ")"
  /-- Once the file is loaded, its table is found under the name. -/
  found : ∀ bytes count (db db' : Database), load name name (.ok bytes) db = .ok (count, db') →
    ∃ columns, db'.table? ⟨none, name⟩ = some (fileTable name bytes columns)

theorem isNamedBy_quoteIdentifier (name : String) : IsNamedBy name (quoteIdentifier name) where
  unquoted := unquote_quoteIdentifier name
  scanned := fun _ hrest => Sql.lexeme_quoteIdentifier name hrest
  made := fun columns => ⟨Text.joined ", " (columns.map FileColumn.definition), rfl⟩
  found := fun _ _ _ _ hload => exists_table?_of_load hload

/-! ## References -/

theorem reference_eq {name : String} (hfile : isFile name = true)
    (hstart : Text.startsWith "\"" name = false) : reference name = quoteIdentifier name := by
  simp [reference, hfile, hstart]

theorem reference_reference (name : String) : reference (reference name) = reference name := by
  cases hquoted : isFile name && !Text.startsWith "\"" name with
  | true =>
    have hname : reference name = quoteIdentifier name := by rw [reference, hquoted, if_pos rfl]
    rw [hname, reference, startsWith_quoteIdentifier, Bool.not_true, Bool.and_false]
    rfl
  | false =>
    have hname : reference name = name := by
      rw [reference, hquoted]
      rfl
    rw [hname, hname]

theorem file?_quoteIdentifier (name : String) :
    file? (quoteIdentifier name) = (some name).filter isFile := by
  rw [file?, trim_quoteIdentifier, unquote_quoteIdentifier]

/-- A reference names the file that it refers to, and a table is no file. -/
theorem file?_reference {name : String}
    (hplain : Text.startsWith "\"" (Text.trim name) = false) :
    file? (reference name) = (some name).filter isFile := by
  have hstart : Text.startsWith "\"" name = false := by
    rw [Bool.eq_false_iff]
    intro h
    rw [startsWith_trim h] at hplain
    cases hplain
  cases hfile : isFile name with
  | true => rw [reference_eq hfile hstart, file?_quoteIdentifier]
  | false =>
    have hname : reference name = name := by simp [reference, hfile]
    rw [hname, file?, unquote?_eq_none hplain, Option.filter_none, Option.filter_some, hfile]
    rfl

theorem filterMap_file?_reference {names : List String}
    (hplain : ∀ name ∈ names, Text.startsWith "\"" (Text.trim name) = false) :
    (names.map reference).filterMap file? = names.filter isFile := by
  induction names with
  | nil => rfl
  | cons name names ih =>
    rw [List.forall_mem_cons] at hplain
    rw [List.map_cons, List.filterMap_cons, file?_reference hplain.1, ih hplain.2,
      Option.filter_some]
    cases hfile : isFile name <;> simp [hfile]

/-! ## First mentions -/

theorem mem_distinct {name : String} {names : List String} :
    name ∈ distinct names ↔ name ∈ names := by
  induction names with
  | nil => simp [distinct]
  | cons first names ih =>
    by_cases h : name = first <;> simp [distinct, ih, h]

theorem distinct_filter (p : String → Bool) (names : List String) :
    distinct (names.filter p) = (distinct names).filter p := by
  induction names with
  | nil => rfl
  | cons first names ih =>
    cases hfirst : p first with
    | true =>
      rw [List.filter_cons_of_pos hfirst, distinct, distinct, List.filter_cons_of_pos hfirst, ih,
        List.filter_comm]
    | false =>
      -- the first name fails the test, so there is nothing of it left to remove
      have hnone : ∀ name ∈ (distinct names).filter p, (name != first) = true := by
        intro name hname
        rw [bne_iff_ne]
        rintro rfl
        simp [hfirst] at hname
      have hskip : ¬ p first = true := by simp [hfirst]
      rw [List.filter_cons_of_neg hskip, distinct, List.filter_cons_of_neg hskip, ih,
        List.filter_comm, List.filter_eq_self.2 hnone]

/-- Whether some names are those of `names` that satisfy a test, each once, in the order in which
they first come up. -/
structure IsFirstMention (p : String → Bool) (names found : List String) : Prop where
  /-- They are the names that satisfy the test. -/
  mem : ∀ name, name ∈ found ↔ name ∈ names ∧ p name = true
  /-- Each is there once. -/
  nodup : found.Nodup
  /-- One that is mentioned earlier stands earlier. -/
  ordered : found.Pairwise fun a b => names.idxOf a < names.idxOf b

theorem nodup_distinct (names : List String) : (distinct names).Nodup := by
  induction names with
  | nil => exact List.nodup_nil
  | cons first names ih =>
    rw [distinct, List.nodup_cons]
    exact ⟨by simp, ih.filter _⟩

theorem pairwise_idxOf_distinct (names : List String) :
    (distinct names).Pairwise fun a b => names.idxOf a < names.idxOf b := by
  induction names with
  | nil => exact .nil
  | cons first names ih =>
    -- any other name is one place further behind, so their order stays
    have hother : ∀ name ∈ (distinct names).filter (· != first),
        (first :: names).idxOf name = names.idxOf name + 1 := by
      intro name hname
      have hne : first ≠ name := by
        rintro rfl
        simp at hname
      exact List.idxOf_cons_ne _ hne
    rw [distinct, List.pairwise_cons]
    constructor
    · intro name hname
      rw [hother name hname, List.idxOf_cons_self]
      omega
    · refine (ih.filter _).imp_of_mem fun ha hb hlt => ?_
      rw [hother _ ha, hother _ hb]
      omega

theorem isFirstMention_distinct (p : String → Bool) (names : List String) :
    IsFirstMention p names (distinct (names.filter p)) where
  mem := fun name => by rw [mem_distinct, List.mem_filter]
  nodup := nodup_distinct _
  ordered := by
    rw [distinct_filter]
    exact (pairwise_idxOf_distinct names).filter _

end QueryPipe.Dataset

namespace QueryPipe.Chain

open Dataset

theorem files_eq {c : Chain} {names : List String}
    (hreferences : c.plans.flatMap references = names.map reference)
    (hplain : ∀ name ∈ names, Text.startsWith "\"" (Text.trim name) = false) :
    c.files = distinct (names.filter isFile) := by
  rw [files, hreferences, filterMap_file?_reference hplain]

/-- Names of files survive their quotes: a chain has the files among the names that its plans were
given, and refers to each by the text under which its table is made. -/
theorem files_mentioned {c : Chain} {names : List String}
    (hreferences : c.plans.flatMap references = names.map reference)
    (hplain : ∀ name ∈ names, Text.startsWith "\"" (Text.trim name) = false) :
    (∀ name, IsNamedBy name (quoteIdentifier name)) ∧
      (∀ name, reference (reference name) = reference name) ∧
      IsFirstMention isFile names c.files ∧
      ∀ name ∈ c.files, reference name = quoteIdentifier name := by
  have hfiles := files_eq hreferences hplain
  have hmention : IsFirstMention isFile names c.files := by
    rw [hfiles]
    exact isFirstMention_distinct isFile names
  refine ⟨isNamedBy_quoteIdentifier, reference_reference, hmention, fun name hname => ?_⟩
  obtain ⟨hmem, hfile⟩ := (hmention.mem name).1 hname
  refine reference_eq hfile (Bool.eq_false_iff.2 fun hstart => ?_)
  have hquote := startsWith_trim hstart
  rw [hplain name hmem] at hquote
  cases hquote

theorem files_mentioned_joined :
    let names := ["a\"b.csv", "people", " x/Y.TSV", "a\"b.csv"]
    let c : Chain :=
      ⟨[{ select := some { tables := ["\"a\"\"b.csv\"", "people"] }
          join := some { table := "\" x/Y.TSV\"", how := "INNER" } },
        { select := some { tables := ["\"a\"\"b.csv\""] } }]⟩
    c.files = ["a\"b.csv", " x/Y.TSV"] ∧
      (∀ name, IsNamedBy name (quoteIdentifier name)) ∧
      (∀ name, reference (reference name) = reference name) ∧
      IsFirstMention isFile names c.files ∧
      ∀ name ∈ c.files, reference name = quoteIdentifier name := by
  intro names c
  have hreferences : c.plans.flatMap references = names.map reference := by decide +kernel
  have hplain : ∀ name ∈ names, Text.startsWith "\"" (Text.trim name) = false := by
    decide +kernel
  exact ⟨by decide +kernel, files_mentioned hreferences hplain⟩

end QueryPipe.Chain
