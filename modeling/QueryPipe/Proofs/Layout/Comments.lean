import Mathlib.Data.List.Basic
import QueryPipe.Layout.Page
import QueryPipe.Proofs.Command.Folding
import QueryPipe.Proofs.Text.Lines

/-!
# Parameters in comments

A query is printed as its statement, laid out in whatever way, and then its parameters, each as a
comment that shows its column and its value. A comment ends with its line. So a parameter stays
inside its comment exactly where neither its column nor its value has a line feed; what comes after
a line feed stands on a line of its own, and that is no comment unless it happens to look like one.

* `linesOf_appendLines`: the lines of a text that others are appended to.
* `notMem_parameterLine_iff`: when a comment is one line.
* `queryTextBy_lines`: the lines of a query.
-/

namespace QueryPipe.Layout

open Text (splitAll)

/-! ## Lines of a text -/

/-- The lines of a text; an empty text has none. -/
def linesOf (text : String) : List (List Char) :=
  if text.isEmpty then [] else splitAll '\n' text.toList

theorem linesOf_of_ne_empty {text : String} (h : text ≠ "") :
    linesOf text = splitAll '\n' text.toList := by
  rw [linesOf, if_neg (by simpa using h)]

/-- A line that is appended comes after the lines of the text. -/
theorem linesOf_append_line (text : String) {line : String} (hline : line ≠ "") :
    linesOf (if text.isEmpty then line else text ++ "\n" ++ line) =
      linesOf text ++ splitAll '\n' line.toList := by
  by_cases htext : text = ""
  · subst htext
    exact linesOf_of_ne_empty hline
  · have hmore : text ++ "\n" ++ line ≠ "" := by simp
    have hchars : (text ++ "\n" ++ line).toList = text.toList ++ '\n' :: line.toList := by simp
    rw [if_neg (by simpa using htext), linesOf_of_ne_empty hmore, hchars,
      Text.splitAll_append_cons, linesOf_of_ne_empty htext]

theorem linesOf_appendLines (text : String) {lines : List String}
    (hlines : ∀ line ∈ lines, line ≠ "") :
    linesOf (appendLines text lines) =
      linesOf text ++ (lines.map String.toList).flatMap (splitAll '\n') := by
  induction lines generalizing text with
  | nil => simp [appendLines]
  | cons line rest ih =>
    rw [List.forall_mem_cons] at hlines
    rw [appendLines, ih _ hlines.2, linesOf_append_line text hlines.1, List.map_cons,
      List.flatMap_cons, List.append_assoc]

/-! ## Comments -/

theorem parameterLine_ne_empty (p : Parameter) : parameterLine p ≠ "" := by
  simp [parameterLine]

/-- The comment of a parameter has the line feeds of its column and its value. -/
theorem notMem_parameterLine_iff (p : Parameter) :
    '\n' ∉ (parameterLine p).toList ↔
      '\n' ∉ p.column.toList ∧ '\n' ∉ p.value.content.toList := by
  have htype : '\n' ∉ p.value.typeName.toList := by
    cases p.value <;> simp [Literal.typeName]
  simp [parameterLine, Literal.display, htype]

/-- However the statement is laid out, a query is printed as the lines of the statement and the
lines of its comments. These are one line for each parameter, with its column and its value behind
`-- Column`, exactly where no column and no value has a line feed. -/
theorem queryTextBy_lines (format : String → Option String) (q : Query) :
    let statement := linesOf ((format q.text).getD "")
    let comments := q.params.map fun p =>
      ("-- Column " ++ p.column ++ ": " ++ p.value.display).toList
    linesOf (queryTextBy format q) = statement ++ comments.flatMap (splitAll '\n') ∧
      (linesOf (queryTextBy format q) = statement ++ comments ↔
        ∀ p ∈ q.params, '\n' ∉ p.column.toList ∧ '\n' ∉ p.value.content.toList) := by
  intro statement comments
  have hcomments : comments = (q.params.map parameterLine).map String.toList := by
    rw [List.map_map]
    rfl
  have hlines : linesOf (queryTextBy format q) =
      statement ++ comments.flatMap (splitAll '\n') := by
    rw [queryTextBy, hcomments]
    refine linesOf_appendLines _ fun line hline => ?_
    obtain ⟨p, -, rfl⟩ := List.mem_map.1 hline
    exact parameterLine_ne_empty p
  refine ⟨hlines, ?_⟩
  rw [hlines, List.append_right_inj, Text.flatMap_splitAll_eq_self_iff, List.forall_mem_map]
  exact forall₂_congr fun p _ => notMem_parameterLine_iff p

/-- A value with a line feed in it: what follows stands on a line of its own, which is no
comment. -/
theorem queryText_uncommented :
    let tools : List Command.Tool :=
      [.cat { datasets := ["people"] },
        .grep { field? := some "name", value? := some "x\nDROP TABLE people;" }]
    let chain : Chain :=
      ⟨[{ select := some (.allOf "people")
          filter := some ⟨[⟨"name", "LIKE", .untyped "x\nDROP TABLE people;"⟩]⟩ }]⟩
    let q : Query :=
      ⟨"SELECT * FROM people AS t1 WHERE name LIKE ?",
        [⟨"name", .untyped "x\nDROP TABLE people;"⟩]⟩
    Command.Tool.applyAll tools .empty = .ok chain ∧ chain.query = .ok q ∧
      linesOf (queryText q) =
        ["SELECT *", "FROM people AS t1", "WHERE name LIKE ?", "-- Column name: x",
          "DROP TABLE people;(UNKNOWN)"].map String.toList := by
  decide +kernel

end QueryPipe.Layout
