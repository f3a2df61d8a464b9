import Mathlib.Algebra.GroupWithZero.Nat
import QueryPipe.Text.Blank
import QueryPipe.Text.Search

/-!
# Parts between marks

A row of characters is cut at its marks. A row without a mark is one part, and where a mark is put
between two rows, the parts of the one are followed by those of the other.

* `splitAll_of_notMem`, `splitAll_append_cons`: the parts of such rows.
* `length_splitAll`: there is one part more than there are marks.
* `splitAll_flatMap_ended`, `count_flatMap_ended`: rows that each end in a mark.
* `flatMap_splitAll_eq_self_iff`: rows that cutting leaves as they are.
-/

namespace QueryPipe.Text

theorem splitAll_of_notMem {mark : Char} {cs : List Char} (h : mark ∉ cs) :
    splitAll mark cs = [cs] := by
  induction cs with
  | nil => rfl
  | cons c cs ih =>
    rw [List.mem_cons, not_or] at h
    have hc : ¬ (c == mark) = true := by simpa using Ne.symm h.1
    rw [splitAll, if_neg hc, ih h.2]

theorem splitAll_ne_nil (mark : Char) (cs : List Char) : splitAll mark cs ≠ [] := by
  cases cs with
  | nil => simp [splitAll]
  | cons c cs =>
    rw [splitAll]
    split
    · simp
    · split <;> simp

/-- The part that a character goes on with is the first of what follows it. -/
theorem splitAll_cons_of_ne {mark c : Char} (h : c ≠ mark) {cs part : List Char}
    {parts : List (List Char)} (hcs : splitAll mark cs = part :: parts) :
    splitAll mark (c :: cs) = (c :: part) :: parts := by
  rw [splitAll, if_neg (by simpa using h), hcs]

theorem splitAll_append_cons (mark : Char) (cs ds : List Char) :
    splitAll mark (cs ++ mark :: ds) = splitAll mark cs ++ splitAll mark ds := by
  induction cs with
  | nil => simp [splitAll]
  | cons c cs ih =>
    by_cases hc : c = mark
    · subst hc
      simp [splitAll, ih]
    · -- the character goes into the first part of `cs`, which is the first part on both sides
      obtain ⟨part, parts, hcs⟩ := List.exists_cons_of_ne_nil (splitAll_ne_nil mark cs)
      rw [hcs, List.cons_append] at ih
      rw [List.cons_append, splitAll_cons_of_ne hc ih, splitAll_cons_of_ne hc hcs,
        List.cons_append]

theorem length_splitAll (mark : Char) (cs : List Char) :
    (splitAll mark cs).length = cs.count mark + 1 := by
  induction cs with
  | nil => rfl
  | cons c cs ih =>
    by_cases hc : c = mark
    · subst hc
      simp [splitAll, ih]
    · obtain ⟨part, parts, hcs⟩ := List.exists_cons_of_ne_nil (splitAll_ne_nil mark cs)
      rw [hcs, List.length_cons] at ih
      rw [splitAll_cons_of_ne hc hcs, List.length_cons, ih, List.count_cons_of_ne hc]

/-! ## Rows that end in a mark -/

theorem toList_joined_empty (parts : List String) :
    (joined "" parts).toList = parts.flatMap String.toList := by
  induction parts with
  | nil => rfl
  | cons part parts ih =>
    cases parts with
    | nil => simp
    | cons next rest => simp [ih]

theorem count_flatMap_ended (c mark : Char) (rows : List (List Char)) :
    (rows.flatMap (· ++ [mark])).count c =
      (rows.map (List.count c)).sum + if c = mark then rows.length else 0 := by
  induction rows with
  | nil => simp
  | cons row rows ih =>
    rw [List.flatMap_cons, List.count_append, List.count_append, ih, List.map_cons, List.sum_cons,
      List.length_cons]
    by_cases hc : c = mark
    · subst hc
      simp only [List.count_singleton_self, if_pos]
      omega
    · have hmark : [mark].count c = 0 := List.count_eq_zero.2 (by simpa using hc)
      rw [hmark, if_neg hc, if_neg hc]
      omega

theorem splitAll_flatMap_ended (mark : Char) (rows : List (List Char)) :
    splitAll mark (rows.flatMap (· ++ [mark])) = rows.flatMap (splitAll mark) ++ [[]] := by
  induction rows with
  | nil => rfl
  | cons row rows ih =>
    rw [List.flatMap_cons, List.append_assoc, List.singleton_append, splitAll_append_cons, ih,
      List.flatMap_cons, List.append_assoc]

theorem length_flatMap_splitAll (mark : Char) (rows : List (List Char)) :
    (rows.flatMap (splitAll mark)).length = (rows.map (List.count mark)).sum + rows.length := by
  induction rows with
  | nil => rfl
  | cons row rows ih =>
    simp only [List.flatMap_cons, List.length_append, length_splitAll, ih, List.map_cons,
      List.sum_cons, List.length_cons]
    omega

/-- Cutting rows at a mark leaves them as they are exactly where no row has one. -/
theorem flatMap_splitAll_eq_self_iff {mark : Char} {rows : List (List Char)} :
    rows.flatMap (splitAll mark) = rows ↔ ∀ row ∈ rows, mark ∉ row := by
  constructor
  · -- cutting adds a part for every mark, so as many parts as rows leave no mark
    intro h row hrow
    have hlength := length_flatMap_splitAll mark rows
    rw [h] at hlength
    have hsum : (rows.map (List.count mark)).sum = 0 := by omega
    have hcount := List.sum_eq_zero_iff_forall_eq_nat.1 hsum _ (List.mem_map_of_mem hrow)
    exact List.count_eq_zero.1 hcount
  · intro h
    induction rows with
    | nil => rfl
    | cons row rows ih =>
      rw [List.forall_mem_cons] at h
      rw [List.flatMap_cons, splitAll_of_notMem h.1, ih h.2, List.singleton_append]

end QueryPipe.Text
