import Mathlib.Data.List.TakeWhile
import QueryPipe.Text.Blank

/-!
# Texts without the blanks around them

Taking the blanks off both ends of a text leaves a part of it with nothing but blanks around, and
nothing is left only of a text of blanks.

* `exists_trimChars`: what is taken off.
* `trim_eq_empty_iff`, `trim_trim_eq_empty_iff`: texts of which nothing is left.
-/

namespace QueryPipe.Text

/-- What is taken off either end of a text is blank. -/
theorem exists_trimChars (cs : List Char) :
    ∃ before after, cs = before ++ trimChars cs ++ after ∧
      (∀ c ∈ before, isBlank c = true) ∧ ∀ c ∈ after, isBlank c = true := by
  have hfront := List.takeWhile_append_dropWhile (p := isBlank) (l := cs)
  have hback := List.takeWhile_append_dropWhile (p := isBlank)
    (l := (cs.dropWhile isBlank).reverse)
  refine ⟨cs.takeWhile isBlank, ((cs.dropWhile isBlank).reverse.takeWhile isBlank).reverse,
    ?_, fun c hc => List.mem_takeWhile_imp hc,
    fun c hc => List.mem_takeWhile_imp (List.mem_reverse.1 hc)⟩
  rw [trimChars, List.append_assoc, ← List.reverse_append, hback, List.reverse_reverse, hfront]

theorem mem_trimChars {c : Char} {cs : List Char} (h : c ∈ trimChars cs) : c ∈ cs := by
  obtain ⟨before, after, hcs, -⟩ := exists_trimChars cs
  rw [hcs]
  simp [h]

/-- Nothing is left of a text of blanks, and only of such a text. -/
theorem trim_eq_empty_iff {s : String} : trim s = "" ↔ ∀ c ∈ s.toList, isBlank c = true := by
  constructor
  · intro h
    obtain ⟨before, after, hs, hbefore, hafter⟩ := exists_trimChars s.toList
    have hnil : trimChars s.toList = [] := by
      have hchars := congrArg String.toList h
      rwa [trim, String.toList_ofList] at hchars
    rw [hnil, List.append_nil] at hs
    rw [hs, List.forall_mem_append]
    exact ⟨hbefore, hafter⟩
  · exact fun h => trim_blank s (List.all_eq_true.2 h)

/-- What is left of a text does not vanish when it is trimmed once more. -/
theorem trim_trim_eq_empty_iff {s : String} : trim (trim s) = "" ↔ trim s = "" := by
  obtain ⟨before, after, hs, hbefore, hafter⟩ := exists_trimChars s.toList
  rw [trim_eq_empty_iff, trim_eq_empty_iff, trim, String.toList_ofList]
  constructor
  · intro h
    rw [hs, List.forall_mem_append, List.forall_mem_append]
    exact ⟨⟨hbefore, h⟩, hafter⟩
  · exact fun h c hc => h c (mem_trimChars hc)

end QueryPipe.Text
