/-!
# Parts of a text

Where one row of characters stands inside another.

* `contains_iff`: a row contains another when it is that row with something on either side.
* `splitLast?_eq_none_iff`: a row without the mark has no last mark.
-/

namespace QueryPipe.Text

/-- Whether the part stands somewhere in the row. -/
def containsChars (part : List Char) : List Char → Bool
  | [] => part.isEmpty
  | c :: rest => part.isPrefixOf (c :: rest) || containsChars part rest

/-- A part is found where the text has something before it and something after it. -/
theorem contains_iff (part cs : List Char) :
    containsChars part cs = true ↔ ∃ before after, cs = before ++ part ++ after := by
  induction cs with
  | nil =>
    simp only [containsChars, List.isEmpty_iff]
    constructor
    · rintro rfl
      exact ⟨[], [], rfl⟩
    · rintro ⟨before, after, h⟩
      simp at h
      exact h.2.1
  | cons c rest ih =>
    simp only [containsChars, Bool.or_eq_true, List.isPrefixOf_iff_prefix, ih]
    constructor
    · rintro (⟨after, h⟩ | ⟨before, after, h⟩)
      · exact ⟨[], after, by simpa using h.symm⟩
      · exact ⟨c :: before, after, by simp [h]⟩
    · rintro ⟨before, after, h⟩
      cases before with
      | nil => exact .inl ⟨after, by simpa using h.symm⟩
      | cons d before =>
        simp only [List.cons_append, List.cons.injEq] at h
        exact .inr ⟨before, after, h.2⟩

/-- Whether the part stands somewhere in the text. -/
def contains (part s : String) : Bool := containsChars part.toList s.toList

/-- Whether the text starts with the part. -/
def startsWith (part s : String) : Bool := part.toList.isPrefixOf s.toList

/-- What stands before and after the last mark. -/
def splitLast? (mark : Char) : List Char → Option (List Char × List Char)
  | [] => none
  | c :: rest =>
    match splitLast? mark rest with
    | some (before, after) => some (c :: before, after)
    | none => if c == mark then some ([], rest) else none

/-- A text is split unless the mark is missing. -/
theorem splitLast?_eq_none_iff (mark : Char) (cs : List Char) :
    splitLast? mark cs = none ↔ mark ∉ cs := by
  induction cs with
  | nil => simp [splitLast?]
  | cons c rest ih =>
    cases h : splitLast? mark rest with
    | some p =>
      have : mark ∈ rest := by
        apply Classical.byContradiction
        intro hn
        rw [ih.2 hn] at h
        cases h
      simp [splitLast?, h, this]
    | none =>
      have hn := ih.1 h
      by_cases hc : c = mark
      · simp [splitLast?, h, hc]
      · have hc' : mark ≠ c := fun e => hc e.symm
        simp [splitLast?, h, hc, hc', hn]

/-- What stands before the first mark. -/
def beforeFirst (mark : Char) (cs : List Char) : List Char := cs.takeWhile (· != mark)

/-- Parts of a row between marks; there is always one more part than there are marks. -/
def splitAll (mark : Char) : List Char → List (List Char)
  | [] => [[]]
  | c :: rest =>
    if c == mark then [] :: splitAll mark rest
    else
      match splitAll mark rest with
      | [] => [[c]]
      | part :: parts => (c :: part) :: parts

end QueryPipe.Text
