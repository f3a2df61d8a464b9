/-!
# Blanks, letter case and joined text

Reading is lenient about blanks at the ends of a word. A blank is any character with the Unicode
property `White_Space`. Letter case is ASCII throughout: names and words of a statement differ
only by the twenty-six letters.

* `trim_blank`: a text of blanks trims to nothing.
* `joined_cons_cons`: the joint stands between neighbours and nowhere else.
-/

namespace QueryPipe.Text

/-! ## Blanks -/

/-- A character with the Unicode property `White_Space`. -/
def isBlank (c : Char) : Bool :=
  let n := c.toNat
  (9 ≤ n && n ≤ 13) || n == 0x20 || n == 0x85 || n == 0xA0 || n == 0x1680 ||
    (0x2000 ≤ n && n ≤ 0x200A) || n == 0x2028 || n == 0x2029 || n == 0x202F ||
    n == 0x205F || n == 0x3000

/-- The characters left when blanks are taken off both ends. -/
def trimChars (cs : List Char) : List Char :=
  ((cs.dropWhile isBlank).reverse.dropWhile isBlank).reverse

/-- The text without the blanks at its ends. -/
def trim (s : String) : String := String.ofList (trimChars s.toList)

theorem trimChars_blank (cs : List Char) (h : cs.all isBlank = true) : trimChars cs = [] := by
  have : cs.dropWhile isBlank = [] := by
    induction cs with
    | nil => rfl
    | cons c rest ih =>
      simp only [List.all_cons, Bool.and_eq_true] at h
      simp [h.1, ih h.2]
  simp [trimChars, this]

/-- Nothing is left of a blank text. -/
theorem trim_blank (s : String) (h : s.toList.all isBlank = true) : trim s = "" := by
  simp [trim, trimChars_blank _ h]

/-! ## Letter case -/

/-- Equality up to ASCII letter case. -/
def sameWord (s t : String) : Bool := s.toLower == t.toLower

/-! ## Joined text -/

/-- The parts in order with the joint between neighbours. -/
def joined (joint : String) : List String → String
  | [] => ""
  | [part] => part
  | part :: next :: rest => part ++ joint ++ joined joint (next :: rest)

@[simp] theorem joined_nil (joint : String) : joined joint [] = "" := rfl

@[simp] theorem joined_singleton (joint part : String) : joined joint [part] = part := rfl

@[simp] theorem joined_cons_cons (joint part next : String) (rest : List String) :
    joined joint (part :: next :: rest) = part ++ joint ++ joined joint (next :: rest) := rfl

/-- The text written a number of times. -/
def repeated (n : Nat) (c : Char) : String := String.ofList (List.replicate n c)

end QueryPipe.Text
