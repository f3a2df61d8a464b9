import Mathlib.Data.List.TakeWhile
import QueryPipe.Proofs.Sql.Selecting

/-!
# Rules of comparison

When a value of a column is compared with another, a library first converts them, by the affinity of
the column, and then orders them. How it reads a number in a text, how it writes a floating point
number, and what it takes to be like a pattern is left to it, within what is documented of every
release. The rest is the same for all: missing values satisfy only `IS`, a value is converted if
that is what the column prefers, and numbers come before texts.

* `Rules`: what is left to a library, with its laws.
* `Rules.holds`: whether a comparison is satisfied.
* `Rules.holds_of_isNull`, `Rules.compared_digits`, `Rules.holds_like_text`: what holds under all
  rules.
* `Rules.ofDatabase`: the rules of the databases here.
* `holds_ofDatabase`: a test in a question comes to what these rules say.
-/

namespace QueryPipe.Sql

/-- What a library has for conversions and patterns. -/
structure Rules where
  /-- The number that a text is read as where numbers are preferred, if it is one. -/
  numeral? : String → Option Value
  /-- The text of a floating point number. -/
  realText : Numeral.Binary64 → String
  /-- Whether a text is like a pattern, which comes first. -/
  isLike : String → String → Bool
  /-- Digits are read as the number that they spell, if it fits. -/
  numeral?_toString : ∀ n : Nat, fits n = true →
    numeral? (toString n) = some (.whole (Int64.ofInt n))
  /-- A text without digits is no number. -/
  numeral?_of_noDigits : ∀ s, (∀ c ∈ s.toList, c.isDigit = false) → numeral? s = none
  /-- What is read is a number. -/
  rank_numeral? : ∀ s v, numeral? s = some v → v.rank = 1
  /-- In a pattern, `%` stands for any characters, `_` for one, and a letter for itself in either
  case. What comes of a zero character in a text is left open. -/
  isLike_eq : ∀ pattern s, '\x00' ∉ pattern.toList → '\x00' ∉ s.toList →
    isLike pattern s = Value.like none pattern.toList s.toList

namespace Rules

variable (rules : Rules)

/-- A value as text. -/
def textOf : Value → String
  | .real x => rules.realText x
  | v => v.toText

/-- A value as it is compared under an affinity; `other` is what it is compared with. -/
def asCompared (a : Affinity) (v other : Value) : Value :=
  if a.isNumeric then
    match v with
    | .text s => (rules.numeral? s).getD v
    | _ => v
  else if a == .text && (v.rank == 2 || other.rank == 2) then
    match v with
    | .whole _ | .real _ => .text (rules.textOf v)
    | _ => v
  else v

/-- The order of two values under an affinity; none when one is missing. -/
def compared (a : Affinity) (v w : Value) : Option Ordering :=
  if v.isNull || w.isNull then none
  else some (Value.order (rules.asCompared a v w) (rules.asCompared a w v))

/-- Whether a value of a column of an affinity satisfies a comparison with another value. -/
def holds (k : Comparator) (a : Affinity) (v w : Value) : Bool :=
  match k with
  | .eq => (rules.compared a v w).any (· == .eq)
  | .ne => (rules.compared a v w).any (· != .eq)
  | .lt => (rules.compared a v w).any (· == .lt)
  | .le => (rules.compared a v w).any (· != .gt)
  | .gt => (rules.compared a v w).any (· == .gt)
  | .ge => (rules.compared a v w).any (· != .lt)
  | .same => ((rules.compared a v w).map (· == .eq)).getD (v.isNull && w.isNull)
  | .like => !(v.isNull || w.isNull) && rules.isLike (rules.textOf w) (rules.textOf v)

/-! ## What holds under all rules -/

variable {rules} {a : Affinity} {v w : Value}

/-- Where a value is missing, nothing is satisfied but `IS`, and that only if both are. -/
theorem holds_of_isNull (h : (v.isNull || w.isNull) = true) (k : Comparator) :
    rules.holds k a v w = (decide (k = .same) && (v.isNull && w.isNull)) := by
  have hnone : rules.compared a v w = none := by rw [compared, if_pos h]
  cases k with
  | same => simp [holds, hnone]
  | like => simp [holds, h]
  | _ => simp [holds, hnone]

/-- In a column of numbers, a text is read as a number if it can be. -/
theorem asCompared_text (ha : a.isNumeric = true) (s : String) (other : Value) :
    rules.asCompared a (.text s) other = (rules.numeral? s).getD (.text s) := by
  rw [asCompared, if_pos ha]

/-- There, a number stays as it is. -/
theorem asCompared_number (ha : a.isNumeric = true) (hv : v.rank = 1) (other : Value) :
    rules.asCompared a v other = v := by
  cases v with
  | text s => cases hv
  | _ => simp [asCompared, ha]

/-- So what a text comes to is a number, or the text itself. -/
theorem rank_asCompared_text (ha : a.isNumeric = true) (s : String) (other : Value) :
    (rules.asCompared a (.text s) other).rank = 1 ∨
      rules.asCompared a (.text s) other = .text s := by
  rw [asCompared_text ha]
  cases hs : rules.numeral? s with
  | none => exact .inr rfl
  | some v => exact .inl (rules.rank_numeral? s v hs)

/-- Digits stand for the number that they spell. -/
theorem compared_digits (ha : a.isNumeric = true) {n : Nat} (hn : fits n = true)
    (hv : v.rank = 1) :
    rules.compared a v (.text (toString n)) = rules.compared a v (.whole (Int64.ofInt n)) := by
  have hread : rules.asCompared a (.text (toString n)) v = _ := asCompared_text ha _ v
  rw [rules.numeral?_toString n hn, Option.getD_some] at hread
  rw [compared, compared, hread, asCompared_number ha hv, asCompared_number ha hv,
    @asCompared_number rules a (.whole (Int64.ofInt n)) ha rfl]
  rfl

/-- A text without digits comes after every number. -/
theorem holds_lt_of_noDigits (ha : a.isNumeric = true) {s : String}
    (hs : ∀ c ∈ s.toList, c.isDigit = false) (hv : v.rank = 1) :
    rules.holds .lt a v (.text s) = true := by
  have hread : rules.asCompared a (.text s) v = _ := asCompared_text ha s v
  rw [rules.numeral?_of_noDigits s hs, Option.getD_none] at hread
  rw [holds, compared, hread, asCompared_number ha hv]
  cases v with
  | whole n => rfl
  | real x => rfl
  | _ => cases hv

/-- Texts are like a pattern where its characters say so. -/
theorem holds_like_text {pattern s : String} (hpattern : '\x00' ∉ pattern.toList)
    (hs : '\x00' ∉ s.toList) :
    rules.holds .like a (.text s) (.text pattern) = Value.like none pattern.toList s.toList := by
  rw [holds, ← rules.isLike_eq pattern s hpattern hs]
  rfl

end Rules

/-! ## Databases -/

theorem takeWhile_isDigit_eq_nil {cs : List Char} (h : ∀ c ∈ cs, c.isDigit = false) :
    cs.takeWhile Char.isDigit = [] := by
  cases cs with
  | nil => rfl
  | cons c cs => exact List.takeWhile_cons_of_neg (by simp [h c List.mem_cons_self])

theorem pointDigits_of_noDigits {cs : List Char} (h : ∀ c ∈ cs, c.isDigit = false) :
    (pointDigits cs).2 = [] := by
  fun_cases pointDigits cs with
  | case1 more => exact takeWhile_isDigit_eq_nil fun c hc => h c (List.mem_cons_of_mem _ hc)
  | case2 => rfl

/-- A text without digits starts with no number. -/
theorem leading?_of_noDigits {cs : List Char} (h : ∀ c ∈ cs, c.isDigit = false) :
    leading? cs = none := by
  have hsub : ∀ c ∈ cs.dropWhile isSpace, c.isDigit = false :=
    fun c hc => h c ((List.dropWhile_sublist isSpace).subset hc)
  -- whatever the sign, there is no digit before a point, and none behind it
  have hnone : ∀ ds : List Char, (∀ c ∈ ds, c.isDigit = false) →
      ((ds.takeWhile Char.isDigit).isEmpty &&
        (pointDigits (ds.drop (ds.takeWhile Char.isDigit).length)).2.isEmpty) = true := by
    intro ds hds
    rw [takeWhile_isDigit_eq_nil hds, List.length_nil, List.drop_zero,
      pointDigits_of_noDigits hds]
    rfl
  unfold leading?
  generalize cs.dropWhile isSpace = ds at hsub
  dsimp only
  split
  · exact if_pos (hnone _ fun c hc => hsub c (List.mem_cons_of_mem _ hc))
  · exact if_pos (hnone _ fun c hc => hsub c (List.mem_cons_of_mem _ hc))
  · exact if_pos (hnone _ hsub)

/-- All of a text is looked at that has no NUL. -/
theorem lookedAt_eq {s : String} (h : '\x00' ∉ s.toList) : Value.lookedAt s = s.toList := by
  rw [Value.lookedAt, List.takeWhile_eq_self_iff]
  intro c hc
  have hne : c ≠ '\x00' := fun hzero => h (hzero ▸ hc)
  simpa using hne

/-- The rules of databases as they are modelled here. -/
def Rules.ofDatabase : Rules where
  numeral? := Value.numeral?
  realText := Value.realText
  isLike := Value.isLike none
  numeral?_toString := QueryPipe.Sql.numeral?_toString
  numeral?_of_noDigits s h := by rw [Value.numeral?, leading?_of_noDigits h]
  rank_numeral? s v h := by
    rw [Value.numeral?] at h
    split at h
    · cases h
    · split at h
      · cases h
      · split at h
        · obtain rfl := Option.some.inj h
          split <;> rfl
        · obtain rfl := Option.some.inj h
          rfl
  isLike_eq pattern s hpattern hs := by rw [Value.isLike, lookedAt_eq hpattern, lookedAt_eq hs]

theorem textOf_ofDatabase (v : Value) : Rules.ofDatabase.textOf v = v.toText := by
  cases v <;> rfl

/-- The rules of the database convert a compared value as the database does. -/
theorem asCompared_ofDatabase (a : Affinity) (v other : Value) :
    Rules.ofDatabase.asCompared a v other = Value.asCompared a v other := by
  cases v <;> rfl

/-- The rules of the database compare two values as the database does. -/
theorem compared_ofDatabase (a : Affinity) (v w : Value) :
    Rules.ofDatabase.compared a v w = Formula.compared a .binary v w := by
  rw [Rules.compared, Formula.compared, asCompared_ofDatabase, asCompared_ofDatabase]
  rfl

/-- A comparison is satisfied where the test that it makes comes to something true. -/
theorem holds_ofDatabase (k : Comparator) (a : Affinity) (v w : Value) :
    Rules.ofDatabase.holds k a v w = ((k.value a v w).truth? == some true) := by
  cases k with
  | like =>
    have hvalue : Comparator.value .like a v w = if w.isNull || v.isNull then .null else
        .ofTruth (some (Rules.ofDatabase.isLike w.toText v.toText)) := rfl
    rw [Rules.holds, textOf_ofDatabase, textOf_ofDatabase, hvalue, Bool.or_comm w.isNull]
    cases v.isNull || w.isNull with
    | true => rfl
    | false =>
      rw [if_neg Bool.false_ne_true, truth?_ofTruth]
      cases Rules.ofDatabase.isLike w.toText v.toText <;> rfl
  | same =>
    rw [Rules.holds, compared_ofDatabase, Comparator.value]
    simp only [Comparator.operator?, Formula.binaryValue, truth?_ofTruth, Formula.sameValue]
    cases Formula.compared a .binary v w <;> simp
  | _ =>
    rw [Rules.holds, compared_ofDatabase, Comparator.value]
    simp only [Comparator.operator?, Formula.binaryValue, truth?_ofTruth]
    cases Formula.compared a .binary v w <;> simp

end QueryPipe.Sql
