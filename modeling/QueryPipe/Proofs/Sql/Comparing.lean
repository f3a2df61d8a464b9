import QueryPipe.Proofs.Sql.Reading

/-!
# Reading comparisons

A test compares a column with a value. It is read as one term wherever the operators around it bind
less strongly, as nothing after it goes on with it.

* `AtEnd`: where a term ends.
* `reads_operand_name`, `reads_operand_value`: the two sides of a test.
* `reads_term_test`: a test alone.
* `reads_term_tests`: tests that hold together.
-/

namespace QueryPipe.Sql

/-! ## Operands -/

/-- A text that is the name of a column where it stands without quotes. -/
structure IsPlainName (s : String) : Prop where
  /-- Its characters are a word. -/
  word : IsWord s.toList
  /-- It is no reserved word. -/
  free : isAmong reservedWords s = false

/-- A plain name is no reserved word in whatever case. -/
theorem IsPlainName.toUpper_ne {s word : String} (h : IsPlainName s)
    (hword : reservedWords.contains word = true) : s.toUpper ≠ word := by
  rintro rfl
  rw [← isAmong, h.free] at hword
  cases hword

/-- A name of a column as an expression. -/
def nameExpression (s : String) : Expression := .field ⟨[], s, false, true⟩

section Operands

variable {ls : List Lexeme} {k : Nat}

/-- A name without a point behind it is a field of its own, of no table. -/
theorem reads_qualified {s : String} {double bare : Bool} (h : ls.head? ≠ some (.sign ".")) :
    Reads (Reader.qualified s double bare) ls k (· = .field ⟨[], s, double, bare⟩) ls k :=
  (reads_sign?_false h).then (reads_pure rfl)

/-- A place for a parameter without a name takes the next number. -/
theorem reads_parameter : Reads (Reader.parameter "?") ls k (· = k) ls (k + 1) := by
  rw [Reader.parameter]
  refine reads_get.bind fun c hc => ?_
  simp only [beq_self_eq_true, if_true, hc.parameters]
  by_cases hmany : 32766 < k + 1
  · rw [if_pos hmany]
    exact reads_problem_bind
  · rw [if_neg hmany]
    have hset : Cursor.IsAt { c with parameters := k + 1 } ls (k + 1) :=
      ⟨hc.lexemes, rfl, hc.named⟩
    exact (reads_set hset).bind fun _ _ => reads_pure rfl

/-- A plain name is read as a field. -/
theorem reads_operand_name {s : String} (hs : IsPlainName s)
    (hpoint : ls.head? ≠ some (.sign ".")) (hopen : ls.head? ≠ some (.sign "(")) (fuel : Nat) :
    Reads (Reader.operand fuel) (.word s :: ls) k (· = nameExpression s) ls k := by
  cases fuel with
  | zero => exact reads_fail
  | succ fuel =>
    rw [Reader.operand]
    refine reads_peek?_cons.bind ?_
    rintro _ ⟨t, rfl, ht⟩
    simp only [UnaryOp.ofToken?, ht]
    split
    · exact absurd ‹_› (hs.toUpper_ne (by decide))
    · exact absurd ‹_› (hs.toUpper_ne (by decide))
    · exact absurd ‹_› (hs.toUpper_ne (by decide))
    · -- without parentheses after it, the word for a conversion is a name too
      refine Reads.then (reads_seesSecond_false hopen) ?_
      exact reads_skip.bind fun _ _ => reads_qualified hpoint
    · rw [hs.free]
      refine reads_skip.bind fun _ _ => ?_
      exact Reads.then (reads_sees_false (isSign_false hopen)) (reads_qualified hpoint)

/-- A placeholder is read as the next parameter, and counted. -/
theorem reads_operand_parameter (fuel : Nat) :
    Reads (Reader.operand fuel) (.parameter "?" :: ls) k (· = .parameter k) ls (k + 1) := by
  cases fuel with
  | zero => exact reads_fail
  | succ fuel =>
    rw [Reader.operand]
    refine reads_peek?_cons.bind ?_
    rintro _ ⟨t, rfl, ht⟩
    simp only [UnaryOp.ofToken?, ht]
    refine reads_skip.bind fun _ _ => ?_
    exact reads_parameter.then (reads_pure rfl)

theorem reads_operand_null (fuel : Nat) :
    Reads (Reader.operand fuel) (.word "NULL" :: ls) k (· = .literal .null) ls k := by
  cases fuel with
  | zero => exact reads_fail
  | succ fuel =>
    have hnull : "NULL".toUpper = "NULL" := toUpper_of_mem_questionWords (by decide)
    rw [Reader.operand]
    refine reads_peek?_cons.bind ?_
    rintro _ ⟨t, rfl, ht⟩
    simp only [UnaryOp.ofToken?, ht, hnull]
    exact reads_skip.bind fun _ _ => reads_pure rfl

/-- A number is read as its value. -/
theorem reads_operand_number {s : String} {v : Value} (hv : numberValue s = .ok v) (fuel : Nat) :
    Reads (Reader.operand fuel) (.number s :: ls) k (· = .literal v) ls k := by
  cases fuel with
  | zero => exact reads_fail
  | succ fuel =>
    rw [Reader.operand]
    refine reads_peek?_cons.bind ?_
    rintro _ ⟨t, rfl, ht⟩
    simp only [UnaryOp.ofToken?, ht, hv]
    exact reads_skip.bind fun _ _ => reads_pure rfl

end Operands

/-! ## Whole numbers -/

section Numbers

open Numeral

/-- The value of digits is the one that the library gives them. -/
theorem valueOf_eq_ofDigitChars (cs : List Char) :
    Decimal.valueOf cs = Nat.ofDigitChars 10 cs 0 := by
  have h : ∀ n, cs.foldl (fun n c => n * 10 + (c.toNat - '0'.toNat)) n =
      Nat.ofDigitChars 10 cs n := by
    induction cs with
    | nil => intro n; rfl
    | cons c cs ih => intro n; rw [List.foldl_cons, ih, Nat.ofDigitChars_cons, Nat.mul_comm]
  exact h 0

/-- A text of digits is a whole number to its end. -/
theorem leading?_digits {cs : List Char} (hne : cs ≠ []) (h : ∀ c ∈ cs, c.isDigit = true) :
    leading? cs =
      some ⟨some (Decimal.valueOf cs), .ofDecimal false (Decimal.valueOf cs) 0, true⟩ := by
  obtain ⟨c, more, rfl⟩ := List.exists_cons_of_ne_nil hne
  have hc := h c (by simp)
  have hspace : isSpace c = false := by
    have := toNat_of_isDigit hc
    have hne : c ≠ ' ' := by rintro rfl; exact absurd hc (by decide)
    simp [isSpace, hne]
    omega
  have hminus : c ≠ '-' := by rintro rfl; exact absurd hc (by decide)
  have hplus : c ≠ '+' := by rintro rfl; exact absurd hc (by decide)
  have htake : (c :: more).takeWhile Char.isDigit = c :: more := List.takeWhile_eq_self_iff.2 h
  unfold leading?
  rw [List.dropWhile_cons_of_neg (by simp [hspace])]
  have hsign : ∀ digits, c :: more ≠ '-' :: digits ∧ c :: more ≠ '+' :: digits := by
    intro digits
    simp [hminus, hplus]
  dsimp only
  split
  · exact absurd ‹_› (hsign _).1
  · exact absurd ‹_› (hsign _).2
  · simp only [htake, List.drop_length]
    simp [pointDigits]

theorem isDigit_of_mem_toString {n : Nat} {c : Char} (hc : c ∈ (toString n).toList) :
    c.isDigit = true := by
  have hdigits : (toString n).toList = Nat.toDigits 10 n := String.toList_ofList
  rw [hdigits] at hc
  exact Nat.isDigit_of_mem_toDigits (by decide) (by decide) hc

/-- A whole number that fits is read back from its digits. -/
theorem numeral?_toString (n : Nat) (hn : fits n = true) :
    Value.numeral? (toString n) = some (.whole (Int64.ofInt n)) := by
  have hdigits : ∀ c ∈ Nat.toDigits 10 n, c.isDigit = true := fun c hc =>
    Nat.isDigit_of_mem_toDigits (by decide) (by decide) hc
  have hvalue : Decimal.valueOf (Nat.toDigits 10 n) = n := by
    rw [valueOf_eq_ofDigitChars, Nat.ofDigitChars_toDigits (by decide) (by decide)]
  simp [Value.numeral?, leading?_digits Nat.toDigits_ne_nil hdigits, hvalue, hn]

/-- A whole number is read as it is written. -/
theorem numberValue_toString (n : UInt32) :
    numberValue (toString n.toNat) = .ok (.whole (Int64.ofInt n.toNat)) := by
  have hfits : fits n.toNat = true := by
    have hlt := n.toNat_lt
    have hsmall : (n.toNat : Int) ≤ twoTo 63 - 1 := by
      have htwo : (twoTo 63 : Int) = 2 ^ 63 := by decide
      omega
    simp [fits, WholeRange.holds, WholeRange.signed64, hsmall]
  have hplain : ∀ s, s.toList.all Char.isDigit = false →
      Text.startsWith s (toString n.toNat) = false := by
    intro s hs
    rw [Text.startsWith, Bool.eq_false_iff, ne_eq, List.isPrefixOf_iff_prefix]
    intro hprefix
    rw [List.all_eq_false] at hs
    obtain ⟨c, hc, hdigit⟩ := hs
    exact hdigit (isDigit_of_mem_toString (List.IsPrefix.subset hprefix hc))
  rw [numberValue, hplain "0x" rfl, hplain "0X" rfl, numeral?_toString _ hfits]
  rfl

end Numbers

/-! ## Where a term ends -/

/-- The words that go on with a term. -/
def goingOn : List String :=
  ["OR", "AND", "COLLATE", "ISNULL", "NOTNULL", "IS", "NOT", "LIKE", "GLOB", "REGEXP", "MATCH",
    "BETWEEN", "IN", "ESCAPE"]

/-- Whether a lexeme ends a term whose operators bind at least with a strength. -/
def Lexeme.isEnd (least : Nat) : Lexeme → Bool
  | .sign s => s == ","
  | .word s => if s.toUpper == "AND" then 2 < least else !goingOn.contains s.toUpper
  | _ => false

/-- Whether lexemes are at their end, or start with one that ends a term. -/
def AtEnd (least : Nat) (ls : List Lexeme) : Prop := ∀ l, ls.head? = some l → l.isEnd least = true

section Ends

variable {ls : List Lexeme} {k least : Nat}

theorem atEnd_nil : AtEnd least [] := by
  intro l hl
  cases hl

theorem atEnd_cons {l : Lexeme} (h : l.isEnd least = true) : AtEnd least (l :: ls) := by
  intro m hm
  obtain rfl := Option.some.inj hm
  exact h

/-- A word ends a term unless it goes on with it. -/
theorem Lexeme.isEnd_word {s : String} (h : s ∈ questionWords) (hend : s ∉ goingOn) :
    (Lexeme.word s).isEnd least = true := by
  have hand : (s == "AND") = false := by
    rw [beq_eq_false_iff_ne]
    rintro rfl
    exact hend (by decide)
  simp [isEnd, toUpper_of_mem_questionWords h, hand, hend]

theorem AtEnd.not_escape (h : AtEnd least ls) (l : Lexeme) (hl : ls.head? = some l) :
    l.isKeyword "ESCAPE" = false := by
  have hend := h l hl
  cases l with
  | word s =>
    by_cases hs : s.toUpper = "ESCAPE"
    · simp [Lexeme.isEnd, hs, goingOn] at hend
    · simpa [Lexeme.isKeyword] using hs
  | _ => rfl

/-- Where an expression ends for weak operators it ends for the strong ones too. -/
theorem AtEnd.mono {least' : Nat} (h : AtEnd least ls) (hle : least ≤ least') :
    AtEnd least' ls := by
  intro l hl
  have hl := h l hl
  cases l with
  | word s =>
    by_cases hand : s.toUpper = "AND"
    · simp only [Lexeme.isEnd, hand, beq_self_eq_true, if_true, decide_eq_true_eq] at hl ⊢
      omega
    · simpa [Lexeme.isEnd, hand] using hl
  | _ => exact hl

/-- Whether a token goes on with no term. -/
structure Token.IsQuiet (t : Token) : Prop where
  /-- It is no operator. -/
  operator : BinaryOp.ofToken? t = none
  /-- It is none of the words after an operand. -/
  keyword : ∀ word ∈ ["COLLATE", "ISNULL", "NOTNULL", "IS", "NOT", "BETWEEN", "IN"],
    t.isWord word = false
  /-- It is no word for a match. -/
  matching : matchWord? t = none

theorem Token.isQuiet_of_comma {t : Token} (ht : t.lexeme = .sign ",") : t.IsQuiet where
  operator := by simp [BinaryOp.ofToken?, ht]
  keyword := fun word _ => by rw [t.isWord_eq, ht]; rfl
  matching := by simp [matchWord?, ht]

theorem Token.isQuiet_of_word {t : Token} {s : String} (ht : t.lexeme = .word s)
    (hs : goingOn.contains s.toUpper = false) : t.IsQuiet := by
  have hne : ∀ word ∈ goingOn, s.toUpper ≠ word := by
    rintro word hword rfl
    rw [List.contains_eq_mem, decide_eq_false_iff_not] at hs
    exact hs hword
  refine ⟨?_, fun word hword => ?_, ?_⟩
  · have hor := hne "OR" (by decide)
    have hand := hne "AND" (by decide)
    simp [BinaryOp.ofToken?, ht, hor, hand]
  · have hmem : word ∈ goingOn := by
      revert word
      decide
    simp [t.isWord_eq, ht, Lexeme.isKeyword, hne word hmem]
  · have hnot : isAmong ["LIKE", "GLOB", "REGEXP", "MATCH"] s = false := by
      rw [isAmong, List.contains_eq_mem, decide_eq_false_iff_not]
      intro hmem
      have hsub : ∀ word ∈ ["LIKE", "GLOB", "REGEXP", "MATCH"], word ∈ goingOn := by decide
      exact hne _ (hsub _ hmem) rfl
    simp [matchWord?, ht, hnot]

/-- An expression ends where no operator goes on with it. -/
theorem reads_more_end (h : AtEnd least ls) (t : Expression) (fuel : Nat) :
    Reads (Reader.more fuel least t) ls k (· = t) ls k := by
  cases fuel with
  | zero => exact reads_fail
  | succ fuel =>
    rw [Reader.more]
    cases ls with
    | nil => exact reads_peek?_nil.then (reads_pure rfl)
    | cons l ls =>
      have hl := h l rfl
      refine reads_peek?_cons.bind ?_
      rintro _ ⟨token, rfl, ht⟩
      by_cases hand : ∃ s, l = .word s ∧ s.toUpper = "AND"
      · obtain ⟨s, rfl, hs⟩ := hand
        have hweak : ¬ least ≤ BinaryOp.and.strength := by
          simpa [Lexeme.isEnd, hs, BinaryOp.strength] using hl
        have hop : BinaryOp.ofToken? token = some .and := by simp [BinaryOp.ofToken?, ht, hs]
        simp only [hop, hweak, if_false]
        exact reads_pure rfl
      · have hquiet : token.IsQuiet := by
          cases l with
          | sign s =>
            obtain rfl : s = "," := by simpa [Lexeme.isEnd] using hl
            exact Token.isQuiet_of_comma ht
          | word s =>
            refine Token.isQuiet_of_word ht ?_
            have hs : s.toUpper ≠ "AND" := fun e => hand ⟨s, rfl, e⟩
            simpa [Lexeme.isEnd, hs] using hl
          | _ => cases hl
        have hkeyword := hquiet.keyword
        simp only [List.forall_mem_cons] at hkeyword
        simp [hquiet.operator, hquiet.matching, hkeyword]
        exact reads_pure rfl

theorem reads_term {l : Lexeme} {rest others : List Lexeme} {m n : Nat} {t : Expression}
    {P : Expression → Prop}
    (hoperand : ∀ fuel, Reads (Reader.operand fuel) (l :: ls) k (· = t) rest m)
    (hmore : ∀ fuel, Reads (Reader.more fuel least t) rest m P others n) (fuel : Nat) :
    Reads (Reader.term fuel least) (l :: ls) k P others n := by
  cases fuel with
  | zero => exact reads_fail
  | succ fuel =>
    rw [Reader.term]
    exact (hoperand fuel).then (hmore fuel)

/-- An operand with nothing after it that belongs to it. -/
theorem reads_term_operand {l : Lexeme} {rest : List Lexeme} {m : Nat} {t : Expression}
    (hoperand : ∀ fuel, Reads (Reader.operand fuel) (l :: ls) k (· = t) rest m)
    (hend : AtEnd least rest) (fuel : Nat) :
    Reads (Reader.term fuel least) (l :: ls) k (· = t) rest m :=
  reads_term hoperand (reads_more_end hend t) fuel

/-- An operator that binds strongly enough, with its right operand. -/
theorem reads_more_operator {l : Lexeme} {rest others : List Lexeme} {m n : Nat}
    {op : BinaryOp} {t r : Expression} {P : Expression → Prop}
    (hop : ∀ token, token.lexeme = l → BinaryOp.ofToken? token = some op)
    (hstrong : least ≤ op.strength)
    (hright : ∀ fuel, Reads (Reader.term fuel (op.strength + 1)) ls k (· = r) rest m)
    (hmore : ∀ fuel, Reads (Reader.more fuel least (.binary op t r)) rest m P others n)
    (fuel : Nat) : Reads (Reader.more fuel least t) (l :: ls) k P others n := by
  cases fuel with
  | zero => exact reads_fail
  | succ fuel =>
    rw [Reader.more]
    refine reads_peek?_cons.bind ?_
    rintro _ ⟨token, rfl, ht⟩
    simp only [hop token ht, hstrong, if_true]
    exact reads_skip.bind fun _ _ => (hright fuel).then (hmore fuel)

end Ends

/-! ## Comparisons -/

/-- How a column is compared. -/
inductive Comparator
  /-- Equal. -/
  | eq
  /-- Not equal. -/
  | ne
  /-- Before. -/
  | lt
  /-- Before or equal. -/
  | le
  /-- After. -/
  | gt
  /-- After or equal. -/
  | ge
  /-- As a pattern says. -/
  | like
  /-- The same, also where both are missing. -/
  | same
  deriving DecidableEq, Repr

namespace Comparator

/-- How a comparison is spelled. -/
def spelling : Comparator → String
  | .eq => "="
  | .ne => "<>"
  | .lt => "<"
  | .le => "<="
  | .gt => ">"
  | .ge => ">="
  | .like => "LIKE"
  | .same => "IS"

/-- The lexeme of a comparison. -/
def lexeme : Comparator → Lexeme
  | .like => .word "LIKE"
  | .same => .word "IS"
  | c => .sign c.spelling

/-- The operator of a comparison, unless it is a function. -/
def operator? : Comparator → Option BinaryOp
  | .eq => some .eq
  | .ne => some .ne
  | .lt => some .lt
  | .le => some .le
  | .gt => some .gt
  | .ge => some .ge
  | .like => none
  | .same => some .same

/-- A comparison of two terms. -/
def expression (c : Comparator) (t value : Expression) : Expression :=
  match c.operator? with
  | some op => .binary op t value
  | none => .call ⟨"LIKE", false, false⟩ [value, t]

end Comparator

/-- What a column is compared with. -/
structure Test where
  /-- The column. -/
  column : String
  /-- How it is compared. -/
  comparator : Comparator
  /-- Whether it is compared with the missing value, and not with a parameter. -/
  missing : Bool
  deriving DecidableEq, Repr

namespace Test

/-- The lexeme of what the column is compared with. -/
def valueLexeme (t : Test) : Lexeme := if t.missing then .word "NULL" else .parameter "?"

/-- The lexemes of a test. -/
def lexemes (t : Test) : List Lexeme := [.word t.column, t.comparator.lexeme, t.valueLexeme]

/-- What the column is compared with, after a number of parameters. -/
def value (t : Test) (k : Nat) : Expression := if t.missing then .literal .null else .parameter k

/-- The number of parameters after a test. -/
def next (t : Test) (k : Nat) : Nat := if t.missing then k else k + 1

/-- A test as an expression, after a number of parameters. -/
def expression (t : Test) (k : Nat) : Expression :=
  t.comparator.expression (nameExpression t.column) (t.value k)

end Test

section Tests

variable {ls others : List Lexeme} {k n least : Nat}

/-- The value of a condition is read as such: a parameter, or the missing value. -/
theorem reads_operand_value (t : Test) (fuel : Nat) :
    Reads (Reader.operand fuel)
      (t.valueLexeme :: ls) k (· = t.value k) ls
      (t.next k) := by
  rw [Test.valueLexeme, Test.value, Test.next]
  cases t.missing with
  | true => exact reads_operand_null fuel
  | false => exact reads_operand_parameter fuel

theorem reads_value_term (t : Test) {strength : Nat} (hend : AtEnd 5 ls) (hle : 5 ≤ strength)
    (fuel : Nat) :
    Reads (Reader.term fuel strength)
      (t.valueLexeme :: ls) k (· = t.value k) ls
      (t.next k) :=
  reads_term_operand (reads_operand_value t) (hend.mono hle) fuel

/-- The word for sameness, and what a value is to be the same as. -/
theorem reads_identity (t : Test) (hend : AtEnd 5 ls) (e : Expression) (fuel : Nat) :
    Reads (Reader.identity fuel e)
      (t.valueLexeme :: ls) k
      (· = .binary .same e (t.value k)) ls (t.next k) := by
  cases fuel with
  | zero => exact reads_fail
  | succ fuel =>
    rw [Reader.identity]
    have hnone : ∀ word ∈ ["NOT", "DISTINCT"], ∀ l,
        (t.valueLexeme :: ls).head? = some l →
          l.isKeyword word = false := by
      intro word hword l hl
      obtain rfl := Option.some.inj hl
      rw [Test.valueLexeme]
      cases t.missing with
      | false => rfl
      | true =>
        exact Lexeme.isKeyword_of_ne (by decide) (by rintro rfl; exact absurd hword (by decide))
    refine (reads_word?_false (hnone "NOT" (by decide))).then ?_
    refine (reads_word?_false (hnone "DISTINCT" (by decide))).then ?_
    refine (reads_value_term t hend (by decide) fuel).then ?_
    rw [Test.value]
    cases t.missing <;> exact reads_pure rfl

theorem matchWord?_like {token : Token} (ht : token.lexeme = .word "LIKE") :
    matchWord? token = some "LIKE" := by
  have hlike : isAmong ["LIKE", "GLOB", "REGEXP", "MATCH"] "LIKE" = true := by
    rw [isAmong_of_mem_questionWords (by decide)]
    decide
  simp [matchWord?, ht, hlike]

/-- The word for a match, and the pattern. -/
theorem reads_wordy (t : Test) (hend : AtEnd 5 ls) (e : Expression) (fuel : Nat) :
    Reads (Reader.wordy fuel false e)
      (.word "LIKE" :: t.valueLexeme :: ls) k
      (· = .call ⟨"LIKE", false, false⟩ [t.value k, e]) ls (t.next k) := by
  cases fuel with
  | zero => exact reads_fail
  | succ fuel =>
    rw [Reader.wordy]
    refine (reads_word?_other (by decide) (by decide)).then ?_
    refine (reads_word?_other (by decide) (by decide)).then ?_
    refine (reads_taken? fun _ => matchWord?_like).then ?_
    refine (reads_value_term t hend (by decide) fuel).then ?_
    exact (reads_word?_false hend.not_escape).then (reads_pure rfl)

/-- The words for a match and for sameness are no operators. -/
theorem ofToken?_of_not_operator {c : Comparator} (hc : c = .like ∨ c = .same) {token : Token}
    (ht : token.lexeme = c.lexeme) : BinaryOp.ofToken? token = none := by
  have hlike : "LIKE".toUpper = "LIKE" := toUpper_of_mem_questionWords (by decide)
  have hsame : "IS".toUpper = "IS" := toUpper_of_mem_questionWords (by decide)
  rcases hc with rfl | rfl
  · simp [BinaryOp.ofToken?, ht, Comparator.lexeme, hlike]
  · simp [BinaryOp.ofToken?, ht, Comparator.lexeme, hsame]

theorem ofToken?_of_operator {c : Comparator} {op : BinaryOp} (hop : c.operator? = some op)
    (hc : c ≠ .same) {token : Token} (ht : token.lexeme = c.lexeme) :
    BinaryOp.ofToken? token = some op := by
  cases c with
  | like => cases hop
  | same => exact absurd rfl hc
  | _ => cases hop; simp [BinaryOp.ofToken?, ht, Comparator.lexeme, Comparator.spelling]

/-- A match after a column, and what follows it. -/
theorem reads_more_like {t : Test} (hlike : t.comparator = .like) {P : Expression → Prop}
    (hleast : least ≤ 4) (hend : AtEnd 5 ls)
    (hmore : ∀ fuel, Reads (Reader.more fuel least (t.expression k)) ls (t.next k) P others n)
    (fuel : Nat) :
    Reads (Reader.more fuel least (nameExpression t.column))
      (t.comparator.lexeme :: t.valueLexeme :: ls) k P others n := by
  cases fuel with
  | zero => exact reads_fail
  | succ fuel =>
    rw [Reader.more]
    refine reads_peek?_cons.bind ?_
    rintro _ ⟨token, rfl, ht⟩
    have hmatch : least ≤ matchStrength := hleast
    have hnone : ∀ word ∈ ["COLLATE", "ISNULL", "NOTNULL", "IS", "NOT"],
        token.isWord word = false := by
      intro word hword
      rw [token.isWord_eq, ht, hlike]
      exact Lexeme.isKeyword_of_ne (by decide) (by rintro rfl; exact absurd hword (by decide))
    simp only [List.forall_mem_cons] at hnone
    have htaken : (matchWord? token).isSome = true := by
      rw [matchWord?_like (ht.trans (by rw [hlike]; rfl)), Option.isSome_some]
    have hexpression : t.expression k =
        .call ⟨"LIKE", false, false⟩ [t.value k, nameExpression t.column] := by
      rw [Test.expression, hlike]
      rfl
    rw [hexpression] at hmore
    simp only [ofToken?_of_not_operator (.inl hlike) ht, hnone, hmatch, htaken, Bool.false_and,
      Bool.false_eq_true, Bool.true_or, if_false, if_true, hlike]
    exact (reads_wordy t hend _ fuel).then (hmore fuel)

/-- A test for identity after a column, and what follows it. -/
theorem reads_more_same {t : Test} (hsame : t.comparator = .same) {P : Expression → Prop}
    (hleast : least ≤ 4) (hend : AtEnd 5 ls)
    (hmore : ∀ fuel, Reads (Reader.more fuel least (t.expression k)) ls (t.next k) P others n)
    (fuel : Nat) :
    Reads (Reader.more fuel least (nameExpression t.column))
      (t.comparator.lexeme :: t.valueLexeme :: ls) k P others n := by
  cases fuel with
  | zero => exact reads_fail
  | succ fuel =>
    rw [Reader.more]
    refine reads_peek?_cons.bind ?_
    rintro _ ⟨token, rfl, ht⟩
    have hmatch : least ≤ matchStrength := hleast
    have hnone : ∀ word ∈ ["COLLATE", "ISNULL", "NOTNULL"], token.isWord word = false := by
      intro word hword
      rw [token.isWord_eq, ht, hsame]
      exact Lexeme.isKeyword_of_ne (by decide) (by rintro rfl; exact absurd hword (by decide))
    simp only [List.forall_mem_cons] at hnone
    have his : token.isWord "IS" = true := by
      rw [token.isWord_eq, ht, hsame]
      exact Lexeme.isKeyword_self (by decide)
    have hexpression : t.expression k =
        .binary .same (nameExpression t.column) (t.value k) := by
      rw [Test.expression, hsame]
      rfl
    rw [hexpression] at hmore
    simp only [ofToken?_of_not_operator (.inr hsame) ht, hnone, hmatch, his, Bool.false_and,
      Bool.false_eq_true, if_false, if_true]
    refine reads_skip.bind fun _ _ => ?_
    exact (reads_identity t hend _ fuel).then (hmore fuel)

/-- The comparison after a column, and what follows it. -/
theorem reads_more_test (t : Test) {P : Expression → Prop} (hleast : least ≤ 4)
    (hend : AtEnd 5 ls)
    (hmore : ∀ fuel, Reads (Reader.more fuel least (t.expression k)) ls (t.next k) P others n)
    (fuel : Nat) :
    Reads (Reader.more fuel least (nameExpression t.column))
      (t.comparator.lexeme :: t.valueLexeme :: ls)
      k P others n := by
  by_cases hlike : t.comparator = .like
  · exact reads_more_like hlike hleast hend hmore fuel
  by_cases hsame : t.comparator = .same
  · exact reads_more_same hsame hleast hend hmore fuel
  obtain ⟨op, hop⟩ : ∃ op, t.comparator.operator? = some op := by
    cases hc : t.comparator with
    | like => exact absurd hc hlike
    | _ => exact ⟨_, rfl⟩
  have hfour : 4 ≤ op.strength := by
    cases hc : t.comparator <;> rw [hc] at hop <;> cases hop <;> decide
  have hexpression : t.expression k = .binary op (nameExpression t.column) (t.value k) := by
    simp only [Test.expression, Comparator.expression, hop]
  refine reads_more_operator (fun _ ht => ofToken?_of_operator hop hsame ht)
    (Nat.le_trans hleast hfour) (reads_value_term t hend (Nat.succ_le_succ hfour)) ?_ fuel
  rwa [← hexpression]

/-- A test that stands where operators bind at least with a strength. -/
theorem reads_term_test (t : Test) {P : Expression → Prop} (hname : IsPlainName t.column)
    (hleast : least ≤ 4) (hend : AtEnd 5 ls)
    (hmore : ∀ fuel, Reads (Reader.more fuel least (t.expression k)) ls (t.next k) P others n)
    (fuel : Nat) : Reads (Reader.term fuel least) (t.lexemes ++ ls) k P others n := by
  have hsign : ∀ s ∈ [".", "("], some t.comparator.lexeme ≠ some (.sign s) := by
    cases t.comparator <;> decide
  have hoperand : ∀ fuel, Reads (Reader.operand fuel)
      (.word t.column :: t.comparator.lexeme :: t.valueLexeme :: ls) k
      (· = nameExpression t.column) (t.comparator.lexeme :: t.valueLexeme :: ls) k :=
    reads_operand_name hname (hsign "." (by decide)) (hsign "(" (by decide))
  exact reads_term hoperand (reads_more_test t hleast hend hmore) fuel

end Tests

/-! ## Several tests -/

namespace Test

/-- The number of parameters after tests. -/
def nextAll (k : Nat) (tests : List Test) : Nat := tests.foldl (fun k t => t.next k) k

/-- A term that must hold along with tests, after a number of parameters. -/
def conjoined (e : Expression) : Nat → List Test → Expression
  | _, [] => e
  | k, t :: rest => conjoined (.binary .and e (t.expression k)) (t.next k) rest

/-- All tests as one condition, if there are any. -/
def conjunction? : List Test → Option Expression
  | [] => none
  | t :: rest => some (conjoined (t.expression 0) (t.next 0) rest)

end Test

section Conjunctions

variable {ls : List Lexeme} {k : Nat}

/-- A condition ends before the `AND` of the next one. -/
theorem atEnd_conjoined (rest : List Test) (hend : AtEnd 0 ls) :
    AtEnd 3 ((rest.flatMap fun t => .word "AND" :: t.lexemes) ++ ls) := by
  cases rest with
  | nil => exact hend.mono (by decide)
  | cons t rest =>
    have hand : "AND".toUpper = "AND" := toUpper_of_mem_questionWords (by decide)
    exact atEnd_cons (by simp [Lexeme.isEnd, hand])

/-- The tests after the first, each with its word in front. -/
theorem reads_more_tests (rest : List Test) (hnames : ∀ t ∈ rest, IsPlainName t.column)
    (hend : AtEnd 0 ls) (e : Expression) (fuel : Nat) :
    Reads (Reader.more fuel 0 e) ((rest.flatMap fun t => .word "AND" :: t.lexemes) ++ ls) k
      (· = Test.conjoined e k rest) ls (Test.nextAll k rest) := by
  induction rest generalizing e k fuel with
  | nil => exact reads_more_end hend e fuel
  | cons t rest ih =>
    have hand : "AND".toUpper = "AND" := toUpper_of_mem_questionWords (by decide)
    have hthree := atEnd_conjoined rest hend
    rw [List.flatMap_cons, List.append_assoc, List.cons_append]
    have hop : ∀ token : Token, token.lexeme = .word "AND" →
        BinaryOp.ofToken? token = some .and := by
      intro token ht
      simp [BinaryOp.ofToken?, ht, hand]
    exact reads_more_operator hop (by decide)
      (reads_term_test t (hnames t List.mem_cons_self) (by decide) (hthree.mono (by decide))
        (reads_more_end hthree _))
      (fun fuel => ih (fun u hu => hnames u (List.mem_cons_of_mem t hu)) _ fuel) fuel

/-- All tests as one term. -/
theorem reads_term_tests (t : Test) (rest : List Test)
    (hnames : ∀ u ∈ t :: rest, IsPlainName u.column) (hend : AtEnd 0 ls) (fuel : Nat) :
    Reads (Reader.term fuel 0)
      (t.lexemes ++ ((rest.flatMap fun u => .word "AND" :: u.lexemes) ++ ls)) k
      (· = Test.conjoined (t.expression k) (t.next k) rest) ls (Test.nextAll k (t :: rest)) :=
  reads_term_test t (hnames t List.mem_cons_self) (by decide)
    ((atEnd_conjoined rest hend).mono (by decide))
    (reads_more_tests rest (fun u hu => hnames u (List.mem_cons_of_mem t hu)) hend _) fuel

end Conjunctions

end QueryPipe.Sql
