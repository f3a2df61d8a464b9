import QueryPipe.Proofs.Sql.Lexing
import QueryPipe.Sql.TermReader

/-!
# What readers read

A reader is described by the lexemes in front of it and the lexemes it leaves: if it succeeds, its
result is as said and the others are left. Nothing is said of a reader that fails. Such
descriptions are put together as readers are.

* `Reads`: what a reader makes of lexemes, if it succeeds.
* `Reads.bind`: one reader after the other.
* `reads_word?_true`, `reads_word?_false`: a keyword is next, or is not.
-/

namespace QueryPipe.Sql

/-- A cursor in front of lexemes, after a number of parameters without names. -/
structure Cursor.IsAt (c : Cursor) (ls : List Lexeme) (k : Nat) : Prop where
  /-- The lexemes that are left. -/
  lexemes : c.rest.map Token.lexeme = ls
  /-- The number of parameters so far. -/
  parameters : c.parameters = k
  /-- None of them has a name. -/
  named : c.named = []

/-- In front of some lexemes and after so many parameters, a reader that succeeds has a result as
said, and leaves the others. -/
def Reads {α : Type} (r : Reader α) (ls : List Lexeme) (k : Nat) (P : α → Prop)
    (others : List Lexeme) (m : Nat) : Prop :=
  ∀ c a after, c.IsAt ls k → r c = .ok (a, after) → P a ∧ after.IsAt others m

section Rules

variable {α β : Type} {ls others rest : List Lexeme} {k m n : Nat} {P : α → Prop} {Q : β → Prop}

theorem reads_pure {a : α} (h : P a) : Reads (pure a) ls k P ls k := by
  intro c b after hc hb
  cases hb
  exact ⟨h, hc⟩

theorem reads_pure_self (a : α) : Reads (pure a) ls k (· = a) ls k := reads_pure rfl

/-- A reader that fails reads anything: what is said of it is about where it succeeds. -/
theorem reads_fail : Reads (Reader.fail : Reader α) ls k P others m := by
  intro c a after _ h
  cases h

theorem reads_problem_bind {p : Problem} {f : α → Reader β} :
    Reads (Reader.problem p >>= f) ls k Q others n := by
  intro c a after _ h
  cases h

/-- What a reader reads is passed on to the reader that follows it. -/
theorem Reads.bind {r : Reader α} {f : α → Reader β} (hr : Reads r ls k P rest m)
    (hf : ∀ a, P a → Reads (f a) rest m Q others n) : Reads (r >>= f) ls k Q others n := by
  intro c b after hc hb
  cases hfirst : r c with
  | error p => simp [Bind.bind, StateT.bind, Except.bind, hfirst] at hb
  | ok result =>
    obtain ⟨a, next⟩ := result
    have hsecond : f a next = .ok (b, after) := by
      simpa [Bind.bind, StateT.bind, Except.bind, hfirst] using hb
    obtain ⟨ha, hnext⟩ := hr c a next hc hfirst
    exact hf a ha next b after hnext hsecond

/-- One reader after another whose result is known. -/
theorem Reads.then {r : Reader α} {f : α → Reader β} {a : α} (hr : Reads r ls k (· = a) rest m)
    (hf : Reads (f a) rest m Q others n) : Reads (r >>= f) ls k Q others n :=
  hr.bind fun _ ha => ha ▸ hf

theorem reads_get : Reads get ls k (fun c => c.IsAt ls k) ls k := by
  intro c a after hc ha
  cases ha
  exact ⟨hc, hc⟩

theorem reads_set {c : Cursor} (h : c.IsAt others m) :
    Reads (set c) ls k (fun _ => True) others m := by
  intro d a after _ ha
  cases ha
  exact ⟨trivial, h⟩

end Rules

/-! ## The next token -/

section Tokens

variable {α : Type} {l : Lexeme} {ls : List Lexeme} {k : Nat}

/-- A cursor at a lexeme has a token of that lexeme before it. -/
theorem Cursor.IsAt.exists_cons {c : Cursor} (h : c.IsAt (l :: ls) k) :
    ∃ t rest, c.rest = t :: rest ∧ t.lexeme = l ∧ rest.map Token.lexeme = ls :=
  List.map_eq_cons_iff.1 h.lexemes

theorem Cursor.IsAt.head? {c : Cursor} (h : c.IsAt ls k) :
    c.rest.head?.map Token.lexeme = ls.head? := by
  rw [← h.lexemes, List.head?_map]

/-- A test of the next token that it passes. -/
theorem reads_sees_true {p : Token → Bool} (h : ∀ t, t.lexeme = l → p t = true) :
    Reads (Reader.sees p) (l :: ls) k (· = true) (l :: ls) k := by
  intro c b after hc hb
  obtain ⟨t, rest, hrest, ht, -⟩ := hc.exists_cons
  cases hb
  exact ⟨by simp [hrest, h t ht], hc⟩

/-- A test of the next token that it does not pass. -/
theorem reads_sees_false {p : Token → Bool} (h : ∀ t, ls.head? = some t.lexeme → p t = false) :
    Reads (Reader.sees p) ls k (· = false) ls k := by
  intro c b after hc hb
  cases hb
  refine ⟨?_, hc⟩
  have hhead := hc.head?
  cases hrest : c.rest with
  | nil => rfl
  | cons t rest =>
    rw [hrest] at hhead
    exact h t hhead.symm

/-- A token that is asked for is taken. -/
theorem reads_accept_true {p : Token → Bool} (h : ∀ t, t.lexeme = l → p t = true) :
    Reads (Reader.accept p) (l :: ls) k (· = true) ls k := by
  intro c b after hc hb
  obtain ⟨t, rest, hrest, ht, hls⟩ := hc.exists_cons
  simp only [Reader.accept, hrest, h t ht, if_true, Except.ok.injEq, Prod.mk.injEq] at hb
  obtain ⟨rfl, rfl⟩ := hb
  exact ⟨rfl, hls, hc.parameters, hc.named⟩

/-- A token that is not asked for stays. -/
theorem reads_accept_false {p : Token → Bool} (h : ∀ t, ls.head? = some t.lexeme → p t = false) :
    Reads (Reader.accept p) ls k (· = false) ls k := by
  intro c b after hc hb
  have hhead := hc.head?
  cases hrest : c.rest with
  | nil =>
    simp only [Reader.accept, hrest, Except.ok.injEq, Prod.mk.injEq] at hb
    obtain ⟨rfl, rfl⟩ := hb
    exact ⟨rfl, hc⟩
  | cons t rest =>
    rw [hrest] at hhead
    simp only [Reader.accept, hrest, h t hhead.symm, Bool.false_eq_true, if_false,
      Except.ok.injEq, Prod.mk.injEq] at hb
    obtain ⟨rfl, rfl⟩ := hb
    exact ⟨rfl, hc⟩

theorem reads_skip : Reads Reader.skip (l :: ls) k (fun _ => True) ls k := by
  intro c b after hc hb
  obtain ⟨t, rest, hrest, -, hls⟩ := hc.exists_cons
  cases hb
  exact ⟨trivial, by simp [hrest, hls], hc.parameters, hc.named⟩

/-- The next token is looked at and not taken. -/
theorem reads_peek?_cons :
    Reads Reader.peek? (l :: ls) k (fun t? => ∃ t, t? = some t ∧ t.lexeme = l) (l :: ls) k := by
  intro c t? after hc ht
  obtain ⟨t, rest, hrest, hl, -⟩ := hc.exists_cons
  cases ht
  exact ⟨⟨t, by simp [hrest], hl⟩, hc⟩

theorem reads_peek?_nil : Reads Reader.peek? [] k (· = none) [] k := by
  intro c t? after hc ht
  have hrest : c.rest = [] := List.map_eq_nil_iff.1 hc.lexemes
  cases ht
  exact ⟨by simp [hrest], hc⟩

/-- A token that means something is taken for what it means. -/
theorem reads_taken? {f : Token → Option α} {a : α} (h : ∀ t, t.lexeme = l → f t = some a) :
    Reads (Reader.taken? f) (l :: ls) k (· = some a) ls k := by
  intro c b after hc hb
  obtain ⟨t, rest, hrest, ht, hls⟩ := hc.exists_cons
  simp only [Reader.taken?, hrest, h t ht, Except.ok.injEq, Prod.mk.injEq] at hb
  obtain ⟨rfl, rfl⟩ := hb
  exact ⟨rfl, hls, hc.parameters, hc.named⟩

/-- A token that means nothing stays. -/
theorem reads_taken?_none {f : Token → Option α}
    (h : ∀ t, ls.head? = some t.lexeme → f t = none) :
    Reads (Reader.taken? f) ls k (· = none) ls k := by
  intro c b after hc hb
  have hhead := hc.head?
  cases hrest : c.rest with
  | nil =>
    simp only [Reader.taken?, hrest, Except.ok.injEq, Prod.mk.injEq] at hb
    obtain ⟨rfl, rfl⟩ := hb
    exact ⟨rfl, hc⟩
  | cons t rest =>
    rw [hrest] at hhead
    simp only [Reader.taken?, hrest, h t hhead.symm, Except.ok.injEq, Prod.mk.injEq] at hb
    obtain ⟨rfl, rfl⟩ := hb
    exact ⟨rfl, hc⟩

end Tokens

/-! ## Keywords and signs -/

/-- Whether a lexeme is a certain keyword. -/
def Lexeme.isKeyword (word : String) : Lexeme → Bool
  | .word s => s.toUpper == word
  | _ => false

theorem Token.isWord_eq (word : String) (t : Token) : t.isWord word = t.lexeme.isKeyword word := by
  unfold Token.isWord Lexeme.isKeyword
  cases t.lexeme <;> rfl

/-- The words that questions are written with. -/
def questionWords : List String :=
  ["SELECT", "FROM", "AS", "WHERE", "AND", "LIKE", "IS", "NULL", "ORDER", "BY", "ASC", "DESC",
    "LIMIT"]

/-- They are written in capitals. -/
theorem toUpper_of_mem_questionWords {s : String} (h : s ∈ questionWords) : s.toUpper = s := by
  have hall : questionWords.all (fun w => w.toUpper == w) = true := by decide +kernel
  simpa using List.all_eq_true.1 hall s h

theorem Lexeme.isKeyword_self {s : String} (h : s ∈ questionWords) :
    (Lexeme.word s).isKeyword s = true := by
  simp [isKeyword, toUpper_of_mem_questionWords h]

/-- The words of a question are told apart. -/
theorem Lexeme.isKeyword_of_ne {s word : String} (h : s ∈ questionWords) (hne : s ≠ word) :
    (Lexeme.word s).isKeyword word = false := by
  simp [isKeyword, toUpper_of_mem_questionWords h, hne]

/-- A word of a question is among words if it stands there: its case is theirs. -/
theorem isAmong_of_mem_questionWords {s : String} (h : s ∈ questionWords) (words : List String) :
    isAmong words s = words.contains s := by
  rw [isAmong, toUpper_of_mem_questionWords h]

section Keywords

variable {ls : List Lexeme} {k : Nat}

/-- The keyword that is asked for is found. -/
theorem reads_word?_true {s word : String} (h : (Lexeme.word s).isKeyword word = true) :
    Reads (Reader.word? word) (.word s :: ls) k (· = true) ls k :=
  reads_accept_true fun t ht => by rw [t.isWord_eq, ht, h]

/-- A keyword that is not next is not taken. -/
theorem reads_word?_false {word : String} (h : ∀ l, ls.head? = some l → l.isKeyword word = false) :
    Reads (Reader.word? word) ls k (· = false) ls k :=
  reads_accept_false fun t ht => by rw [t.isWord_eq, h t.lexeme ht]

/-- A word of a question is not taken for another. -/
theorem reads_word?_other {s word : String} (h : s ∈ questionWords) (hne : s ≠ word) :
    Reads (Reader.word? word) (.word s :: ls) k (· = false) (.word s :: ls) k := by
  refine reads_word?_false ?_
  rintro l ⟨⟩
  exact Lexeme.isKeyword_of_ne h hne

theorem reads_word {s word : String} (h : (Lexeme.word s).isKeyword word = true) :
    Reads (Reader.word word) (.word s :: ls) k (fun _ => True) ls k :=
  (reads_word?_true h).then (reads_pure trivial)

/-- The sign that is asked for is found. -/
theorem reads_sign?_true {s : String} :
    Reads (Reader.sign? s) (.sign s :: ls) k (· = true) ls k :=
  reads_accept_true fun t ht => by simp [Token.isSign, ht]

theorem reads_sign?_false {s : String} (h : ls.head? ≠ some (.sign s)) :
    Reads (Reader.sign? s) ls k (· = false) ls k :=
  reads_accept_false fun t ht => by
    have hne : t.lexeme ≠ .sign s := fun e => h (ht.trans (congrArg some e))
    simpa [Token.isSign] using hne

theorem isSign_false {s : String} (h : ls.head? ≠ some (.sign s)) (t : Token)
    (ht : ls.head? = some t.lexeme) : t.isSign s = false := by
  have hne : t.lexeme ≠ .sign s := fun e => h (ht.trans (congrArg some e))
  simpa [Token.isSign] using hne

/-- A sign that does not stand behind the next token is not seen there. -/
theorem reads_seesSecond_false {l : Lexeme} {s : String} (h : ls.head? ≠ some (.sign s)) :
    Reads (Reader.seesSecond (Token.isSign s)) (l :: ls) k (· = false) (l :: ls) k := by
  intro c b after hc hb
  obtain ⟨t, rest, hrest, -, hls⟩ := hc.exists_cons
  cases hb
  refine ⟨?_, hc⟩
  rw [hrest, List.drop_one, List.tail_cons]
  cases rest with
  | nil => rfl
  | cons u rest => exact isSign_false h u (by rw [← hls]; rfl)

end Keywords

end QueryPipe.Sql
