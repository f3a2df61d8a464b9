import Mathlib.Data.List.Forall2
import QueryPipe.Proofs.Sql.Comparing
import QueryPipe.Sql.StatementReader

/-!
# Questions about one table

A question asks for columns of one table under tests, in an order, and up to a limit. Its lexemes
are read as just that: no part of it runs into the next, as each starts with a word that ends the
one before.

* `Inquiry`: a question, with its lexemes.
* `reads_resultColumns`, `reads_sources`, `reads_limit?`: its parts.
* `reads_statement`, `reads_next?`: all of it.
-/

namespace QueryPipe.Sql

/-- What is asked of one table. -/
structure Inquiry where
  /-- The table. -/
  table : String
  /-- The name of the table in the question. -/
  name : String
  /-- The columns that are shown; one without a name stands for all. -/
  columns : List (Option String)
  /-- What rows are tested for. -/
  tests : List Test := []
  /-- The columns that rows are sorted by. -/
  keys : List String := []
  /-- Whether greater values come first. -/
  descending : Bool := false
  /-- How many rows there are at most. -/
  limit? : Option UInt32 := none

namespace Inquiry

/-- The lexemes of a column that is shown. -/
def columnLexeme : Option String → Lexeme
  | some name => .word name
  | none => .sign "*"

/-- The lexemes of several columns that are shown. -/
def columnLexemes : List (Option String) → List Lexeme
  | [] => []
  | c :: rest => columnLexeme c :: rest.flatMap fun c => [.sign ",", columnLexeme c]

/-- The lexemes of a column that rows are sorted by. -/
def keyLexemes (q : Inquiry) (key : String) : List Lexeme :=
  [.word key, .word (if q.descending then "DESC" else "ASC")]

/-- The lexemes of the condition on rows. -/
def testLexemes (q : Inquiry) : List Lexeme :=
  match q.tests with
  | [] => []
  | t :: rest => .word "WHERE" :: (t.lexemes ++ rest.flatMap fun t => .word "AND" :: t.lexemes)

/-- The lexemes of the order of rows. -/
def orderLexemes (q : Inquiry) : List Lexeme :=
  match q.keys with
  | [] => []
  | key :: rest =>
    [.word "ORDER", .word "BY"] ++
      (q.keyLexemes key ++ rest.flatMap fun key => .sign "," :: q.keyLexemes key)

/-- The lexemes of the limit. -/
def limitLexemes (q : Inquiry) : List Lexeme :=
  match q.limit? with
  | none => []
  | some n => [.word "LIMIT", .number (toString n.toNat)]

/-- The lexemes of a question. -/
def lexemes (q : Inquiry) : List Lexeme :=
  .word "SELECT" :: (columnLexemes q.columns ++
    (.word "FROM" :: .name q.table true :: .word "AS" :: .word q.name ::
      (q.testLexemes ++ (q.orderLexemes ++ q.limitLexemes))))

/-- Whether the names in a question are names without quotes, and a column is shown. -/
structure IsPlain (q : Inquiry) : Prop where
  /-- The name of the table. -/
  name : IsPlainName q.name
  /-- The columns shown. -/
  columns : ∀ column, some column ∈ q.columns → IsPlainName column
  /-- There is one. -/
  shown : q.columns ≠ []
  /-- The columns tested. -/
  tests : ∀ t ∈ q.tests, IsPlainName t.column
  /-- The columns that rows are sorted by. -/
  keys : ∀ key ∈ q.keys, IsPlainName key

end Inquiry

/-! ## Columns -/

/-- A result column as it is asked for. -/
def ResultColumn.IsFor : Option String → ResultColumn → Prop
  | none, c => c = .all
  | some name, c => ∃ span, c = .term (nameExpression name) none span

/-- Whether lexemes start with one that can stand after a result column. -/
def AfterColumn (ls : List Lexeme) : Prop :=
  ∃ l rest, ls = l :: rest ∧ (l = .sign "," ∨ l = .word "FROM")

section Columns

variable {ls : List Lexeme} {k : Nat}

theorem reads_position : Reads Reader.position ls k (fun _ => True) ls k := by
  intro c n after hc hn
  cases hn
  exact ⟨trivial, hc⟩

theorem reads_textFrom (start : Nat) :
    Reads (Reader.textFrom start) ls k (fun _ => True) ls k := by
  rw [Reader.textFrom]
  refine reads_position.bind fun _ _ => ?_
  exact reads_get.bind fun _ _ => reads_pure trivial

/-- No expression goes on behind a column that is asked for. -/
theorem AfterColumn.atEnd (h : AfterColumn ls) : AtEnd 0 ls := by
  obtain ⟨l, rest, rfl, rfl | rfl⟩ := h
  · exact atEnd_cons (by decide)
  · exact atEnd_cons (Lexeme.isEnd_word (by decide) (by decide))

theorem AfterColumn.ne_sign (h : AfterColumn ls) {s : String} (hs : s ≠ ",") :
    ls.head? ≠ some (.sign s) := by
  obtain ⟨l, rest, rfl, rfl | rfl⟩ := h
  · simpa using hs.symm
  · simp

/-- No name stands after a result column. -/
theorem reads_alias?_none (h : AfterColumn ls) : Reads Reader.alias? ls k (· = none) ls k := by
  have hfrom : isAmong reservedWords "FROM" = true := by
    rw [isAmong_of_mem_questionWords (by decide)]
    decide
  rw [Reader.alias?]
  obtain ⟨l, rest, rfl, hl⟩ := h
  refine (reads_word?_false fun m hm => ?_).then (reads_taken?_none fun t ht => ?_)
  · obtain rfl := Option.some.inj hm
    rcases hl with rfl | rfl
    · rfl
    · exact Lexeme.isKeyword_of_ne (by decide) (by decide)
  · have ht' : t.lexeme = l := (Option.some.inj ht).symm
    rcases hl with rfl | rfl <;> simp [Token.alias?, Token.identifier?, ht', hfrom]

/-- A column that is asked for is read as one, a star as all of them. -/
theorem reads_resultColumn {column? : Option String} (hname : ∀ s, column? = some s → IsPlainName s)
    (h : AfterColumn ls) (fuel : Nat) :
    Reads (Reader.resultColumn fuel) (Inquiry.columnLexeme column? :: ls) k
      (ResultColumn.IsFor column?) ls k := by
  rw [Reader.resultColumn]
  cases column? with
  | none => exact reads_sign?_true.then (reads_pure rfl)
  | some name =>
    refine (reads_sign?_false (by simp [Inquiry.columnLexeme])).then ?_
    -- no column of all of a table is ahead
    refine (?_ : Reads _ _ k (· = none) (.word name :: ls) k).then ?_
    · intro c a after hc ha
      cases ha
      refine ⟨?_, hc⟩
      obtain ⟨t, more, hmore, -, hls⟩ := hc.exists_cons
      rw [hmore]
      rcases more with _ | ⟨dot, _ | ⟨star, more⟩⟩
      · rfl
      · rfl
      · have hdot : dot.isSign "." = false :=
          isSign_false (h.ne_sign (by decide)) dot (by rw [← hls]; rfl)
        simp [hdot]
    · have hname := hname name rfl
      refine reads_position.bind fun start _ => ?_
      refine (reads_term_operand (reads_operand_name hname (h.ne_sign (by decide))
        (h.ne_sign (by decide))) h.atEnd fuel).then ?_
      refine (reads_textFrom start).bind fun span _ => ?_
      exact (reads_alias?_none h).then (reads_pure ⟨span, rfl⟩)

/-- The columns of a question are read one by one, up to `FROM`. -/
theorem reads_resultColumns (size : Nat) (column? : Option String) (rest : List (Option String))
    (hnames : ∀ s, some s ∈ column? :: rest → IsPlainName s) (h : AfterColumn ls)
    (hfrom : ls.head? ≠ some (.sign ",")) (fuel : Nat) :
    Reads (Reader.resultColumns size fuel) (Inquiry.columnLexemes (column? :: rest) ++ ls) k
      (List.Forall₂ ResultColumn.IsFor (column? :: rest)) ls k := by
  cases fuel with
  | zero => exact reads_fail
  | succ fuel =>
    rw [Reader.resultColumns]
    cases rest with
    | nil =>
      refine (reads_resultColumn (fun s hs => hnames s (by simp [hs])) h size).bind fun c hc => ?_
      exact (reads_sign?_false hfrom).then (reads_pure (.cons hc .nil))
    | cons next rest =>
      have hcomma : AfterColumn (.sign "," :: (Inquiry.columnLexemes (next :: rest) ++ ls)) :=
        ⟨_, _, rfl, .inl rfl⟩
      refine (reads_resultColumn (fun s hs => hnames s (by simp [hs])) hcomma size).bind
        fun c hc => ?_
      refine reads_sign?_true.then ?_
      refine (reads_resultColumns size next rest
        (fun s hs => hnames s (List.mem_cons_of_mem _ hs)) h hfrom fuel).bind fun cs hcs => ?_
      exact reads_pure (.cons hc hcs)

end Columns

/-! ## The table -/

section Clauses

variable {ls : List Lexeme} {k : Nat}

/-- The words that clauses after the table start with. -/
def clauseWords : List String := ["WHERE", "ORDER", "LIMIT"]

/-- Whether lexemes are at their end, or start with the word of a clause. -/
def AtClause (ls : List Lexeme) : Prop :=
  ∀ l, ls.head? = some l → ∃ word ∈ clauseWords, l = .word word

theorem clauseWords_subset : ∀ w ∈ clauseWords, w ∈ questionWords := by decide

/-- What opens a clause is no other keyword. -/
theorem AtClause.not_keyword (h : AtClause ls) {word : String} (hword : word ∉ clauseWords)
    (l : Lexeme) (hl : ls.head? = some l) : l.isKeyword word = false := by
  obtain ⟨w, hw, rfl⟩ := h l hl
  refine Lexeme.isKeyword_of_ne (clauseWords_subset w hw) ?_
  rintro rfl
  exact hword hw

theorem AtClause.ne_sign (h : AtClause ls) (s : String) : ls.head? ≠ some (.sign s) := by
  intro hl
  obtain ⟨w, -, hw⟩ := h _ hl
  cases hw

theorem reads_anyName_quoted {s : String} {double : Bool} :
    Reads Reader.anyName (.name s double :: ls) k (· = s) ls k := by
  rw [Reader.anyName]
  have hname : ∀ t : Token, t.lexeme = .name s double → t.anyName? = some s := by
    intro t ht
    simp [Token.anyName?, ht]
  exact (reads_taken? hname).then (reads_pure rfl)

/-- A plain name is read as it is written. -/
theorem reads_anyName_word {s : String} (hs : IsPlainName s) :
    Reads Reader.anyName (.word s :: ls) k (· = s) ls k := by
  rw [Reader.anyName]
  have hname : ∀ t : Token, t.lexeme = .word s → t.anyName? = some s := by
    intro t ht
    simp [Token.anyName?, ht, hs.free]
  exact (reads_taken? hname).then (reads_pure rfl)

/-- A table under a name. -/
theorem reads_source {table name : String} (hname : IsPlainName name) (fuel : Nat) :
    Reads (Reader.source fuel) (.name table true :: .word "AS" :: .word name :: ls) k
      (· = .named name (.table ⟨none, table⟩)) ls k := by
  cases fuel with
  | zero => exact reads_fail
  | succ fuel =>
    rw [Reader.source]
    refine (reads_sign?_false (by simp)).then ?_
    refine reads_anyName_quoted.then ?_
    refine (reads_sign?_false (by simp)).then ?_
    have halias : Reads Reader.alias? (.word "AS" :: .word name :: ls) k (· = some name) ls k := by
      rw [Reader.alias?]
      refine (reads_word?_true (Lexeme.isKeyword_self (by decide))).then ?_
      exact (reads_anyName_word hname).then (reads_pure rfl)
    exact (reads_pure_self _).then (halias.then (reads_pure rfl))

theorem reads_tie_none (h : AtClause ls) (fuel : Nat) :
    Reads (Reader.tie fuel) ls k (· = .none) ls k := by
  rw [Reader.tie]
  refine (reads_word?_false (h.not_keyword (by decide))).then ?_
  exact (reads_word?_false (h.not_keyword (by decide))).then (reads_pure rfl)

theorem reads_joining?_none (h : AtClause ls) :
    Reads Reader.joining? ls k (· = none) ls k := by
  rw [Reader.joining?]
  refine (reads_sign?_false (h.ne_sign ",")).then ?_
  refine (reads_word?_false (h.not_keyword (by decide))).then ?_
  refine Reads.then (reads_sees_false fun t ht => ?_) (reads_pure rfl)
  obtain ⟨w, hw, hl⟩ := h _ ht
  have hnone : ∀ w ∈ clauseWords, joinWords.contains w = false := by decide
  have hamong := isAmong_of_mem_questionWords (clauseWords_subset w hw) joinWords
  rw [hnone w hw] at hamong
  simp only [hl, hamong]

/-- The table alone is selected from. -/
theorem reads_sources {table name : String} (hname : IsPlainName name) (h : AtClause ls)
    (fuel : Nat) :
    Reads (Reader.sources fuel) (.name table true :: .word "AS" :: .word name :: ls) k
      (· = .named name (.table ⟨none, table⟩)) ls k := by
  have hfurther : ∀ (left : Question) fuel,
      Reads (Reader.furtherSources fuel left) ls k (· = left) ls k := by
    intro left fuel
    cases fuel with
    | zero => exact reads_fail
    | succ fuel =>
      rw [Reader.furtherSources]
      exact (reads_joining?_none h).then (reads_pure rfl)
  cases fuel with
  | zero => exact reads_fail
  | succ fuel =>
    rw [Reader.sources]
    refine (reads_source hname fuel).then ?_
    exact (reads_tie_none h fuel).then (hfurther _ fuel)

/-! ## The clauses after it -/

/-- The lexemes after the table start no term. -/
theorem AtClause.atEnd (h : AtClause ls) : AtEnd 0 ls := by
  intro l hl
  obtain ⟨w, hw, rfl⟩ := h l hl
  have hnone : ∀ w ∈ clauseWords, w ∉ goingOn := by decide
  exact Lexeme.isEnd_word (clauseWords_subset w hw) (hnone w hw)

/-- A clause whose word does not stand there is absent. -/
theorem reads_clause?_none {word : String} (h : ∀ l, ls.head? = some l → l.isKeyword word = false)
    (fuel : Nat) : Reads (Reader.clause? fuel word) ls k (· = none) ls k := by
  rw [Reader.clause?]
  exact (reads_word?_false h).then (reads_pure rfl)

/-- The condition on rows. -/
theorem reads_where (q : Inquiry) (hnames : ∀ t ∈ q.tests, IsPlainName t.column)
    (h : AtClause ls) (hwhere : ls.head? ≠ some (.word "WHERE")) (fuel : Nat) :
    Reads (Reader.clause? fuel "WHERE") (q.testLexemes ++ ls) 0 (· = Test.conjunction? q.tests) ls
      (Test.nextAll 0 q.tests) := by
  rw [Inquiry.testLexemes]
  cases htests : q.tests with
  | nil =>
    refine reads_clause?_none (fun l hl => ?_) fuel
    obtain ⟨w, hw, rfl⟩ := h l hl
    have hne : w ≠ "WHERE" := by
      rintro rfl
      exact hwhere hl
    exact Lexeme.isKeyword_of_ne (clauseWords_subset w hw) hne
  | cons t rest =>
    rw [htests] at hnames
    rw [Reader.clause?, List.cons_append, List.append_assoc]
    refine (reads_word?_true (Lexeme.isKeyword_self (by decide))).then ?_
    exact (reads_term_tests t rest hnames h.atEnd fuel).then (reads_pure rfl)

/-- Whether lexemes are at their end, or start with a comma or a limit. -/
def AfterKey (ls : List Lexeme) : Prop :=
  ∀ l, ls.head? = some l → l = .sign "," ∨ l = .word "LIMIT"

/-- A column that rows are sorted by. -/
def Inquiry.sortKey (q : Inquiry) (key : String) : SortKey :=
  { term := nameExpression key, descending := q.descending }

/-- A key is read with its direction. -/
theorem reads_sortKey (q : Inquiry) {key : String} (hkey : IsPlainName key) (h : AfterKey ls)
    (fuel : Nat) :
    Reads (Reader.sortKey fuel) (q.keyLexemes key ++ ls) k (· = q.sortKey key) ls k := by
  rw [Reader.sortKey, Inquiry.keyLexemes]
  have hend : AtEnd 0 (.word (if q.descending then "DESC" else "ASC") :: ls) := by
    cases q.descending <;> exact atEnd_cons (Lexeme.isEnd_word (by decide) (by decide))
  refine (reads_term_operand (reads_operand_name hkey (by simp) (by simp)) hend fuel).then ?_
  have hnulls : Reads (Reader.word? "NULLS") ls k (· = false) ls k :=
    reads_word?_false fun l hl => by
      rcases h l hl with rfl | rfl
      · rfl
      · exact Lexeme.isKeyword_of_ne (by decide) (by decide)
  rw [Inquiry.sortKey]
  cases q.descending with
  | true =>
    refine (reads_word?_other (by decide) (by decide)).then ?_
    refine (reads_word?_true (Lexeme.isKeyword_self (by decide))).then ?_
    exact hnulls.then (reads_pure rfl)
  | false =>
    refine (reads_word?_true (Lexeme.isKeyword_self (by decide))).then ?_
    exact (reads_pure_self false).then (hnulls.then (reads_pure rfl))

/-- The keys are read one by one, up to the limit. -/
theorem reads_sortKeys (q : Inquiry) (size : Nat) (key : String) (rest : List String)
    (hkeys : ∀ s ∈ key :: rest, IsPlainName s) (h : ∀ l, ls.head? = some l → l = .word "LIMIT")
    (fuel : Nat) :
    Reads (Reader.sortKeys size fuel)
      (q.keyLexemes key ++ ((rest.flatMap fun key => .sign "," :: q.keyLexemes key) ++ ls)) k
      (· = (key :: rest).map q.sortKey) ls k := by
  cases fuel with
  | zero => exact reads_fail
  | succ fuel =>
    rw [Reader.sortKeys]
    have hkey := hkeys key List.mem_cons_self
    cases rest with
    | nil =>
      refine (reads_sortKey q hkey (fun l hl => .inr (h l hl)) size).then ?_
      refine (reads_sign?_false fun hl => ?_).then (reads_pure rfl)
      cases h _ hl
    | cons next rest =>
      rw [List.flatMap_cons, List.cons_append, List.cons_append, List.append_assoc]
      have hcomma : AfterKey (.sign "," ::
          (q.keyLexemes next ++ ((rest.flatMap fun key => .sign "," :: q.keyLexemes key) ++ ls))) :=
        fun l hl => .inl (Option.some.inj hl).symm
      refine (reads_sortKey q hkey hcomma size).then ?_
      refine reads_sign?_true.then ?_
      exact (reads_sortKeys q size next rest (fun s hs => hkeys s (List.mem_cons_of_mem _ hs)) h
        fuel).then (reads_pure rfl)

/-- The order of rows. -/
theorem reads_order (q : Inquiry) (hkeys : ∀ key ∈ q.keys, IsPlainName key)
    (h : ∀ l, ls.head? = some l → l = .word "LIMIT") (fuel : Nat) :
    Reads (Reader.order fuel) (q.orderLexemes ++ ls) k (· = q.keys.map q.sortKey) ls k := by
  rw [Reader.order, Inquiry.orderLexemes]
  cases hq : q.keys with
  | nil =>
    refine (reads_word?_false fun l hl => ?_).then (reads_pure rfl)
    obtain rfl := h l hl
    exact Lexeme.isKeyword_of_ne (by decide) (by decide)
  | cons key rest =>
    rw [hq] at hkeys
    simp only [List.cons_append, List.nil_append, List.append_assoc]
    refine (reads_word?_true (Lexeme.isKeyword_self (by decide))).then ?_
    refine (reads_word (Lexeme.isKeyword_self (by decide))).bind fun _ _ => ?_
    exact reads_sortKeys q fuel key rest hkeys h fuel

/-- The limit of a question. -/
def Inquiry.limitExpression? (q : Inquiry) : Option (Expression × Option Expression) :=
  q.limit?.map fun n => (.literal (.whole (Int64.ofInt n.toNat)), none)

/-- The limit, which nothing follows. -/
theorem reads_limit? (q : Inquiry) (fuel : Nat) :
    Reads (Reader.limit? fuel) q.limitLexemes k (· = q.limitExpression?) [] k := by
  have hnone : ∀ word, Reads (Reader.word? word) [] k (· = false) [] k :=
    fun word => reads_word?_false fun l hl => by cases hl
  rw [Reader.limit?, Inquiry.limitLexemes, Inquiry.limitExpression?]
  cases q.limit? with
  | none => exact (hnone "LIMIT").then (reads_pure rfl)
  | some n =>
    refine (reads_word?_true (Lexeme.isKeyword_self (by decide))).then ?_
    refine (reads_term_operand (reads_operand_number (numberValue_toString n)) atEnd_nil
      fuel).then ?_
    refine (hnone "OFFSET").then ?_
    exact (reads_sign?_false (by simp)).then (reads_pure rfl)

/-! ## The whole question -/

theorem Inquiry.atClause_limit (q : Inquiry) : ∀ l, q.limitLexemes.head? = some l →
    l = .word "LIMIT" := by
  intro l hl
  rw [limitLexemes] at hl
  cases hlimit : q.limit? with
  | none => rw [hlimit] at hl; cases hl
  | some n => rw [hlimit] at hl; exact (Option.some.inj hl).symm

/-- Behind the conditions stands an order or a limit. -/
theorem Inquiry.head_order (q : Inquiry) (l : Lexeme)
    (hl : (q.orderLexemes ++ q.limitLexemes).head? = some l) :
    l = .word "ORDER" ∨ l = .word "LIMIT" := by
  rw [orderLexemes] at hl
  cases hkeys : q.keys with
  | nil => rw [hkeys] at hl; exact .inr (q.atClause_limit l hl)
  | cons key rest => rw [hkeys] at hl; exact .inl (Option.some.inj hl).symm

theorem Inquiry.atClause_order (q : Inquiry) : AtClause (q.orderLexemes ++ q.limitLexemes) := by
  intro l hl
  rcases q.head_order l hl with rfl | rfl
  · exact ⟨"ORDER", by decide, rfl⟩
  · exact ⟨"LIMIT", by decide, rfl⟩

theorem Inquiry.atClause_tests (q : Inquiry) :
    AtClause (q.testLexemes ++ (q.orderLexemes ++ q.limitLexemes)) := by
  intro l hl
  rw [testLexemes] at hl
  cases htests : q.tests with
  | nil => rw [htests] at hl; exact q.atClause_order l hl
  | cons t rest =>
    rw [htests] at hl
    exact ⟨"WHERE", by decide, (Option.some.inj hl).symm⟩

/-- A question about one table, with its result columns as they were read. -/
def Inquiry.question (q : Inquiry) (columns : List ResultColumn) : Question :=
  limitedBy q.limitExpression? (.select false columns (.named q.name (.table ⟨none, q.table⟩))
    (Test.conjunction? q.tests) [] none (q.keys.map q.sortKey))

/-- What a question is read as. -/
def Inquiry.IsRead (q : Inquiry) (r : Question) : Prop :=
  ∃ columns, List.Forall₂ ResultColumn.IsFor q.columns columns ∧ r = q.question columns

end Clauses

section Whole

variable {q : Inquiry}

/-- A question as a member of combined relations. -/
def Inquiry.member (q : Inquiry) (columns : List ResultColumn) : Member where
  body := .inl ⟨false, columns, .named q.name (.table ⟨none, q.table⟩), Test.conjunction? q.tests,
    [], none⟩
  order := q.keys.map q.sortKey
  limit? := q.limitExpression?

/-- A question is read as one member of a relation, with all its parameters counted. -/
theorem reads_member (hq : q.IsPlain) (fuel : Nat) :
    Reads (Reader.member fuel) q.lexemes 0
      (fun m => ∃ columns, List.Forall₂ ResultColumn.IsFor q.columns columns ∧
        m = q.member columns) [] (Test.nextAll 0 q.tests) := by
  cases fuel with
  | zero => exact reads_fail
  | succ fuel =>
    rw [Reader.member, Inquiry.lexemes]
    refine (reads_word?_other (by decide) (by decide)).then ?_
    refine (reads_word (Lexeme.isKeyword_self (by decide))).bind fun _ _ => ?_
    obtain ⟨first, others, hcolumns⟩ := List.exists_cons_of_ne_nil hq.shown
    have hplain := hq.columns
    have hclause := q.atClause_tests
    have horder := q.atClause_order
    rw [hcolumns] at hplain ⊢
    -- the first column is neither of the words that can stand before it
    have hfirst : ∀ word, reservedWords.contains word = true → ∀ l,
        (Inquiry.columnLexemes (first :: others) ++ .word "FROM" :: .name q.table true ::
          .word "AS" :: .word q.name :: (q.testLexemes ++ (q.orderLexemes ++ q.limitLexemes))).head?
          = some l → l.isKeyword word = false := by
      intro word hword l hl
      obtain rfl : Inquiry.columnLexeme first = l := Option.some.inj hl
      cases first with
      | none => rfl
      | some s =>
        have hne := (hplain s List.mem_cons_self).toUpper_ne hword
        simpa [Inquiry.columnLexeme, Lexeme.isKeyword] using hne
    refine (reads_word?_false (hfirst "ALL" (by decide))).then ?_
    refine (reads_word?_false (hfirst "DISTINCT" (by decide))).then ?_
    refine (reads_resultColumns fuel first others hplain ⟨_, _, rfl, .inr rfl⟩ (by simp)
      fuel).bind fun columns hshown => ?_
    refine (reads_word?_true (Lexeme.isKeyword_self (by decide))).then ?_
    refine (reads_sources hq.name hclause fuel).then ?_
    refine (reads_where q hq.tests horder ?_ fuel).then ?_
    · intro hl
      rcases q.head_order _ hl with h | h <;> simp at h
    -- neither groups nor a condition on them
    have hnone : ∀ word ∈ ["GROUP", "HAVING"], ∀ l,
        (q.orderLexemes ++ q.limitLexemes).head? = some l → l.isKeyword word = false := by
      intro word hword l hl
      rcases q.head_order l hl with rfl | rfl
      all_goals
        exact Lexeme.isKeyword_of_ne (by decide) (by rintro rfl; exact absurd hword (by decide))
    have hgroups : Reads (Reader.groups fuel) (q.orderLexemes ++ q.limitLexemes)
        (Test.nextAll 0 q.tests) (· = []) (q.orderLexemes ++ q.limitLexemes)
        (Test.nextAll 0 q.tests) := by
      rw [Reader.groups]
      exact (reads_word?_false (hnone "GROUP" (by decide))).then (reads_pure rfl)
    refine hgroups.then ?_
    refine (reads_clause?_none (hnone "HAVING" (by decide)) fuel).then ?_
    refine (reads_order q hq.keys q.atClause_limit fuel).then ?_
    refine (reads_limit? q fuel).then ?_
    exact reads_pure ⟨columns, hshown, rfl⟩

/-- The question alone, with nothing combined. -/
theorem reads_relation (hq : q.IsPlain) (fuel : Nat) :
    Reads (Reader.relation fuel) q.lexemes 0 q.IsRead [] (Test.nextAll 0 q.tests) := by
  have hend : ∀ word k, Reads (Reader.word? word) [] k (· = false) [] k :=
    fun word k => reads_word?_false fun l hl => by cases hl
  have hfurther : ∀ fuel k, Reads (Reader.furtherMembers fuel) [] k (· = []) [] k := by
    intro fuel k
    cases fuel with
    | zero => exact reads_fail
    | succ fuel =>
      rw [Reader.furtherMembers]
      have hnone : Reads Reader.combination? [] k (· = none) [] k := by
        rw [Reader.combination?]
        exact (hend _ k).then ((hend _ k).then ((hend _ k).then (reads_pure rfl)))
      exact hnone.then (reads_pure rfl)
  have hcombined : ∀ fuel, Reads (Reader.combined fuel) q.lexemes 0 q.IsRead []
      (Test.nextAll 0 q.tests) := by
    intro fuel
    cases fuel with
    | zero => exact reads_fail
    | succ fuel =>
      rw [Reader.combined]
      refine (reads_member hq fuel).bind ?_
      rintro _ ⟨columns, hshown, rfl⟩
      exact (hfurther fuel _).then (reads_pure ⟨columns, hshown, rfl⟩)
  cases fuel with
  | zero => exact reads_fail
  | succ fuel =>
    rw [Reader.relation]
    refine (reads_word?_other (by decide) (by decide)).then ?_
    exact hcombined fuel

/-- A question is read as a statement that asks it. -/
theorem reads_statement (hq : q.IsPlain) (fuel : Nat) :
    Reads (Reader.statement fuel) q.lexemes 0 (fun s => ∃ r, q.IsRead r ∧ s = .query r) []
      (Test.nextAll 0 q.tests) := by
  rw [Reader.statement]
  refine Reads.then (reads_sees_true fun t ht => ?_) ?_
  · have hselect := Lexeme.isKeyword_self (by decide : "SELECT" ∈ questionWords)
    simp [t.isWord_eq, ht, hselect]
  · exact (reads_relation hq fuel).bind fun r hr => reads_pure ⟨r, hr, rfl⟩

/-- A question does not start with the end of a statement. -/
theorem reads_passEnds (q : Inquiry) (k : Nat) :
    Reads Reader.passEnds q.lexemes k (fun _ => True) q.lexemes k := by
  intro c a after hc ha
  obtain ⟨t, rest, hrest, ht, -⟩ := hc.exists_cons
  have hsign : t.isSign ";" = false := by simp [Token.isSign, ht]
  have hdrop : c.rest.dropWhile (fun t => t.isSign ";") = c.rest := by
    rw [hrest, List.dropWhile_cons_of_neg (by simp [hsign])]
  obtain ⟨-, rfl⟩ := Prod.mk.inj (Except.ok.inj ha)
  exact ⟨trivial, by rw [hdrop]; exact hc.lexemes, hc.parameters, hc.named⟩

/-- The only statement of a script that is a question. -/
theorem reads_next? (hq : q.IsPlain) (k : Nat) :
    Reads Reader.next? q.lexemes k (fun s? => ∃ r, q.IsRead r ∧ s? = some (.query r)) []
      (Test.nextAll 0 q.tests) := by
  rw [Reader.next?]
  refine (reads_passEnds q k).bind fun _ _ => ?_
  refine reads_get.bind fun c hc => ?_
  obtain ⟨t, rest, hrest, -, -⟩ := hc.exists_cons
  simp only [hrest, List.isEmpty_cons, Bool.false_eq_true, if_false]
  have hset : Cursor.IsAt { c with rest := t :: rest, parameters := 0, named := [] } q.lexemes 0 :=
    ⟨by rw [← hrest]; exact hc.lexemes, rfl, rfl⟩
  refine (reads_set hset).bind fun _ _ => ?_
  refine (reads_statement hq _).bind ?_
  rintro _ ⟨r, hr, rfl⟩
  refine (reads_accept_false (by simp)).then ?_
  exact reads_peek?_nil.then (reads_pure ⟨r, hr, rfl⟩)

end Whole

end QueryPipe.Sql
