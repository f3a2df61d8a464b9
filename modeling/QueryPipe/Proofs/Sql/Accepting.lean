import QueryPipe.Proofs.Sql.Answering

/-!
# Questions that are accepted

What readers make of lexemes is known of those that succeed. Here a question for all of a table is
shown to be accepted, so that it is described and answered, whatever the name of the table.

* `Accepts`: a reader succeeds in front of lexemes.
* `Accepts.bind`: one reader after the other.
* `Inquiry.ofAll`: the question for all of a table.
* `describeScript_ofAll`, `runScript_ofAll`: a script that is this question.
-/

namespace QueryPipe.Sql

/-- In front of some lexemes and after so many parameters, a reader succeeds. -/
def Accepts {α : Type} (r : Reader α) (ls : List Lexeme) (k : Nat) : Prop :=
  ∀ c : Cursor, c.IsAt ls k → ∃ result, r c = .ok result

/-- Whether a reader succeeds wherever it is. -/
def Reader.Answers {α : Type} (r : Reader α) : Prop := ∀ c : Cursor, ∃ result, r c = .ok result

section Rules

variable {α β : Type} {ls rest : List Lexeme} {k m : Nat} {P : α → Prop} {r : Reader α}
  {f : α → Reader β}

/-- A reader that always answers accepts whatever stands before it. -/
theorem Reader.Answers.accepts (h : r.Answers) : Accepts r ls k := fun c _ => h c

/-- A reader after one whose results are known. -/
theorem Accepts.bind (h : Accepts r ls k) (hr : Reads r ls k P rest m)
    (hf : ∀ a, P a → Accepts (f a) rest m) : Accepts (r >>= f) ls k := by
  intro c hc
  obtain ⟨⟨a, next⟩, hfirst⟩ := h c hc
  obtain ⟨ha, hnext⟩ := hr c a next hc hfirst
  obtain ⟨result, hsecond⟩ := hf a ha next hnext
  exact ⟨result, by simpa [Bind.bind, StateT.bind, Except.bind, hfirst] using hsecond⟩

/-- Where a reader is known to accept and what it reads is known, what follows may be looked at with
that value in hand. -/
theorem Accepts.then {a : α} (h : Accepts r ls k) (hr : Reads r ls k (· = a) rest m)
    (hf : Accepts (f a) rest m) : Accepts (r >>= f) ls k :=
  h.bind hr fun _ ha => ha ▸ hf

theorem accepts_pure (a : α) : Accepts (pure a : Reader α) ls k := fun c _ => ⟨(a, c), rfl⟩

theorem answers_accept (p : Token → Bool) : (Reader.accept p).Answers := by
  intro c
  rw [Reader.accept]
  split
  · split <;> exact ⟨_, rfl⟩
  · exact ⟨_, rfl⟩

theorem answers_word? (word : String) : (Reader.word? word).Answers := answers_accept _

theorem answers_sign? (s : String) : (Reader.sign? s).Answers := answers_accept _

theorem answers_sees (p : Token → Bool) : (Reader.sees p).Answers := fun _ => ⟨_, rfl⟩

theorem answers_taken? (f : Token → Option α) : (Reader.taken? f).Answers := by
  intro c
  rw [Reader.taken?]
  split
  · split <;> exact ⟨_, rfl⟩
  · exact ⟨_, rfl⟩

/-- The keyword that is asked for is accepted where it stands. -/
theorem accepts_word {s word : String} (h : (Lexeme.word s).isKeyword word = true) :
    Accepts (Reader.word word) (.word s :: ls) k :=
  (answers_word? word).accepts.then (reads_word?_true h) (accepts_pure ())

end Rules

/-! ## The question for all of a table -/

/-- The question for all of a table under a name. -/
def Inquiry.ofAll (table name : String) : Inquiry := { table, name, columns := [none] }

section Question

variable {table name : String} {k : Nat}

/-- A question for all columns of a table spells no name but the one that the table is called by. -/
theorem Inquiry.isPlain_ofAll (table : String) (hname : IsPlainName name) :
    (Inquiry.ofAll table name).IsPlain where
  name := hname
  columns column h := by cases List.mem_singleton.1 h
  shown := by simp [ofAll]
  tests t h := by cases h
  keys key h := by cases h

theorem Inquiry.lexemes_ofAll (table name : String) :
    (Inquiry.ofAll table name).lexemes =
      [.word "SELECT", .sign "*", .word "FROM", .name table true, .word "AS", .word name] := rfl

theorem atClause_nil : AtClause [] := by
  rintro l ⟨⟩

theorem accepts_anyName_quoted {s : String} {double : Bool} {ls : List Lexeme} :
    Accepts Reader.anyName (.name s double :: ls) k := by
  rw [Reader.anyName]
  have hname : ∀ t : Token, t.lexeme = .name s double → t.anyName? = some s := by
    intro t ht
    simp [Token.anyName?, ht]
  exact (answers_taken? _).accepts.then (reads_taken? hname) (accepts_pure s)

theorem accepts_anyName_word {s : String} (hs : IsPlainName s) {ls : List Lexeme} :
    Accepts Reader.anyName (.word s :: ls) k := by
  rw [Reader.anyName]
  have hname : ∀ t : Token, t.lexeme = .word s → t.anyName? = some s := by
    intro t ht
    simp [Token.anyName?, ht, hs.free]
  exact (answers_taken? _).accepts.then (reads_taken? hname) (accepts_pure s)

/-- A table under a name is accepted as what is selected from. -/
theorem accepts_source (hname : IsPlainName name) (fuel : Nat) :
    Accepts (Reader.source (fuel + 1)) [.name table true, .word "AS", .word name] k := by
  rw [Reader.source]
  refine (answers_sign? "(").accepts.then (reads_sign?_false (by simp)) ?_
  refine accepts_anyName_quoted.then reads_anyName_quoted ?_
  refine (answers_sign? ".").accepts.then (reads_sign?_false (by simp)) ?_
  have halias : Accepts Reader.alias? [.word "AS", .word name] k := by
    rw [Reader.alias?]
    refine (answers_word? "AS").accepts.then (reads_word?_true (Lexeme.isKeyword_self (by decide))) ?_
    exact (accepts_anyName_word hname).then (reads_anyName_word hname) (accepts_pure _)
  have hread : Reads Reader.alias? [.word "AS", .word name] k (· = some name) [] k := by
    rw [Reader.alias?]
    refine (reads_word?_true (Lexeme.isKeyword_self (by decide))).then ?_
    exact (reads_anyName_word hname).then (reads_pure rfl)
  exact (accepts_pure _).then (reads_pure_self _) (halias.then hread (accepts_pure _))

theorem accepts_joining?_nil : Accepts Reader.joining? [] k := by
  rw [Reader.joining?]
  refine (answers_sign? ",").accepts.then (reads_sign?_false (by simp)) ?_
  refine (answers_word? "JOIN").accepts.then (reads_word?_false (by simp)) ?_
  exact (answers_sees _).accepts.then (reads_sees_false (by simp)) (accepts_pure none)

theorem accepts_sources (hname : IsPlainName name) (fuel : Nat) :
    Accepts (Reader.sources (fuel + 2)) [.name table true, .word "AS", .word name] k := by
  rw [Reader.sources]
  refine (accepts_source hname fuel).then (reads_source hname _) ?_
  have htie : Accepts (Reader.tie (fuel + 1)) [] k := by
    rw [Reader.tie]
    refine (answers_word? "ON").accepts.then (reads_word?_false (by simp)) ?_
    exact (answers_word? "USING").accepts.then (reads_word?_false (by simp)) (accepts_pure _)
  refine htie.then (reads_tie_none atClause_nil _) ?_
  simp only [Reader.furtherSources]
  exact accepts_joining?_nil.then (reads_joining?_none atClause_nil) (accepts_pure _)

theorem accepts_resultColumns (size fuel : Nat) :
    Accepts (Reader.resultColumns size (fuel + 1))
      (.sign "*" :: .word "FROM" :: .name table true :: .word "AS" :: [.word name]) k := by
  have hafter : AfterColumn (.word "FROM" :: .name table true :: .word "AS" :: [.word name]) :=
    ⟨_, _, rfl, .inr rfl⟩
  have hcolumn : Accepts (Reader.resultColumn size)
      (.sign "*" :: .word "FROM" :: .name table true :: .word "AS" :: [.word name]) k := by
    rw [Reader.resultColumn]
    exact (answers_sign? "*").accepts.then reads_sign?_true (accepts_pure _)
  have hnone : ∀ s, (none : Option String) = some s → IsPlainName s := by simp
  have hread : Reads (Reader.resultColumn size)
      (.sign "*" :: .word "FROM" :: .name table true :: .word "AS" :: [.word name]) k
      (ResultColumn.IsFor none)
      (.word "FROM" :: .name table true :: .word "AS" :: [.word name]) k :=
    reads_resultColumn hnone hafter size
  rw [Reader.resultColumns]
  refine hcolumn.bind hread fun c _ => ?_
  exact (answers_sign? ",").accepts.then (reads_sign?_false (by simp)) (accepts_pure _)

/-- A word that is not next at the end of lexemes is passed over. -/
theorem accepts_bind_word?_nil {β : Type} (word : String) {f : Bool → Reader β}
    (hf : Accepts (f false) [] k) : Accepts (Reader.word? word >>= f) [] k :=
  (answers_word? word).accepts.then (reads_word?_false (by simp)) hf

/-- Nor does any clause follow at the end of lexemes. -/
theorem accepts_clause?_nil (fuel : Nat) (word : String) :
    Accepts (Reader.clause? fuel word) [] k :=
  accepts_bind_word?_nil word (accepts_pure none)

/-- The question for all columns of a table is accepted as a member of a relation. -/
theorem accepts_member (hname : IsPlainName name) (fuel : Nat) :
    Accepts (Reader.member (fuel + 3)) (Inquiry.ofAll table name).lexemes 0 := by
  have hselect := Lexeme.isKeyword_self (by decide : "SELECT" ∈ questionWords)
  have hclause : ∀ fuel word, Reads (Reader.clause? fuel word) [] 0 (· = none) [] 0 :=
    fun fuel word => reads_clause?_none (by simp) fuel
  have hend : ∀ word, Reads (Reader.word? word) [] 0 (· = false) [] 0 :=
    fun word => reads_word?_false (by simp)
  have hgroups : Reads (Reader.groups (fuel + 2)) [] 0 (· = []) [] 0 :=
    (hend "GROUP").then (reads_pure rfl)
  have horder : Reads (Reader.order (fuel + 2)) [] 0 (· = []) [] 0 :=
    (hend "ORDER").then (reads_pure rfl)
  have hlimit : Reads (Reader.limit? (fuel + 2)) [] 0 (· = none) [] 0 :=
    (hend "LIMIT").then (reads_pure rfl)
  have hcolumns : Reads (Reader.resultColumns (fuel + 2) (fuel + 2))
      (.sign "*" :: .word "FROM" :: .name table true :: .word "AS" :: [.word name]) 0
      (List.Forall₂ ResultColumn.IsFor [none])
      (.word "FROM" :: .name table true :: .word "AS" :: [.word name]) 0 :=
    reads_resultColumns _ none [] (by simp) ⟨_, _, rfl, .inr rfl⟩ (by simp) _
  rw [Inquiry.lexemes_ofAll, Reader.member]
  refine (answers_word? "VALUES").accepts.then (reads_word?_other (by decide) (by decide)) ?_
  refine (accepts_word hselect).bind (reads_word hselect) fun _ _ => ?_
  refine (answers_word? "ALL").accepts.then (reads_word?_false (by rintro l ⟨⟩; rfl)) ?_
  refine (answers_word? "DISTINCT").accepts.then (reads_word?_false (by rintro l ⟨⟩; rfl)) ?_
  refine (accepts_resultColumns _ _).bind hcolumns fun columns _ => ?_
  refine (answers_word? "FROM").accepts.then (reads_word?_true (Lexeme.isKeyword_self (by decide))) ?_
  refine (accepts_sources hname fuel).then (reads_sources hname atClause_nil _) ?_
  -- no clause follows
  refine (accepts_clause?_nil _ "WHERE").then (hclause _ _) ?_
  refine Accepts.then (accepts_bind_word?_nil "GROUP" (accepts_pure _)) hgroups ?_
  refine (accepts_clause?_nil _ "HAVING").then (hclause _ _) ?_
  refine Accepts.then (accepts_bind_word?_nil "ORDER" (accepts_pure _)) horder ?_
  exact Accepts.then (accepts_bind_word?_nil "LIMIT" (accepts_pure _)) hlimit (accepts_pure _)

theorem accepts_relation (hname : IsPlainName name) (fuel : Nat) :
    Accepts (Reader.relation (fuel + 5)) (Inquiry.ofAll table name).lexemes 0 := by
  have hcombination : Accepts Reader.combination? [] 0 :=
    accepts_bind_word?_nil "UNION" (accepts_bind_word?_nil "INTERSECT"
      (accepts_bind_word?_nil "EXCEPT" (accepts_pure none)))
  have hnone : Reads Reader.combination? [] 0 (· = none) [] 0 := by
    have hend : ∀ word : String, Reads (Reader.word? word) [] 0 (· = false) [] 0 :=
      fun word => reads_word?_false (by simp)
    rw [Reader.combination?]
    exact (hend _).then ((hend _).then ((hend _).then (reads_pure rfl)))
  have hfurther : Accepts (Reader.furtherMembers (fuel + 3)) [] 0 := by
    rw [Reader.furtherMembers]
    exact hcombination.then hnone (accepts_pure [])
  have hread : Reads (Reader.furtherMembers (fuel + 3)) [] 0 (· = []) [] 0 := by
    rw [Reader.furtherMembers]
    exact hnone.then (reads_pure rfl)
  rw [Reader.relation]
  refine (answers_word? "WITH").accepts.then (reads_word?_other (by decide) (by decide)) ?_
  simp only [Bool.false_eq_true, if_false, Reader.combined]
  refine (accepts_member hname fuel).bind
    (reads_member (Inquiry.isPlain_ofAll table hname) _) ?_
  rintro _ ⟨columns, -, rfl⟩
  exact hfurther.then hread (accepts_pure _)

/-- The question for all columns of a table is accepted as a statement. -/
theorem accepts_statement (hname : IsPlainName name) (fuel : Nat) :
    Accepts (Reader.statement (fuel + 5)) (Inquiry.ofAll table name).lexemes 0 := by
  have hselect := Lexeme.isKeyword_self (by decide : "SELECT" ∈ questionWords)
  have hsees : Reads (Reader.sees fun t => t.isWord "SELECT" || t.isWord "WITH" ||
      t.isWord "VALUES") (Inquiry.ofAll table name).lexemes 0 (· = true)
      (Inquiry.ofAll table name).lexemes 0 :=
    reads_sees_true fun t ht => by simp [t.isWord_eq, ht, hselect]
  rw [Reader.statement]
  refine (answers_sees _).accepts.then hsees ?_
  exact (accepts_relation hname fuel).bind
    (reads_relation (Inquiry.isPlain_ofAll table hname) _) fun _ _ => accepts_pure _

/-- The question for all of a table is the only statement of a script. -/
theorem accepts_next? (hname : IsPlainName name) :
    Accepts Reader.next? (Inquiry.ofAll table name).lexemes k := by
  have hpass : Accepts Reader.passEnds (Inquiry.ofAll table name).lexemes k := fun _ _ => ⟨_, rfl⟩
  have hget : Accepts (get : Reader Cursor) (Inquiry.ofAll table name).lexemes k :=
    fun _ _ => ⟨_, rfl⟩
  rw [Reader.next?]
  refine hpass.bind (reads_passEnds _ k) fun _ _ => ?_
  refine hget.bind reads_get fun c hc => ?_
  obtain ⟨t, rest, hrest, -, -⟩ := hc.exists_cons
  simp only [hrest, List.isEmpty_cons, Bool.false_eq_true, if_false]
  have hset : Cursor.IsAt { c with rest := t :: rest, parameters := 0, named := [] }
      (Inquiry.ofAll table name).lexemes 0 :=
    ⟨by rw [← hrest]; exact hc.lexemes, rfl, rfl⟩
  refine Accepts.bind (fun _ _ => ⟨_, rfl⟩) (reads_set hset) fun _ _ => ?_
  have hplain := Inquiry.isPlain_ofAll table hname
  refine (accepts_statement hname _).bind (reads_statement hplain _) ?_
  rintro _ ⟨r, hr, rfl⟩
  refine (answers_accept _).accepts.then (reads_accept_false (by simp)) ?_
  have hpeek : Accepts Reader.peek? [] 0 := fun _ _ => ⟨_, rfl⟩
  exact hpeek.then reads_peek?_nil (accepts_pure _)

end Question

/-! ## Scripts -/

section Scripts

variable {table name script : String} {db : Database} {t : Table}

/-- A question for all columns asks for no column that the table has not. -/
theorem Inquiry.isAbout_ofAll (table name : String) (t : Table) :
    (Inquiry.ofAll table name).IsAbout t where
  columns column h := by cases List.mem_singleton.1 h
  tests test h := by cases h
  keys key h := by cases h

/-- A script that is the question for all of a table is read to its end. -/
theorem exists_next?_ofAll (hscript : Fronts script.toList (Inquiry.ofAll table name).lexemes)
    (hname : IsPlainName name) :
    ∃ columns after, Reader.next? (Cursor.ofScript script) =
        .ok (some (.query ((Inquiry.ofAll table name).question columns)), after) ∧
      List.Forall₂ ResultColumn.IsFor (Inquiry.ofAll table name).columns columns ∧
      after.rest = [] := by
  have hplain := Inquiry.isPlain_ofAll table hname
  obtain ⟨⟨s?, after⟩, hnext⟩ := accepts_next? hname _ (isAt_ofScript hscript)
  obtain ⟨⟨_, ⟨columns, hcolumns, rfl⟩, rfl⟩, hafter⟩ :=
    reads_next? hplain 0 _ _ _ (isAt_ofScript hscript) hnext
  exact ⟨columns, after, hnext, hcolumns, List.map_eq_nil_iff.1 hafter.lexemes⟩

variable (hscript : Fronts script.toList (Inquiry.ofAll table name).lexemes)
  (hname : IsPlainName name) (haccessible : db.foreign = false)
  (htable : db.table? ⟨none, table⟩ = some t) (hdistinct : t.HasDistinctNames)
  (hnames : t.names ≠ [])

include hscript hname haccessible htable hdistinct hnames

/-- The statement is run without a problem. -/
theorem exists_run_ofAll (params : List Value) :
    ∃ s after answer rows, Reader.next? (Cursor.ofScript script) = .ok (some s, after) ∧
      after.rest = [] ∧ db.run params s = .ok (answer, db) ∧ answer.rows = .ok rows := by
  obtain ⟨columns, after, hnext, hcolumns, hrest⟩ := exists_next?_ofAll hscript hname
  obtain ⟨e, he, hfields, hrows⟩ := extent_question haccessible htable hdistinct
    (Inquiry.isAbout_ofAll table name t) hcolumns params
  have hsome : e.fields.isEmpty = false := by
    rw [List.isEmpty_eq_false_iff]
    intro hnil
    have hshown : (t.names.map t.columnOf) = [] := by
      simpa [hnil, Inquiry.answerColumns, shownNames, Inquiry.ofAll] using hfields.symm
    exact hnames (List.map_eq_nil_iff.1 hshown)
  refine ⟨_, after, ⟨e.fields.map Field.column, e.rows⟩, _, hnext, hrest, ?_, hrows⟩
  simp [Database.run, he, hsome, bind, Except.bind, pure, Except.pure]

/-- The question for all of a table is answered. -/
theorem runScript_ofAll (params : List Value) :
    runScript script params db = ⟨(Inquiry.ofAll table name).answer t params, none, db⟩ := by
  refine runScript_question hscript (Inquiry.isPlain_ofAll table hname) haccessible htable
    hdistinct (Inquiry.isAbout_ofAll table name t) params ?_
  obtain ⟨s, after, answer, rows, hnext, hrest, hrun, hrows⟩ :=
    exists_run_ofAll hscript hname haccessible htable hdistinct hnames params
  simp [runScript, runAll, hnext, hrun, hrows, runAll_done hrest]

/-- And it is described. -/
theorem describeScript_ofAll : ∃ found, describeScript script db = .ok found := by
  obtain ⟨s, after, answer, rows, hnext, hrest, hrun, -⟩ :=
    exists_run_ofAll hscript hname haccessible htable hdistinct hnames []
  refine ⟨describeAnswer answer, ?_⟩
  simp [describeScript, describeAll, hnext, describeStatement, hrun, describeAll_done hrest, bind,
    Except.bind, pure, Except.pure]

end Scripts

end QueryPipe.Sql
