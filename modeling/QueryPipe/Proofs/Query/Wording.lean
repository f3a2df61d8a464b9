import QueryPipe.Dataset.Reference
import QueryPipe.Proofs.Sql.Inquiry
import QueryPipe.Proofs.Text.Blank
import QueryPipe.Query.Plan

/-!
# The wording of a question

A question about one quoted table is put into words in one way: its clauses one after the other,
with a blank between them. The words are cut into the lexemes of the question.

* `Inquiry.text`: the words.
* `IsClause`, `isClause_joined`: clauses and what joins them.
* `Inquiry.isClause_text`: the words are cut into the lexemes of the question.
* `Inquiry.trim_text`: there are no blanks around them.
-/

namespace QueryPipe

open Sql

/-! ## Parts put together -/

/-- Two parts with a blank between them are the lexemes of both. -/
theorem fronts_spaced {a b : String} {ls ms : List Lexeme} (ha : Fronts a.toList ls)
    (hb : Fronts b.toList ms) : Fronts (a ++ " " ++ b).toList (ls ++ ms) := by
  have h := ha.spaced hb
  simpa using h

/-- Two parts of a list are the lexemes of both with a comma between. -/
theorem fronts_listed {a b : String} {ls ms : List Lexeme} (ha : Fronts a.toList ls)
    (hb : Fronts b.toList ms) : Fronts (a ++ ", " ++ b).toList (ls ++ ([.sign ","] ++ ms)) := by
  have h := ha.listed hb
  simpa using h

/-- A word between blanks and other parts. -/
theorem fronts_between {a b : String} {word : String} {ls ms : List Lexeme}
    (hword : IsWord word.toList) (ha : Fronts a.toList ls) (hb : Fronts b.toList ms) :
    Fronts (a ++ (" " ++ word ++ " ") ++ b).toList (ls ++ ([.word word] ++ ms)) := by
  have h := ha.spaced ((fronts_word hword).spaced hb)
  simpa using h

/-- Parts with a joint between neighbours, where it is known what the joint adds. -/
theorem fronts_joined {joint : String} {between : List Lexeme}
    (hjoint : ∀ a b : String, ∀ ls ms, Fronts a.toList ls → Fronts b.toList ms →
      Fronts (a ++ joint ++ b).toList (ls ++ (between ++ ms)))
    {first : String} {rest : List String} {ls : List Lexeme} {lss : List (List Lexeme)}
    (hfirst : Fronts first.toList ls)
    (hrest : List.Forall₂ (fun s ms => Fronts s.toList ms) rest lss) :
    Fronts (Text.joined joint (first :: rest)).toList (ls ++ lss.flatMap (between ++ ·)) := by
  induction hrest generalizing first ls with
  | nil => simpa using hfirst
  | cons hnext _ ih => simpa using hjoint _ _ _ _ hfirst (ih hnext)

theorem exists_joined_eq_append (joint part : String) (rest : List String) :
    ∃ more, Text.joined joint (part :: rest) = part ++ more := by
  cases rest with
  | nil => exact ⟨"", by simp⟩
  | cons next rest => exact ⟨_, by rw [Text.joined_cons_cons, String.append_assoc]⟩

/-! ## Texts without blanks at their ends -/

/-- Whether a text ends in something that is no blank. -/
def EndsSolid (s : String) : Prop := ∃ front c, s.toList = front ++ [c] ∧ Text.isBlank c = false

/-- A text ends as what stands behind it does. -/
theorem EndsSolid.append {b : String} (h : EndsSolid b) (a : String) : EndsSolid (a ++ b) := by
  obtain ⟨front, c, hb, hc⟩ := h
  exact ⟨a.toList ++ front, c, by simp [hb], hc⟩

/-- A text that starts and ends in characters that are no blanks has none at its ends. -/
theorem trim_eq_self {s : String} {c : Char} (hs : s.toList.head? = some c)
    (hc : Text.isBlank c = false) (hend : EndsSolid s) : Text.trim s = s := by
  obtain ⟨front, d, hlast, hd⟩ := hend
  have hstart : s.toList.dropWhile Text.isBlank = s.toList := by
    obtain ⟨rest, hrest⟩ := List.head?_eq_some_iff.1 hs
    rw [hrest, List.dropWhile_cons_of_neg (by simp [hc])]
  rw [Text.trim, Text.trimChars, hstart, hlast, List.reverse_append, List.reverse_singleton,
    List.singleton_append, List.dropWhile_cons_of_neg (by simp [hd]), List.reverse_cons,
    List.reverse_reverse, ← hlast, String.ofList_toList]

/-! ## Clauses -/

/-- A clause of a statement, with its lexemes. -/
structure IsClause (s : String) (ls : List Lexeme) : Prop where
  /-- It is cut into these lexemes. -/
  fronts : Fronts s.toList ls
  /-- It ends in no blank. -/
  solid : EndsSolid s

/-- Clauses that are joined are one clause. -/
theorem isClause_joined {joint : String} {between : List Lexeme}
    (hjoint : ∀ a b : String, ∀ ls ms, Fronts a.toList ls → Fronts b.toList ms →
      Fronts (a ++ joint ++ b).toList (ls ++ (between ++ ms)))
    {first : String} {rest : List String} {ls : List Lexeme} {lss : List (List Lexeme)}
    (hfirst : IsClause first ls) (hrest : List.Forall₂ IsClause rest lss) :
    IsClause (Text.joined joint (first :: rest)) (ls ++ lss.flatMap (between ++ ·)) where
  fronts := fronts_joined hjoint hfirst.fronts (hrest.imp fun _ _ h => h.fronts)
  solid := by
    induction hrest generalizing first ls with
    | nil => exact hfirst.solid
    | cons hnext _ ih => exact (ih hnext).append _

/-- Clauses with blanks between them. -/
theorem isClause_spaced {first : String} {rest : List String} {ls : List Lexeme}
    {lss : List (List Lexeme)} (hfirst : IsClause first ls)
    (hrest : List.Forall₂ IsClause rest lss) :
    IsClause (Text.joined " " (first :: rest)) (ls ++ lss.flatten) := by
  have hjoint : ∀ a b : String, ∀ ls ms, Fronts a.toList ls → Fronts b.toList ms →
      Fronts (a ++ " " ++ b).toList (ls ++ ([] ++ ms)) :=
    fun _ _ _ _ ha hb => fronts_spaced ha hb
  simpa using isClause_joined hjoint hfirst hrest

/-! ### The table -/

/-- A column as a plan has it. -/
def columnText (column? : Option String) : String := column?.getD "*"

/-- A plain name is one word. -/
theorem fronts_name {s : String} (hs : IsPlainName s) : Fronts s.toList [.word s] := by
  have h := fronts_word hs.word
  rwa [String.ofList_toList] at h

theorem fronts_columnText {column? : Option String}
    (h : ∀ s, column? = some s → IsPlainName s) :
    Fronts (columnText column?).toList [Inquiry.columnLexeme column?] := by
  cases column? with
  | none => exact fronts_sign (s := "*") (by decide)
  | some s => exact fronts_name (h s rfl)

/-- A list of columns is spelled by their names, with commas between. -/
theorem fronts_columns {columns : List (Option String)} (hne : columns ≠ [])
    (h : ∀ s, some s ∈ columns → IsPlainName s) :
    Fronts (Text.joined ", " (columns.map columnText)).toList (Inquiry.columnLexemes columns) := by
  have hcolumn : ∀ c ∈ columns, Fronts (columnText c).toList [Inquiry.columnLexeme c] :=
    fun c hc => fronts_columnText fun s hs => h s (hs ▸ hc)
  obtain ⟨first, rest, rfl⟩ := List.exists_cons_of_ne_nil hne
  rw [List.forall_mem_cons] at hcolumn
  have hrest : List.Forall₂ (fun s ms => Fronts s.toList ms) (rest.map columnText)
      (rest.map fun c => [Inquiry.columnLexeme c]) := by
    rw [List.forall₂_map_left_iff, List.forall₂_map_right_iff, List.forall₂_same]
    exact hcolumn.2
  have hall := fronts_joined (fun _ _ _ _ ha hb => fronts_listed ha hb) hcolumn.1 hrest
  rw [List.flatMap_map] at hall
  exact hall

theorem isWord_keyword {s : String} (h : s ∈ ["SELECT", "FROM", "AS", "WHERE", "AND", "ORDER", "BY",
    "LIMIT", "LIKE", "IS", "NULL", "ASC", "DESC", "t1"]) : IsWord s.toList := by
  simp only [List.mem_cons, List.not_mem_nil, or_false] at h
  rcases h with rfl | rfl | rfl | rfl | rfl | rfl | rfl | rfl | rfl | rfl | rfl | rfl | rfl | rfl
  all_goals exact .of_all (by decide) (by decide) (by decide)

theorem fronts_keyword {s : String} (h : IsWord s.toList) : Fronts s.toList [.word s] := by
  have hword := fronts_word h
  rwa [String.ofList_toList] at hword

namespace Sql.Inquiry

variable {q : Inquiry}

/-- The words for the columns and the table. -/
def headText (q : Inquiry) : String :=
  "SELECT " ++ Text.joined ", " (q.columns.map columnText) ++ " FROM " ++
    Dataset.quoteIdentifier q.table ++ " AS " ++ q.name

/-- What is asked for, and of which table, is the first clause. -/
theorem isClause_headText (hq : q.IsPlain) (hname : EndsSolid q.name)
    (hwhole : '\x00' ∉ q.table.toList) :
    IsClause q.headText (.word "SELECT" :: (columnLexemes q.columns ++
      [.word "FROM", .name q.table true, .word "AS", .word q.name])) where
  fronts := by
    have hkeyword : ∀ s ∈ ["SELECT", "FROM", "AS"], Fronts s.toList [.word s] := by
      intro s hs
      exact fronts_keyword (isWord_keyword (by revert hs; simp; tauto))
    have hsource := (fronts_quoted hwhole).spaced
      ((hkeyword "AS" (by simp)).spaced (fronts_name hq.name))
    have hall := (hkeyword "SELECT" (by simp)).spaced ((fronts_columns hq.shown hq.columns).spaced
      ((hkeyword "FROM" (by simp)).spaced hsource))
    simpa [headText] using hall
  solid := hname.append _

/-! ### Conditions -/

theorem fronts_comparator (k : Comparator) : Fronts k.spelling.toList [k.lexeme] := by
  have hword : ∀ s ∈ ["LIKE", "IS"], Fronts s.toList [.word s] := by
    intro s hs
    have h := fronts_word (isWord_keyword (s := s) (by revert hs; simp; tauto))
    rwa [String.ofList_toList] at h
  cases k with
  | like => exact hword "LIKE" (by simp)
  | same => exact hword "IS" (by simp)
  | _ => exact fronts_sign (by decide)

/-- The words for a test. -/
def testText (t : Test) : String :=
  t.column ++ " " ++ t.comparator.spelling ++ " " ++ if t.missing then "NULL" else "?"

/-- A condition is a clause that spells its lexemes. -/
theorem isClause_testText {t : Test} (ht : IsPlainName t.column) :
    IsClause (testText t) t.lexemes := by
  have hlead : Fronts (t.column ++ " " ++ t.comparator.spelling).toList
      ([.word t.column] ++ [t.comparator.lexeme]) :=
    fronts_spaced (fronts_name ht) (fronts_comparator _)
  have hvalue : IsClause (if t.missing then "NULL" else "?") [t.valueLexeme] := by
    rw [Test.valueLexeme]
    cases t.missing with
    | true =>
      have hnull := fronts_word (isWord_keyword (s := "NULL") (by simp))
      exact ⟨hnull, ['N', 'U', 'L'], 'L', by decide, by decide⟩
    | false => exact ⟨fronts_parameter, [], '?', by decide, by decide⟩
  exact ⟨fronts_spaced hlead hvalue.fronts, hvalue.solid.append _⟩

/-- The words for the condition on rows, if there is one. -/
def whereTexts (q : Inquiry) : List String :=
  match q.tests with
  | [] => []
  | tests => ["WHERE " ++ Text.joined " AND " (tests.map testText)]

/-- The conditions are clauses that spell the lexemes of the tests. -/
theorem exists_whereTexts (hq : q.IsPlain) :
    ∃ lss, List.Forall₂ IsClause q.whereTexts lss ∧ lss.flatten = q.testLexemes := by
  have hplain := hq.tests
  rw [whereTexts, testLexemes]
  cases htests : q.tests with
  | nil => exact ⟨[], .nil, rfl⟩
  | cons t rest =>
    rw [htests, List.forall_mem_cons] at hplain
    have hrest : List.Forall₂ IsClause (rest.map testText) (rest.map Test.lexemes) := by
      rw [List.forall₂_map_left_iff, List.forall₂_map_right_iff, List.forall₂_same]
      exact fun t ht => isClause_testText (hplain.2 t ht)
    have hall := isClause_joined
      (fun _ _ _ _ ha hb => fronts_between (isWord_keyword (s := "AND") (by simp)) ha hb)
      (isClause_testText hplain.1) hrest
    have hwhere := fronts_spaced (fronts_keyword (isWord_keyword (s := "WHERE") (by simp)))
      hall.fronts
    exact ⟨[_], .cons ⟨by simpa [List.flatMap_map] using hwhere, hall.solid.append _⟩ .nil,
      by simp⟩

/-! ### Order and limit -/

/-- The words for a column that rows are sorted by. -/
def keyText (q : Inquiry) (key : String) : String :=
  key ++ if q.descending then " DESC" else " ASC"

theorem isClause_keyText (q : Inquiry) {key : String} (hkey : IsPlainName key) :
    IsClause (q.keyText key) (q.keyLexemes key) := by
  rw [keyText, keyLexemes]
  cases q.descending with
  | true =>
    have h := fronts_spaced (fronts_name hkey)
      (fronts_keyword (isWord_keyword (s := "DESC") (by simp)))
    have hend : EndsSolid " DESC" := ⟨[' ', 'D', 'E', 'S'], 'C', by decide, by decide⟩
    exact ⟨by simpa using h, hend.append key⟩
  | false =>
    have h := fronts_spaced (fronts_name hkey)
      (fronts_keyword (isWord_keyword (s := "ASC") (by simp)))
    have hend : EndsSolid " ASC" := ⟨[' ', 'A', 'S'], 'C', by decide, by decide⟩
    exact ⟨by simpa using h, hend.append key⟩

/-- The words for the order of rows, if there is one. -/
def orderTexts (q : Inquiry) : List String :=
  match q.keys with
  | [] => []
  | keys => ["ORDER BY " ++ Text.joined ", " (keys.map q.keyText)]

/-- The order is a clause that spells its lexemes, or none. -/
theorem exists_orderTexts (hq : q.IsPlain) :
    ∃ lss, List.Forall₂ IsClause q.orderTexts lss ∧ lss.flatten = q.orderLexemes := by
  have hplain := hq.keys
  rw [orderTexts, orderLexemes]
  cases hkeys : q.keys with
  | nil => exact ⟨[], .nil, rfl⟩
  | cons key rest =>
    rw [hkeys, List.forall_mem_cons] at hplain
    have hrest : List.Forall₂ IsClause (rest.map q.keyText) (rest.map q.keyLexemes) := by
      rw [List.forall₂_map_left_iff, List.forall₂_map_right_iff, List.forall₂_same]
      exact fun key hkey => q.isClause_keyText (hplain.2 key hkey)
    have hall := isClause_joined (fun _ _ _ _ ha hb => fronts_listed ha hb)
      (q.isClause_keyText hplain.1) hrest
    have horder := fronts_spaced (fronts_keyword (isWord_keyword (s := "ORDER") (by simp)))
      (fronts_spaced (fronts_keyword (isWord_keyword (s := "BY") (by simp))) hall.fronts)
    exact ⟨[_], .cons ⟨by simpa [List.flatMap_map] using horder, hall.solid.append _⟩ .nil,
      by simp⟩

/-- The words for the limit, if there is one. -/
def limitTexts (q : Inquiry) : List String := (q.limit?.map limitSql).toList

theorem isClause_limitSql {n : UInt32} (h : q.limit? = some n) :
    IsClause (limitSql n) q.limitLexemes := by
  rw [limitSql, limitLexemes, h]
  have hdigits : ∀ c ∈ (toString n.toNat).toList, c.isDigit = true :=
    fun c hc => isDigit_of_mem_toString hc
  have hne : (toString n.toNat).toList ≠ [] := by simp
  have hnumber := fronts_number hne hdigits
  rw [String.ofList_toList] at hnumber
  have hword : Fronts "LIMIT".toList [.word "LIMIT"] := fronts_keyword (isWord_keyword (by simp))
  have hlead : "LIMIT " = "LIMIT" ++ " " := by decide
  rw [hlead]
  refine ⟨fronts_spaced hword hnumber, ?_⟩
  obtain ⟨front, c, hc⟩ := List.eq_nil_or_concat (toString n.toNat).toList |>.resolve_left hne
  rw [List.concat_eq_append] at hc
  have hdigit := hdigits c (by rw [hc]; simp)
  have hsolid : EndsSolid (toString n.toNat) := by
    obtain ⟨hlow, hhigh⟩ := toNat_of_isDigit hdigit
    refine ⟨front, c, hc, ?_⟩
    simp only [Text.isBlank, Bool.or_eq_false_iff, Bool.and_eq_false_iff, decide_eq_false_iff_not,
      beq_eq_false_iff_ne, ne_eq]
    omega
  exact hsolid.append _

/-- The limit is a clause that spells its lexemes, or none. -/
theorem exists_limitTexts (q : Inquiry) :
    ∃ lss, List.Forall₂ IsClause q.limitTexts lss ∧ lss.flatten = q.limitLexemes := by
  rw [limitTexts]
  cases hn : q.limit? with
  | none => exact ⟨[], .nil, by simp [limitLexemes, hn]⟩
  | some n => exact ⟨[_], .cons (isClause_limitSql hn) .nil, by simp⟩

/-! ### The whole question -/

/-- A question in words. -/
def text (q : Inquiry) : String :=
  Text.joined " " (q.headText :: (q.whereTexts ++ q.orderTexts ++ q.limitTexts))

/-- The words of a question are cut into its lexemes. -/
theorem isClause_text (hq : q.IsPlain) (hname : EndsSolid q.name)
    (hwhole : '\x00' ∉ q.table.toList) : IsClause q.text q.lexemes := by
  obtain ⟨tests, htests, htestLexemes⟩ := exists_whereTexts hq
  obtain ⟨keys, hkeys, hkeyLexemes⟩ := exists_orderTexts hq
  obtain ⟨limits, hlimits, hlimitLexemes⟩ := q.exists_limitTexts
  have hall := isClause_spaced (isClause_headText hq hname hwhole)
    (List.rel_append (List.rel_append htests hkeys) hlimits)
  rw [List.flatten_append, List.flatten_append, htestLexemes, hkeyLexemes, hlimitLexemes] at hall
  simpa [text, lexemes] using hall

/-- There are no blanks around the words of a question. -/
theorem trim_text (hq : q.IsPlain) (hname : EndsSolid q.name) (hwhole : '\x00' ∉ q.table.toList) :
    Text.trim q.text = q.text := by
  obtain ⟨more, hmore⟩ := exists_joined_eq_append " " q.headText
    (q.whereTexts ++ q.orderTexts ++ q.limitTexts)
  refine trim_eq_self (c := 'S') ?_ (by decide) (isClause_text hq hname hwhole).solid
  rw [text, hmore]
  simp [headText]

end Sql.Inquiry

theorem endsSolid_t1 : EndsSolid "t1" := ⟨['t'], '1', by decide, by decide⟩

end QueryPipe
