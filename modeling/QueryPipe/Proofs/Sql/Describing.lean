import Mathlib.Data.List.Basic
import QueryPipe.Sql.Script

/-!
# Scripts without columns

Only a query shows rows, and a query that answers has a column. So a script that is described
without columns shows no rows, whatever the values of its parameters and wherever it ends.

* `columns_of_query`, `rows_of_command`: what the answer of a statement is like.
* `rows_of_describeAll_nil`: one statement after the other, none shows a row.
-/

namespace QueryPipe.Sql

namespace Database

variable {db db' : Database} {params : List Value} {answer : Answer}

/-- A question that is answered has columns. -/
theorem columns_of_query {r : Question} (h : db.run params (.query r) = .ok (answer, db')) :
    answer.columns ≠ [] := by
  cases he : db.extent params r with
  | error p => simp [run, he, bind, Except.bind] at h
  | ok e =>
    by_cases hfields : e.fields = []
    · simp [run, he, hfields, bind, Except.bind, throw, throwThe, MonadExceptOf.throw] at h
    · simp only [run, he, bind, Except.bind, List.isEmpty_iff, hfields, if_false] at h
      obtain ⟨rfl, -⟩ := Prod.mk.inj (Except.ok.inj h)
      simpa using hfields

theorem rows_of_map {result : Except Problem Database}
    (h : result.map (({}, ·) : Database → Answer × Database) = .ok (answer, db')) :
    answer.rows = .ok [] := by
  cases result with
  | error p => cases h
  | ok changed =>
    cases h
    rfl

/-- A statement that is no question yields no rows. -/
theorem rows_of_command {s : Statement} (hs : s.isQuery = false)
    (h : db.run params s = .ok (answer, db')) : answer.rows = .ok [] := by
  cases s with
  | query r => cases hs
  | _ => exact rows_of_map h

end Database

/-! ## Describing -/

/-- An answer is described by nothing if and only if it has no columns. -/
theorem describeAnswer_eq_nil_iff {answer : Database.Answer} :
    describeAnswer answer = [] ↔ answer.columns = [] := by
  simp [describeAnswer]

/-- A query is never described without columns. -/
theorem describeStatement_query (db : Database) (r : Question) :
    describeStatement db (.query r) ≠ .ok [] := by
  intro h
  cases hrun : db.run [] (.query r) with
  | error p => simp [describeStatement, hrun, Statement.isQuery] at h
  | ok result =>
    obtain ⟨answer, db'⟩ := result
    simp only [describeStatement, hrun, Except.ok.injEq] at h
    exact Database.columns_of_query hrun (describeAnswer_eq_nil_iff.1 h)

/-- Where a script has no columns, none of its statements has. -/
theorem describeAll_eq_nil_of_some {db : Database} {fuel : Nat} {cursor after : Cursor}
    {s : Statement} (hnext : Reader.next? cursor = .ok (some s, after))
    (h : describeAll db (fuel + 1) cursor = .ok []) :
    describeStatement db s = .ok [] ∧ describeAll db fuel after = .ok [] := by
  simp only [describeAll, hnext, bind, Except.bind] at h
  cases hcolumns : describeStatement db s with
  | error p => simp [hcolumns] at h
  | ok columns =>
    cases hmore : describeAll db fuel after with
    | error p => simp [hcolumns, hmore] at h
    | ok more =>
      have hnil : columns ++ more = [] := by simpa [hcolumns, hmore, pure, Except.pure] using h
      obtain ⟨rfl, rfl⟩ := List.append_eq_nil_iff.1 hnil
      exact ⟨rfl, rfl⟩

/-- A statement that is described without columns shows no rows. -/
theorem rows_of_describeStatement_nil {described db db' : Database} {params : List Value}
    {answer : Database.Answer} {s : Statement} (h : describeStatement described s = .ok [])
    (hrun : db.run params s = .ok (answer, db')) : answer.rows = .ok [] := by
  cases s with
  | query r => exact absurd h (describeStatement_query described r)
  | _ => exact Database.rows_of_command rfl hrun

/-- The statements that are left show no rows if they are described without columns. -/
theorem rows_of_describeAll_nil {described : Database} {fuel : Nat} {cursor : Cursor}
    (h : describeAll described fuel cursor = .ok []) (params : List Value) (db : Database) :
    (runAll params fuel cursor db).rows = [] := by
  induction fuel generalizing cursor params db with
  | zero => rfl
  | succ fuel ih =>
    rw [runAll]
    rcases hnext : Reader.next? cursor with p | ⟨s?, after⟩
    · rfl
    · cases s? with
      | none => rfl
      | some s =>
        obtain ⟨hstatement, hafter⟩ := describeAll_eq_nil_of_some hnext h
        rcases hrun : db.run params s with p | ⟨answer, db'⟩
        · simp only [hrun]
        · have hanswer := rows_of_describeStatement_nil hstatement hrun
          simp only [hrun, hanswer, List.nil_append]
          exact ih hafter _ _

/-- A script that is described without columns shows no rows. -/
theorem rows_of_describeScript_nil {described : Database} {script : String}
    (h : describeScript script described = .ok []) (params : List Value) (db : Database) :
    (runScript script params db).rows = [] := rows_of_describeAll_nil h params db

end QueryPipe.Sql
