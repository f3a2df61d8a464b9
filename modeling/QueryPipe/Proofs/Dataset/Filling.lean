import QueryPipe.Dataset.Loading
import QueryPipe.Proofs.Dataset.Kinds

/-!
# Filling a table

Whatever store a file is loaded into, the rows of its records are inserted one after the other
between the begin of a transaction and its end. So a file that can be read is loaded exactly if
every one of these steps succeeds, and it is then loaded into what they come to.

* `Store.insertAll`: rows one after the other.
* `Store.fill_eq`, `Store.insertAll_of_fill`: filling a table inserts a row for each record.
* `Store.load_eq_ok_iff`: when a file is loaded, and into what.
-/

namespace QueryPipe.Dataset.Store

variable {σ τ : Type} {store : Store σ τ} {table file : String} {columns : List FileColumn}

/-- Adds rows one after the other. -/
def insertAll (store : Store σ τ) (table : String) :
    List (List (Option Bound)) → τ → Except String τ
  | [], s => .ok s
  | bounds :: rest, s =>
    match store.insert table bounds s with
    | .error message => .error message
    | .ok s => store.insertAll table rest s

section Filling

variable {records : List (List String)} {s filled : τ}

/-- The second pass adds a row for each record and counts them. -/
theorem fill_eq (h : store.insertAll table (records.map (boundsOf columns)) s = .ok filled)
    (count : Nat) :
    store.fill table file columns count (records.map .ok) s =
      (.ok (count + records.length), filled) := by
  induction records generalizing s count with
  | nil =>
    obtain rfl := Except.ok.inj h
    rfl
  | cons cells records ih =>
    rw [List.map_cons, insertAll] at h
    rw [List.map_cons, fill]
    cases hinsert : store.insert table (boundsOf columns cells) s with
    | error message => simp [hinsert] at h
    | ok s' =>
      simp only [hinsert] at h ⊢
      rw [ih h (count + 1), List.length_cons, Nat.add_right_comm]
      rfl

/-- Where the second pass comes to its end, every row was added. -/
theorem insertAll_of_fill {count n : Nat}
    (h : store.fill table file columns count (records.map .ok) s = (.ok n, filled)) :
    store.insertAll table (records.map (boundsOf columns)) s = .ok filled := by
  induction records generalizing s count with
  | nil => exact congrArg Except.ok (congrArg Prod.snd h)
  | cons cells records ih =>
    rw [List.map_cons, fill] at h
    rw [List.map_cons, insertAll]
    cases hinsert : store.insert table (boundsOf columns cells) s with
    | error message => simp [hinsert] at h
    | ok s' =>
      simp only [hinsert] at h ⊢
      exact ih h

end Filling

section Loading

variable {bytes : List UInt8} {names : List String} {records : List (List String)} {s done : σ}

/-- The steps by which rows get into a new table, all of them successful. -/
structure Steps (store : Store σ τ) (table : String) (columns : List FileColumn)
    (rows : List (List (Option Bound))) (s : σ) (made : σ) (begun filled : τ) (done : σ) :
    Prop where
  /-- The table is made. -/
  create : store.create table columns s = .ok made
  /-- A transaction is begun. -/
  begin : store.begin made = .ok begun
  /-- The rows are added. -/
  insert : store.insertAll table rows begun = .ok filled
  /-- The transaction is ended. -/
  commit : store.commit filled = .ok done

theorem fillFrom_eq (hreads : (Table.ofBytes (delimiterOf (delimiter? file)) bytes).Reads names records)
    (s : τ) : store.fillFrom table file columns (.ok bytes) s =
      store.fill table file columns 0 (records.map .ok) s := by
  rw [fillFrom, hreads.dataOnly_eq]

/-- A file that can be read is loaded if every step succeeds, and only then. -/
theorem load_eq_ok_iff
    (hreads : (Table.ofBytes (delimiterOf (delimiter? file)) bytes).Reads names records)
    (hcolumns : columnsOf file (.ok bytes) = .ok columns) {n : Nat} :
    store.load table file (.ok bytes) s = (.ok n, done) ↔ n = records.length ∧
      ∃ made begun filled,
        store.Steps table columns (records.map (boundsOf columns)) s made begun filled done := by
  rw [load, hcolumns]
  constructor
  · intro h
    cases hcreate : store.create table columns s with
    | error message => simp [hcreate] at h
    | ok made =>
      simp only [hcreate, fillAll] at h
      cases hbegin : store.begin made with
      | error message => simp [hbegin] at h
      | ok begun =>
        simp only [hbegin, fillFrom_eq hreads] at h
        rcases hfill : store.fill table file columns 0 (records.map .ok) begun with ⟨_ | _, filled⟩
        · simp [hfill] at h
        · simp only [hfill] at h
          have hinsert := insertAll_of_fill hfill
          cases hcommit : store.commit filled with
          | error message => simp [hcommit] at h
          | ok last =>
            have hcount := (congrArg Prod.fst (fill_eq hinsert 0)).symm.trans
              (congrArg Prod.fst hfill)
            simp only [hcommit, Prod.mk.injEq, Except.ok.injEq] at h
            obtain ⟨rfl, rfl⟩ := h
            rw [Nat.zero_add] at hcount
            exact ⟨(Except.ok.inj hcount).symm, made, begun, filled,
              ⟨hcreate, hbegin, hinsert, hcommit⟩⟩
  · rintro ⟨rfl, made, begun, filled, hsteps⟩
    simp only [hsteps.create, fillAll, hsteps.begin, fillFrom_eq hreads, fill_eq hsteps.insert,
      hsteps.commit, Nat.zero_add]

end Loading

end QueryPipe.Dataset.Store
