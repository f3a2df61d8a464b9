import QueryPipe.Evaluation.Connection
import QueryPipe.Proofs.Evaluation.Decoding

/-!
# Gathering records into batches

Whatever records a script shows and wherever it ends, they are delivered in order, in batches of
the asked size. Only the last batch may be smaller, and none is empty. A delivery that stops early
has delivered full batches only, and stops at the first records that it cannot show or at the
place where the script was given up.

* `Delivers`: what a delivery of records is.
* `gather_delivers`: the loop that fills chunks makes one, from any chunk that is not full.
* `Delivers.ending_eq_ok_iff`: whether a delivery comes to its end does not depend on the size.
* `Delivers.rows_unique`: neither do the rows of one that does.
* `Delivers.of_mismatch`: only a schema without columns is one that no batch fits.
-/

namespace QueryPipe.Evaluation

open Sql (Record)

/-- The rows of a delivery in order. -/
def Delivery.rows (d : Delivery) : List Row := d.batches.flatMap Batch.rows

/-- Why a delivery stops, with the records that are left. -/
inductive Stops (sql : String) (schema : Schema) (size : Nat) (problem? : Option String)
    (left : List Record) : Fault → Prop
  /-- The script is given up before the next batch is full. -/
  | givenUp {message : String} (hproblem : problem? = some message) (hleft : left.length < size) :
      Stops sql schema size problem? left (.execution sql message)
  /-- The next records make no batch. -/
  | unshown {fault : BatchFault} (hleft : left ≠ [])
      (hready : size ≤ left.length ∨ problem? = none)
      (hfault : batchOf schema (left.take size) = .error fault) :
      Stops sql schema size problem? left (faultOf sql fault)

/-- Records are delivered in batches of a size, up to a problem if there is one. -/
structure Delivers (sql : String) (schema : Schema) (size : Nat) (problem? : Option String)
    (records : List Record) (d : Delivery) : Prop where
  /-- The rows show the first records in order. -/
  shows : List.Forall₂ (Shows schema) (records.take d.rows.length) d.rows
  /-- No batch is empty, and none has more rows than asked. -/
  sized : ∀ b ∈ d.batches, 1 ≤ b.length ∧ b.length ≤ size
  /-- Only the last batch may have fewer. -/
  full : ∀ b ∈ d.batches.dropLast, b.length = size
  /-- Every batch has a value for each of its rows in every column of the schema. -/
  spanned : ∀ b ∈ d.batches, ∃ columns, b.Spans schema columns
  /-- A delivery that comes to its end has delivered everything. -/
  ended : d.ending = .ok () → problem? = none ∧ d.rows.length = records.length
  /-- One that does not has delivered full batches, and stops for a reason. -/
  stopped : ∀ fault, d.ending = .error fault → (∀ b ∈ d.batches, b.length = size) ∧
    Stops sql schema size problem? (records.drop d.rows.length) fault

/-! ## The steps of the loop -/

section Steps

variable {sql : String} {schema : Schema} {size : Nat} {problem? : Option String}
  {records chunk rest : List Record} {b : Batch} {d : Delivery}

@[simp] theorem Delivery.rows_precede : (d.precede b).rows = b.rows ++ d.rows := rfl

theorem length_of_batchOf (h : batchOf schema records = .ok b) : b.length = records.length :=
  (List.Forall₂.length_eq (batchOf_eq_ok_iff.1 h).2).symm

theorem Delivers.of_stops {fault : Fault} (h : Stops sql schema size problem? records fault) :
    Delivers sql schema size problem? records ⟨[], .error fault⟩ where
  shows := .nil
  sized := by simp
  full := by simp
  spanned := by simp
  ended := by simp
  stopped := by
    intro fault' hfault
    cases hfault
    exact ⟨by simp, h⟩

/-- Nothing is delivered of no records. -/
theorem Delivers.of_nil : Delivers sql schema size none [] ⟨[], .ok ()⟩ where
  shows := .nil
  sized := by simp
  full := by simp
  spanned := by simp
  ended := fun _ => ⟨rfl, rfl⟩
  stopped := by simp

/-- The records that are left at the end make the last batch. -/
theorem Delivers.of_last (hb : batchOf schema chunk = .ok b) (hchunk : chunk ≠ [])
    (hsize : chunk.length ≤ size) : Delivers sql schema size none chunk ⟨[b], .ok ()⟩ := by
  have hlength : b.length = chunk.length := length_of_batchOf hb
  have hrows : Delivery.rows ⟨[b], .ok ()⟩ = b.rows := List.append_nil b.rows
  have hpos : 0 < chunk.length := List.length_pos_of_ne_nil hchunk
  refine ⟨?_, ?_, by simp, ?_, ?_, by simp⟩
  · rw [hrows, show b.rows.length = chunk.length from hlength, List.take_length]
    exact (batchOf_eq_ok_iff.1 hb).2
  · intro c hc
    rw [List.mem_singleton.1 hc]
    omega
  · intro c hc
    rw [List.mem_singleton.1 hc]
    exact exists_spans_of_batchOf hb
  · intro _
    rw [hrows]
    exact ⟨rfl, hlength⟩

/-- A full batch goes in front of what is delivered of the records after it. -/
theorem Delivers.precede (hb : batchOf schema chunk = .ok b) (hchunk : chunk.length = size)
    (hsize : 0 < size) (h : Delivers sql schema size problem? rest d) :
    Delivers sql schema size problem? (chunk ++ rest) (d.precede b) := by
  have hlength : b.length = chunk.length := length_of_batchOf hb
  have hrows : (d.precede b).rows.length = chunk.length + d.rows.length := by
    rw [Delivery.rows_precede, List.length_append, ← hlength, Batch.length]
  refine ⟨?_, ?_, ?_, ?_, ?_, ?_⟩
  · rw [hrows, List.take_length_add_append]
    exact List.rel_append (batchOf_eq_ok_iff.1 hb).2 h.shows
  · exact List.forall_mem_cons.2 ⟨by omega, h.sized⟩
  · intro c hc
    have hmem : c ∈ b :: d.batches.dropLast := by
      cases hd : d.batches with
      | nil => simp [Delivery.precede, hd] at hc
      | cons first others => simpa [Delivery.precede, hd] using hc
    rcases List.mem_cons.1 hmem with rfl | hlater
    · omega
    · exact h.full c hlater
  · exact List.forall_mem_cons.2 ⟨exists_spans_of_batchOf hb, h.spanned⟩
  · intro hending
    obtain ⟨hproblem, hall⟩ := h.ended hending
    exact ⟨hproblem, by rw [hrows, List.length_append, hall]⟩
  · intro fault hending
    obtain ⟨hfull, hstops⟩ := h.stopped fault hending
    refine ⟨List.forall_mem_cons.2 ⟨by omega, hfull⟩, ?_⟩
    rwa [hrows, List.drop_length_add_append]

end Steps

/-! ## The loop -/

section Loop

variable {sql : String} {schema : Schema} {size : Nat} {problem? : Option String}

/-- The loop ends with the records that it has gathered and not delivered yet. -/
theorem gather_delivers_last {chunk : List Record} (hchunk : chunk.length < size) :
    Delivers sql schema size problem? chunk (gather sql schema size problem? chunk []) := by
  cases hproblem : problem? with
  | some message => exact .of_stops (.givenUp rfl hchunk)
  | none =>
    by_cases hempty : chunk = []
    · subst hempty
      exact .of_nil
    · have hcut : chunk.take size = chunk := List.take_of_length_le (Nat.le_of_lt hchunk)
      simp only [gather, List.isEmpty_iff, hempty, if_false]
      cases hb : batchOf schema chunk with
      | error fault =>
        simp only [batchOfChunk, hb, Except.mapError]
        exact .of_stops (.unshown hempty (.inr rfl) (by rw [hcut, hb]))
      | ok b =>
        simp only [batchOfChunk, hb, Except.mapError]
        exact .of_last hb hempty (Nat.le_of_lt hchunk)

/-- From any chunk that is not full, the loop delivers the chunk and the records after it. -/
theorem gather_delivers (chunk rest : List Record) (hchunk : chunk.length < size) :
    Delivers sql schema size problem? (chunk ++ rest)
      (gather sql schema size problem? chunk rest) := by
  induction rest generalizing chunk with
  | nil =>
    rw [List.append_nil]
    exact gather_delivers_last hchunk
  | cons record rest ih =>
    have hsize : 0 < size := Nat.zero_lt_of_lt hchunk
    rw [List.append_cons, gather]
    by_cases hfull : (chunk ++ [record]).length = size
    · rw [if_pos (by simpa using hfull)]
      cases hb : batchOf schema (chunk ++ [record]) with
      | error fault =>
        simp only [batchOfChunk, hb, Except.mapError]
        refine .of_stops (.unshown (by simp) (.inl ?_) ?_)
        · rw [List.length_append]
          omega
        · rw [List.take_left' hfull, hb]
      | ok b =>
        simp only [batchOfChunk, hb, Except.mapError]
        exact .precede hb hfull hsize (ih [] hsize)
    · rw [if_neg (by simpa using hfull)]
      refine ih (chunk ++ [record]) ?_
      rw [List.length_append, List.length_singleton] at hfull ⊢
      omega

/-- What is delivered of the rows that are fetched, in batches of any size. -/
theorem delivery_delivers (sql : String) (schema : Schema) (batchSize : Nat)
    (fetched : Fetched) :
    Delivers sql schema (effectiveSize batchSize) fetched.problem? fetched.rows
      (delivery sql schema (effectiveSize batchSize) fetched) :=
  gather_delivers [] fetched.rows (Nat.lt_of_lt_of_le Nat.zero_lt_one (Nat.le_max_right _ _))

end Loop

/-! ## Where the size does not count -/

section Size

variable {sql : String} {schema : Schema} {size : Nat} {problem? : Option String}
  {records : List Record} {d : Delivery}

/-- At its end, a delivery shows every record. -/
theorem Delivers.shows_all (h : Delivers sql schema size problem? records d)
    (hending : d.ending = .ok ()) : List.Forall₂ (Shows schema) records d.rows := by
  have hshows := h.shows
  rwa [(h.ended hending).2, List.take_length] at hshows

theorem Delivers.schema_ne_nil (h : Delivers sql schema size problem? records d)
    (hending : d.ending = .ok ()) (hrecords : records ≠ []) : schema ≠ [] := by
  have hlength : d.rows.length = records.length := (h.ended hending).2
  have hrows : d.rows ≠ [] := by
    rw [← List.length_pos_iff, hlength]
    exact List.length_pos_of_ne_nil hrecords
  obtain ⟨row, hrow⟩ := List.exists_mem_of_ne_nil _ hrows
  obtain ⟨b, hb, -⟩ := List.mem_flatMap.1 hrow
  obtain ⟨columns, hspans⟩ := h.spanned b hb
  exact hspans.schema_ne_nil

/-- Every row has a value, of the kind of its column or missing, in each column of the schema. -/
theorem Delivers.ofCells_eq (h : Delivers sql schema size problem? records d) :
    ∀ row ∈ d.rows, Row.ofCells schema row = row := ofCells_eq_of_shows h.shows

/-- A delivery comes to its end if nothing is wrong with the script and every record can be
shown in some column. -/
theorem Delivers.ending_eq_ok_iff (h : Delivers sql schema size problem? records d) :
    d.ending = .ok () ↔ problem? = none ∧ (records ≠ [] → schema ≠ []) ∧
      ∃ rows, List.Forall₂ (Shows schema) records rows := by
  constructor
  · intro hending
    exact ⟨(h.ended hending).1, h.schema_ne_nil hending, d.rows, h.shows_all hending⟩
  · rintro ⟨hproblem, hschema, rows, hrows⟩
    cases hending : d.ending with
    | ok _ => rfl
    | error fault =>
      obtain ⟨-, hstops⟩ := h.stopped fault hending
      cases hstops with
      | givenUp hgiven _ =>
        rw [hproblem] at hgiven
        cases hgiven
      | unshown hleft _ hfault =>
        have hrecords : records ≠ [] := by
          rintro rfl
          exact hleft List.drop_nil
        have hshown := List.forall₂_take size (List.forall₂_drop d.rows.length hrows)
        rw [(batchOf_eq_ok_iff (b := ⟨_⟩)).2 ⟨hschema hrecords, hshown⟩] at hfault
        cases hfault

/-- The rows of two deliveries of the same records that come to their end are the same. -/
theorem Delivers.rows_unique {size' : Nat} {d' : Delivery}
    (h : Delivers sql schema size problem? records d)
    (h' : Delivers sql schema size' problem? records d') (hending : d.ending = .ok ())
    (hending' : d'.ending = .ok ()) : d.rows = d'.rows := by
  have hunique : Relator.RightUnique (Shows schema) := fun _ _ _ => Shows.unique
  exact hunique.forall₂ (h.shows_all hending) (h'.shows_all hending')

/-- Only records without columns are refused as a batch that does not fit its schema. -/
theorem Delivers.of_mismatch (h : Delivers sql schema size problem? records d)
    {cause : Batch.Mismatch} (hending : d.ending = .error (.output (.mismatch cause))) :
    schema = [] ∧ records ≠ [] := by
  obtain ⟨-, hstops⟩ := h.stopped _ hending
  generalize hfault : Fault.output (.mismatch cause) = fault at hstops
  cases hstops with
  | givenUp _ _ => cases hfault
  | @unshown found hleft _ hbatch =>
    cases found with
    | cell _ => cases hfault
    | mismatch _ =>
      refine ⟨eq_nil_of_mismatch hbatch, ?_⟩
      rintro rfl
      exact hleft List.drop_nil

end Size

end QueryPipe.Evaluation
