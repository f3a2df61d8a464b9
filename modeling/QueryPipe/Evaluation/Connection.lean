import QueryPipe.Evaluation.Decoding
import QueryPipe.Evaluation.Engine
import QueryPipe.Dataset.Reference
import QueryPipe.Sql.Records

/-!
# Connections as engines

An engine is made from a connection to a database. What a connection answers is up to the library
that it comes from; here is what the engine makes of the answers. Columns are described as the
connection describes them, and a row source whose type is not declared anywhere takes the type of
its first value, for which the source is asked. Rows are fetched one by one and delivered in
batches of the asked size, of which only the last may be smaller; when a statement is given up, the
rows of a batch that is not full yet are not delivered.

* `describeSources_keeps`: what describing keeps.
* `execute_of_hasRoom`: a batch that memory can hold is filled with what is fetched.
-/

namespace QueryPipe.Evaluation

open Sql (Record)

/-- What fetching the rows of a statement comes to. -/
structure Fetched where
  /-- The rows in order, as far as they came. -/
  rows : List Record
  /-- Why no more came, if the statement was given up. -/
  problem? : Option String
  deriving DecidableEq, Repr, Inhabited

/-- A connection to a database with states of type `δ`. -/
structure Connection (δ : Type) where
  /-- The number of rows of the greatest batch that memory can hold. -/
  greatestBatch : Nat
  /-- Runs a script and forgets its rows. -/
  script : String → δ → Except String Unit × δ
  /-- The result columns of a statement, without running it. -/
  columns : String → δ → Except String Catalog × δ
  /-- The first row of a statement, if it comes to one. -/
  first? : String → δ → Option Record × δ
  /-- Fetches the rows of a statement under parameters. -/
  fetch : String → List Bound → δ → Fetched × δ

/-- A script that stands inside another: without blanks and semicolons at its end. -/
def embedded (sql : String) : String :=
  String.ofList ((Text.trim sql).toList.reverse.dropWhile (· == ';')).reverse

/-- Asks for the kind of the first value in a column. -/
def sampleScript (sql column : String) : String :=
  let name := Dataset.quoteIdentifier column
  "SELECT typeof(" ++ name ++ ") FROM (" ++ embedded sql ++ ") WHERE " ++ name ++
    " IS NOT NULL LIMIT 1"

/-! ## Gathering -/

/-- The fault of records that make no batch. -/
def faultOf (sql : String) : BatchFault → Fault
  | .cell fault => .execution sql fault.message
  | .mismatch cause => .output (.mismatch cause)

/-- A chunk of records as a batch to deliver. -/
def batchOfChunk (sql : String) (schema : Schema) (chunk : List Record) : Except Fault Batch :=
  (batchOf schema chunk).mapError (faultOf sql)

/-- What is delivered after a batch, with the batch in front of it. -/
def Delivery.precede (b : Batch) (d : Delivery) : Delivery := ⟨b :: d.batches, d.ending⟩

/-- Gathers records into a chunk and delivers it as soon as it is full. The chunk that is left
after the last record is delivered too, unless the statement was given up. -/
def gather (sql : String) (schema : Schema) (size : Nat) (problem? : Option String) :
    List Record → List Record → Delivery
  | chunk, [] =>
    match problem? with
    | some message => ⟨[], .error (.execution sql message)⟩
    | none =>
      if chunk.isEmpty then ⟨[], .ok ()⟩
      else
        match batchOfChunk sql schema chunk with
        | .error fault => ⟨[], .error fault⟩
        | .ok batch => ⟨[batch], .ok ()⟩
  | chunk, record :: rest =>
    let chunk := chunk ++ [record]
    if chunk.length == size then
      match batchOfChunk sql schema chunk with
      | .error fault => ⟨[], .error fault⟩
      | .ok batch => (gather sql schema size problem? [] rest).precede batch
    else gather sql schema size problem? chunk rest

/-- What is delivered of the rows that are fetched. -/
def delivery (sql : String) (schema : Schema) (size : Nat) (fetched : Fetched) : Delivery :=
  gather sql schema size fetched.problem? [] fetched.rows

namespace Connection

variable {δ : Type}

/-! ## Describing -/

/-- The columns of a statement. -/
def describe (c : Connection δ) (sql : String) (e : δ) : Except Fault Catalog × δ :=
  ((c.columns sql e).1.mapError (.execution sql), (c.columns sql e).2)

/-- The kind of the first value in a column, if there is one. -/
def sampledType? (c : Connection δ) (sql column : String) (e : δ) : Option String × δ :=
  let found := c.first? (sampleScript sql column) e
  (match found.1 with
    | some (v :: _) => some v.toText.toUpper
    | _ => none, found.2)

/-- A column with the type of its values where none is declared. -/
def sampled (c : Connection δ) (sql : String) (column : ColumnDescription) (e : δ) :
    ColumnDescription × δ :=
  if Text.sameWord column.declared "NULL" then
    let found := c.sampledType? sql column.name e
    ({ column with declared := found.1.getD column.declared }, found.2)
  else (column, e)

/-- Several columns with the types of their values, one after the other. -/
def sampledAll (c : Connection δ) (sql : String) : Catalog → δ → Catalog × δ
  | [], e => ([], e)
  | column :: rest, e =>
    let first := c.sampled sql column e
    let others := c.sampledAll sql rest first.2
    (first.1 :: others.1, others.2)

/-- The columns of row sources. -/
def describeSources (c : Connection δ) (sql : String) (e : δ) : Except Fault Catalog × δ :=
  match c.describe sql e with
  | (.error fault, e) => (.error fault, e)
  | (.ok catalog, e) =>
    let sampled := c.sampledAll sql catalog e
    (.ok sampled.1, sampled.2)

section Keeping

variable {c : Connection δ} {kept : δ → Prop} {sql : String}

/-- What describing a script and looking for the first values of its columns keep is kept when a
column is typed. -/
theorem sampled_keeps
    (hfirst : ∀ column e, kept e → kept (c.first? (sampleScript sql column) e).2)
    (column : ColumnDescription) {e : δ} (h : kept e) : kept (c.sampled sql column e).2 := by
  rw [sampled]
  split
  · exact hfirst column.name e h
  · exact h

theorem sampledAll_keeps
    (hfirst : ∀ column e, kept e → kept (c.first? (sampleScript sql column) e).2)
    (catalog : Catalog) {e : δ} (h : kept e) : kept (c.sampledAll sql catalog e).2 := by
  induction catalog generalizing e with
  | nil => exact h
  | cons column rest ih => exact ih (sampled_keeps hfirst column h)

/-- Row sources are described without a change to what describing a script and looking for first
values keep. -/
theorem describeSources_keeps (hcolumns : ∀ e, kept e → kept (c.columns sql e).2)
    (hfirst : ∀ column e, kept e → kept (c.first? (sampleScript sql column) e).2)
    {e : δ} (h : kept e) : kept (c.describeSources sql e).2 := by
  have hdescribed : kept (c.describe sql e).2 := hcolumns e h
  rw [describeSources]
  revert hdescribed
  rcases c.describe sql e with ⟨fault | catalog, e'⟩
  · exact id
  · exact sampledAll_keeps hfirst catalog

end Keeping

/-! ## Running -/

/-- Whether memory can hold a batch of a size. -/
def HasRoom (c : Connection δ) (size : Nat) : Prop :=
  effectiveSize size ≤ c.greatestBatch

instance (c : Connection δ) (size : Nat) : Decidable (c.HasRoom size) :=
  inferInstanceAs (Decidable (_ ≤ _))

/-- The reason that is given for a batch that no memory could hold. -/
def capacityMessage : String := "capacity overflow"

/-- Runs a statement under parameters. Room for a whole batch is asked for first. Where no memory
could hold one, the run ends there, and nothing is fetched. -/
def execute (c : Connection δ) (sql : String) (params : List Bound) (schema : Schema) (size : Nat)
    (e : δ) : Delivery × δ :=
  if c.HasRoom size then
    let (fetched, e) := c.fetch sql params e
    (delivery sql schema (effectiveSize size) fetched, e)
  else (⟨[], .error (.execution sql capacityMessage)⟩, e)

/-- With room for a batch, what is fetched is delivered in batches of the size. -/
theorem execute_of_hasRoom {c : Connection δ} {size : Nat} (h : c.HasRoom size) (sql : String)
    (params : List Bound) (schema : Schema) (e : δ) :
    c.execute sql params schema size e =
      (delivery sql schema (effectiveSize size) (c.fetch sql params e).1,
        (c.fetch sql params e).2) := by
  rw [execute, if_pos h]

/-- Without it nothing is fetched, and the state stays as it is. -/
theorem execute_of_not_hasRoom {c : Connection δ} {size : Nat} (h : ¬ c.HasRoom size)
    (sql : String) (params : List Bound) (schema : Schema) (e : δ) :
    c.execute sql params schema size e = (⟨[], .error (.execution sql capacityMessage)⟩, e) := by
  rw [execute, if_neg h]

/-- The engine that a connection makes. -/
def engine (c : Connection δ) : Engine δ where
  describe := c.describe
  describeSources := c.describeSources
  execute := c.execute

end Connection

end QueryPipe.Evaluation
