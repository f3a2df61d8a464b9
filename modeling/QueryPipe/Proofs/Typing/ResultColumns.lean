import QueryPipe.Proofs.Query.Clashes
import QueryPipe.Typing.Catalog

/-!
# The columns of a result

Which columns a statement has is up to the engine, but most of it follows from the plans: a plan
shows what its select list stands for among its row sources, `*` stands for all their columns, one
source after the other, and a stage is a table for the plans after it. The parts that a plan only
holds as text mean what a dialect says.

* `Dialect.columns`: the columns of a plan, given the tables and stages that it can read.
* `Dialect.scope`: tables and, under their names, the stages of plans.
* `Dialect.result_base`: what a probe has to show.
-/

namespace QueryPipe

/-- Something that a plan reads from. -/
structure RowSource where
  /-- Its name in the statement. -/
  name : String
  /-- Its columns. -/
  columns : Catalog

/-- The columns of tables and stages by their names. -/
abbrev Tables := String → Catalog

/-- What the parts of a statement mean that a plan holds as text. -/
structure Dialect where
  /-- The column that an item of a select list shows, unless it is `*`. -/
  item : List RowSource → String → ColumnDescription
  /-- The columns of a raw statement. -/
  raw : Tables → String → Catalog
  /-- The columns of the rows of several tables one after the other. -/
  union : List Catalog → Catalog
  /-- The columns of a stage as the plans after it see them. -/
  seen : Catalog → Catalog

/-! ## Select lists -/

/-- Whether an item of a select list stands for all columns. -/
def isStar (item : String) : Bool := Text.trim item == "*"

namespace Selection

/-- The items of a select list, which is `*` where none is given. -/
def items (s : Selection) : List String := if s.columns.isEmpty then ["*"] else s.columns

theorem isStar_star : isStar "*" = true := by decide

/-- Widening adds `*` to a select list that does not show all columns already. -/
theorem items_widen (s : Selection) :
    (s.widen.items = s.items ∧ ∃ item ∈ s.items, isStar item = true) ∨
      (s.widen.items = s.items ++ ["*"] ∧ ∀ item ∈ s.items, isStar item = false) := by
  by_cases hempty : s.columns = []
  · have hwiden : s.widen = s := by simp [widen, hempty]
    have hitems : s.items = ["*"] := by simp [items, hempty]
    rw [hwiden, hitems]
    exact .inl ⟨rfl, "*", List.mem_singleton_self _, isStar_star⟩
  · have hitems : s.items = s.columns := by simp [items, hempty]
    cases hstar : s.columns.any isStar with
    | true =>
      have hwiden : s.widen = s := by
        rw [widen, if_pos]
        exact Bool.or_eq_true_iff.2 (.inr hstar)
      rw [hwiden, hitems]
      exact .inl ⟨rfl, List.any_eq_true.1 hstar⟩
    | false =>
      have hwiden : s.widen = { s with columns := s.columns ++ ["*"] } := by
        rw [widen, if_neg]
        intro h
        rcases Bool.or_eq_true_iff.1 h with h | h
        · exact hempty (List.isEmpty_iff.1 h)
        · exact Bool.false_ne_true (hstar.symm.trans h)
      refine .inr ⟨?_, ?_⟩
      · rw [hwiden, hitems, items, if_neg (by simp)]
      · rw [hitems]
        simpa using List.any_eq_false.1 hstar

theorem exists_isStar_widen (s : Selection) : ∃ item ∈ s.widen.items, isStar item = true := by
  rcases s.items_widen with ⟨hitems, hstar⟩ | ⟨hitems, -⟩
  · rw [hitems]
    exact hstar
  · rw [hitems]
    exact ⟨"*", by simp, isStar_star⟩

theorem mem_items_of_mem_widen {s : Selection} {item : String} (h : item ∈ s.widen.items)
    (hitem : isStar item = false) : item ∈ s.items := by
  rcases s.items_widen with ⟨hitems, -⟩ | ⟨hitems, -⟩
  · rwa [hitems] at h
  · rw [hitems] at h
    rcases List.mem_append.1 h with h | h
    · exact h
    · rw [List.mem_singleton.1 h, isStar_star] at hitem
      cases hitem

end Selection

/-! ## Plans -/

namespace Dialect

variable (d : Dialect)

/-- The columns that an item of a select list stands for. -/
def expand (sources : List RowSource) (item : String) : Catalog :=
  if isStar item then sources.flatMap RowSource.columns else [d.item sources item]

/-- The columns that a select list stands for. -/
def listed (sources : List RowSource) (items : List String) : Catalog :=
  items.flatMap (d.expand sources)

/-- The columns of the tables of a selection; of several, each is read through its select list. -/
def tableColumns (tables : Tables) (s : Selection) : Catalog :=
  match s.tables with
  | [table] => tables table
  | several => d.union (several.map fun table => d.listed [⟨table, tables table⟩] s.items)

/-- The row sources of a selection and a join. -/
def sources (tables : Tables) (name : String) (s : Selection) (join? : Option Joining) :
    List RowSource :=
  ⟨name, d.tableColumns tables s⟩ ::
    (join?.map fun j => ⟨j.alias?.getD j.table, tables j.table⟩).toList

/-- The columns of a plan. -/
def columns (tables : Tables) (supply : AliasSupply) (p : Plan) : Catalog :=
  match p.raw, p.select with
  | some text, _ => d.raw tables text
  | none, none => []
  | none, some s => d.listed (d.sources tables (supply.resolve s.alias?).1 s p.join) s.items

theorem columns_of_select (tables : Tables) (supply : AliasSupply) {p : Plan} {s : Selection}
    (hraw : p.raw = none) (hselect : p.select = some s) :
    d.columns tables supply p =
      d.listed (d.sources tables (supply.resolve s.alias?).1 s p.join) s.items := by
  simp only [columns, hraw, hselect]

/-! ## Chains -/

/-- Tables and the stage that a plan becomes, which hides a table of its name. -/
def withStage (tables : Tables) (supply : AliasSupply) (p : Plan) : Tables := fun table =>
  if table = (supply.resolve p.alias?).1 then
    d.seen (d.columns tables (supply.resolve p.alias?).2 p)
  else tables table

/-- The tables and stages that a plan after some others can read. -/
def scope : List Plan → AliasSupply → Tables → Tables
  | [], _, tables => tables
  | p :: rest, supply, tables =>
    scope rest (supply.skip p.stageDraws) (d.withStage tables supply p)

/-- The columns of the statement of a chain under names of its own. -/
def result (tables : Tables) (c : Chain) : Catalog :=
  match c.last? with
  | none => []
  | some p =>
    d.columns (d.scope c.plans.dropLast {} tables)
      (AliasSupply.skip (drawsBefore c.plans.dropLast) {}) p

theorem scope_map_base (plans : List Plan) (supply : AliasSupply) (tables : Tables) :
    d.scope (plans.map Plan.base) supply tables = d.scope plans supply tables := by
  induction plans generalizing supply tables with
  | nil => rfl
  | cons p plans ih => exact ih _ _

theorem drawsBefore_map_base (plans : List Plan) :
    drawsBefore (plans.map Plan.base) = drawsBefore plans := by
  induction plans with
  | nil => rfl
  | cons p plans ih =>
    rw [List.map_cons, drawsBefore_cons, drawsBefore_cons, ih,
      (Plan.NamedAlike.base p).stageDraws]

theorem scope_append (plans : List Plan) (p : Plan) (supply : AliasSupply) (tables : Tables) :
    d.scope (plans ++ [p]) supply tables =
      d.withStage (d.scope plans supply tables) (supply.skip (drawsBefore plans)) p := by
  induction plans generalizing supply tables with
  | nil => rfl
  | cons first plans ih =>
    rw [List.cons_append, scope, ih, scope, drawsBefore_cons, AliasSupply.skip_skip]

/-- What the probe of a chain has to show: the columns of the last plan, with `*` after its own, in
the scope of the plans before it as they are. -/
theorem result_base (tables : Tables) {c : Chain} {init : List Plan} {last : Plan}
    (h : c.plans = init ++ [last]) :
    d.result tables c.base =
      d.columns (d.scope init {} tables) (AliasSupply.skip (drawsBefore init) {})
        last.widen := by
  have hbase := Chain.base_append h
  have hlast : c.base.last? = some last.base.widen := by
    rw [Chain.last?, hbase]
    simp
  have hinit : c.base.plans.dropLast = init.map Plan.base := by
    rw [hbase]
    simp
  rw [result, hlast, hinit, d.scope_map_base, drawsBefore_map_base]
  rfl

end Dialect

end QueryPipe
