import QueryPipe.Evaluation.DatabaseEngine
import QueryPipe.Proofs.Typing.Lookup
import QueryPipe.Proofs.Typing.ResultColumns

/-!
# The type of an untyped literal

An untyped literal takes its type from the columns that the probe of its chain shows. These carry
no qualifiers, so the literal is typed by the last row source that has a column of the name, even
when the condition names the column of an earlier one. Only where no later source has a column of
that name is it the column that the condition means.

* `meant`: the columns that a condition can mean.
* `bind_of_meant`: which column types the literal of a condition that means just one.
* `bind_of_shared_name`: two sources with a column of one name, where it is the wrong one.
-/

namespace QueryPipe

/-- The columns that a condition can mean: by their own name, or by the name of their source and
their own. -/
def meant (sources : List RowSource) (column : String) : Catalog :=
  sources.flatMap fun source => source.columns.filter fun c =>
    column == c.name || column == source.name ++ "." ++ c.name

/-- A condition that means one column means it in one source, and no column of another. -/
theorem exists_source_of_meant {sources : List RowSource} {column : String}
    {c : ColumnDescription} (h : meant sources column = [c]) :
    ∃ before source after, sources = before ++ source :: after ∧
      meant [source] column = [c] ∧ meant after column = [] := by
  induction sources with
  | nil => cases h
  | cons source sources ih =>
    have hsplit : meant (source :: sources) column =
        meant [source] column ++ meant sources column := by
      simp [meant]
    rw [hsplit] at h
    rcases List.append_eq_singleton_iff.1 h with ⟨-, hlater⟩ | ⟨hhere, hnone⟩
    · obtain ⟨before, found, after, rfl, hfound, hafter⟩ := ih hlater
      exact ⟨source :: before, found, after, rfl, hfound, hafter⟩
    · exact ⟨[], source, sources, rfl, hhere, hnone⟩

theorem mem_meant_singleton {source : RowSource} {column : String} {c : ColumnDescription} :
    c ∈ meant [source] column ↔
      c ∈ source.columns ∧ (column = c.name ∨ column = source.name ++ "." ++ c.name) := by
  simp [meant]

/-- Within its source, the column that a condition means is the only one of its name. -/
theorem declared?_of_meant {source : RowSource} {column : String} {c : ColumnDescription}
    (h : meant [source] column = [c]) :
    Catalog.declared? source.columns c.name = some c.declared := by
  have hc : c ∈ meant [source] column := by
    rw [h]
    exact List.mem_singleton_self c
  obtain ⟨hmem, hcolumn⟩ := mem_meant_singleton.1 hc
  refine Catalog.declared?_of_mem hmem fun other hother hname => ?_
  have hmeant : other ∈ meant [source] column := by
    rw [mem_meant_singleton, hname]
    exact ⟨hother, hcolumn⟩
  rw [h] at hmeant
  rw [List.mem_singleton.1 hmeant]

/-- A column that is meant by its own name has no namesake in the other sources. -/
theorem declared?_of_meant_nil {sources : List RowSource} {column : String}
    (h : meant sources column = []) :
    Catalog.declared? (sources.flatMap RowSource.columns) column = none := by
  rw [Catalog.declared?_eq_none_iff]
  intro c hc hname
  obtain ⟨source, hsource, hmem⟩ := List.mem_flatMap.1 hc
  have hmeant : c ∈ meant sources column := by
    refine List.mem_flatMap.2 ⟨source, hsource, List.mem_filter.2 ⟨hmem, ?_⟩⟩
    simp [hname]
  rw [h] at hmeant
  cases hmeant

namespace Dialect

variable (d : Dialect) (tables : Tables)

/-- The row sources of a selection and a join after some plans, as a probe reads them. -/
def probedSources (init : List Plan) (s : Selection) (join? : Option Joining) : List RowSource :=
  d.sources (d.scope init {} tables)
    ((AliasSupply.skip (drawsBefore init) {}).resolve s.alias?).1 s.widen join?

/-- A probe of names, or of `*`, shows them and then all columns of the row sources. -/
theorem exists_result_base {c : Chain} {init : List Plan} {last : Plan} {s : Selection}
    (hc : c.plans = init ++ [last]) (hraw : last.raw = none) (hselect : last.select = some s)
    (hitems : s.items = ["*"] ∨ ∀ item ∈ s.items, isStar item = false) :
    ∃ own, d.result tables c.base =
      own ++ (d.probedSources tables init s last.join).flatMap RowSource.columns := by
  have hwiden : last.widen.select = some s.widen := by rw [Plan.widen, hselect]; rfl
  have hraw' : last.widen.raw = none := hraw
  have hcolumns : d.result tables c.base =
      d.listed (d.probedSources tables init s last.join) s.widen.items := by
    rw [d.result_base tables hc, d.columns_of_select _ _ hraw' hwiden, s.alias_widen]
    rfl
  rw [hcolumns]
  rcases s.items_widen with ⟨hwidened, item, hitem, hstar⟩ | ⟨hwidened, -⟩
  · rcases hitems with hitems | hitems
    · rw [hwidened, hitems]
      exact ⟨[], by simp [listed, expand, Selection.isStar_star]⟩
    · rw [hitems item hitem] at hstar
      cases hstar
  · rw [hwidened]
    exact ⟨d.listed (d.probedSources tables init s last.join) s.items,
      by simp [listed, expand, Selection.isStar_star]⟩

end Dialect

theorem Evaluation.describeSources_engine (sql : String) (db : Sql.Database) :
    Sql.Database.engine.describeSources sql db = (describeSources sql db, db) := by
  have hsame := snd_describeSources sql db
  simp only [Sql.Database.engine, Connection.engine, describeSources]
  rcases hanswer : databaseConnection.describeSources sql db with ⟨found, after⟩
  rw [hanswer] at hsame
  exact congrArg (found, ·) hsame

/-- An engine describes the probe of a chain by the columns of its statement. -/
def Describes {ε : Type} (engine : Evaluation.Engine ε) (e : ε) (d : Dialect) (tables : Tables)
    (c : Chain) : Prop :=
  ∀ probe, c.probe = .ok probe →
    ∃ after, engine.describeSources probe e = (.ok (d.result tables c.base), after)

theorem Describes.of_database {db : Sql.Database} {d : Dialect} {tables : Tables} {c : Chain}
    {sql : String} (hprobe : c.probe = .ok sql)
    (h : Evaluation.describeSources sql db = .ok (d.result tables c.base)) :
    Describes Sql.Database.engine db d tables c := by
  intro probe hprobe'
  obtain rfl : sql = probe := Except.ok.inj (hprobe.symm.trans hprobe')
  exact ⟨db, by rw [Evaluation.describeSources_engine, h]⟩

/-- The declared type of the last column in row sources that has the name of a column. -/
def decisive (sources : List RowSource) (c : ColumnDescription) : String :=
  (Catalog.declared? (sources.flatMap RowSource.columns) c.name).getD c.declared

/-- The sources after the one that has the column decide, if one of them has its namesake. -/
theorem declared?_of_sources {before after : List RowSource} {source : RowSource} {column : String}
    {c : ColumnDescription} (h : meant [source] column = [c]) :
    Catalog.declared? ((before ++ source :: after).flatMap RowSource.columns) c.name =
      (Catalog.declared? (after.flatMap RowSource.columns) c.name).or (some c.declared) := by
  rw [List.flatMap_append, List.flatMap_cons, Catalog.declared?_append_catalog,
    Catalog.declared?_append_catalog, declared?_of_meant h]
  cases Catalog.declared? (after.flatMap RowSource.columns) c.name <;> rfl

/-- Which column types the literal of a condition that means just one column. It is the last of
that name in the row sources after the one that has the column, and only otherwise the column
itself; always so if the condition does not say of which source the column is. -/
theorem bind_of_meant {ε : Type} {engine : Evaluation.Engine ε} {e : ε} {d : Dialect}
    {tables : Tables} {c : Chain} {init : List Plan} {last : Plan} {s : Selection}
    {column : String} {col : ColumnDescription} (hdescribes : Describes engine e d tables c)
    (hc : c.plans = init ++ [last]) (hraw : last.raw = none) (hselect : last.select = some s)
    (hitems : s.items = ["*"] ∨ ∀ item ∈ s.items, isStar item = false)
    (hnames : ∀ other ∈ d.result tables c.base, '.' ∉ other.name.toList)
    (hmeant : meant (d.probedSources tables init s last.join) column = [col]) :
    (∀ probe, c.probe = .ok probe → ∃ catalog after,
      engine.describeSources probe e = (.ok catalog, after) ∧
      ∀ literal, Parameter.bind catalog ⟨column, .untyped literal⟩ =
        Parameter.bindAs (decisive (d.probedSources tables init s last.join) col) column literal) ∧
    ∃ before source after,
      d.probedSources tables init s last.join = before ++ source :: after ∧
      col ∈ source.columns ∧ (column = col.name ∨ column = source.name ++ "." ++ col.name) ∧
      decisive (d.probedSources tables init s last.join) col =
        (Catalog.declared? (after.flatMap RowSource.columns) col.name).getD col.declared ∧
      (column = col.name →
        decisive (d.probedSources tables init s last.join) col = col.declared) := by
  obtain ⟨own, hresult⟩ := d.exists_result_base tables hc hraw hselect hitems
  obtain ⟨before, source, after, hsources, hsource, hafter⟩ := exists_source_of_meant hmeant
  have hcol : col ∈ meant [source] column := by
    rw [hsource]
    exact List.mem_singleton_self col
  obtain ⟨hmem, hcolumn⟩ := mem_meant_singleton.1 hcol
  have hfound := @declared?_of_sources before after source column col hsource
  rw [← hsources] at hfound
  have hdecisive : decisive (d.probedSources tables init s last.join) col =
      (Catalog.declared? (after.flatMap RowSource.columns) col.name).getD col.declared := by
    rw [decisive, hfound]
    cases Catalog.declared? (after.flatMap RowSource.columns) col.name <;> rfl
  have hdeclared : Catalog.declared? (d.result tables c.base) col.name =
      some (decisive (d.probedSources tables init s last.join) col) := by
    rw [hresult, Catalog.declared?_append_catalog, hfound, hdecisive]
    cases Catalog.declared? (after.flatMap RowSource.columns) col.name <;> rfl
  have hpoint : '.' ∉ col.name.toList := by
    refine hnames col ?_
    rw [hresult, hsources]
    simp [hmem]
  have hlookup : Catalog.lookup (d.result tables c.base) column =
      some (decisive (d.probedSources tables init s last.join) col) := by
    rcases hcolumn with rfl | rfl
    · rw [Catalog.lookup_plain _ hpoint, hdeclared]
    · rw [Catalog.lookup_qualified hnames _ hpoint, hdeclared]
  refine ⟨fun probe hprobe => ?_, before, source, after, hsources, hmem, hcolumn, hdecisive, ?_⟩
  · obtain ⟨engine', hengine⟩ := hdescribes probe hprobe
    refine ⟨_, engine', hengine, fun literal => ?_⟩
    simp only [Parameter.bind, hlookup]
  · rintro rfl
    rw [hdecisive, declared?_of_meant_nil hafter]
    rfl

/-! ## A shared name -/

section SharedName

/-- A dialect of select lists of names. -/
def plainDialect : Dialect where
  item sources item :=
    ((sources.flatMap RowSource.columns).find? (·.name == item)).getD ⟨item, "NULL"⟩
  raw _ _ := []
  union parts := parts.headD []
  seen := id

/-- The columns of two tables that both have an `id`. -/
def namesakeTables : Tables
  | "a" => [⟨"id", "TEXT"⟩, ⟨"k", "INTEGER"⟩]
  | "b" => [⟨"id", "INTEGER"⟩, ⟨"k", "INTEGER"⟩]
  | _ => []

/-- A database of the two tables. -/
def namesakes : Sql.Database where
  tables := ["a", "b"].map fun table =>
    ⟨"main", table, (namesakeTables table).map fun c => { name := c.name, type? := some c.declared },
      []⟩

/-- What is read of the first table. -/
def namesakeSelection : Selection := { tables := ["a"], alias? := some "a", columns := ["*"] }

/-- The tables joined, with a condition on the `id` of the first. -/
def namesakeJoin : Plan where
  select := some namesakeSelection
  join := some { table := "b", alias? := some "b", how := "INNER",
                 conditions := [⟨"a.k", "=", "b.k"⟩] }
  filter := some ⟨[⟨"a.id", "=", .untyped "x1"⟩]⟩

/-- The probe of the joined tables. -/
def namesakeProbe : String := "SELECT * FROM a AS a INNER JOIN b AS b ON a.k = b.k"

theorem describeSources_namesakes :
    Evaluation.describeSources namesakeProbe namesakes =
      .ok [⟨"id", "TEXT"⟩, ⟨"k", "INTEGER"⟩, ⟨"id", "INTEGER"⟩, ⟨"k", "INTEGER"⟩] := by
  decide +kernel

/-- The literal is typed by the column of the second table. -/
theorem bind_of_meant_namesake :
    ∃ catalog after,
      Sql.Database.engine.describeSources namesakeProbe namesakes = (.ok catalog, after) ∧
      ∀ literal, Parameter.bind catalog ⟨"a.id", .untyped literal⟩ =
        Parameter.bindAs "INTEGER" "a.id" literal := by
  have hdescribes : Describes Sql.Database.engine namesakes plainDialect namesakeTables
      ⟨[namesakeJoin]⟩ := .of_database rfl describeSources_namesakes
  exact (@bind_of_meant _ _ _ _ _ _ [] _ _ "a.id" ⟨"id", "TEXT"⟩ hdescribes rfl rfl rfl (.inl rfl)
    (by decide) (by decide)).1 _ rfl

/-- The condition means the column of the first table, which is a text, and so is its literal; but
the literal is refused, because the column of the second table is a number. -/
theorem bind_of_shared_name :
    meant (plainDialect.probedSources namesakeTables [] namesakeSelection namesakeJoin.join)
        "a.id" = [⟨"id", "TEXT"⟩] ∧
      Parameter.bindAs "TEXT" "a.id" "x1" = .ok (.text "x1") ∧
      Chain.probe ⟨[namesakeJoin]⟩ = .ok namesakeProbe ∧
      ∃ catalog, Evaluation.describeSources namesakeProbe namesakes = .ok catalog ∧
        Parameter.bind catalog ⟨"a.id", .untyped "x1"⟩ =
          .error (.coercion "a.id" "x1" (.whole .invalidDigit)) :=
  ⟨by decide, by decide +kernel, by decide, _, describeSources_namesakes, by decide +kernel⟩

end SharedName

end QueryPipe
