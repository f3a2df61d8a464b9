import Mathlib.Data.List.Induction
import QueryPipe.Proofs.Typing.LiteralTypes

/-!
# Literals and later plans

The literals of a chain are typed by the probe of the whole chain. A plan that is appended takes
the place of the last plan there: its row sources are probed in full, and of the plan before it only
the columns that it hands on are left. A literal keeps its value if its column is handed on and the
new plan shows no other column of the name; one whose column stays behind has no type any more.

* `Dialect.handedOn`: the columns that the last plan of a chain hands on.
* `Kept`: a column is handed on, and the only one of its name.
* `binds_push`: literals of kept columns are bound as before.
* `unbound_push`: a literal of a column that is not handed on.
-/

namespace QueryPipe

/-! ## Parameters -/

namespace Parameter

theorem bindAll_congr {catalog other : Catalog} {params : List Parameter}
    (h : ∀ x ∈ params, x.bind other = x.bind catalog) :
    bindAll other params = bindAll catalog params := by
  induction params with
  | nil => rfl
  | cons x params ih =>
    have hx : x.bind other = x.bind catalog := h x List.mem_cons_self
    rw [bindAll, bindAll, hx, ih fun y hy => h y (List.mem_cons_of_mem x hy)]

theorem bindAll_cons_eq_ok_iff {catalog : Catalog} {x : Parameter} {params : List Parameter}
    {values : List Bound} :
    bindAll catalog (x :: params) = .ok values ↔
      ∃ value rest, x.bind catalog = .ok value ∧ bindAll catalog params = .ok rest ∧
        values = value :: rest := by
  cases hx : x.bind catalog with
  | error fault => simp [bindAll, hx]
  | ok value =>
    cases hrest : bindAll catalog params with
    | error fault => simp [bindAll, hx, hrest, Except.map]
    | ok rest => simp [bindAll, hx, hrest, Except.map, eq_comm]

theorem bindAll_append {catalog : Catalog} {params more : List Parameter} {values : List Bound}
    (h : bindAll catalog params = .ok values) :
    bindAll catalog (params ++ more) = (bindAll catalog more).map (values ++ ·) := by
  induction params generalizing values with
  | nil =>
    cases h
    cases hmore : bindAll catalog more <;> simp [hmore, Except.map]
  | cons x params ih =>
    obtain ⟨value, rest, hx, hrest, rfl⟩ := bindAll_cons_eq_ok_iff.1 h
    rw [List.cons_append, bindAll_cons _ _ _ _ hx, ih hrest]
    cases bindAll catalog more <;> rfl

/-- An untyped parameter that is bound has a column with a declared type. -/
theorem exists_lookup_of_bindAll {catalog : Catalog} {params : List Parameter}
    {values : List Bound} (h : bindAll catalog params = .ok values) {x : Parameter}
    (hx : x ∈ params) {literal : String} (hvalue : x.value = .untyped literal) :
    ∃ declared, catalog.lookup x.column = some declared := by
  induction params generalizing values with
  | nil => cases hx
  | cons y params ih =>
    obtain ⟨value, rest, hy, hrest, rfl⟩ := bindAll_cons_eq_ok_iff.1 h
    rcases List.mem_cons.1 hx with rfl | hx
    · cases hlookup : catalog.lookup x.column with
      | some declared => exact ⟨declared, rfl⟩
      | none => simp [bind, hvalue, hlookup] at hy
    · exact ih hrest hx

end Parameter

/-! ## Appending a plan -/

/-- A chain with one more selection is rendered if the chain is, with its parameters in front. -/
theorem Chain.exists_render_push {c : Chain} {supply : AliasSupply} {query : Query} {q : Plan}
    {s : Selection} (h : (c.render supply).1 = .ok query) (hraw : q.raw = none)
    (hselect : q.select = some s) (htables : s.tables ≠ []) (supply' : AliasSupply) :
    ∃ text, ((c.push q).render supply').1 = .ok ⟨text, query.params ++ q.params⟩ := by
  obtain ⟨-, hreadable⟩ := (c.render_isOk_iff supply).1 ⟨_, h⟩
  have hreadable' : ∀ p ∈ (c.push q).plans, p.IsReadable := by
    intro p hp
    rcases List.mem_append.1 hp with hp | hp
    · exact hreadable p hp
    · rw [List.mem_singleton.1 hp]
      exact .inr ⟨s, hselect, htables⟩
  have hne : (c.push q).plans ≠ [] := by simp [push]
  obtain ⟨pushed, hpushed⟩ := ((c.push q).render_isOk_iff supply').2 ⟨hne, hreadable'⟩
  refine ⟨pushed.text, ?_⟩
  have hparams : pushed.params = query.params ++ q.params := by
    rw [params_of_render hpushed, params_of_render h, push, List.filter_append, List.flatMap_append]
    simp [hraw]
  rw [hpushed, ← hparams]

/-- The stage that is named last is that of the plan before the last. -/
theorem getLast?_stageNames (init : List Plan) (last q : Plan) (supply : AliasSupply) :
    (stageNames (init ++ [last] ++ [q]) supply).getLast? =
      some ((supply.skip (drawsBefore init)).resolve last.alias?).1 := by
  have hlength : (stageNames (init ++ [last] ++ [q]) supply).length = init.length + 1 := by
    simp [stageNames]
  rw [List.getLast?_eq_getElem?, hlength, Nat.add_sub_cancel, getElem?_stageNames,
    List.dropLast_concat]
  simp

/-! ## What is handed on -/

namespace Dialect

variable (d : Dialect) (tables : Tables)

/-- The columns that the last plan of a chain hands on, as the plans after it see them. -/
def handedOn (c : Chain) : Catalog :=
  match c.last? with
  | none => []
  | some p =>
    d.seen (d.columns (d.scope c.plans.dropLast {} tables)
      ((AliasSupply.skip (drawsBefore c.plans.dropLast) {}).resolve p.alias?).2 p)

/-- The row sources of a selection and a join after a chain. -/
def laterSources (c : Chain) (s : Selection) (join? : Option Joining) : List RowSource :=
  d.sources (d.scope c.plans {} tables)
    ((AliasSupply.skip (drawsBefore c.plans) {}).resolve s.alias?).1 s join?

/-- The columns that a selection and a join after a chain show besides those of the stage they
select from: their own items, and the columns of the table that is joined. -/
def besides (c : Chain) (s : Selection) (join? : Option Joining) : Catalog :=
  (s.items.filter (!isStar ·)).map (d.item (d.laterSources tables c s join?)) ++
    (d.laterSources tables c s join?).tail.flatMap RowSource.columns

/-- The stage of the last plan is read as what that hands on. -/
theorem scope_handedOn {c : Chain} {init : List Plan} {last : Plan}
    (hc : c.plans = init ++ [last]) :
    d.scope c.plans {} tables
      ((AliasSupply.skip (drawsBefore init) {}).resolve last.alias?).1 = d.handedOn tables c := by
  have hlast : c.last? = some last := by rw [Chain.last?, hc, List.getLast?_concat]
  have hinit : c.plans.dropLast = init := by rw [hc, List.dropLast_concat]
  rw [handedOn, hlast, hinit, hc, d.scope_append, withStage, if_pos rfl]

variable {d tables}

section Listed

variable {source : RowSource} {joined : List RowSource} {items : List String}
  {column declared : String}

/-- A select list shows columns of the first source, and others that are declared alike if the
items and the joined sources have only such. -/
theorem mem_listed_cases
    (hitems : ∀ item ∈ items, isStar item = false →
      (d.item (source :: joined) item).IsNamed column →
      (d.item (source :: joined) item).declared = declared)
    (hjoined : ∀ c ∈ joined.flatMap RowSource.columns, c.IsNamed column → c.declared = declared)
    {c : ColumnDescription} (hc : c ∈ d.listed (source :: joined) items) :
    c ∈ source.columns ∨ (c.IsNamed column → c.declared = declared) := by
  obtain ⟨item, hitem, hc⟩ := List.mem_flatMap.1 hc
  cases hstar : isStar item with
  | true =>
    simp only [expand, hstar, if_true, List.flatMap_cons, List.mem_append] at hc
    rcases hc with hc | hc
    · exact .inl hc
    · exact .inr (hjoined c hc)
  | false =>
    simp only [expand, hstar, Bool.false_eq_true, if_false, List.mem_singleton] at hc
    rw [hc]
    exact .inr (hitems item hitem hstar)

/-- A lookup in the columns of the first source stays as it is in a select list with `*`, if the
list shows no other column of the name. -/
theorem lookup_listed (hstar : ∃ item ∈ items, isStar item = true)
    (hlookup : Catalog.lookup source.columns column = some declared)
    (hitems : ∀ item ∈ items, isStar item = false →
      (d.item (source :: joined) item).IsNamed column →
      (d.item (source :: joined) item).declared = declared)
    (hjoined : ∀ c ∈ joined.flatMap RowSource.columns, c.IsNamed column → c.declared = declared) :
    Catalog.lookup (d.listed (source :: joined) items) column = some declared := by
  -- The last item decides: if it is `*`, what is in front of it is the source's or declared alike.
  induction items using List.reverseRecOn with
  | nil =>
    obtain ⟨item, hitem, -⟩ := hstar
    cases hitem
  | append_singleton items item ih =>
    have hfront : ∀ item ∈ items, isStar item = false →
        (d.item (source :: joined) item).IsNamed column →
        (d.item (source :: joined) item).declared = declared :=
      fun item hitem => hitems item (List.mem_append_left _ hitem)
    have hlist : d.listed (source :: joined) (items ++ [item]) =
        d.listed (source :: joined) items ++ d.expand (source :: joined) item := by
      simp [listed]
    rw [hlist]
    cases hitem : isStar item with
    | true =>
      have hexpand : d.expand (source :: joined) item =
          source.columns ++ joined.flatMap RowSource.columns := by
        simp [expand, hitem]
      rw [hexpand, ← List.append_assoc]
      exact Catalog.lookup_of_middle hlookup (fun c hc => mem_listed_cases hfront hjoined hc) hjoined
    | false =>
      have hexpand : d.expand (source :: joined) item = [d.item (source :: joined) item] := by
        simp [expand, hitem]
      have hstar' : ∃ item ∈ items, isStar item = true := by
        obtain ⟨other, hother, htrue⟩ := hstar
        rcases List.mem_append.1 hother with hother | hother
        · exact ⟨other, hother, htrue⟩
        · rw [List.mem_singleton.1 hother, hitem] at htrue
          cases htrue
      rw [hexpand, ← List.nil_append (d.listed (source :: joined) items)]
      refine Catalog.lookup_of_middle (ih hstar' hfront) (by simp) fun c hc => ?_
      rw [List.mem_singleton.1 hc]
      exact hitems item (by simp) hitem

end Listed

end Dialect

/-- A column is handed on by the last plan of a chain as it is declared in the probe of the chain,
and a later plan shows no other of its name but columns that are declared alike. -/
structure Kept (d : Dialect) (tables : Tables) (c : Chain) (s : Selection)
    (join? : Option Joining) (column : String) : Prop where
  /-- The column is handed on. -/
  handed : (d.handedOn tables c).lookup column = (d.result tables c.base).lookup column
  /-- It is the only one of its name. -/
  alone : ∀ other ∈ d.besides tables c s join?, other.IsNamed column →
    (d.result tables c.base).lookup column = some other.declared

/-- The probe of a chain with one more plan shows a column that is kept as the chain's own probe
does. -/
theorem Kept.lookup_push {d : Dialect} {tables : Tables} {c : Chain} {init : List Plan}
    {last q : Plan} {s : Selection} {column declared : String}
    (h : Kept d tables c s q.join column) (hc : c.plans = init ++ [last]) (hraw : q.raw = none)
    (hselect : q.select = some s)
    (htables : s.tables = [((AliasSupply.skip (drawsBefore init) {}).resolve last.alias?).1])
    (hlookup : (d.result tables c.base).lookup column = some declared) :
    (d.result tables (c.push q).base).lookup column = some declared := by
  have hwiden : q.widen.select = some s.widen := by rw [Plan.widen, hselect]; rfl
  have hraw' : q.widen.raw = none := hraw
  have hsources : d.sources (d.scope c.plans {} tables)
      ((AliasSupply.skip (drawsBefore c.plans) {}).resolve s.widen.alias?).1 s.widen q.join =
        d.laterSources tables c s q.join := by
    simp only [Dialect.laterSources, Dialect.sources, Dialect.tableColumns, s.tables_widen,
      s.alias_widen, htables]
  obtain ⟨source, joined, hlater, hsource⟩ : ∃ source joined,
      d.laterSources tables c s q.join = source :: joined ∧
        source.columns = d.handedOn tables c := by
    refine ⟨_, _, rfl, ?_⟩
    simp only [Dialect.tableColumns, htables]
    exact d.scope_handedOn tables hc
  have hbesides := h.alone
  rw [Dialect.besides, hlater, List.tail_cons] at hbesides
  rw [d.result_base tables (rfl : (c.push q).plans = c.plans ++ [q]),
    d.columns_of_select _ _ hraw' hwiden, show q.widen.join = q.join from rfl, hsources, hlater]
  refine Dialect.lookup_listed s.exists_isStar_widen ?_ ?_ ?_
  · rw [hsource, h.handed, hlookup]
  · intro item hitem hplain hnamed
    have hmem : item ∈ s.items := Selection.mem_items_of_mem_widen hitem hplain
    have hdeclared := hbesides _ (List.mem_append_left _ (List.mem_map_of_mem
      (List.mem_filter.2 ⟨hmem, by simp [hplain]⟩))) hnamed
    rw [hlookup] at hdeclared
    exact (Option.some.inj hdeclared).symm
  · intro other hother hnamed
    have hdeclared := hbesides other (List.mem_append_right _ hother) hnamed
    rw [hlookup] at hdeclared
    exact (Option.some.inj hdeclared).symm

/-! ## Binding -/

section Binding

open Evaluation (Engine)

variable {ε : Type}

/-- The parameters of a chain have values: the chain is rendered and probed, the engine describes
the probe, and every parameter is bound by the columns of that. -/
structure Binds (engine : Engine ε) (e : ε) (supply : AliasSupply) (c : Chain)
    (params : List Parameter) (values : List Bound) : Prop where
  /-- The chain is rendered with these parameters. -/
  rendered : ∃ text, (c.render supply).1 = .ok ⟨text, params⟩
  /-- They are bound to these values. -/
  bound : ∃ probe catalog after, c.probe = .ok probe ∧
    engine.describeSources probe e = (.ok catalog, after) ∧
    Parameter.bindAll catalog params = .ok values

theorem exists_eq_append_of_render {c : Chain} {supply : AliasSupply} {query : Query}
    (h : (c.render supply).1 = .ok query) : ∃ init last, c.plans = init ++ [last] := by
  obtain ⟨hne, -⟩ := (c.render_isOk_iff supply).1 ⟨_, h⟩
  rcases List.eq_nil_or_concat c.plans with hnil | ⟨init, last, hc⟩
  · exact absurd hnil hne
  · exact ⟨init, last, by rw [hc, List.concat_eq_append]⟩

/-- A later plan that selects from the last stage of a chain leaves the literals of the chain as
they are, if their columns are kept. The chain with it is rendered and probed, its parameters are
those of the chain and then those of the plan, the former have the values they had, and all are
bound if and only if those of the plan are. -/
theorem binds_push {engine : Engine ε} {e : ε} {supply : AliasSupply} {d : Dialect}
    {tables : Tables} {c : Chain} {q : Plan} {s : Selection} {name : String}
    {params : List Parameter} {values : List Bound}
    (hbinds : Binds engine e supply c params values)
    (hdescribes : Describes engine e d tables c)
    (hdescribes' : Describes engine e d tables (c.push q)) (hraw : q.raw = none)
    (hselect : q.select = some s) (htables : s.tables = [name])
    (hname : (stageNames (c.push q).plans {}).getLast? = some name)
    (hkept : ∀ x ∈ params, ∀ literal, x.value = .untyped literal →
      Kept d tables c s q.join x.column) :
    ∃ text probe catalog after, ((c.push q).render supply).1 = .ok ⟨text, params ++ q.params⟩ ∧
      (c.push q).probe = .ok probe ∧ engine.describeSources probe e = (.ok catalog, after) ∧
      Parameter.bindAll catalog params = .ok values ∧
      Parameter.bindAll catalog (params ++ q.params) =
        (Parameter.bindAll catalog q.params).map (values ++ ·) := by
  obtain ⟨⟨text, hrender⟩, probe, catalog, after, hprobe, hcatalog, hbound⟩ := hbinds
  obtain ⟨init, last, hc⟩ := exists_eq_append_of_render hrender
  have hnonempty : s.tables ≠ [] := by simp [htables]
  obtain ⟨text', hpushed⟩ := Chain.exists_render_push hrender hraw hselect hnonempty supply
  obtain ⟨fresh, hfresh⟩ := Chain.exists_render_push hrender hraw hselect hnonempty {}
  obtain ⟨names, -, -, -, -, hprobe'⟩ := Chain.probe_eq_write hfresh
  obtain ⟨engine', hreported⟩ := hdescribes probe hprobe
  obtain ⟨engine'', hreported'⟩ := hdescribes' _ hprobe'
  obtain rfl : catalog = d.result tables c.base :=
    Except.ok.inj (congrArg Prod.fst (hcatalog.symm.trans hreported))
  have hstage : s.tables = [((AliasSupply.skip (drawsBefore init) {}).resolve last.alias?).1] := by
    have hplans : (c.push q).plans = init ++ [last] ++ [q] := by rw [Chain.push, hc]
    rw [hplans, getLast?_stageNames] at hname
    rw [htables, Option.some.inj hname]
  have hsame : ∀ x ∈ params,
      x.bind (d.result tables (c.push q).base) = x.bind (d.result tables c.base) := by
    intro x hx
    cases hvalue : x.value with
    | whole n => simp only [Parameter.bind, hvalue]
    | text t => simp only [Parameter.bind, hvalue]
    | untyped literal =>
      obtain ⟨declared, hlookup⟩ := Parameter.exists_lookup_of_bindAll hbound hx hvalue
      have hlookup' := (hkept x hx literal hvalue).lookup_push hc hraw hselect hstage hlookup
      simp only [Parameter.bind, hvalue, hlookup, hlookup']
  have hbound' : Parameter.bindAll (d.result tables (c.push q).base) params = .ok values := by
    rw [Parameter.bindAll_congr hsame, hbound]
  exact ⟨text', _, _, engine'', hpushed, hprobe', hreported', hbound',
    Parameter.bindAll_append hbound'⟩

end Binding

/-! ## A column that is kept and one that is not -/

section People

/-- The columns of a table of people. -/
def peopleTables : Tables
  | "people" => [⟨"id", "INTEGER"⟩, ⟨"age", "INTEGER"⟩]
  | _ => []

/-- A database of people. -/
def people : Sql.Database where
  tables := [⟨"main", "people",
    (peopleTables "people").map fun c => { name := c.name, type? := some c.declared }, []⟩]

theorem describeSources_people :
    Evaluation.describeSources "SELECT age, id, * FROM people AS t1" people =
        .ok [⟨"age", "INTEGER"⟩, ⟨"id", "INTEGER"⟩, ⟨"id", "INTEGER"⟩, ⟨"age", "INTEGER"⟩] ∧
      Evaluation.describeSources
          "WITH t1 AS (SELECT age, id FROM people AS t2) SELECT * FROM t1 AS t3" people =
        .ok [⟨"age", "INTEGER"⟩, ⟨"id", "INTEGER"⟩] := by
  decide +kernel

/-- The people of an age, with the given columns. -/
def aged (columns : List String) : Plan where
  select := some { tables := ["people"], columns }
  filter := some ⟨[⟨"age", "=", .untyped "42"⟩]⟩

/-- All of the first stage whose `id` is a number. -/
def numbered : Plan where
  select := some (.allOf "t1")
  filter := some ⟨[⟨"id", "=", .untyped "7"⟩]⟩

/-- A literal whose column is in the select list of its plan keeps its value. -/
theorem binds_push_people :
    Binds Sql.Database.engine people {} ⟨[aged ["age", "id"]]⟩ [⟨"age", .untyped "42"⟩]
        [.whole 42] ∧
      ∃ text probe catalog after,
        ((Chain.push ⟨[aged ["age", "id"]]⟩ numbered).render {}).1 =
          .ok ⟨text, [⟨"age", .untyped "42"⟩, ⟨"id", .untyped "7"⟩]⟩ ∧
        (Chain.push ⟨[aged ["age", "id"]]⟩ numbered).probe = .ok probe ∧
        Sql.Database.engine.describeSources probe people = (.ok catalog, after) ∧
        Parameter.bindAll catalog [⟨"age", .untyped "42"⟩] = .ok [.whole 42] := by
  have hbinds : Binds Sql.Database.engine people {} ⟨[aged ["age", "id"]]⟩
      [⟨"age", .untyped "42"⟩] [.whole 42] :=
    ⟨⟨_, rfl⟩, "SELECT age, id, * FROM people AS t1", _, people, rfl,
      by rw [Evaluation.describeSources_engine, describeSources_people.1], by decide +kernel⟩
  have hdescribes : Describes Sql.Database.engine people plainDialect peopleTables
      ⟨[aged ["age", "id"]]⟩ := .of_database rfl describeSources_people.1
  have hdescribes' : Describes Sql.Database.engine people plainDialect peopleTables
      (Chain.push ⟨[aged ["age", "id"]]⟩ numbered) := .of_database rfl describeSources_people.2
  have hname : (stageNames (Chain.push ⟨[aged ["age", "id"]]⟩ numbered).plans {}).getLast? =
      some "t1" := by decide
  have hkept : ∀ x ∈ [(⟨"age", .untyped "42"⟩ : Parameter)], ∀ literal,
      x.value = .untyped literal →
      Kept plainDialect peopleTables ⟨[aged ["age", "id"]]⟩ (.allOf "t1") none x.column := by
    intro x hx _ _
    rw [List.mem_singleton.1 hx]
    exact ⟨by decide, by decide⟩
  obtain ⟨text, probe, catalog, after, hrender, hprobe, hcatalog, hbound, -⟩ :=
    binds_push hbinds hdescribes hdescribes' rfl rfl rfl hname hkept
  exact ⟨hbinds, text, probe, catalog, after, hrender, hprobe, hcatalog, hbound⟩

/-- The literal of a column that stays behind has a value in its own chain, and none when a plan
follows that selects everything from the stage. -/
theorem unbound_push :
    Binds Sql.Database.engine people {} ⟨[aged ["id"]]⟩ [⟨"age", .untyped "42"⟩] [.whole 42] ∧
      (stageNames (Chain.push ⟨[aged ["id"]]⟩ { select := some (.allOf "t1") }).plans {}).getLast? =
        some "t1" ∧
      ∃ text probe catalog,
        ((Chain.push ⟨[aged ["id"]]⟩ { select := some (.allOf "t1") }).render {}).1 =
          .ok ⟨text, [⟨"age", .untyped "42"⟩]⟩ ∧
        (Chain.push ⟨[aged ["id"]]⟩ { select := some (.allOf "t1") }).probe = .ok probe ∧
        Evaluation.describeSources probe people = .ok catalog ∧
        Parameter.bindAll catalog [⟨"age", .untyped "42"⟩] = .error (.unknownColumn "age") := by
  have hcolumns : Evaluation.describeSources "SELECT id, * FROM people AS t1" people =
      .ok [⟨"id", "INTEGER"⟩, ⟨"id", "INTEGER"⟩, ⟨"age", "INTEGER"⟩] := by
    decide +kernel
  have hbinds : Binds Sql.Database.engine people {} ⟨[aged ["id"]]⟩ [⟨"age", .untyped "42"⟩]
      [.whole 42] :=
    ⟨⟨_, rfl⟩, "SELECT id, * FROM people AS t1", _, people, rfl,
      by rw [Evaluation.describeSources_engine, hcolumns], by decide +kernel⟩
  have hstage : Evaluation.describeSources
      "WITH t1 AS (SELECT id FROM people AS t2) SELECT * FROM t1 AS t3" people =
        .ok [⟨"id", "INTEGER"⟩] := by
    decide +kernel
  exact ⟨hbinds, by decide, _, _, _, rfl, rfl, hstage, by decide +kernel⟩

end People

end QueryPipe
