import QueryPipe.Sql.Resolution

/-!
# Databases

A database holds tables and views in two schemas: the main one, and one for what is temporary,
which is looked at first. A statement asks it for rows or makes a changed database; one that is
refused changes nothing.

There is less to it than to an embedded database. It has no transactions, no settings, no indexes or
triggers, and no rules for columns but those that say which values may be missing or stand twice.
Texts are ordered by their characters; a table has no order of its own for them.
-/

namespace QueryPipe.Sql

/-- A name for a relation. -/
structure View where
  /-- The schema it is in. -/
  schema : String
  /-- The name. -/
  name : String
  /-- The names of its columns, if they are given. -/
  names? : Option (List String)
  /-- The relation. -/
  definition : Question
  deriving Inhabited

/-- A database. -/
structure Database where
  /-- The tables. -/
  tables : List Table := []
  /-- The views. -/
  views : List View := []
  /-- Whether the main schema can be changed. -/
  writable : Bool := true
  /-- Whether the file of the main schema holds something else, which is found out as soon as a
  table is looked for. -/
  foreign : Bool := false
  deriving Inhabited

/-- The schema that lasts. -/
def mainSchema : String := "main"

/-- The schema of what is temporary. -/
def temporarySchema : String := "temp"

/-- The schemas in the order in which they are looked at. -/
def schemas : List String := [temporarySchema, mainSchema]

namespace Database

/-! ## Finding -/

/-- The schemas that a name can be in. -/
def searched (name : TableName) : List String :=
  match name.schema? with
  | none => schemas
  | some s => schemas.filter (Text.sameWord s)

/-- The table of a name. -/
def table? (db : Database) (name : TableName) : Option Table :=
  (searched name).findSome? fun s =>
    db.tables.find? fun t => t.schema == s && Text.sameWord t.name name.name

/-- The view of a name. -/
def view? (db : Database) (name : TableName) : Option View :=
  (searched name).findSome? fun s =>
    db.views.find? fun v => v.schema == s && Text.sameWord v.name name.name

/-- Refuses to look for tables where there is no database. -/
def accessible (db : Database) : Except Problem Unit :=
  if db.foreign then .error .notDatabase else .ok ()

/-- Whether nothing lasts of a database. -/
def isEmpty (db : Database) : Bool :=
  !(db.tables.any fun t => t.schema == mainSchema) &&
    !(db.views.any fun v => v.schema == mainSchema)

/-- What lasts of a database. -/
def lasting (db : Database) : Database :=
  { db with
    tables := db.tables.filter fun t => t.schema == mainSchema
    views := db.views.filter fun v => v.schema == mainSchema }

/-- What a name stands for in the relation it is around. -/
structure Definition where
  /-- The name. -/
  name : String
  /-- The names of its columns, if they are given. -/
  names? : Option (List String)
  /-- The relation. -/
  relation : Question
  /-- Whether the relation is being looked at, so that the name cannot stand in it. -/
  busy : Bool := false

/-- The definitions at the front of a relation, and the relation after them. -/
def definitionsOf : Question → List Definition × Question
  | .within name names? definition body =>
    let (more, inner) := definitionsOf body
    (⟨name, names?, definition, false⟩ :: more, inner)
  | r => ([], r)

/-- The definition of a name in the nearest relation that has one, and the definitions that count
inside it. -/
def defined? (name : String) :
    List (List Definition) → Option (Definition × List (List Definition))
  | [] => none
  | frame :: outer =>
    match frame.find? fun d => Text.sameWord d.name name with
    | some d =>
      let frame := frame.map fun e =>
        if Text.sameWord e.name name then { e with busy := true } else e
      some (d, frame :: outer)
    | none => defined? name outer

/-- A relation under the names of its columns, if they are given. -/
def underNames (table : String) (names? : Option (List String)) (r : Relation Table) :
    Relation Table :=
  match names? with
  | some names => .named table (.renamed table names r)
  | none => .named table r

/-- A relation with its tables found. Of combined relations the last is looked at first. The fuel
bounds how deep relations stand in each other. -/
def bound (db : Database) : Nat → List (List Definition) → Question →
    Except Problem (Relation Table)
  | 0, _, _ => .error .incomplete
  | fuel + 1, frames, r =>
    match r with
    | .unit => .ok .unit
    | .values rows => .ok (.values rows)
    | .named name r => (bound db fuel frames r).map (.named name)
    | .renamed table names r => (bound db fuel frames r).map (.renamed table names)
    | .join kind tie left right => do
      let l ← bound db fuel frames left
      let r ← bound db fuel frames right
      return .join kind tie l r
    | .select distinct columns source condition? groups having? order => do
      let s ← bound db fuel frames source
      return .select distinct columns s condition? groups having? order
    | .combine how left right => do
      let r ← bound db fuel frames right
      let l ← bound db fuel frames left
      return .combine how l r
    | .sorted order r => (bound db fuel frames r).map (.sorted order)
    | .limited limit offset? r => (bound db fuel frames r).map (.limited limit offset?)
    | .within name names? definition body =>
      let (found, inner) := definitionsOf (.within name names? definition body)
      bound db fuel (found :: frames) inner
    | .table name =>
      match if name.schema?.isNone then defined? name.name frames else none with
      | some (d, inside) =>
        if d.busy then .error (.circular d.name)
        else (bound db fuel inside d.relation).map (underNames d.name d.names?)
      | none => do
        db.accessible
        match db.table? name, db.view? name with
        | some t, _ => return .table t
        | none, some v => (bound db fuel [] v.definition).map (underNames v.name v.names?)
        | none, none => throw (.noTable name.text)

/-- How deep relations can stand in each other. -/
def depth : Nat := 100000

/-- What a relation comes to in a database under parameters. -/
def extent (db : Database) (params : List Value) (r : Question) : Except Problem Extent := do
  let found ← db.bound depth [] r
  found.extent params

/-! ## Making tables and views -/

/-- The greatest number of columns of a table. -/
def greatestWidth : Nat := 2000

/-- The schema of something new. -/
def schemaOf (n : NewTable) : Except Problem String :=
  match n.name.schema? with
  | none => .ok (if n.temporary then temporarySchema else mainSchema)
  | some s =>
    match schemas.find? (Text.sameWord s) with
    | none => .error (.noSchema s)
    | some schema =>
      if n.temporary && schema != temporarySchema then .error .schemaOfTemporary else .ok schema

/-- What is refused in columns, of which some come before. -/
def refusedColumns (table : String) : List String → List ColumnDefinition → Except Problem Unit
  | _, [] => .ok ()
  | seen, c :: rest =>
    if greatestWidth ≤ seen.length then .error (.tooManyColumns table)
    else if seen.any (Text.sameWord c.name) then .error (.duplicateColumn c.name)
    else refusedColumns table (c.name :: seen) rest

/-- The place for something new: its schema, or nothing where an old one may stay. -/
def placeFor (db : Database) (n : NewTable) : Except Problem (Option String) := do
  db.accessible
  let schema ← schemaOf n
  if Text.startsWith "sqlite_" n.name.name.toLower then throw (.reserved n.name.name)
  let here : TableName := ⟨some schema, n.name.name⟩
  match db.table? here, db.view? here with
  | none, none =>
    if schema == mainSchema && !db.writable then throw .readOnly else return some schema
  | some _, _ => if n.ifAbsent then return none else throw (.exists "table" n.written)
  | none, some _ => if n.ifAbsent then return none else throw (.exists "view" n.written)

/-- A column as its definition has it. -/
def columnOf (c : ColumnDefinition) : Except Problem TableColumn := do
  let default? ←
    match c.default? with
    | none => pure none
    | some t => do
      let f ← ({ fields := [] : Scope }).resolve t
      (f.value [] [] []).map some
  return {
    name := c.name
    type? := c.type?
    isNumber := c.key && (c.type?.getD "").toUpper == "INTEGER"
    key := c.key
    required := c.required
    unique := c.unique || c.key
    default? }

/-- The database with a new table. -/
def createTable (db : Database) (n : NewTable) (columns : List ColumnDefinition) :
    Except Problem Database := do
  match ← db.placeFor n with
  | none => return db
  | some schema =>
    refusedColumns n.name.name [] columns
    let columns ← columns.mapM columnOf
    return { db with tables := db.tables ++ [⟨schema, n.name.name, columns, []⟩] }

/-- The word for an affinity as a declared type. -/
def typeWord? : Option Affinity → Option String
  | some .integer => some "INT"
  | some .real => some "REAL"
  | some .text => some "TEXT"
  | some .numeric => some "NUM"
  | some .blob | none => none

/-- Rows under numbers from a first one. -/
def numbered : Int → List Record → List StoredRow
  | _, [] => []
  | n, cells :: rest => ⟨Int64.ofInt n, cells⟩ :: numbered (n + 1) rest

/-- The database with a new table of the rows of a relation. -/
def createTableAs (db : Database) (n : NewTable) (params : List Value) (r : Question) :
    Except Problem Database := do
  match ← db.placeFor n with
  | none => return db
  | some schema =>
    let e ← db.extent params r
    let rows ← e.rows
    let columns := (enclosed e.fields).map fun f =>
      ({ name := f.column.name, type? := typeWord? f.column.affinity? } : TableColumn)
    let stored := rows.map fun row => List.zipWith (fun c v => Value.store c.affinity v) columns row
    let t : Table := ⟨schema, n.name.name, columns, numbered 1 stored⟩
    return { db with tables := db.tables ++ [t] }

/-- The database with a new view. -/
def createView (db : Database) (n : NewTable) (names? : Option (List String)) (r : Question) :
    Except Problem Database := do
  match ← db.placeFor n with
  | none => return db
  | some schema => return { db with views := db.views ++ [⟨schema, n.name.name, names?, r⟩] }

/-- Whether two tables or views are the same. -/
def isThe (schema name schema' name' : String) : Bool := schema == schema' && name == name'

/-- The database without a table or a view. -/
def drop (db : Database) (view ifPresent : Bool) (name : TableName) :
    Except Problem Database := do
  db.accessible
  match db.table? name, db.view? name with
  | some t, _ =>
    if view then throw (.dropKind "TABLE" t.name)
    if t.schema == mainSchema && !db.writable then throw .readOnly
    return { db with tables := db.tables.filter fun u => !isThe u.schema u.name t.schema t.name }
  | none, some v =>
    if !view then throw (.dropKind "VIEW" v.name)
    if v.schema == mainSchema && !db.writable then throw .readOnly
    return { db with views := db.views.filter fun u => !isThe u.schema u.name v.schema v.name }
  | none, none =>
    if ifPresent then return db
    throw (if view then .noView name.text else .noTable name.text)

/-! ## Changing rows -/

/-- The table of a name, which must be one that can be changed. -/
def changeable (db : Database) (name : TableName) : Except Problem Table := do
  db.accessible
  match db.table? name, db.view? name with
  | some t, _ => if t.schema == mainSchema && !db.writable then throw .readOnly else return t
  | none, some v => throw (.viewChanged v.name)
  | none, none => throw (.noTable name.text)

/-- The database with other rows in a table. -/
def withRows (db : Database) (t : Table) (rows : List StoredRow) : Database :=
  { db with
    tables := db.tables.map fun u =>
      if isThe u.schema u.name t.schema t.name then { u with rows } else u }

/-- The number after the greatest of some rows. -/
def nextNumber (rows : List StoredRow) : Int :=
  rows.foldl (fun n r => max n (r.number.toInt + 1)) 1

/-- The number that a row brings with it, if it does. -/
def ownNumber? : List TableColumn → Record → Except Problem (Option Int64)
  | c :: cs, v :: vs =>
    if c.isNumber then
      match v with
      | .null => .ok none
      | .whole n => .ok (some n)
      | _ => .error .mismatch
    else ownNumber? cs vs
  | _, _ => .ok none

/-- A row with its number in the column that holds it. -/
def withNumber (n : Int64) (columns : List TableColumn) (cells : Record) : Record :=
  List.zipWith (fun c v => if c.isNumber then .whole n else v) columns cells

/-- What is refused in a row beside other rows; `index` columns come before. -/
def refusedCells (table : String) (others : List StoredRow) :
    Nat → List TableColumn → Record → Except Problem Unit
  | index, c :: cs, v :: vs =>
    let column := table ++ "." ++ c.name
    if c.required && v.isNull then .error (.missingValue column)
    else if c.unique && !v.isNull &&
        others.any (fun r => Value.order (r.cells[index]?.getD .null) v == .eq) then
      .error (.notUnique column c.key)
    else refusedCells table others (index + 1) cs vs
  | _, _, _ => .ok ()

/-- Rows with one more, at the place of its number. -/
def placed (rows : List StoredRow) (r : StoredRow) : List StoredRow :=
  match rows.getLast? with
  | none => [r]
  | some last =>
    if last.number < r.number then rows ++ [r]
    else rows.takeWhile (·.number < r.number) ++ r :: rows.dropWhile (·.number < r.number)

/-- Rows with one more that holds these values. -/
def addRow (t : Table) (rows : List StoredRow) (cells : Record) :
    Except Problem (List StoredRow) := do
  let stored := List.zipWith (fun c v => Value.store c.affinity v) t.columns cells
  let n := (← ownNumber? t.columns stored).getD (Int64.ofInt (nextNumber rows))
  let stored := withNumber n t.columns stored
  refusedCells t.name rows 0 t.columns stored
  return placed rows ⟨n, stored⟩

/-- The places of columns by their names. -/
def columnPlaces (t : Table) (names : List String) : Except Problem (List Nat) :=
  names.mapM fun name =>
    match t.columns.findIdx? fun c => Text.sameWord c.name name with
    | some i => .ok i
    | none => .error (.noColumnOf t.name name)

/-- A whole row from values for some columns; the others have what stands in them by default. -/
def spread (t : Table) (places : List Nat) (vs : List Value) : Record :=
  t.columns.mapIdx fun i c =>
    match places.idxOf? i with
    | some k => vs[k]?.getD .null
    | none => c.default?.getD .null

/-- The database with more rows in a table. -/
def insert (db : Database) (params : List Value) (name : TableName) (names : List String)
    (r? : Option Question) : Except Problem Database := do
  let t ← db.changeable name
  let places ← if names.isEmpty then pure (List.range t.columns.length) else columnPlaces t names
  match r? with
  | none => (addRow t t.rows (spread t [] [])).map (db.withRows t)
  | some r =>
    let e ← db.extent params r
    if e.fields.length != places.length then
      if names.isEmpty then throw (.rowWidth t.name t.columns.length e.fields.length)
      else throw (.valueCount e.fields.length names.length)
    let rows ← e.rows
    let stored ← rows.foldlM (fun stored vs => addRow t stored (spread t places vs)) t.rows
    return db.withRows t stored

/-- What a condition comes to for each row of a table. -/
def chosen (params : List Value) (t : Table) (condition? : Option Expression) :
    Except Problem (List (StoredRow × Bool)) := do
  let fields := t.fields
  match condition? with
  | none => return t.rows.map fun r => (r, true)
  | some c =>
    let f ← ({ fields } : Scope).resolve c
    t.rows.mapM fun r => do
      let b ← f.holds params [] (r.cells ++ [.whole r.number])
      return (r, b)

/-- The database with rows taken out of a table. -/
def delete (db : Database) (params : List Value) (name : TableName)
    (condition? : Option Expression) : Except Problem Database := do
  let t ← db.changeable name
  let rows ← chosen params t condition?
  return db.withRows t ((rows.filter fun (_, b) => !b).map Prod.fst)

/-- The database with rows of a table changed. -/
def update (db : Database) (params : List Value) (name : TableName)
    (changes : List (String × Expression)) (condition? : Option Expression) :
    Except Problem Database := do
  let t ← db.changeable name
  let places ←
    changes.mapM fun (column, _) =>
      match t.columns.findIdx? fun c => Text.sameWord c.name column with
      | some i => pure i
      | none => throw (.noColumn column)
  let formulas ← ({ fields := t.fields } : Scope).resolveAll (changes.map Prod.snd)
  let rows ← chosen params t condition?
  let changed ← rows.mapM fun (r, b) => do
    if b then
      let vs ← Formula.values params [] (r.cells ++ [.whole r.number]) formulas
      let cells := r.cells.mapIdx fun i v =>
        match places.reverse.idxOf? i with
        | some k => vs.reverse[k]?.getD .null
        | none => v
      return { r with cells := List.zipWith (fun c v => Value.store c.affinity v) t.columns cells }
    else return r
  return db.withRows t changed

/-! ## Running a statement -/

/-- What a statement answers: the columns and the rows that it shows. -/
structure Answer where
  /-- The columns. -/
  columns : List Column := []
  /-- The rows. -/
  rows : Except Problem (List Record) := .ok []

/-- A statement under parameters: its answer and the database after it. Rows are shown in at least
one column. -/
def run (db : Database) (params : List Value) (s : Statement) :
    Except Problem (Answer × Database) :=
  match s with
  | .query r => do
    let e ← db.extent params r
    if e.fields.isEmpty then throw .noSource
    return (⟨e.fields.map Field.column, e.rows⟩, db)
  | .createTable n columns => (db.createTable n columns).map ({}, ·)
  | .createTableAs n r => (db.createTableAs n params r).map ({}, ·)
  | .createView n names? r => (db.createView n names? r).map ({}, ·)
  | .insert name names r? => (db.insert params name names r?).map ({}, ·)
  | .delete name condition? => (db.delete params name condition?).map ({}, ·)
  | .update name changes condition? => (db.update params name changes condition?).map ({}, ·)
  | .drop view ifPresent name => (db.drop view ifPresent name).map ({}, ·)

end Database

end QueryPipe.Sql
