import QueryPipe.Sql.Relation
import QueryPipe.Sql.Formula

/-!
# Records

Orders of records, records that stand once, and records side by side.
-/

namespace QueryPipe.Sql

/-! ## Equal records -/

/-- The order of records, by their first difference. -/
def orderRecords : Record → Record → Ordering
  | v :: vs, w :: ws => (Value.order v w).then (orderRecords vs ws)
  | [], [] => .eq
  | [], _ => .lt
  | _, [] => .gt

/-- Items without those whose record stood before already. -/
def distinctBy {α : Type} (record : α → Record) : List α → List α
  | [] => []
  | a :: rest =>
    a :: (distinctBy record rest).filter fun b => orderRecords (record a) (record b) != .eq

/-- Records without those that stood before already. -/
def distinctRecords (rows : List Record) : List Record := distinctBy id rows

/-- Neighbours that are equal taken as one. -/
def withoutRepeats : List Record → List Record
  | a :: b :: rest =>
    if orderRecords a b == .eq then withoutRepeats (b :: rest) else a :: withoutRepeats (b :: rest)
  | rows => rows

/-- Records in order, each once. -/
def sortedRecords (rows : List Record) : List Record :=
  withoutRepeats (rows.mergeSort fun a b => orderRecords a b != .gt)

/-- The rows of two relations combined. -/
def combinedRecords (how : Combination) (left right : List Record) : List Record :=
  let others := sortedRecords right
  let isAmongOthers (r : Record) : Bool := others.any fun o => orderRecords r o == .eq
  match how with
  | .all => left ++ right
  | .union => sortedRecords (left ++ right)
  | .intersect => (sortedRecords left).filter isAmongOthers
  | .except => (sortedRecords left).filter fun r => !isAmongOthers r

/-! ## Chosen records -/

/-- Records that satisfy a condition, if there is one. -/
def filterRecords (params : List Value) (condition? : Option Formula) (rows : List Record) :
    Except Problem (List Record) :=
  match condition? with
  | none => .ok rows
  | some t => rows.filterM fun row => t.holds params [] row

/-- A part of records: so many after some that are left out. A negative limit is none. -/
def cutRecords (limit offset : Int) (rows : List Record) : List Record :=
  let rest := rows.drop offset.toNat
  if limit < 0 then rest else rest.take limit.toNat

/-! ## Records side by side -/

/-- Whether two records are partners. -/
def arePartners (params : List Value) (condition? : Option Formula) (l r : Record) :
    Except Problem Bool :=
  match condition? with
  | none => .ok true
  | some t => t.holds params [] (l ++ r)

/-- A left record with each of its partners; without one, alone if it is kept. -/
def withPartners (params : List Value) (condition? : Option Formula) (keep : Bool) (width : Nat)
    (right : List Record) (l : Record) : Except Problem (List Record) := do
  let partners ← right.filterM (arePartners params condition? l)
  return if partners.isEmpty && keep then [l ++ List.replicate width .null]
    else partners.map (l ++ ·)

/-- The right records without a partner. -/
def withoutPartner (params : List Value) (condition? : Option Formula)
    (left right : List Record) : Except Problem (List Record) :=
  right.filterM fun r => do
    let found ← left.anyM fun l => arePartners params condition? l r
    return !found

/-- The records of a join. -/
def joinRecords (params : List Value) (kind : Join) (condition? : Option Formula)
    (leftWidth rightWidth : Nat) (left right : List Record) : Except Problem (List Record) := do
  let keepLeft := kind == .left || kind == .full
  let joined ← left.mapM (withPartners params condition? keepLeft rightWidth right)
  if kind == .right || kind == .full then
    let rest ← withoutPartner params condition? left right
    return joined.flatten ++ rest.map (List.replicate leftWidth Value.null ++ ·)
  else return joined.flatten

/-- A record in which places that hold nothing take the values of their partners. -/
def filledFrom (pairs : List (Place × Place)) (row : Record) : Record :=
  pairs.foldl (fun row (l, r) =>
    match row[l.index]? with
    | some .null => row.set l.index (row[r.index]?.getD .null)
    | _ => row) row

/-! ## Order -/

/-- What records are sorted by. -/
structure Key where
  /-- What is compared. -/
  formula : Formula
  /-- Whether greater values come first. -/
  descending : Bool := false
  /-- Whether missing values come first, if that is stated. -/
  nullsFirst? : Option Bool := none
  /-- The number of the result column that is compared, if it is one. -/
  output? : Option Nat := none
  deriving Inhabited

/-- The order of two values under a key. -/
def Key.order (k : Key) (v w : Value) : Ordering :=
  let plain := ((Formula.collation? k.formula).getD .binary).order v w
  let turned := if k.descending then plain.swap else plain
  match k.nullsFirst? with
  | none => turned
  | some first =>
    if v.isNull == w.isNull then turned
    else if v.isNull == first then .lt
    else .gt

/-- The order of the values of keys, by their first difference. -/
def orderByKeys : List Key → List Value → List Value → Ordering
  | k :: ks, v :: vs, w :: ws => (k.order v w).then (orderByKeys ks vs ws)
  | _, _, _ => .eq

/-- Items in the order of the values of their keys; those with equal ones stay as they are. -/
def sortedByKeys {α : Type} (keys : List Key) (values : α → List Value) (items : List α) :
    List α :=
  if keys.isEmpty then items
  else items.mergeSort fun a b => orderByKeys keys (values a) (values b) != .gt

end QueryPipe.Sql
