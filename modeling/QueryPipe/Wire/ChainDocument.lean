import QueryPipe.Query.Chain
import QueryPipe.Wire.Reader
import QueryPipe.Wire.Writer

/-!
# The document of a chain

A chain travels between tools as one document: an object with the list of its plans, each plan an
object with one member for every kind of fragment. Writing gives every member; reading accepts a
document that leaves out what is empty.

* `chainOfValue_chainValue`, `planOfValue_planValue`: nothing of a chain is lost in its document.
-/

namespace QueryPipe.Wire

open Numeral (WholeRange)

/-! ## Shapes of fragments -/

/-- A list of texts. -/
def textsShape : Shape := .list .text

/-- A selection. -/
def selectionShape : Shape :=
  .record "struct SelectFragment" <|
    .required "tablename" textsShape <|
    .required "alias" (.nullable .text) <|
    .defaulted "columns" textsShape .done

/-- One condition of a join. -/
def joinConditionShape : Shape :=
  .record "struct JoinCondition" <|
    .required "left" .text <| .required "predicate" .text <| .required "right" .text .done

/-- A join. -/
def joiningShape : Shape :=
  .record "struct JoinFragment" <|
    .required "table" .text <|
    .required "alias" (.nullable .text) <|
    .required "how" .text <|
    .defaulted "conditions" (.list joinConditionShape) .done

/-- One condition of a filter. -/
def conditionShape : Shape :=
  .record "struct Condition" <|
    .required "column" .text <| .required "predicate" .text <| .required "value" .literal .done

/-- A filter. -/
def filterShape : Shape :=
  .record "struct WhereFragment" <| .defaulted "conditions" (.list conditionShape) .done

/-- A row limit. -/
def limitShape : Shape :=
  .record "struct LimitFragment" <| .required "limit" (.whole .unsigned32 "u32") .done

/-- An order. -/
def sortingShape : Shape :=
  .record "struct OrderFragment" <|
    .required "reversed" .flag <| .defaulted "fields" textsShape .done

/-- A raw statement. -/
def rawShape : Shape := .record "struct SqlFragment" <| .required "sql" .text .done

/-- A plan. -/
def planShape : Shape :=
  .record "struct QueryPlan" <|
    .defaulted "select" (.nullable selectionShape) <|
    .defaulted "join" (.nullable joiningShape) <|
    .defaulted "where" (.nullable filterShape) <|
    .defaulted "limit" (.nullable limitShape) <|
    .defaulted "order" (.nullable sortingShape) <|
    .defaulted "sql" (.nullable rawShape) .done

/-- A chain. -/
def chainShape : Shape :=
  .record "struct OverallQueryPlan" <| .defaulted "plans" (.list planShape) .done

/-! ## Fragments and their values -/

/-- The selection that a value stands for. -/
def selectionOfValue : selectionShape.Value → Selection
  | (tables, alias?, columns?, ()) => { tables, alias?, columns := columns?.getD [] }

/-- The value of a selection. -/
def selectionValue (s : Selection) : selectionShape.Value :=
  (s.tables, s.alias?, some s.columns, ())

/-- The join condition that a value stands for. -/
def joinConditionOfValue : joinConditionShape.Value → JoinCondition
  | (left, predicate, right, ()) => { left, predicate, right }

/-- The value of a join condition. -/
def joinConditionValue (c : JoinCondition) : joinConditionShape.Value :=
  (c.left, c.predicate, c.right, ())

/-- The join that a value stands for. -/
def joiningOfValue : joiningShape.Value → Joining
  | (table, alias?, how, conditions?, ()) =>
    { table, alias?, how, conditions := (conditions?.getD []).map joinConditionOfValue }

/-- The value of a join. -/
def joiningValue (j : Joining) : joiningShape.Value :=
  (j.table, j.alias?, j.how, some (j.conditions.map joinConditionValue), ())

/-- The condition that a value stands for. -/
def conditionOfValue : conditionShape.Value → Condition
  | (column, predicate, value, ()) => { column, predicate, value }

/-- The value of a condition. -/
def conditionValue (c : Condition) : conditionShape.Value :=
  (c.column, c.predicate, c.value, ())

/-- The filter that a value stands for. -/
def filterOfValue : filterShape.Value → Filter
  | (conditions?, ()) => ⟨(conditions?.getD []).map conditionOfValue⟩

/-- The value of a filter. -/
def filterValue (f : Filter) : filterShape.Value := (some (f.conditions.map conditionValue), ())

/-- The limit that a value stands for. -/
def limitOfValue : limitShape.Value → UInt32
  | (n, ()) => UInt32.ofNat n.toNat

/-- The value of a limit. -/
def limitValue (n : UInt32) : limitShape.Value := ((n.toNat : Int), ())

/-- The order that a value stands for. -/
def sortingOfValue : sortingShape.Value → Sorting
  | (descending, columns?, ()) => { descending, columns := columns?.getD [] }

/-- The value of an order. -/
def sortingValue (o : Sorting) : sortingShape.Value := (o.descending, some o.columns, ())

/-- The raw statement that a value stands for. -/
def rawOfValue : rawShape.Value → String
  | (text, ()) => text

/-- The value of a raw statement. -/
def rawValue (text : String) : rawShape.Value := (text, ())

/-! ## Plans and chains -/

/-- The plan that a value stands for. -/
def planOfValue : planShape.Value → Plan
  | (select, join, filter, limit, sort, raw, ()) =>
    { select := select.join.map selectionOfValue
      join := join.join.map joiningOfValue
      filter := filter.join.map filterOfValue
      limit := limit.join.map limitOfValue
      sort := sort.join.map sortingOfValue
      raw := raw.join.map rawOfValue }

/-- The value of a plan. -/
def planValue (p : Plan) : planShape.Value :=
  (some (p.select.map selectionValue), some (p.join.map joiningValue),
    some (p.filter.map filterValue), some (p.limit.map limitValue),
    some (p.sort.map sortingValue), some (p.raw.map rawValue), ())

/-- The chain that a value stands for. -/
def chainOfValue : chainShape.Value → Chain
  | (plans?, ()) => ⟨(plans?.getD []).map planOfValue⟩

/-- The value of a chain. -/
def chainValue (c : Chain) : chainShape.Value := (some (c.plans.map planValue), ())

/-- A selection is read back from its value. -/
theorem selectionOfValue_selectionValue (s : Selection) :
    selectionOfValue (selectionValue s) = s := rfl

theorem joiningOfValue_joiningValue (j : Joining) : joiningOfValue (joiningValue j) = j := by
  have h : (j.conditions.map joinConditionValue).map joinConditionOfValue = j.conditions := by
    rw [List.map_map]
    exact List.map_id _
  show { j with conditions := (j.conditions.map joinConditionValue).map joinConditionOfValue } = j
  rw [h]

theorem filterOfValue_filterValue (f : Filter) : filterOfValue (filterValue f) = f := by
  have h : (f.conditions.map conditionValue).map conditionOfValue = f.conditions := by
    rw [List.map_map]
    exact List.map_id _
  show Filter.mk ((f.conditions.map conditionValue).map conditionOfValue) = f
  rw [h]

theorem limitOfValue_limitValue (n : UInt32) : limitOfValue (limitValue n) = n := by
  show UInt32.ofNat ((n.toNat : Int)).toNat = n
  simp

theorem map_map_of_inverse {α β : Type} {f : α → β} {g : β → α} (h : ∀ a, g (f a) = a)
    (o : Option α) : (o.map f).map g = o := by
  cases o with
  | none => rfl
  | some a => simp [h a]

/-- So is a plan, slot by slot. -/
theorem planOfValue_planValue (p : Plan) : planOfValue (planValue p) = p := by
  obtain ⟨select, join, filter, limit, sort, raw⟩ := p
  show Plan.mk ((select.map selectionValue).map selectionOfValue)
    ((join.map joiningValue).map joiningOfValue) ((filter.map filterValue).map filterOfValue)
    ((limit.map limitValue).map limitOfValue) ((sort.map sortingValue).map sortingOfValue)
    ((raw.map rawValue).map rawOfValue) = _
  rw [map_map_of_inverse selectionOfValue_selectionValue,
    map_map_of_inverse joiningOfValue_joiningValue, map_map_of_inverse filterOfValue_filterValue,
    map_map_of_inverse limitOfValue_limitValue,
    map_map_of_inverse (f := sortingValue) (g := sortingOfValue) fun _ => rfl,
    map_map_of_inverse (f := rawValue) (g := rawOfValue) fun _ => rfl]

/-- So is a chain, plan by plan. -/
theorem chainOfValue_chainValue (c : Chain) : chainOfValue (chainValue c) = c := by
  have h : (c.plans.map planValue).map planOfValue = c.plans := by
    rw [List.map_map]
    calc c.plans.map (planOfValue ∘ planValue) = c.plans.map id :=
          List.map_congr_left fun p _ => planOfValue_planValue p
      _ = c.plans := List.map_id _
  show Chain.mk ((c.plans.map planValue).map planOfValue) = c
  rw [h]

end QueryPipe.Wire

namespace QueryPipe.Chain

/-- The document of a chain. -/
def encode (c : Chain) : String := Wire.chainShape.toText (Wire.chainValue c)

/-- The document of a chain as a tool hands it on, with a line feed at its end. -/
def dump (c : Chain) : List UInt8 := Text.bytesOf (c.encode ++ "\n")

/-- The chain of a document. -/
def decode (s : String) : Except Wire.Problem Chain :=
  (Wire.chainShape.ofText s).map Wire.chainOfValue

/-- The chain of a document that comes as bytes. -/
def load (bytes : List UInt8) : Except Wire.Problem Chain :=
  (Wire.chainShape.ofBytes bytes).map Wire.chainOfValue

end QueryPipe.Chain
