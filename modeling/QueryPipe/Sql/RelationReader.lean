import QueryPipe.Sql.TermReader

/-!
# Reading relations

A relation is read as its clauses stand: names for other relations, result columns, sources, a
condition, groups, and at the end of all combined relations an order and a limit.
-/

namespace QueryPipe.Sql

/-! ## Joins -/

/-- What words in front of a join come to: whether rows of the left and of the right without a
partner are kept, and whether columns of the same name are tied; nothing when they make no join. -/
def joinOfWords? (words : List String) : Option (Join × Bool) :=
  let has (w : String) : Bool := words.contains w
  let left := has "LEFT" || has "FULL"
  let right := has "RIGHT" || has "FULL"
  let outer := has "OUTER" || left || right
  let inner := has "INNER" || has "CROSS"
  if !words.all (isAmong joinWords) || (inner && outer) || (outer && !left && !right) then none
  else
    let kind : Join :=
      if left && right then .full else if left then .left else if right then .right else .inner
    some (kind, has "NATURAL")

/-- A relation that is selected, before its order and limit. -/
structure Selection where
  /-- Whether equal rows count once. -/
  distinct : Bool
  /-- The result columns. -/
  columns : List ResultColumn
  /-- What is selected from. -/
  source : Question
  /-- The condition on rows. -/
  condition? : Option Expression
  /-- What rows are grouped by. -/
  groups : List Expression
  /-- The condition on groups. -/
  having? : Option Expression

/-- One of several combined relations, with what stands after it. -/
structure Member where
  /-- The selection, or rows as they stand. -/
  body : Selection ⊕ List (List Expression)
  /-- What it is sorted by. -/
  order : List SortKey := []
  /-- How many rows there are at most, and how many are left out before them. -/
  limit? : Option (Expression × Option Expression) := none

/-- A member under an order. -/
def Member.ordered (m : Member) (order : List SortKey) : Question :=
  match m.body with
  | .inl s => .select s.distinct s.columns s.source s.condition? s.groups s.having? order
  | .inr rows => .values rows

/-- A relation under a limit. -/
def limitedBy (limit? : Option (Expression × Option Expression)) (r : Question) : Question :=
  match limit? with
  | some (limit, offset?) => .limited limit offset? r
  | none => r

/-- The first member that has an order or a limit before a combination. -/
def early? : Member → List (Combination × Member) → Option Problem
  | _, [] => none
  | m, (how, next) :: rest =>
    if !m.order.isEmpty then some (.early "ORDER BY" how.name)
    else if m.limit?.isSome then some (.early "LIMIT" how.name)
    else early? next rest

/-- Members combined from the left, under the order and the limit of the last. -/
def arrange (first : Member) (rest : List (Combination × Member)) : Question :=
  match rest.getLast? with
  | none => limitedBy first.limit? (first.ordered first.order)
  | some (_, last) =>
    let all := rest.foldl (fun r (how, m) => .combine how r (m.ordered [])) (first.ordered [])
    limitedBy last.limit? (if last.order.isEmpty then all else .sorted last.order all)

/-- A relation in which names stand for others. -/
def withAll (definitions : List (String × Option (List String) × Question)) (body : Question) :
    Question :=
  definitions.foldr (fun (name, names?, r) body => .within name names? r body) body

/-- A relation under a name, if there is one. -/
def namedBy (name? : Option String) (r : Question) : Question :=
  match name? with
  | some name => .named name r
  | none => r

namespace Reader

/-- The word for a combination, if it is next. -/
def combination? : Reader (Option Combination) := do
  if ← word? "UNION" then
    if ← word? "ALL" then pure (some .all) else pure (some .union)
  else if ← word? "INTERSECT" then pure (some .intersect)
  else if ← word? "EXCEPT" then pure (some .except)
  else pure none

/-- A name after a relation or a term, if there is one. -/
def alias? : Reader (Option String) := do
  if ← word? "AS" then
    let name ← anyName
    pure (some name)
  else taken? Token.alias?

/-- A result column. -/
def resultColumn (fuel : Nat) : Reader ResultColumn := do
  if ← sign? "*" then pure .all
  else
    let star ← fun cursor => .ok
      (match cursor.rest with
        | t :: dot :: star :: _ =>
          if dot.isSign "." && star.isSign "*" then t.anyName? else none
        | _ => none, cursor)
    match star with
    | some table =>
      skip
      skip
      skip
      pure (.allOf table)
    | none =>
      let start ← position
      let t ← term fuel 0
      let span ← textFrom start
      let name? ← alias?
      pure (.term t name? span)

/-- Result columns between commas. -/
def resultColumns (size : Nat) : Nat → Reader (List ResultColumn)
  | 0 => fail
  | fuel + 1 => do
    let c ← resultColumn size
    if ← sign? "," then
      let rest ← resultColumns size fuel
      pure (c :: rest)
    else pure [c]

/-- A sort key. -/
def sortKey (fuel : Nat) : Reader SortKey := do
  let t ← term fuel 0
  let descending ← if ← word? "ASC" then pure false else word? "DESC"
  if ← word? "NULLS" then
    if ← word? "FIRST" then pure ⟨t, descending, some true⟩
    else
      word "LAST"
      pure ⟨t, descending, some false⟩
  else pure ⟨t, descending, none⟩

/-- Sort keys between commas. -/
def sortKeys (size : Nat) : Nat → Reader (List SortKey)
  | 0 => fail
  | fuel + 1 => do
    let k ← sortKey size
    if ← sign? "," then
      let rest ← sortKeys size fuel
      pure (k :: rest)
    else pure [k]

/-- The order of a relation, if it has one. -/
def order (fuel : Nat) : Reader (List SortKey) := do
  if ← word? "ORDER" then
    word "BY"
    sortKeys fuel fuel
  else pure []

/-- The limit of a relation, if it has one. -/
def limit? (fuel : Nat) : Reader (Option (Expression × Option Expression)) := do
  if ← word? "LIMIT" then
    let first ← term fuel 0
    if ← word? "OFFSET" then
      let offset ← term fuel 0
      pure (some (first, some offset))
    else if ← sign? "," then
      let limit ← term fuel 0
      pure (some (limit, some first))
    else pure (some (first, none))
  else pure none

/-- A term after a word, if the word is next. -/
def clause? (fuel : Nat) (w : String) : Reader (Option Expression) := do
  if ← word? w then
    let t ← term fuel 0
    pure (some t)
  else pure none

/-- What rows are grouped by. -/
def groups (fuel : Nat) : Reader (List Expression) := do
  if ← word? "GROUP" then
    word "BY"
    terms fuel
  else pure []

/-- Rows in parentheses between commas. -/
def rows (size : Nat) : Nat → Reader (List (List Expression))
  | 0 => fail
  | fuel + 1 => do
    sign "("
    let row ← terms size
    sign ")"
    if ← sign? "," then
      let rest ← rows size fuel
      pure (row :: rest)
    else pure [row]

/-- What ties two relations. -/
def tie (fuel : Nat) : Reader Tie := do
  if ← word? "ON" then
    let t ← term fuel 0
    pure (.on t)
  else if ← word? "USING" then
    let names ← namesInParentheses fuel
    pure (.using names)
  else pure .none

/-- The words up to a join, which is next or stands after words that say how. -/
def joinWords? : Nat → Reader (Option (List String))
  | 0 => pure none
  | fuel + 1 => do
    if ← word? "JOIN" then pure (some [])
    else
      match ← taken? Token.anyName? with
      | none => fail
      | some w =>
        match ← joinWords? fuel with
        | some more => pure (some (w :: more))
        | none => fail

/-- How the next relation is joined, if there is one. -/
def joining? : Reader (Option (Join × Bool)) := do
  if ← sign? "," then pure (some (.inner, false))
  else if ← word? "JOIN" then pure (some (.inner, false))
  else if ← sees (fun t => match t.lexeme with | .word s => isAmong joinWords s | _ => false) then
    match ← joinWords? 4 with
    | none => fail
    | some words =>
      match joinOfWords? (words.map String.toUpper) with
      | some found => pure (some found)
      | none => problem (.unknownJoin (Text.joined " " words))
  else pure none

/-! ## Relations -/

mutual

/-- A relation with the names that stand for others in it. -/
def relation : Nat → Reader Question
  | 0 => fail
  | fuel + 1 => do
    if ← word? "WITH" then
      let _ ← if ← seesSecond (Token.isWord "AS") then pure false else word? "RECURSIVE"
      let definitions ← definitions fuel
      let body ← combined fuel
      pure (withAll definitions body)
    else combined fuel

/-- Names with the relations that they stand for. -/
def definitions : Nat → Reader (List (String × Option (List String) × Question))
  | 0 => fail
  | fuel + 1 => do
    let name ← anyName
    let names? ←
      if ← sees (Token.isSign "(") then some <$> namesInParentheses fuel else pure none
    word "AS"
    if ← word? "NOT" then word "MATERIALIZED" else let _ ← word? "MATERIALIZED"
    sign "("
    let r ← relation fuel
    sign ")"
    if ← sign? "," then
      let rest ← definitions fuel
      pure ((name, names?, r) :: rest)
    else pure [(name, names?, r)]

/-- Relations that are combined. -/
def combined : Nat → Reader Question
  | 0 => fail
  | fuel + 1 => do
    let first ← member fuel
    let rest ← furtherMembers fuel
    match early? first rest with
    | some p => problem p
    | none => pure (arrange first rest)

/-- The further ones of combined relations. -/
def furtherMembers : Nat → Reader (List (Combination × Member))
  | 0 => fail
  | fuel + 1 => do
    match ← combination? with
    | none => pure []
    | some how =>
      let m ← member fuel
      let rest ← furtherMembers fuel
      pure ((how, m) :: rest)

/-- A selection, or rows as they stand. -/
def member : Nat → Reader Member
  | 0 => fail
  | fuel + 1 => do
    if ← word? "VALUES" then
      let rows ← rows fuel fuel
      pure { body := .inr rows }
    else
      word "SELECT"
      let distinct ← if ← word? "ALL" then pure false else word? "DISTINCT"
      let columns ← resultColumns fuel fuel
      let source ← if ← word? "FROM" then sources fuel else pure .unit
      let condition? ← clause? fuel "WHERE"
      let groups ← groups fuel
      let having? ← clause? fuel "HAVING"
      let order ← order fuel
      let limit? ← limit? fuel
      pure ⟨.inl ⟨distinct, columns, source, condition?, groups, having?⟩, order, limit?⟩

/-- The relations that are selected from. -/
def sources : Nat → Reader Question
  | 0 => fail
  | fuel + 1 => do
    let first ← source fuel
    match ← tie fuel with
    | .on _ => problem (.missingJoin "ON")
    | .using _ => problem (.missingJoin "USING")
    | _ => furtherSources fuel first

/-- The relations that are joined to what is left of them. -/
def furtherSources : Nat → Question → Reader Question
  | 0, _ => fail
  | fuel + 1, left => do
    match ← joining? with
    | none => pure left
    | some (kind, natural) =>
      let right ← source fuel
      match ← tie fuel with
      | .none => furtherSources fuel (.join kind (if natural then .natural else .none) left right)
      | found =>
        if natural then problem .tiedTwice
        else furtherSources fuel (.join kind found left right)

/-- A table, or a relation in parentheses, under a name if there is one. -/
def source : Nat → Reader Question
  | 0 => fail
  | fuel + 1 => do
    if ← sign? "(" then
      let inner ←
        if ← sees (fun t => t.isWord "SELECT" || t.isWord "VALUES" || t.isWord "WITH") then
          relation fuel
        else sources fuel
      sign ")"
      let name? ← alias?
      pure (namedBy name? inner)
    else
      let first ← anyName
      let table : TableName ←
        if ← sign? "." then
          let name ← anyName
          pure ⟨some first, name⟩
        else pure ⟨none, first⟩
      let name? ← alias?
      pure (namedBy name? (.table table))

end

end Reader

end QueryPipe.Sql
