import QueryPipe.Sql.Reader

/-!
# Reading terms

Terms are read by the strength of their operators: what follows an operand belongs to it as long
as its operator binds at least as strongly as asked for.

* `strength_or`: no operator binds more weakly than a disjunction.
-/

namespace QueryPipe.Sql

/-! ## Operators -/

/-- How strongly an operator binds. -/
def BinaryOp.strength : BinaryOp → Nat
  | .or => 1
  | .and => 2
  | .eq | .ne | .same | .distinct => 4
  | .lt | .le | .gt | .ge => 5
  | .bitAnd | .bitOr | .shiftLeft | .shiftRight => 7
  | .add | .sub => 8
  | .mul | .div | .rem => 9
  | .concat => 10

/-- No operator binds less than `OR`. -/
theorem strength_or (op : BinaryOp) : BinaryOp.or.strength ≤ op.strength := by
  cases op <;> decide

/-- The strength of a negated condition. -/
def notStrength : Nat := 3

/-- The strength of the conditions that are spelled with words. -/
def matchStrength : Nat := 4

/-- The strength of saying how texts are compared. -/
def collateStrength : Nat := 11

/-- The strength of an operator with one operand. -/
def unaryStrength : Nat := 12

/-- The operator that a token is between two operands, if it is one that is spelled alone. -/
def BinaryOp.ofToken? (t : Token) : Option BinaryOp :=
  match t.lexeme with
  | .sign "=" | .sign "==" => some .eq
  | .sign "<>" | .sign "!=" => some .ne
  | .sign "<" => some .lt
  | .sign "<=" => some .le
  | .sign ">" => some .gt
  | .sign ">=" => some .ge
  | .sign "&" => some .bitAnd
  | .sign "|" => some .bitOr
  | .sign "<<" => some .shiftLeft
  | .sign ">>" => some .shiftRight
  | .sign "+" => some .add
  | .sign "-" => some .sub
  | .sign "*" => some .mul
  | .sign "/" => some .div
  | .sign "%" => some .rem
  | .sign "||" => some .concat
  | .word s =>
    if s.toUpper == "OR" then some .or else if s.toUpper == "AND" then some .and else none
  | _ => none

/-- The operator that a token is in front of an operand. -/
def UnaryOp.ofToken? (t : Token) : Option UnaryOp :=
  match t.lexeme with
  | .sign "+" => some .plus
  | .sign "-" => some .minus
  | .sign "~" => some .complement
  | _ => none

/-- The name of a function that a token is between two operands. -/
def matchWord? (t : Token) : Option String :=
  match t.lexeme with
  | .word s => if isAmong ["LIKE", "GLOB", "REGEXP", "MATCH"] s then some s else none
  | _ => none

/-! ## Parts -/

/-- Whole numbers in base sixteen stand for 64 bits. -/
def hexNumber (written : String) : Except Problem Value :=
  let digits := (written.toList.drop 2).dropWhile (· == '0')
  if 16 < digits.length then .error (.numberTooBig written)
  else .ok (.whole (Int64.ofInt (digits.foldl (fun n c => 16 * n + hexValue c) 0)))

/-- The value of a number as written. -/
def numberValue (written : String) : Except Problem Value :=
  if Text.startsWith "0x" written || Text.startsWith "0X" written then hexNumber written
  else .ok ((Value.numeral? written).getD .null)

/-- A number with a sign in front; the least whole number has no opposite to be made from. -/
def negated (t : Expression) : Expression :=
  match t with
  | .literal (.real x) =>
    if x == .ofInt (Numeral.twoTo 63) then .literal (.whole Int64.minValue)
    else .literal (.real x.negate)
  | .literal (.whole n) => .literal (.whole (-n))
  | t => .unary .minus t

/-- The collation of a name. -/
def Collation.ofName? (name : String) : Option Collation :=
  match name.toUpper with
  | "BINARY" => some .binary
  | "NOCASE" => some .caseless
  | "RTRIM" => some .trailing
  | _ => none

namespace Reader

/-- A number with a sign, as in the size of a type. -/
def typeSize : Reader Unit := do
  let _ ← accept fun t => t.isSign "+" || t.isSign "-"
  match ← taken? (fun t => match t.lexeme with | .number s => some s | _ => none) with
  | some _ => pure ()
  | none => fail

/-- The words of a type. The fuel is the number of tokens. -/
def typeWords : Nat → Reader Unit
  | 0 => pure ()
  | fuel + 1 => do
    match ← taken? Token.alias? with
    | some _ => typeWords fuel
    | none => pure ()

/-- A declared type as written, if there is one. -/
def type? (fuel : Nat) : Reader (Option String) := do
  let start ← position
  if ← sees (fun t => t.alias?.isSome) then
    typeWords fuel
    if ← sign? "(" then
      typeSize
      if ← sign? "," then typeSize
      sign ")"
    let s ← textFrom start
    pure (some s)
  else pure none

/-- The condition that values are between two others. -/
def between (t low high : Expression) : Expression :=
  .binary .and (.binary .ge t low) (.binary .le t high)

/-- The condition that a value is among others; their columns lose what they prefer to hold. -/
def among (t : Expression) : List Expression → Expression
  | [] => .literal (.whole 0)
  | [x] => .binary .eq t (.unary .plus x)
  | x :: rest => .binary .or (.binary .eq t (.unary .plus x)) (among t rest)

/-- A condition or its opposite. -/
def orNot (negative : Bool) (t : Expression) : Expression :=
  if negative then .unary .not t else t

/-- A test for truth or falsehood. -/
def truthTest (negative value : Bool) (t : Expression) : Expression :=
  let test : Expression :=
    if value then .choose t (.literal (.whole 1)) (.literal (.whole 0))
    else .choose t (.literal (.whole 0)) t.isPresent
  orNot negative test

/-- The name of a reference, which a point has been read before. -/
def qualified (first : String) (double bare : Bool) : Reader Expression := do
  if ← sign? "." then
    let second ← anyName
    if ← sign? "." then
      let third ← anyName
      pure (.field ⟨[first, second], third, false, false⟩)
    else pure (.field ⟨[first], second, false, false⟩)
  else pure (.field ⟨[], first, double, bare⟩)

/-! ## Terms -/

mutual

/-- A term whose operators bind at least with a strength. -/
def term : Nat → Nat → Reader Expression
  | 0, _ => fail
  | fuel + 1, least => do
    let t ← operand fuel
    more fuel least t

/-- What follows an operand and belongs to it. -/
def more : Nat → Nat → Expression → Reader Expression
  | 0, _, _ => fail
  | fuel + 1, least, t => do
    match ← peek? with
    | none => pure t
    | some token =>
      match BinaryOp.ofToken? token with
      | some op =>
        if least ≤ op.strength then
          skip
          let r ← term fuel (op.strength + 1)
          more fuel least (.binary op t r)
        else pure t
      | none =>
        if token.isWord "COLLATE" && least ≤ collateStrength then
          skip
          let name ← anyName
          match Collation.ofName? name with
          | some c => more fuel least (.collate c t)
          | none => problem (.noCollation name)
        else if least ≤ matchStrength then
          if token.isWord "ISNULL" then
            skip
            more fuel least t.isNull
          else if token.isWord "NOTNULL" then
            skip
            more fuel least t.isPresent
          else if token.isWord "IS" then
            skip
            let t ← identity fuel t
            more fuel least t
          else if token.isWord "NOT" then
            if ← seesSecond (Token.isWord "NULL") then
              skip
              skip
              more fuel least t.isPresent
            else if ← seesSecond (fun t => (matchWord? t).isSome || t.isWord "BETWEEN" ||
                t.isWord "IN") then
              skip
              let t ← wordy fuel true t
              more fuel least t
            else
              skip
              fail
          else if (matchWord? token).isSome || token.isWord "BETWEEN" || token.isWord "IN" then
            let t ← wordy fuel false t
            more fuel least t
          else pure t
        else pure t

/-- What follows the word for sameness. -/
def identity : Nat → Expression → Reader Expression
  | 0, _ => fail
  | fuel + 1, t => do
    let negative ← word? "NOT"
    if ← word? "DISTINCT" then
      word "FROM"
      let r ← term fuel (matchStrength + 1)
      pure (.binary (if negative then .same else .distinct) t r)
    else
      let r ← term fuel (matchStrength + 1)
      match r with
      | .field ⟨[], name, _, true⟩ =>
        match name.toUpper with
        | "TRUE" => pure (truthTest negative true t)
        | "FALSE" => pure (truthTest negative false t)
        | _ => pure (.binary (if negative then .distinct else .same) t r)
      | _ => pure (.binary (if negative then .distinct else .same) t r)

/-- A condition that is spelled with a word. -/
def wordy : Nat → Bool → Expression → Reader Expression
  | 0, _, _ => fail
  | fuel + 1, negative, t => do
    if ← word? "BETWEEN" then
      let low ← term fuel notStrength
      let low ← if ← sees (Token.isWord "OR") then more fuel 0 low else pure low
      word "AND"
      let high ← term fuel (matchStrength + 1)
      pure (orNot negative (between t low high))
    else if ← word? "IN" then
      sign "("
      if ← sign? ")" then pure (.literal (.whole (if negative then 1 else 0)))
      else
        let items ← terms fuel
        sign ")"
        pure (orNot negative (among t items))
    else
      match ← taken? matchWord? with
      | none => fail
      | some name =>
        let pattern ← term fuel (matchStrength + 1)
        if ← word? "ESCAPE" then
          let escape ← term fuel (matchStrength + 1)
          pure (orNot negative (.call ⟨name, false, false⟩ [pattern, t, escape]))
        else pure (orNot negative (.call ⟨name, false, false⟩ [pattern, t]))

/-- Terms between commas. -/
def terms : Nat → Reader (List Expression)
  | 0 => fail
  | fuel + 1 => do
    let t ← term fuel 0
    if ← sign? "," then
      let rest ← terms fuel
      pure (t :: rest)
    else pure [t]

/-- The cases of a choice, up to its end. -/
def cases : Nat → Option Expression → Reader Expression
  | 0, _ => fail
  | fuel + 1, subject? => do
    word "WHEN"
    let c ← term fuel 0
    word "THEN"
    let yes ← term fuel 0
    let c :=
      match subject? with
      | some s => .binary .eq s c
      | none => c
    if ← sees (Token.isWord "WHEN") then
      let no ← cases fuel subject?
      pure (.choose c yes no)
    else if ← word? "ELSE" then
      let no ← term fuel 0
      word "END"
      pure (.choose c yes no)
    else
      word "END"
      pure (.choose c yes (.literal .null))

/-- What stands in parentheses after the name of a function. -/
def arguments : Nat → String → Reader Expression
  | 0, _ => fail
  | fuel + 1, name => do
    sign "("
    if ← sign? "*" then
      sign ")"
      pure (.call ⟨name, false, true⟩ [])
    else if ← sign? ")" then pure (.call ⟨name, false, false⟩ [])
    else
      let distinct ← word? "DISTINCT"
      let _ ← if distinct then pure false else word? "ALL"
      let args ← terms fuel
      sign ")"
      pure (.call ⟨name, distinct, false⟩ args)

/-- A term without operators between operands. -/
def operand : Nat → Reader Expression
  | 0 => fail
  | fuel + 1 => do
    match ← peek? with
    | none => fail
    | some token =>
      match UnaryOp.ofToken? token with
      | some op =>
        skip
        let t ← term fuel unaryStrength
        pure (if op == .minus then negated t else .unary op t)
      | none =>
        match token.lexeme with
        | .number s =>
          skip
          match numberValue s with
          | .ok v => pure (.literal v)
          | .error p => problem p
        | .bytes bs =>
          skip
          pure (.literal (.blob bs))
        | .parameter s =>
          skip
          let n ← parameter s
          pure (.parameter n)
        | .text s =>
          skip
          if ← sees (Token.isSign ".") then qualified s false false
          else pure (.literal (.text s))
        | .name s double =>
          skip
          if ← sees (Token.isSign "(") then arguments fuel s else qualified s double false
        | .sign "(" =>
          skip
          let t ← term fuel 0
          sign ")"
          pure t
        | .word s =>
          match s.toUpper with
          | "NULL" =>
            skip
            pure (.literal .null)
          | "NOT" =>
            skip
            let t ← term fuel notStrength
            pure (.unary .not t)
          | "CASE" =>
            skip
            if ← sees (Token.isWord "WHEN") then cases fuel none
            else
              let subject ← term fuel 0
              cases fuel (some subject)
          | "CAST" =>
            if ← seesSecond (Token.isSign "(") then
              skip
              sign "("
              let t ← term fuel 0
              word "AS"
              let type ← type? fuel
              sign ")"
              pure (.cast (Affinity.ofType (type.getD "")) t)
            else
              skip
              qualified s false true
          | _ =>
            if isAmong reservedWords s then fail
            else
              skip
              if ← sees (Token.isSign "(") then arguments fuel s else qualified s false true
        | _ => fail

end

/-- A term, with fuel for the tokens that are left. -/
def wholeTerm : Reader Expression := do
  let cursor ← get
  term (8 * cursor.rest.length + 8) 0

end Reader

end QueryPipe.Sql
