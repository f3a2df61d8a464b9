import QueryPipe.Proofs.Wire.Shape

/-!
# The grammar of documents

A document in its own right, apart from any reader: which texts are documents, and what each of
them denotes. White space may stand around every value and every key, a character of a text may be
written as itself, by a short escape or by the numbers of its 16-bit units, and the members of an
object come in any order and under any keys. What a shape writes is one of the spellings of one
document.

* `Json.Written`: the texts that denote a document.
* `Shape.json`: the document of a value.
* `Shape.written_json`: it is written as the shape writes the value.
-/

namespace QueryPipe.Wire

/-! ## Documents -/

/-- What a text of the grammar denotes. Texts are the 16-bit units they are made of, since an
escape may name half of a character; numbers are kept as they are written. -/
inductive Json
  /-- The null value. -/
  | null
  /-- A truth value. -/
  | flag (b : Bool)
  /-- A number. -/
  | number (chars : List Char)
  /-- A text. -/
  | text (units : List Nat)
  /-- A list. -/
  | list (items : List Json)
  /-- An object. -/
  | object (members : List (List Nat × Json))

/-- The 16-bit units of a character: one, or two where it does not fit. -/
def units (c : Char) : List Nat :=
  if c.toNat < 0x10000 then [c.toNat]
  else [0xD800 + (c.toNat - 0x10000) / 0x400, 0xDC00 + (c.toNat - 0x10000) % 0x400]

/-- The 16-bit units of a text. -/
def textUnits (s : String) : List Nat := s.toList.flatMap units

/-! ## Numbers -/

/-- One digit or more. -/
def Digits (cs : List Char) : Prop := cs ≠ [] ∧ ∀ c ∈ cs, c.isDigit = true

/-- The digits of a whole number: zero, or digits that do not start with it. -/
def WholePart (cs : List Char) : Prop :=
  cs = ['0'] ∨ Digits cs ∧ cs.head? ≠ some '0'

/-- A point and digits, or nothing. -/
def FractionPart (cs : List Char) : Prop := cs = [] ∨ ∃ ds, cs = '.' :: ds ∧ Digits ds

/-- A letter `e`, a sign or none, and digits; or nothing. -/
def ExponentPart (cs : List Char) : Prop :=
  cs = [] ∨ ∃ e sign ds, cs = e :: (sign ++ ds) ∧ (e = 'e' ∨ e = 'E') ∧
    (sign = [] ∨ sign = ['+'] ∨ sign = ['-']) ∧ Digits ds

/-- The characters of a number. -/
def NumberChars (cs : List Char) : Prop :=
  ∃ sign whole fraction exponent, cs = sign ++ (whole ++ (fraction ++ exponent)) ∧
    (sign = [] ∨ sign = ['-']) ∧ WholePart whole ∧ FractionPart fraction ∧ ExponentPart exponent

/-! ## Texts -/

/-- The escapes of one letter, each with the character it stands for. -/
def shortEscapes : List (Char × Char) :=
  [('"', '"'), ('\\', '\\'), ('/', '/'), ('b', '\x08'), ('f', '\x0c'), ('n', '\n'), ('r', '\r'),
    ('t', '\t')]

/-- The characters between the quotes of a text, and the 16-bit units that they denote. -/
inductive TextChars : List Nat → List Char → Prop
  /-- Nothing more. -/
  | nil : TextChars [] []
  /-- A character as itself, which no quote, no backslash and no control character can be. -/
  | plain {c : Char} {us : List Nat} {cs : List Char} (hq : c ≠ '"') (hb : c ≠ '\\')
    (hc : 0x20 ≤ c.toNat) (h : TextChars us cs) : TextChars (units c ++ us) (c :: cs)
  /-- A short escape. -/
  | short {e c : Char} {us : List Nat} {cs : List Char} (he : (e, c) ∈ shortEscapes)
    (h : TextChars us cs) : TextChars (units c ++ us) ('\\' :: e :: cs)
  /-- A unit by its four hexadecimal digits, in either case. -/
  | hex {n : Nat} {ds : List Char} {us : List Nat} {cs : List Char} (hn : n < 0x10000)
    (hds : ds.map Char.toLower = fourHex n) (h : TextChars us cs) :
    TextChars (n :: us) ('\\' :: 'u' :: (ds ++ cs))

/-! ## Values -/

mutual

/-- The texts of the grammar, with the documents that they denote. -/
inductive Json.Written : Json → List Char → Prop
  /-- White space in front. -/
  | blankBefore {j : Json} {b : Char} {cs : List Char} (hb : b ∈ blanks) (h : j.Written cs) :
    Json.Written j (b :: cs)
  /-- White space behind. -/
  | blankAfter {j : Json} {b : Char} {cs : List Char} (hb : b ∈ blanks) (h : j.Written cs) :
    Json.Written j (cs ++ [b])
  /-- The null value. -/
  | null : Json.Written .null "null".toList
  /-- A truth value. -/
  | flag (b : Bool) : Json.Written (.flag b) (if b then "true" else "false").toList
  /-- A number. -/
  | number {cs : List Char} (h : NumberChars cs) : Json.Written (.number cs) cs
  /-- A text. -/
  | text {us : List Nat} {cs : List Char} (h : TextChars us cs) :
    Json.Written (.text us) ('"' :: (cs ++ ['"']))
  /-- A list without items. -/
  | emptyList {cs : List Char} (h : ∀ c ∈ cs, c ∈ blanks) :
    Json.Written (.list []) ('[' :: (cs ++ [']']))
  /-- A list with items. -/
  | list {js : List Json} {cs : List Char} (h : ItemsWritten js cs) :
    Json.Written (.list js) ('[' :: (cs ++ [']']))
  /-- An object without members. -/
  | emptyObject {cs : List Char} (h : ∀ c ∈ cs, c ∈ blanks) :
    Json.Written (.object []) ('\x7b' :: (cs ++ ['\x7d']))
  /-- An object with members. -/
  | object {ms : List (List Nat × Json)} {cs : List Char} (h : MembersWritten ms cs) :
    Json.Written (.object ms) ('\x7b' :: (cs ++ ['\x7d']))

/-- Items with a comma between neighbours. -/
inductive ItemsWritten : List Json → List Char → Prop
  /-- The last item. -/
  | last {j : Json} {cs : List Char} (h : j.Written cs) : ItemsWritten [j] cs
  /-- An item that others follow. -/
  | cons {j : Json} {cs : List Char} {js : List Json} {rest : List Char} (h : j.Written cs)
    (hs : ItemsWritten js rest) : ItemsWritten (j :: js) (cs ++ ',' :: rest)

/-- Members with a comma between neighbours. -/
inductive MembersWritten : List (List Nat × Json) → List Char → Prop
  /-- The last member. -/
  | last {key : List Nat} {ks : List Char} {j : Json} {cs : List Char}
    (hk : (Json.text key).Written ks) (h : j.Written cs) :
    MembersWritten [(key, j)] (ks ++ ':' :: cs)
  /-- A member that others follow. -/
  | cons {key : List Nat} {ks : List Char} {j : Json} {cs : List Char}
    {ms : List (List Nat × Json)} {rest : List Char} (hk : (Json.text key).Written ks)
    (h : j.Written cs) (hs : MembersWritten ms rest) :
    MembersWritten ((key, j) :: ms) (ks ++ ':' :: cs ++ ',' :: rest)

end

/-! ## The document of a value -/

/-- The document of a text. -/
def textJson (s : String) : Json := .text (textUnits s)

/-- The document of a literal without its type. -/
def literalContentJson : Literal → Json
  | .whole n => .number (wholeChars n.toInt)
  | .text s => textJson s
  | .untyped s => textJson s

/-- The document of a literal. -/
def literalJson (v : Literal) : Json :=
  .object [(textUnits "type", textJson (literalType v)), (textUnits "value", literalContentJson v)]

mutual

/-- The document of a value of a shape. -/
def Shape.json : (shape : Shape) → shape.Value → Json
  | .text, s => textJson s
  | .flag, b => .flag b
  | .whole _ _, n => .number (wholeChars n)
  | .choice _, name => textJson name
  | .literal, v => literalJson v
  | .list item, vs => .list (vs.map item.json)
  | .nullable inner, v? =>
    match v? with
    | none => .null
    | some v => inner.json v
  | .record _ fields, v => .object (fields.json v)

/-- The members of a record's value, under the units of their names. -/
def Fields.json : (fields : Fields) → fields.Value → List (List Nat × Json)
  | .done, _ => []
  | .required name shape rest, (v, more) => (textUnits name, shape.json v) :: rest.json more
  | .defaulted name shape rest, (v?, more) =>
    match v? with
    | none => rest.json more
    | some v => (textUnits name, shape.json v) :: rest.json more

end

/-! ## What a shape writes -/

theorem units_of_lt {c : Char} (h : c.toNat < 0x10000) : units c = [c.toNat] := if_pos h

theorem map_toLower_fourHex {n : Nat} : (fourHex n).map Char.toLower = fourHex n := by
  have hdigit : ∀ k < 16, (Char.ofNat (if k < 10 then 0x30 + k else 0x57 + k)).toLower =
      Char.ofNat (if k < 10 then 0x30 + k else 0x57 + k) := by decide
  simp only [fourHex, List.map_cons, List.map_nil,
    hdigit _ (Nat.mod_lt _ (by omega : 0 < 16))]

/-- A character that is escaped spells its units. -/
theorem textChars_escaped (c : Char) {us : List Nat} {cs : List Char} (h : TextChars us cs) :
    TextChars (units c ++ us) (escaped c ++ cs) := by
  rcases escaped_cases c with ⟨e, -, he, hx⟩ | ⟨hc, hx⟩ | ⟨hq, hb, hc, hx⟩
  · rw [hx]
    refine .short ?_ h
    unfold shortEscape? at he
    split at he <;> first | cases he; decide | cases he
  · have hlt : c.toNat < 0x20 := by simpa [isControl] using hc
    rw [hx, units_of_lt (by omega)]
    exact .hex (by omega) map_toLower_fourHex h
  · rw [hx]
    exact .plain hq hb (by simpa [isControl] using hc) h

theorem textChars_flatMap_escaped (cs : List Char) :
    TextChars (cs.flatMap units) (cs.flatMap escaped) := by
  induction cs with
  | nil => exact .nil
  | cons c cs ih => exact textChars_escaped c ih

/-- A text is written in quotes. -/
theorem written_quoted (s : String) : (textJson s).Written (quoted s) :=
  .text (textChars_flatMap_escaped s.toList)

theorem wholePart_toDigits (n : Nat) : WholePart (Nat.toDigits 10 n) := by
  rcases Nat.eq_zero_or_pos n with rfl | hn
  · exact .inl (Nat.toDigits_zero 10)
  · obtain ⟨k, cs, hk, hcs, -, hdigits⟩ := toDigits_of_pos hn
    have hne : (k + 1).digitChar ≠ '0' := by
      have h : ∀ k < 9, (k + 1).digitChar ≠ '0' := by decide
      exact h k (by omega)
    refine .inr ⟨⟨by simp [hdigits], ?_⟩, by simp [hdigits, hne]⟩
    intro c hc
    exact isDigit_of_mem_toDigits hc

/-- A whole number is written as a number. -/
theorem numberChars_wholeChars (n : Int) : NumberChars (wholeChars n) := by
  by_cases hn : 0 ≤ n
  · exact ⟨[], Nat.toDigits 10 n.toNat, [], [], by rw [wholeChars_of_nonneg hn]; simp, .inl rfl,
      wholePart_toDigits _, .inl rfl, .inl rfl⟩
  · exact ⟨['-'], Nat.toDigits 10 (-n).toNat, [], [],
      by rw [wholeChars_of_neg (by omega)]; simp, .inr rfl, wholePart_toDigits _, .inl rfl,
      .inl rfl⟩

theorem itemsWritten_joinedChars {js : List Json} {parts : List (List Char)}
    (h : List.Forall₂ Json.Written js parts) (hne : js ≠ []) :
    ItemsWritten js (joinedChars parts) := by
  induction h with
  | nil => exact absurd rfl hne
  | @cons j part js parts hj hjs ih =>
    cases hjs with
    | nil => exact .last hj
    | cons hn hjs => exact .cons hj (ih (by simp))

theorem written_bracketed {js : List Json} {parts : List (List Char)}
    (h : List.Forall₂ Json.Written js parts) : (Json.list js).Written (bracketed parts) := by
  cases h with
  | nil => exact @Json.Written.emptyList [] (by simp)
  | cons hj hjs => exact .list (itemsWritten_joinedChars (.cons hj hjs) (by simp))

/-- A list whose items are written is written. -/
theorem written_list {α : Type} {write : α → List Char} {json : α → Json} {vs : List α}
    (h : ∀ v ∈ vs, (json v).Written (write v)) :
    (Json.list (vs.map json)).Written (bracketed (vs.map write)) := by
  refine written_bracketed ?_
  rw [List.forall₂_map_left_iff, List.forall₂_map_right_iff, List.forall₂_same]
  exact h

/-- A member that is written as its key, a colon and its value. -/
def MemberWritten (m : List Nat × Json) (part : List Char) : Prop :=
  ∃ ks cs, part = ks ++ ':' :: cs ∧ (Json.text m.1).Written ks ∧ m.2.Written cs

theorem memberWritten_memberChars (name : String) {j : Json} {cs : List Char} (h : j.Written cs) :
    MemberWritten (textUnits name, j) (memberChars name cs) :=
  ⟨_, _, rfl, written_quoted name, h⟩

theorem membersWritten_joinedChars {ms : List (List Nat × Json)} {parts : List (List Char)}
    (h : List.Forall₂ MemberWritten ms parts) (hne : ms ≠ []) :
    MembersWritten ms (joinedChars parts) := by
  induction h with
  | nil => exact absurd rfl hne
  | @cons m part ms parts hm hms ih =>
    obtain ⟨ks, cs, rfl, hk, hj⟩ := hm
    cases hms with
    | nil => exact .last hk hj
    | cons hn hms => exact .cons hk hj (ih (by simp))

/-- An object whose members are written is written. -/
theorem written_braced {ms : List (List Nat × Json)} {parts : List (List Char)}
    (h : List.Forall₂ MemberWritten ms parts) : (Json.object ms).Written (braced parts) := by
  cases h with
  | nil => exact @Json.Written.emptyObject [] (by simp)
  | cons hm hms => exact .object (membersWritten_joinedChars (.cons hm hms) (by simp))

theorem written_literalContent (v : Literal) :
    (literalContentJson v).Written (literalContent v) := by
  cases v with
  | whole n => exact .number (numberChars_wholeChars n.toInt)
  | text s => exact written_quoted s
  | untyped s => exact written_quoted s

mutual

/-- The document of a value is written as its shape writes the value. -/
theorem Shape.written_json : ∀ (shape : Shape) (v : shape.Value),
    (shape.json v).Written (shape.write v)
  | .text, s => written_quoted s
  | .flag, b => .flag b
  | .whole _ _, n => .number (numberChars_wholeChars n)
  | .choice _, name => written_quoted name
  | .literal, v =>
    written_braced (.cons (memberWritten_memberChars "type" (written_quoted _))
      (.cons (memberWritten_memberChars "value" (written_literalContent v)) .nil))
  | .list item, _ => written_list fun v _ => item.written_json v
  | .nullable _, none => .null
  | .nullable inner, some v => inner.written_json v
  | .record _ fields, v => written_braced (fields.written_json v)

theorem Fields.written_json : ∀ (fields : Fields) (v : fields.Value),
    List.Forall₂ MemberWritten (fields.json v) (fields.write v)
  | .done, _ => .nil
  | .required name shape rest, (v, more) =>
    .cons (memberWritten_memberChars name (shape.written_json v)) (rest.written_json more)
  | .defaulted _ _ rest, (none, more) => rest.written_json more
  | .defaulted name shape rest, (some v, more) =>
    .cons (memberWritten_memberChars name (shape.written_json v)) (rest.written_json more)

end

end QueryPipe.Wire
