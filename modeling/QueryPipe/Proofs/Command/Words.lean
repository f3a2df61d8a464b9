import QueryPipe.Command.Invocation
import QueryPipe.Proofs.Numeral.Whole

/-!
# Tools written as words

A tool that is written out is read back as it was. A value attached to its switch is taken as it
stands, whatever it looks like, since only the first `=` of the word counts; and after `--` every
word is an operand. What a grammar restricts is restricted here as well, and nothing else.

* `WordKind.of_attached`, `WordKind.of_flag`: what the words look like.
* `Grammar.readFrom_texts`, `readFrom_once`, `readFrom_flagged`, `readFrom_operands`: how they are
  taken down, whatever follows the switches.
* `ofWords_cat` and so on: what becomes of each tool that is written out.
* `Tool.ofWords_toWords_iff`: the tools that are read back.
-/

namespace QueryPipe.Command

/-! ## Words -/

/-- The first equals sign ends the name of a switch. -/
theorem splitValue_append_cons {name : List Char} (h : '=' ∉ name) (value : List Char) :
    splitValue (name ++ '=' :: value) = (name, some value) := by
  induction name with
  | nil => simp [splitValue]
  | cons c name ih =>
    rw [List.mem_cons, not_or] at h
    have hc : (c == '=') = false := by simpa using Ne.symm h.1
    simp [splitValue, hc, ih h.2]

theorem splitValue_of_notMem {name : List Char} (h : '=' ∉ name) :
    splitValue name = (name, none) := by
  induction name with
  | nil => rfl
  | cons c name ih =>
    rw [List.mem_cons, not_or] at h
    have hc : (c == '=') = false := by simpa using Ne.symm h.1
    simp [splitValue, hc, ih h.2]

/-- Two hyphens and more are the name of a switch, with a value or not. -/
theorem WordKind.of_hyphens {word : String} {rest : List Char}
    (hword : word.toList = '-' :: '-' :: rest) (hrest : rest ≠ []) :
    WordKind.of word = .long (String.ofList (splitValue rest).1)
      ((splitValue rest).2.map String.ofList) := by
  obtain ⟨c, rest, rfl⟩ := List.exists_cons_of_ne_nil hrest
  rw [WordKind.of, hword]
  rfl

/-- A value attached to a switch is all that follows the first `=`. -/
theorem WordKind.of_attached {long : String} (h : '=' ∉ long.toList) (value : String) :
    WordKind.of (attached long value) = .long long (some value) := by
  have hword : (attached long value).toList =
      '-' :: '-' :: (long.toList ++ '=' :: value.toList) := by
    simp [attached]
  rw [of_hyphens hword (by simp), splitValue_append_cons h]
  simp

/-- Two hyphens and a name without an equals sign are a switch without a value. -/
theorem WordKind.of_flag {long : String} (hsome : long ≠ "") (h : '=' ∉ long.toList) :
    WordKind.of ("--" ++ long) = .long long none := by
  have hword : ("--" ++ long).toList = '-' :: '-' :: long.toList := by simp
  rw [of_hyphens hword (by simpa using hsome), splitValue_of_notMem h]
  simp

/-- A number is read as it is written. -/
theorem readCount?_digits (n : UInt32) : readCount? (digits n) = some n := by
  have hlt : n.toNat < 4294967296 := n.toNat_lt
  have hvalue : (Int64.ofNat n.toNat).toInt = n.toNat := by
    rw [Int64.toInt_ofNat_of_lt (by omega)]
  have hread : Numeral.Whole.readInt64 (digits n) = .ok (Int64.ofNat n.toNat) := by
    rw [Numeral.Whole.readInt64_eq_ok_iff, hvalue]
    exact Numeral.Whole.spells_toString n.toNat
  have htwo : (Numeral.twoTo 32 : Int) = 4294967296 := by decide
  rw [readCount?, hread]
  simp only [hvalue, Int.natCast_nonneg, true_and, Int.toNat_natCast, UInt32.ofNat_toNat]
  rw [if_pos]
  omega

/-! ## Entries -/

/-- Texts under one name. -/
def textEntries (name : String) (values : List String) : List Entry := values.map (.text name)

/-- A flag, where it is set. -/
def flagEntries (name : String) (set : Bool) : List Entry := if set then [.flag name] else []

section Entries

variable {name : String} {es es' : List Entry}

@[simp] theorem present_append : present (es ++ es') name = (present es name || present es' name) :=
  List.any_append

@[simp] theorem textsOf_append : textsOf (es ++ es') name = textsOf es name ++ textsOf es' name :=
  List.filterMap_append

@[simp] theorem present_textEntries (other : String) (values : List String) :
    present (textEntries other values) name = (other == name && !values.isEmpty) := by
  cases values with
  | nil => simp [present, textEntries]
  | cons value values =>
    cases hname : other == name <;> simp [present, textEntries, Entry.name, hname]

@[simp] theorem present_flagEntries (other : String) (set : Bool) :
    present (flagEntries other set) name = (other == name && set) := by
  cases set <;> simp [present, flagEntries, Entry.name]

@[simp] theorem textsOf_textEntries (other : String) (values : List String) :
    textsOf (textEntries other values) name = if other == name then values else [] := by
  induction values with
  | nil => simp [textsOf, textEntries]
  | cons value values ih =>
    simp only [textsOf, textEntries, List.map_cons, List.filterMap_cons] at ih ⊢
    rw [ih]
    cases other == name <;> simp

@[simp] theorem textsOf_flagEntries (other : String) (set : Bool) :
    textsOf (flagEntries other set) name = [] := by
  cases set <;> simp [textsOf, flagEntries]

end Entries

/-! ## Reading -/

namespace Grammar

/-- Whether a switch of a long name is given in some way with some values. -/
def Offers (g : Grammar) (long : String) (arity : Arity) (domain : Domain) : Prop :=
  long ≠ "" ∧ '=' ∉ long.toList ∧
    (g.byLong? long).map (fun s => (s.arity, s.domain)) = some (arity, domain)

instance (g : Grammar) (long : String) (arity : Arity) (domain : Domain) :
    Decidable (g.Offers long arity domain) :=
  inferInstanceAs (Decidable (_ ∧ _ ∧ _))

variable {g : Grammar} {o : Operands} {es : List Entry} {rest words : List String}

/-- A switch that is offered is found by its name. -/
theorem Offers.exists_switch {long : String} {arity : Arity} {domain : Domain}
    (h : g.Offers long arity domain) :
    ∃ s, g.byLong? long = some s ∧ s.long = long ∧ s.arity = arity ∧ s.domain = domain := by
  obtain ⟨s, hs, hgiven⟩ := Option.map_eq_some_iff.1 h.2.2
  have hlong : s.long = long := by simpa using List.find?_some hs
  obtain ⟨rfl, rfl⟩ := Prod.mk.inj hgiven
  exact ⟨s, hs, hlong, rfl, rfl⟩

/-- A value attached to a switch is taken down at once. -/
theorem readFrom_attached {s : Switch} {long value : String} (hs : g.byLong? long = some s)
    (hvalue : s.arity.takesValue = true) (hplain : '=' ∉ long.toList) :
    g.readFrom { entries := es } (attached long value :: rest) =
      (s.add value es).bind fun es' => g.readFrom { entries := es' } rest := by
  have hword : g.readWord { entries := es } (attached long value) =
      (s.add value es).map fun es' => { entries := es' } := by
    simp only [readWord, readKind, WordKind.of_attached hplain, readLong, hs, hvalue, if_true,
      Bool.false_eq_true, if_false, Reading.attach, Reading.settle, Reading.settledEntries,
      Except.map, bind, Except.bind, pure, Except.pure]
  rw [readFrom, hword]
  cases s.add value es <;> rfl

/-- So are any number of texts under a switch that may be given so often, -/
theorem readFrom_texts (long : String) (hoffers : g.Offers long .many .text)
    (values : List String) :
    g.readFrom { entries := es } (attachedAll long values ++ rest) =
      g.readFrom { entries := es ++ textEntries long values } rest := by
  obtain ⟨s, hs, hlong, hmany, hdomain⟩ := hoffers.exists_switch
  have hvalue : s.arity.takesValue = true := by rw [hmany]; rfl
  induction values generalizing es with
  | nil => simp [attachedAll, textEntries]
  | cons value values ih =>
    have hadd : s.add value es = .ok (es ++ [.text long value]) := by
      simp [Switch.add, hmany, hdomain, Domain.entry, Except.map, hlong]
    rw [attachedAll, List.map_cons, List.cons_append,
      readFrom_attached hs hvalue hoffers.2.1, hadd, Except.bind, ← attachedAll, ih, textEntries,
      textEntries, List.map_cons, List.append_assoc, List.singleton_append]

/-- and at most one under a switch that may be given once. -/
theorem readFrom_once {long : String} {domain : Domain} (hoffers : g.Offers long .once domain)
    {value? : Option String}
    (hentry : ∀ value ∈ value?, domain.entry long value = .ok (.text long value))
    (hnew : present es long = false) :
    g.readFrom { entries := es } (attachedAll long value?.toList ++ rest) =
      g.readFrom { entries := es ++ textEntries long value?.toList } rest := by
  obtain ⟨s, hs, hlong, honce, hdomain⟩ := hoffers.exists_switch
  have hvalue : s.arity.takesValue = true := by rw [honce]; rfl
  cases value? with
  | none => simp [attachedAll, textEntries]
  | some value =>
    have hadd : s.add value es = .ok (es ++ [.text long value]) := by
      simp [Switch.add, hlong, hnew, hdomain, hentry value rfl, Except.map]
    have hwords : attachedAll long (some value).toList ++ rest = attached long value :: rest := rfl
    rw [hwords, readFrom_attached hs hvalue hoffers.2.1, hadd]
    rfl

/-- A switch with a text, given for the first time, is entered. -/
theorem readFrom_text (long : String) (hoffers : g.Offers long .once .text)
    {value? : Option String} (hnew : present es long = false) :
    g.readFrom { entries := es } (attachedAll long value?.toList ++ rest) =
      g.readFrom { entries := es ++ textEntries long value?.toList } rest :=
  readFrom_once hoffers (fun _ _ => rfl) hnew

/-- A flag, set for the first time, is entered. -/
theorem readFrom_flagged (long : String) (hoffers : g.Offers long .flag .text)
    {set : Bool} (hnew : present es long = false) :
    g.readFrom { entries := es } (flagged long set ++ rest) =
      g.readFrom { entries := es ++ flagEntries long set } rest := by
  obtain ⟨s, hs, hlong, hflag, -⟩ := hoffers.exists_switch
  cases set with
  | false => simp [flagged, flagEntries]
  | true =>
    have hword : g.readWord { entries := es } ("--" ++ long) =
        .ok { entries := es ++ [.flag long] } := by
      have hhelp : (Arity.flag == .help) = false := by decide
      simp only [readWord, readKind, WordKind.of_flag hoffers.1 hoffers.2.1, readLong, hs, hflag,
        Arity.takesValue, Bool.false_eq_true, if_false, Reading.mark, Reading.settle,
        Reading.settledEntries, Except.map, bind, Except.bind, hhelp, hlong, hnew]
    have hwords : flagged long true ++ rest = ("--" ++ long) :: rest := rfl
    rw [hwords, readFrom, hword]
    rfl

/-- After `--`, nothing but operands follows. -/
theorem readFrom_separator :
    g.readFrom { entries := es } ("--" :: words) =
      g.readFrom { entries := es, operandsOnly := true } words := by
  have hword : WordKind.of "--" = .separator := by decide
  rw [readFrom, readWord, readKind, hword]
  rfl

/-- Entries as the grammar restricts them. -/
def checked (g : Grammar) (es : List Entry) : Except UsageFault (List Entry) :=
  (g.check es).map fun _ => es

theorem readFrom_nil (r : Reading) : g.readFrom r [] = r.settledEntries.bind g.checked := by
  rw [readFrom]
  cases r.settledEntries with
  | error fault => rfl
  | ok es =>
    simp only [bind, Except.bind, checked]
    cases g.check es <;> rfl

/-- Behind the separator every word is an operand. -/
theorem readFrom_pendingOperands {before : List String} (ho : g.operands? = some o)
    (hseveral : o.several = true) :
    g.readFrom ⟨es, .operands o before, true⟩ words =
      (o.add (before ++ words) es).bind g.checked := by
  induction words generalizing before with
  | nil => rw [readFrom_nil, List.append_nil]; rfl
  | cons word words ih =>
    have hfull : Reading.isFull ⟨es, .operands o before, true⟩ o = false := by
      simp [Reading.isFull, hseveral]
    have hword : g.readWord ⟨es, .operands o before, true⟩ word =
        .ok ⟨es, .operands o (before ++ [word]), true⟩ := by
      simp only [readWord, if_true, ho, Reading.operand, hfull, Bool.false_eq_true, if_false]
    rw [readFrom, hword]
    simp only
    rw [ih, List.append_assoc, List.singleton_append]

/-- Operands after `--` are taken down together, whatever they look like. -/
theorem readFrom_operands (ho : g.operands? = some o)
    (hmay : o.several = true ∨ words.length ≤ 1 ∧ present es o.name = false) :
    g.readFrom { entries := es, operandsOnly := true } words = (o.add words es).bind g.checked := by
  cases words with
  | nil =>
    have hnone : o.add [] es = .ok es := by
      cases hmost : o.most <;> simp [Operands.add, hmost, Operands.entries, Except.map]
    rw [readFrom_nil, hnone]
    rfl
  | cons word words =>
    -- a single operand is refused only where another was taken down before
    have hfull : Reading.isFull { entries := es, operandsOnly := true } o = false := by
      rcases hmay with hseveral | ⟨-, hnew⟩
      · simp [Reading.isFull, hseveral]
      · simp [Reading.isFull, hnew]
    have hword : g.readWord { entries := es, operandsOnly := true } word =
        .ok ⟨es, .operands o [word], true⟩ := by
      simp only [readWord, if_true, ho, Reading.operand, hfull, Bool.false_eq_true, if_false,
        Reading.settle, Reading.settledEntries, Except.map, bind, Except.bind, pure, Except.pure]
    rw [readFrom, hword]
    rcases hmay with hseveral | ⟨hone, -⟩
    · exact readFrom_pendingOperands ho hseveral
    · obtain rfl : words = [] := by simpa using hone
      exact readFrom_nil _

end Grammar

theorem Operands.entries_texts {o : Operands} (hdomain : o.domain = .text) (words : List String) :
    o.entries words = .ok (textEntries o.name words) := by
  induction words with
  | nil => rfl
  | cons word words ih =>
    simp only [Operands.entries, hdomain, Domain.entry, ih, Except.map, textEntries, List.map_cons]

/-- Operands are entered as they are, unless there are too many. -/
theorem Operands.add_texts {o : Operands} (hdomain : o.domain = .text) (words : List String)
    (es : List Entry) :
    o.add words es = if o.most.any (· < words.length) then .error .surplus
      else .ok (es ++ textEntries o.name words) := by
  rw [Operands.add, entries_texts hdomain]
  rfl

/-! ## Tools -/

/-- Whether a tool keeps to its grammar: something is read, no more operands follow than are taken,
nothing excludes something else, and a file that is written has a name. -/
def Tool.IsAllowed : Tool → Prop
  | .cat r => r.datasets ≠ []
  | .grep r => r.operands.length ≤ 3 ∧ ¬ (r.integer = true ∧ r.text = true)
  | .head r => ¬ (r.lines?.isSome = true ∧ r.count?.isSome = true)
  | .eval r => [r.csv, r.parquet, r.column].count true ≤ 1 ∧ r.out? ≠ some ""
  | .sql _ | .cut _ | .sort _ | .join _ => True

section Tools

open Grammar

/-- The words of a tool are its switches, and then operands only. -/
theorem ofWords_of_switches {t : Tool} {reader : Reader} {es : List Entry}
    (hreader : reader? t.name = some reader)
    (hswitches : ∀ rest, reader.grammar.readFrom {} (t.switchesAndOperands.1 ++ rest) =
      reader.grammar.readFrom { entries := es } rest) :
    Tool.ofWords t.toWords =
      (reader.grammar.readFrom { entries := es, operandsOnly := true }
        t.switchesAndOperands.2).map reader.tool := by
  rw [Tool.toWords, Tool.ofWords, hreader]
  simp only [Grammar.read]
  rw [hswitches, readFrom_separator]

/-- Where any number of texts may follow, they are all taken down. -/
theorem ofWords_of_texts {t : Tool} {reader : Reader} {es : List Entry} {o : Operands}
    (hreader : reader? t.name = some reader)
    (hswitches : ∀ rest, reader.grammar.readFrom {} (t.switchesAndOperands.1 ++ rest) =
      reader.grammar.readFrom { entries := es } rest)
    (ho : reader.grammar.operands? = some o) (hseveral : o.several = true)
    (hdomain : o.domain = .text) :
    Tool.ofWords t.toWords =
      if o.most.any (· < t.switchesAndOperands.2.length) then .error .surplus
      else (reader.grammar.checked
        (es ++ textEntries o.name t.switchesAndOperands.2)).map reader.tool := by
  rw [ofWords_of_switches hreader hswitches, readFrom_operands ho (.inl hseveral),
    Operands.add_texts hdomain]
  split <;> rfl

/-- A source of datasets is read back if it names one. -/
theorem ofWords_cat (r : CatRequest) :
    Tool.ofWords (Tool.cat r).toWords =
      if r.datasets = [] then .error .missing else .ok (.cat r) := by
  have hswitches : ∀ rest, CatRequest.grammar.readFrom {}
      ((Tool.cat r).switchesAndOperands.1 ++ rest) = CatRequest.grammar.readFrom
        { entries := textEntries "alias" r.alias?.toList ++
          textEntries "column" r.columns } rest := by
    intro rest
    simp only [Tool.switchesAndOperands, List.append_assoc]
    rw [readFrom_text "alias" (by decide) rfl, readFrom_texts "column" (by decide),
      List.nil_append]
  rw [ofWords_of_texts rfl hswitches rfl rfl rfl]
  by_cases h : r.datasets = [] <;>
    simp [Tool.switchesAndOperands, checked, check, CatRequest.grammar, Except.map, h,
      CatRequest.ofEntries, textOf?]

theorem ofWords_sql (text : String) : Tool.ofWords (Tool.sql text).toWords = .ok (.sql text) := by
  have hone : (Tool.sql text).switchesAndOperands.2.length ≤ 1 := Nat.le_refl 1
  rw [ofWords_of_switches rfl fun _ => rfl, readFrom_operands rfl (.inr ⟨hone, rfl⟩),
    Operands.add_texts rfl]
  rfl

theorem ofWords_cut (r : CutRequest) : Tool.ofWords (Tool.cut r).toWords = .ok (.cut r) := by
  have hswitches : ∀ rest, CutRequest.grammar.readFrom {}
      ((Tool.cut r).switchesAndOperands.1 ++ rest) = CutRequest.grammar.readFrom
        { entries := textEntries "field" r.fields } rest :=
    fun _ => readFrom_texts "field" (by decide) r.fields
  rw [ofWords_of_texts rfl hswitches rfl rfl rfl]
  simp [Tool.switchesAndOperands, checked, check, CutRequest.grammar, Except.map,
    CutRequest.ofEntries]

/-- A filter is read back if it has no more than three operands and one type at most. -/
theorem ofWords_grep (r : GrepRequest) :
    Tool.ofWords (Tool.grep r).toWords =
      if 3 < r.operands.length then .error .surplus
      else if r.integer = true ∧ r.text = true then .error .conflict else .ok (.grep r) := by
  have hswitches : ∀ rest, GrepRequest.grammar.readFrom {}
      ((Tool.grep r).switchesAndOperands.1 ++ rest) = GrepRequest.grammar.readFrom
        { entries := textEntries "field" r.field?.toList ++
          textEntries "predicate" r.predicate?.toList ++ textEntries "value" r.value?.toList ++
          flagEntries "integer" r.integer ++ flagEntries "text" r.text } rest := by
    intro rest
    simp only [Tool.switchesAndOperands, List.append_assoc]
    rw [readFrom_text "field" (by decide) rfl, readFrom_text "predicate" (by decide) (by simp),
      readFrom_text "value" (by decide) (by simp),
      readFrom_flagged "integer" (by decide) (by simp),
      readFrom_flagged "text" (by decide) (by simp)]
    simp only [List.nil_append, List.append_assoc]
  have hcheck : (r.integer && r.text) = decide (r.integer = true ∧ r.text = true) := by
    cases r.integer <;> cases r.text <;> rfl
  rw [ofWords_of_texts rfl hswitches rfl rfl rfl]
  by_cases hmany : 3 < r.operands.length
  · simp [Tool.switchesAndOperands, hmany]
  · by_cases hboth : r.integer = true ∧ r.text = true <;>
      simp [Tool.switchesAndOperands, hmany, checked, check, GrepRequest.grammar, hcheck, hboth,
        Except.map, GrepRequest.ofEntries, textOf?]

theorem ofWords_sort (r : SortRequest) : Tool.ofWords (Tool.sort r).toWords = .ok (.sort r) := by
  have hswitches : ∀ rest, SortRequest.grammar.readFrom {}
      ((Tool.sort r).switchesAndOperands.1 ++ rest) = SortRequest.grammar.readFrom
        { entries := textEntries "field" r.fields ++
          flagEntries "reverse" r.reverse } rest := by
    intro rest
    simp only [Tool.switchesAndOperands, List.append_assoc]
    rw [readFrom_texts "field" (by decide), readFrom_flagged "reverse" (by decide) (by simp),
      List.nil_append]
  rw [ofWords_of_texts rfl hswitches rfl rfl rfl]
  simp [Tool.switchesAndOperands, checked, check, SortRequest.grammar, Except.map,
    SortRequest.ofEntries]

theorem ofWords_join (r : JoinRequest) : Tool.ofWords (Tool.join r).toWords = .ok (.join r) := by
  have hswitches : ∀ rest, JoinRequest.grammar.readFrom {}
      ((Tool.join r).switchesAndOperands.1 ++ rest) = JoinRequest.grammar.readFrom
        { entries := textEntries "table" [r.table] ++
          textEntries "alias" r.alias?.toList ++ textEntries "how" [r.how] ++
          textEntries "left" r.left ++ textEntries "predicate" r.predicate ++
          textEntries "right" r.right } rest := by
    intro rest
    have hwords : (Tool.join r).switchesAndOperands.1 ++ rest =
        attachedAll "table" (some r.table).toList ++ (attachedAll "alias" r.alias?.toList ++
          (attachedAll "how" (some r.how).toList ++ (attachedAll "left" r.left ++
            (attachedAll "predicate" r.predicate ++ (attachedAll "right" r.right ++ rest))))) := by
      simp [Tool.switchesAndOperands, attachedAll]
    rw [hwords, readFrom_text "table" (by decide) rfl,
      readFrom_text "alias" (by decide) (by simp),
      readFrom_text "how" (by decide) (by simp),
      readFrom_texts "left" (by decide), readFrom_texts "predicate" (by decide),
      readFrom_texts "right" (by decide)]
    rfl
  rw [ofWords_of_texts rfl hswitches rfl rfl rfl]
  simp [Tool.switchesAndOperands, checked, check, JoinRequest.grammar, Except.map,
    JoinRequest.ofEntries, textOf?]

/-- A number is not a text, so it is taken down in its own way. -/
theorem readFrom_lines (lines? : Option UInt32) (rest : List String) :
    HeadRequest.grammar.readFrom {} (attachedAll "lines" (lines?.map digits).toList ++ rest) =
      HeadRequest.grammar.readFrom { entries := lines?.toList.map (.number "lines") } rest := by
  cases lines? with
  | none => rfl
  | some n =>
    have hs : HeadRequest.grammar.byLong? "lines" = some
        { long := "lines", short := some 'n', arity := .once, domain := .number } := by decide
    have hadd : Switch.add { long := "lines", short := some 'n', arity := .once, domain := .number }
        (digits n) [] = .ok [.number "lines" n] := by
      simp [Switch.add, present, Domain.entry, readCount?_digits, Except.map]
    have hwords : attachedAll "lines" ((some n).map digits).toList ++ rest =
        attached "lines" (digits n) :: rest := rfl
    rw [hwords, readFrom_attached hs rfl (by decide), hadd]
    rfl

/-- A limit is read back if it is given once. -/
theorem ofWords_head (r : HeadRequest) :
    Tool.ofWords (Tool.head r).toWords =
      if r.lines?.isSome = true ∧ r.count?.isSome = true then .error .conflict
      else .ok (.head r) := by
  have hadd : ∀ es, Operands.add ⟨"LINES", .number, false, none⟩ (r.count?.map digits).toList es =
      .ok (es ++ r.count?.toList.map (.number "LINES")) := by
    intro es
    cases r.count? with
    | none => simp [Operands.add, Operands.entries, Except.map]
    | some n => simp [Operands.add, Operands.entries, Domain.entry, readCount?_digits, Except.map]
  rw [ofWords_of_switches rfl (readFrom_lines r.lines?), readFrom_operands rfl (.inr ⟨?_, ?_⟩),
    Tool.switchesAndOperands, hadd]
  · obtain ⟨lines?, count?⟩ := r
    cases lines? <;> cases count? <;>
      simp [Except.bind, checked, check, HeadRequest.grammar, present, Entry.name, Except.map,
        HeadRequest.ofEntries, numberOf?]
  · cases hcount : r.count? <;> simp [Tool.switchesAndOperands, hcount]
  · cases r.lines? <;> simp [present, Entry.name]

theorem ofWords_eval_pathless {r : EvalRequest} (hout : r.out? = some "") :
    Tool.ofWords (Tool.eval r).toWords = .error .withoutValue := by
  have hs : EvalRequest.grammar.byLong? "out" = some
      { long := "out", short := some 'o', arity := .once, domain := .path } := by decide
  have hread : EvalRequest.grammar.read (Tool.eval r).toWords.tail = .error .withoutValue := by
    simp only [Tool.toWords, Tool.switchesAndOperands, hout, List.tail_cons, List.append_assoc]
    exact readFrom_attached hs rfl (by decide)
  have hof : Tool.ofWords (Tool.eval r).toWords =
      (EvalRequest.grammar.read (Tool.eval r).toWords.tail).map fun es => .eval (.ofEntries es) :=
    rfl
  rw [hof, hread]
  rfl

/-- An evaluation is read back if its path is not empty and one format at most is asked for. -/
theorem ofWords_eval (r : EvalRequest) :
    Tool.ofWords (Tool.eval r).toWords =
      if r.out? = some "" then .error .withoutValue
      else if 1 < [r.csv, r.parquet, r.column].count true then .error .conflict
      else .ok (.eval r) := by
  by_cases hout : r.out? = some ""
  · rw [if_pos hout, ofWords_eval_pathless hout]
  -- from here on the path has something in it, so it is taken like any text
  have hoffers : EvalRequest.grammar.Offers "out" .once .path := by decide
  have hentry : ∀ value ∈ r.out?, Domain.path.entry "out" value = .ok (.text "out" value) := by
    intro value hvalue
    have hsome : value ≠ "" := by
      rintro rfl
      exact hout hvalue
    simp [Domain.entry, hsome]
  have hswitches : ∀ rest, EvalRequest.grammar.readFrom {}
      ((Tool.eval r).switchesAndOperands.1 ++ rest) = EvalRequest.grammar.readFrom
        { entries := textEntries "out" r.out?.toList ++ flagEntries "csv" r.csv ++
          flagEntries "parquet" r.parquet ++ flagEntries "column" r.column ++
          flagEntries "query" r.query } rest := by
    intro rest
    simp only [Tool.switchesAndOperands, List.append_assoc]
    rw [readFrom_once hoffers hentry rfl, readFrom_flagged "csv" (by decide) (by simp),
      readFrom_flagged "parquet" (by decide) (by simp),
      readFrom_flagged "column" (by decide) (by simp),
      readFrom_flagged "query" (by decide) (by simp)]
    simp only [List.nil_append, List.append_assoc]
  have hconflict : (r.csv && r.parquet || (r.csv && r.column || r.parquet && r.column)) =
      decide (1 < [r.csv, r.parquet, r.column].count true) := by
    cases r.csv <;> cases r.parquet <;> cases r.column <;> rfl
  rw [if_neg hout, ofWords_of_switches rfl hswitches, Tool.switchesAndOperands, readFrom_nil]
  by_cases hmany : 1 < [r.csv, r.parquet, r.column].count true <;>
    simp [Reading.settledEntries, Except.bind, hmany, hconflict, checked, check,
      EvalRequest.grammar, Except.map, EvalRequest.ofEntries, textOf?]

/-- A tool that is written out is read back as it was exactly if its grammar allows what it asks
for, whatever its texts are. -/
theorem Tool.ofWords_toWords_iff (t : Tool) : Tool.ofWords t.toWords = .ok t ↔ t.IsAllowed := by
  cases t with
  | cat r =>
    rw [ofWords_cat, IsAllowed]
    by_cases h : r.datasets = [] <;> simp [h]
  | sql text => exact iff_of_true (ofWords_sql text) trivial
  | cut r => exact iff_of_true (ofWords_cut r) trivial
  | grep r =>
    rw [ofWords_grep, IsAllowed, ← Nat.not_lt]
    by_cases hmany : 3 < r.operands.length
    · simp [hmany]
    · by_cases hboth : r.integer = true ∧ r.text = true <;> simp [hmany, hboth]
  | head r =>
    rw [ofWords_head, IsAllowed]
    by_cases h : r.lines?.isSome = true ∧ r.count?.isSome = true <;> simp [h]
  | sort r => exact iff_of_true (ofWords_sort r) trivial
  | join r => exact iff_of_true (ofWords_join r) trivial
  | eval r =>
    rw [ofWords_eval, IsAllowed, ← Nat.not_lt]
    by_cases hout : r.out? = some ""
    · simp [hout]
    · by_cases hmany : 1 < [r.csv, r.parquet, r.column].count true <;> simp [hout, hmany]

example :
    (Tool.join { table := "--", how := "", left := ["a=b", "-t"], operands := ["--help"] }).toWords =
      ["join", "--table=--", "--how=", "--left=a=b", "--left=-t", "--", "--help"] := by
  decide +kernel

end Tools

end QueryPipe.Command
