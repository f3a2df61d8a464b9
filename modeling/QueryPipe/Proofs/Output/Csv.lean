import QueryPipe.Output.Writer
import QueryPipe.Proofs.Dataset.Kinds
import QueryPipe.Proofs.Text.Lines
import QueryPipe.Proofs.Text.Utf8
import QueryPipe.Proofs.Typing.Lookup

/-!
# Comma separated values read back

What is written as comma separated values is a delimited file, and its records are those that were
written. The characters that mean something to a reader have UTF-8 forms of one byte, which no
other character contains; a field with one of them is quoted, and between quotes only a quote
means anything. Records are never empty, as a lone empty field is written as two quotes.

* `scan_content`: bytes that belong to a field.
* `scan_field`: a field brings the reader to where it may end.
* `scan_line`: a line is read as one record.
* `reads_linesOf`: a header and records are read back.
* `delimiterOf_csv`: the name of a file says that it holds such values.
-/

namespace QueryPipe

open Dataset

/-! ## Bytes -/

namespace Text

/-- A byte below the others that stands in the UTF-8 form of a character is the character. -/
theorem toNat_of_mem_utf8EncodeChar {c : Char} {b : UInt8} (hb : b.toNat < 128)
    (h : b ∈ String.utf8EncodeChar c) : c.toNat = b.toNat := by
  have hval : c.toNat = c.val.toNat := rfl
  unfold String.utf8EncodeChar at h
  rw [hval]
  generalize c.val.toNat = v at h ⊢
  simp only at h
  split at h
  · simp only [List.mem_singleton] at h
    subst h
    rw [UInt8.toNat_ofNat']
    omega
  · -- every byte of a longer form has its highest bit set
    exfalso
    split at h
    · simp only [List.mem_cons, List.not_mem_nil, or_false] at h
      rcases h with rfl | rfl <;> · rw [UInt8.toNat_ofNat'] at hb; omega
    · split at h
      · simp only [List.mem_cons, List.not_mem_nil, or_false] at h
        rcases h with rfl | rfl | rfl <;> · rw [UInt8.toNat_ofNat'] at hb; omega
      · simp only [List.mem_cons, List.not_mem_nil, or_false] at h
        rcases h with rfl | rfl | rfl | rfl <;> · rw [UInt8.toNat_ofNat'] at hb; omega

theorem encode_append (cs ds : List Char) : encode (cs ++ ds) = encode cs ++ encode ds :=
  List.flatMap_append

theorem encode_cons (c : Char) (cs : List Char) :
    encode (c :: cs) = String.utf8EncodeChar c ++ encode cs := rfl

theorem bytesOf_append (s t : String) : bytesOf (s ++ t) = bytesOf s ++ bytesOf t := by
  rw [bytesOf, String.toList_append, encode_append]
  rfl

theorem ofBytes?_bytesOf (s : String) : ofBytes? (bytesOf s) = some s := by
  have hchars : ∀ cs : List Char, chars? (cs.map .char) = some cs := by
    intro cs
    induction cs with
    | nil => rfl
    | cons c cs ih =>
      rw [chars?] at ih
      simp [chars?, Glyph.char?, ih]
  rw [ofBytes?, glyphs_bytesOf, glyphsOf, hchars]
  simp

end Text

/-! ## Fields -/

namespace Dataset

/-- The byte between two fields. -/
def commaByte : UInt8 := 0x2C

/-- The place after some bytes. -/
def Position.past (p : Position) (bytes : List UInt8) : Position := bytes.foldl Position.after p

/-- Some more bytes of the field. -/
def Draft.pushAll (d : Draft) (bytes : List UInt8) : Draft :=
  { d with field := bytes.reverse ++ d.field }

/-- Bytes that belong to a field. -/
theorem scan_content {delimiter : UInt8} {mode : Mode} {bytes : List UInt8}
    (h : ∀ b ∈ bytes, mode.role delimiter b = .content mode) (here : Position) (draft : Draft)
    (rest : List UInt8) :
    scan delimiter mode here draft (bytes ++ rest) =
      scan delimiter mode (here.past bytes) (draft.pushAll bytes) rest := by
  induction bytes generalizing here draft with
  | nil => rfl
  | cons b bytes ih =>
    rw [List.forall_mem_cons] at h
    rw [List.cons_append, scan]
    simp only [h.1]
    rw [ih h.2, Position.past, Position.past, List.foldl_cons]
    simp [Draft.push, Draft.pushAll]

/-- Whether a byte means something to a reader. -/
def isSpecialByte (b : UInt8) : Bool := b == commaByte || b == quoteByte || isTerminator b

theorem role_ordinary {b : UInt8} (h : isSpecialByte b = false) {mode : Mode}
    (hmode : mode = .fresh ∨ mode = .fieldStart ∨ mode = .plain) :
    mode.role commaByte b = .content .plain := by
  simp only [isSpecialByte, Bool.or_eq_false_iff] at h
  obtain ⟨⟨hcomma, hquote⟩, hend⟩ := h
  rcases hmode with rfl | rfl | rfl <;> simp [Mode.role, Role.outside, hcomma, hquote, hend]

theorem role_quoted {b : UInt8} (h : (b == quoteByte) = false) :
    Mode.quoted.role commaByte b = .content .quoted := by
  simp [Mode.role, h]

end Dataset

namespace Output.Csv

open Text (bytesOf encode)

/-- The bytes of a character that is not special are not either. -/
theorem isSpecialByte_of_mem {c : Char} (hc : isSpecial c = false) {b : UInt8}
    (hb : b ∈ String.utf8EncodeChar c) : isSpecialByte b = false := by
  rw [Bool.eq_false_iff]
  intro hspecial
  simp only [isSpecialByte, isTerminator, Bool.or_eq_true, beq_iff_eq] at hspecial
  have hsame : b.toNat < 128 → c = Char.ofNat b.toNat := fun hlt => by
    rw [← Text.toNat_of_mem_utf8EncodeChar hlt hb, Char.ofNat_toNat]
  rcases hspecial with (rfl | rfl) | rfl | rfl <;>
    · rw [hsame (by decide)] at hc
      exact absurd hc (by decide)

theorem ne_quoteByte_of_mem {c : Char} (hc : c ≠ '"') {b : UInt8}
    (hb : b ∈ String.utf8EncodeChar c) : (b == quoteByte) = false := by
  rw [beq_eq_false_iff_ne]
  rintro rfl
  have hquote := Text.toNat_of_mem_utf8EncodeChar (by decide) hb
  exact hc (Char.toNat_inj.1 hquote)

theorem ordinary_of_mem_encode {cs : List Char} (h : cs.any isSpecial = false) {b : UInt8}
    (hb : b ∈ encode cs) : isSpecialByte b = false := by
  obtain ⟨c, hc, hb⟩ := List.mem_flatMap.1 hb
  refine isSpecialByte_of_mem ?_ hb
  rw [List.any_eq_false] at h
  exact Bool.eq_false_iff.2 (h c hc)

/-- Between quotes, a quote is written twice and anything else as it is. -/
theorem scan_quoted (cs : List Char) (here : Position) (draft : Dataset.Draft) (rest : List UInt8) :
    ∃ here', scan commaByte .quoted here draft
        (encode (cs.flatMap fun c => if c == '"' then ['"', '"'] else [c]) ++ rest) =
      scan commaByte .quoted here' (draft.pushAll (encode cs)) rest := by
  induction cs generalizing here draft with
  | nil => exact ⟨here, rfl⟩
  | cons c cs ih =>
    rw [List.flatMap_cons, Text.encode_append, List.append_assoc]
    by_cases hc : c = '"'
    · subst hc
      obtain ⟨here', h⟩ := ih ((here.after quoteByte).after quoteByte) (draft.push quoteByte)
      have htwice : encode (if '"' == '"' then ['"', '"'] else ['"']) = [quoteByte, quoteByte] := by
        decide
      have hone : String.utf8EncodeChar '"' = [quoteByte] := by decide
      refine ⟨here', ?_⟩
      rw [htwice, Text.encode_cons, hone]
      refine Eq.trans ?_ (h.trans ?_)
      · rfl
      · simp [Dataset.Draft.push, Dataset.Draft.pushAll]
    · have hcontent : ∀ b ∈ String.utf8EncodeChar c,
          Mode.quoted.role commaByte b = .content .quoted :=
        fun b hb => role_quoted (ne_quoteByte_of_mem hc hb)
      obtain ⟨here', h⟩ := ih (here.past (String.utf8EncodeChar c))
        (draft.pushAll (String.utf8EncodeChar c))
      have hself : encode (if c == '"' then ['"', '"'] else [c]) = String.utf8EncodeChar c := by
        simp [hc, encode]
      refine ⟨here', ?_⟩
      rw [hself, scan_content hcontent, h]
      simp [Dataset.Draft.pushAll, Text.encode_cons]

/-- Where a reader may be once it has read a field. -/
inductive IsBehind (mode : Mode) (cs : List Char) : Mode → Prop
  /-- The field is empty, and nothing was read. -/
  | unmoved (h : cs = []) : IsBehind mode cs mode
  /-- The field was written as it is. -/
  | plain : IsBehind mode cs .plain
  /-- The field was quoted. -/
  | quoted : IsBehind mode cs .quoteSeen

/-- A field brings the reader to where it may end. -/
theorem scan_field (cs : List Char) {mode : Mode} (hmode : mode = .fresh ∨ mode = .fieldStart)
    (here : Position) (draft : Dataset.Draft) (rest : List UInt8) :
    ∃ mode' here', scan commaByte mode here draft (encode (fieldChars cs) ++ rest) =
        scan commaByte mode' here' (draft.pushAll (encode cs)) rest ∧ IsBehind mode cs mode' := by
  rw [fieldChars]
  cases hspecial : cs.any isSpecial with
  | true =>
    obtain ⟨here', h⟩ := scan_quoted cs (here.after quoteByte) draft (quoteByte :: rest)
    refine ⟨.quoteSeen, here'.after quoteByte, ?_, .quoted⟩
    have hopen : mode.role commaByte quoteByte = .mark .quoted := by
      rcases hmode with rfl | rfl <;> decide
    have hbytes : encode (quotedField cs) ++ rest = quoteByte ::
        (encode (cs.flatMap fun c => if c == '"' then ['"', '"'] else [c]) ++
          quoteByte :: rest) := by
      rw [quotedField, Text.encode_cons, Text.encode_append, List.append_assoc, List.append_assoc]
      rfl
    have hclose : Mode.quoted.role commaByte quoteByte = .mark .quoteSeen := by decide
    rw [if_pos rfl, hbytes, scan]
    simp only [hopen]
    rw [h, scan]
    simp only [hclose]
  | false =>
    rw [if_neg (by simp)]
    cases hcs : encode cs with
    | nil =>
      refine ⟨mode, here, rfl, .unmoved ?_⟩
      cases cs with
      | nil => rfl
      | cons c cs =>
        have hlength := String.length_utf8EncodeChar c
        have hpos := c.utf8Size_pos
        rw [Text.encode_cons, List.append_eq_nil_iff] at hcs
        rw [hcs.1, List.length_nil] at hlength
        omega
    | cons b bytes =>
      have hordinary : ∀ d ∈ b :: bytes, isSpecialByte d = false :=
        fun d hd => ordinary_of_mem_encode hspecial (hcs ▸ hd)
      rw [List.forall_mem_cons] at hordinary
      have hfirst : mode.role commaByte b = .content .plain :=
        role_ordinary hordinary.1 (hmode.elim .inl fun h => .inr (.inl h))
      have hrest : ∀ d ∈ bytes, Mode.plain.role commaByte d = .content .plain :=
        fun d hd => role_ordinary (hordinary.2 d hd) (.inr (.inr rfl))
      refine ⟨.plain, (here.after b).past bytes, ?_, .plain⟩
      rw [List.cons_append, scan]
      simp only [hfirst]
      rw [scan_content hrest]
      simp [Dataset.Draft.push, Dataset.Draft.pushAll]

/-! ## Records -/

theorem IsBehind.role_comma {mode mode' : Mode} {cs : List Char} (h : IsBehind mode cs mode')
    (hmode : mode = .fresh ∨ mode = .fieldStart) : mode'.role commaByte commaByte = .fieldEnd := by
  cases h with
  | unmoved h => rcases hmode with rfl | rfl <;> decide
  | plain => decide
  | quoted => decide

theorem IsBehind.role_lineFeed {mode mode' : Mode} {cs : List Char} (h : IsBehind mode cs mode')
    (hmode : mode = .fresh ∨ mode = .fieldStart) (hsome : mode = .fresh → cs ≠ []) :
    mode'.role commaByte 0x0A = .recordEnd := by
  cases h with
  | unmoved h =>
    rcases hmode with rfl | rfl
    · exact absurd h (hsome rfl)
    · decide
  | plain => decide
  | quoted => decide

theorem bytesOf_fieldText (s : String) : bytesOf (fieldText s) = encode (fieldChars s.toList) := by
  rw [bytesOf, fieldText, String.toList_ofList]

/-- The fields of a line are the fields of one record. -/
theorem scan_fields (f : String) (fs : List String) {mode : Mode}
    (hmode : mode = .fresh ∨ mode = .fieldStart) (hsome : mode = .fresh → f :: fs ≠ [""])
    (here : Position) {draft : Dataset.Draft} (hfield : draft.field = []) (rest : List UInt8) :
    ∃ place, scan commaByte mode here draft (bytesOf (recordBody (f :: fs)) ++ 0x0A :: rest) =
      ⟨draft.start, draft.fields.reverse ++ (f :: fs).map bytesOf⟩ ::
        scan commaByte .fresh place (.startingAt place) rest := by
  induction fs generalizing f mode here draft with
  | nil =>
    obtain ⟨mode', here', hscan, hbehind⟩ :=
      scan_field f.toList hmode here draft (0x0A :: rest)
    have hend : mode'.role commaByte 0x0A = .recordEnd := by
      refine hbehind.role_lineFeed hmode fun hfresh hempty => hsome hfresh ?_
      rw [String.toList_eq_nil_iff.1 hempty]
    have hbody : recordBody [f] = fieldText f := rfl
    rw [hbody, bytesOf_fieldText, hscan, scan]
    simp only [hend]
    refine ⟨{ here'.after 0x0A with record := (here'.after 0x0A).record + 1 }, ?_⟩
    simp [Dataset.Draft.record, Dataset.Draft.endField, Dataset.Draft.pushAll, hfield, bytesOf]
  | cons g fs ih =>
    have hbody : bytesOf (recordBody (f :: g :: fs)) ++ 0x0A :: rest =
        encode (fieldChars f.toList) ++
          commaByte :: (bytesOf (recordBody (g :: fs)) ++ 0x0A :: rest) := by
      have hjoined : recordBody (f :: g :: fs) = fieldText f ++ "," ++ recordBody (g :: fs) := rfl
      have hcomma : bytesOf "," = [commaByte] := by decide
      rw [hjoined, Text.bytesOf_append, Text.bytesOf_append, bytesOf_fieldText, hcomma]
      simp
    obtain ⟨mode', here', hscan, hbehind⟩ := scan_field f.toList hmode here draft
      (commaByte :: (bytesOf (recordBody (g :: fs)) ++ 0x0A :: rest))
    have hstart : (draft.pushAll (encode f.toList)).endField.field = [] := rfl
    obtain ⟨place, hmore⟩ := ih g (.inr rfl) (by simp) (here'.after commaByte) hstart
    refine ⟨place, ?_⟩
    rw [hbody, hscan, scan]
    simp only [hbehind.role_comma hmode]
    rw [hmore]
    simp [Dataset.Draft.endField, Dataset.Draft.pushAll, hfield, bytesOf]

theorem recordBody_eq_empty {fields : List String} (hsome : fields ≠ [])
    (h : recordBody fields = "") : fields = [""] := by
  have hempty : ∀ f : String, fieldText f = "" → f = "" := by
    intro f hf
    rw [fieldText, fieldChars] at hf
    split at hf
    · simp [quotedField] at hf
    · simpa using hf
  obtain ⟨f, rest, rfl⟩ := List.exists_cons_of_ne_nil hsome
  cases rest with
  | nil => rw [hempty f h]
  | cons g fs =>
    have hlength := congrArg String.length h
    simp [recordBody] at hlength

/-- A line is read as one record. -/
theorem scan_line {fields : List String} (hsome : fields ≠ []) (here start : Position)
    (rest : List UInt8) :
    ∃ place, scan commaByte .fresh here (.startingAt start) (bytesOf (line fields) ++ rest) =
      ⟨start, fields.map bytesOf⟩ :: scan commaByte .fresh place (.startingAt place) rest := by
  have hline : bytesOf (line fields) ++ rest = bytesOf (recordText fields) ++ 0x0A :: rest := by
    have hfeed : bytesOf "\n" = [0x0A] := by decide
    rw [line, Text.bytesOf_append, hfeed]
    simp
  rw [hline]
  by_cases hempty : recordBody fields = ""
  · obtain rfl := recordBody_eq_empty hsome hempty
    exact ⟨_, rfl⟩
  · have htext : recordText fields = recordBody fields := by
      simp [recordText, hempty]
    obtain ⟨f, fs, rfl⟩ := List.exists_cons_of_ne_nil hsome
    have hlone : f :: fs ≠ [""] := by
      intro h
      rw [h] at hempty
      exact hempty rfl
    rw [htext]
    exact scan_fields f fs (.inl rfl) (fun _ => hlone) here rfl rest

/-! ## Files -/

/-- The bytes of records that are written as lines. -/
def linesOf (records : List (List String)) : List UInt8 :=
  records.flatMap fun fields => bytesOf (line fields)

theorem textFields_bytesOf (position : Position) (index : Nat) (fields : List String) :
    textFields position index (fields.map bytesOf) = .ok fields := by
  induction fields generalizing index with
  | nil => rfl
  | cons f fs ih => rw [List.map_cons, textFields, Text.ofBytes?_bytesOf, ih]; rfl

/-- Lines are read as records. -/
theorem scan_linesOf {records : List (List String)} (hsome : ∀ fields ∈ records, fields ≠ [])
    (here start : Position) :
    (scan commaByte .fresh here (.startingAt start) (linesOf records)).map RawRecord.texts =
      records.map .ok := by
  induction records generalizing here start with
  | nil => rfl
  | cons fields records ih =>
    rw [List.forall_mem_cons] at hsome
    have hlines : linesOf (fields :: records) = bytesOf (line fields) ++ linesOf records := rfl
    obtain ⟨place, hscan⟩ := scan_line hsome.1 here start (linesOf records)
    rw [hlines, hscan, List.map_cons, List.map_cons, ih hsome.2, RawRecord.texts,
      textFields_bytesOf]

/-- Bytes that start with the byte order mark start with its character. -/
theorem afterMark_encode {c : Char} (h : c ≠ '\uFEFF') (cs : List Char) (rest : List UInt8) :
    afterMark (encode (c :: cs) ++ rest) = ({}, encode (c :: cs) ++ rest) := by
  refine afterMark.eq_2 _ fun more hmore => ?_
  have hform : String.utf8EncodeChar '\uFEFF' = [0xEF, 0xBB, 0xBF] := by decide
  have hmark : Text.firstChar? (encode (c :: cs) ++ rest) = some '\uFEFF' := by
    have hfound := Text.firstChar?_encode '\uFEFF' more
    rw [hform] at hfound
    rw [hmore]
    exact hfound
  rw [Text.encode_cons, List.append_assoc, Text.firstChar?_encode] at hmark
  exact h (Option.some.inj hmark)

theorem head?_fieldText {f : String} (hmark : f.toList.head? ≠ some '\uFEFF') :
    (fieldText f).toList.head? ≠ some '\uFEFF' := by
  rw [fieldText, String.toList_ofList, fieldChars]
  split
  · simp [quotedField]
  · exact hmark

/-- A line starts with its first field, a quote, a comma or its end. -/
theorem head?_line {f : String} {fs : List String} (hmark : f.toList.head? ≠ some '\uFEFF') :
    (line (f :: fs)).toList.head? ≠ some '\uFEFF' := by
  have hfield := head?_fieldText hmark
  have hbody : (recordBody (f :: fs)).toList.head? ≠ some '\uFEFF' := by
    cases fs with
    | nil => exact hfield
    | cons g fs =>
      have hjoined : recordBody (f :: g :: fs) = fieldText f ++ "," ++ recordBody (g :: fs) := rfl
      rw [hjoined]
      cases hchars : (fieldText f).toList with
      | nil => simp [hchars]
      | cons c cs =>
        rw [hchars] at hfield
        simpa [hchars] using hfield
  rw [line, recordText]
  split
  · decide
  · rename_i hsome
    cases hchars : (recordBody (f :: fs)).toList with
    | nil => exact absurd (String.toList_eq_nil_iff.1 hchars) (by simpa using hsome)
    | cons c cs =>
      rw [hchars] at hbody
      simpa [hchars] using hbody

/-- A header and records that are written as lines are read back. -/
theorem reads_linesOf {header : List String} {records : List (List String)}
    (hheader : header ≠ [])
    (hmark : ∀ f, header.head? = some f → f.toList.head? ≠ some '\uFEFF')
    (hrecords : ∀ fields ∈ records, fields ≠ []) :
    (Table.ofBytes commaByte (linesOf (header :: records))).Reads header records := by
  have hmarkless : afterMark (linesOf (header :: records)) = ({}, linesOf (header :: records)) := by
    obtain ⟨f, fs, rfl⟩ := List.exists_cons_of_ne_nil hheader
    have hhead : (line (f :: fs)).toList.head? ≠ some '\uFEFF' := head?_line (hmark f rfl)
    have hlines : linesOf ((f :: fs) :: records) =
        encode (line (f :: fs)).toList ++ linesOf records := rfl
    rw [hlines]
    cases hchars : (line (f :: fs)).toList with
    | nil => simp [line] at hchars
    | cons c cs =>
      refine afterMark_encode (fun hc => hhead ?_) cs _
      rw [hchars, hc, List.head?_cons]
  have hraw : (rawRecords commaByte (linesOf (header :: records))).map RawRecord.texts =
      (header :: records).map .ok := by
    have hsome : ∀ fields ∈ header :: records, fields ≠ [] :=
      List.forall_mem_cons.2 ⟨hheader, hrecords⟩
    rw [rawRecords, hmarkless]
    exact scan_linesOf hsome _ _
  cases hall : rawRecords commaByte (linesOf (header :: records)) with
  | nil => simp [hall] at hraw
  | cons first rest =>
    rw [hall, List.map_cons, List.map_cons, List.cons.injEq] at hraw
    refine ⟨?_, hheader, ?_⟩
    · rw [Table.names, Table.ofBytes, hall]
      exact hraw.1
    · rw [Table.data, Table.ofBytes, hall]
      exact hraw.2

/-! ## Names of files -/

/-- The last part of a path goes on as the path does. -/
theorem exists_splitAll_append {mark : Char} (cs : List Char) {tail : List Char}
    (h : mark ∉ tail) :
    ∃ parts part, Text.splitAll mark (cs ++ tail) = parts ++ [part ++ tail] := by
  induction cs with
  | nil => exact ⟨[], [], Text.splitAll_of_notMem h⟩
  | cons c cs ih =>
    obtain ⟨parts, part, hsplit⟩ := ih
    rw [List.cons_append, Text.splitAll, hsplit]
    cases c == mark with
    | true => exact ⟨[] :: parts, part, rfl⟩
    | false =>
      cases parts with
      | nil => exact ⟨[], c :: part, rfl⟩
      | cons first parts => exact ⟨(c :: first) :: parts, part, rfl⟩

/-- A name that ends in `.csv` is that of a file of comma separated values. -/
theorem delimiterOf_csv (stem : String) :
    delimiterOf (delimiter? (stem ++ ".csv")) = commaByte := by
  have hslash : '/' ∉ ".csv".toList := by decide
  obtain ⟨parts, part, hsplit⟩ := exists_splitAll_append stem.toList hslash
  have hlast : lastName? (stem ++ ".csv").toList = some (part ++ ".csv".toList) := by
    have hidle : isIdle (part ++ ".csv".toList) = false := by
      cases part with
      | nil => decide
      | cons c part => simp [isIdle]
    have hparent : (part ++ ".csv".toList == ['.', '.']) = false := by
      rw [beq_eq_false_iff_ne]
      intro h
      have hlength := congrArg List.length h
      simp at hlength
    rw [lastName?, String.toList_append, hsplit, List.reverse_append, List.reverse_singleton,
      List.singleton_append, List.dropWhile_cons_of_neg (Bool.eq_false_iff.1 hidle)]
    simp only [hparent, Bool.false_eq_true, if_false]
  have hpoint : Text.splitLast? '.' (part ++ ".csv".toList) = some (part, "csv".toList) :=
    Text.splitLast?_append part (by decide)
  have hextension : extension? (stem ++ ".csv").toList =
      if part.isEmpty then none else some "csv".toList := by
    simp only [extension?, hlast, hpoint, bind, Option.bind]
  rw [delimiter?, hextension]
  cases part.isEmpty with
  | true => decide
  | false => decide +kernel

/-! ## Writers -/

/-- The rows of batches as records; missing values are empty fields. -/
def displayedRows (batches : List Batch) : List (List String) :=
  (batches.flatMap Batch.rows).map fun row => row.map (Cell.display "")

/-- A writer of comma separated values that is made, takes batches, and is flushed. -/
def finished (schema : Schema) (batches : List Batch) : Except Output.Problem Output.Writer := do
  let w ← batches.foldlM (fun w b => w.write b) (Output.Writer.create .csv schema)
  w.flush

theorem bytesOf_foldl_rowLine (rows : List Row) (text : String) :
    bytesOf (rows.foldl (fun text row => text ++ rowLine row) text) =
      bytesOf text ++ linesOf (rows.map fun row => row.map (Cell.display "")) := by
  induction rows generalizing text with
  | nil => simp [linesOf]
  | cons row rows ih =>
    rw [List.foldl_cons, ih, Text.bytesOf_append, List.append_assoc]
    rfl

/-- A writer takes every batch, and writes a line for each of its rows. -/
theorem exists_foldlM_write (w : Csv.Writer) (batches : List Batch) :
    ∃ text, batches.foldlM (fun w b => Output.Writer.write b w) (Output.Writer.csv w) =
        .ok (.csv ⟨text⟩) ∧
      bytesOf text = bytesOf w.text ++ linesOf (displayedRows batches) := by
  induction batches generalizing w with
  | nil => exact ⟨w.text, rfl, by simp [displayedRows, linesOf]⟩
  | cons b batches ih =>
    obtain ⟨text, hfold, htext⟩ := ih (w.write b)
    refine ⟨text, hfold, ?_⟩
    rw [htext, Csv.Writer.write, bytesOf_foldl_rowLine, List.append_assoc]
    simp [displayedRows, linesOf]

/-- What is written of a result is read back as a dataset: the header as the names of the columns,
and the records as the rows in their order, every cell as it is displayed. -/
theorem finished_reads {schema : Schema} (hsome : schema ≠ [])
    (hmark : ∀ field, schema.head? = some field → field.name.toList.head? ≠ some '\uFEFF')
    {batches : List Batch}
    (hwidth : ∀ b ∈ batches, ∀ row ∈ b.rows, row.length = schema.length) (stem : String) :
    ∃ w text, finished schema batches = .ok w ∧ w.text? = some text ∧
      (Table.ofBytes (delimiterOf (delimiter? (stem ++ ".csv"))) (bytesOf text)).Reads
        (schema.map Field.name) (displayedRows batches) := by
  obtain ⟨text, hfold, htext⟩ := exists_foldlM_write (.create schema) batches
  refine ⟨.csv ⟨text⟩, text, ?_, rfl, ?_⟩
  · rw [finished, Output.Writer.create]
    simp only [hfold, bind, Except.bind]
    rfl
  · have hrows : ∀ fields ∈ displayedRows batches, fields ≠ [] := by
      intro fields hfields
      obtain ⟨row, hrow, rfl⟩ := List.mem_map.1 hfields
      obtain ⟨b, hb, hrow⟩ := List.mem_flatMap.1 hrow
      have hlength := hwidth b hb row hrow
      have hpos := List.length_pos_iff.2 hsome
      rw [ne_eq, List.map_eq_nil_iff, ← List.length_eq_zero_iff]
      omega
    have hheader : schema.map Field.name ≠ [] := by simpa using hsome
    have hfirst : ∀ f, (schema.map Field.name).head? = some f →
        f.toList.head? ≠ some '\uFEFF' := by
      intro f hf
      rw [List.head?_map, Option.map_eq_some_iff] at hf
      obtain ⟨field, hfield, rfl⟩ := hf
      exact hmark field hfield
    have hlines : bytesOf text = linesOf (schema.map Field.name :: displayedRows batches) := htext
    rw [delimiterOf_csv, hlines]
    exact reads_linesOf hheader hfirst hrows

theorem finished_reads_notes :
    let batches : List Batch :=
      [⟨[[.text "a,\"b\"\r\n"], [.null]]⟩, ⟨[]⟩, ⟨[[.text " "], [.whole (-7)]]⟩]
    ∃ w text, finished [⟨"note", .text⟩] batches = .ok w ∧ w.text? = some text ∧
      (Table.ofBytes (delimiterOf (delimiter? ("notes" ++ ".csv"))) (bytesOf text)).Reads
        ["note"] [["a,\"b\"\r\n"], [""], [" "], ["-7"]] := by
  intro batches
  have hmark : ∀ field, [(⟨"note", .text⟩ : Field)].head? = some field →
      field.name.toList.head? ≠ some '\uFEFF' := by
    rintro field ⟨⟩
    decide
  have hwidth : ∀ b ∈ batches, ∀ row ∈ b.rows, row.length = 1 := by decide
  have hshown : displayedRows batches = [["a,\"b\"\r\n"], [""], [" "], ["-7"]] := by
    decide +kernel
  exact hshown ▸ finished_reads (by decide) hmark hwidth "notes"

end Output.Csv

end QueryPipe
