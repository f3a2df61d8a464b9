import QueryPipe.Command.Grammar
import QueryPipe.Command.Tool
import QueryPipe.Output.Format

/-!
# Invocations

An invocation is the name of a tool and the words after it. Every tool has a grammar and makes its
request from what that grammar takes down. The other way round, every request can be written as
words: switches by their long names with values attached, and operands after `--`.

* `grammar?_name`: every tool has a grammar under its own name.
-/

namespace QueryPipe.Command

/-! ## Grammars -/

/-- The switch that asks for help. -/
def helpSwitch : Switch := { long := "help", short := some 'h', arity := .help }

/-- The grammar of `cat`. -/
def CatRequest.grammar : Grammar where
  switches := [
    { long := "alias", short := some 'a', arity := .once },
    { long := "column", short := some 'c', arity := .many },
    helpSwitch]
  operands? := some { name := "DATASET" }
  required := ["DATASET"]

/-- The grammar of `sql`. -/
def sqlGrammar : Grammar where
  switches := [helpSwitch]
  operands? := some { name := "SQL", several := false }
  required := ["SQL"]

/-- The grammar of `cut`. -/
def CutRequest.grammar : Grammar where
  switches := [{ long := "field", short := some 'f', arity := .many }, helpSwitch]
  operands? := some { name := "FIELD" }

/-- The grammar of `grep`. -/
def GrepRequest.grammar : Grammar where
  switches := [
    { long := "field", short := some 'f', arity := .once },
    { long := "predicate", short := some 'p', arity := .once },
    { long := "value", short := some 'v', arity := .once, anyWord := true },
    { long := "integer", short := some 'i', arity := .flag },
    { long := "text", short := some 't', arity := .flag },
    helpSwitch]
  operands? := some { name := "ARG", most := some 3 }
  conflicts := [("integer", "text")]

/-- The grammar of `head`. -/
def HeadRequest.grammar : Grammar where
  switches := [
    { long := "lines", short := some 'n', arity := .once, domain := .number },
    helpSwitch]
  operands? := some { name := "LINES", domain := .number, several := false }
  conflicts := [("lines", "LINES")]

/-- The grammar of `sort`. -/
def SortRequest.grammar : Grammar where
  switches := [
    { long := "field", short := some 'f', arity := .many },
    { long := "reverse", short := some 'r', arity := .flag },
    helpSwitch]
  operands? := some { name := "FIELD" }

/-- The grammar of `join`, where `-h` names the kind of join. -/
def JoinRequest.grammar : Grammar where
  switches := [
    { long := "table", short := some 't', arity := .once },
    { long := "alias", short := some 'a', arity := .once },
    { long := "how", short := some 'h', arity := .once },
    { long := "left", short := some 'l', arity := .many },
    { long := "predicate", short := some 'p', arity := .many },
    { long := "right", short := some 'r', arity := .many },
    { helpSwitch with short := none }]
  operands? := some { name := "JOIN_PART" }
  required := ["table"]

/-- The grammar of `eval`. -/
def EvalRequest.grammar : Grammar where
  switches := [
    { long := "csv", short := some 'c', arity := .flag },
    { long := "parquet", short := some 'p', arity := .flag },
    { long := "column", short := some 't', arity := .flag },
    { long := "out", short := some 'o', arity := .once, domain := .path },
    { long := "query", short := some 'q', arity := .flag },
    helpSwitch]
  conflicts := [("csv", "parquet"), ("csv", "column"), ("parquet", "column")]

/-! ## Requests from entries -/

/-- The first text under a name. -/
def textOf? (entries : List Entry) (name : String) : Option String := (textsOf entries name).head?

/-- The request of `cat`. -/
def CatRequest.ofEntries (entries : List Entry) : CatRequest where
  datasets := textsOf entries "DATASET"
  alias? := textOf? entries "alias"
  columns := textsOf entries "column"

/-- The statement of `sql`. -/
def sqlOfEntries (entries : List Entry) : String := (textOf? entries "SQL").getD ""

/-- The request of `cut`. -/
def CutRequest.ofEntries (entries : List Entry) : CutRequest where
  fields := textsOf entries "field"
  operands := textsOf entries "FIELD"

/-- The request of `grep`. -/
def GrepRequest.ofEntries (entries : List Entry) : GrepRequest where
  field? := textOf? entries "field"
  predicate? := textOf? entries "predicate"
  value? := textOf? entries "value"
  integer := present entries "integer"
  text := present entries "text"
  operands := textsOf entries "ARG"

/-- The request of `head`. -/
def HeadRequest.ofEntries (entries : List Entry) : HeadRequest where
  lines? := numberOf? entries "lines"
  count? := numberOf? entries "LINES"

/-- The request of `sort`. -/
def SortRequest.ofEntries (entries : List Entry) : SortRequest where
  fields := textsOf entries "field"
  operands := textsOf entries "FIELD"
  reverse := present entries "reverse"

/-- The request of `join`. -/
def JoinRequest.ofEntries (entries : List Entry) : JoinRequest where
  table := (textOf? entries "table").getD ""
  alias? := textOf? entries "alias"
  how := (textOf? entries "how").getD "INNER"
  left := textsOf entries "left"
  predicate := textsOf entries "predicate"
  right := textsOf entries "right"
  operands := textsOf entries "JOIN_PART"

/-- The request of `eval`. -/
def EvalRequest.ofEntries (entries : List Entry) : EvalRequest where
  csv := present entries "csv"
  parquet := present entries "parquet"
  column := present entries "column"
  out? := textOf? entries "out"
  query := present entries "query"

/-- The format that a switch of `eval` names. -/
def EvalRequest.format? (e : EvalRequest) : Option OutputFormat :=
  if e.csv then some .csv
  else if e.parquet then some .parquet
  else if e.column then some .column
  else none

/-! ## Tools by name -/

/-- How the words of a tool are read. -/
structure Reader where
  /-- What may be asked for. -/
  grammar : Grammar
  /-- The tool made from what was taken down. -/
  tool : List Entry → Tool

/-- The tools by name. -/
def readers : List (String × Reader) := [
  ("cat", ⟨CatRequest.grammar, fun es => .cat (.ofEntries es)⟩),
  ("sql", ⟨sqlGrammar, fun es => .sql (sqlOfEntries es)⟩),
  ("cut", ⟨CutRequest.grammar, fun es => .cut (.ofEntries es)⟩),
  ("grep", ⟨GrepRequest.grammar, fun es => .grep (.ofEntries es)⟩),
  ("head", ⟨HeadRequest.grammar, fun es => .head (.ofEntries es)⟩),
  ("sort", ⟨SortRequest.grammar, fun es => .sort (.ofEntries es)⟩),
  ("join", ⟨JoinRequest.grammar, fun es => .join (.ofEntries es)⟩),
  ("eval", ⟨EvalRequest.grammar, fun es => .eval (.ofEntries es)⟩)]

/-- The reader of a tool's words. -/
def reader? (name : String) : Option Reader := readers.lookup name

/-- Every tool has a grammar under its own name. -/
theorem grammar?_name (t : Tool) : (reader? t.name).isSome = true := by
  cases t <;> rfl

/-- Whether a word is the name of a tool or asks for help on one. -/
def isName (word : String) : Bool := word == "help" || (reader? word).isSome

/-- Asking for help on what the words name, one inside the other; no tool has tools inside. -/
def helpOn : List String → UsageFault
  | [] => .help
  | [word] => if isName word then .help else .unknownTool
  | _ => .unknownTool

/-- The fault of a first word that names no tool. -/
def strayFirst (word : String) (rest : List String) : UsageFault :=
  match WordKind.of word with
  | .separator =>
    match rest with
    | [] => .nothing
    | next :: _ => if isName next then .unknown else .unknownTool
  | .long name value? =>
    if name == "help" then (if value?.isSome then .surplus else .help)
    else if name == "version" then (if value?.isSome then .surplus else .version)
    else .unknown
  | .letters ('h' :: _) => .help
  | .letters ('V' :: _) => .version
  | .letters _ => .unknown
  | .plain => .unknownTool

/-- Reads the words of an invocation. -/
def Tool.ofWords : List String → Except UsageFault Tool
  | [] => .error .nothing
  | word :: rest =>
    match reader? word with
    | some reader => (reader.grammar.read rest).map reader.tool
    | none => .error (if word == "help" then helpOn rest else strayFirst word rest)

/-! ## Tools as words -/

/-- A switch with its value attached. -/
def attached (long value : String) : String := "--" ++ long ++ "=" ++ value

/-- A switch for each value. -/
def attachedAll (long : String) (values : List String) : List String :=
  values.map (attached long)

/-- A flag, where it is set. -/
def flagged (long : String) (set : Bool) : List String := if set then ["--" ++ long] else []

/-- The decimal digits of a number. -/
def digits (n : UInt32) : String := toString n.toNat

/-- The switches of a tool, those with values before those without, and its operands. -/
def Tool.switchesAndOperands : Tool → List String × List String
  | .cat r => (attachedAll "alias" r.alias?.toList ++ attachedAll "column" r.columns, r.datasets)
  | .sql text => ([], [text])
  | .cut r => (attachedAll "field" r.fields, r.operands)
  | .grep r =>
    (attachedAll "field" r.field?.toList ++ attachedAll "predicate" r.predicate?.toList ++
      attachedAll "value" r.value?.toList ++ flagged "integer" r.integer ++
      flagged "text" r.text, r.operands)
  | .head r => (attachedAll "lines" (r.lines?.map digits).toList, (r.count?.map digits).toList)
  | .sort r => (attachedAll "field" r.fields ++ flagged "reverse" r.reverse, r.operands)
  | .join r =>
    (attached "table" r.table :: attachedAll "alias" r.alias?.toList ++
      attached "how" r.how :: attachedAll "left" r.left ++
      attachedAll "predicate" r.predicate ++ attachedAll "right" r.right, r.operands)
  | .eval r =>
    (attachedAll "out" r.out?.toList ++ flagged "csv" r.csv ++ flagged "parquet" r.parquet ++
      flagged "column" r.column ++ flagged "query" r.query, [])

/-- A tool written out: its name, its switches, `--`, and its operands. -/
def Tool.toWords (t : Tool) : List String :=
  t.name :: (t.switchesAndOperands.1 ++ "--" :: t.switchesAndOperands.2)

end QueryPipe.Command
