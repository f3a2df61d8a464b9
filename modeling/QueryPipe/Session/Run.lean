import QueryPipe.Command.Action
import QueryPipe.Layout.Page
import QueryPipe.Session.Evaluation
import QueryPipe.Settings.Assignments

/-!
# A whole session

A session reads its words, finds its settings, and does what the tool does with the chain that
comes in. What goes out is the changed chain, its query, or its results; what is to be said to the
user is kept apart, line by line.
-/

namespace QueryPipe.Session

open QueryPipe.Settings (Environment)

/-- How a session ends. -/
inductive Ending
  /-- The words made no invocation. -/
  | usage (fault : Command.UsageFault)
  /-- A tool ran. -/
  | ran (status : ExitStatus)
  deriving DecidableEq, Repr, Inhabited

/-- The number that the process ends with. -/
def Ending.code : Ending → Nat
  | .usage fault => fault.code
  | .ran status => status.code

/-- What a session leaves behind. -/
structure Outcome where
  /-- How it ended. -/
  ending : Ending
  /-- What went out. -/
  output : List UInt8 := []
  /-- The lines for the user. -/
  notes : List String := []
  deriving DecidableEq, Repr, Inhabited

/-- The outcome of words that make no invocation. What is asked about the program goes out, what
is wrong is said to the user. -/
def Outcome.ofUsage (fault : Command.UsageFault) : Outcome where
  ending := .usage fault
  output := if fault.isQuestion then Text.bytesOf (fault.message ++ "\n") else []
  notes := if fault.isQuestion then [] else [fault.message]

/-- The outcome of a fault, after some notes. -/
def Outcome.ofFault (notes : List String) (fault : Fault) : Outcome where
  ending := .ran fault.exitStatus
  notes := notes ++ [fault.message]

/-! ## Settings -/

/-- The name of the file that may set variables. -/
def variablesFile : String := ".env"

/-- How many directories above its own a session looks through for that file. -/
def greatestHeight : Nat := 64

/-- The first of some names that is a file. -/
def firstFile? {m : Type → Type} [Monad m] (host : Host m) : List String → m (Option String)
  | [] => return none
  | name :: rest => do
    if ← host.isFile name then return some name else firstFile? host rest

/-- The assignments of the file that may set variables; it is looked for further and further up. -/
def assignments {m : Type → Type} [Monad m] (host : Host m) : m (List Settings.Assignment) := do
  let names := (List.range greatestHeight).map fun n =>
    String.join (List.replicate n "../") ++ variablesFile
  match ← firstFile? host names with
  | none => return []
  | some name =>
    match ← host.read name with
    | .error _ => return []
    | .ok bytes => return Settings.assignments bytes

/-- The variables of some names that are set. -/
def fetch {m : Type → Type} [Monad m] (host : Host m) : List String → m Environment
  | [] => return []
  | name :: rest => do
    match ← host.getVariable name with
    | none => fetch host rest
    | some value => return (name, value) :: (← fetch host rest)

/-- A file in a directory. -/
def within (directory name : String) : String :=
  if directory.isEmpty || directory.toList.getLast? == some '/' then directory ++ name
  else directory ++ "/" ++ name

/-- The variable that names the settings file. -/
def fileVariable : String := "SQLPIPE_CONFIG"

/-- The variable that names the directory of all settings, if it is an absolute one. -/
def directoryVariable : String := "XDG_CONFIG_HOME"

/-- The variable that names the user's directory. -/
def homeVariable : String := "HOME"

/-- The directory of all settings. -/
def settingsDirectory? (env : Environment) : Option String :=
  match (env.lookup directoryVariable).filter (Text.startsWith "/") with
  | some directory => some directory
  | none =>
    ((env.lookup homeVariable).filter fun home => !home.isEmpty).map fun home =>
      within home ".config"

/-- The settings file. -/
def settingsFile? (env : Environment) : Option String :=
  match env.lookup fileVariable with
  | some name => some name
  | none =>
    (settingsDirectory? env).map fun directory => within (within directory "sqlpipe") "config.json"

/-- The environment with what the file that may set variables adds. -/
def environment {m : Type → Type} [Monad m] (host : Host m) : m Environment := do
  let added ← assignments host
  let env ← fetch host ([fileVariable, directoryVariable, homeVariable] ++ Settings.consulted ++
    Settings.mentioned added)
  return Settings.extend env added

/-- The settings under an environment. -/
def settings {m : Type → Type} [Monad m] (host : Host m) (env : Environment) :
    m (Except SettingsProblem Settings) := do
  let start ←
    match settingsFile? env with
    | none => pure (.ok {})
    | some name =>
      if ← host.isThere name then
        let content ← host.read name
        pure (Settings.ofFile name content)
      else pure (.ok {})
  match start with
  | .error problem => return .error problem
  | .ok start =>
    let (final, outcome) := start.override fun name => env.lookup name
    return outcome.map fun _ => final

/-- What is to be said about the log level. -/
def levelNotes (s : Settings) : List String :=
  match s.level with
  | .ok _ => []
  | .error problem => [(Fault.settings problem).message ++ "; using warn"]

/-! ## Running -/

/-- Does what is to be done with a chain. -/
def perform {m : Type → Type} [Monad m] (host : Host m) (s : Settings) (notes : List String) :
    Command.Action → m Outcome
  | .emit chain => return { ending := .ran .success, output := chain.dump, notes }
  | .display chain =>
    match (chain.render {}).1 with
    | .error cause => return .ofFault notes (.chain cause)
    | .ok query =>
      let text := Layout.queryText query ++ "\n"
      return { ending := .ran .success, output := Text.bytesOf text, notes }
  | .evaluate chain format file? => do
    let evaluated ← evaluate host s chain format file?
    let shown := if file?.isNone then Text.bytesOf (evaluated.text?.getD "") else []
    match evaluated.result with
    | .ok _ => return { ending := .ran .success, output := shown, notes }
    | .error fault => return { Outcome.ofFault notes fault with output := shown }

/-- What a tool answers to the document that comes in. -/
def answer {m : Type → Type} [Monad m] (host : Host m) (terminals : Command.Terminals)
    (s : Settings) (tool : Command.Tool) (document : List UInt8) : m Outcome :=
  let notes := levelNotes s
  match tool.step terminals s document with
  | .error fault => return .ofFault notes fault
  | .ok action => perform host s notes action

/-- Runs a tool. -/
def runTool {m : Type → Type} [Monad m] (host : Host m) (terminals : Command.Terminals)
    (tool : Command.Tool) : m Outcome := do
  match ← settings host (← environment host) with
  | .error problem => return .ofFault [] (.settings problem)
  | .ok s =>
    let document ← if terminals.input then pure [] else host.input
    answer host terminals s tool document

/-- Runs a session. -/
def run {m : Type → Type} [Monad m] (host : Host m) (terminals : Command.Terminals)
    (words : List String) : m Outcome :=
  match Command.Tool.ofWords words with
  | .error fault => return .ofUsage fault
  | .ok tool => runTool host terminals tool

end QueryPipe.Session
