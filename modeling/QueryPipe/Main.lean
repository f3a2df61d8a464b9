import QueryPipe.Session.Run

/-!
# The program

A session on the machine itself. A database in a file is held in memory while the session lasts.
-/

namespace QueryPipe.Session

open Storage (AccessFault)

/-- The fault that an error of the machine stands for. -/
def faultOf : IO.Error → AccessFault
  | .inappropriateType .. => .directory
  | .resourceExhausted .. => .tooLong
  | _ => .absent

/-- The content of a file. -/
def readFile (name : String) : IO (Except AccessFault (List UInt8)) := do
  try
    let content ← IO.FS.readBinFile name
    return .ok content.toList
  catch e => return .error (faultOf e)

/-- Whether anything has a name. -/
def isThere (name : String) : IO Bool := do
  try
    let _ ← IO.FS.realPath name
    return true
  catch _ => return false

/-- The directory that a name is in. -/
def directoryOf (name : String) : String :=
  match Text.splitLast? '/' name.toList with
  | some (before, _) => String.ofList before ++ "/"
  | none => "."

/-- Whether a file can be made or overwritten under a name. -/
def accepts (name : String) : IO (Except AccessFault Unit) := do
  match ← readFile name with
  | .error .absent =>
    if ← isThere (directoryOf name) then return .ok () else return .error .absent
  | outcome => return outcome.map fun _ => ()

/-- Opens the database in a file. -/
def openFile (a : Sql.Address) (name : String) : IO (Except Sql.Problem Sql.Database) := do
  match ← readFile name with
  | .ok content => return .ok { writable := a.writable, foreign := !content.isEmpty }
  | .error .absent =>
    if a.creates && !a.readOnly && (← isThere (directoryOf name)) then
      IO.FS.writeBinFile name ByteArray.empty
      return .ok {}
    else return .error .unopened
  | .error _ => return .error .unopened

/-- The machine as a host. -/
def machine : Host IO where
  getVariable name := IO.getEnv name
  input := do return (← (← IO.getStdin).readBinToEnd).toList
  read := readFile
  isFile name := do return (← readFile name).toOption.isSome
  isThere := isThere
  accepts := accepts
  write name content := IO.FS.writeBinFile name content.toByteArray
  openDatabase a :=
    match a.file? with
    | none => return .ok { writable := a.writable }
    | some name => openFile a name
  keepDatabase _ _ := return ()

end QueryPipe.Session

/-- Runs a session for the words of the command line. -/
def main (words : List String) : IO UInt32 := do
  let input ← IO.getStdin
  let output ← IO.getStdout
  let messages ← IO.getStderr
  let terminals : QueryPipe.Command.Terminals :=
    { input := ← input.isTty, output := ← output.isTty }
  let outcome ← QueryPipe.Session.run QueryPipe.Session.machine terminals words
  output.write outcome.output.toByteArray
  output.flush
  for note in outcome.notes do
    messages.putStrLn note
  return UInt32.ofNat outcome.ending.code
