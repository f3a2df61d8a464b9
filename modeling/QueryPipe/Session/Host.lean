import QueryPipe.Fault
import QueryPipe.Storage.Workspace

/-!
# Hosts

What a session asks of the place it runs in: variables, what comes in, files, and databases. A
workspace is such a place, in which what was asked and written can be looked at.
-/

namespace QueryPipe.Session

open Storage (AccessFault Workspace)
open Sql (Address Database)

/-- A place that a session can run in, with effects `m`. -/
structure Host (m : Type → Type) where
  /-- The value of a variable of the environment. -/
  getVariable : String → m (Option String)
  /-- All that comes in. -/
  input : m (List UInt8)
  /-- The content of a file. -/
  read : String → m (Except AccessFault (List UInt8))
  /-- Whether a name is that of a file. -/
  isFile : String → m Bool
  /-- Whether a name is that of a file or a directory. -/
  isThere : String → m Bool
  /-- Whether a file can be made or overwritten under a name. -/
  accepts : String → m (Except AccessFault Unit)
  /-- Makes or overwrites a file. -/
  write : String → List UInt8 → m Unit
  /-- Opens the database at an address. -/
  openDatabase : Address → m (Except Sql.Problem Database)
  /-- Keeps a database at an address. -/
  keepDatabase : Address → Database → m Unit

namespace Host

/-- A workspace as a host, with an environment and what comes in. -/
def ofWorkspace (env : List (String × String)) (document : List UInt8) :
    Host (StateM Workspace) where
  getVariable name := pure (env.lookup name)
  input := pure document
  read name := do return (← get).read name
  isFile name := do return (← get).isFile name
  isThere name := do return (← get).isThere name
  accepts name := do return ((← get).destination name).map fun _ => ()
  write name content := modify fun w => w.write name content
  openDatabase a := modifyGet fun w => w.openDatabase a
  keepDatabase a d := modify fun w => w.keepDatabase a d

/-! ## Databases -/

/-- Why the name of a database's file cannot be used. -/
def nulMessage : String :=
  "error communicating with database: filename passed to SQLite must not contain nul bytes"

/-- Opens the database that a text is the address of. -/
def connect {m : Type → Type} [Monad m] (host : Host m) (text : String) :
    m (Except Fault (Address × Database)) := do
  match Address.ofText text with
  | .error p => return .error (.settings (.database (Text.trim text) p.message))
  | .ok a =>
    if (a.file?.getD "").toList.contains '\x00' then return .error (.execution text nulMessage)
    match a.reached with
    | .error p => return .error (.execution text p.message)
    | .ok a =>
      match ← host.openDatabase a with
      | .error p => return .error (.execution text p.message)
      | .ok db => return .ok (a, db)

end Host

end QueryPipe.Session
