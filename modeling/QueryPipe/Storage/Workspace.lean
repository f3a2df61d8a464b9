import QueryPipe.Sql.Address
import QueryPipe.Sql.Database
import QueryPipe.Storage.Access

/-!
# Workspaces

A workspace is a tree of files with a place in it that names start from. A name is followed part
by part: a point stays where it is, two points go up, and every part but the last must be a
directory. Directories are there as soon as something is in them.

* `content?_put`: what is put into a file is what it holds.
-/

namespace QueryPipe.Storage

/-- A place in the tree: the names on the way from the root. -/
abbrev Place := List String

/-- What a file holds. -/
inductive Content
  /-- Bytes. -/
  | bytes (content : List UInt8)
  /-- A database. -/
  | database (d : Sql.Database)
  deriving Inhabited

/-- Files, and where names start. -/
structure Workspace where
  /-- The directory that names start from. -/
  place : Place := []
  /-- The files. -/
  files : List (Place × Content) := []
  deriving Inhabited

/-- Where a name leads. -/
inductive Target
  /-- To a directory. -/
  | directory (p : Place)
  /-- To a file. -/
  | file (p : Place) (content : Content)
  /-- To nothing yet, although a file could be there. -/
  | free (p : Place)

namespace Workspace

/-! ## Finding -/

/-- What the file at a place holds. -/
def content? (w : Workspace) (p : Place) : Option Content :=
  (w.files.find? fun f => f.1 == p).map Prod.snd

/-- Whether there is a directory at a place. -/
def isDirectory (w : Workspace) (p : Place) : Bool :=
  p.isPrefixOf w.place || w.files.any fun f => p.isPrefixOf f.1 && p != f.1

/-- The greatest number of bytes of a part of a name. -/
def greatestPart : Nat := 255

/-- Where the parts of a name lead from a directory. -/
def follow (w : Workspace) : Place → List String → Except AccessFault Target
  | here, [] => .ok (.directory here)
  | here, part :: rest =>
    if part == "" || part == "." then follow w here rest
    else if part == ".." then follow w here.dropLast rest
    else if greatestPart < part.utf8ByteSize then .error .tooLong
    else
      let p := here ++ [part]
      match w.content? p with
      | some content => if rest.isEmpty then .ok (.file p content) else .error .belowFile
      | none =>
        if w.isDirectory p then follow w p rest
        else if rest.isEmpty then .ok (.free p)
        else .error .absent

/-- The parts of a name. -/
def parts (name : String) : List String :=
  (Text.splitAll '/' name.toList).map fun cs => String.ofList cs

/-- The directory that a name starts from. -/
def start (w : Workspace) (name : String) : Place :=
  if Text.startsWith "/" name then [] else w.place

/-- Where a name leads. -/
def locate (w : Workspace) (name : String) : Except AccessFault Target :=
  if name == "" then .error .absent
  else if name.toList.contains '\x00' then .error .nameless
  else w.follow (w.start name) (parts name)

/-- Whether a name is that of a file. -/
def isFile (w : Workspace) (name : String) : Bool :=
  match w.locate name with
  | .ok (.file ..) => true
  | _ => false

/-- Whether a name is that of a file or a directory. -/
def isThere (w : Workspace) (name : String) : Bool :=
  match w.locate name with
  | .ok (.file ..) | .ok (.directory _) => true
  | _ => false

/-! ## Reading and writing -/

/-- The bytes of a file. A database has none to show. -/
def read (w : Workspace) (name : String) : Except AccessFault (List UInt8) :=
  match w.locate name with
  | .error fault => .error fault
  | .ok (.directory _) => .error .directory
  | .ok (.free _) => .error .absent
  | .ok (.file _ (.bytes content)) => .ok content
  | .ok (.file _ (.database _)) => .ok []

/-- The workspace with a file at a place. -/
def put (w : Workspace) (p : Place) (content : Content) : Workspace :=
  { w with files := (p, content) :: w.files.filter fun f => f.1 != p }

/-- What is put into a file is what it holds. -/
theorem content?_put (w : Workspace) (p : Place) (content : Content) :
    (w.put p content).content? p = some content := by
  simp [put, content?]

/-- The place of the file that is made or overwritten under a name. A name that ends as one of a
directory makes no file. -/
def destination (w : Workspace) (name : String) : Except AccessFault Place :=
  match w.locate name with
  | .ok (.file p _) | .ok (.free p) => .ok p
  | .ok (.directory _) => .error .directory
  | .error fault =>
    if Text.startsWith "/" (String.ofList name.toList.reverse) && fault == .absent &&
        (w.locate (String.ofList name.toList.dropLast)).toOption.any
          (fun | .free _ => true | _ => false) then
      .error .directory
    else .error fault

/-- The workspace with bytes written to a file; where that cannot be nothing changes. -/
def write (w : Workspace) (name : String) (content : List UInt8) : Workspace :=
  match w.destination name with
  | .ok p => w.put p (.bytes content)
  | .error _ => w

/-! ## Databases -/

/-- Where a database's name leads: points are taken off without a look at what is there. -/
def placeOfDatabase (w : Workspace) (name : String) : Place :=
  (parts name).foldl (fun p part =>
    if part == "" || part == "." then p else if part == ".." then p.dropLast else p ++ [part])
    (w.start name)

/-- The database at an address, and the workspace in which its file is there. -/
def openDatabase (w : Workspace) (a : Sql.Address) :
    Except Sql.Problem Sql.Database × Workspace :=
  let database : Sql.Database := { writable := a.writable }
  match a.file? with
  | none => (.ok database, w)
  | some name =>
    let p := w.placeOfDatabase name
    match w.content? p with
    | some (.database d) => (.ok { d with writable := a.writable }, w)
    | some (.bytes []) => (.ok database, w)
    | some (.bytes (_ :: _)) => (.ok { database with foreign := true }, w)
    | none =>
      if a.creates && !a.readOnly && !w.isDirectory p && w.isDirectory p.dropLast then
        (.ok database, w.put p (.bytes []))
      else (.error .unopened, w)

/-- The workspace in which a database is kept at its address. -/
def keepDatabase (w : Workspace) (a : Sql.Address) (d : Sql.Database) : Workspace :=
  match a.file? with
  | none => w
  | some name =>
    if !d.writable || d.foreign then w
    else
      let p := w.placeOfDatabase name
      match w.content? p, d.isEmpty with
      | some (.bytes []), true => w
      | _, _ => w.put p (.database d.lasting)

end Workspace

end QueryPipe.Storage
