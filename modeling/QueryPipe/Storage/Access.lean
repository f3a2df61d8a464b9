/-!
# Access to files

Why a name leads to no file that could be read or written.
-/

namespace QueryPipe.Storage

/-- Why a file cannot be used. -/
inductive AccessFault
  /-- Nothing has the name. -/
  | absent
  /-- The name goes on below a file. -/
  | belowFile
  /-- The name is that of a directory. -/
  | directory
  /-- A part of the name is too long. -/
  | tooLong
  /-- The name holds a character that no name can hold. -/
  | nameless
  deriving DecidableEq, Repr, Inhabited

/-- The wording of a fault. -/
def AccessFault.message : AccessFault → String
  | .absent => "No such file or directory (os error 2)"
  | .belowFile => "Not a directory (os error 20)"
  | .directory => "Is a directory (os error 21)"
  | .tooLong => "File name too long (os error 36)"
  | .nameless => "file name contained an unexpected NUL byte"

end QueryPipe.Storage
