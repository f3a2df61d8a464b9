import QueryPipe.Sql.Problem
import QueryPipe.Text.Percent
import QueryPipe.Text.Quotation

/-!
# Addresses of databases

A database is kept in memory or in a file. Its address is the name of the file, which is made if
it is missing, or the word for memory, or a locator: a scheme, a file in percent form, and after a
question mark how it is opened. A file named by a locator is made only if that is asked for.
No address at all means memory too.
-/

namespace QueryPipe.Sql

/-- A database and how it is opened. -/
structure Address where
  /-- The file that holds it; one without a file is kept in memory. -/
  file? : Option String := none
  /-- Whether the file is made if it is missing and may be changed. -/
  creates : Bool := false
  /-- Whether the database is only read. -/
  readOnly : Bool := false
  /-- Whether the file is taken for one that nothing changes. -/
  immutable : Bool := false
  /-- The way to reach files, unless it is the usual one. -/
  access? : Option String := none
  deriving DecidableEq, Repr, Inhabited

/-- Why a locator is no address. -/
inductive AddressProblem
  /-- The file is no text. -/
  | damaged (damage : Text.Damage)
  /-- An option has no such value. -/
  | unknownValue (option value : String)
  /-- There is no such option. -/
  | unknownOption (option : String)
  deriving DecidableEq, Repr, Inhabited

/-- The wording of a problem. -/
def AddressProblem.message (p : AddressProblem) : String :=
  "error with configuration: " ++
    match p with
    | .damaged damage => damage.message
    | .unknownValue option value =>
      "unknown value " ++ Text.quotation value ++ " for \x60" ++ option ++ "\x60"
    | .unknownOption option =>
      "unknown query parameter \x60" ++ option ++ "\x60 while parsing connection URL"

namespace Address

/-- The word for memory. -/
def memoryWord : String := ":memory:"

/-- What a locator starts with. -/
def scheme : String := "sqlite:"

/-- Characters without all repetitions of a part at their start. -/
def withoutRepeated (part : List Char) (cs : List Char) : List Char :=
  if part.isPrefixOf cs && !part.isEmpty then withoutRepeated part (cs.drop part.length) else cs
termination_by cs.length
decreasing_by
  rename_i h
  simp only [Bool.and_eq_true, Bool.not_eq_true', List.isPrefixOf_iff_prefix] at h
  have hp : part.length ≤ cs.length := h.1.length_le
  have : part.length ≠ 0 := by
    intro e
    have : part = [] := by simpa using e
    simp [this] at h
  simp only [List.length_drop]
  omega

/-! ## Options -/

/-- An address under one more option. -/
def withOption (a : Address) (option value : String) : Except AddressProblem Address :=
  if option == "mode" then
    if value == "ro" then .ok { a with readOnly := true }
    else if value == "rw" then .ok a
    else if value == "rwc" then .ok { a with creates := true }
    else if value == "memory" then .ok { a with file? := none }
    else .error (.unknownValue option value)
  else if option == "cache" then
    if value == "private" || value == "shared" then .ok a else .error (.unknownValue option value)
  else if option == "immutable" then
    if value == "true" || value == "1" then .ok { a with immutable := true }
    else if value == "false" || value == "0" then .ok { a with immutable := false }
    else .error (.unknownValue option value)
  else if option == "vfs" then .ok { a with access? := some value }
  else .error (.unknownOption option)

/-- An address under options in order. -/
def withOptions (a : Address) : List (String × String) → Except AddressProblem Address
  | [] => .ok a
  | (option, value) :: rest =>
    match a.withOption option value with
    | .error p => .error p
    | .ok a => a.withOptions rest

/-- Whether the database may be changed. -/
def writable (a : Address) : Bool := !a.readOnly && !(a.immutable && a.file?.isSome)

/-- The ways to reach files that make no difference to what is in them. -/
def accesses : List String := ["unix", "unix-none", "unix-dotfile", "unix-excl"]

/-- The way to reach files that reaches none. -/
def memoryAccess : String := "memdb"

/-- An address after its way to reach files is found. -/
def reached (a : Address) : Except Problem Address :=
  match a.access? with
  | none => .ok a
  | some name =>
    if name == memoryAccess then .ok { a with file? := none }
    else if accesses.contains name then .ok a
    else .error (.noAccess name)

/-! ## Reading -/

/-- The file of a locator; without a name or under the word for memory there is none. -/
def fileOf (cs : List Char) : Except AddressProblem (Option String) :=
  if cs.isEmpty || cs == memoryWord.toList then .ok none
  else
    let bytes := Text.percentDecoded (Text.encode cs)
    match Text.ofBytes? bytes with
    | some file => .ok (some file)
    | none => .error (.damaged ((Text.damage? bytes).getD default))

/-- The address that a locator stands for. -/
def ofLocator (cs : List Char) : Except AddressProblem Address := do
  let cs := withoutRepeated scheme.toList (withoutRepeated (scheme ++ "//").toList cs)
  let name := Text.beforeFirst '?' cs
  let file? ← fileOf name
  withOptions { file? } (Text.formPairs (cs.drop (name.length + 1)))

/-- The address that a text stands for; blanks at its ends do not count. -/
def ofText (s : String) : Except AddressProblem Address :=
  let s := Text.trim s
  if s == "" || s == memoryWord then .ok {}
  else if Text.startsWith scheme s then ofLocator s.toList
  else .ok { file? := some s, creates := true }

end Address

end QueryPipe.Sql
