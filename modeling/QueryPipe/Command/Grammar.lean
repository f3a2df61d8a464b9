import QueryPipe.Command.Usage
import QueryPipe.Numeral.Whole

/-!
# Grammars of command lines

A command line is a list of words. A word that starts with two hyphens names a switch by its long
name, one that starts with a single hyphen names switches by their letters, `--` ends the
switches, and every other word is an operand or the value of the switch before it. A value may
also be attached to its switch.

A value is taken down when the next switch or the end is reached, so a fault in it shows only
then: the word pending at that moment is *settled*.
-/

namespace QueryPipe.Command

/-- How often a switch may be given, and whether it takes a value. -/
inductive Arity
  /-- Once, without a value. -/
  | flag
  /-- Once, with a value. -/
  | once
  /-- Any number of times, with a value each time. -/
  | many
  /-- It asks for help at once. -/
  | help
  deriving DecidableEq, Repr, Inhabited

/-- Whether a switch takes a value. -/
def Arity.takesValue : Arity → Bool
  | .once | .many => true
  | .flag | .help => false

/-- What a value may be. -/
inductive Domain
  /-- Any text. -/
  | text
  /-- A whole number of 32 bits without a sign. -/
  | number
  /-- A path, which is not empty. -/
  | path
  deriving DecidableEq, Repr, Inhabited

/-- A switch. -/
structure Switch where
  /-- The name after two hyphens. -/
  long : String
  /-- The letter after one hyphen. -/
  short : Option Char
  /-- How it is given. -/
  arity : Arity
  /-- What its value may be. -/
  domain : Domain := .text
  /-- Whether the word after it is its value, whatever the word looks like. -/
  anyWord : Bool := false
  deriving DecidableEq, Repr, Inhabited

/-- The operands of a tool. -/
structure Operands where
  /-- What they are called. -/
  name : String
  /-- What each may be. -/
  domain : Domain := .text
  /-- Whether there may be several. -/
  several : Bool := true
  /-- How many may follow each other, when that is limited. -/
  most : Option Nat := none
  deriving DecidableEq, Repr, Inhabited

/-- What a tool can be asked for. -/
structure Grammar where
  /-- The switches. -/
  switches : List Switch
  /-- The operands, if it has any. -/
  operands? : Option Operands := none
  /-- Pairs of names that exclude each other. -/
  conflicts : List (String × String) := []
  /-- Names without which the tool does not run. -/
  required : List String := []
  deriving DecidableEq, Repr, Inhabited

/-! ## Entries -/

/-- Something taken down from a command line. -/
inductive Entry
  /-- A flag. -/
  | flag (name : String)
  /-- A text under the name of a switch or of the operands. -/
  | text (name value : String)
  /-- A number under such a name. -/
  | number (name : String) (value : UInt32)
  deriving DecidableEq, Repr, Inhabited

/-- The name an entry stands under. -/
def Entry.name : Entry → String
  | .flag name => name
  | .text name _ => name
  | .number name _ => name

/-- Whether there is an entry under a name. -/
def present (entries : List Entry) (name : String) : Bool := entries.any (·.name == name)

/-- The texts under a name, in order. -/
def textsOf (entries : List Entry) (name : String) : List String :=
  entries.filterMap fun
    | .text n value => if n == name then some value else none
    | _ => none

/-- The first number under a name. -/
def numberOf? (entries : List Entry) (name : String) : Option UInt32 :=
  entries.findSome? fun
    | .number n value => if n == name then some value else none
    | _ => none

/-- A word as a number of 32 bits. Its sign may be written. -/
def readCount? (word : String) : Option UInt32 :=
  match Numeral.Whole.readInt64 word with
  | .ok n =>
    if 0 ≤ n.toInt ∧ n.toInt < Numeral.twoTo 32 then some (UInt32.ofNat n.toInt.toNat) else none
  | .error _ => none

/-- A value under a name. -/
def Domain.entry (domain : Domain) (name word : String) : Except UsageFault Entry :=
  match domain with
  | .text => .ok (.text name word)
  | .path => if word.isEmpty then .error .withoutValue else .ok (.text name word)
  | .number =>
    match readCount? word with
    | some n => .ok (.number name n)
    | none => .error .invalid

/-- The entries with a value of a switch. -/
def Switch.add (s : Switch) (word : String) (entries : List Entry) :
    Except UsageFault (List Entry) :=
  if s.arity != .many && present entries s.long then .error .conflict
  else (s.domain.entry s.long word).map fun e => entries ++ [e]

/-- Operands as entries. -/
def Operands.entries (o : Operands) : List String → Except UsageFault (List Entry)
  | [] => .ok []
  | word :: rest =>
    match o.domain.entry o.name word with
    | .error fault => .error fault
    | .ok e => (o.entries rest).map (e :: ·)

/-- The entries with operands that follow each other. -/
def Operands.add (o : Operands) (words : List String) (entries : List Entry) :
    Except UsageFault (List Entry) :=
  if o.most.any (· < words.length) then .error .surplus
  else (o.entries words).map (entries ++ ·)

/-! ## Reading -/

/-- What has been read and is not yet taken down. -/
inductive Pending
  /-- Nothing. -/
  | nothing
  /-- A switch that waits for its value. -/
  | awaiting (s : Switch)
  /-- A switch with its value. -/
  | filled (s : Switch) (word : String)
  /-- Operands that follow each other. -/
  | operands (o : Operands) (words : List String)
  deriving DecidableEq, Repr, Inhabited

/-- How far a command line has been read. -/
structure Reading where
  /-- What has been taken down. -/
  entries : List Entry := []
  /-- What has not. -/
  pending : Pending := .nothing
  /-- Whether every further word is an operand. -/
  operandsOnly : Bool := false
  deriving DecidableEq, Repr, Inhabited

namespace Reading

/-- The entries with what is pending. -/
def settledEntries (r : Reading) : Except UsageFault (List Entry) :=
  match r.pending with
  | .nothing => .ok r.entries
  | .awaiting _ => .error .withoutValue
  | .filled s word => s.add word r.entries
  | .operands o words => o.add words r.entries

/-- Takes down what is pending. -/
def settle (r : Reading) : Except UsageFault Reading :=
  r.settledEntries.map fun entries => { r with entries, pending := .nothing }

/-- Takes a switch without a value. -/
def mark (r : Reading) (s : Switch) : Except UsageFault Reading := do
  let r ← r.settle
  if s.arity == .help then .error .help
  else if present r.entries s.long then .error .conflict
  else .ok { r with entries := r.entries ++ [.flag s.long] }

/-- Takes a switch with a value attached. -/
def attach (r : Reading) (s : Switch) (word : String) : Except UsageFault Reading := do
  let r ← r.settle
  return { r with entries := ← s.add word r.entries }

/-- Takes a switch whose value is the next word. -/
def await (r : Reading) (s : Switch) : Except UsageFault Reading := do
  return { ← r.settle with pending := .awaiting s }

/-- Whether a single operand has been read already. -/
def isFull (r : Reading) (o : Operands) : Bool :=
  !o.several &&
    (present r.entries o.name ||
      match r.pending with
      | .operands _ _ => true
      | _ => false)

/-- Takes an operand. -/
def operand (r : Reading) (operands? : Option Operands) (word : String) :
    Except UsageFault Reading :=
  match operands? with
  | none => .error .unknown
  | some o =>
    if r.isFull o then .error .unknown
    else
      match r.pending with
      | .operands o words => .ok { r with pending := .operands o (words ++ [word]) }
      | _ => do return { ← r.settle with pending := .operands o [word] }

end Reading

/-- What a word looks like. -/
inductive WordKind
  /-- Two hyphens and nothing else. -/
  | separator
  /-- The long name of a switch, with a value attached or not. -/
  | long (name : String) (value? : Option String)
  /-- Letters of switches. -/
  | letters (cs : List Char)
  /-- Anything else, a single hyphen among it. -/
  | plain
  deriving DecidableEq, Repr, Inhabited

/-- The name before the first `=` and the value after it. -/
def splitValue : List Char → List Char × Option (List Char)
  | [] => ([], none)
  | c :: rest =>
    if c == '=' then ([], some rest)
    else
      let (name, value?) := splitValue rest
      (c :: name, value?)

/-- What a word looks like. -/
def WordKind.of (word : String) : WordKind :=
  match word.toList with
  | ['-', '-'] => .separator
  | '-' :: '-' :: rest =>
    let (name, value?) := splitValue rest
    .long (String.ofList name) (value?.map String.ofList)
  | ['-'] => .plain
  | '-' :: rest => .letters rest
  | _ => .plain

namespace Grammar

/-- The switch of a long name. -/
def byLong? (g : Grammar) (name : String) : Option Switch := g.switches.find? (·.long == name)

/-- The switch of a letter. -/
def byLetter? (g : Grammar) (c : Char) : Option Switch :=
  g.switches.find? (·.short == some c)

/-- Takes a switch by its long name. -/
def readLong (g : Grammar) (r : Reading) (name : String) (value? : Option String) :
    Except UsageFault Reading :=
  match g.byLong? name, value? with
  | none, _ => .error .unknown
  | some s, some value => if s.arity.takesValue then r.attach s value else .error .surplus
  | some s, none => if s.arity.takesValue then r.await s else r.mark s

/-- Takes switches by their letters. The first that takes a value takes all that is left. -/
def readLetters (g : Grammar) (r : Reading) : List Char → Except UsageFault Reading
  | [] => .ok r
  | c :: rest =>
    match g.byLetter? c with
    | none => .error .unknown
    | some s =>
      if s.arity.takesValue then
        match rest with
        | [] => r.await s
        | '=' :: value => r.attach s (String.ofList value)
        | value => r.attach s (String.ofList value)
      else
        match r.mark s with
        | .error fault => .error fault
        | .ok r => g.readLetters r rest

/-- Takes a word by what it looks like. -/
def readKind (g : Grammar) (r : Reading) (word : String) : Except UsageFault Reading :=
  match WordKind.of word with
  | .separator => .ok { r with operandsOnly := true }
  | .long name value? => g.readLong r name value?
  | .letters cs => g.readLetters r cs
  | .plain =>
    match r.pending with
    | .awaiting s => .ok { r with pending := .filled s word }
    | _ => r.operand g.operands? word

/-- Takes the next word. -/
def readWord (g : Grammar) (r : Reading) (word : String) : Except UsageFault Reading :=
  if r.operandsOnly then r.operand g.operands? word
  else
    match r.pending with
    | .awaiting s =>
      if s.anyWord then .ok { r with pending := .filled s word } else g.readKind r word
    | _ => g.readKind r word

/-- What exclusions and requirements say about entries. -/
def check (g : Grammar) (entries : List Entry) : Except UsageFault Unit :=
  if g.conflicts.any fun (a, b) => present entries a && present entries b then
    .error .conflict
  else if g.required.all (present entries) then .ok ()
  else .error .missing

/-- Reads words to their end. -/
def readFrom (g : Grammar) (r : Reading) : List String → Except UsageFault (List Entry)
  | [] => do
    let entries ← r.settledEntries
    g.check entries
    return entries
  | word :: rest =>
    match g.readWord r word with
    | .error fault => .error fault
    | .ok r => g.readFrom r rest

/-- Reads the words after the name of a tool. -/
def read (g : Grammar) (words : List String) : Except UsageFault (List Entry) :=
  g.readFrom {} words

end Grammar

end QueryPipe.Command
