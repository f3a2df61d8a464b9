import QueryPipe.Text.ClusterTable

/-!
# Clusters

A reader sees one symbol where a text may hold several characters: a letter with its accents, a
syllable, a flag, a family. `clusterCount` counts these symbols, the extended grapheme clusters of
Unicode 16, by asking of each character whether a cluster starts there.
-/

namespace QueryPipe.Text

/-- What a character does inside a cluster. -/
inductive ClusterClass
  /-- A carriage return. -/
  | carriageReturn
  /-- A line feed. -/
  | lineFeed
  /-- Another character that always stands alone. -/
  | control
  /-- A mark on the character before it. -/
  | extend
  /-- A mark that also ties consonants together. -/
  | linker
  /-- The zero width joiner. -/
  | joiner
  /-- Half of a flag. -/
  | indicator
  /-- A mark on the character after it. -/
  | leading
  /-- A spacing mark on the character before it. -/
  | spacing
  /-- The start of a Hangul syllable. -/
  | initial
  /-- The vowel of a Hangul syllable. -/
  | vowel
  /-- The end of a Hangul syllable. -/
  | final
  /-- A Hangul syllable without an end. -/
  | openSyllable
  /-- A Hangul syllable with an end. -/
  | closedSyllable
  /-- A pictograph. -/
  | pictograph
  /-- A consonant that can be tied to the next. -/
  | consonant
  /-- Any other character. -/
  | other
  deriving DecidableEq, Repr, Inhabited

namespace ClusterClass

/-- The class of a code point outside of ASCII. -/
def ofCodePoint (n : Nat) : ClusterClass :=
  if n == 0x200D then joiner
  else if ClusterTable.linker.holds n then linker
  else if ClusterTable.extend.holds n then extend
  else if ClusterTable.control.holds n then control
  else if ClusterTable.spacing.holds n then spacing
  else if ClusterTable.leading.holds n then leading
  else if 0x1F1E6 ≤ n && n ≤ 0x1F1FF then indicator
  else if (0x1100 ≤ n && n ≤ 0x115F) || (0xA960 ≤ n && n ≤ 0xA97C) then initial
  else if (0x1160 ≤ n && n ≤ 0x11A7) || (0xD7B0 ≤ n && n ≤ 0xD7C6) || n == 0x16D63 ||
      (0x16D67 ≤ n && n ≤ 0x16D6A) then vowel
  else if (0x11A8 ≤ n && n ≤ 0x11FF) || (0xD7CB ≤ n && n ≤ 0xD7FB) then final
  else if 0xAC00 ≤ n && n ≤ 0xD7A3 then
    if (n - 0xAC00) % 28 == 0 then openSyllable else closedSyllable
  else if ClusterTable.pictographic.holds n then pictograph
  else if ClusterTable.consonant.holds n then consonant
  else other

/-- The class of a character. -/
def ofChar (c : Char) : ClusterClass :=
  if c == '\r' then carriageReturn
  else if c == '\n' then lineFeed
  else if c.toNat < 0x20 || c.toNat == 0x7F then control
  else if c.toNat < 0x7F then other
  else ofCodePoint c.toNat

/-- Whether a character of the class always stands alone. -/
def isAlone : ClusterClass → Bool
  | carriageReturn | lineFeed | control => true
  | _ => false

/-- Whether a character of the class is a mark on the one before it. -/
def isMark : ClusterClass → Bool
  | extend | linker | joiner | spacing => true
  | _ => false

end ClusterClass

/-- How far a sequence of tied symbols has come. -/
inductive Tie
  /-- No symbol that could be tied. -/
  | none
  /-- A symbol and marks on it. -/
  | begun
  /-- A symbol and the sign that ties it to the next. -/
  | tied
  deriving DecidableEq, Repr, Inhabited

/-- What has to be remembered of the text before a character. -/
structure ClusterState where
  /-- The class of the character before. -/
  last : ClusterClass
  /-- Pictographs tied by joiners. -/
  pictographs : Tie
  /-- Consonants tied by linkers. -/
  consonants : Tie
  /-- Whether an odd number of flag halves stands directly before. -/
  oddIndicators : Bool
  deriving DecidableEq, Repr, Inhabited

namespace ClusterState

/-- Remembers one more character of the class; `nonJoiner` is the zero width non-joiner, which
ends a sequence of consonants. -/
def next (state : ClusterState) (cls : ClusterClass) (nonJoiner : Bool) : ClusterState where
  last := cls
  pictographs :=
    match cls, state.pictographs with
    | .pictograph, _ => .begun
    | .extend, .begun | .linker, .begun => .begun
    | .joiner, .begun => .tied
    | _, _ => .none
  consonants :=
    match cls, state.consonants with
    | .consonant, _ => .begun
    | _, .none => .none
    | .linker, _ => .tied
    | .extend, tie => if nonJoiner then .none else tie
    | .joiner, tie => tie
    | _, _ => .none
  oddIndicators := cls == .indicator && !(state.last == .indicator && state.oddIndicators)

/-- Whether a cluster starts at a character of the class. -/
def starts (state : ClusterState) (cls : ClusterClass) : Bool :=
  match state.last, cls with
  | .carriageReturn, .lineFeed => false
  | .initial, .initial | .initial, .vowel | .initial, .openSyllable
  | .initial, .closedSyllable => false
  | .openSyllable, .vowel | .openSyllable, .final | .vowel, .vowel | .vowel, .final => false
  | .closedSyllable, .final | .final, .final => false
  | before, after =>
    if before.isAlone || after.isAlone then true
    else if after.isMark || before == .leading then false
    else if after == .consonant then state.consonants != .tied
    else if after == .pictograph then state.pictographs != .tied
    else if after == .indicator then !(before == .indicator && state.oddIndicators)
    else true

end ClusterState

/-- The number of cluster starts after a text that left the state. -/
def clusterStarts (state : ClusterState) : List Char → Nat
  | [] => 0
  | c :: rest =>
    let cls := ClusterClass.ofChar c
    (if state.starts cls then 1 else 0) + clusterStarts (state.next cls (c == '\u200c')) rest

/-- The number of clusters of a text. At its start it is as after a control. -/
def clusterCount (s : String) : Nat :=
  clusterStarts ⟨.control, .none, .none, false⟩ s.toList

end QueryPipe.Text
