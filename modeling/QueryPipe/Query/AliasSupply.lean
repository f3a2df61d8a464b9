/-!
# Supplied names

Row sources and stages that carry no alias of their own are named by a supply: a stem followed by
a running number. One supply serves one statement, so every name it gives is new there.

* `resolve_some`: an alias given in the query draws nothing.
* `resolve_none`: without one the next name is drawn.
-/

namespace QueryPipe

/-- A stem and the number of the next name. -/
structure AliasSupply where
  /-- The text in front of every number. -/
  stem : String := "t"
  /-- The number of the next name. -/
  counter : Nat := 1
  deriving DecidableEq, Repr, Inhabited

namespace AliasSupply

/-- The name a number gives. -/
def nameAt (stem : String) (number : Nat) : String := stem ++ toString number

/-- The name that would be drawn next. -/
def next (supply : AliasSupply) : String := nameAt supply.stem supply.counter

/-- The supply after one name was drawn. -/
def advance (supply : AliasSupply) : AliasSupply := { supply with counter := supply.counter + 1 }

/-- The next name and the supply after it. -/
def draw (supply : AliasSupply) : String × AliasSupply := (supply.next, supply.advance)

/-- The alias itself when there is one, otherwise a drawn name. -/
def resolve (alias? : Option String) (supply : AliasSupply) : String × AliasSupply :=
  match alias? with
  | some name => (name, supply)
  | none => supply.draw

@[simp] theorem resolve_some (name : String) (supply : AliasSupply) :
    supply.resolve (some name) = (name, supply) := rfl

@[simp] theorem resolve_none (supply : AliasSupply) : supply.resolve none = supply.draw := rfl

/-- The first names of a supply, in order. -/
def take : Nat → AliasSupply → List String
  | 0, _ => []
  | n + 1, supply => supply.next :: take n supply.advance

/-- As many names are drawn as asked for. -/
@[simp] theorem length_take (n : Nat) (supply : AliasSupply) : (supply.take n).length = n := by
  induction n generalizing supply with
  | zero => rfl
  | succ n ih => simp [take, ih]

end AliasSupply

end QueryPipe
