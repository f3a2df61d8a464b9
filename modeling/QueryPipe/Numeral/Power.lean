/-!
# Powers of two and ten

The scales of binary and of decimal numbers.
-/

namespace QueryPipe.Numeral

/-- A power of two. -/
def twoTo (k : Nat) : Nat := Nat.pow 2 k

/-- A power of ten. -/
def tenTo (k : Nat) : Nat := Nat.pow 10 k

end QueryPipe.Numeral
