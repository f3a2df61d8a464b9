import Mathlib.Data.List.Nodup
import QueryPipe.Query.AliasSupply

/-!
# The names of a supply

The names that a supply gives are its stem with consecutive numbers. Two numbers never give the
same name, so no name is given twice.

* `nameAt_inj`: a name tells its number.
* `nodup_take`: the first names of a supply are pairwise distinct.
-/

namespace QueryPipe.AliasSupply

/-- The supply after a number of names were drawn. -/
def skip (n : Nat) (supply : AliasSupply) : AliasSupply :=
  { supply with counter := supply.counter + n }

theorem skip_skip (m n : Nat) (supply : AliasSupply) :
    (supply.skip m).skip n = supply.skip (m + n) := by
  simp [skip, Nat.add_assoc]

/-- How many names an alias draws: none when it is given, one otherwise. -/
def drawsFor (alias? : Option String) : Nat := if alias?.isNone then 1 else 0

/-- A name is drawn if and only if none is given. -/
theorem resolve_snd (alias? : Option String) (supply : AliasSupply) :
    (supply.resolve alias?).2 = supply.skip (drawsFor alias?) := by
  cases alias? <;> rfl

/-- No name is drawn at two places. -/
theorem nameAt_inj {stem : String} {m n : Nat} (h : nameAt stem m = nameAt stem n) : m = n := by
  have hrepr : m.repr = n.repr := (String.append_right_inj stem).1 h
  calc m = Nat.ofDigitChars 10 m.repr.toList 0 := by simp
    _ = Nat.ofDigitChars 10 n.repr.toList 0 := by rw [hrepr]
    _ = n := by simp

/-- The names that are drawn are numbered from the counter on. -/
theorem take_eq_map (n : Nat) (supply : AliasSupply) :
    supply.take n = (List.range n).map fun k => nameAt supply.stem (supply.counter + k) := by
  induction n generalizing supply with
  | zero => rfl
  | succ n ih =>
    rw [take, ih, List.range_succ_eq_map, List.map_cons, List.map_map]
    have hcounter : supply.advance.counter = supply.counter + 1 := rfl
    have hstem : supply.advance.stem = supply.stem := rfl
    rw [hcounter, hstem]
    congr 1
    refine List.map_congr_left fun k _ => ?_
    simp only [Function.comp, Nat.succ_eq_add_one]
    congr 1
    omega

theorem take_add (m n : Nat) (supply : AliasSupply) :
    supply.take (m + n) = supply.take m ++ (supply.skip m).take n := by
  rw [take_eq_map, take_eq_map, take_eq_map, List.range_add, List.map_append, List.map_map]
  congr 1
  refine List.map_congr_left fun k _ => ?_
  simp only [Function.comp, skip, Nat.add_assoc]

/-- Names that are drawn are distinct. -/
theorem nodup_take (n : Nat) (supply : AliasSupply) : (supply.take n).Nodup := by
  rw [take_eq_map]
  refine List.Nodup.map ?_ List.nodup_range
  intro j k h
  exact Nat.add_left_cancel (nameAt_inj h)

end QueryPipe.AliasSupply
