/-!
# Results of steps that can fail

Going on with what a step gives changes neither whether the step fails nor why.

* `exists_of_map_eq_ok`: what is made of a result is made of what the step gave.
* `map_eq_error_iff`: the fault is that of the step.
* `eq_ok_of_mapError_eq_ok`: other words for a fault leave a result as it is.
-/

namespace QueryPipe

variable {ε δ α β : Type} {f : α → β} {result : Except ε α}

/-- A step that is mapped and succeeds succeeded before. -/
theorem exists_of_map_eq_ok {b : β} (h : result.map f = .ok b) : ∃ a, result = .ok a ∧ f a = b := by
  cases result with
  | error e => cases h
  | ok a => exact ⟨a, rfl, Except.ok.inj h⟩

/-- Mapping neither causes nor hides an error. -/
theorem map_eq_error_iff {e : ε} : result.map f = .error e ↔ result = .error e := by
  cases result <;> simp [Except.map]

/-- Wording an error anew does not touch what succeeds. -/
theorem eq_ok_of_mapError_eq_ok {g : ε → δ} {a : α} (h : result.mapError g = .ok a) :
    result = .ok a := by
  cases result with
  | error e => cases h
  | ok a' => exact congrArg Except.ok (Except.ok.inj h)

end QueryPipe
