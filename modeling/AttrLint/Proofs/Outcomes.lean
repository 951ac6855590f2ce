namespace AttrLint

/-!
# Outcomes

What a successful outcome says about the steps that have led to it.

* `bind_eq_ok` — both of two steps have succeeded.
* `mapError_eq_ok_iff` — another wording of the error does not change a success.
-/

variable {α β ε ε' : Type}

/-- Two steps that succeed one after the other succeed each. -/
theorem bind_eq_ok {outcome : Except ε α} {f : α → Except ε β} {b : β}
    (h : outcome >>= f = .ok b) : ∃ a, outcome = .ok a ∧ f a = .ok b := by
  cases outcome with
  | ok a => exact ⟨a, rfl, h⟩
  | error e => cases h

@[simp] theorem mapError_ok (f : ε → ε') (a : α) : (Except.ok a).mapError f = .ok a :=
  rfl

/-- An outcome whose error is replaced is a success exactly if it was one before. -/
@[simp] theorem mapError_eq_ok_iff {outcome : Except ε α} {f : ε → ε'} {a : α} :
    outcome.mapError f = .ok a ↔ outcome = .ok a := by
  cases outcome with
  | ok a' => rw [mapError_ok, Except.ok.injEq, Except.ok.injEq]
  | error e =>
    constructor
    · intro h
      cases h
    · intro h
      cases h

end AttrLint
