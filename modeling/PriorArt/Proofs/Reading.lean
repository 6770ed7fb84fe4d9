/-!
# Readers and their results

A reader gives a value or fails. A reading that goes step by step succeeds exactly if every step
does, each on what the one before has left. It fails where the first step fails that does.
-/

namespace PriorArt.Reading

variable {ε ζ α β : Type}

/-- What follows a step that succeeds goes on with its value. -/
@[simp] theorem ok_bind (value : α) (next : α → Except ε β) :
    (Except.ok value >>= next) = next value := rfl

/-- Nothing follows a step that fails. -/
@[simp] theorem error_bind (error : ε) (next : α → Except ε β) :
    (Except.error error >>= next) = .error error := rfl

/-- Two steps succeed exactly if the first does and the second does on its value. -/
theorem bind_ok_iff (step : Except ε α) (next : α → Except ε β) (result : β) :
    step >>= next = .ok result ↔ ∃ value, step = .ok value ∧ next value = .ok result := by
  cases step with
  | ok value => simp
  | error error => simp

/-- Two steps fail exactly if the first does, or the second does on the value of the first. -/
theorem bind_error_iff (step : Except ε α) (next : α → Except ε β) (error : ε) :
    step >>= next = .error error ↔
      step = .error error ∨ ∃ value, step = .ok value ∧ next value = .error error := by
  cases step with
  | ok value => simp
  | error error => simp

/-- A reading whose value is turned into another succeeds exactly if it does without that. -/
theorem map_ok_iff (turn : α → β) (reading : Except ε α) (result : β) :
    reading.map turn = .ok result ↔ ∃ value, reading = .ok value ∧ turn value = result := by
  cases reading with
  | ok value => simp [Except.map]
  | error error => simp [Except.map]

/-- A reading succeeds, whatever its errors are turned into, exactly if it does without that. -/
theorem mapError_ok_iff (turn : ε → ζ) (reading : Except ε α) (result : α) :
    reading.mapError turn = .ok result ↔ reading = .ok result := by
  cases reading with
  | ok value =>
    constructor
    · intro same
      cases same
      rfl
    · intro same
      cases same
      rfl
  | error error =>
    constructor
    · intro same
      cases same
    · intro same
      cases same

end PriorArt.Reading
