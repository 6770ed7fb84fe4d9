import PriorArt.Text.Basic

/-!
# Decimal digits

A number is written in digits of ASCII without zeros in front, and its digits have its value again.
-/

namespace PriorArt

/-- The digits of a number are digits of ASCII. -/
theorem decimal_digits (number : Nat) : ∀ character ∈ decimal number, character.isDigit = true :=
  fun _ inside => Nat.isDigit_of_mem_toDigits (by decide) (by decide) inside

/-- The digits of a number have its value. -/
theorem value_of_decimal (number : Nat) : Nat.ofDigitChars 10 (decimal number) 0 = number :=
  Nat.ofDigitChars_ten_toDigits

/-- No zero stands in front of the digits of a number, but the zero itself. -/
theorem decimal_without_leading_zero {number : Nat} (positive : 0 < number) :
    (decimal number).head? ≠ some '0' := by
  unfold decimal
  induction number using Nat.base_induction 10 (by decide) with
  | single digit isDigit =>
    have notZero : digit ≠ 0 := by omega
    simp [Nat.toDigits_of_lt_base isDigit, notZero]
  | digit front last lastDigit frontPositive inductionHypothesis =>
    have ofFront := inductionHypothesis frontPositive
    rw [← Nat.toDigits_append_toDigits (by decide) frontPositive lastDigit]
    cases digits : Nat.toDigits 10 front with
    | nil => exact absurd digits Nat.toDigits_ne_nil
    | cons first others =>
      rw [digits] at ofFront
      exact ofFront

end PriorArt
