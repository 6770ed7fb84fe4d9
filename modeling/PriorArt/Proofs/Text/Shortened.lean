import Mathlib.Algebra.BigOperators.Ring.List
import Mathlib.Algebra.Ring.Nat
import PriorArt.Brackets
import PriorArt.Proofs.Text.Solid

/-!
# Texts with characters left out

One text can be another with some of its characters left out. The number of the characters that
are left out adds up over texts that are put together, and the two texts are the same exactly if
the number is zero.
-/

namespace PriorArt.Text

/-- The separator stands behind the text of the first of several items. -/
theorem join_map_several {α : Type} (separator : Char) (text : α → Text) (first second : α)
    (rest : List α) :
    join separator ((first :: second :: rest).map text) =
      text first ++ separator :: join separator ((second :: rest).map text) :=
  join_cons (by simp)

/-- The short text is the long one with a number of its characters left out. -/
structure ShortensBy (short long : Text) (number : Nat) : Prop where
  inside : short.Sublist long
  counted : long.length = short.length + number

namespace ShortensBy

variable {short long back other : Text} {number more : Nat}

/-- Nothing is left out of a text that stays as it is. -/
theorem refl (text : Text) : ShortensBy text text 0 := ⟨.refl text, rfl⟩

/-- What is left out in two rounds. -/
theorem trans {least : Text} (second : ShortensBy least short more)
    (first : ShortensBy short long number) : ShortensBy least long (number + more) := by
  refine ⟨second.inside.trans first.inside, ?_⟩
  have afterFirst := first.counted
  have afterSecond := second.counted
  omega

/-- What is left out of two texts, one behind the other. -/
theorem append (front : ShortensBy short long number) (behind : ShortensBy back other more) :
    ShortensBy (short ++ back) (long ++ other) (number + more) := by
  refine ⟨front.inside.append behind.inside, ?_⟩
  have ofFront := front.counted
  have ofBack := behind.counted
  simp only [List.length_append]
  omega

/-- A character in front stays. -/
theorem cons (character : Char) (shortened : ShortensBy short long number) :
    ShortensBy (character :: short) (character :: long) number := by
  refine ⟨shortened.inside.cons_cons character, ?_⟩
  have counted := shortened.counted
  simp only [List.length_cons]
  omega

/-- Round brackets stay. -/
theorem parenthesized (shortened : ShortensBy short long number) :
    ShortensBy (Brackets.parenthesized short) (Brackets.parenthesized long) number :=
  (shortened.append (refl [')'])).cons '('

/-- Round brackets are left out. -/
theorem opened (shortened : ShortensBy short long number) :
    ShortensBy short (Brackets.parenthesized long) (number + 2) := by
  refine ⟨?_, ?_⟩
  · exact (shortened.inside.trans (List.sublist_append_left long [')'])).cons '('
  · have counted := shortened.counted
    simp only [Brackets.parenthesized, List.cons_append, List.length_cons, List.length_append,
      List.length_nil]
    omega

/-- What is left out of joined pieces is left out of the pieces. -/
theorem join {α : Type} (separator : Char) {items : List α} {kept whole : α → Text}
    {numberOf : α → Nat} (each : ∀ item ∈ items, ShortensBy (kept item) (whole item)
      (numberOf item)) :
    ShortensBy (Text.join separator (items.map kept)) (Text.join separator (items.map whole))
      (items.map numberOf).sum := by
  induction items with
  | nil => exact refl _
  | cons item others inductionHypothesis =>
    have first := each item (by simp)
    have later := inductionHypothesis (fun other listed => each other (by simp [listed]))
    cases others with
    | nil => simpa using first
    | cons next rest =>
      have total : ((item :: next :: rest).map numberOf).sum =
          numberOf item + ((next :: rest).map numberOf).sum := List.sum_cons
      rw [join_map_several, join_map_several, total]
      exact first.append (later.cons separator)

/-- A text is kept exactly if no character is left out. -/
theorem same_iff (shortened : ShortensBy short long number) : short = long ↔ number = 0 := by
  constructor
  · rintro rfl
    have counted := shortened.counted
    omega
  · intro none
    refine shortened.inside.eq_of_length ?_
    rw [shortened.counted, none, Nat.add_zero]

end ShortensBy

end PriorArt.Text
