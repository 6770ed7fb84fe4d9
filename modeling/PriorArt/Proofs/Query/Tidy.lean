import PriorArt.Expr.LogicalForm
import PriorArt.Proofs.Brackets.Nested
import PriorArt.Proofs.Query.Plain
import PriorArt.Proofs.Text.Decimals

/-!
# Tidy texts

A tidy text has no blanks, is properly nested and in normal form. Plain words are tidy, and so is
all that is built from tidy texts by signs, brackets, distances and field suffixes. So a query
that is built in this way is read as it stands, and trimming and the search for brackets do to it
what its structure suggests.
-/

namespace PriorArt

open Brackets

/-- A text without blanks that is properly nested and in normal form. -/
structure IsTidy (text : Text) : Prop where
  solid : Text.IsSolid text
  nested : Nested text
  normal : Text.IsNormal text

/-- A character that only stands for itself: it is no blank, bracket or slash, it is folded, and
it is no letter of a suffix. -/
def IsSign (character : Char) : Prop :=
  isBlank character = false ∧ isOpener character = false ∧ isCloser character = false ∧
    foldedChar? character = some character ∧ suffixLetter? character = none ∧ character ≠ '/'

instance : DecidablePred IsSign := fun _ => inferInstanceAs (Decidable (_ ∧ _))

/-- The empty text is tidy. -/
theorem tidy_nil : IsTidy [] := ⟨by decide, .empty, rfl⟩

/-- Tidy texts make a tidy text together, if no suffix can stand across the cut. -/
theorem IsTidy.append {front back : Text} (tidyFront : IsTidy front) (tidyBack : IsTidy back)
    (safe : Text.StartsSafely back) : IsTidy (front ++ back) :=
  ⟨Text.solid_append.mpr ⟨tidyFront.solid, tidyBack.solid⟩, tidyFront.nested.append tidyBack.nested,
    tidyFront.normal.append tidyBack.normal safe⟩

/-- A sign can stand in front of a tidy text. -/
theorem IsTidy.cons {character : Char} {text : Text} (sign : IsSign character)
    (tidy : IsTidy text) : IsTidy (character :: text) := by
  obtain ⟨notBlank, notOpener, notCloser, folded, _, noSlash⟩ := sign
  exact ⟨Text.solid_cons.mpr ⟨notBlank, tidy.solid⟩,
    .character character notOpener notCloser tidy.nested, tidy.normal.cons folded noSlash⟩

/-- Signs can stand in front of a tidy text. -/
theorem tidy_signs {run text : Text} (signs : ∀ character ∈ run, IsSign character)
    (tidy : IsTidy text) : IsTidy (run ++ text) := by
  induction run with
  | nil => exact tidy
  | cons character rest inductionHypothesis =>
    have tidyRest := inductionHypothesis (fun other inside => signs other (by simp [inside]))
    exact tidyRest.cons (signs character (by simp))

/-- A sign can stand between tidy texts. -/
theorem tidy_sign {character : Char} {front back : Text} (sign : IsSign character)
    (tidyFront : IsTidy front) (tidyBack : IsTidy back) : IsTidy (front ++ character :: back) :=
  tidyFront.append (tidyBack.cons sign) (Text.starts_safely_cons sign.2.2.2.2.1 back)

/-- Tidy texts that are joined by a sign are tidy. -/
theorem tidy_join {separator : Char} {pieces : List Text} (sign : IsSign separator)
    (tidy : ∀ piece ∈ pieces, IsTidy piece) : IsTidy (Text.join separator pieces) := by
  induction pieces with
  | nil => exact tidy_nil
  | cons piece others inductionHypothesis =>
    have tidyOthers := inductionHypothesis (fun other inside => tidy other (by simp [inside]))
    cases others with
    | nil => rw [Text.join_single]; exact tidy piece (by simp)
    | cons next rest =>
      rw [Text.join_cons (by simp)]
      exact tidy_sign sign (tidy piece (by simp)) tidyOthers

/-- The two pairs of brackets. -/
theorem pair_cases {opener closer : Char} (matching : closerOf? opener = some closer) :
    (opener = '(' ∧ closer = ')') ∨ (opener = '{' ∧ closer = '}') := by
  unfold closerOf? at matching
  split at matching
  · exact .inl ⟨rfl, (Option.some.inj matching).symm⟩
  · exact .inr ⟨rfl, (Option.some.inj matching).symm⟩
  · cases matching

/-- A tidy text stays tidy in a pair of brackets. -/
theorem IsTidy.enclosed {opener closer : Char} {text : Text} (tidy : IsTidy text)
    (matching : closerOf? opener = some closer) : IsTidy (opener :: text ++ [closer]) := by
  refine ⟨?_, tidy.nested.enclosed matching, ?_⟩
  · rw [List.cons_append, Text.solid_cons, Text.solid_append]
    rcases pair_cases matching with ⟨rfl, rfl⟩ | ⟨rfl, rfl⟩
    · exact ⟨by decide, tidy.solid, by decide⟩
    · exact ⟨by decide, tidy.solid, by decide⟩
  · rcases pair_cases matching with ⟨rfl, rfl⟩ | ⟨rfl, rfl⟩
    · have behind : Text.IsNormal (text ++ [')']) :=
        tidy.normal.append rfl (Text.starts_safely_cons rfl [])
      exact behind.cons rfl (by decide)
    · have behind : Text.IsNormal (text ++ ['}']) :=
        tidy.normal.append rfl (Text.starts_safely_cons rfl [])
      exact behind.cons rfl (by decide)

/-- A tidy text stays tidy in square brackets. -/
theorem IsTidy.bracketed {text : Text} (tidy : IsTidy text) : IsTidy ('[' :: text ++ [']']) := by
  have sign : IsSign '[' ∧ IsSign ']' := by decide
  exact (tidy_sign sign.2 tidy tidy_nil).cons sign.1

/-- A tidy text stays tidy in a field. -/
theorem IsTidy.fielded {text : Text} (tidy : IsTidy text) (field : Field) :
    IsTidy (text ++ field.suffix.toList) := by
  have unbracketed : IsUnbracketed field.suffix.toList := by cases field <;> decide
  have tidySuffix : IsTidy field.suffix.toList :=
    ⟨by cases field <;> decide, unbracketed.nested, by cases field <;> decide⟩
  cases field with
  | text => exact tidy.append tidySuffix (Text.starts_safely_cons rfl _)
  | primaryClass => exact tidy.append tidySuffix (Text.starts_safely_cons rfl _)
  | furtherClass => exact tidy.append tidySuffix (Text.starts_safely_cons rfl _)

/-- A digit is a sign. -/
theorem digit_sign {character : Char} (digit : character.isDigit = true) : IsSign character := by
  have each : ∀ code < 58, 48 ≤ code → IsSign (Char.ofNat code) := by decide
  simp only [Char.isDigit, Bool.and_eq_true, decide_eq_true_eq, UInt32.le_iff_toNat_le] at digit
  obtain ⟨least, most⟩ : 48 ≤ character.toNat ∧ character.toNat ≤ 57 := digit
  rw [← Char.ofNat_toNat character]
  exact each character.toNat (by omega) least

/-- A distance is tidy. -/
theorem tidy_distance (distance : Distance) : IsTidy distance.text := by
  have unbracketed : IsUnbracketed [distance.unit.letter] := by cases distance.unit <;> decide
  have letter : IsTidy [distance.unit.letter] :=
    ⟨by cases distance.unit <;> decide, unbracketed.nested, by cases distance.unit <;> decide⟩
  exact tidy_signs
    (fun character inside => digit_sign (decimal_digits distance.count character inside)) letter

/-- A character of a term is neither a blank nor a mark. -/
theorem term_char_facts {character : Char} (termChar : Phrase.isTermChar character = true) :
    isBlank character = false ∧ Phrase.isMark character = false := by
  simpa [Phrase.isTermChar] using termChar

/-- A character that is no mark is no bracket and no mark that makes a text compound. -/
theorem no_mark_facts {character : Char} (noMark : Phrase.isMark character = false) :
    isOpener character = false ∧ isCloser character = false ∧
      compoundMarks.contains character = false := by
  have others : character ≠ '+' ∧ character ≠ '*' ∧ character ≠ '(' ∧ character ≠ ')' ∧
      character ≠ ',' ∧ character ≠ '{' ∧ character ≠ '}' ∧ character ≠ '[' ∧
      character ≠ ']' ∧ character ≠ '/' := by
    simpa [Phrase.isMark] using noMark
  have noPair : closerOf? character = none := by
    unfold closerOf?
    split <;> simp_all
  simp [isOpener, isCloser, compoundMarks, noPair, others]

namespace IsPlain

variable {word : Text}

/-- The characters of a plain word are no blanks, no brackets and no marks that make a text
compound. -/
theorem chars (plain : IsPlain word) : ∀ character ∈ word, isBlank character = false ∧
    isOpener character = false ∧ isCloser character = false ∧
    compoundMarks.contains character = false := by
  intro character inside
  rcases (Phrase.term_chars plain.term).2 character inside with termChar | rfl
  · obtain ⟨notBlank, noMark⟩ := term_char_facts termChar
    exact ⟨notBlank, no_mark_facts noMark⟩
  · decide

/-- A plain word has characters. -/
theorem filled (plain : IsPlain word) : word ≠ [] := by
  obtain ⟨⟨first, others, rfl, _⟩, _⟩ := Phrase.term_chars plain.term
  exact List.cons_ne_nil first others

/-- There are no brackets in a plain word. -/
theorem unbracketed (plain : IsPlain word) : IsUnbracketed word := by
  intro character inside
  obtain ⟨_, notOpener, notCloser, _⟩ := plain.chars character inside
  exact ⟨notOpener, notCloser⟩

/-- A plain word is tidy. -/
theorem tidy (plain : IsPlain word) : IsTidy word :=
  ⟨fun character inside => (plain.chars character inside).1, plain.unbracketed.nested, plain.normal⟩

/-- A plain word is not enclosed by a pair of brackets. -/
theorem bare (plain : IsPlain word) : interior? word = none := plain.unbracketed.bare

/-- A plain word is no compound text. -/
theorem not_compound (plain : IsPlain word) : hasTopLevel compoundMarks word = false :=
  occursOutside_absent (fun character inside => (plain.chars character inside).2.2.2) 0

end IsPlain

end PriorArt
