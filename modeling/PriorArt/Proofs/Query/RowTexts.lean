import PriorArt.Proofs.Query.Rows

/-!
# The texts of rows

The text of a proper row is tidy. It has no enclosing pair of brackets unless the row is a single
group, and its compound marks outside of brackets are those of its own separators and braces. So
what the handling of brackets does to the text of a row is said by the row.
-/

namespace PriorArt.Layout

open Brackets

/-- A tidy text stays tidy in the text field. -/
theorem tidy_marked {text : Text} (tidy : IsTidy text) (marked : Bool) :
    IsTidy (text ++ suffix marked) := by
  cases marked with
  | true => exact tidy.fielded .text
  | false => simpa [suffix] using tidy

/-- Texts with a separator between them are tidy. -/
theorem tidy_separated {front back : Text} (tidyFront : IsTidy front) (tidyBack : IsTidy back)
    (separator : Separator) : IsTidy (front ++ separator.text ++ back) := by
  cases separator with
  | plus =>
    have tidy := tidy_sign (by decide : IsSign '+') tidyFront tidyBack
    simpa [Separator.text] using tidy
  | star =>
    have tidy := tidy_sign (by decide : IsSign '*') tidyFront tidyBack
    simpa [Separator.text] using tidy
  | near distance =>
    have tidy := tidy_sign (by decide : IsSign ',') tidyFront
      (tidy_sign (by decide : IsSign ',') (tidy_distance distance) tidyBack)
    simpa [Separator.text] using tidy

/-- A brace of tidy texts is tidy, and begins with a nested pair of brackets. -/
theorem tidy_brace {first second third : Text} (tidyFirst : IsTidy first)
    (tidySecond : IsTidy second) (tidyThird : IsTidy third) (count : Nat) :
    IsTidy (Expr.bracedText first second third count) ∧
      ∃ inner, Nested inner ∧ Expr.bracedText first second third count =
        '{' :: inner ++ '}' :: (',' :: Distance.text ⟨.words, count⟩) := by
  have tidyInner := tidy_sign (by decide : IsSign ',') tidyFirst
    (tidy_sign (by decide : IsSign ',') tidySecond tidyThird)
  have tidyBrace := tidyInner.enclosed (rfl : closerOf? '{' = some '}')
  have tidy := tidy_sign (by decide : IsSign ',') tidyBrace (tidy_distance ⟨.words, count⟩)
  refine ⟨?_, _, tidyInner.nested, ?_⟩
  · simpa [Expr.bracedText, Distance.text, DistanceUnit.letter] using tidy
  · simp [Expr.bracedText, Distance.text, DistanceUnit.letter]

mutual

/-- The text of a proper atom is tidy. -/
theorem Atom.tidy (atom : Atom) (proper : atom.IsProper) : IsTidy atom.text := by
  cases atom with
  | word text marked => exact tidy_marked (IsPlain.tidy proper) marked
  | group inner marked => exact tidy_marked ((Row.tidy inner proper).enclosed rfl) marked
  | brace first second third count marked =>
    obtain ⟨⟨properFirst, _⟩, ⟨properSecond, _⟩, properThird, _⟩ := proper
    exact tidy_marked (tidy_brace (Row.tidy first properFirst) (Row.tidy second properSecond)
      (Row.tidy third properThird) count).1 marked

/-- The text of a proper row is tidy. -/
theorem Row.tidy (row : Row) (proper : row.IsProper) : IsTidy row.text := by
  cases row with
  | last atom => exact Atom.tidy atom proper
  | more atom separator rest =>
    exact tidy_separated (Atom.tidy atom proper.1) (Row.tidy rest proper.2) separator

end

/-- The text of a proper atom has characters. -/
theorem Atom.filled (atom : Atom) (proper : atom.IsProper) : atom.text ≠ [] := by
  cases atom with
  | word text marked => simp [Atom.text, IsPlain.filled proper]
  | group inner marked => simp [Atom.text, parenthesized]
  | brace first second third count marked => simp [Atom.text, Expr.bracedText]

/-- The text of a proper row has characters. -/
theorem Row.filled (row : Row) (proper : row.IsProper) : row.text ≠ [] := by
  cases row with
  | last atom => exact Atom.filled atom proper
  | more atom separator rest => simp [Row.text, Atom.filled atom proper.1]

/-- A row that is a single group outside of the text field. -/
def Row.IsGroup (row : Row) : Prop := ∃ inner, row = .last (.group inner false)

/-- A row is not enclosed by a pair of brackets unless it is a single group. -/
theorem Row.bare (row : Row) (proper : row.IsProper) (noGroup : ¬ row.IsGroup) :
    interior? row.text = none := by
  cases row with
  | last atom =>
    have field : Field.text.suffix.toList ≠ [] := by decide
    cases atom with
    | word text marked =>
      cases marked with
      | true => exact interior_append (IsPlain.tidy proper).nested (IsPlain.filled proper) field
      | false => simpa [Row.text, Atom.text, suffix] using IsPlain.bare proper
    | group inner marked =>
      cases marked with
      | true =>
        have nested := (Row.tidy inner proper).nested.enclosed (rfl : closerOf? '(' = some ')')
        exact interior_append nested (by simp [parenthesized]) field
      | false => exact absurd ⟨inner, rfl⟩ noGroup
    | brace first second third count marked =>
      obtain ⟨⟨properFirst, _⟩, ⟨properSecond, _⟩, properThird, _⟩ := proper
      obtain ⟨_, inner, nested, same⟩ := tidy_brace (Row.tidy first properFirst)
        (Row.tidy second properSecond) (Row.tidy third properThird) count
      have pair := nested.enclosed (rfl : closerOf? '{' = some '}')
      have assembled : (Row.last (.brace first second third count marked)).text =
          ('{' :: inner ++ ['}']) ++ (',' :: Distance.text ⟨.words, count⟩ ++ suffix marked) := by
        simp [Row.text, Atom.text, same]
      rw [assembled]
      exact interior_append pair (by simp) (by simp)
  | more atom separator rest =>
    have someSeparator : separator.text ≠ [] := by cases separator <;> simp [Separator.text]
    rw [Row.text, List.append_assoc]
    exact interior_append (Atom.tidy atom proper.1).nested (Atom.filled atom proper.1)
      (by simp [someSeparator])

/-- Whether an atom shows a compound mark outside of its brackets, which only a brace does. -/
def Atom.isCompound : Atom → Bool
  | .brace .. => true
  | _ => false

/-- Whether a separator is a compound mark, which only a star is not. -/
def Separator.isCompound : Separator → Bool
  | .star => false
  | _ => true

/-- Whether a row shows a compound mark outside of its brackets. -/
def Row.isCompound : Row → Bool
  | .last atom => atom.isCompound
  | .more atom separator rest => atom.isCompound || separator.isCompound || rest.isCompound

/-- The suffix of the text field is no compound mark. -/
theorem compound_suffix (marked : Bool) : hasTopLevel compoundMarks (suffix marked) = false := by
  cases marked <;> decide

/-- The compound marks of the text of an atom. -/
theorem Atom.compound (atom : Atom) (proper : atom.IsProper) :
    hasTopLevel compoundMarks atom.text = atom.isCompound := by
  cases atom with
  | word text marked =>
    rw [Atom.text, hasTopLevel_append (IsPlain.tidy proper).nested, IsPlain.not_compound proper,
      compound_suffix]
    rfl
  | group inner marked =>
    have tidy := Row.tidy inner proper
    have nested := tidy.nested.enclosed (rfl : closerOf? '(' = some ')')
    rw [Atom.text, hasTopLevel_append (by exact nested), compound_suffix, parenthesized,
      hasTopLevel, occursOutside_pair (by rfl) tidy.nested]
    rfl
  | brace first second third count marked =>
    obtain ⟨⟨properFirst, _⟩, ⟨properSecond, _⟩, properThird, _⟩ := proper
    obtain ⟨tidy, inner, nested, same⟩ := tidy_brace (Row.tidy first properFirst)
      (Row.tidy second properSecond) (Row.tidy third properThird) count
    rw [Atom.text, hasTopLevel_append tidy.nested, same, hasTopLevel,
      occursOutside_pair (by rfl) nested]
    rfl

/-- The compound marks of a separator. -/
theorem Separator.compound (separator : Separator) (back : Text) :
    hasTopLevel compoundMarks (separator.text ++ back) =
      (separator.isCompound || hasTopLevel compoundMarks back) := by
  cases separator with
  | plus => rfl
  | star => rfl
  | near distance => rfl

/-- The compound marks of the text of a row. -/
theorem Row.compound (row : Row) (proper : row.IsProper) :
    hasTopLevel compoundMarks row.text = row.isCompound := by
  cases row with
  | last atom => exact Atom.compound atom proper
  | more atom separator rest =>
    rw [Row.text, List.append_assoc, hasTopLevel_append (Atom.tidy atom proper.1).nested,
      Separator.compound, Atom.compound atom proper.1, Row.compound rest proper.2,
      Row.isCompound, Bool.or_assoc]

/-- Whether a row can be read inside a group. -/
def Row.fits (row : Row) : Bool := row.legible && row.distances ≤ 1

/-- The row that is enclosed if it shows compound marks. -/
def Row.regrouped (row : Row) : Row := if row.isCompound then .last (.group row false) else row

/-- A row without compound marks has no distances. -/
theorem Row.distances_of_not_compound (row : Row) (simple : row.isCompound = false) :
    row.distances = 0 := by
  cases row with
  | last atom => rfl
  | more atom separator rest =>
    simp only [Row.isCompound, Bool.or_eq_false_iff] at simple
    have later := Row.distances_of_not_compound rest simple.2
    cases separator with
    | plus => exact absurd simple.1.2 (by decide)
    | star => exact later
    | near distance => exact absurd simple.1.2 (by simp [Separator.isCompound])

/-- What is enclosed if it shows compound marks is proper if the row is. -/
theorem Row.proper_regrouped {row : Row} (proper : row.IsProper) : row.regrouped.IsProper := by
  unfold Row.regrouped
  split
  · exact proper
  · exact proper

/-- What is enclosed if it shows compound marks shows none then. -/
theorem Row.not_compound_regrouped (row : Row) : row.regrouped.isCompound = false := by
  unfold Row.regrouped
  split
  · rfl
  · next simple => simpa using simple

/-- Whether an atom is outside of the text field. -/
def Atom.isOpen : Atom → Bool
  | .word _ marked | .group _ marked | .brace _ _ _ _ marked => !marked

/-- Whether the last atom of a row is outside of the text field. -/
def Row.isOpen : Row → Bool
  | .last atom => atom.isOpen
  | .more _ _ rest => rest.isOpen

/-- The last atom of two rows is that of the second one. -/
@[simp] theorem Row.open_append (front : Row) (separator : Separator) (back : Row) :
    (front.append separator back).isOpen = back.isOpen := by
  cases front with
  | last atom => rfl
  | more atom first rest => exact Row.open_append rest separator back

/-- What is enclosed if it shows compound marks ends outside of the text field if the row does. -/
theorem Row.open_regrouped {row : Row} (isOpen : row.isOpen = true) :
    row.regrouped.isOpen = true := by
  unfold Row.regrouped
  split
  · rfl
  · exact isOpen

/-- The atom in the text field. -/
def Atom.mark : Atom → Atom
  | .word text _ => .word text true
  | .group inner _ => .group inner true
  | .brace first second third count _ => .brace first second third count true

/-- The row with its last atom in the text field. -/
def Row.mark : Row → Row
  | .last atom => .last atom.mark
  | .more atom separator rest => .more atom separator rest.mark

/-- The suffix of the text field behind a row puts its last atom into the field. -/
theorem Row.text_mark (row : Row) (isOpen : row.isOpen = true) :
    row.mark.text = row.text ++ Field.text.suffix.toList := by
  cases row with
  | last atom =>
    cases atom with
    | word text marked =>
      obtain rfl : marked = false := by simpa [Row.isOpen, Atom.isOpen] using isOpen
      simp [Row.mark, Row.text, Atom.mark, Atom.text, suffix]
    | group inner marked =>
      obtain rfl : marked = false := by simpa [Row.isOpen, Atom.isOpen] using isOpen
      simp [Row.mark, Row.text, Atom.mark, Atom.text, suffix]
    | brace first second third count marked =>
      obtain rfl : marked = false := by simpa [Row.isOpen, Atom.isOpen] using isOpen
      simp [Row.mark, Row.text, Atom.mark, Atom.text, suffix]
  | more atom separator rest =>
    have later := Row.text_mark rest isOpen
    simp [Row.mark, Row.text, later]

/-- The text field makes no difference to whether a row is proper. -/
@[simp] theorem Row.proper_mark (row : Row) : row.mark.IsProper ↔ row.IsProper := by
  cases row with
  | last atom => cases atom <;> rfl
  | more atom separator rest =>
    have later := Row.proper_mark rest
    simp [Row.mark, Row.IsProper, later]

/-- A text that lays out a row: behind its enclosing pairs of brackets it is the text of the row,
which is proper, ends outside of the text field and is no single group. -/
structure LaysOut (text : Text) (row : Row) : Prop where
  tidy : IsTidy text
  strip : Brackets.strip text = row.text
  proper : row.IsProper
  isOpen : row.isOpen = true
  noGroup : ¬ row.IsGroup

/-- The text of a row that is no single group lays it out. -/
theorem Row.lays_out {row : Row} (proper : row.IsProper) (isOpen : row.isOpen = true)
    (noGroup : ¬ row.IsGroup) : LaysOut row.text row :=
  ⟨row.tidy proper, strip_bare (row.tidy proper).solid (row.bare proper noGroup), proper, isOpen,
    noGroup⟩

/-- A pair of brackets around the text of a row lays out the row. -/
theorem Row.lays_out_enclosed {row : Row} (proper : row.IsProper) (isOpen : row.isOpen = true)
    (noGroup : ¬ row.IsGroup) : LaysOut (parenthesized row.text) row :=
  ⟨(row.tidy proper).enclosed rfl, strip_parenthesized (row.tidy proper).solid.trimmed
    (row.tidy proper).nested (row.bare proper noGroup), proper, isOpen, noGroup⟩

/-- A text that lays out a row has characters. -/
theorem LaysOut.filled {text : Text} {row : Row} (laysOut : LaysOut text row) : text ≠ [] := by
  rintro rfl
  exact row.filled laysOut.proper laysOut.strip.symm

/-- A text that lays out a row is regrouped as the row is. -/
theorem LaysOut.regroup {text : Text} {row : Row} (laysOut : LaysOut text row) :
    Brackets.regroup text = row.regrouped.text := by
  rw [Brackets.regroup, laysOut.strip, groupIfCompound, row.compound laysOut.proper, Row.regrouped]
  split
  · simp [Row.text, Atom.text, suffix]
  · rfl

end PriorArt.Layout
