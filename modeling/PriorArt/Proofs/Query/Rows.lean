import PriorArt.Proofs.Query.Tidy
import PriorArt.Proofs.Query.Reads

/-!
# Rows

Texts that are to be searched as they stand are built more freely than the grammar of queries
allows: words, groups and braces follow one another in a row, with a plus sign, a star or a
distance between neighbours, in any order. This module has the rows as data, with their texts,
and says which rows the grammar can read and as what.

The grammar reads a row from the left. A run of plus signs is a union, a run of unions with stars
is a product, and inside a group one product may be near one other. So a row can be read inside a
group exactly if there is at most one distance in it, and if each of its own groups can be read.
-/

namespace PriorArt.Layout

open Phrase

/-- What stands between two neighbours of a row. -/
inductive Separator where
  | plus
  | star
  | near (distance : Distance)

/-- A separator as it is written. -/
def Separator.text : Separator → Text
  | plus => ['+']
  | star => ['*']
  | near distance => ',' :: distance.text ++ [',']

mutual

/-- A member of a row, which may be in the text field. -/
inductive Atom where
  | word (text : Text) (marked : Bool)
  | group (inner : Row) (marked : Bool)
  | brace (first second third : Row) (count : Nat) (marked : Bool)

/-- Atoms with separators between neighbours, at least one. -/
inductive Row where
  | last (atom : Atom)
  | more (atom : Atom) (separator : Separator) (rest : Row)

end

/-- The suffix of an atom that is in the text field. -/
def suffix (marked : Bool) : Text := if marked then Field.text.suffix.toList else []

mutual

/-- An atom as it is written. -/
def Atom.text : Atom → Text
  | .word text marked => text ++ suffix marked
  | .group inner marked => Brackets.parenthesized inner.text ++ suffix marked
  | .brace first second third count marked =>
    Expr.bracedText first.text second.text third.text count ++ suffix marked

/-- A row as it is written. -/
def Row.text : Row → Text
  | .last atom => atom.text
  | .more atom separator rest => atom.text ++ separator.text ++ rest.text

end

/-- The number of distances in a row. -/
def Row.distances : Row → Nat
  | .last _ => 0
  | .more _ (.near _) rest => rest.distances + 1
  | .more _ _ rest => rest.distances

mutual

/-- Every word is plain, and no distance stands between the commas of a brace. -/
def Atom.IsProper : Atom → Prop
  | .word text _ => IsPlain text
  | .group inner _ => inner.IsProper
  | .brace first second third _ _ =>
    (first.IsProper ∧ first.distances = 0) ∧ (second.IsProper ∧ second.distances = 0) ∧
      third.IsProper ∧ third.distances = 0

/-- Every atom of the row is proper. -/
def Row.IsProper : Row → Prop
  | .last atom => atom.IsProper
  | .more atom _ rest => atom.IsProper ∧ rest.IsProper

end

mutual

/-- Whether the grammar can read an atom: no group in it has more than one distance. -/
def Atom.legible : Atom → Bool
  | .word .. => true
  | .group inner _ => inner.legible && inner.distances ≤ 1
  | .brace first second third _ _ => first.legible && second.legible && third.legible

/-- Whether the grammar can read every atom of a row. -/
def Row.legible : Row → Bool
  | .last atom => atom.legible
  | .more atom _ rest => atom.legible && rest.legible

end

/-- How the grammar reads a row: the operands of the union at its start, the further operands of
the product at its start, and the products behind distances. -/
structure Reading where
  union : Phrase × List Phrase
  factors : List Phrase
  chain : List (Distance × Phrase)

namespace Reading

/-- A single phrase. -/
def single (phrase : Phrase) : Reading := ⟨(phrase, []), [], []⟩

/-- The operands of the product at the start. -/
def product (reading : Reading) : Phrase × List Phrase := (wholeUnion reading.union, reading.factors)

/-- A phrase with a separator in front of what was read. -/
def put (phrase : Phrase) (separator : Separator) (reading : Reading) : Reading :=
  match separator with
  | .plus => { reading with union := (phrase, reading.union.1 :: reading.union.2) }
  | .star => ⟨(phrase, []), wholeUnion reading.union :: reading.factors, reading.chain⟩
  | .near distance => ⟨(phrase, []), [], (distance, wholeProduct reading.product) :: reading.chain⟩

/-- What was read inside a group, as far as a group allows. -/
def inside (reading : Reading) : Phrase :=
  match reading.chain with
  | [] => wholeProduct reading.product
  | (distance, right) :: _ => .proximity (wholeProduct reading.product) distance right

end Reading

/-- A phrase in the text field, or as it is. -/
def inField (marked : Bool) (phrase : Phrase) : Phrase :=
  if marked then .fielded phrase .text else phrase

mutual

/-- The phrase as which an atom is read. -/
def Atom.phrase : Atom → Phrase
  | .word text marked => inField marked (.term text)
  | .group inner marked => inField marked (.group inner.reading.inside)
  | .brace first second third count marked =>
    inField marked (.brace (wholeProduct first.reading.product)
      (wholeProduct second.reading.product) (wholeProduct third.reading.product) ⟨.words, count⟩)

/-- How a row is read. -/
def Row.reading : Row → Reading
  | .last atom => .single atom.phrase
  | .more atom separator rest => rest.reading.put atom.phrase separator

end

/-- Two rows with a separator between them. -/
def Row.append : Row → Separator → Row → Row
  | .last atom, separator, back => .more atom separator back
  | .more atom first rest, separator, back => .more atom first (rest.append separator back)

/-- The text of two rows with a separator between them. -/
@[simp] theorem Row.text_append (front : Row) (separator : Separator) (back : Row) :
    (front.append separator back).text = front.text ++ separator.text ++ back.text := by
  cases front with
  | last atom => rfl
  | more atom first rest =>
    have later := Row.text_append rest separator back
    simp [Row.append, Row.text, later]

/-- The distances of two rows and of the separator between them. -/
@[simp] theorem Row.distances_append (front : Row) (separator : Separator) (back : Row) :
    (front.append separator back).distances =
      front.distances + (match separator with | .near _ => 1 | _ => 0) + back.distances := by
  cases front with
  | last atom => cases separator <;> simp [Row.append, Row.distances, Nat.add_comm]
  | more atom first rest =>
    have later := Row.distances_append rest separator back
    cases first <;> simp [Row.append, Row.distances, later] <;> omega

/-- Two rows are proper together if both are. -/
@[simp] theorem Row.proper_append (front : Row) (separator : Separator) (back : Row) :
    (front.append separator back).IsProper ↔ front.IsProper ∧ back.IsProper := by
  cases front with
  | last atom => rfl
  | more atom first rest =>
    have later := Row.proper_append rest separator back
    simp [Row.append, Row.IsProper, later, and_assoc]

/-- Two rows are legible together if both are. -/
@[simp] theorem Row.legible_append (front : Row) (separator : Separator) (back : Row) :
    (front.append separator back).legible = (front.legible && back.legible) := by
  cases front with
  | last atom => rfl
  | more atom first rest =>
    have later := Row.legible_append rest separator back
    simp [Row.append, Row.legible, later, Bool.and_assoc]

end PriorArt.Layout
