import PriorArt.Expr.LogicalForm
import PriorArt.Proofs.Query.RowTexts

/-!
# The row of an expression

The logical form of an expression is the text of a row. The operands of a set operator follow one
another in it with the sign of the operator between them, so that chains run into each other, and
a nearness puts a distance between two atoms of the row. Only what the logical form encloses is a
group.

A built tree is one that a line can write: every set operator has two operands at least. Its row is
no single group, and it is proper if the words and names of the tree are plain.
-/

namespace PriorArt

open Brackets Layout

/-- The separator that shows a set operator in a row. -/
def Connective.separator : Connective → Separator
  | .or => .plus
  | .and => .star

/-- The separator of a set operator is its sign. -/
@[simp] theorem Connective.separator_text (connective : Connective) :
    connective.separator.text = [connective.sign] := by
  cases connective <;> rfl

namespace Layout

/-- Rows with the sign of a set operator between neighbours. -/
def Row.joined (connective : Connective) (first : Row) : List Row → Row
  | [] => first
  | second :: others =>
    first.append connective.separator (Row.joined connective second others)

/-- The text of joined rows. -/
theorem Row.text_joined (connective : Connective) (first : Row) (others : List Row) :
    (Row.joined connective first others).text =
      first.text ++ others.flatMap (fun row => connective.sign :: row.text) := by
  induction others generalizing first with
  | nil => simp [Row.joined]
  | cons second rest inductionHypothesis => simp [Row.joined, inductionHypothesis]

/-- Joined rows are proper if each of them is. -/
theorem Row.proper_joined (connective : Connective) (first : Row) (others : List Row) :
    (Row.joined connective first others).IsProper ↔ ∀ row ∈ first :: others, row.IsProper := by
  induction others generalizing first with
  | nil => simp [Row.joined]
  | cons second rest inductionHypothesis => simp [Row.joined, inductionHypothesis]

/-- Joined rows are legible if each of them is. -/
theorem Row.legible_joined (connective : Connective) (first : Row) (others : List Row) :
    (Row.joined connective first others).legible = true ↔
      ∀ row ∈ first :: others, row.legible = true := by
  induction others generalizing first with
  | nil => simp [Row.joined]
  | cons second rest inductionHypothesis => simp [Row.joined, inductionHypothesis]

/-- Joined rows end outside of the text field if each of them does. -/
theorem Row.open_joined (connective : Connective) (first : Row) (others : List Row)
    (isOpen : ∀ row ∈ first :: others, row.isOpen = true) :
    (Row.joined connective first others).isOpen = true := by
  induction others generalizing first with
  | nil => exact isOpen first (by simp)
  | cons second rest inductionHypothesis =>
    have later := inductionHypothesis second (fun row inside => isOpen row (by simp [inside]))
    simpa [Row.joined] using later

/-- Rows with something between them are no single group. -/
theorem Row.not_group_append (front : Row) (separator : Separator) (back : Row) :
    ¬ (front.append separator back).IsGroup := by
  rintro ⟨inner, same⟩
  cases front with
  | last atom => cases same
  | more atom first rest => cases same

end Layout

namespace Expr

/-- An operand of nearness as a row, enclosed unless it is primary. -/
def operandRow (operand : Expr) (row : Row) : Row :=
  if operand.isPrimary then row else .last (.group row false)

/-- An operand of a set operator as a row, enclosed where it binds too loosely. -/
def factorRow (connective : Connective) (operand : Expr) (row : Row) : Row :=
  if connective = .and && operand.isUnion then .last (.group row false) else row

mutual

/-- The row of the logical form, with references written by the given names. -/
def row (name : Text → Text) : Expr → Row
  | word text => .last (.word text false)
  | reference id => .last (.word (name id) false)
  | logical connective first others =>
    .joined connective (factorRow connective first (row name first))
      (rowsOfAll name connective others)
  | proximity distance left right =>
    (operandRow left (row name left)).append (.near distance) (operandRow right (row name right))
  | simultaneous count first second third =>
    .last (.brace (operandRow first (row name first)) (operandRow second (row name second))
      (operandRow third (row name third)) count false)

/-- The rows of several operands of a set operator. -/
def rowsOfAll (name : Text → Text) (connective : Connective) : List Expr → List Row
  | [] => []
  | operand :: operands =>
    factorRow connective operand (row name operand) :: rowsOfAll name connective operands

end

/-- The rows of several operands, one by one. -/
theorem rowsOfAll_eq (name : Text → Text) (connective : Connective) (operands : List Expr) :
    rowsOfAll name connective operands =
      operands.map (fun operand => factorRow connective operand (operand.row name)) := by
  induction operands with
  | nil => rfl
  | cons operand others inductionHypothesis =>
    rw [rowsOfAll, inductionHypothesis, List.map_cons]

/-- The text of an operand of nearness. -/
theorem text_operandRow (operand : Expr) (row : Row) :
    (operandRow operand row).text = operandText operand row.text := by
  unfold operandRow operandText
  split
  · rfl
  · simp [Row.text, Atom.text, suffix]

/-- The text of an operand of a set operator. -/
theorem text_factorRow (connective : Connective) (operand : Expr) (row : Row) :
    (factorRow connective operand row).text = factorText connective operand row.text := by
  unfold factorRow factorText
  split
  · simp [Row.text, Atom.text, suffix]
  · rfl

mutual

/-- The logical form of an expression is the text of its row. -/
theorem text_row (name : Text → Text) (expr : Expr) :
    (expr.row name).text = logicalForm name expr := by
  cases expr with
  | word text => simp [row, Row.text, Atom.text, suffix, logicalForm]
  | reference id => simp [row, Row.text, Atom.text, suffix, logicalForm]
  | logical connective first others =>
    rw [row, Row.text_joined, text_factorRow, text_row name first,
      text_rowsOfAll name connective others, logicalForm]
  | proximity distance left right =>
    simp [row, text_operandRow, text_row name left, text_row name right, Separator.text,
      logicalForm]
  | simultaneous count first second third =>
    simp [row, Row.text, Atom.text, suffix, text_operandRow, text_row name first,
      text_row name second, text_row name third, logicalForm]

/-- The further operands of a set operator are the texts of their rows, each behind the sign. -/
theorem text_rowsOfAll (name : Text → Text) (connective : Connective) (operands : List Expr) :
    (rowsOfAll name connective operands).flatMap (fun row => connective.sign :: row.text) =
      logicalForms name connective operands := by
  cases operands with
  | nil => rfl
  | cons operand others =>
    rw [rowsOfAll, List.flatMap_cons, text_factorRow, text_row name operand,
      text_rowsOfAll name connective others, logicalForms]

end

/-- A tree that a line can write: it has plain words, references with a property, and two operands
at least under every set operator. -/
inductive IsBuilt (named : Text → Prop) : Expr → Prop where
  | word {text : Text} (plain : IsPlain text) : IsBuilt named (.word text)
  | reference {id : Text} (isNamed : named id) : IsBuilt named (.reference id)
  | logical (connective : Connective) {first second : Expr} {others : List Expr}
      (operands : ∀ operand ∈ first :: second :: others, IsBuilt named operand) :
      IsBuilt named (.logical connective first (second :: others))
  | proximity (distance : Distance) {left right : Expr} (ofLeft : IsBuilt named left)
      (ofRight : IsBuilt named right) : IsBuilt named (.proximity distance left right)
  | simultaneous (count : Nat) {first second third : Expr} (ofFirst : IsBuilt named first)
      (ofSecond : IsBuilt named second) (ofThird : IsBuilt named third) :
      IsBuilt named (.simultaneous count first second third)

/-- A proper row that ends outside of the text field and is no single group. -/
structure IsClean (row : Row) : Prop where
  proper : row.IsProper
  isOpen : row.isOpen = true
  noGroup : ¬ row.IsGroup

/-- The text of a clean row lays it out. -/
theorem IsClean.lays_out {row : Row} (clean : IsClean row) : LaysOut row.text row :=
  Row.lays_out clean.proper clean.isOpen clean.noGroup

/-- A pair of brackets around the text of a clean row lays out the row. -/
theorem IsClean.lays_out_enclosed {row : Row} (clean : IsClean row) :
    LaysOut (parenthesized row.text) row :=
  Row.lays_out_enclosed clean.proper clean.isOpen clean.noGroup

/-- A plain word has a clean row. -/
theorem clean_word {text : Text} (plain : IsPlain text) : IsClean (.last (.word text false)) :=
  ⟨plain, rfl, by rintro ⟨inner, same⟩; cases same⟩

/-- The row of an operand of nearness is a single atom. -/
theorem operandRow_atom {named : Text → Prop} {operand : Expr} (built : IsBuilt named operand)
    (name : Text → Text) : ∃ atom, operandRow operand (operand.row name) = .last atom := by
  cases built with
  | word plain => exact ⟨_, rfl⟩
  | reference isNamed => exact ⟨_, rfl⟩
  | logical connective operands => exact ⟨_, rfl⟩
  | proximity distance ofLeft ofRight => exact ⟨_, rfl⟩
  | simultaneous count ofFirst ofSecond ofThird => exact ⟨_, rfl⟩

/-- An operand of nearness is proper and without distances. -/
theorem proper_operandRow {named : Text → Prop} {operand : Expr} (built : IsBuilt named operand)
    {name : Text → Text} (clean : IsClean (operand.row name)) :
    (operandRow operand (operand.row name)).IsProper ∧
      (operandRow operand (operand.row name)).distances = 0 ∧
      (operandRow operand (operand.row name)).isOpen = true := by
  obtain ⟨atom, same⟩ := operandRow_atom built name
  refine ⟨?_, by rw [same]; rfl, ?_⟩
  · unfold operandRow
    split
    · exact clean.proper
    · exact clean.proper
  · unfold operandRow
    split
    · exact clean.isOpen
    · rfl

/-- An operand of a set operator is proper and ends outside of the text field. -/
theorem proper_factorRow (connective : Connective) (operand : Expr) {row : Row}
    (clean : IsClean row) :
    (factorRow connective operand row).IsProper ∧
      (factorRow connective operand row).isOpen = true := by
  unfold factorRow
  split
  · exact ⟨clean.proper, rfl⟩
  · exact ⟨clean.proper, clean.isOpen⟩

/-- A built tree with plain names has a clean row. -/
theorem IsBuilt.clean {named : Text → Prop} {name : Text → Text}
    (plainNames : ∀ id, named id → IsPlain (name id)) {expr : Expr}
    (built : IsBuilt named expr) : IsClean (expr.row name) := by
  induction built with
  | word plain => exact clean_word plain
  | @reference id isNamed => exact clean_word (plainNames id isNamed)
  | @logical connective first second others operands inductionHypothesis =>
    have each : ∀ row ∈ factorRow connective first (first.row name) ::
        rowsOfAll name connective (second :: others), row.IsProper ∧ row.isOpen = true := by
      rw [rowsOfAll_eq, ← List.map_cons
        (f := fun operand => factorRow connective operand (operand.row name)),
        List.forall_mem_map]
      exact fun operand inside => proper_factorRow connective operand
        (inductionHypothesis operand inside)
    refine ⟨?_, ?_, ?_⟩
    · exact (Row.proper_joined _ _ _).mpr (fun row inside => (each row inside).1)
    · exact Row.open_joined _ _ _ (fun row inside => (each row inside).2)
    · exact Row.not_group_append _ _ _
  | proximity distance ofLeft ofRight leftHypothesis rightHypothesis =>
    obtain ⟨properLeft, _, _⟩ := proper_operandRow ofLeft leftHypothesis
    obtain ⟨properRight, _, openRight⟩ := proper_operandRow ofRight rightHypothesis
    refine ⟨?_, ?_, Row.not_group_append _ _ _⟩
    · exact (Row.proper_append _ _ _).mpr ⟨properLeft, properRight⟩
    · exact (Row.open_append _ _ _).trans openRight
  | simultaneous count ofFirst ofSecond ofThird firstHypothesis secondHypothesis thirdHypothesis =>
    obtain ⟨properFirst, noFirst, _⟩ := proper_operandRow ofFirst firstHypothesis
    obtain ⟨properSecond, noSecond, _⟩ := proper_operandRow ofSecond secondHypothesis
    obtain ⟨properThird, noThird, _⟩ := proper_operandRow ofThird thirdHypothesis
    refine ⟨?_, rfl, by rintro ⟨inner, same⟩; cases same⟩
    exact ⟨⟨properFirst, noFirst⟩, ⟨properSecond, noSecond⟩, properThird, noThird⟩

/-- The logical form of a built tree with plain names lays out its row. -/
theorem IsBuilt.lays_out {named : Text → Prop} {name : Text → Text}
    (plainNames : ∀ id, named id → IsPlain (name id)) {expr : Expr}
    (built : IsBuilt named expr) : LaysOut (logicalForm name expr) (expr.row name) := by
  rw [← text_row]
  exact (built.clean plainNames).lays_out

end Expr

end PriorArt
