import PriorArt.Proofs.Query.ExprRows
import PriorArt.Proofs.Query.RowFactors

/-!
# Rows under a set operator

A row without distances says an intersection, and one with plus signs alone says a union. Such a
row keeps to the set operator. Where rows that keep to an operator are joined by its sign, the
operands that they say are said one after another. A row that does not keep to an operator says an
expression that is a single operand under it.
-/

namespace PriorArt

open Expr Phrase

namespace Expr

/-- An operator with several operands has several when it is flattened, as a list. -/
theorem operandList_several (connective : Connective) (first second : Expr) (others : List Expr) :
    (operandList connective (logical connective first (second :: others)).flatten).length ≠ 1 := by
  obtain ⟨head, next, rest, same⟩ := flatten_several connective first second others
  simp [same, operandList, operands]

/-- An operator with several operands is a single operand under the other one. -/
theorem operandList_other {connective other : Connective} (different : other ≠ connective)
    (first second : Expr) (others : List Expr) :
    (operandList connective (logical other first (second :: others)).flatten).length = 1 := by
  obtain ⟨head, next, rest, same⟩ := flatten_several other first second others
  simp [same, operandList, operands, different]

end Expr

namespace Layout

/-- Whether a separator can stand among the operands of a set operator, where intersections have
unions among theirs. -/
def Separator.isWithin (connective : Connective) : Separator → Bool
  | .plus => true
  | .star => connective = .and
  | .near _ => false

/-- The sign of a set operator stands among its operands. -/
@[simp] theorem Separator.within_separator (connective : Connective) :
    connective.separator.isWithin connective = true := by
  cases connective <;> rfl

namespace Row

/-- All separators of a row can stand among the operands of a set operator. -/
def KeepsTo (connective : Connective) : Row → Prop
  | .last _ => True
  | .more _ separator rest => separator.isWithin connective = true ∧ rest.KeepsTo connective

/-- Two rows keep to an operator together if both do and the separator does. -/
@[simp] theorem keeps_append (connective : Connective) (front : Row) (separator : Separator)
    (back : Row) :
    (front.append separator back).KeepsTo connective ↔
      front.KeepsTo connective ∧ separator.isWithin connective = true ∧
        back.KeepsTo connective := by
  cases front with
  | last atom => simp [append, KeepsTo]
  | more atom first rest =>
    have later := keeps_append connective rest separator back
    simp [append, KeepsTo, later, and_assoc]

/-- Joined rows keep to the operator if each of them does. -/
theorem keeps_joined (connective : Connective) (first : Row) (others : List Row) :
    (joined connective first others).KeepsTo connective ↔
      ∀ row ∈ first :: others, row.KeepsTo connective := by
  induction others generalizing first with
  | nil => simp [joined]
  | cons second rest inductionHypothesis => simp [joined, inductionHypothesis]

/-- A row that keeps to an operator has no distances. -/
theorem KeepsTo.no_distance {connective : Connective} {row : Row}
    (keeps : row.KeepsTo connective) : row.distances = 0 := by
  cases row with
  | last atom => rfl
  | more atom separator rest =>
    have later := KeepsTo.no_distance keeps.2
    cases separator with
    | plus => exact later
    | star => exact later
    | near distance => exact absurd keeps.1 (by simp [Separator.isWithin])

/-- A row without distances keeps to intersection. -/
theorem keeps_of_no_distance {row : Row} (none : row.distances = 0) : row.KeepsTo .and := by
  cases row with
  | last atom => trivial
  | more atom separator rest =>
    cases separator with
    | plus => exact ⟨rfl, keeps_of_no_distance none⟩
    | star => exact ⟨rfl, keeps_of_no_distance none⟩
    | near distance => cases none

/-- A row that keeps to union is read as a single union. -/
theorem KeepsTo.no_factors {row : Row} (keeps : row.KeepsTo .or) : row.reading.factors = [] := by
  cases row with
  | last atom => rfl
  | more atom separator rest =>
    have later := KeepsTo.no_factors keeps.2
    cases separator with
    | plus => exact later
    | star => exact absurd keeps.1 (by simp [Separator.isWithin])
    | near distance => exact absurd keeps.1 (by simp [Separator.isWithin])

/-- A row without distances that is read as a single union keeps to union. -/
theorem keeps_of_no_factors {row : Row} (none : row.distances = 0)
    (alone : row.reading.factors = []) : row.KeepsTo .or := by
  cases row with
  | last atom => trivial
  | more atom separator rest =>
    cases separator with
    | plus => exact ⟨rfl, keeps_of_no_factors none alone⟩
    | star => cases alone
    | near distance => cases none

end Row

/-- The operands at the start of a reading under a set operator. -/
def Reading.operands (connective : Connective) (reading : Reading) : Phrase × List Phrase :=
  match connective with
  | .or => reading.union
  | .and => reading.product

/-- Behind a row that keeps to intersection and a star, the operands of the union at its start stay
as they are, and the factors go on. -/
theorem reading_append_star {front : Row} (keeps : front.KeepsTo .and) (back : Row) :
    (front.append .star back).reading.union = front.reading.union ∧
      (front.append .star back).reading.factors =
        front.reading.factors ++ back.reading.product.1 :: back.reading.product.2 := by
  cases front with
  | last atom => exact ⟨rfl, rfl⟩
  | more atom separator rest =>
    obtain ⟨sameUnion, sameFactors⟩ := reading_append_star keeps.2 back
    cases separator with
    | plus =>
      refine ⟨?_, sameFactors⟩
      simp only [Row.append, Row.reading, Reading.put, sameUnion]
    | star =>
      refine ⟨rfl, ?_⟩
      simp only [Row.append, Row.reading, Reading.put, sameUnion, sameFactors, List.cons_append]
    | near distance => exact absurd keeps.1 (by simp [Separator.isWithin])

/-- Behind a row that keeps to union and a plus sign, the operands of the union go on. -/
theorem reading_append_plus {front : Row} (keeps : front.KeepsTo .or) (back : Row) :
    (front.append .plus back).reading.union =
      (front.reading.union.1,
        front.reading.union.2 ++ back.reading.union.1 :: back.reading.union.2) := by
  cases front with
  | last atom => rfl
  | more atom separator rest =>
    have later := reading_append_plus keeps.2 back
    cases separator with
    | plus => simp only [Row.append, Row.reading, Reading.put, later, List.cons_append]
    | star => exact absurd keeps.1 (by simp [Separator.isWithin])
    | near distance => exact absurd keeps.1 (by simp [Separator.isWithin])

/-- The operands of rows that are joined are read one after another. -/
theorem operands_append {connective : Connective} {front : Row}
    (keeps : front.KeepsTo connective) (back : Row) :
    (front.append connective.separator back).reading.operands connective =
      ((front.reading.operands connective).1,
        (front.reading.operands connective).2 ++
          (back.reading.operands connective).1 :: (back.reading.operands connective).2) := by
  cases connective with
  | or => exact reading_append_plus keeps back
  | and =>
    obtain ⟨sameUnion, sameFactors⟩ := reading_append_star keeps back
    simp only [Connective.separator, Reading.operands, Reading.product, sameUnion, sameFactors]

/-- A row that keeps to an operator says what is read under it. -/
theorem said_of_keeps {connective : Connective} {row : Row} (keeps : row.KeepsTo connective) :
    row.said = join connective (row.reading.operands connective).1.said
      ((row.reading.operands connective).2.map Phrase.said) := by
  have noChain : row.reading.chain = [] :=
    (Row.of_behind_none row ((Row.behind_none_iff row).mpr keeps.no_distance)).2.2.2
  have whole : row.said = (wholeProduct row.reading.product).said := by
    rw [Row.said, Reading.inside, noChain]
  cases connective with
  | or =>
    rw [whole, said_wholeProduct, Reading.product, keeps.no_factors]
    exact said_wholeUnion row.reading.union
  | and =>
    rw [whole, said_wholeProduct]
    rfl

/-- A row that keeps to an operator says the operands that are read under it. -/
theorem operandList_said {connective : Connective} {row : Row}
    (keeps : row.KeepsTo connective) :
    operandList connective row.said.flatten =
      flattenAll connective ((row.reading.operands connective).1.said ::
        (row.reading.operands connective).2.map Phrase.said) := by
  rw [said_of_keeps keeps, operandList_flatten_join]
  rfl

/-- Rows that keep to an operator say their operands one after another when its sign joins
them. -/
theorem operandList_joined {connective : Connective} {first : Row} {others : List Row}
    (keeps : ∀ row ∈ first :: others, row.KeepsTo connective) :
    operandList connective (Row.joined connective first others).said.flatten =
      flattenAll connective ((first :: others).map Row.said) := by
  induction others generalizing first with
  | nil => simp [Row.joined, flattenAll]
  | cons second rest inductionHypothesis =>
    have keepsLater : ∀ row ∈ second :: rest, row.KeepsTo connective :=
      fun row inside => keeps row (by simp [inside])
    have later := inductionHypothesis keepsLater
    have keepsFirst := keeps first (by simp)
    have keepsWhole := (Row.keeps_joined connective first (second :: rest)).mpr keeps
    have keepsRest := (Row.keeps_joined connective second rest).mpr keepsLater
    rw [operandList_said keepsRest] at later
    rw [operandList_said keepsWhole, Row.joined, operands_append keepsFirst, List.map_append,
      List.map_cons, ← List.cons_append, flattenAll_append, later, ← operandList_said keepsFirst]
    rfl

/-- A row that says several operands under an operator keeps to it. -/
theorem keeps_of_several {connective : Connective} {row : Row}
    (several : (operandList connective row.said.flatten).length ≠ 1) :
    row.KeepsTo connective := by
  cases found : row.behind with
  | some pair =>
    -- with a distance the row says a nearness, which is a single operand under either operator
    obtain ⟨distance, rest⟩ := pair
    have chain := (Row.of_behind_some row found).2.2.2
    have single : (operandList connective row.said.flatten).length = 1 := by
      rw [Row.said, Reading.inside, chain]
      rfl
    exact absurd single several
  | none =>
    have noDistance := (Row.behind_none_iff row).mp found
    have noChain := (Row.of_behind_none row found).2.2.2
    cases connective with
    | and => exact Row.keeps_of_no_distance noDistance
    | or =>
      cases factors : row.reading.factors with
      | nil => exact Row.keeps_of_no_factors noDistance factors
      | cons second others =>
        have single : (operandList .or row.said.flatten).length = 1 := by
          rw [Row.said, Reading.inside, noChain]
          simp only [Reading.product, factors]
          rw [said_wholeProduct]
          exact operandList_other (by decide) _ _ _
        exact absurd single several

end Layout

end PriorArt
