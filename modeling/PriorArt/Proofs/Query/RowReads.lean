import PriorArt.Proofs.Query.Breaks
import PriorArt.Proofs.Query.Rows

/-!
# How rows are read

Every proper row is read as its data say, or breaks the reading if it is not legible. The proof
follows the row from its end: an atom in front of a row joins the union at the start of the row,
opens a product with it, or stands in front of a distance.
-/

namespace PriorArt.Layout

open Phrase

namespace Row

/-- The text of the union at the start of a row. -/
def unionText : Row → Text
  | .last atom => atom.text
  | .more atom .plus rest => atom.text ++ '+' :: rest.unionText
  | .more atom _ _ => atom.text

/-- Whether the grammar can read the union at the start of a row. -/
def unionLegible : Row → Bool
  | .last atom => atom.legible
  | .more atom .plus rest => atom.legible && rest.unionLegible
  | .more atom _ _ => atom.legible

/-- The text of the product at the start of a row. -/
def productText : Row → Text
  | .last atom => atom.text
  | .more atom .plus rest => atom.text ++ '+' :: rest.productText
  | .more atom .star rest => atom.text ++ '*' :: rest.productText
  | .more atom (.near _) _ => atom.text

/-- Whether the grammar can read the product at the start of a row. -/
def productLegible : Row → Bool
  | .last atom => atom.legible
  | .more atom .plus rest => atom.legible && rest.productLegible
  | .more atom .star rest => atom.legible && rest.productLegible
  | .more atom (.near _) _ => atom.legible

/-- The first distance of a row, and the row behind it. -/
def behind : Row → Option (Distance × Row)
  | .last _ => none
  | .more _ (.near distance) rest => some (distance, rest)
  | .more _ _ rest => rest.behind

/-- A row without distances is its first product. -/
theorem of_behind_none (row : Row) (alone : row.behind = none) :
    row.text = row.productText ∧ row.legible = row.productLegible ∧ row.distances = 0 ∧
      row.reading.chain = [] := by
  cases row with
  | last atom => exact ⟨rfl, rfl, rfl, rfl⟩
  | more atom separator rest =>
    cases separator with
    | plus =>
      obtain ⟨text, legible, distances, chain⟩ := of_behind_none rest alone
      exact ⟨by simp [Row.text, productText, Separator.text, text],
        by simp [Row.legible, productLegible, legible], distances, chain⟩
    | star =>
      obtain ⟨text, legible, distances, chain⟩ := of_behind_none rest alone
      exact ⟨by simp [Row.text, productText, Separator.text, text],
        by simp [Row.legible, productLegible, legible], distances, chain⟩
    | near distance => cases alone

/-- A row with distances is its first product with the rest behind the first distance. -/
theorem of_behind_some (row : Row) {rest : Row} {distance : Distance}
    (found : row.behind = some (distance, rest)) :
    row.text = row.productText ++ ',' :: distance.text ++ ',' :: rest.text ∧
      row.legible = (row.productLegible && rest.legible) ∧
      row.distances = rest.distances + 1 ∧
      row.reading.chain = (distance, wholeProduct rest.reading.product) :: rest.reading.chain := by
  cases row with
  | last atom => cases found
  | more atom separator next =>
    cases separator with
    | plus =>
      obtain ⟨text, legible, distances, chain⟩ := of_behind_some next found
      exact ⟨by simp [Row.text, productText, Separator.text, text],
        by simp [Row.legible, productLegible, legible, Bool.and_assoc], distances, chain⟩
    | star =>
      obtain ⟨text, legible, distances, chain⟩ := of_behind_some next found
      exact ⟨by simp [Row.text, productText, Separator.text, text],
        by simp [Row.legible, productLegible, legible, Bool.and_assoc], distances, chain⟩
    | near other =>
      obtain ⟨rfl, rfl⟩ := Prod.mk.inj (Option.some.inj found)
      exact ⟨by simp [Row.text, productText, Separator.text], rfl, rfl, rfl⟩

/-- A row has a distance exactly if there is something behind one. -/
theorem behind_none_iff (row : Row) : row.behind = none ↔ row.distances = 0 := by
  constructor
  · intro alone
    exact (of_behind_none row alone).2.2.1
  · intro noDistance
    cases found : row.behind with
    | none => rfl
    | some rest =>
      have counted := (of_behind_some row found).2.2.1
      omega

/-- A row is read as its data say. The product at its start goes on behind the union at its start,
or is that union; and the product behind the first distance is read as well. -/
structure Reads (row : Row) : Prop where
  union : UnionOutcome row.unionText row.reading.union row.unionLegible
  factors : (row.productText = row.unionText ∧ row.reading.factors = [] ∧
      row.productLegible = row.unionLegible) ∨
    ∃ more operands legible, row.productText = row.unionText ++ '*' :: more ∧
      row.reading.factors = operands.1 :: operands.2 ∧
      row.productLegible = (row.unionLegible && legible) ∧ ProductOutcome more operands legible
  behind : ∀ distance rest, row.behind = some (distance, rest) →
    ProductOutcome rest.productText rest.reading.product rest.productLegible

/-- The product at the start of a row is read as its data say. -/
theorem Reads.product {row : Row} (reads : row.Reads) :
    ProductOutcome row.productText row.reading.product row.productLegible := by
  rcases reads.factors with ⟨text, factors, legible⟩ |
    ⟨more, operands, legibleMore, text, factors, legible, outcome⟩
  · rw [text, legible, Reading.product, factors]
    exact reads.union.product
  · rw [text, legible, Reading.product, factors]
    exact ProductOutcome.cons reads.union outcome

/-- A single atom is read as a row. -/
theorem reads_last {atom : Atom} (outcome : AtomOutcome atom.text atom.phrase atom.legible) :
    (Row.last atom).Reads where
  union := outcome.union
  factors := .inl ⟨rfl, rfl, rfl⟩
  behind := nofun

/-- An atom in front of a row is read as a row with it. -/
theorem reads_more {atom : Atom} (outcome : AtomOutcome atom.text atom.phrase atom.legible)
    (separator : Separator) {rest : Row} (reads : rest.Reads) :
    (Row.more atom separator rest).Reads := by
  cases separator with
  | plus =>
    refine ⟨UnionOutcome.cons outcome reads.union, ?_, reads.behind⟩
    rcases reads.factors with ⟨text, factors, legible⟩ |
      ⟨more, operands, legibleMore, text, factors, legible, outcomeMore⟩
    · refine .inl ⟨?_, factors, ?_⟩
      · simp [productText, unionText, text]
      · simp [productLegible, unionLegible, legible]
    · refine .inr ⟨more, operands, legibleMore, ?_, factors, ?_, outcomeMore⟩
      · simp [productText, unionText, text]
      · simp [productLegible, unionLegible, legible, Bool.and_assoc]
  | star =>
    exact ⟨outcome.union, .inr ⟨rest.productText, rest.reading.product, rest.productLegible, rfl,
      rfl, rfl, reads.product⟩, reads.behind⟩
  | near distance =>
    refine ⟨outcome.union, .inl ⟨rfl, rfl, rfl⟩, ?_⟩
    intro other row same
    obtain ⟨rfl, rfl⟩ := Prod.mk.inj (Option.some.inj same)
    exact reads.product

/-- A row without distances is read as a product. -/
theorem Reads.whole {row : Row} (reads : row.Reads) (noDistance : row.distances = 0) :
    ProductOutcome row.text row.reading.product row.legible := by
  obtain ⟨text, legible, _, _⟩ := of_behind_none row ((behind_none_iff row).mpr noDistance)
  rw [text, legible]
  exact reads.product

/-- A row is read inside a group if it is legible and has at most one distance. -/
theorem Reads.inside {row : Row} (reads : row.Reads) :
    InsideOutcome row.text row.reading.inside (row.legible && row.distances ≤ 1) := by
  cases found : row.behind with
  | none =>
    obtain ⟨text, legible, distances, chain⟩ := of_behind_none row found
    have outcome := reads.product.inside
    simpa [text, legible, distances, Reading.inside, chain] using outcome
  | some pair =>
    obtain ⟨distance, rest⟩ := pair
    obtain ⟨text, legible, distances, chain⟩ := of_behind_some row found
    have outcomeRest := reads.behind distance rest found
    have asInside : row.reading.inside = .proximity (wholeProduct row.reading.product) distance
        (wholeProduct rest.reading.product) := by rw [Reading.inside, chain]
    rw [text, asInside]
    cases further : rest.behind with
    | none =>
      obtain ⟨textRest, legibleRest, distancesRest, _⟩ := of_behind_none rest further
      have allowed : (row.legible && row.distances ≤ 1) =
          (row.productLegible && rest.productLegible) := by
        simp [legible, distances, legibleRest, distancesRest]
      rw [textRest, allowed]
      exact reads.product.near distance outcomeRest
    | some next =>
      obtain ⟨nextDistance, last⟩ := next
      obtain ⟨textRest, _, distancesRest, _⟩ := of_behind_some rest further
      have refused : (row.legible && row.distances ≤ 1) = false := by
        simp [distances, distancesRest]
      have assembled : rest.text =
          rest.productText ++ ',' :: (nextDistance.text ++ ',' :: last.text) := by
        simp [textRest]
      rw [assembled, refused]
      exact reads.product.second_distance distance outcomeRest _

end Row

/-- An atom that can take a field is read with the field or without it. -/
theorem outcome_marked {text : Text} {phrase : Phrase} {legible : Bool}
    (outcome : OpenOutcome text phrase legible) (marked : Bool) :
    AtomOutcome (text ++ suffix marked) (inField marked phrase) legible := by
  cases marked with
  | true => exact outcome.fielded .text
  | false =>
    have plain := outcome.atom
    rwa [suffix, if_neg (by simp), List.append_nil]

mutual

/-- Every proper atom is read as its data say. -/
theorem Atom.outcome (atom : Atom) (proper : atom.IsProper) :
    AtomOutcome atom.text atom.phrase atom.legible := by
  cases atom with
  | word text marked =>
    have reads : OpenOutcome text (.term text) true := reads_term proper
    exact outcome_marked reads marked
  | group inner marked => exact outcome_marked (Row.reads inner proper).inside.group marked
  | brace first second third count marked =>
    obtain ⟨⟨properFirst, noFirst⟩, ⟨properSecond, noSecond⟩, properThird, noThird⟩ := proper
    have outcome := brace_outcome ((Row.reads first properFirst).whole noFirst)
      ((Row.reads second properSecond).whole noSecond)
      ((Row.reads third properThird).whole noThird) count
    exact outcome_marked outcome marked

/-- Every proper row is read as its data say. -/
theorem Row.reads (row : Row) (proper : row.IsProper) : row.Reads := by
  cases row with
  | last atom => exact Row.reads_last (Atom.outcome atom proper)
  | more atom separator rest =>
    exact Row.reads_more (Atom.outcome atom proper.1) separator (Row.reads rest proper.2)

end

end PriorArt.Layout
