import PriorArt.Proofs.Query.Accepted

/-!
# Rows near each other

A nearness in square brackets is a row of two rows with a distance between them. If neither of them
has a distance of its own, it can be read exactly if both are legible, and it says the nearness of
what they say.

The rows on either side are enclosed where they show compound marks, and the last atom of the right
side is in the text field. Neither makes a difference to what a row says.
-/

namespace PriorArt.Layout

open Expr Phrase

/-- What was read says the same expressions in the same places. -/
structure Reading.SaysAlike (left right : Reading) : Prop where
  head : left.union.1.said = right.union.1.said
  tail : left.union.2.map Phrase.said = right.union.2.map Phrase.said
  factors : left.factors.map Phrase.said = right.factors.map Phrase.said
  chain : left.chain.map (Prod.map id Phrase.said) = right.chain.map (Prod.map id Phrase.said)

namespace Reading.SaysAlike

variable {left right : Reading}

/-- The unions at the start say the same. -/
theorem union (alike : left.SaysAlike right) :
    (wholeUnion left.union).said = (wholeUnion right.union).said := by
  rw [said_wholeUnion, said_wholeUnion, alike.head, alike.tail]

/-- The products at the start say the same. -/
theorem product (alike : left.SaysAlike right) :
    (wholeProduct left.product).said = (wholeProduct right.product).said := by
  rw [said_wholeProduct, said_wholeProduct, Reading.product, Reading.product, alike.union,
    alike.factors]

/-- Behind the same atom they say the same again. -/
theorem put (alike : left.SaysAlike right) (phrase : Phrase) (separator : Separator) :
    (left.put phrase separator).SaysAlike (right.put phrase separator) := by
  cases separator with
  | plus =>
    refine ⟨rfl, ?_, alike.factors, alike.chain⟩
    simp [Reading.put, alike.head, alike.tail]
  | star =>
    refine ⟨rfl, rfl, ?_, alike.chain⟩
    simp [Reading.put, alike.union, alike.factors]
  | near distance =>
    refine ⟨rfl, rfl, rfl, ?_⟩
    simp [Reading.put, alike.product, alike.chain]

/-- They say the same inside a group. -/
theorem inside (alike : left.SaysAlike right) : left.inside.said = right.inside.said := by
  have chain := alike.chain
  cases ofLeft : left.chain with
  | nil =>
    rw [ofLeft] at chain
    have ofRight : right.chain = [] := List.map_eq_nil_iff.mp chain.symm
    rw [Reading.inside, Reading.inside, ofLeft, ofRight]
    exact alike.product
  | cons near others =>
    cases ofRight : right.chain with
    | nil => simp [ofLeft, ofRight] at chain
    | cons other rest =>
      rw [ofLeft, ofRight] at chain
      obtain ⟨sameDistance, sameBehind⟩ := Prod.mk.inj (List.cons.inj chain).1
      rw [Reading.inside, Reading.inside, ofLeft, ofRight]
      simp only [id_eq] at sameDistance
      simp only [said, alike.product, sameDistance, sameBehind]

end Reading.SaysAlike

/-- In the text field a row is read alike. -/
theorem Row.reading_mark (row : Row) : row.mark.reading.SaysAlike row.reading := by
  cases row with
  | last atom =>
    refine ⟨?_, rfl, rfl, rfl⟩
    cases atom <;> simp [Row.mark, Atom.mark, Row.reading, Reading.single, Atom.phrase]
  | more atom separator rest => exact (Row.reading_mark rest).put atom.phrase separator

/-- The text field makes no difference to what a row says. -/
@[simp] theorem Row.said_mark (row : Row) : row.mark.said = row.said := row.reading_mark.inside

/-- The text field makes no difference to whether a row is legible. -/
@[simp] theorem Row.legible_mark (row : Row) : row.mark.legible = row.legible := by
  cases row with
  | last atom => cases atom <;> rfl
  | more atom separator rest =>
    have later := Row.legible_mark rest
    simp [Row.mark, Row.legible, later]

/-- The text field makes no difference to the distances of a row. -/
@[simp] theorem Row.distances_mark (row : Row) : row.mark.distances = row.distances := by
  cases row with
  | last atom => cases atom <;> rfl
  | more atom separator rest =>
    have later := Row.distances_mark rest
    cases separator <;> simp [Row.mark, Row.distances, later]

/-- The text field makes no difference to the set operators that a row keeps to. -/
@[simp] theorem Row.keeps_mark (connective : Connective) (row : Row) :
    row.mark.KeepsTo connective ↔ row.KeepsTo connective := by
  cases row with
  | last atom => cases atom <;> rfl
  | more atom separator rest =>
    have later := Row.keeps_mark connective rest
    simp [Row.mark, Row.KeepsTo, later]

/-- A row that is enclosed if it shows compound marks says the same. -/
@[simp] theorem Row.said_regrouped (row : Row) : row.regrouped.said = row.said := by
  unfold Row.regrouped
  split
  · simp
  · rfl

/-- A row that is enclosed if it shows compound marks is legible then if it can be read inside a
group. -/
@[simp] theorem Row.legible_regrouped (row : Row) : row.regrouped.legible = row.fits := by
  unfold Row.regrouped
  split
  · rfl
  · next simple =>
    simp [Row.fits, Row.distances_of_not_compound row (by simpa using simple)]

/-- A row without distances, in front of a distance, is read as its product. -/
theorem Row.reading_near {front : Row} (noDistance : front.distances = 0) (distance : Distance)
    (back : Row) :
    (front.append (.near distance) back).reading =
      ⟨front.reading.union, front.reading.factors,
        (distance, wholeProduct back.reading.product) :: back.reading.chain⟩ := by
  cases front with
  | last atom => rfl
  | more atom separator rest =>
    cases separator with
    | plus =>
      have later := @Row.reading_near rest noDistance distance back
      simp [Row.append, Row.reading, Reading.put, later]
    | star =>
      have later := @Row.reading_near rest noDistance distance back
      simp [Row.append, Row.reading, Reading.put, later]
    | near other => cases noDistance

section Near

variable {front back : Row} (noFront : front.distances = 0) (noBack : back.distances = 0)
  (distance : Distance)
include noFront noBack

/-- Two rows without distances say a nearness with a distance between them. -/
theorem Row.said_near :
    (front.append (.near distance) back).said = .proximity distance front.said back.said := by
  have whole : ∀ row : Row, row.distances = 0 →
      (wholeProduct row.reading.product).said = row.said := by
    intro row none
    rw [Row.said, Reading.inside, (of_behind_none row ((behind_none_iff row).mpr none)).2.2.2]
  rw [Row.said, Row.reading_near noFront distance back]
  simp only [Reading.inside, Phrase.said, whole back noBack, ← whole front noFront]
  rfl

/-- Two rows without distances can be read with a distance between them if both are legible. -/
theorem Row.fits_near :
    (front.append (.near distance) back).fits = (front.legible && back.legible) := by
  simp [Row.fits, noFront, noBack]

end Near

/-- A row in square brackets is a query with one factor, which is what the row says, or it cannot be
read. -/
theorem parse_bracketed {row : Row} (proper : row.IsProper) (factors : List Factor) :
    Query.parse ('[' :: row.text ++ [']']) = .ok factors ↔
      row.fits = true ∧ factors = [.words row.said] := by
  have read := parse_outcome (Row.tidy row proper).bracketed (by simp)
    (Row.reads row proper).inside.bracket.union.product factors
  have factor : factorsOf [wholeUnion (.bracket row.reading.inside, [])] =
      .ok [.words row.said] := factorsOf_cons (Row.verbal row).inside rfl
  rw [factor, Except.ok.injEq, eq_comm (b := factors)] at read
  exact read

/-- A row can be read inside a group, and says a tree there, up to flattening. -/
def Row.ReadsAs (row : Row) (tree : Expr) : Prop :=
  row.fits = true ∧ row.said.flatten = tree.flatten

/-- A query is read as a single factor that is a tree, up to flattening. -/
def IsReadAs (query : Text) (tree : Expr) : Prop :=
  ∃ said, Query.parse query = .ok [.words said] ∧ said.flatten = tree.flatten

/-- A row in square brackets is read as a tree exactly if the row is. -/
theorem bracketed_read_iff {row : Row} (proper : row.IsProper) (tree : Expr) :
    IsReadAs ('[' :: row.text ++ [']']) tree ↔ row.ReadsAs tree := by
  constructor
  · rintro ⟨said, read, same⟩
    obtain ⟨fits, only⟩ := (parse_bracketed proper _).mp read
    obtain rfl : said = row.said := by simpa using only
    exact ⟨fits, same⟩
  · rintro ⟨fits, same⟩
    exact ⟨row.said, (parse_bracketed proper _).mpr ⟨fits, rfl⟩, same⟩

/-- A row that is enclosed if it shows compound marks is read alike. -/
@[simp] theorem Row.reads_regrouped (row : Row) (tree : Expr) :
    row.regrouped.ReadsAs tree ↔ row.ReadsAs tree := by
  simp [Row.ReadsAs, Row.fits, row.distances_regrouped]

/-- A row in the text field is read alike. -/
@[simp] theorem Row.reads_mark (row : Row) (tree : Expr) :
    row.mark.ReadsAs tree ↔ row.ReadsAs tree := by
  simp [Row.ReadsAs, Row.fits]

/-- Two rows with a distance between them, of which the left one is enclosed if it shows compound
marks and the right one has no distance, are read as a nearness exactly if either row is read as the
operand. -/
theorem Row.reads_near_iff (front : Row) {back : Row} (noDistance : back.distances = 0)
    (distance : Distance) (left right : Expr) :
    (front.regrouped.append (.near distance) back).ReadsAs (.proximity distance left right) ↔
      front.ReadsAs left ∧ back.ReadsAs right := by
  have noFront := front.distances_regrouped
  have fits : back.fits = back.legible := by simp [Row.fits, noDistance]
  rw [Row.ReadsAs, Row.fits_near noFront noDistance, Row.said_near noFront noDistance]
  simp only [Row.legible_regrouped, Row.said_regrouped, flatten, Bool.and_eq_true,
    Expr.proximity.injEq, true_and, Row.ReadsAs, fits]
  tauto

/-- Joined rows have no distance if none of them has. -/
theorem Row.distances_joined {connective : Connective} {first : Row} {others : List Row}
    (none : ∀ row ∈ first :: others, row.distances = 0) :
    (Row.joined connective first others).distances = 0 := by
  induction others generalizing first with
  | nil => exact none first (by simp)
  | cons second rest inductionHypothesis =>
    have ofFirst := none first (by simp)
    have later := inductionHypothesis (List.forall_mem_cons.mp none).2
    cases connective <;> simp [Row.joined, Connective.separator, ofFirst, later]

section Beside

variable (first : Row) (others : List Row)

/-- The right side of a nearness has no distance of its own. -/
@[simp] theorem distances_beside : (besideRow first others).distances = 0 := by
  cases others with
  | nil => exact first.distances_regrouped
  | cons second rest => rfl

/-- The right side of a nearness is read as its alternatives are, joined by plus signs. -/
@[simp] theorem reads_beside (tree : Expr) :
    (besideRow first others).ReadsAs tree ↔ (Row.joined .or first others).ReadsAs tree := by
  cases others with
  | nil => exact first.reads_regrouped tree
  | cons second rest =>
    simp [besideRow, Row.ReadsAs, Row.fits, Row.legible, Atom.legible, Row.distances]

end Beside

end PriorArt.Layout
