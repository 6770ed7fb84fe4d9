import PriorArt.Proofs.Query.RowReads
import PriorArt.Proofs.Query.RowTexts
import PriorArt.Proofs.Query.Says

/-!
# The factors of rows

A phrase without classification fields has an expression as its factor, which is put together as
the phrase is. The phrases as which rows are read are of this kind. So a query that consists of a
row in the text field has one factor, the expression that the row says, or it cannot be read.
-/

namespace PriorArt

open Expr

namespace Phrase

mutual

/-- The expression that a phrase says, whatever fields are in it. -/
def said : Phrase → Expr
  | term text => .word text
  | union first second others => .logical .or (said first) (said second :: saidOfAll others)
  | product first second others => .logical .and (said first) (said second :: saidOfAll others)
  | group inner => said inner
  | bracket inner => said inner
  | proximity left distance right => .proximity distance (said left) (said right)
  | brace first second third distance =>
    .simultaneous distance.count (said first) (said second) (said third)
  | fielded inner _ => said inner

/-- The expressions that several phrases say. -/
def saidOfAll : List Phrase → List Expr
  | [] => []
  | phrase :: phrases => said phrase :: saidOfAll phrases

end

/-- The expressions that several phrases say, one by one. -/
theorem saidOfAll_eq (phrases : List Phrase) : saidOfAll phrases = phrases.map said := by
  induction phrases with
  | nil => rfl
  | cons phrase others inductionHypothesis => rw [saidOfAll, inductionHypothesis, List.map_cons]

/-- The factor of a phrase is the expression that it says. -/
def IsVerbal (phrase : Phrase) : Prop := phrase.factor = .ok (.words phrase.said)

/-- The factors of verbal phrases are the expressions that they say. -/
theorem factorsOf_verbal {phrases : List Phrase} (verbal : ∀ phrase ∈ phrases, phrase.IsVerbal) :
    factorsOf phrases = .ok ((phrases.map said).map Factor.words) := by
  induction phrases with
  | nil => rfl
  | cons phrase others inductionHypothesis =>
    have later := inductionHypothesis (fun other inside => verbal other (by simp [inside]))
    exact factorsOf_cons (verbal phrase (by simp)) later

/-- What the operands of a union say as one phrase. -/
theorem said_wholeUnion (operands : Phrase × List Phrase) :
    (wholeUnion operands).said = join .or operands.1.said (operands.2.map said) := by
  obtain ⟨first, others⟩ := operands
  cases others with
  | nil => rfl
  | cons second rest => simp [wholeUnion, joinUnion, said, saidOfAll_eq, join]

/-- What the operands of a product say as one phrase. -/
theorem said_wholeProduct (operands : Phrase × List Phrase) :
    (wholeProduct operands).said = join .and operands.1.said (operands.2.map said) := by
  obtain ⟨first, others⟩ := operands
  cases others with
  | nil => rfl
  | cons second rest => simp [wholeProduct, joinProduct, said, saidOfAll_eq, join]

/-- The operands of a union are verbal as one phrase if each of them is. -/
theorem verbal_wholeUnion {operands : Phrase × List Phrase} (first : operands.1.IsVerbal)
    (others : ∀ operand ∈ operands.2, operand.IsVerbal) : (wholeUnion operands).IsVerbal := by
  rw [IsVerbal, said_wholeUnion]
  exact factor_wholeUnion first (factorsOf_verbal others)

/-- The operands of a product are verbal as one phrase if each of them is. -/
theorem verbal_wholeProduct {operands : Phrase × List Phrase} (first : operands.1.IsVerbal)
    (others : ∀ operand ∈ operands.2, operand.IsVerbal) : (wholeProduct operands).IsVerbal := by
  rw [IsVerbal, said_wholeProduct]
  exact factor_wholeProduct first (factorsOf_verbal others)

/-- Two verbal phrases are verbal with a distance between them. -/
theorem verbal_proximity {left right : Phrase} (verbalLeft : left.IsVerbal) (distance : Distance)
    (verbalRight : right.IsVerbal) : (proximity left distance right).IsVerbal := by
  have ofLeft : left.factor = .ok (.words left.said) := verbalLeft
  have ofRight : right.factor = .ok (.words right.said) := verbalRight
  rw [IsVerbal, Phrase.factor, ofLeft, ofRight]
  rfl

/-- Three verbal phrases are verbal in a brace with a distance of words. -/
theorem verbal_brace {first second third : Phrase} (verbalFirst : first.IsVerbal)
    (verbalSecond : second.IsVerbal) (verbalThird : third.IsVerbal) (count : Nat) :
    (brace first second third ⟨.words, count⟩).IsVerbal := by
  have ofFirst : first.factor = .ok (.words first.said) := verbalFirst
  have ofSecond : second.factor = .ok (.words second.said) := verbalSecond
  have ofThird : third.factor = .ok (.words third.said) := verbalThird
  rw [IsVerbal, Phrase.factor, ofFirst, ofSecond, ofThird]
  rfl

/-- A verbal phrase is verbal in the text field. -/
theorem verbal_fielded {inner : Phrase} (verbal : inner.IsVerbal) :
    (fielded inner .text).IsVerbal := by
  have ofInner : inner.factor = .ok (.words inner.said) := verbal
  rw [IsVerbal, Phrase.factor, ofInner]
  rfl

/-- A tidy text that reads as a product, or breaks, is a query with the factors of the product, or
none. -/
theorem parse_outcome {text : Text} {operands : Phrase × List Phrase} {legible : Bool}
    (tidy : IsTidy text) (filled : text ≠ []) (outcome : ProductOutcome text operands legible)
    (factors : List Factor) :
    Query.parse text = .ok factors ↔
      legible = true ∧ factorsOf (operands.1 :: operands.2) = .ok factors := by
  have kept : Text.trim (Text.normalized text) = text := by
    rw [tidy.normal, Text.trim_solid tidy.solid]
  have parsed : Query.parse text = (Query.factorsOf text).mapError (QueryError.mk text) := by
    rw [Query.parse, kept]
    cases text with
    | nil => exact absurd rfl filled
    | cons first rest => rfl
  have read := outcome.query
  rw [parsed, Reading.mapError_ok_iff, Query.factorsOf]
  cases legible with
  | true =>
    rw [if_pos rfl] at read
    rw [read]
    exact (and_iff_right rfl).symm
  | false =>
    obtain ⟨stopped, same⟩ := read
    rw [same]
    simp

end Phrase

namespace Layout

open Phrase

/-- What was read consists of verbal phrases. -/
structure Reading.IsVerbal (reading : Reading) : Prop where
  head : reading.union.1.IsVerbal
  tail : ∀ operand ∈ reading.union.2, operand.IsVerbal
  factors : ∀ operand ∈ reading.factors, operand.IsVerbal
  chain : ∀ behind ∈ reading.chain, behind.2.IsVerbal

namespace Reading

variable {reading : Reading}

/-- The union at the start of a verbal reading. -/
theorem IsVerbal.union (verbal : reading.IsVerbal) : (wholeUnion reading.union).IsVerbal :=
  verbal_wholeUnion verbal.head verbal.tail

/-- The product at the start of a verbal reading. -/
theorem IsVerbal.product (verbal : reading.IsVerbal) : (wholeProduct reading.product).IsVerbal :=
  verbal_wholeProduct verbal.union verbal.factors

/-- A single verbal phrase. -/
theorem verbal_single {phrase : Phrase} (verbal : phrase.IsVerbal) : (single phrase).IsVerbal :=
  ⟨verbal, nofun, nofun, nofun⟩

/-- A verbal phrase in front of a verbal reading. -/
theorem IsVerbal.put {phrase : Phrase} (verbalPhrase : phrase.IsVerbal) (separator : Separator)
    (verbal : reading.IsVerbal) : (reading.put phrase separator).IsVerbal := by
  cases separator with
  | plus =>
    refine ⟨verbalPhrase, ?_, verbal.factors, verbal.chain⟩
    exact List.forall_mem_cons.mpr ⟨verbal.head, verbal.tail⟩
  | star =>
    exact ⟨verbalPhrase, nofun, List.forall_mem_cons.mpr ⟨verbal.union, verbal.factors⟩,
      verbal.chain⟩
  | near distance =>
    exact ⟨verbalPhrase, nofun, nofun, List.forall_mem_cons.mpr ⟨verbal.product, verbal.chain⟩⟩

/-- What was read inside a group is verbal. -/
theorem IsVerbal.inside (verbal : reading.IsVerbal) : reading.inside.IsVerbal := by
  unfold Reading.inside
  split
  · exact verbal.product
  · next distance right rest behind =>
    exact verbal_proximity verbal.product distance
      (verbal.chain (distance, right) (by simp [behind]))

end Reading

/-- A verbal phrase is verbal in the text field or without it. -/
theorem verbal_inField {phrase : Phrase} (verbal : phrase.IsVerbal) (marked : Bool) :
    (inField marked phrase).IsVerbal := by
  cases marked with
  | true => exact verbal_fielded verbal
  | false => exact verbal

mutual

/-- The phrase of an atom is verbal. -/
theorem Atom.verbal (atom : Atom) : atom.phrase.IsVerbal := by
  cases atom with
  | word text marked =>
    have ofTerm : (Phrase.term text).IsVerbal := rfl
    exact verbal_inField ofTerm marked
  | group inner marked =>
    have ofGroup : (Phrase.group inner.reading.inside).IsVerbal := (Row.verbal inner).inside
    exact verbal_inField ofGroup marked
  | brace first second third count marked =>
    exact verbal_inField (verbal_brace (Row.verbal first).product (Row.verbal second).product
      (Row.verbal third).product count) marked

/-- A row is read as verbal phrases. -/
theorem Row.verbal (row : Row) : row.reading.IsVerbal := by
  cases row with
  | last atom => exact Reading.verbal_single (Atom.verbal atom)
  | more atom separator rest => exact (Row.verbal rest).put (Atom.verbal atom) separator

end

/-- What an atom says. -/
def Atom.said (atom : Atom) : Expr := atom.phrase.said

/-- What a row says inside a group. -/
def Row.said (row : Row) : Expr := row.reading.inside.said

/-- The text field makes no difference to what a phrase says. -/
@[simp] theorem said_inField (marked : Bool) (phrase : Phrase) :
    (inField marked phrase).said = phrase.said := by
  cases marked with
  | true => rfl
  | false => rfl

/-- A single atom says what the atom says. -/
@[simp] theorem Row.said_last (atom : Atom) : (Row.last atom).said = atom.said := rfl

/-- A group says what its inside says. -/
@[simp] theorem Atom.said_group (inner : Row) (marked : Bool) :
    (Atom.group inner marked).said = inner.said := by
  simp [Atom.said, Atom.phrase, Phrase.said, Row.said]

/-- A row in the text field is a query with one factor, which is what the row says, or it cannot be
read. -/
theorem parse_row {row : Row} (proper : row.IsProper) (factors : List Factor) :
    Query.parse (Brackets.parenthesized row.text ++ Field.text.suffix.toList) = .ok factors ↔
      row.fits = true ∧ factors = [.words row.said] := by
  have properAtom : (Atom.group row true).IsProper := proper
  have read := parse_outcome (Atom.tidy _ properAtom) (Atom.filled _ properAtom)
    (Atom.outcome _ properAtom).union.product factors
  have factor : factorsOf [wholeUnion ((Atom.group row true).phrase, [])] =
      .ok [.words row.said] := factorsOf_cons (Atom.verbal (Atom.group row true)) rfl
  rw [factor, Except.ok.injEq, eq_comm (b := factors)] at read
  exact read

end Layout

end PriorArt
