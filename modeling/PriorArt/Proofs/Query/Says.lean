import PriorArt.Proofs.Expr.Flat
import PriorArt.Proofs.Query.Reads
import PriorArt.Query.Factor

/-!
# What a written query says

A text says an expression at a level of the query grammar if it reads there as a phrase whose
factor is that expression, up to flattening. Each rule for reading gives a rule for saying. At
the levels of unions and products a text says a list of operands, so that chains can be put
together operand by operand.
-/

namespace PriorArt.Phrase

open Expr

/-- The factor of a phrase is an expression, up to flattening. -/
def Means (phrase : Phrase) (expr : Expr) : Prop :=
  ∃ said, phrase.factor = .ok (.words said) ∧ said.flatten = expr.flatten

/-- The factors of phrases are the operands of a set operator, up to flattening. -/
def MeanAll (connective : Connective) (phrases : List Phrase) (operands : List Expr) : Prop :=
  ∃ said, factorsOf phrases = .ok (said.map Factor.words) ∧ flattenAll connective said = operands

/-- The factors of a list of phrases are the factors of its members. -/
theorem factorsOf_cons_iff {phrase : Phrase} {phrases : List Phrase} {factors : List Factor} :
    factorsOf (phrase :: phrases) = .ok factors ↔ ∃ first others,
      phrase.factor = .ok first ∧ factorsOf phrases = .ok others ∧ first :: others = factors := by
  rw [factorsOf]
  simp only [Reading.bind_ok_iff]
  constructor
  · rintro ⟨first, ofFirst, others, ofOthers, same⟩
    exact ⟨first, others, ofFirst, ofOthers, Except.ok.inj same⟩
  · rintro ⟨first, others, ofFirst, ofOthers, rfl⟩
    exact ⟨first, ofFirst, others, ofOthers, rfl⟩

/-- Several phrases have factors if the first has one and the others have some. -/
theorem factorsOf_cons {phrase : Phrase} {factor : Factor} {phrases : List Phrase}
    {factors : List Factor} (first : phrase.factor = .ok factor)
    (others : factorsOf phrases = .ok factors) :
    factorsOf (phrase :: phrases) = .ok (factor :: factors) :=
  factorsOf_cons_iff.mpr ⟨factor, factors, first, others, rfl⟩

/-- The expression that a phrase gives to an operator of nearness. -/
def HasExpr (phrase : Phrase) (expr : Expr) : Prop :=
  ∃ factor, phrase.factor = .ok factor ∧ factor.expr .codesInNearness = .ok expr

/-- The factor of a nearness is made of the expressions of its sides. -/
theorem factor_proximity_iff {left right : Phrase} {distance : Distance} {factor : Factor} :
    (proximity left distance right).factor = .ok factor ↔ ∃ leftExpr rightExpr,
      left.HasExpr leftExpr ∧ right.HasExpr rightExpr ∧
        .words (.proximity distance leftExpr rightExpr) = factor := by
  simp only [Phrase.factor, Reading.bind_ok_iff]
  constructor
  · rintro ⟨ofLeft, readLeft, ofRight, readRight, leftExpr, isLeft, rightExpr, isRight, made⟩
    exact ⟨leftExpr, rightExpr, ⟨ofLeft, readLeft, isLeft⟩, ⟨ofRight, readRight, isRight⟩,
      Except.ok.inj made⟩
  · rintro ⟨leftExpr, rightExpr, ⟨ofLeft, readLeft, isLeft⟩, ⟨ofRight, readRight, isRight⟩, rfl⟩
    exact ⟨ofLeft, readLeft, ofRight, readRight, leftExpr, isLeft, rightExpr, isRight, rfl⟩

/-- The factor of a brace is made of the expressions in it, if its distance is in words. -/
theorem factor_brace_iff {first second third : Phrase} {distance : Distance} {factor : Factor} :
    (brace first second third distance).factor = .ok factor ↔ distance.unit = .words ∧
      ∃ firstExpr secondExpr thirdExpr, first.HasExpr firstExpr ∧ second.HasExpr secondExpr ∧
        third.HasExpr thirdExpr ∧
          .words (.simultaneous distance.count firstExpr secondExpr thirdExpr) = factor := by
  simp only [Phrase.factor, Reading.bind_ok_iff]
  constructor
  · rintro ⟨ofFirst, readFirst, ofSecond, readSecond, ofThird, readThird, read⟩
    split at read
    · cases read
    · next inWords =>
      simp only [Reading.bind_ok_iff] at read
      obtain ⟨firstExpr, isFirst, secondExpr, isSecond, thirdExpr, isThird, made⟩ := read
      exact ⟨Decidable.not_not.mp inWords, firstExpr, secondExpr, thirdExpr, ⟨ofFirst, readFirst, isFirst⟩,
        ⟨ofSecond, readSecond, isSecond⟩, ⟨ofThird, readThird, isThird⟩, Except.ok.inj made⟩
  · rintro ⟨inWords, firstExpr, secondExpr, thirdExpr, ⟨ofFirst, readFirst, isFirst⟩,
      ⟨ofSecond, readSecond, isSecond⟩, ⟨ofThird, readThird, isThird⟩, rfl⟩
    refine ⟨ofFirst, readFirst, ofSecond, readSecond, ofThird, readThird, ?_⟩
    rw [if_neg (Decidable.not_not.mpr inWords)]
    simp only [Reading.bind_ok_iff]
    exact ⟨firstExpr, isFirst, secondExpr, isSecond, thirdExpr, isThird, rfl⟩

/-- A phrase in front of others adds its operands to theirs. -/
theorem MeanAll.cons {connective : Connective} {phrase : Phrase} {expr : Expr}
    {phrases : List Phrase} {operands : List Expr} (means : phrase.Means expr)
    (meanOthers : MeanAll connective phrases operands) :
    MeanAll connective (phrase :: phrases) (operandList connective expr.flatten ++ operands) := by
  obtain ⟨said, factor, same⟩ := means
  obtain ⟨others, factors, sameOthers⟩ := meanOthers
  refine ⟨said :: others, factorsOf_cons factor factors, ?_⟩
  rw [flattenAll, same, sameOthers]

/-- No phrases mean no operands. -/
theorem mean_nil (connective : Connective) : MeanAll connective [] [] := ⟨[], rfl, rfl⟩

/-- A phrase by itself means its operands. -/
theorem Means.alone {phrase : Phrase} {expr : Expr} (means : phrase.Means expr)
    (connective : Connective) :
    MeanAll connective [phrase] (operandList connective expr.flatten) := by
  have whole := MeanAll.cons means (mean_nil connective)
  rwa [List.append_nil] at whole

/-- The union of factors that are expressions is the union of the expressions. -/
theorem unite_words (first : Expr) (others : List Expr) :
    Factor.unite (.words first) (others.map Factor.words) =
      .ok (.words (.logical .or first others)) := by
  have allWords : (others.map Factor.words).all (fun factor => factor.words?.isSome) = true := by
    simp [Factor.words?]
  have back : (others.map Factor.words).filterMap Factor.words? = others := by
    rw [List.filterMap_map]
    exact List.filterMap_some
  simp only [Factor.unite, allWords, back, ↓reduceIte]

/-- Factors that are expressions are accepted where expressions must stand. -/
theorem exprs_words (fault : QueryFault) (exprs : List Expr) :
    Factor.exprs fault (exprs.map Factor.words) = .ok exprs := by
  unfold Factor.exprs
  induction exprs with
  | nil => rfl
  | cons first others inductionHypothesis =>
    rw [List.map_cons, List.mapM_cons, inductionHypothesis]
    rfl

/-- The factors of a list of phrases that begins with one. -/
theorem factorsOf_cons_ok {phrase : Phrase} {phrases : List Phrase} {said : List Expr}
    (read : factorsOf (phrase :: phrases) = .ok (said.map Factor.words)) :
    ∃ first others, said = first :: others ∧ phrase.factor = .ok (.words first) ∧
      factorsOf phrases = .ok (others.map Factor.words) := by
  obtain ⟨factor, factors, first, others, whole⟩ := factorsOf_cons_iff.mp read
  cases said with
  | nil => cases whole
  | cons head tail =>
    obtain ⟨rfl, rfl⟩ := List.cons.inj whole
    exact ⟨head, tail, rfl, first, others⟩

/-- The factor of a union, as one phrase, is the union of the factors of its operands. -/
theorem factor_wholeUnion {read : Phrase × List Phrase} {first : Expr} {others : List Expr}
    (factor : read.1.factor = .ok (.words first))
    (factors : factorsOf read.2 = .ok (others.map Factor.words)) :
    (wholeUnion read).factor = .ok (.words (join .or first others)) := by
  obtain ⟨phrase, phrases⟩ := read
  cases phrases with
  | nil =>
    have alone : others = [] := by simpa [factorsOf] using (Except.ok.inj factors).symm
    rw [alone]
    exact factor
  | cons next rest =>
    obtain ⟨second, later, rfl, factorSecond, factorsLater⟩ := factorsOf_cons_ok factors
    have united := unite_words first (second :: later)
    simp only [wholeUnion, joinUnion, Phrase.factor, factor, factorSecond, factorsLater,
      Reading.ok_bind]
    exact united

/-- The factor of a product, as one phrase, is the product of the factors of its operands. -/
theorem factor_wholeProduct {read : Phrase × List Phrase} {first : Expr} {others : List Expr}
    (factor : read.1.factor = .ok (.words first))
    (factors : factorsOf read.2 = .ok (others.map Factor.words)) :
    (wholeProduct read).factor = .ok (.words (join .and first others)) := by
  obtain ⟨phrase, phrases⟩ := read
  cases phrases with
  | nil =>
    have alone : others = [] := by simpa [factorsOf] using (Except.ok.inj factors).symm
    rw [alone]
    exact factor
  | cons next rest =>
    obtain ⟨second, later, rfl, factorSecond, factorsLater⟩ := factorsOf_cons_ok factors
    have accepted := exprs_words .codesInProduct (second :: later)
    rw [List.map_cons] at accepted
    simp only [wholeProduct, joinProduct, Phrase.factor, factor, factorSecond, factorsLater,
      Reading.ok_bind, Factor.expr, accepted]
    rfl

/-- The operands of a union, as one phrase, mean the union. -/
theorem means_wholeUnion {read : Phrase × List Phrase} {expr : Expr}
    (means : MeanAll .or (read.1 :: read.2) (operandList .or expr.flatten)) :
    (wholeUnion read).Means expr := by
  obtain ⟨said, factors, same⟩ := means
  obtain ⟨first, others, rfl, factor, factorsOthers⟩ := factorsOf_cons_ok factors
  refine ⟨join .or first others, factor_wholeUnion factor factorsOthers, ?_⟩
  apply flatten_eq_of_operandList .or
  rw [operandList_flatten_join, ← same, flattenAll]

/-- The operands of a product, as one phrase, mean the product. -/
theorem means_wholeProduct {read : Phrase × List Phrase} {expr : Expr}
    (means : MeanAll .and (read.1 :: read.2) (operandList .and expr.flatten)) :
    (wholeProduct read).Means expr := by
  obtain ⟨said, factors, same⟩ := means
  obtain ⟨first, others, rfl, factor, factorsOthers⟩ := factorsOf_cons_ok factors
  refine ⟨join .and first others, factor_wholeProduct factor factorsOthers, ?_⟩
  apply flatten_eq_of_operandList .and
  rw [operandList_flatten_join, ← same, flattenAll]

/-- A text says an expression as an atom that can still take a field. -/
def SaysOpen (text : Text) (expr : Expr) : Prop :=
  ∃ phrase, ReadsOpen text phrase ∧ phrase.Means expr

/-- A text says an expression as an atom. -/
def SaysAtom (text : Text) (expr : Expr) : Prop :=
  ∃ phrase, ReadsAtom text phrase ∧ phrase.Means expr

/-- A text says operands as a union. -/
def SaysUnion (text : Text) (operands : List Expr) : Prop :=
  ∃ read, ReadsUnion text read ∧ MeanAll .or (read.1 :: read.2) operands

/-- A text says operands as a product. -/
def SaysProduct (text : Text) (operands : List Expr) : Prop :=
  ∃ read, ReadsProduct text read ∧ MeanAll .and (read.1 :: read.2) operands

/-- A text says an expression inside a group or bracket. -/
def SaysInside (text : Text) (expr : Expr) : Prop :=
  ∃ phrase, ReadsInside text phrase ∧ phrase.Means expr

/-- A plain word says itself. -/
theorem says_word {word : Text} (plain : IsPlain word) : SaysOpen word (.word word) :=
  ⟨.term word, reads_term plain, .word word, rfl, rfl⟩

/-- A group says what its inside says. -/
theorem says_group {text : Text} {expr : Expr} (given : SaysInside text expr) :
    SaysOpen (Brackets.parenthesized text) expr := by
  obtain ⟨phrase, reads, said, factor, same⟩ := given
  exact ⟨.group phrase, reads_group reads, said, factor, same⟩

/-- A bracket says what its inside says. -/
theorem says_bracket {text : Text} {expr : Expr} (given : SaysInside text expr) :
    SaysAtom ('[' :: text ++ [']']) expr := by
  obtain ⟨phrase, reads, said, factor, same⟩ := given
  exact ⟨.bracket phrase, reads_bracket reads, said, factor, same⟩

/-- An atom says the same if it takes no field. -/
theorem SaysOpen.atom {text : Text} {expr : Expr} (given : SaysOpen text expr) :
    SaysAtom text expr := by
  obtain ⟨phrase, reads, means⟩ := given
  exact ⟨phrase, reads.atom, means⟩

/-- An atom says the same in the text field. -/
theorem SaysOpen.fielded {text : Text} {expr : Expr} (given : SaysOpen text expr) :
    SaysAtom (text ++ Field.text.suffix.toList) expr := by
  obtain ⟨phrase, reads, said, factor, same⟩ := given
  refine ⟨.fielded phrase .text, reads.fielded .text, said, ?_, same⟩
  rw [Phrase.factor, factor]
  rfl

/-- An atom is a union of one operand. -/
theorem SaysAtom.union {text : Text} {expr : Expr} (given : SaysAtom text expr) :
    SaysUnion text (operandList .or expr.flatten) := by
  obtain ⟨phrase, reads, means⟩ := given
  exact ⟨(phrase, []), reads.union, means.alone .or⟩

/-- A plus sign puts an atom in front of a union. -/
theorem says_plus {text more : Text} {expr : Expr} {operands : List Expr}
    (given : SaysAtom text expr) (saysMore : SaysUnion more operands) :
    SaysUnion (text ++ '+' :: more) (operandList .or expr.flatten ++ operands) := by
  obtain ⟨phrase, reads, means⟩ := given
  obtain ⟨read, readsMore, meanMore⟩ := saysMore
  exact ⟨(phrase, read.1 :: read.2), readsMore.cons reads, meanMore.cons means⟩

/-- A union is a product of one operand. -/
theorem SaysUnion.product {text : Text} {expr : Expr}
    (given : SaysUnion text (operandList .or expr.flatten)) :
    SaysProduct text (operandList .and expr.flatten) := by
  obtain ⟨read, reads, means⟩ := given
  exact ⟨(wholeUnion read, []), reads.product, (means_wholeUnion means).alone .and⟩

/-- A star puts a union in front of a product. -/
theorem says_star {text more : Text} {expr : Expr} {operands : List Expr}
    (given : SaysUnion text (operandList .or expr.flatten)) (saysMore : SaysProduct more operands) :
    SaysProduct (text ++ '*' :: more) (operandList .and expr.flatten ++ operands) := by
  obtain ⟨read, reads, means⟩ := given
  obtain ⟨readMore, readsMore, meanMore⟩ := saysMore
  exact ⟨(wholeUnion read, readMore.1 :: readMore.2), readsMore.cons reads,
    meanMore.cons (means_wholeUnion means)⟩

/-- A product says the same inside a group or bracket. -/
theorem SaysProduct.inside {text : Text} {expr : Expr}
    (given : SaysProduct text (operandList .and expr.flatten)) : SaysInside text expr := by
  obtain ⟨read, reads, means⟩ := given
  exact ⟨wholeProduct read, reads.inside, means_wholeProduct means⟩

/-- Two products with a distance between them say a nearness. -/
theorem says_proximity {leftText rightText : Text} {left right : Expr}
    (saysLeft : SaysProduct leftText (operandList .and left.flatten)) (distance : Distance)
    (saysRight : SaysProduct rightText (operandList .and right.flatten)) :
    SaysInside (leftText ++ ',' :: distance.text ++ ',' :: rightText)
      (.proximity distance left right) := by
  obtain ⟨lefts, readsLeft, meansLeft⟩ := saysLeft
  obtain ⟨rights, readsRight, meansRight⟩ := saysRight
  obtain ⟨saidLeft, factorLeft, sameLeft⟩ := means_wholeProduct meansLeft
  obtain ⟨saidRight, factorRight, sameRight⟩ := means_wholeProduct meansRight
  refine ⟨_, reads_proximity readsLeft distance readsRight,
    .proximity distance saidLeft saidRight, ?_, ?_⟩
  · rw [Phrase.factor, factorLeft, factorRight]
    rfl
  · rw [flatten, flatten, sameLeft, sameRight]

/-- Three products in a brace with its word distance say the three-operand form. -/
theorem says_brace {firstText secondText thirdText : Text} {first second third : Expr}
    (saysFirst : SaysProduct firstText (operandList .and first.flatten))
    (saysSecond : SaysProduct secondText (operandList .and second.flatten))
    (saysThird : SaysProduct thirdText (operandList .and third.flatten)) (count : Nat) :
    SaysOpen (bracedText firstText secondText thirdText count)
      (.simultaneous count first second third) := by
  obtain ⟨firsts, readsFirst, meansFirst⟩ := saysFirst
  obtain ⟨seconds, readsSecond, meansSecond⟩ := saysSecond
  obtain ⟨thirds, readsThird, meansThird⟩ := saysThird
  obtain ⟨saidFirst, factorFirst, sameFirst⟩ := means_wholeProduct meansFirst
  obtain ⟨saidSecond, factorSecond, sameSecond⟩ := means_wholeProduct meansSecond
  obtain ⟨saidThird, factorThird, sameThird⟩ := means_wholeProduct meansThird
  refine ⟨_, reads_brace readsFirst readsSecond readsThird count,
    .simultaneous count saidFirst saidSecond saidThird, ?_, ?_⟩
  · rw [Phrase.factor, factorFirst, factorSecond, factorThird]
    rfl
  · rw [flatten, flatten, sameFirst, sameSecond, sameThird]

end PriorArt.Phrase
