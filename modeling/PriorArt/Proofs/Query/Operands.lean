import PriorArt.Proofs.Expr.Agreement
import PriorArt.Proofs.Query.CommonTrees
import PriorArt.Proofs.Query.ReadBack

/-!
# Operands of nearness

In a query the operands of nearness are enclosed anew, whatever brackets are around them. So parts can
be exchanged as operands if their texts are the same without enclosing brackets. In this way a word that
is defined as a union in brackets stands for the union.

A tree of plain words stands for itself, where no union has a nearness of two among its operands.
-/

namespace PriorArt

open Brackets Expr Phrase

/-- Parts that say a tree as a query, factor by factor. -/
structure SaysTree (parts : Parts) (tree : Expr) : Prop where
  classes : parts.classes = []
  words : ∃ exprs, List.Forall₂ FactorSays parts.words exprs ∧
    flattenAll .and exprs = operandList .and tree.flatten

/-- Parts whose text is enclosed, as that of an operand, like a text that writes a tree. -/
structure StandsFor (parts : Parts) (tree : Expr) : Prop where
  kind : parts.kind = .words
  enclosed : ∃ text, Writes text tree ∧ regroup parts.wordsText = regroup text

/-- A single factor that says a tree. -/
theorem FactorSays.tree {factor : WordFactor} {tree : Expr} (saysFactor : FactorSays factor tree) :
    SaysTree (.ofFactor factor) tree where
  classes := rfl
  words := ⟨[tree], .cons saysFactor .nil, by simp [flattenAll]⟩

/-- Parts that translate a tree say it. -/
theorem Translates.said {parts : Parts} {tree : Expr} (translates : Translates tree parts) :
    SaysTree parts tree := by
  obtain ⟨first, others, write, same⟩ := translates.write
  exact ⟨write.classes, first :: others, write.words.imp (fun _ _ one => one.said), same⟩

/-- Parts that translate a tree stand for it. -/
theorem Translates.stands {parts : Parts} {tree : Expr} (translates : Translates tree parts) :
    StandsFor parts tree :=
  ⟨translates.kind, parts.wordsText, translates.text, rfl⟩

section Enclosed

variable {text : Text} {tree : Expr} (written : WritesFactor text tree)
include written

/-- A pair of brackets around a written text makes no difference where the text is enclosed anew. -/
theorem WritesFactor.regroup_enclosed : regroup (parenthesized text) = regroup text := by
  rw [regroup, regroup, strip_parenthesized written.tidy.solid.trimmed written.tidy.nested written.bare,
    strip_bare written.tidy.solid written.bare]

/-- A written text in brackets says what the text writes. -/
theorem WritesFactor.said_enclosed : SaysTree (.ofText (parenthesized text)) tree := by
  apply FactorSays.tree
  have filled : (strip (parenthesized text)).isEmpty = false := by
    rw [strip_parenthesized written.tidy.solid.trimmed written.tidy.nested written.bare]
    simp [written.filled]
  refine ⟨renderWord text, ?_, ?_, written.enclosed.fielded⟩
  · simp [WordFactor.render?, filled, renderWord, written.regroup_enclosed]
  · exact (written.tidy.regroup written.bare).fielded .text

/-- A written text in brackets stands for what the text writes. -/
theorem WritesFactor.stands_enclosed : StandsFor (.ofText (parenthesized text)) tree := by
  have solid := (written.tidy.enclosed (rfl : closerOf? '(' = some ')')).solid
  have notBlank : (parenthesized text).allBlank = false :=
    Text.not_allBlank_of_solid solid (by simp [parenthesized])
  have wordsText : (Parts.ofText (parenthesized text)).wordsText = parenthesized text := by
    have trimmed : Text.trim (parenthesized text) = parenthesized text := Text.trim_solid solid
    have filled : (parenthesized text).isEmpty = false := by simp [parenthesized]
    simp [Parts.wordsText, Parts.ofText, Parts.ofFactor, WordFactor.text, trimmed, filled]
  refine ⟨?_, text, written.writes, ?_⟩
  · simp [Parts.kind, Parts.ofText, Parts.ofFactor, WordFactor.hasContent, notBlank]
  · rw [wordsText, written.regroup_enclosed]

end Enclosed

/-- A nearness of parts that stand for trees says the nearness of the trees. -/
theorem says_relate {left right : Expr} {leftParts rightParts : Parts}
    (ofLeft : StandsFor leftParts left) (distance : Distance) (ofRight : StandsFor rightParts right)
    (fallback : Parts) :
    SaysTree (Parts.relate fallback distance leftParts rightParts) (.proximity distance left right) := by
  obtain ⟨leftText, writtenLeft, sameLeft⟩ := ofLeft.enclosed
  obtain ⟨rightText, writtenRight, sameRight⟩ := ofRight.enclosed
  have related : Parts.relate fallback distance leftParts rightParts =
      .ofFactor (.near (.ofDistance leftParts.wordsText rightParts.wordsText distance)) := by
    simp [Parts.relate, ofLeft.kind, ofRight.kind]
  have rendered : (Nearness.ofDistance leftParts.wordsText rightParts.wordsText distance).render =
      (Nearness.ofDistance leftText rightText distance).render := by
    simp [Nearness.render, Nearness.ofDistance, Nearness.reach, renderWord, sameLeft, sameRight]
  rw [related]
  apply FactorSays.tree
  rw [FactorSays, WordFactor.render?, rendered]
  exact (near_writes writtenLeft distance writtenRight).said

/-- A brace of parts that stand for trees says the nearness of the three trees. -/
theorem says_gather {first second third : Expr} {firstParts secondParts thirdParts : Parts}
    (ofFirst : StandsFor firstParts first) (ofSecond : StandsFor secondParts second)
    (ofThird : StandsFor thirdParts third) (count : Nat) (fallback : Parts) :
    SaysTree (Parts.gather fallback count firstParts secondParts thirdParts)
      (.simultaneous count first second third) := by
  obtain ⟨firstText, writtenFirst, sameFirst⟩ := ofFirst.enclosed
  obtain ⟨secondText, writtenSecond, sameSecond⟩ := ofSecond.enclosed
  obtain ⟨thirdText, writtenThird, sameThird⟩ := ofThird.enclosed
  have gathered : Parts.gather fallback count firstParts secondParts thirdParts =
      .ofText (bracedText (regroup firstText) (regroup secondText) (regroup thirdText) count) := by
    simp [Parts.gather, ofFirst.kind, ofSecond.kind, ofThird.kind, sameFirst, sameSecond, sameThird]
  rw [gathered]
  exact (plain_writes (writes_brace writtenFirst writtenSecond writtenThird count)).said.tree

/-- No union in the expression has a nearness of two among its operands. -/
def Expr.HasNoNearAlternative (expr : Expr) : Prop :=
  ∀ first others, .logical .or first others ∈ expr.subexpressions →
    ∀ operand ∈ first :: others, ∀ distance left right, operand ≠ .proximity distance left right

/-- What holds of the unions of an expression holds of those of its parts. -/
theorem Expr.HasNoNearAlternative.mono {expr part : Expr} (apart : expr.HasNoNearAlternative)
    (inside : part.subexpressions ⊆ expr.subexpressions) : part.HasNoNearAlternative :=
  fun first others listed => apart first others (inside listed)

/-- The parts of an operand are parts of the operator. -/
theorem Expr.subexpressions_operand {connective : Connective} {first operand : Expr}
    {others : List Expr} (inside : operand ∈ first :: others) :
    operand.subexpressions ⊆ (logical connective first others).subexpressions := by
  intro part listed
  rw [subexpressions, subexpressionsOfAll_eq, List.cons_append, ← List.flatMap_cons]
  exact List.mem_cons_of_mem _ (List.mem_flatMap.mpr ⟨operand, inside, listed⟩)

/-- A tree of plain words is a word tree if no union in it has a nearness among its operands. -/
theorem IsPlainTree.word_tree {tree : Expr} (plainTree : IsPlainTree tree)
    (apart : tree.HasNoNearAlternative) : IsWordTree tree := by
  induction plainTree with
  | word plain => exact .word plain
  | reference isNamed => exact isNamed.elim
  | @logical connective first second others operands inductionHypothesis =>
    have each : ∀ operand ∈ first :: second :: others, IsWordTree operand := fun operand inside =>
      inductionHypothesis operand inside (apart.mono (subexpressions_operand inside))
    cases connective with
    | and => exact .intersection each
    | or => exact .union each (apart _ _ (by simp [subexpressions]))
  | proximity distance ofLeft ofRight leftHypothesis rightHypothesis =>
    exact .proximity distance
      (leftHypothesis (apart.mono (fun part inside => by simp [subexpressions, inside])))
      (rightHypothesis (apart.mono (fun part inside => by simp [subexpressions, inside])))
  | simultaneous count ofFirst ofSecond ofThird firstHypothesis secondHypothesis thirdHypothesis =>
    exact .simultaneous count
      (firstHypothesis (apart.mono (fun part inside => by simp [subexpressions, inside])))
      (secondHypothesis (apart.mono (fun part inside => by simp [subexpressions, inside])))
      (thirdHypothesis (apart.mono (fun part inside => by simp [subexpressions, inside])))

/-- The parts of a word tree translate it, if its words are tokens of no stored words. -/
theorem word_tree_translates_among {catalogue : Catalogue} {tree : Expr} (wordTree : IsWordTree tree)
    (undefined : ∀ text ∈ tree.words, catalogue.wordOfToken? text = none) :
    Translates tree (tree.partsWith catalogue.meaning) := by
  have agree : AgreeOn catalogue.meaning { catalogue.meaning with word := Parts.ofTrimmed } [tree] := by
    refine ⟨fun text inside => ?_, fun _ _ => rfl, fun _ _ => rfl⟩
    have isNone := undefined text (by simpa using inside)
    simp [Catalogue.meaning, Catalogue.wordParts, isNone]
  rw [partsWith_congr tree agree]
  exact word_tree_translates (fun _ _ => rfl) wordTree

end PriorArt
