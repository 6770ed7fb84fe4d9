import PriorArt.Classification
import PriorArt.Proofs.Expr.Denotation
import PriorArt.Proofs.Query.ReadBack
import PriorArt.Proofs.Query.ReadFactors

/-!
# Unions of plain words

A union of plain words, however it is nested, is written as its words with plus signs between them,
and denotes what its words denote in a union. So it can be exchanged for the union of its distinct
words without any nesting, which is how a word is defined for it.
-/

namespace PriorArt

open Brackets Expr Phrase

universe u

variable {α : Type u} {interpretation : Interpretation α}

namespace Expr

/-- The check of several operands finds nothing exactly if each of them unites words. -/
theorem checkPlainUnions_isOk (exprs : List Expr) :
    (checkPlainUnions exprs).isOk = exprs.all isPlainUnion := by
  induction exprs with
  | nil => rfl
  | cons expr others inductionHypothesis =>
    rw [List.all_cons, ← inductionHypothesis, checkPlainUnions, isPlainUnion]
    cases checkPlainUnion expr with
    | error error => rfl
    | ok checked => simp [Reading.ok_bind, Except.isOk, Except.toBool]

/-- A set operator unites words if it is a union and each operand unites words. -/
theorem isPlainUnion_logical (connective : Connective) (first : Expr) (others : List Expr) :
    (logical connective first others).isPlainUnion = true ↔
      connective = .or ∧ ∀ operand ∈ first :: others, operand.isPlainUnion = true := by
  cases connective with
  | and => simp [isPlainUnion, checkPlainUnion, Except.isOk, Except.toBool]
  | or =>
    have each : (logical .or first others).isPlainUnion =
        (checkPlainUnions (first :: others)).isOk := by
      rw [isPlainUnion, checkPlainUnion, checkPlainUnions]
    rw [each, checkPlainUnions_isOk, List.all_eq_true]
    simp

/-- A union is written as its operands with plus signs between them. -/
theorem text_or (first : Expr) (others : List Expr) :
    (logical .or first others).text = Text.join '+' ((first :: others).map text) := by
  rw [text, logicalForm_logical]
  refine congrArg (Text.join '+') (List.map_congr_left (fun operand _ => ?_))
  simp [factorText, text]

/-- The union of words that are written one after the other. -/
def unionOf (first : Text) (others : List Text) : Expr := join .or (word first) (others.map word)

/-- A union of words denotes what its words denote. -/
theorem mem_denotes_unionOf {first : Text} {others : List Text} {point : α} :
    point ∈ (unionOf first others).denotes interpretation ↔
      ∃ text ∈ first :: others, point ∈ interpretation.word text := by
  rw [unionOf, denotes_join, mem_denotesAll_or, ← List.map_cons (f := word)]
  simp [denotes]

end Expr

section Union

variable {tree : Expr} (plainTree : IsPlainTree tree)
include plainTree

/-- A tree of plain words has words. -/
theorem IsPlainTree.some_words : tree.words ≠ [] := by
  induction plainTree with
  | word plain => simp
  | reference isNamed => exact isNamed.elim
  | @logical connective first second others operands inductionHypothesis =>
    simp [inductionHypothesis first]
  | proximity distance ofLeft ofRight leftHypothesis rightHypothesis => simp [leftHypothesis]
  | simultaneous count ofFirst ofSecond ofThird firstHypothesis secondHypothesis thirdHypothesis =>
    simp [firstHypothesis]

/-- A union of plain words is written as its words with plus signs between them. -/
theorem IsPlainTree.text_union (union : tree.isPlainUnion = true) :
    tree.text = Text.join '+' tree.words := by
  induction plainTree with
  | word plain => simp [text, logicalForm]
  | reference isNamed => exact isNamed.elim
  | @logical connective first second others operands inductionHypothesis =>
    obtain ⟨rfl, unions⟩ := (isPlainUnion_logical ..).mp union
    have each : (first :: second :: others).map Expr.text =
        ((first :: second :: others).map Expr.words).map (Text.join '+') := by
      rw [List.map_map]
      exact List.map_congr_left (fun operand inside =>
        inductionHypothesis operand inside (unions operand inside))
    rw [text_or, each, Text.join_groups, words_logical, ← List.flatMap_cons, List.flatMap_def]
    rw [List.forall_mem_map]
    exact fun operand inside => IsPlainTree.some_words (operands operand inside)
  | proximity distance ofLeft ofRight leftHypothesis rightHypothesis => cases union
  | simultaneous count ofFirst ofSecond ofThird firstHypothesis secondHypothesis thirdHypothesis =>
    cases union

/-- A union of plain words denotes what its words denote. -/
theorem IsPlainTree.mem_denotes_union (union : tree.isPlainUnion = true) {point : α} :
    point ∈ tree.denotes interpretation ↔ ∃ text ∈ tree.words, point ∈ interpretation.word text := by
  induction plainTree with
  | word plain => simp [denotes]
  | reference isNamed => exact isNamed.elim
  | @logical connective first second others operands inductionHypothesis =>
    obtain ⟨rfl, unions⟩ := (isPlainUnion_logical ..).mp union
    rw [denotes, ← denotesAll_cons, mem_denotesAll_or, words_logical, ← List.flatMap_cons]
    simp only [List.mem_flatMap]
    constructor
    · rintro ⟨operand, inside, ofOperand⟩
      obtain ⟨text, ofWords, ofText⟩ :=
        (inductionHypothesis operand inside (unions operand inside)).mp ofOperand
      exact ⟨text, ⟨operand, inside, ofWords⟩, ofText⟩
    · rintro ⟨text, ⟨operand, inside, ofWords⟩, ofText⟩
      exact ⟨operand, inside,
        (inductionHypothesis operand inside (unions operand inside)).mpr ⟨text, ofWords, ofText⟩⟩
  | proximity distance ofLeft ofRight leftHypothesis rightHypothesis => cases union
  | simultaneous count ofFirst ofSecond ofThird firstHypothesis secondHypothesis thirdHypothesis =>
    cases union

end Union

/-- Plain words with plus signs between them write their union. -/
theorem writes_words {first : Text} {others : List Text}
    (plain : ∀ text ∈ first :: others, IsPlain text) :
    WritesFactor (Text.join '+' (first :: others)) (unionOf first others) := by
  cases others with
  | nil =>
    rw [Text.join_single]
    exact writes_word (plain first (by simp))
  | cons second rest =>
    have arePlain : ArePlain (first :: second :: rest) := ⟨by simp, plain⟩
    have each : List.Forall₂ SaysAtom (first :: second :: rest)
        ((first :: second :: rest).map word) := by
      rw [List.forall₂_map_right_iff, List.forall₂_same]
      exact fun text inside => (says_word (plain text inside)).atom
    have sum := says_sum each (by simp)
    rw [List.map_cons, ← operandList_logical_all] at sum
    apply writes_compound arePlain.tidy arePlain.bare.1 arePlain.bare.2 sum.product.inside
    rw [Text.join_cons (by simp)]
    exact hasTopLevel_behind (plain first (by simp)).tidy.nested (by decide) _

end PriorArt
