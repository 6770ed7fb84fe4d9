import PriorArt.Proofs.Brackets.StarPieces
import PriorArt.Proofs.Query.BalancedParts

/-!
# The pieces of a query

A query is cut at its outermost stars. The groups of codes and the nearnesses are pieces of their own,
and so is a text in its field, unless it is a product that stands without brackets. Such a product has
the suffix of the field behind its last operand, and its other operands are pieces without a suffix.
-/

namespace PriorArt

open Brackets

/-- The suffix of the field in which words are searched. -/
def textSuffix : Text := Field.text.suffix.toList

/-- A product that is written without brackets: it has an outermost star, but nothing that makes it
more than one factor. -/
def Brackets.IsBareProduct (text : Text) : Prop :=
  hasTopLevel compoundMarks text = false ∧ 2 ≤ (starPieces 0 text).length

instance : DecidablePred IsBareProduct := fun _ => inferInstanceAs (Decidable (_ ∧ _))

/-- Behind a balanced text the suffix goes to the last piece. -/
theorem starPieces_suffix {text : Text} (balanced : Balanced text) :
    ∃ earlier last, starPieces 0 text = earlier ++ [last] ∧
      starPieces 0 (text ++ textSuffix) = earlier ++ [last ++ textSuffix] := by
  obtain ⟨earlier, last, pieces, behind⟩ := starPieces_behind balanced
  refine ⟨earlier, last, pieces, ?_⟩
  rw [behind, starPieces_plain (by decide) (by decide)]
  rfl

/-- A balanced text that is a product without brackets is cut at its stars, and the suffix is behind its
last operand. -/
theorem pieces_of_product {text : Text} (balanced : Balanced text)
    (product : IsBareProduct (strip text)) :
    ∃ earlier last, starPieces 0 (strip text) = earlier ++ [last] ∧
      starPieces 0 (renderWord text) = earlier ++ [last ++ textSuffix] := by
  have same : renderWord text = strip text ++ textSuffix := by
    rw [renderWord, regroup, groupIfCompound, product.1]
    rfl
  rw [same]
  exact starPieces_suffix balanced.strip

/-- Any other balanced text is one piece in its field. -/
theorem pieces_of_other {text : Text} (balanced : Balanced text)
    (other : ¬ IsBareProduct (strip text)) :
    starPieces 0 (renderWord text) = [renderWord text] := by
  obtain ⟨earlier, last, pieces, suffixed⟩ := starPieces_suffix balanced.regroup
  have single : earlier = [] := by
    rw [regroup, groupIfCompound] at pieces
    split at pieces
    · have enclosed : starPieces 0 (parenthesized (strip text)) = [parenthesized (strip text)] :=
        starPieces_enclosed rfl balanced.strip
      rw [enclosed] at pieces
      rcases List.append_eq_singleton_iff.mp pieces.symm with ⟨none, _⟩ | ⟨_, noLast⟩
      · exact none
      · cases noLast
    · next simple =>
      have short : ¬ 2 ≤ (starPieces 0 (strip text)).length :=
        fun long => other ⟨by simpa using simple, long⟩
      rw [pieces, List.length_append, List.length_singleton] at short
      exact List.length_eq_zero_iff.mp (by omega)
  have whole := join_starPieces 0 (renderWord text)
  have form : starPieces 0 (renderWord text) = [last ++ textSuffix] := by
    rw [single] at suffixed
    exact suffixed
  rw [form, Text.join_single] at whole
  rw [form, whole]

namespace Parts

/-- The pieces into which a query is cut: texts that end in the suffix, texts in square brackets, and
the operands, except for the last one, of a product without brackets. -/
inductive IsPiece (parts : Parts) : Text → Prop where
  | fielded (front : Text) : IsPiece parts (front ++ textSuffix)
  | squared {piece : Text} (squared : IsSquared piece) : IsPiece parts piece
  | operand {text piece : Text} (listed : .plain text ∈ parts.words)
      (product : IsBareProduct (strip text))
      (inside : piece ∈ (starPieces 0 (strip text)).dropLast) : IsPiece parts piece

/-- The pieces of a word factor. -/
theorem IsBalanced.pieces_of_word {parts : Parts} (balanced : parts.IsBalanced)
    {factor : WordFactor} (listed : factor ∈ parts.words) {text : Text}
    (rendered : factor.render? = some text) : ∀ piece ∈ starPieces 0 text, parts.IsPiece piece := by
  have ofFactor := balanced.words factor listed
  intro piece inside
  cases factor with
  | plain content =>
    obtain rfl : renderWord content = text := by
      rw [WordFactor.render?] at rendered
      split at rendered
      · cases rendered
      · exact Option.some.inj rendered
    by_cases product : IsBareProduct (strip content)
    · obtain ⟨earlier, last, pieces, suffixed⟩ := pieces_of_product ofFactor product
      rw [suffixed] at inside
      rcases List.mem_append.mp inside with isEarlier | isLast
      · exact .operand listed product (by rw [pieces, List.dropLast_concat]; exact isEarlier)
      · rw [List.mem_singleton.mp isLast]
        exact .fielded last
    · rw [pieces_of_other ofFactor product, List.mem_singleton] at inside
      rw [inside]
      exact .fielded (regroup content)
  | near nearness =>
    obtain ⟨inner, balancedInner, same⟩ := WordFactor.render_squared ofFactor
    rw [← Option.some.inj rendered, same, starPieces_enclosed rfl balancedInner,
      List.mem_singleton] at inside
    rw [inside]
    exact .squared ⟨inner, balancedInner, rfl⟩

/-- A query for balanced parts is cut into such pieces, if it is not empty. -/
theorem IsBalanced.pieces {parts : Parts} (balanced : parts.IsBalanced)
    (filled : parts.render ≠ []) : ∀ piece ∈ starPieces 0 parts.render, parts.IsPiece piece := by
  have some : parts.words.filterMap WordFactor.render? ++
      parts.classes.filterMap renderClass? ≠ [] := by
    intro none
    rw [Parts.render, none] at filled
    exact filled rfl
  have each : ∀ text ∈ parts.words.filterMap WordFactor.render? ++
      parts.classes.filterMap renderClass?,
      Balanced text ∧ ∀ piece ∈ starPieces 0 text, parts.IsPiece piece := by
    refine List.forall_mem_append.mpr ⟨?_, ?_⟩
    · intro text listed
      obtain ⟨factor, inside, rendered⟩ := List.mem_filterMap.mp listed
      exact ⟨(balanced.words factor inside).render rendered, balanced.pieces_of_word inside rendered⟩
    · intro text listed
      obtain ⟨group, inside, rendered⟩ := List.mem_filterMap.mp listed
      have squared := renderClass_squared (balanced.classes group inside) rendered
      refine ⟨squared.balanced, ?_⟩
      obtain ⟨inner, balancedInner, rfl⟩ := squared
      rw [starPieces_enclosed rfl balancedInner]
      simpa using .squared ⟨inner, balancedInner, rfl⟩
  intro piece inside
  rw [Parts.render, starPieces_join some (fun text listed => (each text listed).1)] at inside
  obtain ⟨text, listed, ofText⟩ := List.mem_flatMap.mp inside
  exact (each text listed).2 piece ofText

end Parts

end PriorArt
