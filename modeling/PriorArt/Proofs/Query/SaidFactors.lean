import PriorArt.Proofs.Expr.Denotation
import PriorArt.Proofs.Query.Operands

/-!
# Parts that say factors

Parts say factors if a query of them is read as factors that mean the same, whatever the words and the
codes denote. Parts that are put together say the factors of both.
-/

namespace PriorArt

open Brackets Expr

universe u

namespace Query

/-- Two queries mean the same if they denote the same set under every interpretation. -/
def MeansSame (factors others : List Factor) : Prop :=
  ∀ (α : Type u) (interpretation : Interpretation α),
    denotes interpretation factors = denotes interpretation others

variable {factors others : List Factor}

section Denotes

variable {α : Type u} {interpretation : Interpretation α}

/-- Two lists of factors together denote what the two have in common. -/
theorem denotes_append :
    denotes interpretation (factors ++ others) =
      denotes interpretation factors ∩ denotes interpretation others := by
  ext point
  simp [denotes, or_imp, forall_and]

/-- Several expressions as factors denote their intersection. -/
theorem denotes_words (exprs : List Expr) :
    denotes interpretation (exprs.map Factor.words) = denotesAll interpretation .and exprs := by
  ext point
  simp [denotes, mem_denotesAll_and, Factor.denotes]

end Denotes

/-- Queries with the same meaning as a third one have the same meaning. -/
theorem MeansSame.trans {further : List Factor} (first : MeansSame.{u} factors others)
    (second : MeansSame.{u} others further) : MeansSame.{u} factors further :=
  fun α interpretation => (first α interpretation).trans (second α interpretation)

/-- Factors that mean the same can be exchanged in front of and behind others. -/
theorem MeansSame.append {front newFront back newBack : List Factor}
    (ofFront : MeansSame.{u} front newFront) (ofBack : MeansSame.{u} back newBack) :
    MeansSame.{u} (front ++ back) (newFront ++ newBack) := by
  intro α interpretation
  rw [denotes_append, denotes_append, ofFront α interpretation, ofBack α interpretation]

/-- Expressions mean the same as factors if the operands of their intersections are the same. -/
theorem means_same_of_flatten {exprs said : List Expr}
    (same : flattenAll .and exprs = flattenAll .and said) :
    MeansSame.{u} (exprs.map Factor.words) (said.map Factor.words) := by
  intro α interpretation
  rw [denotes_words, denotes_words, ← denotesAll_flattenAll, same, denotesAll_flattenAll]

/-- The order and the number of factors do not matter. -/
theorem means_same_of_members (same : ∀ factor, factor ∈ factors ↔ factor ∈ others) :
    MeansSame.{u} factors others := by
  intro α interpretation
  ext point
  simp [denotes, same]

end Query

/-- Parts that say factors: the expressions that their words say and the spans of their groups of codes
mean the same as the factors. -/
def SaysFactors (parts : Parts) (factors : List Factor) : Prop :=
  ∃ (exprs : List Expr) (lists : List (List Text)), List.Forall₂ FactorSays parts.words exprs ∧
    parts.classes = lists.map (fun codes => parenthesized (Text.join '+' codes)) ∧
    (∀ codes ∈ lists, ArePlain codes) ∧
    Query.MeansSame.{u} (exprs.map Factor.words ++ lists.map spanOf) factors

namespace SaysFactors

variable {parts : Parts} {factors others : List Factor}

/-- Parts say whatever means the same as the factors that they say. -/
theorem congr (saysFactors : SaysFactors.{u} parts factors)
    (same : Query.MeansSame.{u} factors others) : SaysFactors.{u} parts others := by
  obtain ⟨exprs, lists, say, classes, plain, meansSame⟩ := saysFactors
  exact ⟨exprs, lists, say, classes, plain, meansSame.trans same⟩

/-- No parts say no factors. -/
theorem empty : SaysFactors.{u} .empty [] :=
  ⟨[], [], .nil, rfl, by simp, fun _ _ => rfl⟩

/-- Parts together say the factors of the one and those of the other. -/
theorem append {left right : Parts} (ofLeft : SaysFactors.{u} left factors)
    (ofRight : SaysFactors.{u} right others) : SaysFactors.{u} (left ++ right) (factors ++ others) := by
  obtain ⟨leftExprs, leftLists, sayLeft, leftClasses, plainLeft, sameLeft⟩ := ofLeft
  obtain ⟨rightExprs, rightLists, sayRight, rightClasses, plainRight, sameRight⟩ := ofRight
  refine ⟨leftExprs ++ rightExprs, leftLists ++ rightLists, List.rel_append sayLeft sayRight, ?_,
    List.forall_mem_append.mpr ⟨plainLeft, plainRight⟩, ?_⟩
  · have both : (left ++ right).classes = left.classes ++ right.classes := rfl
    rw [both, leftClasses, rightClasses, List.map_append]
  · -- the words of both stand in front of the groups of both, which makes no difference
    refine (Query.means_same_of_members ?_).trans (sameLeft.append sameRight)
    intro factor
    simp only [List.map_append, List.mem_append]
    tauto

/-- Several operands of an intersection say the factors of each of them. -/
theorem product {β : Type} (meaning : Meaning) (exprOf : β → Expr) (factorsOf : β → List Factor)
    {items : List β}
    (each : ∀ item ∈ items,
      SaysFactors.{u} ((exprOf item).partsWith meaning) (factorsOf item)) :
    SaysFactors.{u} (productParts meaning (items.map exprOf)) (items.flatMap factorsOf) := by
  induction items with
  | nil => exact empty
  | cons item rest inductionHypothesis =>
    obtain ⟨first, others⟩ := List.forall_mem_cons.mp each
    rw [List.map_cons, productParts, List.flatMap_cons]
    exact first.append (inductionHypothesis others)

/-- The query of parts that say factors is read as factors that mean the same. -/
theorem read_back (saysFactors : SaysFactors.{u} parts factors) :
    ∃ again, Query.parse parts.render = .ok again ∧ Query.MeansSame.{u} again factors := by
  obtain ⟨exprs, lists, say, classes, plain, same⟩ := saysFactors
  obtain ⟨said, parsed, sameSaid⟩ := parse_said say classes plain
  exact ⟨_, parsed,
    ((Query.means_same_of_flatten sameSaid).append (fun _ _ => rfl)).trans same⟩

end SaysFactors

/-- Parts that say a tree say it as a factor. -/
theorem SaysTree.factor {parts : Parts} {tree : Expr} (saysTree : SaysTree parts tree) :
    SaysFactors.{u} parts [.words tree] := by
  obtain ⟨exprs, say, same⟩ := saysTree.words
  refine ⟨exprs, [], say, saysTree.classes, by simp, ?_⟩
  rw [List.map_nil, List.append_nil]
  exact Query.means_same_of_flatten (same.trans (by simp [flattenAll]) : _ = flattenAll .and [tree])

/-- The parts of plain codes say a span of these codes. -/
theorem codes_say {span : CodeSpan} (plain : ArePlain span.codes) :
    SaysFactors.{u} (codeParts span.codes) [.codes span] := by
  refine ⟨[], [span.codes], .nil, rfl, by simpa using plain, ?_⟩
  intro α interpretation
  ext point
  simp [Query.denotes, Factor.denotes, spanOf]

end PriorArt
