import PriorArt.Proofs.Query.CommonTrees
import PriorArt.Proofs.Statement.Parsed

/-!
# The trees of lines

The expression of a statement is a built tree if its words are plain, since a chain of one operand
is the operand. It stays one when built trees are put in the place of its words.
-/

namespace PriorArt

open Expr

namespace Expr

/-- The words of joined operands are those of each of them. -/
theorem words_join (connective : Connective) (first : Expr) (others : List Expr) :
    (join connective first others).words = first.words ++ others.flatMap words := by
  cases others with
  | nil => simp [join]
  | cons second rest => rw [join, words_logical]

/-- Joined built trees are built. -/
theorem IsBuilt.join {named : Text → Prop} (connective : Connective) {first : Expr}
    {others : List Expr} (built : ∀ operand ∈ first :: others, IsBuilt named operand) :
    IsBuilt named (join connective first others) := by
  cases others with
  | nil => exact built first (by simp)
  | cons second rest => exact .logical connective built

/-- A tree that is built with references of a property is built with those of a weaker one. -/
theorem IsBuilt.mono {named more : Text → Prop} {expr : Expr} (built : IsBuilt named expr)
    (weaker : ∀ id ∈ expr.references, named id → more id) : IsBuilt more expr := by
  induction built with
  | word plain => exact .word plain
  | @reference id isNamed => exact .reference (weaker id (by simp) isNamed)
  | @logical connective first second others operands inductionHypothesis =>
    refine .logical connective (fun operand inside => inductionHypothesis operand inside ?_)
    intro id refers
    apply weaker
    rw [references_logical, ← List.flatMap_cons]
    exact List.mem_flatMap.mpr ⟨operand, inside, refers⟩
  | proximity distance ofLeft ofRight leftHypothesis rightHypothesis =>
    simp only [references_proximity, List.mem_append] at weaker
    exact .proximity distance (leftHypothesis (fun id refers => weaker id (.inl refers)))
      (rightHypothesis (fun id refers => weaker id (.inr refers)))
  | simultaneous count ofFirst ofSecond ofThird firstHypothesis secondHypothesis thirdHypothesis =>
    simp only [references_simultaneous, List.mem_append] at weaker
    exact .simultaneous count
      (firstHypothesis (fun id refers => weaker id (.inl (.inl refers))))
      (secondHypothesis (fun id refers => weaker id (.inl (.inr refers))))
      (thirdHypothesis (fun id refers => weaker id (.inr refers)))

end Expr

/-- A tree of words is built when built trees are put in the place of the words. -/
theorem IsPlainTree.replace {named : Text → Prop} {expr : Expr} (plainTree : IsPlainTree expr)
    {meaning : Text → Expr} (built : ∀ text ∈ expr.words, IsBuilt named (meaning text)) :
    IsBuilt named (expr.replaceWords meaning) := by
  induction plainTree with
  | @word text plain => exact built text (by simp)
  | reference isNamed => exact isNamed.elim
  | @logical connective first second others operands inductionHypothesis =>
    rw [replaceWords, replaceWordsOfAll_eq, List.map_cons]
    apply IsBuilt.logical connective
    rw [← List.map_cons, ← List.map_cons, List.forall_mem_map]
    intro operand inside
    refine inductionHypothesis operand inside (fun text ofOperand => built text ?_)
    rw [words_logical, ← List.flatMap_cons]
    exact List.mem_flatMap.mpr ⟨operand, inside, ofOperand⟩
  | proximity distance ofLeft ofRight leftHypothesis rightHypothesis =>
    simp only [words_proximity, List.mem_append] at built
    exact .proximity distance (leftHypothesis (fun text inside => built text (.inl inside)))
      (rightHypothesis (fun text inside => built text (.inr inside)))
  | simultaneous count ofFirst ofSecond ofThird firstHypothesis secondHypothesis thirdHypothesis =>
    simp only [words_simultaneous, List.mem_append] at built
    exact .simultaneous count
      (firstHypothesis (fun text inside => built text (.inl (.inl inside))))
      (secondHypothesis (fun text inside => built text (.inl (.inr inside))))
      (thirdHypothesis (fun text inside => built text (.inr inside)))

namespace Statement

mutual

/-- A primary of plain words is a plain tree. -/
theorem PrimaryTree.plain (tree : PrimaryTree) (words : ∀ text ∈ tree.expr.words, IsPlain text) :
    IsPlainTree tree.expr := by
  cases tree with
  | identifier text => exact .word (words text (by simp [PrimaryTree.expr]))
  | parenthesized inner =>
    rw [PrimaryTree.expr, words_join] at words
    exact IsBuilt.join .or (inner.operands_plain words)
  | brace first second third digits capital =>
    simp only [PrimaryTree.expr, words_simultaneous, List.mem_append] at words
    exact .simultaneous _ (first.plain (fun text inside => words text (.inl (.inl inside))))
      (second.plain (fun text inside => words text (.inl (.inr inside))))
      (third.plain (fun text inside => words text (.inr inside)))

/-- A nearness of plain words is a plain tree. -/
theorem NearnessTree.plain (tree : NearnessTree)
    (words : ∀ text ∈ tree.expr.words, IsPlain text) : IsPlainTree tree.expr := by
  cases tree with
  | single operand => exact operand.plain words
  | near left digits unit capital right =>
    simp only [NearnessTree.expr, words_proximity, List.mem_append] at words
    exact .proximity _ (left.plain (fun text inside => words text (.inl inside)))
      (right.plain (fun text inside => words text (.inr inside)))

/-- The operands of an intersection of plain words are plain trees. -/
theorem IntersectionTree.operands_plain (tree : IntersectionTree)
    (words : ∀ text ∈ tree.operands.1.words ++ tree.operands.2.flatMap Expr.words,
      IsPlain text) :
    ∀ operand ∈ tree.operands.1 :: tree.operands.2, IsPlainTree operand := by
  cases tree with
  | last operand =>
    simp only [IntersectionTree.operands, List.flatMap_nil, List.append_nil] at words
    simpa [IntersectionTree.operands] using operand.plain words
  | more operand rest =>
    simp only [IntersectionTree.operands, List.flatMap_cons, List.mem_append] at words
    have first := operand.plain (fun text inside => words text (.inl inside))
    have others := rest.operands_plain (fun text inside =>
      words text (.inr (List.mem_append.mp inside)))
    exact List.forall_mem_cons.mpr ⟨first, others⟩

/-- The operands of a union of plain words are plain trees. -/
theorem UnionTree.operands_plain (tree : UnionTree)
    (words : ∀ text ∈ tree.operands.1.words ++ tree.operands.2.flatMap Expr.words,
      IsPlain text) :
    ∀ operand ∈ tree.operands.1 :: tree.operands.2, IsPlainTree operand := by
  cases tree with
  | last operand =>
    simp only [UnionTree.operands, List.flatMap_nil, List.append_nil, words_join] at words
    have first : IsPlainTree (Expr.join .and operand.operands.1 operand.operands.2) :=
      IsBuilt.join .and (operand.operands_plain words)
    simpa [UnionTree.operands] using first
  | more operand rest =>
    simp only [UnionTree.operands, words_join, List.flatMap_cons] at words
    have first := IsBuilt.join .and (operand.operands_plain (fun text inside =>
      words text (List.mem_append_left _ inside)))
    have others := rest.operands_plain (fun text inside =>
      words text (List.mem_append_right _ inside))
    exact List.forall_mem_cons.mpr ⟨first, others⟩

end

/-- The expression of a statement with plain words is a plain tree. -/
theorem plain_tree {line : Text} {statement : Statement} (read : parse line = .ok statement)
    (words : ∀ text ∈ statement.expr.words, IsPlain text) : IsPlainTree statement.expr := by
  obtain ⟨derivation, _, rfl⟩ := parse_sound read
  rw [Derivation.statement, UnionTree.expr, words_join] at words
  exact IsBuilt.join .or (derivation.body.operands_plain words)

end Statement

end PriorArt
