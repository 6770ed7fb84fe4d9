import PriorArt.Proofs.Expr.Denotation
import PriorArt.Proofs.Query.CommonTrees
import PriorArt.Proofs.Query.SameTexts

/-!
# What rows denote

A row denotes a set like an expression, where nearness binds closest, then the star, then the plus
sign. The row of an expression denotes what the expression denotes. As the text of a row tells the
row, expressions that are written in the same way denote the same, so a label that is a logical form
never stands for two meanings.
-/

namespace PriorArt

namespace Layout

universe u

variable {α : Type u}

/-- What a row denotes in parts: the nearness at its start, the further operands of the product at
its start, and the further operands of the union. -/
structure Layers (α : Type u) where
  nearness : Set α
  factors : Set α
  alternatives : Set α

/-- The set that the parts denote together. -/
def Layers.whole (layers : Layers α) : Set α :=
  layers.nearness ∩ layers.factors ∪ layers.alternatives

/-- The parts of a single set. -/
def Layers.single (set : Set α) : Layers α := ⟨set, Set.univ, ∅⟩

/-- The parts with a further set in front and a separator behind it. -/
def Layers.put (interpretation : Interpretation α) (set : Set α) :
    Separator → Layers α → Layers α
  | .plus, layers => ⟨set, Set.univ, layers.whole⟩
  | .star, layers => ⟨set, layers.nearness ∩ layers.factors, layers.alternatives⟩
  | .near distance, layers =>
    ⟨interpretation.near distance set layers.nearness, layers.factors, layers.alternatives⟩

mutual

/-- The set that an atom denotes. -/
def Atom.denotes (interpretation : Interpretation α) : Atom → Set α
  | .word text _ => interpretation.word text
  | .group inner _ => (inner.layers interpretation).whole
  | .brace first second third count _ =>
    interpretation.together count (first.layers interpretation).whole
      (second.layers interpretation).whole (third.layers interpretation).whole

/-- The parts of what a row denotes. -/
def Row.layers (interpretation : Interpretation α) : Row → Layers α
  | .last atom => .single (atom.denotes interpretation)
  | .more atom separator rest =>
    (rest.layers interpretation).put interpretation (atom.denotes interpretation) separator

end

/-- The set that a row denotes. -/
def Row.denotes (interpretation : Interpretation α) (row : Row) : Set α :=
  (row.layers interpretation).whole

/-- Whether there is no plus sign between the atoms of a row. -/
def Row.isProduct : Row → Bool
  | .last _ => true
  | .more _ .plus _ => false
  | .more _ _ rest => rest.isProduct

variable {interpretation : Interpretation α}

/-- A single atom denotes the same as a row. -/
@[simp] theorem Row.denotes_last (atom : Atom) :
    (Row.last atom).denotes interpretation = atom.denotes interpretation := by
  simp [Row.denotes, Row.layers, Layers.single, Layers.whole]

/-- A group denotes what its inside denotes. -/
@[simp] theorem Atom.denotes_group (inner : Row) (marked : Bool) :
    (Atom.group inner marked).denotes interpretation = inner.denotes interpretation := rfl

/-- Behind a plus sign a row adds alternatives. -/
theorem Row.layers_plus (front back : Row) :
    (front.append .plus back).layers interpretation =
      { front.layers interpretation with
        alternatives := (front.layers interpretation).alternatives ∪ back.denotes interpretation } := by
  cases front with
  | last atom => simp [Row.append, Row.layers, Layers.put, Layers.single, Row.denotes]
  | more atom separator rest =>
    have later := Row.layers_plus rest back
    cases separator with
    | plus => simp [Row.append, Row.layers, Layers.put, Layers.whole, later, Set.union_assoc]
    | star => simp [Row.append, Row.layers, Layers.put, later]
    | near distance => simp [Row.append, Row.layers, Layers.put, later]

/-- Behind a star a row adds factors to a product. -/
theorem Row.layers_star (front back : Row) (isProduct : front.isProduct = true) :
    (front.append .star back).layers interpretation =
      ⟨(front.layers interpretation).nearness,
        (front.layers interpretation).factors ∩
          ((back.layers interpretation).nearness ∩ (back.layers interpretation).factors),
        (back.layers interpretation).alternatives⟩ := by
  cases front with
  | last atom => simp [Row.append, Row.layers, Layers.put, Layers.single]
  | more atom separator rest =>
    cases separator with
    | plus => cases isProduct
    | star =>
      have later := Row.layers_star rest back isProduct
      simp [Row.append, Row.layers, Layers.put, later, Set.inter_assoc]
    | near distance =>
      have later := Row.layers_star rest back isProduct
      simp [Row.append, Row.layers, Layers.put, later]

/-- A product has no alternatives. -/
theorem Row.no_alternatives (row : Row) (isProduct : row.isProduct = true) :
    (row.layers interpretation).alternatives = ∅ := by
  cases row with
  | last atom => rfl
  | more atom separator rest =>
    cases separator with
    | plus => cases isProduct
    | star => exact Row.no_alternatives rest isProduct
    | near distance => exact Row.no_alternatives rest isProduct

/-- Two products with a star between them are a product. -/
theorem Row.product_append (front back : Row) :
    (front.append .star back).isProduct = (front.isProduct && back.isProduct) := by
  cases front with
  | last atom => simp [Row.append, Row.isProduct]
  | more atom separator rest =>
    cases separator with
    | plus => simp [Row.append, Row.isProduct]
    | star => simpa [Row.append, Row.isProduct] using Row.product_append rest back
    | near distance => simpa [Row.append, Row.isProduct] using Row.product_append rest back

/-- Joined products are a product. -/
theorem Row.product_joined (first : Row) (others : List Row)
    (products : ∀ row ∈ first :: others, row.isProduct = true) :
    (Row.joined .and first others).isProduct = true := by
  induction others generalizing first with
  | nil => exact products first (by simp)
  | cons second rest inductionHypothesis =>
    obtain ⟨ofFirst, ofOthers⟩ := List.forall_mem_cons.mp products
    rw [Row.joined, Connective.separator, Row.product_append, ofFirst,
      inductionHypothesis second ofOthers]
    rfl

/-- Rows denote with a sign between them what the set operator does with their sets, if a star
stands between products only. -/
theorem Row.denotes_append (connective : Connective) (front back : Row)
    (products : connective = .and → front.isProduct = true ∧ back.isProduct = true) :
    (front.append connective.separator back).denotes interpretation =
      connective.combine (front.denotes interpretation) (back.denotes interpretation) := by
  cases connective with
  | or =>
    rw [Row.denotes, Connective.separator, Row.layers_plus]
    exact (Set.union_assoc _ _ _).symm
  | and =>
    obtain ⟨ofFront, ofBack⟩ := products rfl
    rw [Row.denotes, Connective.separator, Row.layers_star front back ofFront]
    simp only [Layers.whole, Row.denotes, Connective.combine, Row.no_alternatives front ofFront,
      Row.no_alternatives back ofBack, Set.union_empty, Set.inter_assoc]

end Layout

open Expr Layout

universe u

variable {α : Type u} {interpretation : Interpretation α}

/-- Joined rows of operands denote what the operands denote under the set operator. -/
theorem denotes_joined_rows (connective : Connective) (rowOf : Expr → Row) {first : Expr}
    {others : List Expr}
    (each : ∀ operand ∈ first :: others,
      (rowOf operand).denotes interpretation = operand.denotes interpretation)
    (products : connective = .and → ∀ operand ∈ first :: others, (rowOf operand).isProduct = true) :
    (Row.joined connective (rowOf first) (others.map rowOf)).denotes interpretation =
      denotesAll interpretation connective (first :: others) := by
  induction others generalizing first with
  | nil => simpa [Row.joined, denotesAll] using each
  | cons second rest inductionHypothesis =>
    obtain ⟨ofFirst, ofOthers⟩ := List.forall_mem_cons.mp each
    have later := inductionHypothesis ofOthers
      (fun isAnd operand inside => products isAnd operand (List.mem_cons_of_mem _ inside))
    rw [List.map_cons, Row.joined, Row.denotes_append, ofFirst, later,
      denotesAll_cons connective first]
    rintro rfl
    obtain ⟨productFirst, productOthers⟩ := List.forall_mem_cons.mp (products rfl)
    refine ⟨productFirst, Row.product_joined _ _ ?_⟩
    rw [← List.map_cons, List.forall_mem_map]
    exact productOthers

/-- An operand of a set operator as a row denotes the same, and is a product in an intersection. -/
theorem factorRow_denotes (connective : Connective) {operand : Expr} {row : Row}
    (product : operand.isUnion = false → row.isProduct = true) :
    (factorRow connective operand row).denotes interpretation = row.denotes interpretation ∧
      (connective = .and → (factorRow connective operand row).isProduct = true) := by
  unfold factorRow
  split
  · exact ⟨by simp, fun _ => rfl⟩
  · next bare =>
    refine ⟨rfl, ?_⟩
    rintro rfl
    exact product (by simpa using bare)

/-- An operand of nearness as a row denotes the same. -/
theorem operandRow_denotes (operand : Expr) (row : Row) :
    (operandRow operand row).denotes interpretation = row.denotes interpretation := by
  unfold operandRow
  split
  · rfl
  · simp

/-- The row of a set operator denotes what the operator denotes, and is a product in an intersection,
if the rows of its operands denote the operands and are products unless they are unions. -/
theorem logical_row_denotes (connective : Connective) {first : Expr} {others : List Expr}
    (each : ∀ operand ∈ first :: others,
      (operand.row id).denotes interpretation = operand.denotes interpretation ∧
        (operand.isUnion = false → (operand.row id).isProduct = true)) :
    ((Expr.logical connective first others).row id).denotes interpretation =
        (Expr.logical connective first others).denotes interpretation ∧
      (connective = .and → ((Expr.logical connective first others).row id).isProduct = true) := by
  have ofFactor : ∀ operand ∈ first :: others,
      (factorRow connective operand (operand.row id)).denotes interpretation =
          operand.denotes interpretation ∧
        (connective = .and → (factorRow connective operand (operand.row id)).isProduct = true) := by
    intro operand inside
    obtain ⟨same, product⟩ := each operand inside
    obtain ⟨sameFactor, isProduct⟩ := factorRow_denotes connective product
    exact ⟨sameFactor.trans same, isProduct⟩
  have whole := denotes_joined_rows connective
    (fun operand => factorRow connective operand (operand.row id))
    (fun operand inside => (ofFactor operand inside).1)
    (fun isAnd operand inside => (ofFactor operand inside).2 isAnd)
  rw [row, rowsOfAll_eq, whole]
  refine ⟨by rw [denotesAll_cons, denotes], ?_⟩
  rintro rfl
  apply Row.product_joined
  rw [← List.map_cons (f := fun operand => factorRow .and operand (operand.row id)),
    List.forall_mem_map]
  exact fun operand inside => (ofFactor operand inside).2 rfl

/-- The row of a tree of plain words denotes what the tree denotes, and is a product unless the tree
is a union. -/
theorem IsPlainTree.row_denotes {tree : Expr} (plainTree : IsPlainTree tree) :
    (tree.row id).denotes interpretation = tree.denotes interpretation ∧
      (tree.isUnion = false → (tree.row id).isProduct = true) := by
  induction plainTree with
  | word plain => exact ⟨by simp [row, Atom.denotes, denotes], fun _ => rfl⟩
  | reference isNamed => exact isNamed.elim
  | @logical connective first second others operands inductionHypothesis =>
    obtain ⟨same, isProduct⟩ := logical_row_denotes connective inductionHypothesis
    refine ⟨same, fun noUnion => isProduct ?_⟩
    cases connective with
    | or => cases noUnion
    | and => rfl
  | @proximity distance left right ofLeft ofRight leftHypothesis rightHypothesis =>
    obtain ⟨leftAtom, isLeft⟩ := operandRow_atom ofLeft id
    obtain ⟨rightAtom, isRight⟩ := operandRow_atom ofRight id
    have ofLeftAtom := (operandRow_denotes left (left.row id)).trans leftHypothesis.1
    have ofRightAtom := (operandRow_denotes right (right.row id)).trans rightHypothesis.1
    rw [isLeft, Row.denotes_last] at ofLeftAtom
    rw [isRight, Row.denotes_last] at ofRightAtom
    rw [row, isLeft, isRight]
    refine ⟨?_, fun _ => rfl⟩
    simp [Row.append, Row.denotes, Row.layers, Layers.put, Layers.single, Layers.whole, denotes,
      ofLeftAtom, ofRightAtom]
  | @simultaneous count first second third ofFirst ofSecond ofThird firstHypothesis secondHypothesis
      thirdHypothesis =>
    refine ⟨?_, fun _ => rfl⟩
    have each : ∀ operand : Expr, ((operandRow operand (operand.row id)).layers interpretation).whole =
        ((operand.row id).layers interpretation).whole :=
      fun operand => operandRow_denotes operand (operand.row id)
    simp only [Row.denotes] at firstHypothesis secondHypothesis thirdHypothesis
    rw [row, Row.denotes_last, Atom.denotes, each, each, each, firstHypothesis.1,
      secondHypothesis.1, thirdHypothesis.1, denotes]

/-- Trees of plain words with the same logical form denote the same. -/
theorem IsPlainTree.denotes_eq_of_text {left right : Expr} (plainTree : IsPlainTree left)
    (plainRight : IsPlainTree right) (same : left.text = right.text) :
    left.denotes interpretation = right.denotes interpretation := by
  have sameText : (left.row id).text = (right.row id).text := by
    rw [text_row, text_row]
    exact same
  have sameRow : left.row id = right.row id :=
    Row.eq_of_text plainTree.proper plainRight.proper sameText
  rw [← plainTree.row_denotes.1, sameRow, plainRight.row_denotes.1]

end PriorArt
