import Mathlib.Algebra.BigOperators.Ring.List
import Mathlib.Algebra.Ring.Nat
import PriorArt.Expr.LogicalForm
import PriorArt.Proofs.Expr.Agreement
import PriorArt.Proofs.Expr.Flat
import PriorArt.Proofs.Text.Shortened

/-!
# Unions alone in an intersection

An intersection with a single operand is written as that operand, but in brackets where the operand
is a union. These brackets are the only ones that depend on how a tree is nested and not on what it
says: flattening an expression takes them out of its logical form and changes nothing else there.
-/

namespace PriorArt.Expr

/-- Whether the expression is an intersection whose only operand is a union. -/
def isLoneUnion : Expr → Bool
  | logical .and first [] => first.isUnion
  | _ => false

/-- The number of unions alone in an intersection, at any depth. -/
def loneUnions (expr : Expr) : Nat := expr.subexpressions.countP isLoneUnion

/-- No union is alone in an intersection exactly if none of the parts is such an intersection. -/
theorem loneUnions_eq_zero (expr : Expr) :
    expr.loneUnions = 0 ↔ ∀ part ∈ expr.subexpressions, part.isLoneUnion = false := by
  simp [loneUnions, List.countP_eq_zero]

@[simp] theorem loneUnions_word (text : Text) : (word text).loneUnions = 0 := rfl

@[simp] theorem loneUnions_reference (id : Text) : (reference id).loneUnions = 0 := rfl

theorem loneUnions_logical (connective : Connective) (first : Expr) (others : List Expr) :
    (logical connective first others).loneUnions =
      ((first :: others).map loneUnions).sum +
        if (logical connective first others).isLoneUnion then 1 else 0 := by
  have each : (others.map loneUnions).sum =
      (others.map (fun operand => operand.subexpressions.countP isLoneUnion)).sum := rfl
  rw [List.map_cons, List.sum_cons, each]
  simp only [loneUnions, subexpressions, subexpressionsOfAll_eq, List.cons_append,
    List.countP_cons, List.countP_append, List.countP_flatMap, Function.comp_def]

@[simp] theorem loneUnions_proximity (distance : Distance) (left right : Expr) :
    (proximity distance left right).loneUnions = left.loneUnions + right.loneUnions := by
  simp [loneUnions, subexpressions, isLoneUnion]

@[simp] theorem loneUnions_simultaneous (count : Nat) (first second third : Expr) :
    (simultaneous count first second third).loneUnions =
      first.loneUnions + second.loneUnions + third.loneUnions := by
  simp [loneUnions, subexpressions, isLoneUnion, Nat.add_assoc]

/-- An operator with several operands leaves none of them alone. -/
@[simp] theorem loneUnions_several (connective : Connective) (first second : Expr)
    (rest : List Expr) :
    (logical connective first (second :: rest)).loneUnions =
      ((first :: second :: rest).map loneUnions).sum := by
  simp [loneUnions_logical, isLoneUnion]

/-- Joining operands leaves none of them alone. -/
@[simp] theorem loneUnions_join (connective : Connective) (first : Expr) (others : List Expr) :
    (join connective first others).loneUnions = ((first :: others).map loneUnions).sum := by
  cases others with
  | nil => simp [join]
  | cons second rest => exact loneUnions_several connective first second rest

/-- The operands of a set operator as it writes them. -/
def operandTexts (connective : Connective) (operands : List Expr) : List Text :=
  operands.map (fun operand => factorText connective operand operand.text)

/-- A set operator is written as its operands with its sign between them. -/
theorem text_logical (connective : Connective) (first : Expr) (others : List Expr) :
    (logical connective first others).text =
      Text.join connective.sign (operandTexts connective (first :: others)) :=
  logicalForm_logical id connective first others

/-- An operator with several operands has no brackets among the operands of the same operator. -/
theorem factorText_several (connective : Connective) (first second : Expr) (rest : List Expr)
    (text : Text) :
    factorText connective (logical connective first (second :: rest)) text = text := by
  rw [factorText, isUnion_several]
  cases connective <;> rfl

/-- The operands of a flattened expression under a set operator, written with its sign between
them, are the expression as it stands among the operands of that operator. -/
theorem join_operandList_flatten (connective : Connective) (expr : Expr) :
    Text.join connective.sign (operandTexts connective (operandList connective expr.flatten)) =
      factorText connective expr expr.flatten.text := by
  have shape (text : Text) : factorText connective expr text =
      factorText connective expr.flatten text := by
    rw [factorText, factorText, (brackets_flatten expr).1]
  have proper : HasNoLoneOperand expr.flatten := flatten_no_lone expr
  rw [shape]
  generalize expr.flatten = flat at proper
  by_cases own : ∃ first others, flat = logical connective first others
  · obtain ⟨first, others, rfl⟩ := own
    obtain ⟨second, rest, rfl⟩ := List.exists_cons_of_ne_nil (proper connective first others rfl)
    have inner : operandList connective (logical connective first (second :: rest)) =
        first :: second :: rest := by simp [operandList, operands]
    rw [inner, factorText_several, text_logical]
  · have alone : operandList connective flat = [flat] := by
      cases flat with
      | logical other first others =>
        have different : other ≠ connective := by
          rintro rfl
          exact own ⟨first, others, rfl⟩
        simp [operandList, operands, different]
      | word text => rfl
      | reference id => rfl
      | proximity distance left right => rfl
      | simultaneous count first second third => rfl
    rw [alone, operandTexts, List.map_singleton, Text.join_single]

/-- The operands of a flattened operator are those of its flattened operands. -/
theorem operandList_flatten_flatMap (connective : Connective) (first : Expr)
    (others : List Expr) :
    operandList connective (logical connective first others).flatten =
      (first :: others).flatMap (fun operand => operandList connective operand.flatten) := by
  have further (exprs : List Expr) : flattenAll connective exprs =
      exprs.flatMap (fun operand => operandList connective operand.flatten) := by
    induction exprs with
    | nil => rfl
    | cons expr rest inductionHypothesis =>
      rw [flattenAll, inductionHypothesis, List.flatMap_cons]
  rw [operandList_flatten_logical, further, List.flatMap_cons]

/-- A flattened operator is written as its flattened operands with its sign between them. -/
theorem text_flatten_several (connective : Connective) (first second : Expr) (rest : List Expr) :
    (logical connective first (second :: rest)).flatten.text =
      Text.join connective.sign ((first :: second :: rest).map
        (fun operand => factorText connective operand operand.flatten.text)) := by
  let groups := (first :: second :: rest).map
    (fun operand => operandTexts connective (operandList connective operand.flatten))
  have filled : ∀ group ∈ groups, group ≠ [] := by
    intro group listed
    obtain ⟨operand, _, rfl⟩ := List.mem_map.mp listed
    simp [operandTexts, operandList]
  have all : operandTexts connective (operandList connective
      (logical connective first (second :: rest)).flatten) = groups.flatten := by
    rw [operandList_flatten_flatMap, operandTexts, List.map_flatMap, List.flatMap_def]
    rfl
  calc (logical connective first (second :: rest)).flatten.text
    _ = Text.join connective.sign groups.flatten := by
      rw [← all, join_operandList_flatten, factorText_several]
    _ = Text.join connective.sign (groups.map (Text.join connective.sign)) :=
      (Text.join_groups filled).symm
    _ = _ := by
      rw [List.map_map]
      exact congrArg _ (List.map_congr_left
        (fun operand _ => join_operandList_flatten connective operand))

section Pieces

variable {first first' second second' third third' : Text} {ofFirst ofSecond ofThird : Nat}

/-- What is left out of two texts with a distance between them. -/
theorem proximity_shortens (distance : Distance)
    (shortFirst : Text.ShortensBy first first' ofFirst)
    (shortSecond : Text.ShortensBy second second' ofSecond) :
    Text.ShortensBy (first ++ ',' :: distance.text ++ ',' :: second)
      (first' ++ ',' :: distance.text ++ ',' :: second') (ofFirst + ofSecond) :=
  (shortFirst.append ((Text.ShortensBy.refl distance.text).cons ',')).append
    (shortSecond.cons ',')

/-- What is left out of three texts in a brace. -/
theorem braced_shortens (count : Nat) (shortFirst : Text.ShortensBy first first' ofFirst)
    (shortSecond : Text.ShortensBy second second' ofSecond)
    (shortThird : Text.ShortensBy third third' ofThird) :
    Text.ShortensBy (bracedText first second third count) (bracedText first' second' third' count)
      (ofFirst + ofSecond + ofThird) :=
  ((((shortFirst.cons '{').append (shortSecond.cons ',')).append (shortThird.cons ',')).append
    (.refl ('}' :: ',' :: decimal count))).append (.refl ['n'])

end Pieces

/-- What is left out of an operand of nearness. -/
theorem operand_shortens {expr : Expr} {number : Nat}
    (shortened : Text.ShortensBy expr.flatten.text expr.text number) :
    Text.ShortensBy (operandText expr.flatten expr.flatten.text) (operandText expr expr.text)
      number := by
  rw [operandText, operandText, (brackets_flatten expr).2]
  split
  · exact shortened
  · exact shortened.parenthesized

/-- What is left out of an operand of a set operator. -/
theorem factor_shortens (connective : Connective) {expr : Expr} {number : Nat}
    (shortened : Text.ShortensBy expr.flatten.text expr.text number) :
    Text.ShortensBy (factorText connective expr expr.flatten.text)
      (factorText connective expr expr.text) number := by
  rw [factorText, factorText]
  split
  · exact shortened.parenthesized
  · exact shortened

mutual

/-- Flattening leaves out two characters of the logical form for every union alone in an
intersection, and nothing else. The induction follows the expression; an operator with a single
operand is the case in which brackets are left out. -/
theorem flatten_shortens (expr : Expr) :
    Text.ShortensBy expr.flatten.text expr.text (2 * expr.loneUnions) := by
  cases expr with
  | word text => exact .refl text
  | reference id => exact .refl id
  | logical connective first others =>
    have inner := flatten_shortens first
    cases others with
    | nil =>
      rw [flatten_alone, text_logical, operandTexts, List.map_singleton, Text.join_single,
        factorText, loneUnions_logical]
      cases enclosed : connective = .and && first.isUnion with
      | true =>
        obtain ⟨rfl, union⟩ : connective = .and ∧ first.isUnion = true := by simpa using enclosed
        simpa [isLoneUnion, union, Nat.mul_add] using inner.opened
      | false =>
        have none : (logical connective first []).isLoneUnion = false := by
          cases connective with
          | or => rfl
          | and => simpa [isLoneUnion] using enclosed
        simpa [none] using inner
    | cons second rest =>
      have each : ∀ operand ∈ first :: second :: rest, Text.ShortensBy operand.flatten.text
          operand.text (2 * operand.loneUnions) :=
        List.forall_mem_cons.mpr ⟨inner, flatten_shortens_all (second :: rest)⟩
      rw [text_flatten_several, text_logical, loneUnions_several,
        ← List.sum_map_mul_left (first :: second :: rest) loneUnions 2]
      exact Text.ShortensBy.join connective.sign
        (fun operand listed => factor_shortens connective (each operand listed))
  | proximity distance left right =>
    rw [loneUnions_proximity, Nat.mul_add]
    exact proximity_shortens distance (operand_shortens (flatten_shortens left))
      (operand_shortens (flatten_shortens right))
  | simultaneous count first second third =>
    rw [loneUnions_simultaneous, Nat.mul_add, Nat.mul_add]
    exact braced_shortens count (operand_shortens (flatten_shortens first))
      (operand_shortens (flatten_shortens second)) (operand_shortens (flatten_shortens third))

/-- What flattening leaves out of several expressions. -/
theorem flatten_shortens_all (exprs : List Expr) :
    ∀ expr ∈ exprs, Text.ShortensBy expr.flatten.text expr.text (2 * expr.loneUnions) := by
  cases exprs with
  | nil => simp
  | cons first others =>
    exact List.forall_mem_cons.mpr ⟨flatten_shortens first, flatten_shortens_all others⟩

end

end PriorArt.Expr
