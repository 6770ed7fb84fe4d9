import Mathlib.Data.Set.Basic
import PriorArt.Proofs.Expr.Flat
import PriorArt.Query.Factor

/-!
# What expressions denote

Under an interpretation an expression denotes a set, say of documents. Words denote any sets, a union
and an intersection denote those of the sets of their operands, and what nearness does with the sets
of its operands is left open, for each distance. A span denotes a set that depends on its codes alone.

Flattening keeps what an expression denotes, since union and intersection are associative.
-/

namespace PriorArt

universe u

/-- The sets that words, references and spans of codes denote, and what the two kinds of nearness do
with the sets of their operands. -/
structure Interpretation (α : Type u) where
  word : Text → Set α
  reference : Text → Set α
  near : Distance → Set α → Set α → Set α
  together : Nat → Set α → Set α → Set α → Set α
  codes : Set Text → Set α

variable {α : Type u}

/-- What a set operator does with two sets. -/
def Connective.combine : Connective → Set α → Set α → Set α
  | .or, left, right => left ∪ right
  | .and, left, right => left ∩ right

/-- What a set operator without operands denotes. -/
def Connective.neutral : Connective → Set α
  | .or => ∅
  | .and => Set.univ

/-- A set operator combines sets in any grouping. -/
theorem Connective.combine_assoc (connective : Connective) (first second third : Set α) :
    connective.combine (connective.combine first second) third =
      connective.combine first (connective.combine second third) := by
  cases connective with
  | or => exact Set.union_assoc first second third
  | and => exact Set.inter_assoc first second third

/-- The neutral set of an operator adds nothing in front. -/
@[simp] theorem Connective.neutral_combine (connective : Connective) (set : Set α) :
    connective.combine connective.neutral set = set := by
  cases connective with
  | or => exact Set.empty_union set
  | and => exact Set.univ_inter set

/-- The neutral set of an operator adds nothing behind. -/
@[simp] theorem Connective.combine_neutral (connective : Connective) (set : Set α) :
    connective.combine set connective.neutral = set := by
  cases connective with
  | or => exact Set.union_empty set
  | and => exact Set.inter_univ set

namespace Expr

mutual

/-- The set that an expression denotes. -/
def denotes (interpretation : Interpretation α) : Expr → Set α
  | word text => interpretation.word text
  | reference id => interpretation.reference id
  | logical connective first others =>
    connective.combine (denotes interpretation first)
      (denotesAll interpretation connective others)
  | proximity distance left right =>
    interpretation.near distance (denotes interpretation left) (denotes interpretation right)
  | simultaneous count first second third =>
    interpretation.together count (denotes interpretation first) (denotes interpretation second)
      (denotes interpretation third)

/-- The set that several expressions denote under a set operator. -/
def denotesAll (interpretation : Interpretation α) (connective : Connective) : List Expr → Set α
  | [] => connective.neutral
  | expr :: exprs =>
    connective.combine (denotes interpretation expr) (denotesAll interpretation connective exprs)

end

variable {interpretation : Interpretation α}

/-- Several expressions denote what the first one and the others do together. -/
theorem denotesAll_cons (connective : Connective) (first : Expr) (others : List Expr) :
    denotesAll interpretation connective (first :: others) =
      connective.combine (first.denotes interpretation)
        (denotesAll interpretation connective others) := by
  rw [denotesAll]

/-- The operands of two lists denote what those of the one and those of the other do together. -/
theorem denotesAll_append (connective : Connective) (front back : List Expr) :
    denotesAll interpretation connective (front ++ back) =
      connective.combine (denotesAll interpretation connective front)
        (denotesAll interpretation connective back) := by
  induction front with
  | nil => simp [denotesAll]
  | cons expr others inductionHypothesis =>
    rw [List.cons_append, denotesAll_cons, inductionHypothesis, denotesAll_cons,
      Connective.combine_assoc]

/-- The operands of an expression denote together what it denotes. -/
theorem denotesAll_operandList (connective : Connective) (expr : Expr) :
    denotesAll interpretation connective (operandList connective expr) =
      expr.denotes interpretation := by
  unfold operandList operands
  split
  · next other first others =>
    split
    · next same => rw [same, denotesAll_cons, denotes]
    · simp [denotesAll]
  · simp [denotesAll]

/-- Joined operands denote what they denote together. -/
theorem denotes_join (connective : Connective) (first : Expr) (others : List Expr) :
    (join connective first others).denotes interpretation =
      denotesAll interpretation connective (first :: others) := by
  cases others with
  | nil => simp [join, denotesAll]
  | cons second rest => rw [join, denotes, ← denotesAll_cons]

mutual

/-- A flattened expression denotes what the expression denotes. -/
theorem denotes_flatten (expr : Expr) :
    expr.flatten.denotes interpretation = expr.denotes interpretation := by
  cases expr with
  | word text => rfl
  | reference id => rfl
  | logical connective first others =>
    rw [flatten, denotes_join, ← List.cons_append,
      show ((flatten first).operands connective).1 :: ((flatten first).operands connective).2 =
        operandList connective first.flatten from rfl,
      denotesAll_append, denotesAll_operandList, denotes_flatten first,
      denotesAll_flattenAll connective others, denotes]
  | proximity distance left right =>
    rw [flatten, denotes, denotes_flatten left, denotes_flatten right, denotes]
  | simultaneous count first second third =>
    rw [flatten, denotes, denotes_flatten first, denotes_flatten second, denotes_flatten third,
      denotes]

/-- The operands of several flattened expressions denote together what these denote. -/
theorem denotesAll_flattenAll (connective : Connective) (exprs : List Expr) :
    denotesAll interpretation connective (flattenAll connective exprs) =
      denotesAll interpretation connective exprs := by
  cases exprs with
  | nil => rfl
  | cons expr others =>
    rw [flattenAll, denotesAll_append, denotesAll_operandList, denotes_flatten expr,
      denotesAll_flattenAll connective others, denotesAll_cons]

end

/-- What several expressions denote in an intersection, point by point. -/
theorem mem_denotesAll_and {exprs : List Expr} {point : α} :
    point ∈ denotesAll interpretation .and exprs ↔
      ∀ expr ∈ exprs, point ∈ expr.denotes interpretation := by
  induction exprs with
  | nil => simp [denotesAll, Connective.neutral]
  | cons expr others inductionHypothesis =>
    simp [denotesAll, Connective.combine, inductionHypothesis]

/-- What several expressions denote in a union, point by point. -/
theorem mem_denotesAll_or {exprs : List Expr} {point : α} :
    point ∈ denotesAll interpretation .or exprs ↔
      ∃ expr ∈ exprs, point ∈ expr.denotes interpretation := by
  induction exprs with
  | nil => simp [denotesAll, Connective.neutral]
  | cons expr others inductionHypothesis =>
    simp [denotesAll, Connective.combine, inductionHypothesis]

end Expr

/-- The set that a factor denotes. The fields of a span do not count. -/
def Factor.denotes (interpretation : Interpretation α) : Factor → Set α
  | words expr => expr.denotes interpretation
  | codes span => interpretation.codes {code | code ∈ span.codes}

/-- The set that a query denotes: what all of its factors have in common. -/
def Query.denotes (interpretation : Interpretation α) (factors : List Factor) : Set α :=
  {point | ∀ factor ∈ factors, point ∈ factor.denotes interpretation}

end PriorArt
