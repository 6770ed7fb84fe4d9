import PriorArt.Expr.Basic

/-!
# Flat expressions

Written forms do not show how a chain of one set operator is nested, nor an operator with a single
operand. Flattening removes both: an operator with a single operand becomes that operand, and the
operands of an operator under the same operator take its place. Two expressions that are flattened
to the same tree are read alike.

A flattened expression is determined by its operands under either set operator, where an
expression with another top operator is its own only operand. So equations between flattened
expressions are proved as equations between lists of operands, in which chains are appended.
-/

namespace PriorArt.Expr

/-- The operands of an expression under a set operator, the first one apart. An expression that is
not built by that operator is its own only operand. -/
def operands (connective : Connective) : Expr → Expr × List Expr
  | logical other first others =>
    if other = connective then (first, others) else (logical other first others, [])
  | expr => (expr, [])

/-- The operands of an expression under a set operator as one list. -/
def operandList (connective : Connective) (expr : Expr) : List Expr :=
  (expr.operands connective).1 :: (expr.operands connective).2

mutual

/-- The expression without operators that have a single operand, and with the operands of each
operator in the place of an operand that the same operator builds. -/
def flatten : Expr → Expr
  | word text => word text
  | reference id => reference id
  | logical connective first others =>
    join connective ((flatten first).operands connective).1
      (((flatten first).operands connective).2 ++ flattenAll connective others)
  | proximity distance left right => proximity distance (flatten left) (flatten right)
  | simultaneous count first second third =>
    simultaneous count (flatten first) (flatten second) (flatten third)

/-- The operands under a set operator of several expressions that are flattened. -/
def flattenAll (connective : Connective) : List Expr → List Expr
  | [] => []
  | expr :: exprs => operandList connective (flatten expr) ++ flattenAll connective exprs

end

/-- The operands of two lists of flattened expressions are those of the one and then those of the
other. -/
theorem flattenAll_append (connective : Connective) (front back : List Expr) :
    flattenAll connective (front ++ back) =
      flattenAll connective front ++ flattenAll connective back := by
  induction front with
  | nil => rfl
  | cons expr others inductionHypothesis =>
    rw [List.cons_append, flattenAll, flattenAll, inductionHypothesis, List.append_assoc]

/-- An operator at the top has more than one operand. -/
def HasNoLoneOperand (expr : Expr) : Prop :=
  ∀ connective first others, expr = logical connective first others → others ≠ []

/-- Joined expressions have no lone operand, if a single one that is joined has none. -/
theorem join_no_lone (connective : Connective) (first : Expr) (others : List Expr)
    (alone : others = [] → HasNoLoneOperand first) :
    HasNoLoneOperand (join connective first others) := by
  cases others with
  | nil => exact alone rfl
  | cons second rest =>
    rintro other first' others' same
    simp only [join, logical.injEq] at same
    simp [← same.2.2]

/-- Where no operand is lone, an expression with one operand under an operator is that operand. -/
theorem operands_alone {connective : Connective} {expr : Expr} (proper : HasNoLoneOperand expr)
    (alone : (expr.operands connective).2 = []) : (expr.operands connective).1 = expr := by
  unfold operands at alone ⊢
  split
  · next other first others =>
    split
    · next same =>
      simp only [same, ↓reduceIte] at alone
      exact absurd alone (proper other first others rfl)
    · rfl
  · rfl

/-- Joining the operands of an expression gives it back, where no operand is lone. -/
theorem join_operands {expr : Expr} (proper : HasNoLoneOperand expr) (connective : Connective) :
    join connective (expr.operands connective).1 (expr.operands connective).2 = expr := by
  unfold operands
  split
  · next other first others =>
    split
    · next same =>
      cases others with
      | nil => exact absurd rfl (proper other first [] rfl)
      | cons second rest => simp [join, same]
    · rfl
  · rfl

/-- Joined expressions are the operands of their join, if a single one that is joined is its own
only operand. -/
theorem operandList_join (connective : Connective) (first : Expr) (others : List Expr)
    (alone : others = [] → operandList connective first = [first]) :
    operandList connective (join connective first others) = first :: others := by
  cases others with
  | nil => exact alone rfl
  | cons second rest => simp [operandList, join, operands]

/-- No operand is lone in a flattened expression. -/
theorem flatten_no_lone (expr : Expr) : HasNoLoneOperand expr.flatten := by
  cases expr with
  | logical connective first others =>
    have inner : HasNoLoneOperand first.flatten := flatten_no_lone first
    apply join_no_lone
    intro alone
    have aloneFirst : (first.flatten.operands connective).2 = [] :=
      (List.append_eq_nil_iff.mp alone).1
    rw [operands_alone inner aloneFirst]
    exact inner
  | word text => simp [flatten, HasNoLoneOperand]
  | reference id => simp [flatten, HasNoLoneOperand]
  | proximity distance left right => simp [flatten, HasNoLoneOperand]
  | simultaneous count first second third => simp [flatten, HasNoLoneOperand]

/-- The operands of a flattened operator are those of its flattened operands, in order. -/
theorem operandList_flatten_logical (connective : Connective) (first : Expr)
    (others : List Expr) :
    operandList connective (logical connective first others).flatten =
      operandList connective first.flatten ++ flattenAll connective others := by
  rw [flatten, operandList_join]
  · rfl
  · intro alone
    have aloneFirst : (first.flatten.operands connective).2 = [] :=
      (List.append_eq_nil_iff.mp alone).1
    rw [operands_alone (flatten_no_lone first) aloneFirst, operandList, aloneFirst,
      operands_alone (flatten_no_lone first) aloneFirst]

/-- Flattened expressions with the same operands under a set operator are the same. -/
theorem flatten_eq_of_operandList {left right : Expr} (connective : Connective)
    (same : operandList connective left.flatten = operandList connective right.flatten) :
    left.flatten = right.flatten := by
  obtain ⟨sameFirst, sameOthers⟩ := List.cons.inj same
  rw [← join_operands (flatten_no_lone left) connective, sameFirst, sameOthers,
    join_operands (flatten_no_lone right) connective]

/-- The operands of joined expressions that are flattened. -/
theorem operandList_flatten_join (connective : Connective) (first : Expr) (others : List Expr) :
    operandList connective (join connective first others).flatten =
      operandList connective first.flatten ++ flattenAll connective others := by
  cases others with
  | nil => simp [join, flattenAll]
  | cons second rest => exact operandList_flatten_logical connective first (second :: rest)

/-- An operator over a single operand is flattened like the operand. -/
theorem flatten_alone (connective : Connective) (operand : Expr) :
    (logical connective operand []).flatten = operand.flatten := by
  apply flatten_eq_of_operandList connective
  simp [operandList_flatten_logical, flattenAll]

/-- An operator with several operands has several when it is flattened. -/
theorem flatten_several (connective : Connective) (first second : Expr) (others : List Expr) :
    ∃ head next rest, (logical connective first (second :: others)).flatten =
      logical connective head (next :: rest) := by
  rw [flatten, flattenAll, operandList]
  cases split : (first.flatten.operands connective).2 with
  | nil => exact ⟨_, _, _, rfl⟩
  | cons next rest => exact ⟨_, _, _, rfl⟩

/-- An operator with a single operand shows as a union if the operand does. -/
theorem isUnion_alone (connective : Connective) (operand : Expr) :
    (logical connective operand []).isUnion = operand.isUnion := by
  simp [isUnion, unwrap]

/-- An operator with a single operand is primary if the operand is. -/
theorem isPrimary_alone (connective : Connective) (operand : Expr) :
    (logical connective operand []).isPrimary = operand.isPrimary := by
  simp [isPrimary, unwrap]

/-- An operator with several operands shows as what it is. -/
theorem isUnion_several (connective : Connective) (first second : Expr) (others : List Expr) :
    (logical connective first (second :: others)).isUnion = decide (connective = .or) := by
  cases connective <;> rfl

/-- An operator with several operands is not primary. -/
theorem isPrimary_several (connective : Connective) (first second : Expr) (others : List Expr) :
    (logical connective first (second :: others)).isPrimary = false := rfl

/-- Flattening keeps the brackets that an expression needs as an operand. -/
theorem brackets_flatten (expr : Expr) :
    expr.flatten.isUnion = expr.isUnion ∧ expr.flatten.isPrimary = expr.isPrimary := by
  cases expr with
  | logical connective first others =>
    cases others with
    | nil =>
      rw [flatten_alone, isUnion_alone, isPrimary_alone]
      exact brackets_flatten first
    | cons second rest =>
      obtain ⟨head, next, others, same⟩ := flatten_several connective first second rest
      rw [same]
      simp [isUnion_several, isPrimary_several]
  | word text => exact ⟨rfl, rfl⟩
  | reference id => exact ⟨rfl, rfl⟩
  | proximity distance left right => exact ⟨rfl, rfl⟩
  | simultaneous count first second third => exact ⟨rfl, rfl⟩

/-!
## The conjuncts of an expression

The conjuncts of an expression are what its nested intersections put together, in order. They are
its operands under intersection except that unions and nearness are left as they are.
-/

mutual

/-- The operands of the nested intersections at the top of an expression. -/
def conjuncts : Expr → List Expr
  | logical .and first others => conjuncts first ++ conjunctsOfAll others
  | expr => [expr]

/-- The conjuncts of several expressions. -/
def conjunctsOfAll : List Expr → List Expr
  | [] => []
  | expr :: exprs => conjuncts expr ++ conjunctsOfAll exprs

end

/-- The conjuncts of several expressions are those of each of them. -/
theorem conjunctsOfAll_eq (exprs : List Expr) :
    conjunctsOfAll exprs = exprs.flatMap conjuncts := by
  induction exprs with
  | nil => rfl
  | cons expr others inductionHypothesis =>
    rw [conjunctsOfAll, inductionHypothesis, List.flatMap_cons]

/-- The conjuncts of an intersection are those of its operands. -/
theorem conjuncts_and (first : Expr) (others : List Expr) :
    (logical .and first others).conjuncts = (first :: others).flatMap conjuncts := by
  rw [conjuncts, conjunctsOfAll_eq, List.flatMap_cons]

/-- What holds of the conjuncts of every operand holds of the conjuncts of the intersection. -/
theorem mem_conjuncts {first : Expr} {others : List Expr} {conjunct : Expr}
    (inside : conjunct ∈ (logical .and first others).conjuncts) :
    ∃ operand ∈ first :: others, conjunct ∈ operand.conjuncts := by
  rw [conjuncts_and] at inside
  exact List.mem_flatMap.mp inside

mutual

/-- The conjuncts of an expression have its operands under intersection, up to flattening. -/
theorem flattenAll_conjuncts (expr : Expr) :
    flattenAll .and expr.conjuncts = operandList .and expr.flatten := by
  match expr with
  | logical .and first others =>
    have ofFirst : flattenAll .and first.conjuncts = operandList .and first.flatten :=
      flattenAll_conjuncts first
    have ofOthers : flattenAll .and (conjunctsOfAll others) = flattenAll .and others :=
      flattenAll_conjunctsOfAll others
    rw [conjuncts, flattenAll_append, ofFirst, ofOthers, operandList_flatten_logical]
  | logical .or first others => simp [conjuncts, flattenAll]
  | word text => simp [conjuncts, flattenAll]
  | reference id => simp [conjuncts, flattenAll]
  | proximity distance left right => simp [conjuncts, flattenAll]
  | simultaneous count first second third => simp [conjuncts, flattenAll]

/-- The conjuncts of several expressions have the operands of all of them. -/
theorem flattenAll_conjunctsOfAll (exprs : List Expr) :
    flattenAll .and (conjunctsOfAll exprs) = flattenAll .and exprs := by
  match exprs with
  | [] => rfl
  | first :: others =>
    rw [conjunctsOfAll, flattenAll_append, flattenAll, flattenAll_conjuncts first,
      flattenAll_conjunctsOfAll others]

end

/-- The intersection of several expressions, if there are any. -/
def conjunction : List Expr → Option Expr
  | [] => none
  | first :: others => some (logical .and first others)

/-- Expressions with the same operands under intersection have the same intersection, up to
flattening. -/
theorem conjunction_congr {left right : List Expr}
    (same : flattenAll .and left = flattenAll .and right) :
    (conjunction left).map flatten = (conjunction right).map flatten := by
  have filled : ∀ first others, flattenAll .and (first :: others) ≠ [] := by
    intro first others
    simp [flattenAll, operandList]
  cases left with
  | nil =>
    cases right with
    | nil => rfl
    | cons first others => exact absurd same.symm (filled first others)
  | cons first others =>
    cases right with
    | nil => exact absurd same (filled first others)
    | cons first' others' =>
      have flat : (logical .and first others).flatten = (logical .and first' others').flatten := by
        apply flatten_eq_of_operandList .and
        rw [operandList_flatten_logical, operandList_flatten_logical]
        exact same
      simp [conjunction, flat]

end PriorArt.Expr
