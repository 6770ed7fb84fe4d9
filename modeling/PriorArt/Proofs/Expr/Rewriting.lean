import Mathlib.Data.List.Forall2
import PriorArt.Proofs.Expr.Agreement

/-!
# Expressions that are rewritten in part

A rule rewrites parts of an expression, at any depth and at any number of places. The result is read
like the expression if every part is read like what takes its place: a part has to have the same parts
of a query and the same logical form, and it has to bind as tightly, because an operator above it may be
written as its logical form and then decides on brackets.
-/

namespace PriorArt.Expr

/-- Parts of an expression, of which none is inside another, are rewritten by a rule. -/
inductive Rewrites (rule : Expr → Expr → Prop) : Expr → Expr → Prop where
  | kept (expr : Expr) : Rewrites rule expr expr
  | replaced {expr other : Expr} (applies : rule expr other) : Rewrites rule expr other
  | logical (connective : Connective) {first first' : Expr} {others others' : List Expr}
      (ofFirst : Rewrites rule first first')
      (ofOthers : List.Forall₂ (Rewrites rule) others others') :
      Rewrites rule (.logical connective first others) (.logical connective first' others')
  | proximity (distance : Distance) {left left' right right' : Expr}
      (ofLeft : Rewrites rule left left') (ofRight : Rewrites rule right right') :
      Rewrites rule (.proximity distance left right) (.proximity distance left' right')
  | simultaneous (count : Nat) {first first' second second' third third' : Expr}
      (ofFirst : Rewrites rule first first') (ofSecond : Rewrites rule second second')
      (ofThird : Rewrites rule third third') :
      Rewrites rule (.simultaneous count first second third)
        (.simultaneous count first' second' third')

/-- Two expressions have the same parts and the same logical form, and bind as tightly. -/
structure ReadsAlike (meaning : Meaning) (left right : Expr) : Prop where
  parts : left.partsWith meaning = right.partsWith meaning
  form : left.logicalForm meaning.name = right.logicalForm meaning.name
  union : left.isUnion = right.isUnion
  primary : left.isPrimary = right.isPrimary

variable {meaning : Meaning}

namespace ReadsAlike

/-- An expression is read like itself. -/
theorem refl (expr : Expr) : ReadsAlike meaning expr expr := ⟨rfl, rfl, rfl, rfl⟩

/-- What expressions have in common that are read alike, lists of them have in common. -/
theorem map_eq {α : Type} {value : Expr → α}
    (same : ∀ {left right}, ReadsAlike meaning left right → value left = value right)
    {lefts rights : List Expr} (each : List.Forall₂ (ReadsAlike meaning) lefts rights) :
    lefts.map value = rights.map value := by
  induction each with
  | nil => rfl
  | cons alike _ inductionHypothesis =>
    rw [List.map_cons, List.map_cons, same alike, inductionHypothesis]

/-- Set operators over operands that are read alike are read alike. -/
theorem logical (connective : Connective) {first first' : Expr} {others others' : List Expr}
    (ofFirst : ReadsAlike meaning first first')
    (ofOthers : List.Forall₂ (ReadsAlike meaning) others others') :
    ReadsAlike meaning (.logical connective first others)
      (.logical connective first' others') := by
  have sameParts := map_eq (fun alike => alike.parts) (.cons ofFirst ofOthers)
  have sameForm : Expr.logicalForm meaning.name (.logical connective first others) =
      Expr.logicalForm meaning.name (.logical connective first' others') := by
    rw [logicalForm_logical, logicalForm_logical]
    refine congrArg _ (map_eq (fun alike => ?_) (.cons ofFirst ofOthers))
    rw [factorText, factorText, alike.union, alike.form]
  refine ⟨?_, sameForm, ?_, ?_⟩
  · cases connective with
    | and =>
      change productParts meaning (first :: others) = productParts meaning (first' :: others')
      rw [productParts_eq, productParts_eq, sameParts]
    | or =>
      rw [partsWith, partsWith, verbatim, verbatim, sameForm, eachParts_eq, eachParts_eq,
        ← List.map_cons, ← List.map_cons, sameParts]
  · cases ofOthers with
    | nil => simpa [isUnion, unwrap] using ofFirst.union
    | cons _ _ => cases connective <;> simp [isUnion, unwrap]
  · cases ofOthers with
    | nil => simpa [isPrimary, unwrap] using ofFirst.primary
    | cons _ _ => simp [isPrimary, unwrap]

/-- Nearnesses of operands that are read alike are read alike. -/
theorem proximity (distance : Distance) {left left' right right' : Expr}
    (ofLeft : ReadsAlike meaning left left') (ofRight : ReadsAlike meaning right right') :
    ReadsAlike meaning (.proximity distance left right) (.proximity distance left' right') := by
  have sameForm : Expr.logicalForm meaning.name (.proximity distance left right) =
      Expr.logicalForm meaning.name (.proximity distance left' right') := by
    simp only [Expr.logicalForm, operandText, ofLeft.form, ofLeft.primary, ofRight.form,
      ofRight.primary]
  refine ⟨?_, sameForm, rfl, rfl⟩
  rw [partsWith, partsWith, verbatim, verbatim, sameForm, ofLeft.parts, ofRight.parts]

/-- Nearnesses of three operands that are read alike are read alike. -/
theorem simultaneous (count : Nat) {first first' second second' third third' : Expr}
    (ofFirst : ReadsAlike meaning first first') (ofSecond : ReadsAlike meaning second second')
    (ofThird : ReadsAlike meaning third third') :
    ReadsAlike meaning (.simultaneous count first second third)
      (.simultaneous count first' second' third') := by
  have sameForm : Expr.logicalForm meaning.name (.simultaneous count first second third) =
      Expr.logicalForm meaning.name (.simultaneous count first' second' third') := by
    simp only [Expr.logicalForm, operandText, ofFirst.form, ofFirst.primary, ofSecond.form,
      ofSecond.primary, ofThird.form, ofThird.primary]
  refine ⟨?_, sameForm, rfl, rfl⟩
  rw [partsWith, partsWith, verbatim, verbatim, sameForm, ofFirst.parts, ofSecond.parts,
    ofThird.parts]

end ReadsAlike

variable {rule : Expr → Expr → Prop}

-- The recursion is on the rewriting, also of the operands in a list, which a rewriting of their
-- operator holds inside another relation.
mutual

/-- A rewritten expression is read like the expression, if that holds of the parts that the rule
rewrites. -/
theorem Rewrites.reads_alike
    (ofRule : ∀ {expr other}, rule expr other → ReadsAlike meaning expr other) {expr other : Expr}
    (rewrites : Rewrites rule expr other) : ReadsAlike meaning expr other :=
  match rewrites with
  | .kept expr => .refl expr
  | .replaced applies => ofRule applies
  | .logical connective ofFirst ofOthers =>
    .logical connective (ofFirst.reads_alike ofRule) (rewrites_each_alike ofRule ofOthers)
  | .proximity distance ofLeft ofRight =>
    .proximity distance (ofLeft.reads_alike ofRule) (ofRight.reads_alike ofRule)
  | .simultaneous count ofFirst ofSecond ofThird =>
    .simultaneous count (ofFirst.reads_alike ofRule) (ofSecond.reads_alike ofRule)
      (ofThird.reads_alike ofRule)

/-- Rewritten operands are read like the operands. -/
theorem rewrites_each_alike
    (ofRule : ∀ {expr other}, rule expr other → ReadsAlike meaning expr other)
    {exprs others : List Expr} (rewrites : List.Forall₂ (Rewrites rule) exprs others) :
    List.Forall₂ (ReadsAlike meaning) exprs others :=
  match rewrites with
  | .nil => .nil
  | .cons first rest => .cons (first.reads_alike ofRule) (rewrites_each_alike ofRule rest)

end

end PriorArt.Expr
