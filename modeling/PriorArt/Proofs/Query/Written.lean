import Mathlib.Data.List.Forall2
import PriorArt.Meaning
import PriorArt.Proofs.Query.Says

/-!
# Written factors

The texts that stand for expressions inside a query have no enclosing brackets, and brackets are
added where they are put together. A text that writes an expression says it inside brackets, and
says it as a product where it has been enclosed as far as its marks require. A text that writes a
single factor can moreover take a field there.

Each way of putting texts together preserves this: unions, products, nearness and braces of
written expressions are written.
-/

namespace PriorArt

open Brackets Expr Phrase

/-- A text that writes an expression as one factor. -/
structure WritesFactor (text : Text) (expr : Expr) : Prop where
  tidy : IsTidy text
  filled : text ≠ []
  bare : interior? text = none
  inside : SaysInside text expr
  enclosed : SaysOpen (regroup text) expr

/-- A text that writes an expression as a product of factors, possibly a single one. -/
structure Writes (text : Text) (expr : Expr) : Prop where
  tidy : IsTidy text
  filled : text ≠ []
  bare : interior? text = none
  inside : SaysInside text expr
  product : SaysProduct (regroup text) (operandList .and expr.flatten)
  fielded : SaysProduct (regroup text ++ Field.text.suffix.toList) (operandList .and expr.flatten)

/-- A factor is a product of one factor. -/
theorem WritesFactor.writes {text : Text} {expr : Expr} (written : WritesFactor text expr) :
    Writes text expr where
  tidy := written.tidy
  filled := written.filled
  bare := written.bare
  inside := written.inside
  product := written.enclosed.atom.union.product
  fielded := written.enclosed.fielded.union.product

/-- Enclosing a text without enclosing brackets depends on its marks alone. -/
theorem regroup_bare {text : Text} (tidy : IsTidy text) (bare : interior? text = none) :
    regroup text = groupIfCompound text := by
  rw [regroup, strip_bare tidy.solid bare]

/-- A tidy text is still tidy when it is enclosed. -/
theorem IsTidy.regroup {text : Text} (tidy : IsTidy text) (bare : interior? text = none) :
    IsTidy (regroup text) := by
  rw [regroup_bare tidy bare, groupIfCompound]
  split
  · exact tidy.enclosed rfl
  · exact tidy

/-- An enclosed text has characters if the text has. -/
theorem regroup_filled {text : Text} (tidy : IsTidy text) (bare : interior? text = none)
    (filled : text ≠ []) : regroup text ≠ [] := by
  rw [regroup_bare tidy bare, groupIfCompound]
  split
  · simp [parenthesized]
  · exact filled

/-- An enclosed text has no compound mark outside of its brackets. -/
theorem regroup_not_compound {text : Text} (tidy : IsTidy text) (bare : interior? text = none) :
    hasTopLevel compoundMarks (regroup text) = false := by
  rw [regroup_bare tidy bare]
  exact hasTopLevel_groupIfCompound tidy.nested

/-- A bare text with a compound mark outside of brackets is enclosed, and then says what it says
inside of them. -/
theorem writes_compound {text : Text} {expr : Expr} (tidy : IsTidy text) (filled : text ≠ [])
    (bare : interior? text = none) (inside : SaysInside text expr)
    (compound : hasTopLevel compoundMarks text = true) : WritesFactor text expr where
  tidy := tidy
  filled := filled
  bare := bare
  inside := inside
  enclosed := by
    rw [regroup_bare tidy bare, groupIfCompound, compound]
    exact says_group inside

/-- A plain word writes itself. -/
theorem writes_word {word : Text} (plain : IsPlain word) : WritesFactor word (.word word) where
  tidy := plain.tidy
  filled := plain.filled
  bare := plain.bare
  inside := (says_word plain).atom.union.product.inside
  enclosed := by
    rw [regroup_bare plain.tidy plain.bare, groupIfCompound, plain.not_compound]
    exact says_word plain

/-- Two written expressions with a distance between them write a nearness. -/
theorem writes_near {leftText rightText : Text} {left right : Expr}
    (writtenLeft : Writes leftText left) (distance : Distance)
    (writtenRight : Writes rightText right) :
    WritesFactor (regroup leftText ++ ',' :: distance.text ++ ',' :: regroup rightText)
      (.proximity distance left right) := by
  have tidyLeft := writtenLeft.tidy.regroup writtenLeft.bare
  have tidyRight := writtenRight.tidy.regroup writtenRight.bare
  have assembled : regroup leftText ++ ',' :: distance.text ++ ',' :: regroup rightText =
      regroup leftText ++ ',' :: (distance.text ++ ',' :: regroup rightText) := by simp
  have someLeft := regroup_filled writtenLeft.tidy writtenLeft.bare writtenLeft.filled
  apply writes_compound
  · rw [assembled]
    exact tidy_sign (by decide) tidyLeft (tidy_sign (by decide) (tidy_distance distance) tidyRight)
  · simp
  · rw [assembled]
    exact interior_append tidyLeft.nested someLeft (by simp)
  · exact says_proximity writtenLeft.product distance writtenRight.product
  · rw [assembled]
    exact hasTopLevel_behind tidyLeft.nested (by decide) _

/-- Three written expressions in a brace write the three-operand form. -/
theorem writes_brace {firstText secondText thirdText : Text} {first second third : Expr}
    (writtenFirst : Writes firstText first) (writtenSecond : Writes secondText second)
    (writtenThird : Writes thirdText third) (count : Nat) :
    WritesFactor (bracedText (regroup firstText) (regroup secondText) (regroup thirdText) count)
      (.simultaneous count first second third) := by
  have tidyFirst := writtenFirst.tidy.regroup writtenFirst.bare
  have tidySecond := writtenSecond.tidy.regroup writtenSecond.bare
  have tidyThird := writtenThird.tidy.regroup writtenThird.bare
  have tidyInner := tidy_sign (by decide : IsSign ',') tidyFirst
    (tidy_sign (by decide : IsSign ',') tidySecond tidyThird)
  have tidyBrace := tidyInner.enclosed (rfl : closerOf? '{' = some '}')
  have assembled :
      bracedText (regroup firstText) (regroup secondText) (regroup thirdText) count =
      ('{' :: (regroup firstText ++ ',' :: (regroup secondText ++ ',' :: regroup thirdText))
        ++ ['}']) ++ ',' :: Distance.text ⟨.words, count⟩ := by
    simp [bracedText, Distance.text, DistanceUnit.letter]
  have given := says_brace writtenFirst.product writtenSecond.product writtenThird.product count
  apply writes_compound
  · rw [assembled]
    exact tidy_sign (by decide) tidyBrace (tidy_distance _)
  · simp [bracedText]
  · rw [assembled]
    exact interior_append tidyBrace.nested (by simp) (by simp)
  · exact given.atom.union.product.inside
  · rw [assembled]
    exact hasTopLevel_behind tidyBrace.nested (by decide) _

/-- What related members have in common holds of all members on the left. -/
theorem forall_left {α β : Type} {relation : α → β → Prop} {property : α → Prop}
    {lefts : List α} {rights : List β}
    (each : ∀ left right, relation left right → property left)
    (related : List.Forall₂ relation lefts rights) : ∀ left ∈ lefts, property left := by
  have both := related.imp (fun left right one => And.intro (each left right one) one)
  exact ((List.forall₂_and_left lefts rights).mp both).1

/-- What related members have in common holds of all members on the right. -/
theorem forall_right {α β : Type} {relation : α → β → Prop} {property : β → Prop}
    {lefts : List α} {rights : List β}
    (each : ∀ left right, relation left right → property right)
    (related : List.Forall₂ relation lefts rights) : ∀ right ∈ rights, property right :=
  forall_left (fun right left => each left right) related.flip

/-- Texts that say expressions as atoms say all of their operands when plus signs join them. -/
theorem says_sum {texts : List Text} {exprs : List Expr}
    (given : List.Forall₂ SaysAtom texts exprs) (some : texts ≠ []) :
    SaysUnion (Text.join '+' texts) (flattenAll .or exprs) := by
  induction given with
  | nil => exact absurd rfl some
  | @cons text expr texts exprs first others inductionHypothesis =>
    cases others with
    | nil =>
      rw [Text.join_single, flattenAll, flattenAll, List.append_nil]
      exact first.union
    | @cons next nextExpr rest restExprs second later =>
      rw [Text.join_cons (by simp), flattenAll]
      exact says_plus first (inductionHypothesis (by simp))

/-- Texts that say expressions as atoms say all of their operands when stars join them. -/
theorem says_stars {texts : List Text} {exprs : List Expr}
    (given : List.Forall₂ SaysAtom texts exprs) (some : texts ≠ []) :
    SaysProduct (Text.join '*' texts) (flattenAll .and exprs) := by
  induction given with
  | nil => exact absurd rfl some
  | @cons text expr texts exprs first others inductionHypothesis =>
    cases others with
    | nil =>
      rw [Text.join_single, flattenAll, flattenAll, List.append_nil]
      exact first.union.product
    | @cons next nextExpr rest restExprs second later =>
      rw [Text.join_cons (by simp), flattenAll]
      exact says_star first.union (inductionHypothesis (by simp))

/-- With a field behind them, which the last one takes, the texts say the same. -/
theorem says_stars_fielded {texts : List Text} {exprs : List Expr}
    (given : List.Forall₂ SaysOpen texts exprs) (some : texts ≠ []) :
    SaysProduct (Text.join '*' texts ++ Field.text.suffix.toList) (flattenAll .and exprs) := by
  induction given with
  | nil => exact absurd rfl some
  | @cons text expr texts exprs first others inductionHypothesis =>
    cases others with
    | nil =>
      rw [Text.join_single, flattenAll, flattenAll, List.append_nil]
      exact first.fielded.union.product
    | @cons next nextExpr rest restExprs second later =>
      rw [Text.join_cons (by simp), flattenAll, List.append_assoc, List.cons_append]
      exact says_star first.atom.union (inductionHypothesis (by simp))

/-- The operands of a flattened operator are those of all its flattened operands. -/
theorem operandList_logical_all (connective : Connective) (first : Expr) (others : List Expr) :
    operandList connective (logical connective first others).flatten =
      flattenAll connective (first :: others) :=
  operandList_flatten_logical connective first others

/-- Several written expressions, each in round brackets, with plus signs between them write their
union. -/
theorem writes_sum {text next : Text} {expr nextExpr : Expr} {rest : List Text}
    {restExprs : List Expr}
    (written : List.Forall₂ Writes (text :: next :: rest) (expr :: nextExpr :: restExprs)) :
    WritesFactor (Text.join '+' ((text :: next :: rest).map parenthesized))
      (.logical .or expr (nextExpr :: restExprs)) := by
  have tidyAll : ∀ piece ∈ (text :: next :: rest).map parenthesized, IsTidy piece := by
    rw [List.forall_mem_map]
    exact forall_left (fun _ _ one => one.tidy.enclosed rfl) written
  have saysAll : List.Forall₂ SaysAtom ((text :: next :: rest).map parenthesized)
      (expr :: nextExpr :: restExprs) := by
    rw [List.forall₂_map_left_iff]
    exact written.imp (fun _ _ one => (says_group one.inside).atom)
  have split : Text.join '+' ((text :: next :: rest).map parenthesized) =
      parenthesized text ++ '+' :: Text.join '+' ((next :: rest).map parenthesized) :=
    Text.join_cons (by simp)
  have tidyFirst : IsTidy (parenthesized text) := tidyAll _ (by simp)
  apply writes_compound
  · exact tidy_join (by decide) tidyAll
  · rw [split]
    simp
  · rw [split]
    exact interior_append tidyFirst.nested (by simp [parenthesized]) (by simp)
  · have sum := says_sum saysAll (by simp)
    rw [← operandList_logical_all] at sum
    exact sum.product.inside
  · rw [split]
    exact hasTopLevel_behind tidyFirst.nested (by decide) _

/-- Enclosed texts that are joined by stars have no compound mark outside of brackets. -/
theorem stars_not_compound {texts : List Text} {exprs : List Expr}
    (written : List.Forall₂ WritesFactor texts exprs) :
    hasTopLevel compoundMarks (Text.join '*' (texts.map regroup)) = false := by
  induction written with
  | nil => rfl
  | @cons text expr texts exprs first others inductionHypothesis =>
    have notCompound := regroup_not_compound first.tidy first.bare
    cases others with
    | nil => simpa using notCompound
    | @cons next nextExpr rest restExprs second later =>
      have nested := (first.tidy.regroup first.bare).nested
      have behind : ∀ back, hasTopLevel compoundMarks ('*' :: back) =
          hasTopLevel compoundMarks back := fun _ => rfl
      rw [List.map_cons, Text.join_cons (by simp), hasTopLevel_append nested, notCompound, behind,
        inductionHypothesis]
      rfl

/-- Several written factors with stars between them, each enclosed as far as its marks require,
write their product. -/
theorem writes_product {text next : Text} {expr nextExpr : Expr} {rest : List Text}
    {restExprs : List Expr}
    (written : List.Forall₂ WritesFactor (text :: next :: rest) (expr :: nextExpr :: restExprs)) :
    Writes (Text.join '*' ((text :: next :: rest).map regroup))
      (.logical .and expr (nextExpr :: restExprs)) := by
  have tidyAll : ∀ piece ∈ (text :: next :: rest).map regroup, IsTidy piece := by
    rw [List.forall_mem_map]
    exact forall_left (fun _ _ one => one.tidy.regroup one.bare) written
  have openAll : List.Forall₂ SaysOpen ((text :: next :: rest).map regroup)
      (expr :: nextExpr :: restExprs) := by
    rw [List.forall₂_map_left_iff]
    exact written.imp (fun _ _ one => one.enclosed)
  have split : Text.join '*' ((text :: next :: rest).map regroup) =
      regroup text ++ '*' :: Text.join '*' ((next :: rest).map regroup) :=
    Text.join_cons (by simp)
  have tidyFirst : IsTidy (regroup text) := tidyAll _ (by simp)
  have someFirst : regroup text ≠ [] := by
    cases written with
    | cons first others => exact regroup_filled first.tidy first.bare first.filled
  have tidyWhole := tidy_join (by decide : IsSign '*') tidyAll
  have bareWhole : interior? (Text.join '*' ((text :: next :: rest).map regroup)) = none := by
    rw [split]
    exact interior_append tidyFirst.nested someFirst (by simp)
  have asItStands : regroup (Text.join '*' ((text :: next :: rest).map regroup)) =
      Text.join '*' ((text :: next :: rest).map regroup) := by
    rw [regroup_bare tidyWhole bareWhole, groupIfCompound, stars_not_compound written]
    rfl
  have product := says_stars (openAll.imp (fun _ _ one => one.atom)) (by simp)
  have fielded := says_stars_fielded openAll (by simp)
  rw [← operandList_logical_all] at product fielded
  refine ⟨tidyWhole, ?_, bareWhole, product.inside, ?_, ?_⟩
  · rw [split]
    simp
  · rwa [asItStands]
  · rwa [asItStands]

/-- What is written for an expression is written for every expression that is flattened alike. -/
theorem Writes.congr {text : Text} {expr other : Expr} (written : Writes text expr)
    (same : expr.flatten = other.flatten) : Writes text other := by
  obtain ⟨phrase, reads, said, factor, sameSaid⟩ := written.inside
  refine ⟨written.tidy, written.filled, written.bare,
    ⟨phrase, reads, said, factor, sameSaid.trans same⟩, ?_, ?_⟩
  · rw [← same]
    exact written.product
  · rw [← same]
    exact written.fielded

end PriorArt
