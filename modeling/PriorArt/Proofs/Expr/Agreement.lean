import PriorArt.Meaning
import PriorArt.Proofs.Expr.Leaves
import PriorArt.Proofs.Text.Solid

/-!
# Agreement on leaves

The logical form and the parts of an expression depend on the meanings of its own leaves alone: two
namings, or two meanings, that agree on the references of an expression give it the same form and
the same parts. Those of a set operator are put together from those of its operands.
-/

namespace PriorArt.Expr

/-- The parts of each of several operands. -/
theorem eachParts_eq (meaning : Meaning) (exprs : List Expr) :
    eachParts meaning exprs = exprs.map (partsWith meaning) := by
  induction exprs with
  | nil => rfl
  | cons expr others inductionHypothesis => rw [eachParts, inductionHypothesis, List.map_cons]

/-- The parts of several operands together. -/
theorem productParts_eq (meaning : Meaning) (exprs : List Expr) :
    productParts meaning exprs = (exprs.map (partsWith meaning)).foldr (· ++ ·) .empty := by
  induction exprs with
  | nil => rfl
  | cons expr others inductionHypothesis =>
    rw [productParts, inductionHypothesis, List.map_cons, List.foldr_cons]

/-- The operands of a set operator are written with its sign between them. -/
theorem logicalForm_logical (name : Text → Text) (connective : Connective) (first : Expr)
    (others : List Expr) :
    logicalForm name (logical connective first others) =
      Text.join connective.sign ((first :: others).map (fun operand =>
        factorText connective operand (logicalForm name operand))) := by
  rw [logicalForm]
  induction others generalizing first with
  | nil => simp [logicalForms]
  | cons second rest inductionHypothesis =>
    rw [List.map_cons, Text.join_cons (by simp), ← inductionHypothesis second, logicalForms,
      List.cons_append]

section Names

variable {name other : Text → Text}

mutual

/-- Names that agree on the references of an expression give it the same logical form. -/
theorem logicalForm_congr (expr : Expr)
    (agree : ∀ id ∈ expr.references, name id = other id) :
    logicalForm name expr = logicalForm other expr := by
  cases expr with
  | word text => rfl
  | reference id => exact agree id (by simp)
  | logical connective first others =>
    simp only [references_logical, List.mem_append] at agree
    rw [logicalForm, logicalForm, logicalForm_congr first (fun id inside => agree id (.inl inside)),
      logicalForms_congr connective others (fun id inside => agree id (.inr inside))]
  | proximity distance left right =>
    simp only [references_proximity, List.mem_append] at agree
    rw [logicalForm, logicalForm, logicalForm_congr left (fun id inside => agree id (.inl inside)),
      logicalForm_congr right (fun id inside => agree id (.inr inside))]
  | simultaneous count first second third =>
    simp only [references_simultaneous, List.mem_append] at agree
    rw [logicalForm, logicalForm,
      logicalForm_congr first (fun id inside => agree id (.inl (.inl inside))),
      logicalForm_congr second (fun id inside => agree id (.inl (.inr inside))),
      logicalForm_congr third (fun id inside => agree id (.inr inside))]

/-- Names that agree on the references of several operands give them the same forms. -/
theorem logicalForms_congr (connective : Connective) (exprs : List Expr)
    (agree : ∀ id ∈ exprs.flatMap references, name id = other id) :
    logicalForms name connective exprs = logicalForms other connective exprs := by
  cases exprs with
  | nil => rfl
  | cons expr others =>
    simp only [List.flatMap_cons, List.mem_append] at agree
    rw [logicalForms, logicalForms, logicalForm_congr expr (fun id inside => agree id (.inl inside)),
      logicalForms_congr connective others (fun id inside => agree id (.inr inside))]

end

end Names

/-- Two meanings agree on the words and on the references of expressions. -/
structure AgreeOn (left right : Meaning) (exprs : List Expr) : Prop where
  word : ∀ text ∈ exprs.flatMap words, left.word text = right.word text
  reference : ∀ id ∈ exprs.flatMap references, left.reference id = right.reference id
  name : ∀ id ∈ exprs.flatMap references, left.name id = right.name id

/-- Meanings that agree on some leaves agree on fewer. -/
theorem AgreeOn.mono {left right : Meaning} {exprs fewer : List Expr}
    (agree : AgreeOn left right exprs)
    (wordsInside : ∀ text ∈ fewer.flatMap words, text ∈ exprs.flatMap words)
    (inside : ∀ id ∈ fewer.flatMap references, id ∈ exprs.flatMap references) :
    AgreeOn left right fewer :=
  ⟨fun text listed => agree.word text (wordsInside text listed),
    fun id listed => agree.reference id (inside id listed),
    fun id listed => agree.name id (inside id listed)⟩

section Meanings

variable {meaning other : Meaning}

/-- An operator that is written as its logical form is so under either meaning. -/
theorem verbatim_congr {expr : Expr} (agree : AgreeOn meaning other [expr]) :
    verbatim meaning.name expr = verbatim other.name expr := by
  rw [verbatim, verbatim, logicalForm_congr expr (by simpa using agree.name)]

mutual

/-- Meanings that agree on the leaves of an expression give it the same parts. -/
theorem partsWith_congr (expr : Expr) (agree : AgreeOn meaning other [expr]) :
    partsWith meaning expr = partsWith other expr := by
  cases expr with
  | word text => exact agree.word text (by simp)
  | reference id => exact agree.reference id (by simp)
  | logical connective first others =>
    have agreeFirst : AgreeOn meaning other [first] :=
      agree.mono (by simp +contextual) (by simp +contextual)
    have agreeOthers : AgreeOn meaning other others :=
      agree.mono (by simp +contextual) (by simp +contextual)
    cases connective with
    | and =>
      rw [partsWith, partsWith, partsWith_congr first agreeFirst,
        productParts_congr others agreeOthers]
    | or =>
      rw [partsWith, partsWith, verbatim_congr agree, partsWith_congr first agreeFirst,
        eachParts_congr others agreeOthers]
  | proximity distance left right =>
    rw [partsWith, partsWith, verbatim_congr agree,
      partsWith_congr left (agree.mono (by simp +contextual) (by simp +contextual)),
      partsWith_congr right (agree.mono (by simp +contextual) (by simp +contextual))]
  | simultaneous count first second third =>
    rw [partsWith, partsWith, verbatim_congr agree,
      partsWith_congr first (agree.mono (by simp +contextual) (by simp +contextual)),
      partsWith_congr second (agree.mono (by simp +contextual) (by simp +contextual)),
      partsWith_congr third (agree.mono (by simp +contextual) (by simp +contextual))]

/-- Meanings that agree on the leaves of several operands give their product the same parts. -/
theorem productParts_congr (exprs : List Expr) (agree : AgreeOn meaning other exprs) :
    productParts meaning exprs = productParts other exprs := by
  cases exprs with
  | nil => rfl
  | cons expr others =>
    rw [productParts, productParts,
      partsWith_congr expr (agree.mono (by simp +contextual) (by simp +contextual)),
      productParts_congr others (agree.mono (by simp +contextual) (by simp +contextual))]

/-- Meanings that agree on the leaves of several operands give each of them the same parts. -/
theorem eachParts_congr (exprs : List Expr) (agree : AgreeOn meaning other exprs) :
    eachParts meaning exprs = eachParts other exprs := by
  cases exprs with
  | nil => rfl
  | cons expr others =>
    rw [eachParts, eachParts,
      partsWith_congr expr (agree.mono (by simp +contextual) (by simp +contextual)),
      eachParts_congr others (agree.mono (by simp +contextual) (by simp +contextual))]

end

end Meanings

end PriorArt.Expr
