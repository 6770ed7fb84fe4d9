import Mathlib.Tactic.Tauto
import PriorArt.Expr.Basic

/-!
# The leaves of an expression

The words and the references of an expression are those of its operands, in order. An expression
without references is built from its words alone, so what holds of every word is passed on to the
operands.
-/

namespace PriorArt.Expr

/-- The parts of several expressions are those of each of them. -/
theorem subexpressionsOfAll_eq (exprs : List Expr) :
    subexpressionsOfAll exprs = exprs.flatMap subexpressions := by
  induction exprs with
  | nil => rfl
  | cons expr others inductionHypothesis =>
    rw [subexpressionsOfAll, inductionHypothesis, List.flatMap_cons]

section Leaves

variable {α : Type} {leaf : Expr → Option α}

/-- The leaves of an operator that is none itself are those of its operands, in order. -/
theorem leaves_logical {connective : Connective} {first : Expr} {others : List Expr}
    (inner : leaf (logical connective first others) = none) :
    (logical connective first others).subexpressions.filterMap leaf =
      first.subexpressions.filterMap leaf ++
        others.flatMap (fun operand => operand.subexpressions.filterMap leaf) := by
  rw [subexpressions, List.cons_append, List.filterMap_cons_none inner, List.filterMap_append,
    subexpressionsOfAll_eq, List.filterMap_flatMap]

/-- The leaves of a nearness that is none itself are those of both operands, in order. -/
theorem leaves_proximity {distance : Distance} {left right : Expr}
    (inner : leaf (proximity distance left right) = none) :
    (proximity distance left right).subexpressions.filterMap leaf =
      left.subexpressions.filterMap leaf ++ right.subexpressions.filterMap leaf := by
  rw [subexpressions, List.cons_append, List.filterMap_cons_none inner, List.filterMap_append]

/-- The leaves of a nearness of three that is none itself are those of its operands, in order. -/
theorem leaves_simultaneous {count : Nat} {first second third : Expr}
    (inner : leaf (simultaneous count first second third) = none) :
    (simultaneous count first second third).subexpressions.filterMap leaf =
      first.subexpressions.filterMap leaf ++ second.subexpressions.filterMap leaf ++
        third.subexpressions.filterMap leaf := by
  rw [subexpressions, List.cons_append, List.cons_append, List.filterMap_cons_none inner,
    List.filterMap_append, List.filterMap_append]

end Leaves

@[simp] theorem words_word (text : Text) : (word text).words = [text] := rfl

@[simp] theorem words_reference (id : Text) : (reference id).words = [] := rfl

@[simp] theorem words_logical (connective : Connective) (first : Expr) (others : List Expr) :
    (logical connective first others).words = first.words ++ others.flatMap words :=
  leaves_logical rfl

@[simp] theorem words_proximity (distance : Distance) (left right : Expr) :
    (proximity distance left right).words = left.words ++ right.words :=
  leaves_proximity rfl

@[simp] theorem words_simultaneous (count : Nat) (first second third : Expr) :
    (simultaneous count first second third).words =
      first.words ++ second.words ++ third.words :=
  leaves_simultaneous rfl

@[simp] theorem references_word (text : Text) : (word text).references = [] := rfl

@[simp] theorem references_reference (id : Text) : (reference id).references = [id] := rfl

@[simp] theorem references_logical (connective : Connective) (first : Expr)
    (others : List Expr) :
    (logical connective first others).references =
      first.references ++ others.flatMap references :=
  leaves_logical rfl

@[simp] theorem references_proximity (distance : Distance) (left right : Expr) :
    (proximity distance left right).references = left.references ++ right.references :=
  leaves_proximity rfl

@[simp] theorem references_simultaneous (count : Nat) (first second third : Expr) :
    (simultaneous count first second third).references =
      first.references ++ second.references ++ third.references :=
  leaves_simultaneous rfl

/-- Whether the expression is built from words of one kind, without any reference. -/
def BuiltFrom (kind : Text → Prop) (expr : Expr) : Prop :=
  expr.references = [] ∧ ∀ text ∈ expr.words, kind text

/-- A word is built from itself. -/
@[simp] theorem built_from_word {kind : Text → Prop} (text : Text) :
    BuiltFrom kind (word text) ↔ kind text := by
  simp [BuiltFrom]

/-- A reference is no word. -/
@[simp] theorem not_built_from_reference {kind : Text → Prop} (id : Text) :
    ¬ BuiltFrom kind (reference id) := by
  simp [BuiltFrom]

/-- An operator is built from words exactly if every operand is. -/
@[simp] theorem built_from_logical {kind : Text → Prop} (connective : Connective) (first : Expr)
    (others : List Expr) :
    BuiltFrom kind (logical connective first others) ↔
      BuiltFrom kind first ∧ ∀ operand ∈ others, BuiltFrom kind operand := by
  simp only [BuiltFrom, references_logical, words_logical, List.append_eq_nil_iff,
    List.flatMap_eq_nil_iff, List.mem_append, List.mem_flatMap]
  constructor
  · rintro ⟨⟨firstReferences, otherReferences⟩, kinds⟩
    refine ⟨⟨firstReferences, fun text member => kinds text (.inl member)⟩, ?_⟩
    intro operand member
    exact ⟨otherReferences operand member,
      fun text inside => kinds text (.inr ⟨operand, member, inside⟩)⟩
  · rintro ⟨⟨firstReferences, firstKinds⟩, others⟩
    refine ⟨⟨firstReferences, fun operand member => (others operand member).1⟩, ?_⟩
    rintro text (inside | ⟨operand, member, inside⟩)
    · exact firstKinds text inside
    · exact (others operand member).2 text inside

/-- A nearness is built from words exactly if both operands are. -/
@[simp] theorem built_from_proximity {kind : Text → Prop} (distance : Distance)
    (left right : Expr) :
    BuiltFrom kind (proximity distance left right) ↔
      BuiltFrom kind left ∧ BuiltFrom kind right := by
  simp only [BuiltFrom, references_proximity, words_proximity, List.append_eq_nil_iff,
    List.mem_append, or_imp, forall_and]
  tauto

/-- A nearness of three is built from words exactly if all three operands are. -/
@[simp] theorem built_from_simultaneous {kind : Text → Prop} (count : Nat)
    (first second third : Expr) :
    BuiltFrom kind (simultaneous count first second third) ↔
      BuiltFrom kind first ∧ BuiltFrom kind second ∧ BuiltFrom kind third := by
  simp only [BuiltFrom, references_simultaneous, words_simultaneous, List.append_eq_nil_iff,
    List.mem_append, or_imp, forall_and]
  tauto

/-!
## Leaves of expressions in which words are replaced

In an expression without references every leaf is a word. When expressions are put in the place of
the words, the leaves of the result are those of the expressions that were put in, in order.
-/

variable {α : Type} {leaf : Expr → Option α}

/-- The operands behind a replacement. -/
theorem replaceWordsOfAll_eq (meaning : Text → Expr) (exprs : List Expr) :
    replaceWordsOfAll meaning exprs = exprs.map (replaceWords meaning) := by
  induction exprs with
  | nil => rfl
  | cons expr others inductionHypothesis =>
    rw [replaceWordsOfAll, inductionHypothesis, List.map_cons]

/-- Only words and references are leaves. -/
structure SelectsLeaves (leaf : Expr → Option α) : Prop where
  logical : ∀ connective first others, leaf (logical connective first others) = none
  proximity : ∀ distance left right, leaf (proximity distance left right) = none
  simultaneous : ∀ count first second third, leaf (simultaneous count first second third) = none

/-- References are leaves. -/
theorem selects_references : SelectsLeaves reference? := ⟨fun _ _ _ => rfl, fun _ _ _ => rfl,
  fun _ _ _ _ => rfl⟩

/-- Words are leaves. -/
theorem selects_words : SelectsLeaves word? := ⟨fun _ _ _ => rfl, fun _ _ _ => rfl,
  fun _ _ _ _ => rfl⟩

mutual

/-- The leaves behind a replacement are those of the expressions in the places of the words. -/
theorem leaves_replaceWords (selects : SelectsLeaves leaf) (meaning : Text → Expr) (expr : Expr)
    (noReference : expr.references = []) :
    (expr.replaceWords meaning).subexpressions.filterMap leaf =
      expr.words.flatMap (fun text => (meaning text).subexpressions.filterMap leaf) := by
  cases expr with
  | word text => simp [replaceWords]
  | reference id => simp at noReference
  | logical connective first others =>
    simp only [references_logical, List.append_eq_nil_iff, List.flatMap_eq_nil_iff] at noReference
    rw [replaceWords, leaves_logical (selects.logical ..), words_logical, List.flatMap_append,
      leaves_replaceWords selects meaning first noReference.1,
      leaves_replaceWordsOfAll selects meaning others noReference.2]
  | proximity distance left right =>
    simp only [references_proximity, List.append_eq_nil_iff] at noReference
    rw [replaceWords, leaves_proximity (selects.proximity ..), words_proximity,
      List.flatMap_append, leaves_replaceWords selects meaning left noReference.1,
      leaves_replaceWords selects meaning right noReference.2]
  | simultaneous count first second third =>
    simp only [references_simultaneous, List.append_eq_nil_iff] at noReference
    rw [replaceWords, leaves_simultaneous (selects.simultaneous ..), words_simultaneous,
      List.flatMap_append, List.flatMap_append,
      leaves_replaceWords selects meaning first noReference.1.1,
      leaves_replaceWords selects meaning second noReference.1.2,
      leaves_replaceWords selects meaning third noReference.2]

/-- The leaves of several expressions behind a replacement. -/
theorem leaves_replaceWordsOfAll (selects : SelectsLeaves leaf) (meaning : Text → Expr)
    (exprs : List Expr) (noReference : ∀ expr ∈ exprs, expr.references = []) :
    (replaceWordsOfAll meaning exprs).flatMap
        (fun expr => expr.subexpressions.filterMap leaf) =
      (exprs.flatMap words).flatMap
        (fun text => (meaning text).subexpressions.filterMap leaf) := by
  cases exprs with
  | nil => rfl
  | cons expr others =>
    rw [replaceWordsOfAll, List.flatMap_cons, List.flatMap_cons, List.flatMap_append,
      leaves_replaceWords selects meaning expr (noReference expr (by simp)),
      leaves_replaceWordsOfAll selects meaning others
        (fun other inside => noReference other (by simp [inside]))]

end

/-- The references behind a replacement. -/
theorem references_replaceWords (meaning : Text → Expr) {expr : Expr}
    (noReference : expr.references = []) :
    (expr.replaceWords meaning).references =
      expr.words.flatMap (fun text => (meaning text).references) :=
  leaves_replaceWords selects_references meaning expr noReference

/-- The words behind a replacement. -/
theorem words_replaceWords (meaning : Text → Expr) {expr : Expr}
    (noReference : expr.references = []) :
    (expr.replaceWords meaning).words = expr.words.flatMap (fun text => (meaning text).words) :=
  leaves_replaceWords selects_words meaning expr noReference

/-- Joined operands are built from words exactly if each of them is. -/
theorem built_from_join {kind : Text → Prop} (connective : Connective) (first : Expr)
    (others : List Expr) :
    BuiltFrom kind (join connective first others) ↔
      ∀ operand ∈ first :: others, BuiltFrom kind operand := by
  cases others with
  | nil => simp [join]
  | cons second rest => exact (built_from_logical ..).trans List.forall_mem_cons.symm

end PriorArt.Expr
