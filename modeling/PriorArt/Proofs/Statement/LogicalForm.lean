import PriorArt.Expr.LogicalForm
import PriorArt.Proofs.Expr.Flat
import PriorArt.Proofs.Expr.Leaves
import PriorArt.Proofs.Statement.Grammar

/-!
# Reading the logical form

The logical form of an expression is read back as the expression, up to flattening: chains of one
operator come back as one operator, and an operator with a single operand comes back as that
operand.

A text is said to write an expression at a level of the grammar if its tokens have a derivation
there that says the expression, up to flattening. Each rule of the grammar gives a rule for
writing. The logical form follows these rules, as it encloses an operand exactly where its level
is too low for the place in which it stands.
-/

namespace PriorArt.Statement

open Expr

/-- A text writes an expression as a primary. -/
def WritesPrimary (text : Text) (expr : Expr) : Prop :=
  ∃ tree : PrimaryTree, tree.tokens = Token.body text ∧ tree.expr.flatten = expr.flatten

/-- A text writes an expression as a nearness, which may be a single primary. -/
def WritesNearness (text : Text) (expr : Expr) : Prop :=
  ∃ tree : NearnessTree, tree.tokens = Token.body text ∧ tree.expr.flatten = expr.flatten

/-- A text writes operands as an intersection. -/
def WritesIntersection (text : Text) (operands : List Expr) : Prop :=
  ∃ tree : IntersectionTree, tree.tokens = Token.body text ∧
    operandList .and tree.expr.flatten = operands

/-- A text writes operands as a union. -/
def WritesUnion (text : Text) (operands : List Expr) : Prop :=
  ∃ tree : UnionTree, tree.tokens = Token.body text ∧
    operandList .or tree.expr.flatten = operands

/-- The intersection of the operands of two intersections. -/
def IntersectionTree.append : IntersectionTree → IntersectionTree → IntersectionTree
  | .last operand, back => .more operand back
  | .more operand rest, back => .more operand (rest.append back)

/-- The union of the operands of two unions. -/
def UnionTree.append : UnionTree → UnionTree → UnionTree
  | .last operand, back => .more operand back
  | .more operand rest, back => .more operand (rest.append back)

/-- Appended intersections have a star between their tokens. -/
theorem IntersectionTree.tokens_append (front back : IntersectionTree) :
    (front.append back).tokens = front.tokens ++ .star :: back.tokens := by
  fun_induction IntersectionTree.append front back with
  | case1 back operand => rfl
  | case2 back operand rest inductionHypothesis =>
    simp [IntersectionTree.tokens, inductionHypothesis]

/-- Appended unions have a plus sign between their tokens. -/
theorem UnionTree.tokens_append (front back : UnionTree) :
    (front.append back).tokens = front.tokens ++ .plus :: back.tokens := by
  fun_induction UnionTree.append front back with
  | case1 back operand => rfl
  | case2 back operand rest inductionHypothesis =>
    simp [UnionTree.tokens, inductionHypothesis]

/-- The operands of appended intersections are those of the one and then those of the other. -/
theorem IntersectionTree.operands_append (front back : IntersectionTree) :
    (front.append back).operands =
      (front.operands.1, front.operands.2 ++ back.operands.1 :: back.operands.2) := by
  fun_induction IntersectionTree.append front back with
  | case1 back operand => rfl
  | case2 back operand rest inductionHypothesis =>
    simp [IntersectionTree.operands, inductionHypothesis]

/-- The operands of appended unions are those of the one and then those of the other. -/
theorem UnionTree.operands_append (front back : UnionTree) :
    (front.append back).operands =
      (front.operands.1, front.operands.2 ++ back.operands.1 :: back.operands.2) := by
  fun_induction UnionTree.append front back with
  | case1 back operand => rfl
  | case2 back operand rest inductionHypothesis =>
    simp [UnionTree.operands, inductionHypothesis]

/-- A text that is one identifier writes the word of that text. -/
theorem writes_word {text : Text} (identifies : Token.body text = [.identifier text]) :
    WritesPrimary text (.word text) :=
  ⟨.identifier text, identifies.symm, rfl⟩

/-- A written primary is a written nearness. -/
theorem writes_nearness_of_primary {text : Text} {expr : Expr}
    (written : WritesPrimary text expr) : WritesNearness text expr := by
  obtain ⟨tree, tokens, said⟩ := written
  exact ⟨.single tree, tokens, said⟩

/-- A written nearness is a written intersection. -/
theorem writes_intersection_of_nearness {text : Text} {expr : Expr}
    (written : WritesNearness text expr) :
    WritesIntersection text (operandList .and expr.flatten) := by
  obtain ⟨tree, tokens, said⟩ := written
  exact ⟨.last tree, tokens, by rw [← said]; rfl⟩

/-- A written intersection is a written union. -/
theorem writes_union_of_intersection {text : Text} {expr : Expr}
    (written : WritesIntersection text (operandList .and expr.flatten)) :
    WritesUnion text (operandList .or expr.flatten) := by
  obtain ⟨tree, tokens, said⟩ := written
  have same : tree.expr.flatten = expr.flatten := flatten_eq_of_operandList .and said
  exact ⟨.last tree, tokens, by rw [← same]; rfl⟩

/-- A primary is written at every level. -/
theorem writes_union_of_primary {text : Text} {expr : Expr} (written : WritesPrimary text expr) :
    WritesUnion text (operandList .or expr.flatten) :=
  writes_union_of_intersection
    (writes_intersection_of_nearness (writes_nearness_of_primary written))

/-- Round brackets make a written union a primary. -/
theorem writes_parenthesized {text : Text} {expr : Expr}
    (written : WritesUnion text (operandList .or expr.flatten)) :
    WritesPrimary (Brackets.parenthesized text) expr := by
  obtain ⟨tree, tokens, said⟩ := written
  refine ⟨.parenthesized tree, ?_, flatten_eq_of_operandList .or said⟩
  rw [Brackets.parenthesized, List.cons_append, Token.body_sign '(' .leftParenthesis rfl,
    Token.body_append_sign ')' .rightParenthesis rfl, Token.body_nil, PrimaryTree.tokens,
    tokens]
  rfl

/-- Two written primaries with a distance between them write a nearness. -/
theorem writes_proximity {leftText rightText : Text} {left right : Expr} (distance : Distance)
    (writtenLeft : WritesPrimary leftText left) (writtenRight : WritesPrimary rightText right) :
    WritesNearness (leftText ++ ',' :: distance.text ++ ',' :: rightText)
      (.proximity distance left right) := by
  obtain ⟨leftTree, leftTokens, saidLeft⟩ := writtenLeft
  obtain ⟨rightTree, rightTokens, saidRight⟩ := writtenRight
  refine ⟨.near leftTree (decimal distance.count) distance.unit false rightTree, ?_, ?_⟩
  · rw [List.append_assoc, List.cons_append, Token.body_append_sign ',' .comma rfl,
      Token.body_append_sign ',' .comma rfl, Token.body_distance, NearnessTree.tokens,
      leftTokens, rightTokens]
    rfl
  · simp [NearnessTree.expr, countOf, decimal, flatten, saidLeft, saidRight]

/-- Three written primaries in a brace with its word distance write a primary. -/
theorem writes_simultaneous {firstText secondText thirdText : Text} {first second third : Expr}
    (count : Nat) (writtenFirst : WritesPrimary firstText first)
    (writtenSecond : WritesPrimary secondText second)
    (writtenThird : WritesPrimary thirdText third) :
    WritesPrimary (bracedText firstText secondText thirdText count)
      (.simultaneous count first second third) := by
  obtain ⟨firstTree, firstTokens, saidFirst⟩ := writtenFirst
  obtain ⟨secondTree, secondTokens, saidSecond⟩ := writtenSecond
  obtain ⟨thirdTree, thirdTokens, saidThird⟩ := writtenThird
  refine ⟨.brace firstTree secondTree thirdTree (decimal count) false, ?_, ?_⟩
  · have spec : Token.body (decimal count ++ ['n']) = [.distance (decimal count) .words false] :=
      Token.body_distance ⟨.words, count⟩
    simp only [bracedText, List.cons_append, List.append_assoc]
    rw [Token.body_sign '{' .leftBrace rfl, Token.body_append_sign ',' .comma rfl,
      Token.body_append_sign ',' .comma rfl, Token.body_append_sign '}' .rightBrace rfl,
      Token.body_sign ',' .comma rfl, spec, PrimaryTree.tokens, firstTokens, secondTokens,
      thirdTokens]
    simp
  · simp [PrimaryTree.expr, countOf, decimal, flatten, saidFirst, saidSecond, saidThird]

/-- Written intersections with a star between them write the intersection of all operands. -/
theorem writes_star {frontText backText : Text} {front back : List Expr}
    (writtenFront : WritesIntersection frontText front)
    (writtenBack : WritesIntersection backText back) :
    WritesIntersection (frontText ++ '*' :: backText) (front ++ back) := by
  obtain ⟨frontTree, frontTokens, saidFront⟩ := writtenFront
  obtain ⟨backTree, backTokens, saidBack⟩ := writtenBack
  refine ⟨frontTree.append backTree, ?_, ?_⟩
  · rw [IntersectionTree.tokens_append, frontTokens, backTokens,
      Token.body_append_sign '*' .star rfl]
  · rw [← saidFront, ← saidBack, IntersectionTree.expr, IntersectionTree.operands_append]
    simp only [operandList_flatten_join, IntersectionTree.expr, flattenAll_append, flattenAll,
      List.append_assoc]

/-- Written unions with a plus sign between them write the union of all operands. -/
theorem writes_plus {frontText backText : Text} {front back : List Expr}
    (writtenFront : WritesUnion frontText front) (writtenBack : WritesUnion backText back) :
    WritesUnion (frontText ++ '+' :: backText) (front ++ back) := by
  obtain ⟨frontTree, frontTokens, saidFront⟩ := writtenFront
  obtain ⟨backTree, backTokens, saidBack⟩ := writtenBack
  refine ⟨frontTree.append backTree, ?_, ?_⟩
  · rw [UnionTree.tokens_append, frontTokens, backTokens,
      Token.body_append_sign '+' .plus rfl]
  · rw [← saidFront, ← saidBack, UnionTree.expr, UnionTree.operands_append]
    simp only [operandList_flatten_join, UnionTree.expr, flattenAll_append, flattenAll,
      List.append_assoc]

/-- What the logical form of an expression is written as: always as a union, as an intersection
unless it is a union of several operands, and as a primary where it needs no brackets as an
operand of nearness. -/
structure FormWritten (expr : Expr) : Prop where
  union : WritesUnion expr.text (operandList .or expr.flatten)
  intersection : expr.isUnion = false →
    WritesIntersection expr.text (operandList .and expr.flatten)
  primary : expr.isPrimary = true → WritesPrimary expr.text expr

/-- An operand of nearness is written as a primary. -/
theorem FormWritten.operand {expr : Expr} (written : FormWritten expr) :
    WritesPrimary (operandText expr expr.text) expr := by
  unfold operandText
  split
  · next primary => exact written.primary primary
  · exact writes_parenthesized written.union

/-- An operand of an intersection is written as an intersection. -/
theorem FormWritten.factor {expr : Expr} (written : FormWritten expr) :
    WritesIntersection (factorText .and expr expr.text) (operandList .and expr.flatten) := by
  cases union : expr.isUnion with
  | true =>
    simp only [factorText, union, decide_true, Bool.and_self, ↓reduceIte]
    exact writes_intersection_of_nearness
      (writes_nearness_of_primary (writes_parenthesized written.union))
  | false =>
    simp only [factorText, union, Bool.and_false, Bool.false_eq_true, ↓reduceIte]
    exact written.intersection union

/-- Further operands of an intersection, each behind its star, continue a written one. -/
theorem writes_further_factors {front : Text} {operands : List Expr}
    (written : WritesIntersection front operands) (others : List Expr)
    (othersWritten : ∀ operand ∈ others, FormWritten operand) :
    WritesIntersection (front ++ logicalForms id .and others)
      (operands ++ flattenAll .and others) := by
  induction others generalizing front operands with
  | nil => simpa [logicalForms, flattenAll] using written
  | cons operand rest inductionHypothesis =>
    have longer := writes_star written (othersWritten operand (by simp)).factor
    have whole := inductionHypothesis longer
      (fun other member => othersWritten other (by simp [member]))
    simpa [logicalForms, flattenAll, Connective.sign, text] using whole

/-- Further operands of a union, each behind its plus sign, continue a written one. -/
theorem writes_further_alternatives {front : Text} {operands : List Expr}
    (written : WritesUnion front operands) (others : List Expr)
    (othersWritten : ∀ operand ∈ others, FormWritten operand) :
    WritesUnion (front ++ logicalForms id .or others) (operands ++ flattenAll .or others) := by
  induction others generalizing front operands with
  | nil => simpa [logicalForms, flattenAll] using written
  | cons operand rest inductionHypothesis =>
    have longer := writes_plus written (othersWritten operand (by simp)).union
    have whole := inductionHypothesis longer
      (fun other member => othersWritten other (by simp [member]))
    simpa [logicalForms, flattenAll, factorText, Connective.sign, text] using whole

/-- What shows as a union is not primary. -/
theorem not_primary_of_union {expr : Expr} (union : expr.isUnion = true) :
    expr.isPrimary = false := by
  unfold isUnion at union
  unfold isPrimary
  split at union
  · next same => rw [same]
  · exact absurd union (by decide)

/-- An operator with a single operand is written as the operand, in brackets if the operator is
an intersection and the operand a union. -/
theorem form_written_alone (connective : Connective) {operand : Expr}
    (written : FormWritten operand) : FormWritten (.logical connective operand []) := by
  have formText : (logical connective operand []).text =
      factorText connective operand operand.text := by simp [text, logicalForm, logicalForms]
  cases enclosed : connective = .and && operand.isUnion with
  | true =>
    obtain ⟨isAnd, union⟩ : connective = .and ∧ operand.isUnion = true := by
      simpa using enclosed
    refine ⟨?_, ?_, ?_⟩
    · rw [formText, flatten_alone, factorText, enclosed]
      exact writes_union_of_primary (writes_parenthesized written.union)
    · intro noUnion
      rw [isUnion_alone, union] at noUnion
      exact absurd noUnion (by decide)
    · intro primary
      rw [isPrimary_alone, not_primary_of_union union] at primary
      exact absurd primary (by decide)
  | false =>
    have same : (logical connective operand []).text = operand.text := by
      rw [formText, factorText, enclosed]
      rfl
    refine ⟨?_, ?_, ?_⟩
    · rw [same, flatten_alone]
      exact written.union
    · intro noUnion
      rw [same, flatten_alone]
      exact written.intersection (by rwa [isUnion_alone] at noUnion)
    · intro primary
      rw [isPrimary_alone] at primary
      obtain ⟨tree, tokens, said⟩ := written.primary primary
      exact ⟨tree, by rw [same, tokens], by rw [flatten_alone, said]⟩

/-- An operator with several operands is written as a chain, which is no primary. -/
theorem form_written_several (connective : Connective) {first second : Expr} {rest : List Expr}
    (firstWritten : FormWritten first)
    (othersWritten : ∀ operand ∈ second :: rest, FormWritten operand) :
    FormWritten (.logical connective first (second :: rest)) := by
  have formText : (logical connective first (second :: rest)).text =
      factorText connective first first.text
        ++ logicalForms id connective (second :: rest) := by simp [text, logicalForm]
  cases connective with
  | or =>
    refine ⟨?_, ?_, ?_⟩
    · rw [formText, operandList_flatten_logical]
      exact writes_further_alternatives firstWritten.union _ othersWritten
    · intro noUnion
      exact absurd noUnion (by simp [isUnion, unwrap])
    · intro primary
      exact absurd primary (by simp [isPrimary, unwrap])
  | and =>
    have chain : WritesIntersection (logical .and first (second :: rest)).text
        (operandList .and (logical .and first (second :: rest)).flatten) := by
      rw [formText, operandList_flatten_logical]
      exact writes_further_factors firstWritten.factor _ othersWritten
    refine ⟨writes_union_of_intersection chain, fun _ => chain, ?_⟩
    intro primary
    exact absurd primary (by simp [isPrimary, unwrap])

/-- A text that writes an expression as a primary is its written form at every level. -/
theorem form_written_primary {expr : Expr} (written : WritesPrimary expr.text expr) :
    FormWritten expr :=
  ⟨writes_union_of_primary written,
    fun _ => writes_intersection_of_nearness (writes_nearness_of_primary written),
    fun _ => written⟩

/-- Whether a text is one identifier and nothing else. -/
def IsIdentifier (text : Text) : Prop := Token.scan text = [.identifier text, .finish]

mutual

/-- The logical form of every expression without references is written by the rules of the
grammar, if each of its words is an identifier. The induction follows the expression, where an
operator with a single operand has a case of its own. -/
theorem form_written (expr : Expr) (built : BuiltFrom IsIdentifier expr) : FormWritten expr := by
  cases expr with
  | word text =>
    have identifies : Token.scan text = [.identifier text, .finish] :=
      (built_from_word text).mp built
    have single : Token.body text = [.identifier text] := by
      rw [Token.body, identifies]
      rfl
    exact form_written_primary (writes_word single)
  | reference id => exact absurd built (by simp)
  | logical connective first others =>
    obtain ⟨builtFirst, builtOthers⟩ := (built_from_logical ..).mp built
    have firstWritten : FormWritten first := form_written first builtFirst
    have othersWritten : ∀ operand ∈ others, FormWritten operand :=
      forms_written others builtOthers
    cases others with
    | nil => exact form_written_alone connective firstWritten
    | cons second rest => exact form_written_several connective firstWritten othersWritten
  | proximity distance left right =>
    obtain ⟨builtLeft, builtRight⟩ := (built_from_proximity ..).mp built
    have near := writes_proximity distance (form_written left builtLeft).operand
      (form_written right builtRight).operand
    have chain := writes_intersection_of_nearness near
    exact ⟨writes_union_of_intersection chain, fun _ => chain,
      fun primary => absurd primary (by simp [isPrimary, unwrap])⟩
  | simultaneous count first second third =>
    obtain ⟨builtFirst, builtSecond, builtThird⟩ := (built_from_simultaneous ..).mp built
    exact form_written_primary (writes_simultaneous count
      (form_written first builtFirst).operand (form_written second builtSecond).operand
      (form_written third builtThird).operand)

/-- The logical form of each of several expressions is written by the rules of the grammar. -/
theorem forms_written (exprs : List Expr)
    (built : ∀ expr ∈ exprs, BuiltFrom IsIdentifier expr) :
    ∀ expr ∈ exprs, FormWritten expr := by
  cases exprs with
  | nil => simp
  | cons first others =>
    have firstWritten : FormWritten first := form_written first (built first (by simp))
    have othersWritten : ∀ expr ∈ others, FormWritten expr :=
      forms_written others (fun other inside => built other (by simp [inside]))
    intro expr member
    rcases List.mem_cons.mp member with rfl | later
    · exact firstWritten
    · exact othersWritten expr later

end

/-- A union that a text writes is read from the text as an expression without name and field. -/
theorem parse_of_writes_union {text : Text} {expr : Expr}
    (written : WritesUnion text (operandList .or expr.flatten)) :
    ∃ read, Expr.parse text = .ok read ∧ read.flatten = expr.flatten := by
  obtain ⟨tree, tokens, said⟩ := written
  have derived : (Derivation.mk none tree none).tokens = Token.scan text := by
    rw [Token.scan_eq_body, ← tokens]
    rfl
  have read : parse text = .ok ⟨none, tree.expr, none⟩ := by
    rw [parse, ← derived, of_tokens_complete]
    rfl
  refine ⟨tree.expr, ?_, flatten_eq_of_operandList .or said⟩
  simp only [Expr.parse, read, Reading.ok_bind]
  rfl

/-- The logical form of an expression is read back as the expression, up to flattening. The
expression has no references, since these are written by name, and each of its words is by itself
one identifier; any nesting, any length of its chains and any distances are allowed. -/
theorem parse_logical_form (expr : Expr) (noReference : expr.references = [])
    (identifiers : ∀ word ∈ expr.words, Token.scan word = [.identifier word, .finish]) :
    ∃ read, Expr.parse expr.text = .ok read ∧ read.flatten = expr.flatten :=
  parse_of_writes_union (form_written expr ⟨noReference, identifiers⟩).union

/-- An intersection of a wrapped union and a nearness that has a union at one side and, at the
other, a brace with a wrapped operand. -/
def nestedForm : Expr :=
  .logical .and (.logical .and (.logical .or (.word ['a']) [.word ['b']]) [])
    [.proximity ⟨.sentences, 0⟩ (.logical .or (.word ['3', 'G']) [.word ['a']])
      (.simultaneous 12 (.word ['a']) (.logical .or (.word ['b']) []) (.word ['a', '/', '2']))]

/-- The nested form is read back. -/
theorem parse_logical_form_nested : nestedForm.references = [] ∧
    (∀ word ∈ nestedForm.words, Token.scan word = [.identifier word, .finish]) ∧
    ∃ read, Expr.parse nestedForm.text = .ok read ∧ read.flatten = nestedForm.flatten :=
  ⟨by decide, by decide, parse_logical_form nestedForm (by decide) (by decide)⟩

end PriorArt.Statement
