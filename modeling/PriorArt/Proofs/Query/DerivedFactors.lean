import PriorArt.Proofs.Query.Contents
import PriorArt.Proofs.Query.DerivedPhrases

/-!
# What derivations say

The content of a derivation is read off it without any check, and the checks are made on the same
derivation, at each of its nodes. Codes take no second field; what a class field applies to unites
plain terms; a union has words or codes for its operands, but not both; products and operators of
nearness take no codes; and the distance of a brace is in words.

A query is accepted exactly if it has a derivation that passes all checks, and as the factors that are
read off. There is no choice in this, since there is one derivation at most.
-/

namespace PriorArt.Query

open Phrase

mutual

/-- The content of a term, a group or a brace. -/
def OpenTree.content : OpenTree → Content
  | .term lexeme => .ofExpr (.word lexeme)
  | .group inner => inner.content
  | .brace first second third distance =>
    .ofExpr (.simultaneous (writtenDistance distance).count (Content.product first.contents).expr
      (Content.product second.contents).expr (Content.product third.contents).expr)

/-- The content of an atom. -/
def AtomTree.content : AtomTree → Content
  | .plain inner => inner.content
  | .fielded inner suffix => inner.content.inField (writtenField suffix)
  | .bracket inner => inner.content

/-- The content of the inside of a group or bracket. -/
def InsideTree.content : InsideTree → Content
  | .product inner => Content.product inner.contents
  | .proximity left distance right =>
    .ofExpr (.proximity (writtenDistance distance) (Content.product left.contents).expr
      (Content.product right.contents).expr)

/-- The contents of the operands of a union. -/
def UnionTree.contents : UnionTree → Content × List Content
  | .last operand => (operand.content, [])
  | .more operand others => (operand.content, others.contents.1 :: others.contents.2)

/-- The contents of the operands of a product. -/
def ProductTree.contents : ProductTree → Content × List Content
  | .last operand => (Content.union operand.contents, [])
  | .more operand others =>
    (Content.union operand.contents, others.contents.1 :: others.contents.2)

end

mutual

/-- No check fails in a term, a group or a brace. -/
def OpenTree.Passes : OpenTree → Prop
  | .term _ => True
  | .group inner => inner.Passes
  | .brace first second third distance =>
    (writtenDistance distance).unit = .words ∧
      (first.OperandsPass ∧ HaveNoCodes first.contents) ∧
      (second.OperandsPass ∧ HaveNoCodes second.contents) ∧
      third.OperandsPass ∧ HaveNoCodes third.contents

/-- No check fails in an atom. -/
def AtomTree.Passes : AtomTree → Prop
  | .plain inner => inner.Passes
  | .fielded inner suffix =>
    inner.Passes ∧ inner.content.isCodes = false ∧
      (writtenField suffix ≠ .text → UnitesTerms inner.content.expr)
  | .bracket inner => inner.Passes

/-- No check fails in the inside of a group or bracket. A product of one operand is that operand. -/
def InsideTree.Passes : InsideTree → Prop
  | .product inner =>
    inner.OperandsPass ∧ (inner.contents.2 ≠ [] → HaveNoCodes inner.contents)
  | .proximity left _ right =>
    (left.OperandsPass ∧ HaveNoCodes left.contents) ∧
      right.OperandsPass ∧ HaveNoCodes right.contents

/-- No check fails in an operand of a union. -/
def UnionTree.OperandsPass : UnionTree → Prop
  | .last operand => operand.Passes
  | .more operand others => operand.Passes ∧ others.OperandsPass

/-- No check fails in an operand of a product. -/
def ProductTree.OperandsPass : ProductTree → Prop
  | .last operand => operand.OperandsPass ∧ AreAlike operand.contents
  | .more operand others =>
    (operand.OperandsPass ∧ AreAlike operand.contents) ∧ others.OperandsPass

end

/-- The factors that are read off a derivation of a query. The operands of the outermost chain are the
factors, so that codes may stand among them. -/
def ProductTree.factors (tree : ProductTree) : List Factor :=
  (tree.contents.1 :: tree.contents.2).map Content.factor

/-- Only operands with plain terms are a union with plain terms. -/
theorem plain_union_operands {operands : Phrase × List Phrase}
    (plain : HasPlainTerms (wholeUnion operands)) : PlainOperands operands := by
  obtain ⟨first, others⟩ := operands
  cases others with
  | nil => exact List.forall_mem_singleton.mpr plain
  | cons second others =>
    cases plain with
    | union ofOperands => exact ofOperands

/-- Only operands with plain terms are a product with plain terms. -/
theorem plain_product_operands {operands : Phrase × List Phrase}
    (plain : HasPlainTerms (wholeProduct operands)) : PlainOperands operands := by
  obtain ⟨first, others⟩ := operands
  cases others with
  | nil => exact List.forall_mem_singleton.mpr plain
  | cons second others =>
    cases plain with
    | product ofOperands => exact ofOperands

section Combined

variable {phrase second : Phrase} {others : List Phrase} {combined : Factor → List Factor → Prop}

/-- The factors of one phrase are its factor, and no others. -/
theorem exists_factor_of_one :
    (∃ first more, Phrase.factorsOf [phrase] = .ok (first :: more) ∧ combined first more) ↔
      ∃ first, phrase.factor = .ok first ∧ combined first [] := by
  simp only [factorsOf_cons_iff]
  constructor
  · rintro ⟨_, _, ⟨first, more, ofPhrase, none, same⟩, holds⟩
    obtain rfl := Except.ok.inj none
    obtain ⟨rfl, rfl⟩ := List.cons.inj same
    exact ⟨first, ofPhrase, holds⟩
  · rintro ⟨first, ofPhrase, holds⟩
    exact ⟨first, [], ⟨first, [], ofPhrase, rfl, rfl⟩, holds⟩

/-- The factors of several phrases are found one after the other. -/
theorem exists_factors_of_more :
    (∃ first more, Phrase.factorsOf (phrase :: second :: others) = .ok (first :: more) ∧
        combined first more) ↔
      ∃ first, phrase.factor = .ok first ∧ ∃ next, second.factor = .ok next ∧
        ∃ more, Phrase.factorsOf others = .ok more ∧ combined first (next :: more) := by
  simp only [factorsOf_cons_iff]
  constructor
  · rintro ⟨_, _, ⟨first, _, ofPhrase, ⟨next, more, ofSecond, ofOthers, rfl⟩, same⟩, holds⟩
    obtain ⟨rfl, rfl⟩ := List.cons.inj same
    exact ⟨first, ofPhrase, next, ofSecond, more, ofOthers, holds⟩
  · rintro ⟨first, ofPhrase, next, ofSecond, more, ofOthers, holds⟩
    exact ⟨first, next :: more, ⟨first, _, ofPhrase, ⟨next, more, ofSecond, ofOthers, rfl⟩, rfl⟩,
      holds⟩

/-- The factor of a union is the union of the factors of its operands. -/
theorem factor_whole_union_iff {phrases : Phrase × List Phrase} {factor : Factor} :
    (wholeUnion phrases).factor = .ok factor ↔ ∃ first others,
      Phrase.factorsOf (phrases.1 :: phrases.2) = .ok (first :: others) ∧
        uniteAll first others = .ok factor := by
  obtain ⟨phrase, others⟩ := phrases
  cases others with
  | nil =>
    rw [exists_factor_of_one]
    simp [wholeUnion, joinUnion, uniteAll]
  | cons second others =>
    rw [exists_factors_of_more]
    simp only [wholeUnion, joinUnion, Phrase.factor, Reading.bind_ok_iff, uniteAll]

/-- The factor of a product is the product of the factors of its operands. -/
theorem factor_whole_product_iff {phrases : Phrase × List Phrase} {factor : Factor} :
    (wholeProduct phrases).factor = .ok factor ↔ ∃ first others,
      Phrase.factorsOf (phrases.1 :: phrases.2) = .ok (first :: others) ∧
        multiplyAll first others = .ok factor := by
  obtain ⟨phrase, others⟩ := phrases
  cases others with
  | nil =>
    rw [exists_factor_of_one]
    simp [wholeProduct, joinProduct, multiplyAll]
  | cons second others =>
    rw [exists_factors_of_more]
    simp only [wholeProduct, joinProduct, Phrase.factor, Reading.bind_ok_iff, multiplyAll]

end Combined

/-- A phrase is accepted exactly under a condition, and then for a content. -/
def IsAccepted (phrase : Phrase) (passes : Prop) (content : Content) : Prop :=
  ∀ factor, phrase.factor = .ok factor ↔ passes ∧ content.factor = factor

/-- Operands are accepted exactly under a condition, and then for contents. -/
def AreAccepted (phrases : Phrase × List Phrase) (passes : Prop)
    (contents : Content × List Content) : Prop :=
  ∀ factors, Phrase.factorsOf (phrases.1 :: phrases.2) = .ok factors ↔
    passes ∧ (contents.1 :: contents.2).map Content.factor = factors

section Operands

variable {phrase : Phrase} {phrases : Phrase × List Phrase} {passes ofOthers : Prop}
  {content : Content} {contents : Content × List Content}

/-- One operand is accepted as that operand. -/
theorem IsAccepted.single (accepted : IsAccepted phrase passes content) :
    AreAccepted (phrase, []) passes (content, []) := by
  intro factors
  rw [factorsOf_cons_iff]
  constructor
  · rintro ⟨first, others, ofFirst, none, rfl⟩
    obtain ⟨pass, rfl⟩ := (accepted first).mp ofFirst
    obtain rfl := Except.ok.inj none
    exact ⟨pass, rfl⟩
  · rintro ⟨pass, rfl⟩
    exact ⟨_, [], (accepted _).mpr ⟨pass, rfl⟩, rfl, rfl⟩

/-- An operand in front of others is accepted with them. -/
theorem IsAccepted.cons (accepted : IsAccepted phrase passes content)
    (others : AreAccepted phrases ofOthers contents) :
    AreAccepted (phrase, phrases.1 :: phrases.2) (passes ∧ ofOthers)
      (content, contents.1 :: contents.2) := by
  intro factors
  rw [factorsOf_cons_iff]
  constructor
  · rintro ⟨first, more, ofFirst, ofMore, rfl⟩
    obtain ⟨pass, rfl⟩ := (accepted first).mp ofFirst
    obtain ⟨passOthers, rfl⟩ := (others more).mp ofMore
    exact ⟨⟨pass, passOthers⟩, rfl⟩
  · rintro ⟨⟨pass, passOthers⟩, rfl⟩
    exact ⟨_, _, (accepted _).mpr ⟨pass, rfl⟩, (others _).mpr ⟨passOthers, rfl⟩, rfl⟩

/-- Where a phrase combines the factors of its operands, and their contents can be combined under a
check, the phrase is accepted if the operands are and the check passes. -/
theorem AreAccepted.combined {combine : Factor → List Factor → Except QueryFault Factor} {check : Prop}
    (accepted : AreAccepted phrases passes contents)
    (ofPhrase : ∀ {factor}, phrase.factor = .ok factor ↔ ∃ first others,
      Phrase.factorsOf (phrases.1 :: phrases.2) = .ok (first :: others) ∧
        combine first others = .ok factor)
    (ofContents : ∀ {factor}, combine contents.1.factor (contents.2.map Content.factor) = .ok factor ↔
      check ∧ content.factor = factor) : IsAccepted phrase (passes ∧ check) content := by
  intro factor
  rw [ofPhrase]
  constructor
  · rintro ⟨first, others, ofAll, combined⟩
    obtain ⟨pass, same⟩ := (accepted _).mp ofAll
    obtain ⟨rfl, rfl⟩ := List.cons.inj same
    obtain ⟨checked, rfl⟩ := ofContents.mp combined
    exact ⟨⟨pass, checked⟩, rfl⟩
  · rintro ⟨⟨pass, checked⟩, rfl⟩
    exact ⟨_, _, (accepted _).mpr ⟨pass, rfl⟩, ofContents.mpr ⟨checked, rfl⟩⟩

/-- Operands in a union are accepted if they are alike, as the union of their contents. -/
theorem AreAccepted.union (accepted : AreAccepted phrases passes contents) :
    IsAccepted (wholeUnion phrases) (passes ∧ AreAlike contents) (Content.union contents) :=
  accepted.combined factor_whole_union_iff Content.unite_all_ok_iff

/-- Operands in a product are accepted if there is one or none is codes, as the product of their
contents. -/
theorem AreAccepted.product (accepted : AreAccepted phrases passes contents) :
    IsAccepted (wholeProduct phrases) (passes ∧ (contents.2 ≠ [] → HaveNoCodes contents))
      (Content.product contents) :=
  accepted.combined factor_whole_product_iff Content.multiply_all_ok_iff

/-- Operands of an operator of nearness are accepted if none is codes, as the expression of their
product. -/
theorem AreAccepted.expr (accepted : AreAccepted phrases passes contents) {expr : Expr} :
    (wholeProduct phrases).HasExpr expr ↔
      (passes ∧ HaveNoCodes contents) ∧ (Content.product contents).expr = expr := by
  simp only [HasExpr, accepted.product _]
  constructor
  · rintro ⟨_, ⟨⟨pass, together⟩, rfl⟩, isExpr⟩
    obtain ⟨noCodes, rfl⟩ := Content.expr_ok_iff.mp isExpr
    exact ⟨⟨pass, Content.have_no_codes_iff.mp ⟨together, noCodes⟩⟩, rfl⟩
  · rintro ⟨⟨pass, none⟩, rfl⟩
    obtain ⟨together, noCodes⟩ := Content.have_no_codes_iff.mpr none
    exact ⟨_, ⟨⟨pass, together⟩, rfl⟩, Content.expr_ok_iff.mpr ⟨noCodes, rfl⟩⟩

/-- Operands near one another are accepted if none is codes. -/
theorem AreAccepted.proximity {others : Phrase × List Phrase} {ofRight : Prop}
    {rightContents : Content × List Content} (left : AreAccepted phrases passes contents)
    (right : AreAccepted others ofRight rightContents) (distance : Distance) :
    IsAccepted (.proximity (wholeProduct phrases) distance (wholeProduct others))
      ((passes ∧ HaveNoCodes contents) ∧ ofRight ∧ HaveNoCodes rightContents)
      (.ofExpr (.proximity distance (Content.product contents).expr
        (Content.product rightContents).expr)) := by
  intro factor
  simp only [factor_proximity_iff, left.expr, right.expr]
  constructor
  · rintro ⟨_, _, ⟨passLeft, rfl⟩, ⟨passRight, rfl⟩, rfl⟩
    exact ⟨⟨passLeft, passRight⟩, rfl⟩
  · rintro ⟨⟨passLeft, passRight⟩, rfl⟩
    exact ⟨_, _, ⟨passLeft, rfl⟩, ⟨passRight, rfl⟩, rfl⟩

/-- Operands in a brace are accepted if none is codes and the distance is in words. -/
theorem AreAccepted.brace {seconds thirds : Phrase × List Phrase} {ofSecond ofThird : Prop}
    {secondContents thirdContents : Content × List Content}
    (first : AreAccepted phrases passes contents)
    (second : AreAccepted seconds ofSecond secondContents)
    (third : AreAccepted thirds ofThird thirdContents) (distance : Distance) :
    IsAccepted
      (.brace (wholeProduct phrases) (wholeProduct seconds) (wholeProduct thirds) distance)
      (distance.unit = .words ∧ (passes ∧ HaveNoCodes contents) ∧
        (ofSecond ∧ HaveNoCodes secondContents) ∧ ofThird ∧ HaveNoCodes thirdContents)
      (.ofExpr (.simultaneous distance.count (Content.product contents).expr
        (Content.product secondContents).expr (Content.product thirdContents).expr)) := by
  intro factor
  simp only [factor_brace_iff, first.expr, second.expr, third.expr]
  constructor
  · rintro ⟨inWords, _, _, _, ⟨passFirst, rfl⟩, ⟨passSecond, rfl⟩, ⟨passThird, rfl⟩, rfl⟩
    exact ⟨⟨inWords, passFirst, passSecond, passThird⟩, rfl⟩
  · rintro ⟨⟨inWords, passFirst, passSecond, passThird⟩, rfl⟩
    exact ⟨inWords, _, _, _, ⟨passFirst, rfl⟩, ⟨passSecond, rfl⟩, ⟨passThird, rfl⟩, rfl⟩

/-- A phrase of plain terms is accepted in a field if it is not codes and, in a class field, unites
terms. -/
theorem IsAccepted.fielded (accepted : IsAccepted phrase passes content)
    (plain : HasPlainTerms phrase) (field : Field) :
    IsAccepted (.fielded phrase field)
      (passes ∧ content.isCodes = false ∧ (field ≠ .text → UnitesTerms content.expr))
      (content.inField field) := by
  intro factor
  rw [Phrase.factor, Reading.bind_ok_iff]
  constructor
  · rintro ⟨_, ofInner, ofField⟩
    obtain ⟨pass, rfl⟩ := (accepted _).mp ofInner
    obtain ⟨passField, rfl⟩ := (Content.inField_ok_iff (plain.factor ofInner)).mp ofField
    exact ⟨⟨pass, passField⟩, rfl⟩
  · rintro ⟨⟨pass, passField⟩, rfl⟩
    have ofInner := (accepted _).mpr ⟨pass, rfl⟩
    exact ⟨_, ofInner, (Content.inField_ok_iff (plain.factor ofInner)).mpr ⟨passField, rfl⟩⟩

end Operands

mutual

/-- The phrase of a term, a group or a brace is accepted exactly if it passes, for its content. -/
theorem OpenTree.accepted (tree : OpenTree) (plain : HasPlainTerms tree.phrase) :
    IsAccepted tree.phrase tree.Passes tree.content := by
  cases tree with
  | term lexeme =>
    intro factor
    exact ⟨fun accepted => ⟨trivial, Except.ok.inj accepted⟩, fun ⟨_, same⟩ => congrArg _ same⟩
  | group inner =>
    cases plain with
    | group ofInner => exact InsideTree.accepted inner ofInner
  | brace first second third distance =>
    cases plain with
    | brace ofFirst ofSecond ofThird =>
      exact (ProductTree.accepted first (plain_product_operands ofFirst)).brace
        (ProductTree.accepted second (plain_product_operands ofSecond))
        (ProductTree.accepted third (plain_product_operands ofThird)) _
termination_by structural tree

/-- The phrase of an atom is accepted exactly if it passes, for its content. -/
theorem AtomTree.accepted (tree : AtomTree) (plain : HasPlainTerms tree.phrase) :
    IsAccepted tree.phrase tree.Passes tree.content := by
  cases tree with
  | plain inner => exact OpenTree.accepted inner plain
  | fielded inner suffix =>
    cases plain with
    | fielded ofInner => exact (OpenTree.accepted inner ofInner).fielded ofInner _
  | bracket inner =>
    cases plain with
    | bracket ofInner => exact InsideTree.accepted inner ofInner
termination_by structural tree

/-- The phrase of an inside is accepted exactly if it passes, for its content. -/
theorem InsideTree.accepted (tree : InsideTree) (plain : HasPlainTerms tree.phrase) :
    IsAccepted tree.phrase tree.Passes tree.content := by
  cases tree with
  | product inner => exact (ProductTree.accepted inner (plain_product_operands plain)).product
  | proximity left distance right =>
    cases plain with
    | proximity ofLeft _ ofRight =>
      exact (ProductTree.accepted left (plain_product_operands ofLeft)).proximity
        (ProductTree.accepted right (plain_product_operands ofRight)) _
termination_by structural tree

/-- The operands of a union are accepted exactly if they pass, for their contents. -/
theorem UnionTree.accepted (tree : UnionTree) (plain : PlainOperands tree.operands) :
    AreAccepted tree.operands tree.OperandsPass tree.contents := by
  cases tree with
  | last operand =>
    exact (AtomTree.accepted operand (List.forall_mem_singleton.mp plain)).single
  | more operand others =>
    obtain ⟨ofOperand, ofOthers⟩ := List.forall_mem_cons.mp plain
    exact (AtomTree.accepted operand ofOperand).cons (UnionTree.accepted others ofOthers)
termination_by structural tree

/-- The operands of a product are accepted exactly if they pass, for their contents. -/
theorem ProductTree.accepted (tree : ProductTree) (plain : PlainOperands tree.operands) :
    AreAccepted tree.operands tree.OperandsPass tree.contents := by
  cases tree with
  | last operand =>
    have ofOperand := plain_union_operands (List.forall_mem_singleton.mp plain)
    exact (UnionTree.accepted operand ofOperand).union.single
  | more operand others =>
    obtain ⟨ofOperand, ofOthers⟩ := List.forall_mem_cons.mp plain
    exact (UnionTree.accepted operand (plain_union_operands ofOperand)).union.cons
      (ProductTree.accepted others ofOthers)
termination_by structural tree

end

/-- A normal text is accepted exactly if it has a derivation that passes, as the factors of this
derivation. -/
theorem factors_of_iff {text : Text} (normal : Text.IsNormal text) {factors : List Factor} :
    Query.factorsOf text = .ok factors ↔
      ∃ tree : ProductTree, tree.Derives text ∧ tree.OperandsPass ∧ tree.factors = factors := by
  have accepted : ∀ tree : ProductTree, tree.Derives text →
      (Phrase.factorsOf tree.phrases = .ok factors ↔ tree.OperandsPass ∧ tree.factors = factors) := by
    rintro tree ⟨rest, produces, -⟩
    exact tree.accepted (tree.plain_operands produces normal) factors
  unfold Query.factorsOf
  split
  · next phrases read =>
    obtain ⟨tree, derives, rfl⟩ := (of_query_iff normal).mp read
    constructor
    · intro ofPhrases
      exact ⟨tree, derives, (accepted tree derives).mp ofPhrases⟩
    · rintro ⟨other, otherDerives, passes⟩
      obtain rfl := derives.unique otherDerives
      exact (accepted tree derives).mpr passes
  · next stopped unread =>
    refine ⟨nofun, ?_⟩
    rintro ⟨tree, derives, -⟩
    cases unread.symm.trans ((of_query_iff normal).mpr ⟨tree, derives, rfl⟩)

/-- Nothing is derived where there is no text. -/
theorem ProductTree.Derives.filled {tree : ProductTree} {text : Text} (derives : tree.Derives text) :
    text ≠ [] := by
  rintro rfl
  obtain ⟨rest, produces, -⟩ := derives
  exact absurd (tree.advances.shorter produces) (Nat.not_lt_zero _)

/-- A query has at most one derivation, however its groups, brackets, braces and fields are nested. It
is accepted exactly if it is blank, as no factors, or has a derivation in which no check fails, as the
factors that are read off the derivation. -/
theorem parse_iff_unique_derivation (query : Text) :
    (∀ tree other : ProductTree, tree.Derives (Text.trim (Text.normalized query)) →
      other.Derives (Text.trim (Text.normalized query)) → tree = other) ∧
    ∀ factors, Query.parse query = .ok factors ↔
      (Text.trim (Text.normalized query) = [] ∧ factors = []) ∨
        ∃ tree : ProductTree, tree.Derives (Text.trim (Text.normalized query)) ∧
          tree.OperandsPass ∧ tree.factors = factors := by
  refine ⟨fun tree other derives otherDerives => derives.unique otherDerives, fun factors => ?_⟩
  have normal := normal_trimmed query
  unfold Query.parse
  split
  · next blank =>
    rw [blank]
    constructor
    · intro accepted
      exact .inl ⟨rfl, (Except.ok.inj accepted).symm⟩
    · rintro (⟨-, rfl⟩ | ⟨tree, derives, -⟩)
      · rfl
      · exact absurd rfl derives.filled
  · next text filled =>
    rw [Reading.mapError_ok_iff, factors_of_iff normal]
    exact ⟨.inr, fun either => either.resolve_left (fun blank => absurd blank.1 filled)⟩

/-- What is read off the derivation of A/TX*B/CP+C/FI. -/
example :
    (ProductTree.more (.last (.fielded (.term ['A']) ['/', 'T', 'X']))
      (.last (.more (.fielded (.term ['B']) ['/', 'C', 'P'])
        (.last (.fielded (.term ['C']) ['/', 'F', 'I']))))).factors =
      [.words (.word ['A']), .codes ⟨[['B'], ['C']], true, true⟩] := by decide

end PriorArt.Query
