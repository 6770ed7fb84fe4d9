import PriorArt.Proofs.Query.Accepted
import PriorArt.Proofs.Query.CommonTrees
import PriorArt.Proofs.Query.DerivedPhrases

/-!
# The factors of an accepted query

A phrase of plain words is accepted as a tree of plain words or as a span of plain codes, each code
once. So this is what an accepted query consists of, whatever the query.
-/

namespace PriorArt

open Expr

/-- The words of a tree of plain words are plain. -/
theorem IsPlainTree.words {tree : Expr} (plainTree : IsPlainTree tree) :
    ∀ text ∈ tree.words, IsPlain text := by
  induction plainTree with
  | word plain => simpa using plain
  | reference isNamed => exact isNamed.elim
  | @logical connective first second others operands inductionHypothesis =>
    rw [words_logical, ← List.flatMap_cons]
    intro text inside
    obtain ⟨operand, ofOperand, inOperand⟩ := List.mem_flatMap.mp inside
    exact inductionHypothesis operand ofOperand text inOperand
  | proximity distance ofLeft ofRight leftHypothesis rightHypothesis =>
    rw [words_proximity]
    exact List.forall_mem_append.mpr ⟨leftHypothesis, rightHypothesis⟩
  | simultaneous count ofFirst ofSecond ofThird firstHypothesis secondHypothesis thirdHypothesis =>
    rw [words_simultaneous]
    exact List.forall_mem_append.mpr
      ⟨List.forall_mem_append.mpr ⟨firstHypothesis, secondHypothesis⟩, thirdHypothesis⟩

/-- The references of a tree that was built with some of them are among these. -/
theorem Expr.IsBuilt.references {named : Text → Prop} {tree : Expr} (built : IsBuilt named tree) :
    ∀ id ∈ tree.references, named id := by
  induction built with
  | word plain => simp
  | reference isNamed => simpa using isNamed
  | @logical connective first second others operands inductionHypothesis =>
    rw [references_logical, ← List.flatMap_cons]
    intro id inside
    obtain ⟨operand, ofOperand, inOperand⟩ := List.mem_flatMap.mp inside
    exact inductionHypothesis operand ofOperand id inOperand
  | proximity distance ofLeft ofRight leftHypothesis rightHypothesis =>
    rw [references_proximity]
    exact List.forall_mem_append.mpr ⟨leftHypothesis, rightHypothesis⟩
  | simultaneous count ofFirst ofSecond ofThird firstHypothesis secondHypothesis thirdHypothesis =>
    rw [references_simultaneous]
    exact List.forall_mem_append.mpr
      ⟨List.forall_mem_append.mpr ⟨firstHypothesis, secondHypothesis⟩, thirdHypothesis⟩

/-- Plain codes, each once. -/
structure CodeSpan.IsPlain (span : CodeSpan) : Prop where
  plain : ArePlain span.codes
  distinct : span.codes.eraseDups = span.codes

/-- A factor is a tree of plain words or a span of plain codes. -/
inductive Factor.IsPlain : Factor → Prop where
  | words {expr : Expr} (plainTree : IsPlainTree expr) : Factor.IsPlain (.words expr)
  | codes {span : CodeSpan} (plain : span.IsPlain) : Factor.IsPlain (.codes span)

/-- The distinct codes of a plain span are its codes. -/
theorem CodeSpan.IsPlain.distinctCodes {span : CodeSpan} (plain : span.IsPlain) :
    distinctCodes span.codes = span.codes := by
  rw [distinctCodes_plain plain.plain.plain, plain.distinct]

/-- The union of plain spans is plain. -/
theorem CodeSpan.IsPlain.union {left right : CodeSpan} (ofLeft : left.IsPlain)
    (ofRight : right.IsPlain) : (left.union right).IsPlain where
  plain := by
    obtain ⟨code, others, same⟩ := List.exists_cons_of_ne_nil ofLeft.plain.filled
    refine ⟨by simp [CodeSpan.union, same, List.eraseDups_cons], ?_⟩
    intro code inside
    rcases List.mem_append.mp (List.mem_eraseDups.mp inside) with inLeft | inRight
    · exact ofLeft.plain.plain code inLeft
    · exact ofRight.plain.plain code inRight
  distinct := Text.eraseDups_eraseDups _

/-- The union of several plain spans is plain. -/
theorem CodeSpan.IsPlain.unions {span : CodeSpan} (plain : span.IsPlain) {others : List CodeSpan}
    (plainOthers : ∀ other ∈ others, other.IsPlain) :
    (others.foldl CodeSpan.union span).IsPlain := by
  induction others generalizing span with
  | nil => exact plain
  | cons next rest inductionHypothesis =>
    obtain ⟨plainNext, plainRest⟩ := List.forall_mem_cons.mp plainOthers
    exact inductionHypothesis (plain.union plainNext) plainRest

namespace Factor

/-- The union of factors of plain words or of plain codes is one. -/
theorem IsPlain.unite {first second united : Factor} {others : List Factor}
    (plain : ∀ factor ∈ first :: second :: others, factor.IsPlain)
    (accepted : first.unite (second :: others) = .ok united) : united.IsPlain := by
  obtain ⟨ofFirst, ofOthers⟩ := List.forall_mem_cons.mp plain
  cases ofFirst with
  | @words expr plainTree =>
    simp only [Factor.unite] at accepted
    split at accepted
    · next allWords =>
      obtain rfl := Except.ok.inj accepted
      have trees : ∀ tree ∈ (second :: others).filterMap words?, IsPlainTree tree := by
        intro tree inside
        obtain ⟨factor, listed, isWords⟩ := List.mem_filterMap.mp inside
        cases ofOthers factor listed with
        | words plainTree => exact Option.some.inj isWords ▸ plainTree
        | codes plain => cases isWords
      cases isWords : second.words? with
      | none => simp [isWords] at allWords
      | some tree =>
        rw [List.filterMap_cons_some isWords] at trees ⊢
        exact .words (.logical .or (List.forall_mem_cons.mpr ⟨plainTree, trees⟩))
    · cases accepted
  | @codes span plainSpan =>
    simp only [Factor.unite] at accepted
    split at accepted
    · obtain rfl := Except.ok.inj accepted
      have spans : ∀ span ∈ (second :: others).filterMap span?, span.IsPlain := by
        intro span inside
        obtain ⟨factor, listed, isSpan⟩ := List.mem_filterMap.mp inside
        cases ofOthers factor listed with
        | words plainTree => cases isSpan
        | codes plain => exact Option.some.inj isSpan ▸ plain
      exact .codes (plainSpan.unions spans)
    · cases accepted

/-- A factor that is accepted as an expression is a tree of plain words. -/
theorem IsPlain.expr {factor : Factor} (plain : factor.IsPlain) {fault : QueryFault} {expr : Expr}
    (accepted : factor.expr fault = .ok expr) : IsPlainTree expr := by
  cases plain with
  | words plainTree => exact Except.ok.inj accepted ▸ plainTree
  | codes plain => cases accepted

/-- Factors that are accepted as expressions are trees of plain words, as many as there are. -/
theorem IsPlain.exprs {factors : List Factor} (plain : ∀ factor ∈ factors, factor.IsPlain)
    {fault : QueryFault} {exprs : List Expr} (accepted : Factor.exprs fault factors = .ok exprs) :
    (∀ expr ∈ exprs, IsPlainTree expr) ∧ exprs.length = factors.length := by
  unfold Factor.exprs at accepted
  induction factors generalizing exprs with
  | nil =>
    obtain rfl := Except.ok.inj accepted
    simp
  | cons factor others inductionHypothesis =>
    rw [List.mapM_cons, Reading.bind_ok_iff] at accepted
    obtain ⟨expr, isExpr, accepted⟩ := accepted
    rw [Reading.bind_ok_iff] at accepted
    obtain ⟨rest, isRest, accepted⟩ := accepted
    obtain rfl := Except.ok.inj accepted
    obtain ⟨trees, length⟩ :=
      inductionHypothesis (fun other inside => plain other (by simp [inside])) isRest
    exact ⟨List.forall_mem_cons.mpr ⟨(plain factor (by simp)).expr isExpr, trees⟩, by simp [length]⟩

/-- The product of factors of plain words is a tree of plain words. -/
theorem IsPlain.multiply {first second : Factor} {others : List Factor}
    (plain : ∀ factor ∈ first :: second :: others, factor.IsPlain) {fault : QueryFault}
    {tree : Expr} {trees : List Expr} (isFirst : first.expr fault = .ok tree)
    (areOthers : Factor.exprs fault (second :: others) = .ok trees) :
    IsPlainTree (.logical .and tree trees) := by
  obtain ⟨plainFirst, plainOthers⟩ := List.forall_mem_cons.mp plain
  obtain ⟨plainTrees, length⟩ := IsPlain.exprs plainOthers areOthers
  cases trees with
  | nil => simp at length
  | cons next more =>
    exact .logical .and (List.forall_mem_cons.mpr ⟨plainFirst.expr isFirst, plainTrees⟩)

/-- A factor that is accepted in a field is a tree of plain words or a plain span. -/
theorem IsPlain.inField {factor fielded : Factor} (plain : factor.IsPlain) {field : Field}
    (accepted : factor.inField field = .ok fielded) : fielded.IsPlain := by
  cases plain with
  | codes plain => cases accepted
  | @words expr plainTree =>
    have found : ∀ codes primary further, expr.codes = .ok codes →
        CodeSpan.IsPlain ⟨codes, primary, further⟩ := by
      intro codes primary further read
      obtain ⟨same, filled⟩ := codes_of_words read
      rw [distinctCodes_plain plainTree.words] at same
      refine ⟨⟨filled, fun code inside => ?_⟩, ?_⟩
      · rw [same] at inside
        exact plainTree.words code (List.mem_eraseDups.mp inside)
      · rw [same, Text.eraseDups_eraseDups]
    unfold Factor.inField at accepted
    split at accepted
    · next impossible => cases impossible
    · next other same =>
      cases same
      exact Except.ok.inj accepted ▸ .words plainTree
    · next other _ same _ =>
      cases same
      split at accepted
      · next codes read => exact Except.ok.inj accepted ▸ .codes (found codes _ _ read)
      · cases accepted

end Factor

namespace Phrase

/-- The factors of phrases are plain if the factor of each of them is. -/
theorem plain_factorsOf {phrases : List Phrase}
    (plain : ∀ phrase ∈ phrases, ∀ factor, phrase.factor = .ok factor → factor.IsPlain)
    {factors : List Factor} (accepted : factorsOf phrases = .ok factors) :
    (∀ factor ∈ factors, factor.IsPlain) := by
  induction phrases generalizing factors with
  | nil =>
    obtain rfl := Except.ok.inj accepted
    simp
  | cons phrase others inductionHypothesis =>
    obtain ⟨first, rest, ofPhrase, ofOthers, rfl⟩ := factorsOf_cons_iff.mp accepted
    exact List.forall_mem_cons.mpr ⟨plain phrase (by simp) first ofPhrase,
      inductionHypothesis (fun other inside => plain other (by simp [inside])) ofOthers⟩

/-- The expression of a phrase in an operator of nearness is a tree of plain words, if the factor of
the phrase is plain. -/
theorem HasExpr.plain {phrase : Phrase} {expr : Expr} (hasExpr : phrase.HasExpr expr)
    (plain : ∀ {factor}, phrase.factor = .ok factor → factor.IsPlain) : IsPlainTree expr := by
  obtain ⟨factor, ofPhrase, isExpr⟩ := hasExpr
  exact (plain ofPhrase).expr isExpr

/-- A phrase with plain terms is accepted as a plain factor only. -/
theorem HasPlainTerms.factor {phrase : Phrase} (plain : HasPlainTerms phrase) {factor : Factor}
    (accepted : phrase.factor = .ok factor) : factor.IsPlain := by
  induction plain generalizing factor with
  | term plain =>
    rw [Phrase.factor] at accepted
    exact Except.ok.inj accepted ▸ .words (.word plain)
  | @union first second others operands inductionHypothesis =>
    simp only [Phrase.factor, Reading.bind_ok_iff] at accepted
    obtain ⟨ofFirst, readFirst, ofSecond, readSecond, ofOthers, readOthers, united⟩ := accepted
    have all := plain_factorsOf inductionHypothesis
      (factorsOf_cons readFirst (factorsOf_cons readSecond readOthers))
    exact Factor.IsPlain.unite all united
  | @product first second others operands inductionHypothesis =>
    simp only [Phrase.factor, Reading.bind_ok_iff] at accepted
    obtain ⟨ofFirst, readFirst, ofSecond, readSecond, ofOthers, readOthers, tree, isFirst, trees,
      areOthers, made⟩ := accepted
    have all := plain_factorsOf inductionHypothesis
      (factorsOf_cons readFirst (factorsOf_cons readSecond readOthers))
    exact Except.ok.inj made ▸ .words (Factor.IsPlain.multiply all isFirst areOthers)
  | group ofInner inductionHypothesis => exact inductionHypothesis accepted
  | bracket ofInner inductionHypothesis => exact inductionHypothesis accepted
  | proximity ofLeft distance ofRight leftHypothesis rightHypothesis =>
    obtain ⟨left, right, isLeft, isRight, rfl⟩ := factor_proximity_iff.mp accepted
    exact .words (.proximity distance (isLeft.plain leftHypothesis) (isRight.plain rightHypothesis))
  | brace ofFirst ofSecond ofThird distance firstHypothesis secondHypothesis thirdHypothesis =>
    obtain ⟨-, first, second, third, isFirst, isSecond, isThird, rfl⟩ :=
      factor_brace_iff.mp accepted
    exact .words (.simultaneous _ (isFirst.plain firstHypothesis)
      (isSecond.plain secondHypothesis) (isThird.plain thirdHypothesis))
  | fielded ofInner field inductionHypothesis =>
    rw [Phrase.factor, Reading.bind_ok_iff] at accepted
    obtain ⟨inner, readInner, accepted⟩ := accepted
    exact (inductionHypothesis readInner).inField accepted

end Phrase

/-- What is read of a query is a normal text. -/
theorem Query.normal_trimmed (query : Text) :
    Text.IsNormal (Text.trim (Text.normalized query)) := by
  refine (Text.normal_normalized query).within ?_
  exact (Text.trimEnd_leaves_front _).isInfix.trans (List.dropWhile_suffix isBlank).isInfix

/-- Every factor of an accepted query is a tree of plain words or a span of plain codes. -/
theorem Query.plain_factors {query : Text} {factors : List Factor}
    (accepted : Query.parse query = .ok factors) : ∀ factor ∈ factors, factor.IsPlain := by
  have normal := normal_trimmed query
  unfold Query.parse at accepted
  split at accepted
  · obtain rfl := Except.ok.inj accepted
    simp
  · rw [Reading.mapError_ok_iff] at accepted
    unfold Query.factorsOf at accepted
    split at accepted
    · next phrases read =>
      refine Phrase.plain_factorsOf (fun phrase inside factor ofPhrase => ?_) accepted
      exact (Query.plain_of_query normal read phrase inside).factor ofPhrase
    · cases accepted

end PriorArt
