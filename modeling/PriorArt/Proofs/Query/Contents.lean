import PriorArt.Proofs.Query.PlainUnions

/-!
# What phrases say

The content of a phrase is its expression, in which brackets and fields leave no trace, and the class
fields in which it is searched. Where there are such fields, the expression stands for its words as
codes, each once. Contents are combined without any check.

The operations on factors make checks first. Each of them succeeds exactly if the contents pass, and
gives the factor of the combined content.
-/

namespace PriorArt.Query

/-- An expression that unites plain terms. -/
inductive UnitesTerms : Expr → Prop where
  | term (text : Text) : UnitesTerms (.word text)
  | union {first : Expr} {others : List Expr}
      (operands : ∀ operand ∈ first :: others, UnitesTerms operand) :
      UnitesTerms (.logical .or first others)

/-- An expression, and whether it is searched in the class fields. -/
structure Content where
  expr : Expr
  inPrimary : Bool
  inFurther : Bool

namespace Content

/-- An expression that is searched in no class field. -/
def ofExpr (expr : Expr) : Content := ⟨expr, false, false⟩

/-- Whether there is a class field. -/
def isCodes (content : Content) : Bool := content.inPrimary || content.inFurther

/-- The content with a field behind it. -/
def inField (field : Field) (content : Content) : Content :=
  ⟨content.expr, field = .primaryClass, field = .furtherClass⟩

/-- Several contents in a union, or the only one. A union is searched where its operands are. -/
def union : Content × List Content → Content
  | (first, []) => first
  | (first, second :: others) =>
    ⟨.logical .or first.expr ((second :: others).map expr),
      (first :: second :: others).any inPrimary, (first :: second :: others).any inFurther⟩

/-- Several contents in a product, or the only one. -/
def product : Content × List Content → Content
  | (first, []) => first
  | (first, second :: others) => .ofExpr (.logical .and first.expr ((second :: others).map expr))

/-- The factor for a content: its expression, or its words as codes, each once. -/
def factor (content : Content) : Factor :=
  if content.isCodes then
    .codes ⟨content.expr.words.eraseDups, content.inPrimary, content.inFurther⟩
  else .words content.expr

end Content

/-- Either all contents have class fields or none has. -/
def AreAlike (contents : Content × List Content) : Prop :=
  ∀ other ∈ contents.2, other.isCodes = contents.1.isCodes

/-- No content has class fields. -/
def HaveNoCodes (contents : Content × List Content) : Prop :=
  ∀ content ∈ contents.1 :: contents.2, content.isCodes = false

namespace Content

/-- The factor of a content without class fields is its expression. -/
theorem factor_words {content : Content} (noCodes : content.isCodes = false) :
    content.factor = .words content.expr := by
  simp [factor, noCodes]

/-- The factor of a content with class fields is its codes. -/
theorem factor_codes {content : Content} (isCodes : content.isCodes = true) :
    content.factor =
      .codes ⟨content.expr.words.eraseDups, content.inPrimary, content.inFurther⟩ := by
  simp [factor, isCodes]

/-- A factor is accepted as an expression exactly if its content has no class fields. -/
theorem expr_ok_iff {content : Content} {fault : QueryFault} {expr : Expr} :
    content.factor.expr fault = .ok expr ↔ content.isCodes = false ∧ content.expr = expr := by
  cases isCodes : content.isCodes with
  | true => simp [factor_codes isCodes, Factor.expr]
  | false => simp [factor_words isCodes, Factor.expr]

/-- Factors are accepted as expressions exactly if no content has class fields. -/
theorem exprs_ok_iff {contents : List Content} {fault : QueryFault} {exprs : List Expr} :
    Factor.exprs fault (contents.map factor) = .ok exprs ↔
      (∀ content ∈ contents, content.isCodes = false) ∧ contents.map expr = exprs := by
  induction contents generalizing exprs with
  | nil =>
    constructor
    · intro accepted
      exact ⟨nofun, Except.ok.inj accepted⟩
    · rintro ⟨-, rfl⟩
      rfl
  | cons first others inductionHypothesis =>
    unfold Factor.exprs at inductionHypothesis ⊢
    rw [List.map_cons, List.mapM_cons, Reading.bind_ok_iff]
    simp only [expr_ok_iff, Reading.bind_ok_iff, inductionHypothesis]
    constructor
    · rintro ⟨_, ⟨noCodes, rfl⟩, _, ⟨noOthers, rfl⟩, same⟩
      exact ⟨List.forall_mem_cons.mpr ⟨noCodes, noOthers⟩, Except.ok.inj same⟩
    · rintro ⟨noCodes, rfl⟩
      obtain ⟨ofFirst, ofOthers⟩ := List.forall_mem_cons.mp noCodes
      exact ⟨_, ⟨ofFirst, rfl⟩, _, ⟨ofOthers, rfl⟩, rfl⟩

end Content

namespace Content

/-- The expressions among the factors of contents without class fields. -/
theorem filterMap_words {contents : List Content}
    (noCodes : ∀ content ∈ contents, content.isCodes = false) :
    (contents.map factor).filterMap Factor.words? = contents.map expr := by
  induction contents with
  | nil => rfl
  | cons first others inductionHypothesis =>
    obtain ⟨ofFirst, ofOthers⟩ := List.forall_mem_cons.mp noCodes
    have isWords : (Factor.words first.expr).words? = some first.expr := rfl
    rw [List.map_cons, factor_words ofFirst, List.filterMap_cons_some isWords,
      inductionHypothesis ofOthers, List.map_cons]

/-- The union of a span with the factors of contents with class fields has the codes of all, each
once, and is searched where one of them is. -/
theorem foldl_spans {contents : List Content}
    (areCodes : ∀ content ∈ contents, content.isCodes = true) (codes : List Text)
    (primary further : Bool) :
    ((contents.map factor).filterMap Factor.span?).foldl CodeSpan.union
        ⟨codes.eraseDups, primary, further⟩ =
      ⟨(codes ++ contents.flatMap (fun content => content.expr.words)).eraseDups,
        primary || contents.any inPrimary, further || contents.any inFurther⟩ := by
  induction contents generalizing codes primary further with
  | nil => simp
  | cons first others inductionHypothesis =>
    obtain ⟨ofFirst, ofOthers⟩ := List.forall_mem_cons.mp areCodes
    have isSpan : ∀ span, (Factor.codes span).span? = some span := fun _ => rfl
    rw [List.map_cons, factor_codes ofFirst, List.filterMap_cons_some (isSpan _), List.foldl_cons,
      CodeSpan.union, Text.eraseDups_append_distinct, inductionHypothesis ofOthers]
    simp [Bool.or_assoc]

/-- Whether a factor is an expression or a span is told by its content. -/
theorem kind_of_factor (content : Content) :
    content.factor.words?.isSome = !content.isCodes ∧
      content.factor.span?.isSome = content.isCodes := by
  cases isCodes : content.isCodes with
  | true => simp [factor_codes isCodes, Factor.words?, Factor.span?]
  | false => simp [factor_words isCodes, Factor.words?, Factor.span?]

/-- A union has class fields if one of its operands has. -/
theorem isCodes_union (first second : Content) (others : List Content) :
    (union (first, second :: others)).isCodes = (first :: second :: others).any isCodes := by
  rw [Bool.eq_iff_iff]
  simp only [isCodes, union, Bool.or_eq_true, List.any_eq_true, ← exists_or, ← and_or_left]

section Unite

variable {first second : Content} {others : List Content} {united : Factor}

/-- A factor without class fields is united with those that have none either. -/
theorem unite_words_ok_iff (isWords : first.isCodes = false) :
    first.factor.unite ((second :: others).map factor) = .ok united ↔
      (∀ other ∈ second :: others, other.isCodes = false) ∧
        (union (first, second :: others)).factor = united := by
  have allWords : ((second :: others).map factor).all (fun factor => factor.words?.isSome) = true ↔
      ∀ other ∈ second :: others, other.isCodes = false := by
    simp only [List.all_map, List.all_eq_true, Function.comp_apply, (kind_of_factor _).1,
      Bool.not_eq_true']
  rw [factor_words isWords, Factor.unite]
  by_cases alike : ∀ other ∈ second :: others, other.isCodes = false
  · have noCodes : (union (first, second :: others)).isCodes = false := by
      rw [isCodes_union, List.any_eq_false]
      simpa [isWords] using alike
    rw [if_pos (allWords.mpr alike), filterMap_words alike, factor_words noCodes]
    exact ⟨fun accepted => ⟨alike, Except.ok.inj accepted⟩, fun both => congrArg _ both.2⟩
  · rw [if_neg (fun all => alike (allWords.mp all))]
    constructor
    · intro accepted
      cases accepted
    · intro both
      exact absurd both.1 alike

/-- A factor with class fields is united with those that have some, too. -/
theorem unite_codes_ok_iff (areCodes : first.isCodes = true) :
    first.factor.unite ((second :: others).map factor) = .ok united ↔
      (∀ other ∈ second :: others, other.isCodes = true) ∧
        (union (first, second :: others)).factor = united := by
  have allCodes : ((second :: others).map factor).all (fun factor => factor.span?.isSome) = true ↔
      ∀ other ∈ second :: others, other.isCodes = true := by
    simp only [List.all_map, List.all_eq_true, Function.comp_apply, (kind_of_factor _).2]
  have someCodes : (union (first, second :: others)).isCodes = true := by
    rw [isCodes_union, List.any_cons, areCodes, Bool.true_or]
  rw [factor_codes areCodes, Factor.unite]
  by_cases alike : ∀ other ∈ second :: others, other.isCodes = true
  · have words : (union (first, second :: others)).expr.words =
        first.expr.words ++ (second :: others).flatMap (fun content => content.expr.words) := by
      simp [union, List.flatMap_map]
    rw [if_pos (allCodes.mpr alike), foldl_spans alike, factor_codes someCodes, words]
    exact ⟨fun accepted => ⟨alike, Except.ok.inj accepted⟩, fun both => congrArg _ both.2⟩
  · rw [if_neg (fun all => alike (allCodes.mp all))]
    constructor
    · intro accepted
      cases accepted
    · intro both
      exact absurd both.1 alike

/-- Factors are united exactly if their contents are alike, to the factor of the union. -/
theorem unite_ok_iff : first.factor.unite ((second :: others).map factor) = .ok united ↔
    AreAlike (first, second :: others) ∧ (union (first, second :: others)).factor = united := by
  unfold AreAlike
  cases kind : first.isCodes with
  | false => exact unite_words_ok_iff kind
  | true => exact unite_codes_ok_iff kind

end Unite

end Content

/-- The union of several factors, or the only one. -/
def uniteAll (first : Factor) : List Factor → Except QueryFault Factor
  | [] => .ok first
  | second :: others => first.unite (second :: others)

/-- The product of several factors, or the only one. -/
def multiplyAll (first : Factor) : List Factor → Except QueryFault Factor
  | [] => .ok first
  | second :: others => do
    let first ← first.expr .codesInProduct
    let others ← Factor.exprs .codesInProduct (second :: others)
    return .words (.logical .and first others)

namespace Content

variable {first : Content} {others : List Content} {factor : Factor}

/-- The factors of contents have a union exactly if the contents are alike. -/
theorem unite_all_ok_iff : uniteAll first.factor (others.map Content.factor) = .ok factor ↔
    AreAlike (first, others) ∧ (union (first, others)).factor = factor := by
  cases others with
  | nil =>
    constructor
    · intro united
      exact ⟨nofun, Except.ok.inj united⟩
    · rintro ⟨-, rfl⟩
      rfl
  | cons second others => exact unite_ok_iff

/-- The factors of contents have a product exactly if there is only one content or none has class
fields. -/
theorem multiply_all_ok_iff : multiplyAll first.factor (others.map Content.factor) = .ok factor ↔
    (others ≠ [] → HaveNoCodes (first, others)) ∧ (product (first, others)).factor = factor := by
  cases others with
  | nil =>
    constructor
    · intro multiplied
      exact ⟨fun some => absurd rfl some, Except.ok.inj multiplied⟩
    · rintro ⟨-, rfl⟩
      rfl
  | cons second others =>
    rw [List.map_cons, multiplyAll, ← List.map_cons]
    simp only [Reading.bind_ok_iff, expr_ok_iff, exprs_ok_iff]
    constructor
    · rintro ⟨_, ⟨noCodes, rfl⟩, _, ⟨noOthers, rfl⟩, multiplied⟩
      exact ⟨fun _ => List.forall_mem_cons.mpr ⟨noCodes, noOthers⟩, Except.ok.inj multiplied⟩
    · rintro ⟨noCodes, rfl⟩
      obtain ⟨ofFirst, ofOthers⟩ := List.forall_mem_cons.mp (noCodes (List.cons_ne_nil _ _))
      exact ⟨_, ⟨ofFirst, rfl⟩, _, ⟨ofOthers, rfl⟩, rfl⟩

/-- A product has no class fields and is made without checks that fail exactly if no operand has class
fields. -/
theorem have_no_codes_iff {contents : Content × List Content} :
    (contents.2 ≠ [] → HaveNoCodes contents) ∧ (product contents).isCodes = false ↔
      HaveNoCodes contents := by
  obtain ⟨first, others⟩ := contents
  cases others with
  | nil => simp [HaveNoCodes, product]
  | cons second others => simp [product, ofExpr, isCodes]

end Content

/-- The check for codes finds nothing exactly if plain terms are united. -/
theorem unites_terms_iff {expr : Expr} (plainTree : IsPlainTree expr) :
    UnitesTerms expr ↔ expr.isPlainUnion = true := by
  constructor
  · intro unites
    clear plainTree
    induction unites with
    | term text => rfl
    | union operands inductionHypothesis =>
      exact (Expr.isPlainUnion_logical ..).mpr ⟨rfl, inductionHypothesis⟩
  · intro union
    induction plainTree with
    | word plain => exact .term _
    | reference isNamed => exact isNamed.elim
    | logical connective operands inductionHypothesis =>
      obtain ⟨rfl, unions⟩ := (Expr.isPlainUnion_logical ..).mp union
      exact .union (fun operand inside =>
        inductionHypothesis operand inside (unions operand inside))
    | proximity distance ofLeft ofRight => cases union
    | simultaneous count ofFirst ofSecond ofThird => cases union

/-- A tree of plain words gives codes exactly if it unites terms, and gives its words, each once. -/
theorem codes_ok_iff {expr : Expr} (plainTree : IsPlainTree expr) {codes : List Text} :
    expr.codes = .ok codes ↔ UnitesTerms expr ∧ expr.words.eraseDups = codes := by
  have distinct := distinctCodes_plain plainTree.words
  rw [unites_terms_iff plainTree]
  constructor
  · intro read
    obtain ⟨same, _⟩ := Expr.codes_of_words read
    refine ⟨?_, by rw [same, distinct]⟩
    unfold Expr.isPlainUnion
    rw [Expr.codes, Reading.bind_ok_iff] at read
    obtain ⟨checked, isOk, _⟩ := read
    rw [isOk]
    rfl
  · rintro ⟨union, rfl⟩
    have check : expr.checkPlainUnion = .ok () := by
      unfold Expr.isPlainUnion at union
      cases checked : expr.checkPlainUnion with
      | ok found => rfl
      | error fault =>
        rw [checked] at union
        cases union
    have some : expr.words.eraseDups ≠ [] := by
      obtain ⟨text, inside⟩ := List.exists_mem_of_ne_nil _ plainTree.some_words
      exact List.ne_nil_of_mem (List.mem_eraseDups.mpr inside)
    rw [Expr.codes, check, Reading.ok_bind, distinct]
    split
    · next none => exact absurd none some
    · rfl

/-- A plain factor is accepted in a field exactly if its content has no class fields and, for a class
field, unites terms; it becomes the factor of the content with the field. -/
theorem Content.inField_ok_iff {content : Content} (plain : content.factor.IsPlain) {field : Field}
    {fielded : Factor} :
    content.factor.inField field = .ok fielded ↔
      (content.isCodes = false ∧ (field ≠ .text → UnitesTerms content.expr)) ∧
        (content.inField field).factor = fielded := by
  cases isCodes : content.isCodes with
  | true => simp [factor_codes isCodes, Factor.inField]
  | false =>
    rw [factor_words isCodes] at plain ⊢
    cases plain with
    | words plainTree =>
      cases read : content.expr.codes with
      | ok found =>
        obtain ⟨unites, rfl⟩ := (codes_ok_iff plainTree).mp read
        cases field with
        | text => simp [Factor.inField, inField, factor, Content.isCodes]
        | primaryClass => simp [Factor.inField, inField, factor, Content.isCodes, read, unites]
        | furtherClass => simp [Factor.inField, inField, factor, Content.isCodes, read, unites]
      | error error =>
        have noUnion : ¬ UnitesTerms content.expr := by
          intro unites
          cases read.symm.trans ((codes_ok_iff plainTree).mpr ⟨unites, rfl⟩)
        cases field with
        | text => simp [Factor.inField, inField, factor, Content.isCodes]
        | primaryClass => simp [Factor.inField, read, noUnion]
        | furtherClass => simp [Factor.inField, read, noUnion]

end PriorArt.Query
