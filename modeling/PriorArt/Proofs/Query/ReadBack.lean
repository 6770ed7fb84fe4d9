import PriorArt.Proofs.Catalogue.Contents
import PriorArt.Proofs.Expr.Flat
import PriorArt.Proofs.Query.CodeTrees

/-!
# Reading a query back

The query of an expression is read back as the expression. The word factors of the query come
back as the operands of the intersection of the words, and behind them each group of codes as one
span. Without groups nothing is added and nothing is lost, so that the intersection of the
factors is the expression itself, up to flattening.
-/

namespace PriorArt

open Brackets Expr Phrase

/-- A tidy text that reads as an atom with the given factor. -/
structure ReadsFactor (text : Text) (factor : Factor) : Prop where
  tidy : IsTidy text
  reads : ∃ phrase, ReadsAtom text phrase ∧ phrase.factor = .ok factor

/-- No atom is read from the empty text. -/
theorem ReadsFactor.filled {text : Text} {factor : Factor} (reads : ReadsFactor text factor) :
    text ≠ [] := by
  rintro rfl
  obtain ⟨phrase, atom, _⟩ := reads.reads
  have read := atom 1 [] (Nat.le_refl 1) (by
    intro first inside
    cases inside)
  cases read

/-- Texts that read as factors read as a product of phrases for the factors when stars join
them. -/
theorem product_of_factors {texts : List Text} {factors : List Factor}
    (reads : List.Forall₂ ReadsFactor texts factors) (some : texts ≠ []) :
    ∃ read, ReadsProduct (Text.join '*' texts) read ∧
      factorsOf (read.1 :: read.2) = .ok factors := by
  induction reads with
  | nil => exact absurd rfl some
  | @cons text factor texts factors first others inductionHypothesis =>
    obtain ⟨phrase, atom, means⟩ := first.reads
    cases others with
    | nil =>
      rw [Text.join_single]
      exact ⟨(phrase, []), atom.union.product, factorsOf_cons means rfl⟩
    | cons second later =>
      obtain ⟨read, product, meanOthers⟩ := inductionHypothesis (by simp)
      rw [Text.join_cons (by simp)]
      exact ⟨(phrase, read.1 :: read.2), product.cons atom.union, factorsOf_cons means meanOthers⟩

/-- Texts that read as factors read as a query with these factors when stars join them. -/
theorem query_of_factors {texts : List Text} {factors : List Factor}
    (reads : List.Forall₂ ReadsFactor texts factors) :
    Query.parse (Text.join '*' texts) = .ok factors := by
  cases reads with
  | nil => rfl
  | @cons text factor texts factors first others =>
    have all : List.Forall₂ ReadsFactor (text :: texts) (factor :: factors) := .cons first others
    obtain ⟨read, product, means⟩ := product_of_factors all (by simp)
    have tidyAll : ∀ piece ∈ text :: texts, IsTidy piece :=
      forall_left (fun _ _ one => one.tidy) all
    have tidy := tidy_join (by decide : IsSign '*') tidyAll
    have kept : Text.trim (Text.normalized (Text.join '*' (text :: texts))) =
        Text.join '*' (text :: texts) := by
      rw [tidy.normal, Text.trim_solid tidy.solid]
    have filled : Text.join '*' (text :: texts) ≠ [] := by
      cases texts with
      | nil => simpa using first.filled
      | cons next rest => simp [Text.join_cons, first.filled]
    rw [Query.parse, kept]
    split
    · next empty => exact absurd empty filled
    · rw [Query.factorsOf, product.query]
      simp only [means]
      rfl

/-- Parts are put together in order. -/
theorem Parts.append_assoc (first second third : Parts) :
    first ++ second ++ third = first ++ (second ++ third) := by
  change Parts.append (Parts.append first second) third =
    Parts.append first (Parts.append second third)
  simp [Parts.append]

/-- The parts that search for nothing add nothing. -/
theorem Parts.append_empty (parts : Parts) : parts ++ Parts.empty = parts := by
  change Parts.append parts Parts.empty = parts
  simp [Parts.append, Parts.empty]

/-- The parts of two lists of operands together are those of the one and then those of the
other. -/
theorem productParts_append (meaning : Meaning) (front back : List Expr) :
    productParts meaning (front ++ back) =
      productParts meaning front ++ productParts meaning back := by
  induction front with
  | nil => rfl
  | cons expr others inductionHypothesis =>
    rw [List.cons_append, productParts, productParts, inductionHypothesis, Parts.append_assoc]

mutual

/-- The parts of an expression are those of its conjuncts. -/
theorem productParts_conjuncts (meaning : Meaning) (expr : Expr) :
    productParts meaning expr.conjuncts = expr.partsWith meaning := by
  match expr with
  | .logical .and first others =>
    rw [conjuncts, productParts_append, productParts_conjuncts meaning first,
      productParts_conjunctsOfAll meaning others, partsWith]
  | .logical .or first others => simp [conjuncts, productParts, Parts.append_empty]
  | .word text => simp [conjuncts, productParts, Parts.append_empty]
  | .reference id => simp [conjuncts, productParts, Parts.append_empty]
  | .proximity distance left right => simp [conjuncts, productParts, Parts.append_empty]
  | .simultaneous count first second third => simp [conjuncts, productParts, Parts.append_empty]

/-- The parts of several expressions are those of their conjuncts. -/
theorem productParts_conjunctsOfAll (meaning : Meaning) (exprs : List Expr) :
    productParts meaning (conjunctsOfAll exprs) = productParts meaning exprs := by
  match exprs with
  | [] => rfl
  | first :: others =>
    rw [conjunctsOfAll, productParts_append, productParts_conjuncts meaning first,
      productParts_conjunctsOfAll meaning others, productParts]

end

/-- Factors in the form of a query read as the expressions that they say, up to flattening. -/
theorem reads_words {words : List WordFactor} {exprs : List Expr}
    (say : List.Forall₂ FactorSays words exprs) :
    ∃ said : List Expr, List.Forall₂ ReadsFactor (words.filterMap WordFactor.render?)
      (said.map Factor.words) ∧ flattenAll .and said = flattenAll .and exprs := by
  induction say with
  | nil => exact ⟨[], .nil, rfl⟩
  | @cons factor expr words exprs first others inductionHypothesis =>
    obtain ⟨later, readsLater, sameLater⟩ := inductionHypothesis
    obtain ⟨text, rendered, tidy, phrase, atom, said, means, same⟩ := first
    refine ⟨said :: later, ?_, ?_⟩
    · rw [List.filterMap_cons, rendered, List.map_cons]
      exact .cons ⟨tidy, phrase, atom, means⟩ readsLater
    · rw [flattenAll, flattenAll, same, sameLater]

/-- The span of the codes of a group in both classification fields. -/
def spanOf (codes : List Text) : Factor := .codes ⟨codes.eraseDups, true, true⟩

/-- Plain codes in the form of a query read as spans. -/
theorem reads_spans {lists : List (List Text)} (plain : ∀ codes ∈ lists, ArePlain codes) :
    List.Forall₂ ReadsFactor
      ((lists.map (fun codes => parenthesized (Text.join '+' codes))).filterMap renderClass?)
      (lists.map spanOf) := by
  induction lists with
  | nil => exact .nil
  | cons codes others inductionHypothesis =>
    obtain ⟨text, rendered, tidy, reads⟩ := reads_span (plain codes (by simp))
    have later := inductionHypothesis (fun other inside => plain other (by simp [inside]))
    rw [List.map_cons, List.map_cons, List.filterMap_cons, rendered]
    exact .cons ⟨tidy, reads⟩ later

/-- The query of parts that say expressions and of groups of plain codes is read back. -/
theorem parse_said {parts : Parts} {exprs : List Expr} {lists : List (List Text)}
    (say : List.Forall₂ FactorSays parts.words exprs)
    (classes : parts.classes = lists.map (fun codes => parenthesized (Text.join '+' codes)))
    (plain : ∀ codes ∈ lists, ArePlain codes) :
    ∃ said : List Expr, Query.parse parts.render =
        .ok (said.map Factor.words ++ lists.map spanOf) ∧
      flattenAll .and said = flattenAll .and exprs := by
  obtain ⟨said, reads, same⟩ := reads_words say
  refine ⟨said, ?_, same⟩
  rw [Parts.render, classes]
  exact query_of_factors (List.rel_append reads (reads_spans plain))

/-- The query of parts that write expressions and of groups of plain codes is read back. -/
theorem parse_render {parts : Parts} {exprs : List Expr} {lists : List (List Text)}
    (write : List.Forall₂ FactorWrites parts.words exprs)
    (classes : parts.classes = lists.map (fun codes => parenthesized (Text.join '+' codes)))
    (plain : ∀ codes ∈ lists, ArePlain codes) :
    ∃ said : List Expr, Query.parse parts.render =
        .ok (said.map Factor.words ++ lists.map spanOf) ∧
      flattenAll .and said = flattenAll .and exprs :=
  parse_said (write.imp (fun _ _ one => one.said)) classes plain

/-- A nested intersection of word trees and code trees. -/
inductive IsQueryTree (catalogue : Catalogue) : Expr → Prop where
  | words {tree : Expr} (wordTree : IsWordTree tree) : IsQueryTree catalogue tree
  | codes {tree : Expr} (codeTree : IsCodeTree catalogue tree) : IsQueryTree catalogue tree
  | intersection {first : Expr} {others : List Expr}
      (operands : ∀ operand ∈ first :: others, IsQueryTree catalogue operand) :
      IsQueryTree catalogue (.logical .and first others)

/-- Whether an expression refers to no entity. -/
def Expr.refersToNothing (expr : Expr) : Bool := expr.references.isEmpty

/-- The conjuncts of an expression that refer to nothing. -/
def Expr.wordConjuncts (expr : Expr) : List Expr := expr.conjuncts.filter refersToNothing

/-- The conjuncts of an expression that refer to entities. -/
def Expr.codeConjuncts (expr : Expr) : List Expr :=
  expr.conjuncts.filter (fun conjunct => !conjunct.refersToNothing)

/-- A word tree refers to nothing. -/
theorem word_tree_references {tree : Expr} (wordTree : IsWordTree tree) :
    tree.references = [] := by
  induction wordTree with
  | word plain => rfl
  | intersection operands inductionHypothesis => simpa using inductionHypothesis
  | union operands apart inductionHypothesis => simpa using inductionHypothesis
  | proximity distance ofLeft ofRight leftHypothesis rightHypothesis =>
    simp [leftHypothesis, rightHypothesis]
  | simultaneous count ofFirst ofSecond ofThird firstHypothesis secondHypothesis
      thirdHypothesis =>
    simp [firstHypothesis, secondHypothesis, thirdHypothesis]

/-- A code tree refers to groups. -/
theorem code_tree_references {catalogue : Catalogue} {tree : Expr}
    (codeTree : IsCodeTree catalogue tree) : tree.references ≠ [] := by
  induction codeTree with
  | group found filled plain => simp
  | @union first others operands inductionHypothesis =>
    have ofFirst := inductionHypothesis first (by simp)
    simp [ofFirst]

/-- A word tree or a code tree, told apart by its references. -/
def IsConjunct (catalogue : Catalogue) (tree : Expr) : Prop :=
  (IsWordTree tree ∧ tree.refersToNothing = true) ∨
    (IsCodeTree catalogue tree ∧ tree.refersToNothing = false)

/-- The conjuncts of a word tree are word trees. -/
theorem word_tree_conjuncts {tree : Expr} (wordTree : IsWordTree tree) :
    ∀ conjunct ∈ tree.conjuncts, IsWordTree conjunct := by
  induction wordTree with
  | word plain => simpa [conjuncts] using IsWordTree.word plain
  | intersection operands inductionHypothesis =>
    intro conjunct inside
    obtain ⟨operand, listed, ofOperand⟩ := mem_conjuncts inside
    exact inductionHypothesis operand listed conjunct ofOperand
  | union operands apart inductionHypothesis =>
    simpa [conjuncts] using IsWordTree.union operands apart
  | proximity distance ofLeft ofRight leftHypothesis rightHypothesis =>
    simpa [conjuncts] using IsWordTree.proximity distance ofLeft ofRight
  | simultaneous count ofFirst ofSecond ofThird firstHypothesis secondHypothesis
      thirdHypothesis =>
    simpa [conjuncts] using IsWordTree.simultaneous count ofFirst ofSecond ofThird

/-- The conjuncts of a query tree are word trees and code trees. -/
theorem query_tree_conjuncts {catalogue : Catalogue} {tree : Expr}
    (queryTree : IsQueryTree catalogue tree) :
    ∀ conjunct ∈ tree.conjuncts, IsConjunct catalogue conjunct := by
  induction queryTree with
  | words wordTree =>
    intro conjunct inside
    have ofConjunct := word_tree_conjuncts wordTree conjunct inside
    exact .inl ⟨ofConjunct, by simp [refersToNothing, word_tree_references ofConjunct]⟩
  | @codes tree codeTree =>
    have refers := code_tree_references codeTree
    intro conjunct inside
    have same : conjunct = tree := by
      cases codeTree with
      | group found filled plain => simpa [conjuncts] using inside
      | union operands => simpa [conjuncts] using inside
    rw [same]
    exact .inr ⟨codeTree, by simp [refersToNothing, refers]⟩
  | intersection operands inductionHypothesis =>
    intro conjunct inside
    obtain ⟨operand, listed, ofOperand⟩ := mem_conjuncts inside
    exact inductionHypothesis operand listed conjunct ofOperand

/-- The parts of word trees and code trees together. -/
theorem parts_of_conjuncts {catalogue : Catalogue} {conjuncts : List Expr}
    (plainWords : ∀ word, IsPlain word → catalogue.meaning.word word = .ofTrimmed word)
    (each : ∀ conjunct ∈ conjuncts, IsConjunct catalogue conjunct) :
    ∃ exprs, List.Forall₂ FactorWrites (productParts catalogue.meaning conjuncts).words exprs ∧
      flattenAll .and exprs = flattenAll .and (conjuncts.filter refersToNothing) ∧
      (productParts catalogue.meaning conjuncts).classes =
        ((conjuncts.filter (fun conjunct => !conjunct.refersToNothing)).map
          catalogue.treeCodes).map (fun codes => parenthesized (Text.join '+' codes)) := by
  induction conjuncts with
  | nil => exact ⟨[], .nil, rfl, rfl⟩
  | cons conjunct others inductionHypothesis =>
    obtain ⟨later, writeLater, sameLater, classesLater⟩ :=
      inductionHypothesis (fun other inside => each other (by simp [inside]))
    have wordsOf : (productParts catalogue.meaning (conjunct :: others)).words =
        (conjunct.partsWith catalogue.meaning).words
          ++ (productParts catalogue.meaning others).words := rfl
    have classesOf : (productParts catalogue.meaning (conjunct :: others)).classes =
        (conjunct.partsWith catalogue.meaning).classes
          ++ (productParts catalogue.meaning others).classes := rfl
    rw [wordsOf, classesOf]
    rcases each conjunct (by simp) with ⟨wordTree, nothing⟩ | ⟨codeTree, refers⟩
    · obtain ⟨first, further, write, same⟩ := (word_tree_translates plainWords wordTree).write
      refine ⟨(first :: further) ++ later, List.rel_append write.words writeLater, ?_, ?_⟩
      · rw [flattenAll_append, same, sameLater, List.filter_cons_of_pos nothing, flattenAll]
      · rw [write.classes, classesLater, List.filter_cons_of_neg (by simp [nothing])]
        rfl
    · have parts : conjunct.partsWith catalogue.meaning =
          codeParts (catalogue.treeCodes conjunct) := (code_tree_parts codeTree).2
      refine ⟨later, ?_, ?_, ?_⟩
      · rw [parts]
        exact writeLater
      · rw [sameLater, List.filter_cons_of_neg (by simp [refers])]
      · rw [parts, classesLater, List.filter_cons_of_pos (by simp [refers])]
        rfl

/-- Among groups of codes alone no word is defined. -/
theorem undefined_of_groups {catalogue : Catalogue}
    (groups : ∀ entity ∈ catalogue.entities, entity.kind = .classification) (word : Text) :
    catalogue.meaning.word word = .ofTrimmed word := by
  have undefined : catalogue.wordOfToken? word = none := by
    unfold Catalogue.wordOfToken?
    cases found : catalogue.follow? catalogue.wordTokens word with
    | none => rfl
    | some entity =>
      have kind := groups entity (Catalogue.mem_of_follow found)
      cases entity with
      | word entity => cases kind
      | classification entity => rfl
      | expression entity => rfl
  simp [Catalogue.meaning, Catalogue.wordParts, undefined]

/-- The query of a word tree among groups alone is read back as factors whose intersection is the
tree, up to flattening. -/
theorem word_tree_read_back {catalogue : Catalogue} {tree : Expr}
    (groups : ∀ entity ∈ catalogue.entities, entity.kind = .classification)
    (wordTree : IsWordTree tree) :
    ∃ first others,
      Query.parse (catalogue.query tree) = .ok ((first :: others).map Factor.words) ∧
        (logical .and first others).flatten = tree.flatten := by
  obtain ⟨expr, exprs, write, same⟩ :=
    (word_tree_translates (fun word _ => undefined_of_groups groups word) wordTree).write
  have noClasses : (tree.partsWith catalogue.meaning).classes =
      ([] : List (List Text)).map (fun codes => parenthesized (Text.join '+' codes)) :=
    write.classes
  obtain ⟨said, parsed, sameSaid⟩ := parse_render write.words noClasses (by simp)
  rw [same] at sameSaid
  cases said with
  | nil => exact absurd sameSaid (by simp [flattenAll, operandList])
  | cons first others =>
    refine ⟨first, others, ?_, ?_⟩
    · rwa [List.map_nil, List.append_nil] at parsed
    · apply flatten_eq_of_operandList .and
      rw [operandList_logical_all, sameSaid]

/-- The unions of groups in a query tree have plain codes. -/
theorem code_conjuncts_plain {catalogue : Catalogue} {tree : Expr}
    (queryTree : IsQueryTree catalogue tree) :
    ∀ codes ∈ tree.codeConjuncts.map catalogue.treeCodes, ArePlain codes := by
  rw [List.forall_mem_map]
  intro conjunct inside
  obtain ⟨listed, refers⟩ := List.mem_filter.mp inside
  rcases query_tree_conjuncts queryTree conjunct listed with ⟨_, nothing⟩ | ⟨codeTree, _⟩
  · rw [nothing] at refers
    cases refers
  · exact (code_tree_parts codeTree).1

/-- The query of a tree is read back. For a word tree without stored entities the factors are
expressions whose intersection is the tree, up to flattening. For a nested intersection of word
trees and of unions of groups, with only groups of codes stored, the expressions come first and
their intersection is that of the word trees, up to flattening; behind them comes each union of
groups, in order, as one span of its distinct codes in both classification fields. -/
theorem query_read_back (tree : Expr) :
    (∀ limit : Int, IsWordTree tree → ∃ first others,
      Query.parse ((Catalogue.empty limit).query tree) =
          .ok ((first :: others).map Factor.words) ∧
        (logical .and first others).flatten = tree.flatten) ∧
    (∀ catalogue : Catalogue, (∀ entity ∈ catalogue.entities, entity.kind = .classification) →
      IsQueryTree catalogue tree → ∃ said,
        Query.parse (catalogue.query tree) =
            .ok (said.map Factor.words ++
              tree.codeConjuncts.map (fun group => spanOf (catalogue.treeCodes group))) ∧
          (conjunction said).map flatten = (conjunction tree.wordConjuncts).map flatten) := by
  constructor
  · intro limit wordTree
    apply word_tree_read_back _ wordTree
    intro entity stored
    cases stored
  · intro catalogue groups queryTree
    obtain ⟨exprs, write, same, classes⟩ :=
      parts_of_conjuncts (fun word _ => undefined_of_groups groups word)
        (query_tree_conjuncts queryTree)
    rw [productParts_conjuncts] at write classes
    obtain ⟨said, parsed, sameSaid⟩ :=
      parse_render write classes (code_conjuncts_plain queryTree)
    refine ⟨said, ?_, conjunction_congr (sameSaid.trans same)⟩
    rw [List.map_map] at parsed
    exact parsed

/-- A union of an intersection and a brace. The intersection has a nearness with a union at its
right side. -/
def sampleTree : Expr :=
  .logical .or
    (.logical .and (.word ['a'])
      [.proximity ⟨.sentences, 0⟩ (.word ['3', 'G'])
        (.logical .or (.word ['b']) [.word ['c', '/', '2']])])
    [.simultaneous 12 (.word ['a']) (.word ['b']) (.logical .and (.word ['c']) [.word ['d']])]

/-- A catalogue of two groups that share a code. -/
def sampleGroups : Catalogue :=
  { Catalogue.empty 2 with entities :=
      [.classification ⟨['1'], [], [], [['H', '0', '4'], ['G', '0', '6', '/', '0']]⟩,
        .classification ⟨['2'], [], [], [['H', '0', '4']]⟩] }

/-- The sample tree in an intersection with a union of the two groups. -/
def sampleQuery : Expr :=
  .logical .and (.logical .or (.reference ['1']) [.reference ['2']]) [sampleTree]

/-- The sample tree is a word tree. -/
theorem sample_word_tree : IsWordTree sampleTree := by
  have word : ∀ text, IsPlain text → IsWordTree (.word text) := fun _ plain => .word plain
  have a := word ['a'] (by decide)
  have b := word ['b'] (by decide)
  have c := word ['c'] (by decide)
  have d := word ['d'] (by decide)
  have code := word ['c', '/', '2'] (by decide)
  have network := word ['3', 'G'] (by decide)
  refine .union ?_ ?_
  · simp only [List.forall_mem_cons]
    refine ⟨.intersection ?_, .simultaneous 12 a b (.intersection ?_), by simp⟩
    · simp only [List.forall_mem_cons]
      refine ⟨a, .proximity _ network (.union ?_ ?_), by simp⟩
      · simp [b, code]
      · simp
    · simp [c, d]
  · simp

/-- The sample tree is read back, by itself and in an intersection with groups of codes. -/
theorem sample_query_read_back :
    (IsWordTree sampleTree ∧ ∃ first others,
      Query.parse ((Catalogue.empty 2).query sampleTree) =
          .ok ((first :: others).map Factor.words) ∧
        (logical .and first others).flatten = sampleTree.flatten) ∧
    ((∀ entity ∈ sampleGroups.entities, entity.kind = .classification) ∧
      IsQueryTree sampleGroups sampleQuery ∧ ∃ said,
        Query.parse (sampleGroups.query sampleQuery) =
            .ok (said.map Factor.words ++
              sampleQuery.codeConjuncts.map
                (fun group => spanOf (sampleGroups.treeCodes group))) ∧
          (conjunction said).map flatten =
            (conjunction sampleQuery.wordConjuncts).map flatten) := by
  have groups : ∀ entity ∈ sampleGroups.entities, entity.kind = .classification := by decide
  have queryTree : IsQueryTree sampleGroups sampleQuery := by
    refine .intersection ?_
    simp only [List.forall_mem_cons]
    refine ⟨.codes (.union ?_), .words sample_word_tree, by simp⟩
    simp only [List.forall_mem_cons]
    exact ⟨.group rfl (by decide) (by decide), .group rfl (by decide) (by decide), by simp⟩
  exact ⟨⟨sample_word_tree, (query_read_back sampleTree).1 2 sample_word_tree⟩, groups, queryTree,
    (query_read_back sampleQuery).2 sampleGroups groups queryTree⟩

end PriorArt
