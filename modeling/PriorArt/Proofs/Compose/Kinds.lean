import PriorArt.Proofs.Catalogue.Agreement
import PriorArt.Proofs.Compose.Runs
import PriorArt.Proofs.Import.Factors
import PriorArt.Proofs.Query.Kinds
import PriorArt.Proofs.Workspace.Substantial

/-!
# The checks of a composition

A composition checks its sources before it makes a tree of them: of a word or a group it only looks at
the kind of the entity, of an expression it looks at what the tree searches for. The checks agree with
what is written for the tree. So a composed nearness is always written as a nearness, and a composed
union never as its logical form.

That takes two things. A stored word must search for words and a stored group for codes, which holds
because no such entity is stored without content. And storing the tree must not change what its operands
mean, which holds because they refer to words and groups alone.
-/

namespace PriorArt

open Action Compose

/-- Branches that fit together are united without the fallback. -/
theorem Parts.unite_without_fallback {branches : List Parts}
    (fit : ¬ (ContentKind.mixed ∈ branches.map kind ∨
      ContentKind.words ∈ branches.map kind ∧ ContentKind.classes ∈ branches.map kind))
    (fallback other : Parts) : unite fallback branches = unite other branches := by
  simp only [unite, List.contains_eq_mem, Bool.or_eq_true, Bool.and_eq_true, decide_eq_true_eq]
  rw [if_neg fit, if_neg fit]

/-- Sources can be united if none of them searches for words and for codes, and not some of them for
words and some for codes. -/
theorem Compose.canUnite_iff {catalogue : Catalogue} {sources : List Entity} :
    canUnite catalogue sources = true ↔
      ¬ (ContentKind.mixed ∈ sources.map (contentKind catalogue) ∨
        ContentKind.words ∈ sources.map (contentKind catalogue) ∧
          ContentKind.classes ∈ sources.map (contentKind catalogue)) := by
  simp only [canUnite, List.contains_eq_mem, Bool.and_eq_true, Bool.not_eq_true', Bool.and_eq_false_iff,
    decide_eq_false_iff_not]
  tauto

namespace Catalogue

variable {catalogue : Catalogue}

/-- A source of a composition is taken for what its operand searches for. -/
theorem IsSubstantial.kind_of_operand (substantial : catalogue.IsSubstantial) {id : Text}
    {source : Entity} (found : catalogue.find? id = some source) {root : Expr}
    (ofSource : operand? source = some root) :
    catalogue.contentKind root = Compose.contentKind catalogue source := by
  have own := substantial source (List.mem_of_find?_eq_some found)
  have sameId := id_of_find found
  cases source with
  | word word =>
    have defined : word.definition.allBlank = false := own
    obtain rfl : word.id = id := sameId
    obtain rfl := Option.some.inj ofSource
    rw [contentKind, parts, Expr.partsWith, reference_parts_word found, WordEntity.content,
      Parts.ofTrimmed_trim, Text.isEmpty_of_visible defined]
    exact Parts.kind_of_trimmed defined
  | classification group =>
    have filled : group.codes ≠ [] := own
    obtain rfl : group.id = id := sameId
    obtain rfl := Option.some.inj ofSource
    rw [contentKind, parts_reference_group filled found, ClassEntity.union,
      if_neg (by simpa using filled)]
    exact Parts.kind_of_group _
  | expression expression =>
    have rooted : expression.root = some root := ofSource
    rw [Compose.contentKind, rooted]

/-- Sources of a composition are taken for what their operands search for. -/
theorem IsSubstantial.kinds_of_operands (substantial : catalogue.IsSubstantial) {ids : List Text}
    {sources : List Entity} {operands : List Expr}
    (stored : Composition.Sources catalogue ids sources operands) :
    operands.map catalogue.contentKind = sources.map (Compose.contentKind catalogue) := by
  induction stored with
  | none => rfl
  | next found ofSource others inductionHypothesis =>
    rw [List.map_cons, List.map_cons, substantial.kind_of_operand found ofSource,
      inductionHypothesis]

/-- A nearness is written as one if both sides search for words. -/
theorem parts_near {left right : Expr} (ofLeft : catalogue.contentKind left = .words)
    (ofRight : catalogue.contentKind right = .words) (distance : Distance) :
    catalogue.parts (.proximity distance left right) =
      .ofFactor (.near (.ofDistance (catalogue.parts left).wordsText
        (catalogue.parts right).wordsText distance)) := by
  have bothWords : (catalogue.parts left).kind = .words ∧ (catalogue.parts right).kind = .words :=
    ⟨ofLeft, ofRight⟩
  rw [parts, Expr.partsWith, Parts.relate]
  exact if_pos (by simpa [parts] using bothWords)

/-- Three operands are written in braces if they all search for words. -/
theorem parts_braced {first second third : Expr} (ofFirst : catalogue.contentKind first = .words)
    (ofSecond : catalogue.contentKind second = .words)
    (ofThird : catalogue.contentKind third = .words) (count : Nat) :
    catalogue.parts (.simultaneous count first second third) =
      .ofText (Expr.bracedText (Brackets.regroup (catalogue.parts first).wordsText)
        (Brackets.regroup (catalogue.parts second).wordsText)
        (Brackets.regroup (catalogue.parts third).wordsText) count) := by
  have allWords : (catalogue.parts first).kind = .words ∧ (catalogue.parts second).kind = .words ∧
      (catalogue.parts third).kind = .words := ⟨ofFirst, ofSecond, ofThird⟩
  rw [parts, Expr.partsWith, Parts.gather]
  exact if_pos (by simpa [parts, and_assoc] using allWords)

/-- A union of operands that fit together is united, whatever the fallback is. -/
theorem parts_united {first : Expr} {others : List Expr}
    (fit : ¬ (ContentKind.mixed ∈ (first :: others).map catalogue.contentKind ∨
      ContentKind.words ∈ (first :: others).map catalogue.contentKind ∧
        ContentKind.classes ∈ (first :: others).map catalogue.contentKind))
    (fallback : Parts) :
    catalogue.parts (.logical .or first others) =
      .unite fallback ((first :: others).map catalogue.parts) := by
  have kinds : ((first :: others).map catalogue.parts).map Parts.kind =
      (first :: others).map catalogue.contentKind := List.map_map
  rw [← kinds] at fit
  rw [parts, Expr.partsWith, Expr.eachParts_eq]
  exact Parts.unite_without_fallback fit _ fallback

end Catalogue

/-- Storing an expression does not change what expressions mean that refer to words and groups alone. -/
theorem Action.ExpressionRun.parts {label : Text} {root : Expr} {before after : Workspace}
    {expression : ExpressionEntity} (run : ExpressionRun label root before (.ok expression) after)
    (grounded : before.catalogue.IsGrounded) (groundedAfter : after.catalogue.IsGrounded)
    {expr : Expr} (refers : ∀ id ∈ expr.references, before.catalogue.HasIssuedLeaf id) :
    after.catalogue.parts expr = before.catalogue.parts expr := by
  have stored : after.catalogue.find? expression.id = some (.expression expression) := by
    rw [run.find, if_pos rfl]
  have tokens : ∀ text, after.catalogue.wordOfToken? text = before.catalogue.wordOfToken? text := by
    intro text
    refine (run.grows grounded.indexed).2.tokens text (fun word isStored fresh => ?_)
    have found := groundedAfter.indexed.distinct.find isStored
    rw [run.find] at found
    split at found
    · cases found
    · exact absurd (found.symm.trans fresh) nofun
  refine Catalogue.parts_agree_on (fun text _ => tokens text) (fun id inside => ?_)
  have issued := refers id inside
  refine ⟨?_, fun entity found => groundedAfter.not_expression issued found⟩
  have another : id ≠ expression.id := by
    rintro rfl
    exact groundedAfter.not_expression issued stored rfl
  rw [run.find, if_neg another]

section Composed

variable {before after : Workspace} (grounded : before.catalogue.IsGrounded)
  (substantial : before.catalogue.IsSubstantial) {composition : Composition}
  {expression : ExpressionEntity}
  (composed : runOn composition.step before = (.ok expression, after))
include grounded substantial composed

/-- What a successful composition stores, and what its operands mean behind it: they search for what
their sources were taken for. -/
theorem composition_stores : ∃ label root,
    Composition.Makes before.catalogue composition label root ∧
      expression.label = label ∧ expression.root = some root ∧
      expression.fitsNearness = decide (before.catalogue.contentKind root = .words) ∧
      after.catalogue.find? expression.id = some (.expression expression) ∧
      ∀ ids sources operands, Composition.Sources before.catalogue ids sources operands →
        operands.map after.catalogue.contentKind =
          sources.map (Compose.contentKind before.catalogue) := by
  cases Composition.composition_run composed with
  | @defined label root makes _ _ defined =>
    have run := expression_run root before defined
    have groundedAfter : after.catalogue.IsGrounded := by
      have advances := advances_define_expression label (fun grounded => makes.refer grounded) grounded
      rw [defined] at advances
      exact advances.grounded
    have isExpression := run.expression_eq
    refine ⟨label, root, makes, ?_, ?_, ?_, ?_, ?_⟩
    · rw [isExpression]
      rfl
    · rw [isExpression]
      rfl
    · rw [isExpression]
      rfl
    · rw [run.find, if_pos rfl]
    · intro ids sources operands stored
      rw [← substantial.kinds_of_operands stored]
      refine List.map_congr_left (fun operand inside => congrArg Parts.kind ?_)
      exact run.parts grounded groundedAfter (stored.refer grounded operand inside)

end Composed

/-- A composed operator is written as this operator, after any lines, imports, compositions and
removals. A composed nearness is a single nearness of the words of its operands within the distance
that was given, and three operands together are a single factor in braces; both search for words alone.
A composed union is united, and its logical form is not used, whatever it is. -/
theorem composed_operators_are_written {requests : List Request}
    (keep : ∀ request ∈ requests, request.KeepsContent) (limit : Int) (tokens : TokenSource)
    {composition : Composition} {expression : ExpressionEntity} {after : Workspace}
    (composed : runOn composition.step (afterRequests requests ⟨Catalogue.empty limit, tokens⟩) =
      (.ok expression, after)) :
    after.catalogue.find? expression.id = some (.expression expression) ∧
      (∀ left right mode count, composition = .proximity left right mode count →
        ∃ distance leftRoot rightRoot, Distance.ofJson mode count = .ok distance ∧
          expression.root = some (.proximity distance leftRoot rightRoot) ∧
          expression.fitsNearness = true ∧
          after.catalogue.parts (.proximity distance leftRoot rightRoot) =
            .ofFactor (.near (.ofDistance (after.catalogue.parts leftRoot).wordsText
              (after.catalogue.parts rightRoot).wordsText distance))) ∧
      (∀ ids count, composition = .simultaneous ids count →
        ∃ words first second third, distanceCount count = .ok words ∧
          expression.root = some (.simultaneous words first second third) ∧
          expression.fitsNearness = true ∧
          after.catalogue.parts (.simultaneous words first second third) =
            .ofText (Expr.bracedText (Brackets.regroup (after.catalogue.parts first).wordsText)
              (Brackets.regroup (after.catalogue.parts second).wordsText)
              (Brackets.regroup (after.catalogue.parts third).wordsText) words)) ∧
      ∀ ids, composition = .union ids → ∃ first others,
        expression.root = some (.logical .or first others) ∧
          ∀ fallback, after.catalogue.parts (.logical .or first others) =
            .unite fallback ((first :: others).map after.catalogue.parts) := by
  have managed : ∀ request ∈ requests, request.IsManaged :=
    fun request inside => (keep request inside).managed
  have grounded := grounded_after_requests managed limit tokens
  have substantial := @substantial_after_requests requests keep ⟨Catalogue.empty limit, tokens⟩
    (Catalogue.substantial_empty limit)
  generalize afterRequests requests ⟨Catalogue.empty limit, tokens⟩ = before at *
  obtain ⟨label, root, makes, _, rooted, fits, found, kinds⟩ :=
    composition_stores grounded substantial composed
  have search : ∀ {ids sources operands},
      Composition.Sources before.catalogue ids sources operands →
      (∀ source ∈ sources, Compose.contentKind before.catalogue source = .words) →
      ∀ operand ∈ operands, after.catalogue.contentKind operand = .words := by
    intro ids sources operands stored fit operand inside
    have listed := List.mem_map_of_mem (f := after.catalogue.contentKind) inside
    rw [kinds ids sources operands stored] at listed
    obtain ⟨source, isSource, same⟩ := List.mem_map.mp listed
    rw [← same, fit source isSource]
  refine ⟨found, ?_, ?_, ?_⟩
  · rintro left right mode count rfl
    cases makes with
    | @proximity _ _ _ _ leftRoot rightRoot _ _ distance stored fit within =>
      have each := search stored fit
      simp only [List.forall_mem_cons] at each
      refine ⟨distance, leftRoot, rightRoot, within, rooted, ?_,
        Catalogue.parts_near each.1 each.2.1 distance⟩
      rw [fits, Catalogue.contentKind, Catalogue.parts, Expr.kind_of_proximity]
      rfl
  · rintro ids count rfl
    cases makes with
    | @simultaneous _ sources first second third _ words stored fit counted =>
      have each := search stored fit
      simp only [List.forall_mem_cons] at each
      refine ⟨words, first, second, third, counted, rooted, ?_,
        Catalogue.parts_braced each.1 each.2.1 each.2.2.1 words⟩
      rw [fits, Catalogue.contentKind, Catalogue.parts, Expr.kind_of_simultaneous]
      rfl
  · rintro ids rfl
    cases makes with
    | @union _ sources first others several stored unites =>
      refine ⟨first, others, rooted, Catalogue.parts_united ?_⟩
      rw [kinds _ _ _ stored]
      exact canUnite_iff.mp unites

/-- A word, a group, and an expression that refers to the group, which is then removed. -/
def danglingRequests : List Request :=
  [.line ['A', '=', 'X', '+', 'Y'], .line ['G', '=', '(', 'H', ')', '/', 'C', 'P'],
    .line ['E', '=', 'G', '*', 'A'], .operate (.erase ['C', 'B', '-', '0', '0', '0', '1'])]

/-- The workspace after these requests. -/
def dangling : Workspace :=
  afterRequests danglingRequests ⟨Catalogue.empty 9, TokenSource.standard (congruential 1)⟩

/-- The expression near the word. -/
def danglingNearness : Composition :=
  .proximity ['E', 'B', '-', '0', '0', '0', '1'] ['W', 'B', '-', '0', '0', '0', '1']
    (.str "NNn".toList) (.int 5)

/-- The expression united with the word. -/
def danglingUnion : Composition :=
  .union [['E', 'B', '-', '0', '0', '0', '1'], ['W', 'B', '-', '0', '0', '0', '1']]

/-- The expression fits the word, because it searches for words alone now that the group is gone. -/
theorem composed_operators_are_written_dangling :
    (∀ request ∈ danglingRequests, request.KeepsContent) ∧
      (∃ expression after left right, runOn danglingNearness.step dangling = (.ok expression, after) ∧
        expression.root = some (.proximity ⟨.words, 5⟩ left right) ∧
        after.catalogue.parts (.proximity ⟨.words, 5⟩ left right) =
          .ofFactor (.near (.ofDistance (after.catalogue.parts left).wordsText
            (after.catalogue.parts right).wordsText ⟨.words, 5⟩))) ∧
      ∃ expression after first others, runOn danglingUnion.step dangling = (.ok expression, after) ∧
        expression.root = some (.logical .or first others) ∧
        ∀ fallback, after.catalogue.parts (.logical .or first others) =
          .unite fallback ((first :: others).map after.catalogue.parts) := by
  have keep : ∀ request ∈ danglingRequests, request.KeepsContent := by
    simp [danglingRequests, Request.KeepsContent]
  refine ⟨keep, ?_, ?_⟩
  · obtain ⟨expression, after, composed⟩ : ∃ expression after,
        runOn danglingNearness.step dangling = (.ok expression, after) := ⟨_, _, rfl⟩
    obtain ⟨distance, left, right, within, rooted, _, written⟩ :=
      (composed_operators_are_written keep 9 _ composed).2.1 _ _ _ _ rfl
    obtain rfl : ⟨.words, 5⟩ = distance := Except.ok.inj within
    exact ⟨expression, after, left, right, composed, rooted, written⟩
  · obtain ⟨expression, after, composed⟩ : ∃ expression after,
        runOn danglingUnion.step dangling = (.ok expression, after) := ⟨_, _, rfl⟩
    obtain ⟨first, others, rooted, written⟩ :=
      (composed_operators_are_written keep 9 _ composed).2.2.2 _ rfl
    exact ⟨expression, after, first, others, composed, rooted, written⟩

end PriorArt
