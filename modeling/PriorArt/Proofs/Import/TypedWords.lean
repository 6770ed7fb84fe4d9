import PriorArt.Proofs.Import.Failures
import PriorArt.Proofs.Query.Operands
import PriorArt.Proofs.Query.PlainUnions

/-!
# Words as they are typed

An import without further spellings defines the word for a union of plain words as the union of its
distinct words in brackets. All words that such imports store are of this form, and a word is found by
the text of its union only. So the expression that is stored for a factor says the factor, where each
union of words, taken apart by an import, stands for its distinct words.
-/

namespace PriorArt

open Brackets Expr

/-- The words between the plus signs of a union of plain words are its words. -/
theorem ArePlain.pieces {texts : List Text} (plain : ArePlain texts) :
    Text.pieces '+' (Text.join '+' texts) = texts := by
  have noPlus : ∀ text ∈ texts, '+' ∉ text := fun text inside plus =>
    absurd ((plain.plain text inside).chars '+' plus).2.2.2 (by decide)
  exact List.splitOn_intercalate '+' noPlus plain.filled

/-- A tree of plain words has plain words, at least one. -/
theorem IsPlainTree.are_plain {tree : Expr} (plainTree : IsPlainTree tree) : ArePlain tree.words :=
  ⟨plainTree.some_words, plainTree.words⟩

namespace Import

open Action

/-- The definition of a word that is searched as it is typed. -/
def typedDefinition (key : Text) : Text :=
  parenthesized (if (typedVariants key).isEmpty then key else Text.join '+' (typedVariants key))

/-- The words of a union with plus signs between them are searched as they are typed, each once. -/
theorem typed_variants_join {texts : List Text} (plain : ArePlain texts) :
    typedVariants (Text.join '+' texts) = texts.eraseDups := by
  have filled : ∀ text ∈ texts, (!text.isEmpty) = true := fun text inside => by
    simp [(plain.plain text inside).filled]
  rw [typedVariants, plain.pieces, List.filter_eq_self.mpr filled]

end Import

/-- A word whose key is a union of plain words and whose definition is as that union is typed. -/
structure WordEntity.IsTyped (word : WordEntity) : Prop where
  key : ∃ texts, ArePlain texts ∧ word.key = Text.join '+' texts
  definition : word.definition = Import.typedDefinition word.key

namespace Catalogue

/-- A property that is kept by giving out ids, by storing groups and expressions, and by storing new
words as they are typed. -/
structure IsKeptByTyping (property : Catalogue → Prop) : Prop where
  taken : ∀ {before : Catalogue} (kind : EntityKind), property before →
    property (before.takeId kind).2
  other : ∀ {before : Catalogue} (entity : Entity), entity.kind ≠ .word → property before →
    property (before.store entity)
  word : ∀ {before : Catalogue} (word : WordEntity), word.id = (before.takeId .word).1 →
    word.IsTyped → property before → property ((before.takeId .word).2.store (.word word))

end Catalogue

namespace Import

open Action

variable {property : Catalogue → Prop} (kept : Catalogue.IsKeptByTyping property)
include kept

/-- Importing a union of words as it is typed preserves what typing keeps. -/
theorem typed_word {expr : Expr} (plainTree : IsPlainTree expr) (union : expr.isPlainUnion = true) :
    Preserves property (importWord false expr) := by
  intro before holds
  rcases run : runOn (importWord false expr) before with ⟨outcome, after⟩
  unfold importWord at run
  cases word_run _ _ before _ run with
  | noKey empty => exact holds
  | found filled stored => exact holds
  | full filled absent full => exact holds
  | noToken tokens => exact kept.taken .word holds
  | @new filled absent room tokens token free tokenFilled word same =>
    have sameKey : word.key = Text.join '+' expr.words := by
      rw [← plainTree.text_union union, same]
      exact plainTree.key_text.1
    have typed : word.IsTyped := by
      refine ⟨⟨expr.words, plainTree.are_plain, sameKey⟩, ?_⟩
      rw [same]
      rfl
    exact kept.word word (congrArg WordEntity.id same) typed holds

/-- Importing an operand as it is typed preserves what typing keeps. -/
theorem typed_operand {expr : Expr} (plainTree : IsPlainTree expr) :
    Preserves property (importOperand false expr) := by
  unfold importOperand
  split
  · next union => exact (typed_word kept plainTree union).bind (fun word => preserves_pure _)
  · exact preserves_pure _

/-- Importing the expression for a factor as it is typed preserves what typing keeps. -/
theorem typed_root {expr : Expr} (plainTree : IsPlainTree expr) :
    Preserves property (importRoot false expr) := by
  unfold importRoot
  split
  · cases plainTree with
    | proximity distance ofLeft ofRight =>
      refine (typed_operand kept ofLeft).bind (fun left => ?_)
      exact (typed_operand kept ofRight).bind (fun right => preserves_pure _)
  · cases plainTree with
    | simultaneous count ofFirst ofSecond ofThird =>
      refine (typed_operand kept ofFirst).bind (fun first => ?_)
      refine (typed_operand kept ofSecond).bind (fun second => ?_)
      exact (typed_operand kept ofThird).bind (fun third => preserves_pure _)
  · exact typed_operand kept plainTree

/-- Importing a span preserves what typing keeps. -/
theorem typed_span (span : CodeSpan) : Preserves property (importSpan span) := by
  intro before holds
  rcases run : runOn (importSpan span) before with ⟨outcome, after⟩
  cases span_run span before run with
  | found stored => exact holds
  | full absent full => exact holds
  | noToken tokens => exact kept.taken .classification holds
  | @new absent room tokens token free tokenFilled group same =>
    exact kept.other (.classification group) nofun (kept.taken .classification holds)

/-- Defining an expression preserves what typing keeps. -/
theorem typed_expression (label : Text) (root : Expr) :
    Preserves property (defineExpression label root) := by
  intro before holds
  rcases run : runOn (defineExpression label root) before with ⟨outcome, after⟩
  cases expression_run root before run with
  | redefined labelled => exact kept.other (.expression _) nofun holds
  | full absent full => exact kept.taken .expression holds
  | new absent room =>
    exact kept.other (.expression _) nofun (kept.taken .expression holds)

/-- Importing a plain factor as it is typed preserves what typing keeps. -/
theorem typed_factor {factor : Factor} (plain : factor.IsPlain) :
    Preserves property (importFactor false factor) := by
  cases plain with
  | codes => exact (typed_span kept _).bind (fun group => preserves_pure _)
  | words plainTree =>
    refine (typed_root kept plainTree).bind (fun rootAndWords => ?_)
    obtain ⟨root, words⟩ := rootAndWords
    exact (typed_expression kept _ root).bind (fun expression => preserves_pure _)

/-- Importing plain factors as they are typed preserves what typing keeps. -/
theorem typed_factors {factors : List Factor} (plain : ∀ factor ∈ factors, factor.IsPlain)
    (report : ImportReport) (number : Nat) :
    Preserves property (importFactors false report (factors.zipIdx number)) := by
  induction factors generalizing report number with
  | nil => exact preserves_pure _
  | cons factor rest inductionHypothesis =>
    obtain ⟨plainFirst, plainOthers⟩ := List.forall_mem_cons.mp plain
    intro before holds
    have between := typed_factor kept plainFirst before holds
    rw [List.zipIdx_cons, run_on_factors_cons]
    rcases run : runOn (importFactor false factor) before with ⟨outcome, middle⟩
    rw [run] at between
    cases outcome with
    | ok entities => exact inductionHypothesis plainOthers _ _ middle between
    | error failure =>
      dsimp only
      split
      · exact between
      · exact inductionHypothesis plainOthers _ _ middle between

/-- An import without further spellings preserves what typing keeps. -/
theorem typed_query (query : Text) : Preserves property (importQuery false query) := by
  intro before holds
  unfold importQuery
  cases accepted : Query.parse query with
  | error error => exact holds
  | ok factors =>
    rw [run_on_bind_ok (run_on_of_except_ok ..)]
    exact typed_factors kept (Query.plain_factors accepted) _ _ before holds

end Import

namespace Catalogue

open Import Action

/-- Every stored word is defined as it was typed. -/
def HasTypedWords (catalogue : Catalogue) : Prop :=
  ∀ word, .word word ∈ catalogue.entities → word.definition = typedDefinition word.key

/-- Storing an entity keeps the words as they were typed, if the entity is no word of another form. -/
theorem HasTypedWords.store {catalogue : Catalogue} (typed : catalogue.HasTypedWords)
    {entity : Entity}
    (ofEntity : ∀ word, entity = .word word → word.definition = typedDefinition word.key) :
    (catalogue.store entity).HasTypedWords := by
  intro word stored
  rw [store_entities] at stored
  rcases mem_replaceIn stored with same | earlier
  · exact ofEntity word same.symm
  · exact typed word earlier

/-- Typing keeps all words as they were typed. -/
theorem typed_words_kept : IsKeptByTyping HasTypedWords where
  taken _ typed := typed
  other entity noWord typed := typed.store (fun word same => absurd (same ▸ rfl) noWord)
  word word _ isTyped typed := by
    have taken : (Catalogue.takeId _ .word).2.HasTypedWords := typed
    refine taken.store (fun other same => ?_)
    rw [← Entity.word.inj same]
    exact isTyped.definition

end Catalogue

/-- All words are as they were typed after an import without further spellings. -/
theorem Import.Imports.typed {factors : List Factor} (plain : ∀ factor ∈ factors, factor.IsPlain)
    {before after : Workspace} {outcomes : List (Except Failure (List Entity))}
    (imports : Imports false factors before outcomes after)
    (typed : before.catalogue.HasTypedWords) : after.catalogue.HasTypedWords := by
  induction imports with
  | nil before => exact typed
  | @cons factor rest before middle after outcome outcomes first goesOn others
      inductionHypothesis =>
    obtain ⟨plainFirst, plainOthers⟩ := List.forall_mem_cons.mp plain
    have typedMiddle := typed_factor Catalogue.typed_words_kept plainFirst before typed
    rw [first] at typedMiddle
    exact inductionHypothesis plainOthers typedMiddle

end PriorArt
