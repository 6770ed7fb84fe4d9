import PriorArt.Proofs.Catalogue.Agreement
import PriorArt.Proofs.Import.Failures
import PriorArt.Proofs.Import.TypedWords

/-!
# What typed factors are stored as

The expression that an import without further spellings stores for a factor says the factor: each union
of words that was replaced by a reference stands for the union of its distinct words, and everything
else is a tree of plain words that stands for itself. This needs that no union has a nearness of two
among its operands, and that no word of the factor is the token of a stored word.
-/

namespace PriorArt

open Brackets Expr

universe u

variable {α : Type u} {interpretation : Interpretation α}

/-- An operand of a factor with each union of words as the union of its distinct words. -/
def typedOperand (operand : Expr) : Expr :=
  match operand.isPlainUnion, operand.words.eraseDups with
  | true, first :: others => unionOf first others
  | _, _ => operand

/-- A factor with the unions of words that an import replaces as unions of their distinct words. -/
def typedRoot : Expr → Expr
  | .proximity distance left right => .proximity distance (typedOperand left) (typedOperand right)
  | .simultaneous count first second third =>
    .simultaneous count (typedOperand first) (typedOperand second) (typedOperand third)
  | expr => typedOperand expr

/-- The distinct words of a tree of plain words are plain, and there is one at least. -/
theorem IsPlainTree.distinct_words {tree : Expr} (plainTree : IsPlainTree tree) :
    ∃ first others, tree.words.eraseDups = first :: others ∧
      ∀ text ∈ first :: others, IsPlain text := by
  have arePlain := plainTree.are_plain.eraseDups
  obtain ⟨first, others, distinct⟩ := List.exists_cons_of_ne_nil arePlain.filled
  exact ⟨first, others, distinct, distinct ▸ arePlain.plain⟩

/-- An operand denotes the same with its words once each. -/
theorem denotes_typed_operand {operand : Expr} (plainTree : IsPlainTree operand) :
    (typedOperand operand).denotes interpretation = operand.denotes interpretation := by
  obtain ⟨first, others, distinct, _⟩ := plainTree.distinct_words
  unfold typedOperand
  rw [distinct]
  split
  · next union same =>
    obtain ⟨rfl, rfl⟩ := List.cons.inj same
    ext point
    rw [mem_denotes_unionOf, plainTree.mem_denotes_union union, ← distinct]
    simp only [List.mem_eraseDups]
  · rfl

/-- A factor denotes the same with its words once each. -/
theorem denotes_typed_root {expr : Expr} (plainTree : IsPlainTree expr) :
    (typedRoot expr).denotes interpretation = expr.denotes interpretation := by
  cases plainTree with
  | word plain => exact denotes_typed_operand (.word plain)
  | reference isNamed => exact isNamed.elim
  | logical connective operands => exact denotes_typed_operand (.logical connective operands)
  | proximity distance ofLeft ofRight =>
    rw [typedRoot, denotes, denotes, denotes_typed_operand ofLeft, denotes_typed_operand ofRight]
  | simultaneous count ofFirst ofSecond ofThird =>
    rw [typedRoot, denotes, denotes, denotes_typed_operand ofFirst, denotes_typed_operand ofSecond,
      denotes_typed_operand ofThird]

namespace Catalogue

variable {catalogue : Catalogue}

/-- The parts of an operand that an import may replace are parts of the factor. -/
theorem subexpressions_imported {expr operand : Expr} (inside : operand ∈ importedOperands expr) :
    operand.subexpressions ⊆ expr.subexpressions := by
  intro part listed
  unfold importedOperands at inside
  split at inside
  · rcases (by simpa using inside) with rfl | rfl
    · simp [subexpressions, listed]
    · simp [subexpressions, listed]
  · rcases (by simpa using inside) with rfl | rfl | rfl
    · simp [subexpressions, listed]
    · simp [subexpressions, listed]
    · simp [subexpressions, listed]
  · rwa [← List.mem_singleton.mp inside]

/-- A word that is found under a key is stored with it. -/
theorem IsIndexed.key_of_word (indexed : catalogue.IsIndexed) {key : Text} {word : WordEntity}
    (stored : catalogue.wordOfKey? key = some word) :
    .word word ∈ catalogue.entities ∧ word.key = key := by
  obtain ⟨entity, followed, isWord⟩ := Option.bind_eq_some_iff.mp stored
  obtain ⟨_, entered⟩ := (indexed.leads .wordKeys).follow followed
  obtain ⟨other, rfl, ofKey⟩ := entry_of_word_key.mp entered
  obtain rfl : other = word := Option.some.inj isWord
  exact ⟨mem_of_follow followed, ofKey⟩

variable (indexed : catalogue.IsIndexed) (typed : catalogue.HasTypedWords)
include indexed typed

/-- The word to which an import refers in the place of a union means the distinct words of the union
in brackets. -/
theorem reference_parts_imported {operand : Expr} (plainTree : IsPlainTree operand) {word : WordEntity}
    (imported : catalogue.importedWord? operand = some word) :
    catalogue.meaning.reference word.id =
      .ofText (parenthesized (Text.join '+' operand.words.eraseDups)) := by
  rw [reference_parts_word (indexed.find_imported imported)]
  unfold importedWord? at imported
  split at imported
  · next union =>
    obtain ⟨stored, ofKey⟩ := indexed.key_of_word imported
    obtain ⟨first, others, distinct, plain⟩ := plainTree.distinct_words
    have definition : word.definition = parenthesized (Text.join '+' operand.words.eraseDups) := by
      rw [typed word stored, ofKey, plainTree.key_text.1, plainTree.text_union union,
        Import.typedDefinition, Import.typed_variants_join plainTree.are_plain,
        distinct]
      rfl
    have tidy : IsTidy (parenthesized (Text.join '+' operand.words.eraseDups)) := by
      rw [distinct]
      exact (writes_words plain).tidy.enclosed rfl
    have filled : (parenthesized (Text.join '+' operand.words.eraseDups)).isEmpty = false := by
      simp [parenthesized]
    rw [WordEntity.content, definition, filled, if_neg Bool.false_ne_true, Text.trim_solid tidy.solid,
      Parts.ofTrimmed, Text.trim_solid tidy.solid]
    rfl
  · cases imported

variable {expr : Expr}

/-- What an import stores for an operand says the operand and stands for it. -/
theorem says_imported_operand (plainTree : IsPlainTree expr) (apart : expr.HasNoNearAlternative)
    (undefined : ∀ text ∈ expr.words, catalogue.wordOfToken? text = none)
    (has : catalogue.HasWord expr) :
    SaysTree ((catalogue.importedOperand expr).partsWith catalogue.meaning) (typedOperand expr) ∧
      StandsFor ((catalogue.importedOperand expr).partsWith catalogue.meaning) (typedOperand expr) := by
  by_cases union : expr.isPlainUnion = true
  · obtain ⟨word, stored⟩ := Option.ne_none_iff_exists'.mp (has union)
    have imported : catalogue.importedWord? expr = some word := by
      rw [importedWord?, if_pos union, stored]
    obtain ⟨first, others, distinct, plain⟩ := plainTree.distinct_words
    have written := writes_words plain
    have ofOperand : typedOperand expr = unionOf first others := by
      rw [typedOperand, union, distinct]
    rw [importedOperand, imported, partsWith, reference_parts_imported indexed typed plainTree imported,
      ofOperand, distinct]
    exact ⟨written.said_enclosed, written.stands_enclosed⟩
  · have noWord : catalogue.importedWord? expr = none := by
      rw [importedWord?, if_neg union]
    have noUnion : expr.isPlainUnion = false := by simpa using union
    have ofOperand : typedOperand expr = expr := by rw [typedOperand, noUnion]
    have translates := word_tree_translates_among (plainTree.word_tree apart) undefined
    rw [importedOperand, noWord, ofOperand]
    exact ⟨translates.said, translates.stands⟩

/-- What an import stores for a factor says the factor. -/
theorem says_imported_root (plainTree : IsPlainTree expr) (apart : expr.HasNoNearAlternative)
    (undefined : ∀ text ∈ expr.words, catalogue.wordOfToken? text = none)
    (has : ∀ operand ∈ importedOperands expr, catalogue.HasWord operand) :
    SaysTree ((catalogue.importedRoot expr).partsWith catalogue.meaning) (typedRoot expr) := by
  have each : ∀ operand ∈ importedOperands expr, IsPlainTree operand →
      SaysTree ((catalogue.importedOperand operand).partsWith catalogue.meaning)
          (typedOperand operand) ∧
        StandsFor ((catalogue.importedOperand operand).partsWith catalogue.meaning)
          (typedOperand operand) :=
    fun operand inside plainOperand =>
      have parts := subexpressions_imported inside
      says_imported_operand indexed typed plainOperand (apart.mono parts)
        (fun text listed => undefined text (List.filterMap_subset word? parts listed))
        (has operand inside)
  cases plainTree with
  | word plain => exact (each _ (List.mem_singleton.mpr rfl) (.word plain)).1
  | reference isNamed => exact isNamed.elim
  | logical connective operands =>
    exact (each _ (List.mem_singleton.mpr rfl) (.logical connective operands)).1
  | proximity distance ofLeft ofRight =>
    simp only [importedOperands, List.forall_mem_cons] at each
    exact says_relate (each.1 ofLeft).2 distance (each.2.1 ofRight).2 _
  | simultaneous count ofFirst ofSecond ofThird =>
    simp only [importedOperands, List.forall_mem_cons] at each
    exact says_gather (each.1 ofFirst).2 (each.2.1 ofSecond).2 (each.2.2.1 ofThird).2 count _

end Catalogue

end PriorArt

/-!
## Words that imports add

An import without further spellings leaves the words that are stored as they are, and adds words under
ids that were never given out. The definition of such a word has the words of its key between its plus
signs, each once.
-/

namespace PriorArt

open Brackets Import

/-- Two texts have the same words between their plus signs. -/
def SameWords (left right : Text) : Prop :=
  ∀ text, text ∈ Text.pieces '+' left ↔ text ∈ Text.pieces '+' right

/-- The definition of a word, its enclosing brackets left out, has the words of its key between its
plus signs. -/
def WordEntity.MeansItsKey (word : WordEntity) : Prop := SameWords (strip word.definition) word.key

/-- Brackets around a union of plain words are left out. -/
theorem ArePlain.strip {texts : List Text} (plain : ArePlain texts) :
    strip (parenthesized (Text.join '+' texts)) = Text.join '+' texts :=
  strip_parenthesized plain.tidy.solid.trimmed plain.tidy.nested plain.bare.2

/-- A word that is defined as it was typed means its key. -/
theorem WordEntity.IsTyped.means_key {word : WordEntity} (typed : word.IsTyped) :
    word.MeansItsKey := by
  obtain ⟨texts, plain, sameKey⟩ := typed.key
  have distinct := plain.eraseDups
  have definition : word.definition = parenthesized (Text.join '+' texts.eraseDups) := by
    rw [typed.definition, sameKey, typedDefinition,
      typed_variants_join plain, if_neg (by simpa using distinct.filled)]
  intro text
  rw [definition, distinct.strip, sameKey, distinct.pieces, plain.pieces, List.mem_eraseDups]

namespace Catalogue

/-- The words of a catalogue are those of an older one, and words that were typed under ids that the
older one had not given out. -/
structure AddsTypedWords (old catalogue : Catalogue) : Prop where
  counters : ∀ kind, old.counters.get kind ≤ catalogue.counters.get kind
  words : ∀ word, .word word ∈ catalogue.entities →
    .word word ∈ old.entities ∨ ¬ old.HasIssued .word word.id ∧ word.IsTyped

/-- Typing only adds typed words under new ids. -/
theorem adds_typed_words_kept (old : Catalogue) : IsKeptByTyping old.AddsTypedWords where
  taken {before} kind adds :=
    ⟨fun other => Nat.le_trans (adds.counters other) (before.take_id_counters_le kind other),
      adds.words⟩
  other {before} entity noWord adds := by
    refine ⟨fun kind => ?_, fun word stored => ?_⟩
    · rw [store_counters]
      exact adds.counters kind
    · rw [store_entities] at stored
      rcases mem_replaceIn stored with same | earlier
      · exact absurd (same ▸ rfl) noWord
      · exact adds.words word earlier
  word {before} word sameId typed adds := by
    refine ⟨fun kind => ?_, fun other stored => ?_⟩
    · rw [store_counters]
      exact Nat.le_trans (adds.counters kind) (before.take_id_counters_le .word kind)
    · rw [store_entities] at stored
      rcases mem_replaceIn stored with same | earlier
      · obtain rfl := Entity.word.inj same
        refine .inr ⟨fun issued => ?_, typed⟩
        have issuedBefore := issued.mono (adds.counters .word)
        rw [sameId] at issuedBefore
        exact before.take_id_not_issued .word .word issuedBefore
      · exact adds.words other earlier

end Catalogue

open Action

/-- An import without further spellings only adds typed words under new ids. -/
theorem Import.adds_typed_words (query : Text) (before : Workspace) :
    before.catalogue.AddsTypedWords (runOn (importQuery false query) before).2.catalogue := by
  apply typed_query (Catalogue.adds_typed_words_kept before.catalogue)
  exact ⟨fun _ => Nat.le_refl _, fun _ stored => .inl stored⟩

end PriorArt
