import Mathlib.Data.List.TakeWhile
import PriorArt.Proofs.Catalogue.Ids
import PriorArt.Proofs.Catalogue.Tokens
import PriorArt.Proofs.Query.PartsLaidOut
import PriorArt.Proofs.Statement.Built
import PriorArt.Workbook

/-!
# Catalogues of plain words

In a catalogue of plain words every stored word is defined by a text that lays out a row, every
group consists of plain codes, and every stored expression is a built tree that refers to groups
with plain tokens, as far as these groups are still stored. So the parts of the expressions that
use the words, the groups and the names of the expressions lay out rows.
-/

namespace PriorArt

open Brackets Expr Layout

/-- A text of folded characters without slashes is in normal form. -/
theorem Text.normal_of_folded {text : Text}
    (folded : ∀ character ∈ text, foldedChar? character = some character ∧ character ≠ '/') :
    Text.IsNormal text := by
  induction text with
  | nil => rfl
  | cons character rest inductionHypothesis =>
    obtain ⟨first, noSlash⟩ := folded character (by simp)
    exact (inductionHypothesis (fun other inside => folded other (by simp [inside]))).cons first
      noSlash

/-- A text of characters of terms, at least one, is a plain word if it is in normal form. -/
theorem plain_of_term_chars {word : Text} (filled : word ≠ [])
    (chars : ∀ character ∈ word, Phrase.isTermChar character = true)
    (normal : Text.IsNormal word) : IsPlain word := by
  have run : word.takeWhile Phrase.isTermChar = word :=
    List.takeWhile_eq_self_iff.mpr chars
  have behind : word.dropWhile Phrase.isTermChar = [] :=
    List.dropWhile_eq_nil_iff.mpr chars
  have noTail : Phrase.termTail word.length [] = ([], []) := by
    cases word.length <;> rfl
  refine ⟨?_, normal⟩
  rw [Phrase.term?, run, behind, noTail]
  cases word with
  | nil => exact absurd rfl filled
  | cons first rest => simp

/-- A digit is a character of terms. -/
theorem digit_term_char {character : Char} (digit : character.isDigit = true) :
    Phrase.isTermChar character = true := by
  have notDigit : ∀ mark ∈ ['+', '*', '(', ')', ',', '{', '}', '[', ']', '/'],
      mark.isDigit = false := by simp
  have noMark : Phrase.isMark character = false := by
    simp only [Phrase.isMark, List.contains_eq_mem, decide_eq_false_iff_not]
    intro listed
    rw [notDigit character listed] at digit
    cases digit
  simp [Phrase.isTermChar, (digit_sign digit).1, noMark]

namespace Catalogue

/-- An id is a plain word. -/
theorem plain_id (kind : EntityKind) (number : Nat) : IsPlain (idOf kind number) := by
  have chars : ∀ character ∈ idOf kind number,
      character.isDigit = true ∨ character ∈ ['W', 'C', 'E', 'B', '-'] := by
    intro character inside
    simp only [idOf, List.leftpad, List.mem_append, List.mem_cons, List.mem_replicate] at inside
    rcases inside with letter | rfl | ⟨_, rfl⟩ | digit
    · refine .inr ?_
      cases kind <;> revert letter <;> simp [EntityKind.idLetters] <;> tauto
    · simp
    · exact .inl rfl
    · exact .inl (decimal_digits number character digit)
  have letters : ∀ letter ∈ ['W', 'C', 'E', 'B', '-'], Phrase.isTermChar letter = true ∧
      foldedChar? letter = some letter ∧ letter ≠ '/' := by
    simp only [List.forall_mem_cons, List.not_mem_nil, false_implies, implies_true, and_true]
    decide
  apply plain_of_term_chars
  · simp [idOf]
  · intro character inside
    rcases chars character inside with digit | letter
    · exact digit_term_char digit
    · exact (letters character letter).1
  · apply Text.normal_of_folded
    intro character inside
    rcases chars character inside with digit | letter
    · exact ⟨(digit_sign digit).2.2.2.1, (digit_sign digit).2.2.2.2.2⟩
    · exact (letters character letter).2

/-- The id of a group, which has a plain token as long as it is stored. -/
structure NamesGroup (catalogue : Catalogue) (id : Text) : Prop where
  issued : catalogue.HasIssued .classification id
  token : ∀ group, catalogue.find? id = some (.classification group) → IsPlain group.token

/-- The name of such a group is plain: it is its token, or its id when the group is gone. -/
theorem NamesGroup.plain_name {catalogue : Catalogue} (numbered : catalogue.IsNumbered) {id : Text}
    (names : catalogue.NamesGroup id) : IsPlain (catalogue.nameOf id) := by
  unfold nameOf
  cases found : catalogue.find? id with
  | none =>
    obtain ⟨number, _, rfl⟩ := names.issued
    exact plain_id .classification number
  | some entity =>
    have kind := numbered.kind_of_find names.issued found
    cases entity with
    | word entity => cases kind
    | expression entity => cases kind
    | classification group =>
      have plain := names.token group found
      simpa [Entity.displayName, Entity.token, plain.filled] using plain

/-- The contents of a catalogue are made of plain words. -/
structure HasPlainContents (catalogue : Catalogue) : Prop where
  numbered : catalogue.IsNumbered
  lead : catalogue.TokensLead
  words : ∀ entity, .word entity ∈ catalogue.entities → Layout.IsLaidOut entity.definition
  groups : ∀ group, .classification group ∈ catalogue.entities → ArePlain group.codes
  roots : ∀ entity root, .expression entity ∈ catalogue.entities → entity.root = some root →
    IsBuilt catalogue.NamesGroup root

namespace HasPlainContents

variable {catalogue : Catalogue}

/-- A plain word resolves to a built tree. -/
theorem linkWord (plainContents : catalogue.HasPlainContents) {text : Text} (plain : IsPlain text) :
    IsBuilt catalogue.NamesGroup (catalogue.linkWord text) := by
  unfold Catalogue.linkWord
  split
  · next group found =>
    obtain ⟨stored, rfl⟩ := plainContents.lead.classOfToken found
    refine .reference ⟨?_, ?_⟩
    · exact plainContents.numbered _ (List.mem_of_find?_eq_some stored)
    · intro other foundOther
      obtain rfl := Entity.classification.inj (Option.some.inj (stored.symm.trans foundOther))
      exact plain
  · split
    · next root rooted =>
      obtain ⟨entity, stored, ofEntity⟩ := root_of_label rooted
      exact plainContents.roots entity root stored ofEntity
    · exact .word plain

/-- A plain tree resolves to a built tree. -/
theorem link (plainContents : catalogue.HasPlainContents) {expr : Expr}
    (plainTree : IsPlainTree expr) (plain : ∀ text ∈ expr.words, IsPlain text) :
    IsBuilt catalogue.NamesGroup (catalogue.link expr) :=
  plainTree.replace (fun text inside => plainContents.linkWord (plain text inside))

/-- What a plain word means lays out rows. -/
theorem wordParts (plainContents : catalogue.HasPlainContents) {text : Text}
    (plain : IsPlain text) : (catalogue.wordParts text).IsLaidOut := by
  have alone : Layout.IsLaidOut text := by
    simpa [Row.text, Atom.text, suffix] using lays_out_clean (clean_word plain)
  unfold Catalogue.wordParts
  split
  · next entity found =>
    apply Parts.laid_out_trimmed
    split
    · exact alone
    · obtain ⟨stored, followed, isWord⟩ := Option.bind_eq_some_iff.mp found
      cases stored with
      | word other =>
        obtain rfl : other = entity := Option.some.inj isWord
        exact plainContents.words other (mem_of_follow followed)
      | classification group => cases isWord
      | expression other => cases isWord
  · exact Parts.laid_out_trimmed alone

/-- What a reference to a group means lays out rows. -/
theorem referenceParts (plainContents : catalogue.HasPlainContents) {id : Text}
    (names : catalogue.NamesGroup id) (depth : Nat) (expanding : List Text) :
    (catalogue.referenceParts depth expanding id).IsLaidOut := by
  have filled : ∀ group, catalogue.find? id = some (.classification group) →
      ArePlain group.codes :=
    fun group found => plainContents.groups group (List.mem_of_find?_eq_some found)
  unfold Catalogue.referenceParts
  cases found : catalogue.find? id with
  | none => exact Parts.laid_out_empty
  | some entity =>
    have kind := plainContents.numbered.kind_of_find names.issued found
    cases entity with
    | word entity => cases kind
    | expression entity => cases kind
    | classification group =>
      have plain := filled group found
      have some : group.codes.isEmpty = false := by simpa using plain.filled
      simp only [some, ClassEntity.union, Bool.false_eq_true, ↓reduceIte]
      exact Parts.laid_out_class plain.lists

/-- The leaves of the expressions of such a catalogue lay out rows. -/
theorem meaning (plainContents : catalogue.HasPlainContents) :
    catalogue.meaning.LaysOut catalogue.NamesGroup where
  word _ plain := plainContents.wordParts plain
  reference _ names := plainContents.referenceParts names _ _
  name _ names := names.plain_name plainContents.numbered

end HasPlainContents

end Catalogue

end PriorArt
