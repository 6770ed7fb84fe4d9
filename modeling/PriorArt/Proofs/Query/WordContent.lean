import Mathlib.Data.List.TakeWhile
import PriorArt.Proofs.Query.CommonTrees
import PriorArt.Proofs.Query.PartsLaidOut

/-!
# What search for words

Parts search for words alone if one of their word factors has content and no group does. This goes
up through the operators: it holds for a tree of plain words, whatever the words are defined as, and
for any nearness, which is written by name where its operands search for something else.
-/

namespace PriorArt

open Brackets Expr

/-- Something is left of a text that is not blank when the blanks around it are removed. -/
theorem Text.trim_filled {text : Text} (notBlank : text.allBlank = false) : Text.trim text ≠ [] := by
  have some : text.dropWhile isBlank ≠ [] := by
    intro none
    have blank : text.allBlank = true := by
      simpa [Text.allBlank] using List.dropWhile_eq_nil_iff.mp none
    rw [blank] at notBlank
    cases notBlank
  have visible := List.head_dropWhile_not isBlank some
  rw [Text.trim, Text.trimStart]
  cases start : text.dropWhile isBlank with
  | nil => exact absurd start some
  | cons character rest =>
    simp only [start, List.head_cons] at visible
    rw [Text.trimEnd]
    split
    · simp [visible]
    · simp

namespace Parts

variable {left right fallback : Parts}

/-- Parts search for words if a word factor has content and no group has. -/
theorem kind_eq_words_iff {parts : Parts} :
    parts.kind = .words ↔ parts.words.any WordFactor.hasContent = true ∧
      parts.classes.any (fun group => !group.allBlank) = false := by
  unfold kind
  split <;> simp_all

/-- A factor with content searches for words. -/
theorem kind_of_factor {factor : WordFactor} (content : factor.hasContent = true) :
    (ofFactor factor).kind = .words := by
  simp [kind_eq_words_iff, ofFactor, content]

/-- A text that is not blank searches for words. -/
theorem kind_of_text {text : Text} (character : Char) (inside : character ∈ text)
    (visible : isBlank character = false) : (ofText text).kind = .words := by
  apply kind_of_factor
  simpa [WordFactor.hasContent, Text.allBlank] using ⟨character, inside, visible⟩

/-- A text that is not blank searches for words without the blanks around it as well. -/
theorem kind_of_trimmed {text : Text} (notBlank : text.allBlank = false) :
    (ofTrimmed text).kind = .words := by
  have trimmed := Text.trimmed_trim text
  unfold ofTrimmed
  split
  · next none => exact absurd none (Text.trim_filled notBlank)
  · next kept =>
    rcases some : Text.trim text with _ | ⟨character, rest⟩
    · exact absurd some kept
    · exact kind_of_text character List.mem_cons_self (trimmed.front character (by simp [some]))

/-- Parts that search for words do so together. -/
theorem kind_append (ofLeft : left.kind = .words) (ofRight : right.kind = .words) :
    (left ++ right).kind = .words := by
  rw [kind_eq_words_iff] at ofLeft ofRight ⊢
  have words : (left ++ right).words = left.words ++ right.words := rfl
  have classes : (left ++ right).classes = left.classes ++ right.classes := rfl
  rw [words, classes, List.any_append, List.any_append, ofLeft.1, ofLeft.2, ofRight.2]
  exact ⟨rfl, rfl⟩

/-- The union of branches that search for words searches for words. -/
theorem kind_uniteWords {branches : List Parts} (some : branches ≠ []) :
    (uniteWords branches).kind = .words := by
  unfold uniteWords
  split
  · exact kind_of_factor rfl
  · apply kind_of_text '(' _ (by decide)
    cases branches with
    | nil => exact absurd rfl some
    | cons branch others =>
      cases others with
      | nil => simp [Text.join_single, parenthesized]
      | cons next rest => simp [Text.join_cons, parenthesized]

/-- A nearness of branches searches for words, whatever they search for, if the fallback does. -/
theorem kind_relate (ofFallback : fallback.kind = .words) (distance : Distance) :
    (relate fallback distance left right).kind = .words := by
  unfold relate
  split
  · exact kind_of_factor rfl
  · exact ofFallback

/-- A brace of branches searches for words, whatever they search for, if the fallback does. -/
theorem kind_gather (ofFallback : fallback.kind = .words) (count : Nat)
    (first second third : Parts) : (gather fallback count first second third).kind = .words := by
  unfold gather
  split
  · exact kind_of_text '{' (by simp [bracedText]) (by decide)
  · exact ofFallback

end Parts

namespace Expr

variable (meaning : Meaning)

/-- A nearness searches for words, whatever its operands mean. -/
theorem kind_of_proximity (distance : Distance) (left right : Expr) :
    ((proximity distance left right).partsWith meaning).kind = .words :=
  Parts.kind_relate (Parts.kind_of_text ',' (by simp [logicalForm]) (by decide)) _

/-- A brace searches for words, whatever its operands mean. -/
theorem kind_of_simultaneous (count : Nat) (first second third : Expr) :
    ((simultaneous count first second third).partsWith meaning).kind = .words :=
  Parts.kind_gather
    (Parts.kind_of_text '{' (by simp [logicalForm, bracedText]) (by decide)) _ _ _ _

/-- Operands that search for words do so together. -/
theorem kind_of_product {meaning : Meaning} {first : Expr} {others : List Expr}
    (each : ∀ operand ∈ first :: others, (operand.partsWith meaning).kind = .words) :
    (productParts meaning (first :: others)).kind = .words := by
  induction others generalizing first with
  | nil =>
    have alone : productParts meaning [first] = first.partsWith meaning ++ .empty := rfl
    have last : first.partsWith meaning ++ Parts.empty = first.partsWith meaning := by
      change Parts.append _ _ = _
      simp [Parts.append, Parts.empty]
    rw [alone, last]
    exact each first (by simp)
  | cons second rest inductionHypothesis =>
    obtain ⟨ofFirst, ofOthers⟩ := List.forall_mem_cons.mp each
    exact Parts.kind_append ofFirst (inductionHypothesis ofOthers)

end Expr

/-- A tree of plain words searches for words if plain words do. -/
theorem IsPlainTree.kind {meaning : Meaning} {tree : Expr} (plainTree : IsPlainTree tree)
    (words : ∀ text, IsPlain text → (meaning.word text).kind = .words) :
    (tree.partsWith meaning).kind = .words := by
  induction plainTree with
  | word plain => exact words _ plain
  | reference isNamed => exact isNamed.elim
  | @logical connective first second others operands inductionHypothesis =>
    cases connective with
    | and => exact kind_of_product inductionHypothesis
    | or =>
      have kinds : ∀ part ∈ (first :: second :: others).map (partsWith meaning),
          part.kind = .words := List.forall_mem_map.mpr inductionHypothesis
      rw [partsWith, eachParts_eq, ← List.map_cons, List.map_cons, unite_of_words kinds]
      exact Parts.kind_uniteWords (by simp)
  | proximity distance ofLeft ofRight => exact kind_of_proximity ..
  | simultaneous count ofFirst ofSecond ofThird => exact kind_of_simultaneous ..

/-- A plain word searches for words, also where it is a token. -/
theorem Catalogue.kind_word_parts (catalogue : Catalogue) {text : Text} (plain : IsPlain text) :
    (catalogue.wordParts text).kind = .words := by
  have notBlank := Text.not_allBlank_of_solid plain.tidy.solid plain.filled
  unfold wordParts
  split
  · split
    · exact Parts.kind_of_trimmed notBlank
    · next defined => exact Parts.kind_of_trimmed (by simpa using defined)
  · exact Parts.kind_of_trimmed notBlank

end PriorArt
