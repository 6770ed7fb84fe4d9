import PriorArt.Parts
import PriorArt.Proofs.Brackets.ProductPieces

/-!
# Segments of a query and the kind of its parts

The kind of parts and the query for them are found independently: a factor counts for the kind unless
it is blank, and it has a segment of the query unless it is hollow, that is, empty inside its brackets.
A segment always comes from a factor that counts, but a hollow factor with brackets counts without a
segment. So the kind tells what the query searches for exactly if no side of the parts counts by hollow
factors alone.
-/

/-!
## Texts of brackets around nothing

A text of blanks has nothing inside, and neither has a pair of brackets around such a text, with
blanks around the pair. These are exactly the texts of which nothing is left when the enclosing pairs
are removed. A text that is not blank can be of this form, so the removal of brackets and the removal
of blanks are different notions of a text without content.
-/

namespace PriorArt

namespace Brackets

/-- Blanks, or a pair of brackets around a hollow text with blanks around the pair. -/
inductive IsHollow : Text → Prop where
  | blank {text : Text} (blank : text.allBlank = true) : IsHollow text
  | pair {before inside after : Text} {opener closer : Char} (blankBefore : before.allBlank = true)
      (matching : closerOf? opener = some closer) (hollow : IsHollow inside)
      (blankAfter : after.allBlank = true) :
      IsHollow (before ++ opener :: inside ++ closer :: after)

/-- The brackets of a hollow text open and close in pairs. -/
theorem IsHollow.nested {text : Text} (hollow : IsHollow text) : Nested text := by
  induction hollow with
  | blank blank => exact (unbracketed_of_blank blank).nested
  | @pair before inside after opener closer blankBefore matching _ blankAfter nestedInside =>
    have nestedBefore := (unbracketed_of_blank blankBefore).nested
    have nestedAfter := (unbracketed_of_blank blankAfter).nested
    have whole := nestedBefore.append (.pair matching nestedInside nestedAfter)
    simpa using whole

/-- A hollow text is hollow with blanks around it. -/
theorem IsHollow.around {before text after : Text} (hollow : IsHollow text)
    (blankBefore : before.allBlank = true) (blankAfter : after.allBlank = true) :
    IsHollow (before ++ text ++ after) := by
  cases hollow with
  | blank blank =>
    refine .blank ?_
    simp only [Text.allBlank, List.all_append, Bool.and_eq_true] at blankBefore blank blankAfter ⊢
    exact ⟨⟨blankBefore, blank⟩, blankAfter⟩
  | @pair inFront inside behind opener closer blankInFront matching hollow blankBehind =>
    have allBefore : (before ++ inFront).allBlank = true := by
      simp only [Text.allBlank, List.all_append, Bool.and_eq_true] at blankBefore blankInFront ⊢
      exact ⟨blankBefore, blankInFront⟩
    have allAfter : (behind ++ after).allBlank = true := by
      simp only [Text.allBlank, List.all_append, Bool.and_eq_true] at blankAfter blankBehind ⊢
      exact ⟨blankBehind, blankAfter⟩
    have whole := IsHollow.pair allBefore matching hollow allAfter
    simpa using whole

/-- Trimming a pair of brackets with blanks around it leaves the pair. -/
theorem trim_pair {before inside after : Text} {opener closer : Char}
    (blankBefore : before.allBlank = true) (matching : closerOf? opener = some closer)
    (blankAfter : after.allBlank = true) :
    Text.trim (before ++ opener :: inside ++ closer :: after) = opener :: inside ++ [closer] := by
  have around := (trimmed_pair matching inside).trim_around blankBefore blankAfter
  simpa using around

/-- Nothing is left of a text without its enclosing pairs exactly if it is hollow. -/
theorem hollow_iff {text : Text} : IsHollow text ↔ strip text = [] := by
  constructor
  · intro hollow
    induction hollow with
    | blank blank =>
      rw [← strip_trim, Text.trim_blank blank]
      rfl
    | @pair before inside after opener closer blankBefore matching hollow blankAfter nothing =>
      rw [← strip_trim, trim_pair blankBefore matching blankAfter,
        strip_of_interior (trimmed_pair matching inside) (interior_enclosed matching hollow.nested),
        nothing]
  · intro nothing
    induction text using strip_induction with
    | untrimmed text ofTrimmed =>
      rw [strip_trim] at ofTrimmed
      obtain ⟨before, after, split, blankBefore, blankAfter⟩ := Text.trim_split text
      rw [split]
      exact (ofTrimmed nothing).around blankBefore blankAfter
    | bare text trimmed bare =>
      rw [strip_trimmed_bare trimmed bare] at nothing
      exact .blank (by rw [nothing]; rfl)
    | enclosed text inside trimmed enclosed ofInside =>
      rw [strip_of_interior trimmed enclosed] at nothing
      obtain ⟨opener, closer, matching, _, rfl⟩ := interior_iff.mp enclosed
      exact @IsHollow.pair [] inside [] opener closer rfl matching (ofInside nothing) rfl

end Brackets

end PriorArt

namespace PriorArt

open Brackets

/-- The factor is a text of brackets around nothing. -/
def WordFactor.IsHollow : WordFactor → Prop
  | plain text => Brackets.IsHollow text
  | near _ => False

/-- A word factor has no segment exactly if it is hollow. -/
theorem WordFactor.render_none_iff {factor : WordFactor} :
    factor.render? = none ↔ factor.IsHollow := by
  cases factor with
  | near nearness => simp [render?, IsHollow]
  | plain text => simp [render?, IsHollow, hollow_iff]

/-- A group of codes has no segment exactly if it is hollow. -/
theorem render_class_none_iff {group : Text} :
    renderClass? group = none ↔ Brackets.IsHollow group := by
  simp [renderClass?, hollow_iff]

/-- A segment for a word factor is not empty. -/
theorem WordFactor.render_filled {factor : WordFactor} {segment : Text}
    (rendered : factor.render? = some segment) : segment ≠ [] := by
  cases factor with
  | near nearness =>
    obtain rfl : nearness.render = segment := Option.some.inj rendered
    simp [Nearness.render]
  | plain text =>
    rw [render?] at rendered
    split at rendered
    · cases rendered
    · obtain rfl : renderWord text = segment := Option.some.inj rendered
      cases regrouped : regroup text <;> simp [renderWord, regrouped, Field.suffix]

/-- A segment for a group of codes is not empty. -/
theorem render_class_filled {group segment : Text} (rendered : renderClass? group = some segment) :
    segment ≠ [] := by
  rw [renderClass?] at rendered
  split at rendered
  · cases rendered
  · obtain rfl : renderClass group = segment := Option.some.inj rendered
    simp [renderClass]

/-- A factor that is not hollow has content. -/
theorem WordFactor.content_of_not_hollow {factor : WordFactor} (filled : ¬ factor.IsHollow) :
    factor.hasContent = true := by
  cases factor with
  | near nearness => rfl
  | plain text =>
    by_contra noContent
    have blank : text.allBlank = true := by simpa [hasContent] using noContent
    exact filled (.blank blank)

namespace Parts

variable {parts : Parts}

/-- The segments of a query for the word factors. -/
def wordSegments (parts : Parts) : List Text := parts.words.filterMap WordFactor.render?

/-- The segments of a query for the groups of codes. -/
def classSegments (parts : Parts) : List Text := parts.classes.filterMap renderClass?

/-- There is no segment for words exactly if all word factors are hollow. -/
theorem word_segments_nil_iff :
    parts.wordSegments = [] ↔ ∀ factor ∈ parts.words, factor.IsHollow := by
  simp only [wordSegments, List.filterMap_eq_nil_iff, WordFactor.render_none_iff]

/-- There is no segment for codes exactly if all groups are hollow. -/
theorem class_segments_nil_iff :
    parts.classSegments = [] ↔ ∀ group ∈ parts.classes, Brackets.IsHollow group := by
  simp only [classSegments, List.filterMap_eq_nil_iff, render_class_none_iff]

/-- The query is empty exactly if it has no segments. -/
theorem render_nil_iff :
    parts.render = [] ↔ parts.wordSegments = [] ∧ parts.classSegments = [] := by
  rw [← List.append_eq_nil_iff]
  change Text.join '*' (parts.wordSegments ++ parts.classSegments) = [] ↔ _
  have filled : ∀ segment ∈ parts.wordSegments ++ parts.classSegments, segment ≠ [] := by
    intro segment inside
    rcases List.mem_append.mp inside with ofWords | ofClasses
    · obtain ⟨factor, _, rendered⟩ := List.mem_filterMap.mp ofWords
      exact WordFactor.render_filled rendered
    · obtain ⟨group, _, rendered⟩ := List.mem_filterMap.mp ofClasses
      exact render_class_filled rendered
  match parts.wordSegments ++ parts.classSegments, filled with
  | [], _ => simp [Text.join]
  | [segment], filled => simpa using filled segment (by simp)
  | segment :: next :: rest, filled => simp [Text.join_cons]

/-- The kind tells of words exactly if some word factor has content. -/
theorem kind_words_iff : parts.kind = .words ∨ parts.kind = .mixed ↔
    ∃ factor ∈ parts.words, factor.hasContent = true := by
  rw [← List.any_eq_true, kind]
  cases parts.words.any WordFactor.hasContent <;>
    cases parts.classes.any (fun group => !group.allBlank) <;> simp

/-- The kind tells of codes exactly if some group has a visible character. -/
theorem kind_classes_iff : parts.kind = .classes ∨ parts.kind = .mixed ↔
    ∃ group ∈ parts.classes, group.allBlank = false := by
  have visible : (∃ group ∈ parts.classes, group.allBlank = false) ↔
      parts.classes.any (fun group => !group.allBlank) = true := by
    simp
  rw [visible, kind]
  cases parts.words.any WordFactor.hasContent <;>
    cases parts.classes.any (fun group => !group.allBlank) <;> simp

/-- The kind is empty exactly if it tells neither of words nor of codes. -/
theorem kind_empty_iff : parts.kind = .empty ↔
    ¬ (parts.kind = .words ∨ parts.kind = .mixed) ∧
      ¬ (parts.kind = .classes ∨ parts.kind = .mixed) := by
  cases parts.kind <;> simp

/-- The word factors count by brackets alone: some has content, but all are hollow. -/
def HasHollowWords (parts : Parts) : Prop :=
  (∃ factor ∈ parts.words, factor.hasContent = true) ∧ ∀ factor ∈ parts.words, factor.IsHollow

/-- The groups of codes count by brackets alone: some is visible, but all are hollow. -/
def HasHollowClasses (parts : Parts) : Prop :=
  (∃ group ∈ parts.classes, group.allBlank = false) ∧
    ∀ group ∈ parts.classes, Brackets.IsHollow group

/-- Where a segment always comes from content, there are segments for factors with content unless these
have no segment each. -/
theorem segments_iff_content {α : Type} {rendered : α → Option Text} {HasContent : α → Prop}
    (content : ∀ factor, rendered factor ≠ none → HasContent factor) (factors : List α) :
    (factors.filterMap rendered ≠ [] ↔ ∃ factor ∈ factors, HasContent factor) ↔
      ¬ ((∃ factor ∈ factors, HasContent factor) ∧ ∀ factor ∈ factors, rendered factor = none) := by
  have counted : factors.filterMap rendered ≠ [] → ∃ factor ∈ factors, HasContent factor := by
    intro some
    by_contra none
    refine some (List.filterMap_eq_nil_iff.mpr (fun factor inside => ?_))
    by_contra filled
    exact none ⟨factor, inside, content factor filled⟩
  constructor
  · rintro agree ⟨counts, none⟩
    exact agree.mpr counts (List.filterMap_eq_nil_iff.mpr none)
  · intro notHollow
    exact ⟨counted, fun counts none => notHollow ⟨counts, List.filterMap_eq_nil_iff.mp none⟩⟩

/-- The kind tells of words where the query has segments for them, unless the word factors count by
brackets alone. -/
theorem word_segments_iff_kind :
    (parts.wordSegments ≠ [] ↔ parts.kind = .words ∨ parts.kind = .mixed) ↔
      ¬ parts.HasHollowWords := by
  have content : ∀ factor : WordFactor, factor.render? ≠ none → factor.hasContent = true :=
    fun _ filled => WordFactor.content_of_not_hollow (WordFactor.render_none_iff.not.mp filled)
  rw [kind_words_iff, wordSegments, segments_iff_content content]
  simp only [WordFactor.render_none_iff, HasHollowWords]

/-- The kind tells of codes where the query has segments for them, unless the groups count by brackets
alone. -/
theorem class_segments_iff_kind :
    (parts.classSegments ≠ [] ↔ parts.kind = .classes ∨ parts.kind = .mixed) ↔
      ¬ parts.HasHollowClasses := by
  have content : ∀ group, renderClass? group ≠ none → group.allBlank = false :=
    fun _ filled => Bool.eq_false_iff.mpr
      (fun blank => render_class_none_iff.not.mp filled (.blank blank))
  rw [kind_classes_iff, classSegments, segments_iff_content content]
  simp only [render_class_none_iff, HasHollowClasses]

/-- The query for parts consists of its segments and is empty exactly if all factors are hollow. The
kind of the parts agrees with it, in whether there is anything, whether there are words and whether
there are codes, exactly if neither the word factors nor the groups of codes count by brackets
alone. -/
theorem kind_agrees_with_query_iff (parts : Parts) :
    parts.render = Text.join '*' (parts.wordSegments ++ parts.classSegments) ∧
    (parts.render = [] ↔ (∀ factor ∈ parts.words, factor.IsHollow) ∧
      ∀ group ∈ parts.classes, Brackets.IsHollow group) ∧
    (((parts.render = [] ↔ parts.kind = .empty) ∧
        (parts.wordSegments ≠ [] ↔ parts.kind = .words ∨ parts.kind = .mixed) ∧
        (parts.classSegments ≠ [] ↔ parts.kind = .classes ∨ parts.kind = .mixed)) ↔
      ¬ parts.HasHollowWords ∧ ¬ parts.HasHollowClasses) := by
  refine ⟨rfl, ?_, ?_⟩
  · rw [render_nil_iff, word_segments_nil_iff, class_segments_nil_iff]
  · rw [← word_segments_iff_kind, ← class_segments_iff_kind, render_nil_iff, kind_empty_iff]
    constructor
    · rintro ⟨-, words, classes⟩
      exact ⟨words, classes⟩
    · rintro ⟨words, classes⟩
      refine ⟨?_, words, classes⟩
      rw [← words, ← classes]
      simp

/-- A pair of brackets around nothing counts as words, but no words are searched. -/
example : (Parts.ofText ['(', ')']).kind = .words ∧ (Parts.ofText ['(', ')']).render = [] :=
  ⟨rfl, rfl⟩

end Parts

end PriorArt
