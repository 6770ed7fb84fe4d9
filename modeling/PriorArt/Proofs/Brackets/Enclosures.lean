import PriorArt.Proofs.Brackets.ProductPieces

/-!
# Enclosures

A text is a kernel in some number of enclosing pairs, with blanks inside of the pairs. Whatever brackets
a text has, matched or not, it has one kernel that no pair encloses, and this kernel is what the removal
of enclosing pairs leaves. Each pair is told by the search of its closing bracket on a stack. For a nested
kernel the count of depth agrees with that search, so the pair that groups a compound kernel hides all its
marks and is the one that is removed again.
-/

namespace PriorArt.Brackets

/-- The text is a pair of matching brackets around a nested text. -/
def IsEnclosed (text : Text) : Prop :=
  ∃ opener closer inner, closerOf? opener = some closer ∧ Nested inner ∧
    text = opener :: inner ++ [closer]

/-- The text is the kernel in some number of pairs of matching brackets. Each pair encloses a nested text,
with blanks before and behind what it is around. -/
inductive Wraps (kernel : Text) : Text → Prop where
  | bare : Wraps kernel kernel
  | pair {opener closer : Char} {before inner after : Text}
      (matching : closerOf? opener = some closer) (blankBefore : before.allBlank = true)
      (blankAfter : after.allBlank = true) (nested : Nested (before ++ inner ++ after))
      (wraps : Wraps kernel inner) : Wraps kernel (opener :: (before ++ inner ++ after) ++ [closer])

/-- An enclosing pair is found in no text but an enclosed one. -/
theorem interior_none_iff {text : Text} : interior? text = none ↔ ¬ IsEnclosed text := by
  rw [Option.eq_none_iff_forall_ne_some]
  constructor
  · rintro bare ⟨opener, closer, inner, matching, nested, rfl⟩
    exact bare inner (interior_enclosed matching nested)
  · intro notEnclosed inside enclosed
    obtain ⟨opener, closer, matching, nested, same⟩ := interior_iff.mp enclosed
    exact notEnclosed ⟨opener, closer, inside, matching, nested, same⟩

/-- A text that wraps a trimmed kernel is trimmed. -/
theorem Wraps.trimmed {kernel text : Text} (wraps : Wraps kernel text)
    (trimmed : Text.IsTrimmed kernel) : Text.IsTrimmed text := by
  cases wraps with
  | bare => exact trimmed
  | pair matching => exact trimmed_pair matching _

/-- Without its enclosing pairs a text is the same as the kernel that it wraps. -/
theorem Wraps.strip {kernel text : Text} (wraps : Wraps kernel text)
    (trimmed : Text.IsTrimmed kernel) : strip text = strip kernel := by
  induction wraps with
  | bare => rfl
  | @pair opener closer before inner after matching blankBefore blankAfter nested wraps ofInner =>
    rw [strip_of_interior (trimmed_pair matching _) (interior_enclosed matching nested), ← strip_trim,
      (wraps.trimmed trimmed).trim_around blankBefore blankAfter, ofInner]

/-- The text without the blanks around it wraps what is left of it without its enclosing pairs. -/
theorem wraps_strip (text : Text) : Wraps (strip text) (Text.trim text) := by
  induction text using strip_induction with
  | untrimmed text ofTrimmed => rwa [strip_trim, (Text.trimmed_trim text).trim] at ofTrimmed
  | bare text trimmed bare =>
    rw [strip_trimmed_bare trimmed bare, trimmed.trim]
    exact .bare
  | enclosed text inside trimmed enclosed ofInside =>
    rw [strip_of_interior trimmed enclosed, trimmed.trim]
    obtain ⟨opener, closer, matching, nested, rfl⟩ := interior_iff.mp enclosed
    obtain ⟨before, after, split, blankBefore, blankAfter⟩ := Text.trim_split inside
    have pair := Wraps.pair matching blankBefore blankAfter (by rwa [← split]) ofInside
    rwa [← split] at pair

/-- What is left of a text without its enclosing pairs is its one trimmed kernel that no pair encloses. -/
theorem eq_strip_iff {text kernel : Text} :
    kernel = strip text ↔
      Wraps kernel (Text.trim text) ∧ Text.IsTrimmed kernel ∧ ¬ IsEnclosed kernel := by
  constructor
  · rintro rfl
    obtain ⟨trimmed, bare⟩ := strip_bare_trimmed text
    exact ⟨wraps_strip text, trimmed, interior_none_iff.mp bare⟩
  · rintro ⟨wraps, trimmed, notEnclosed⟩
    rw [← strip_trim, wraps.strip trimmed,
      strip_trimmed_bare trimmed (interior_none_iff.mpr notEnclosed)]

/-- A text is nested exactly if it is nested without the blanks around it. -/
theorem nested_trim_iff {text : Text} : Nested (Text.trim text) ↔ Nested text := by
  obtain ⟨before, after, split, blankBefore, blankAfter⟩ := Text.trim_split text
  have inFront := nested_insert_iff (unbracketed_of_blank blankBefore).nested [] (Text.trim text ++ after)
  have behind := nested_insert_iff (unbracketed_of_blank blankAfter).nested (Text.trim text) []
  simp only [List.nil_append, List.append_nil] at inFront behind
  rw [← behind, ← inFront, ← List.append_assoc, ← split]

/-- Without its enclosing pairs a nested text is nested. -/
theorem Nested.strip {text : Text} (nested : Nested text) : Nested (strip text) := by
  induction text using strip_induction with
  | untrimmed text ofTrimmed =>
    rw [← strip_trim]
    exact ofTrimmed (nested_trim_iff.mpr nested)
  | bare text trimmed bare => rwa [strip_trimmed_bare trimmed bare]
  | enclosed text inside trimmed enclosed ofInside =>
    rw [strip_of_interior trimmed enclosed]
    obtain ⟨_, _, _, nestedInside, _⟩ := interior_iff.mp enclosed
    exact ofInside nestedInside

/-- The pair that groups a nested text without an enclosing pair is removed again. -/
theorem strip_groupIfCompound {text : Text} (nested : Nested text) (trimmed : Text.IsTrimmed text)
    (bare : interior? text = none) : strip (groupIfCompound text) = text := by
  unfold groupIfCompound
  split
  · exact strip_parenthesized trimmed nested bare
  · exact strip_trimmed_bare trimmed bare

/-- Removing brackets and grouping are exact inverses. What is left of a text without its enclosing pairs
is the one trimmed kernel that the trimmed text wraps and that is no pair around a nested text itself,
also if the brackets of the text do not match. If they do, the kernel comes back from its grouped form,
and no plus, comma or curly bracket of the grouped form is outside of brackets: none by the count of depth,
and none behind a nested text. -/
theorem strip_exact :
    (∀ text kernel, kernel = strip text ↔
      Wraps kernel (Text.trim text) ∧ Text.IsTrimmed kernel ∧ ¬ IsEnclosed kernel) ∧
    ∀ text, Nested text →
      strip (groupIfCompound (strip text)) = strip text ∧
      hasTopLevel ['+', ',', '{'] (groupIfCompound (strip text)) = false ∧
      ∀ front mark back, groupIfCompound (strip text) = front ++ mark :: back → Nested front →
        mark ∉ ['+', ',', '{'] := by
  refine ⟨fun _ _ => eq_strip_iff, fun text nested => ?_⟩
  obtain ⟨trimmed, bare⟩ := strip_bare_trimmed text
  have hidden := hasTopLevel_groupIfCompound nested.strip
  refine ⟨strip_groupIfCompound nested.strip trimmed bare, hidden, ?_⟩
  intro front mark back split nestedFront listed
  rw [split, hasTopLevel_behind nestedFront (by simpa [compoundMarks] using listed)] at hidden
  cases hidden

/-- Two pairs with a blank between them are removed, and one is put back. A pair of two kinds is kept. -/
theorem strip_exact_kinds :
    let text : Text := ['{', ' ', '(', 'A', '+', 'B', ')', '}', '\t']
    Nested text ∧ Wraps ['A', '+', 'B'] (Text.trim text) ∧
      groupIfCompound (strip text) = ['(', 'A', '+', 'B', ')'] ∧
      strip ['(', 'A', '+', 'B', ')'] = ['A', '+', 'B'] ∧
      hasTopLevel ['+', ',', '{'] ['(', 'A', '+', 'B', ')'] = false ∧
      ¬ IsEnclosed ['(', 'A', '}'] := by
  intro text
  have nested : Nested text := by decide
  obtain ⟨kernels, groups⟩ := strip_exact
  obtain ⟨back, hidden, _⟩ := groups text nested
  exact ⟨nested, ((kernels text ['A', '+', 'B']).mp rfl).1, rfl, back, hidden,
    ((kernels ['(', 'A', '}'] ['(', 'A', '}']).mp rfl).2.2⟩

end PriorArt.Brackets
