import PriorArt.Brackets
import PriorArt.Proofs.Text.Trimmed

/-!
# Properly nested texts

A properly nested text is invisible inside an enclosing pair, both for the search of the closing
bracket by a stack and for the search of top-level characters by depth. So an enclosing pair
around such a text is found, and a text that begins with a nested part but goes on behind it has
no enclosing pair.
-/

namespace PriorArt.Brackets

/-- A text in which round and curly brackets open and close in pairs. -/
inductive Nested : Text → Prop where
  | empty : Nested []
  | character (character : Char) {rest : Text} (notOpener : isOpener character = false)
      (notCloser : isCloser character = false) (nested : Nested rest) :
      Nested (character :: rest)
  | pair {opener closer : Char} {inner rest : Text} (matching : closerOf? opener = some closer)
      (nestedInner : Nested inner) (nestedRest : Nested rest) :
      Nested (opener :: inner ++ closer :: rest)

/-- Nested texts make a nested text together. -/
theorem Nested.append {front back : Text} (nestedFront : Nested front)
    (nestedBack : Nested back) : Nested (front ++ back) := by
  induction nestedFront with
  | empty => exact nestedBack
  | character first notOpener notCloser _ inductionHypothesis =>
    exact .character first notOpener notCloser inductionHypothesis
  | pair matching nestedInner _ _ inductionHypothesis =>
    have whole := Nested.pair matching nestedInner inductionHypothesis
    simpa using whole

/-- No character of the text is a bracket. -/
def IsUnbracketed (text : Text) : Prop :=
  ∀ character ∈ text, isOpener character = false ∧ isCloser character = false

instance : DecidablePred IsUnbracketed := fun text => List.decidableBAll _ text

/-- A text without brackets is nested. -/
theorem IsUnbracketed.nested {text : Text} (unbracketed : IsUnbracketed text) :
    Nested text := by
  induction text with
  | nil => exact .empty
  | cons character rest inductionHypothesis =>
    obtain ⟨notOpener, notCloser⟩ := unbracketed character (by simp)
    exact .character character notOpener notCloser
      (inductionHypothesis (fun other inside => unbracketed other (by simp [inside])))

/-- No pair of brackets encloses a text without brackets. -/
theorem IsUnbracketed.bare {text : Text} (unbracketed : IsUnbracketed text) :
    interior? text = none := by
  cases text with
  | nil => rfl
  | cons character rest =>
    have noPair : closerOf? character = none := by
      simpa [isOpener] using (unbracketed character (by simp)).1
    simp [interior?, noPair]

/-- A nested text stays nested in a pair of brackets. -/
theorem Nested.enclosed {opener closer : Char} {text : Text}
    (matching : closerOf? opener = some closer) (nested : Nested text) :
    Nested (opener :: text ++ [closer]) :=
  .pair matching nested .empty

/-- A closing bracket of a pair closes and does not open. -/
theorem closer_cases {opener closer : Char} (matching : closerOf? opener = some closer) :
    closerOf? closer = none ∧ isCloser closer = true := by
  unfold closerOf? at matching
  split at matching
  · rw [← Option.some.inj matching]
    decide
  · rw [← Option.some.inj matching]
    decide
  · cases matching

/-- Inside an awaited pair a nested text is passed over. -/
theorem closesAtEnd_nested {text : Text} (nested : Nested text) (closer : Char)
    (outer : List Char) (rest : Text) :
    closesAtEnd (closer :: outer) (text ++ rest) = closesAtEnd (closer :: outer) rest := by
  induction nested generalizing closer outer rest with
  | empty => rfl
  | character character notOpener notCloser _ inductionHypothesis =>
    have noPair : closerOf? character = none := by simpa [isOpener] using notOpener
    rw [List.cons_append, closesAtEnd]
    simp only [noPair, notCloser]
    exact inductionHypothesis closer outer rest
  | @pair opener ownCloser inner own matching _ _ innerHypothesis restHypothesis =>
    obtain ⟨noPair, closes⟩ := closer_cases matching
    have assembled : opener :: inner ++ ownCloser :: own ++ rest =
        opener :: (inner ++ ownCloser :: (own ++ rest)) := by simp
    rw [assembled, closesAtEnd]
    simp only [matching]
    rw [innerHypothesis, closesAtEnd]
    simp only [noPair, closes]
    simp [restHypothesis]

/-- The depth behind an opening bracket. -/
theorem depthAfter_opener {opener closer : Char} (matching : closerOf? opener = some closer)
    (depth : Nat) : depthAfter depth opener = depth + 1 := by
  simp [depthAfter, isOpener, matching]

/-- The depth behind a closing bracket. -/
theorem depthAfter_closer {opener closer : Char} (matching : closerOf? opener = some closer)
    (depth : Nat) : depthAfter depth closer = depth - 1 := by
  obtain ⟨noPair, closes⟩ := closer_cases matching
  simp [depthAfter, isOpener, noPair, closes]

/-- Inside brackets nothing occurs at the outermost level. -/
theorem occursOutside_nested {text : Text} (nested : Nested text) (characters : List Char)
    (depth : Nat) (rest : Text) :
    occursOutside characters (depth + 1) (text ++ rest) =
      occursOutside characters (depth + 1) rest := by
  induction nested generalizing depth rest with
  | empty => rfl
  | character character notOpener notCloser _ inductionHypothesis =>
    have sameDepth : depthAfter (depth + 1) character = depth + 1 := by
      simp [depthAfter, notOpener, notCloser]
    rw [List.cons_append, occursOutside, sameDepth, inductionHypothesis]
    simp
  | @pair opener closer inner own matching _ _ innerHypothesis restHypothesis =>
    have assembled : opener :: inner ++ closer :: own ++ rest =
        opener :: (inner ++ closer :: (own ++ rest)) := by simp
    rw [assembled, occursOutside, depthAfter_opener matching, innerHypothesis, occursOutside,
      depthAfter_closer matching, Nat.add_sub_cancel, restHypothesis]
    simp

/-- Behind a pair of brackets at the outermost level the level is the outermost one again. The
pair shows its opening bracket alone. -/
theorem occursOutside_pair {opener closer : Char} {inner : Text}
    (matching : closerOf? opener = some closer) (nested : Nested inner)
    (characters : List Char) (rest : Text) :
    occursOutside characters 0 (opener :: inner ++ closer :: rest) =
      (characters.contains opener || occursOutside characters 0 rest) := by
  rw [List.cons_append, occursOutside, depthAfter_opener matching, occursOutside_nested nested,
    occursOutside, depthAfter_closer matching]
  simp

/-- Characters that are nowhere in a text do not occur at its outermost level. -/
theorem occursOutside_absent {characters : List Char} {text : Text}
    (absent : ∀ character ∈ text, characters.contains character = false) (depth : Nat) :
    occursOutside characters depth text = false := by
  induction text generalizing depth with
  | nil => rfl
  | cons character rest inductionHypothesis =>
    have later := inductionHypothesis (fun other inside => absent other (by simp [inside]))
    rw [occursOutside, absent character (by simp), later]
    simp

/-- A character occurs at the outermost level of a nested text and another text if it does so in
either. -/
theorem hasTopLevel_append {front : Text} (nested : Nested front) (characters : List Char)
    (back : Text) :
    hasTopLevel characters (front ++ back) =
      (hasTopLevel characters front || hasTopLevel characters back) := by
  unfold hasTopLevel
  induction nested with
  | empty => rfl
  | character character notOpener notCloser _ inductionHypothesis =>
    have sameDepth : depthAfter 0 character = 0 := by
      simp [depthAfter, notOpener, notCloser]
    rw [List.cons_append, occursOutside, occursOutside, sameDepth, inductionHypothesis,
      Bool.or_assoc]
  | @pair opener closer inner own matching nestedInner _ _ inductionHypothesis =>
    have assembled : opener :: inner ++ closer :: own ++ back =
        opener :: inner ++ closer :: (own ++ back) := by simp
    rw [assembled, occursOutside_pair matching nestedInner,
      occursOutside_pair matching nestedInner, inductionHypothesis, Bool.or_assoc]

/-- An outermost character that stands behind a nested text. -/
theorem hasTopLevel_behind {front : Text} (nested : Nested front) {characters : List Char}
    {mark : Char} (listed : characters.contains mark = true) (back : Text) :
    hasTopLevel characters (front ++ mark :: back) = true := by
  rw [hasTopLevel_append nested]
  simp only [hasTopLevel, occursOutside, listed]
  simp

/-- No mark of a compound text is outside of the brackets of a grouped one. -/
theorem hasTopLevel_groupIfCompound {text : Text} (nested : Nested text) :
    hasTopLevel compoundMarks (groupIfCompound text) = false := by
  unfold groupIfCompound
  split
  · have matching : closerOf? '(' = some ')' := rfl
    rw [parenthesized, hasTopLevel, occursOutside_pair matching nested]
    rfl
  · next notCompound => simpa using notCompound

/-- A text that goes on behind a nested part has no enclosing pair. -/
theorem interior_append {front back : Text} (nested : Nested front) (someFront : front ≠ [])
    (someBack : back ≠ []) : interior? (front ++ back) = none := by
  cases nested with
  | empty => exact absurd rfl someFront
  | character character notOpener notCloser _ =>
    have noPair : closerOf? character = none := by simpa [isOpener] using notOpener
    simp [interior?, noPair]
  | @pair opener closer inner rest matching nestedInner _ =>
    obtain ⟨noPair, closes⟩ := closer_cases matching
    have assembled : opener :: inner ++ closer :: rest ++ back =
        opener :: (inner ++ closer :: (rest ++ back)) := by simp
    have goesOn : (rest ++ back).isEmpty = false := by simp [someBack]
    rw [assembled, interior?]
    simp only [matching]
    rw [closesAtEnd_nested nestedInner, closesAtEnd]
    simp only [noPair, closes, goesOn]
    simp

/-- A single awaited bracket is closed behind a nested text. -/
theorem closesAtEnd_behind {opener closer : Char} {text : Text}
    (matching : closerOf? opener = some closer) (nested : Nested text) :
    closesAtEnd [closer] (text ++ [closer]) = true := by
  obtain ⟨noPair, closes⟩ := closer_cases matching
  rw [closesAtEnd_nested nested, closesAtEnd]
  simp [noPair, closes, closesAtEnd]

/-- The inside of a pair of brackets around a nested text. -/
theorem interior_enclosed {opener closer : Char} {text : Text}
    (matching : closerOf? opener = some closer) (nested : Nested text) :
    interior? (opener :: text ++ [closer]) = some text := by
  rw [List.cons_append, interior?]
  simp [matching, closesAtEnd_behind matching nested]

/-- Without an enclosing pair no layer is removed. -/
theorem stripLayers_bare {text : Text} (bare : interior? text = none) (layers : Nat) :
    stripLayers layers text = text := by
  cases layers with
  | zero => rfl
  | succ layers => simp [stripLayers, bare]

/-- A solid text without an enclosing pair is kept. -/
theorem strip_bare {text : Text} (solid : Text.IsSolid text) (bare : interior? text = none) :
    strip text = text := by
  simp only [strip, Text.trim_solid solid]
  exact stripLayers_bare bare text.length

/-- Round brackets around a trimmed text without an enclosing pair are removed. -/
theorem strip_parenthesized {text : Text} (trimmed : Text.IsTrimmed text) (nested : Nested text)
    (bare : interior? text = none) : strip (parenthesized text) = text := by
  have trimmedWhole : Text.IsTrimmed (parenthesized text) := by
    have front : Text.IsTrimmed ['('] := Text.IsSolid.trimmed (by decide)
    have back : Text.IsTrimmed [')'] := Text.IsSolid.trimmed (by decide)
    exact front.around back (by simp) (by simp) text
  have inside : interior? (parenthesized text) = some text :=
    interior_enclosed (by rfl) nested
  simp only [strip, trimmedWhole.trim]
  have layers : (parenthesized text).length = (text.length + 1) + 1 := by simp [parenthesized]
  rw [layers, stripLayers, inside]
  simp only [trimmed.trim]
  exact stripLayers_bare bare (text.length + 1)

end PriorArt.Brackets
