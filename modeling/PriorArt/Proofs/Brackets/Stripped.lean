import Mathlib.Data.List.TakeWhile
import PriorArt.Proofs.Brackets.Nested

/-!
# Texts without enclosing brackets

The search for an enclosing pair finds exactly the pairs of brackets around a nested text, so by the
same search it can be decided whether a text is nested. Removing enclosing pairs comes to an end with
a trimmed text that no pair encloses, whatever brackets the text has inside. Every character that is
neither blank nor a bracket is kept. So a text is empty inside its brackets only if it consists of
brackets and blanks.
-/

namespace PriorArt

/-- Trimming makes no text longer. -/
theorem Text.trim_length_le (text : Text) : (trim text).length ≤ text.length :=
  Nat.le_trans (trimEnd_leaves_front _).length_le (List.dropWhile_sublist _).length_le

/-- Nothing is left of a blank text. -/
theorem Text.trim_blank {text : Text} (blank : text.allBlank = true) : trim text = [] := by
  have nothing : trimStart text = [] := by simpa [trimStart, allBlank] using blank
  rw [trim, nothing, trimEnd]

/-- A character that is not blank is kept by trimming. -/
theorem Text.mem_trim {text : Text} {character : Char} (inside : character ∈ text)
    (visible : isBlank character = false) : character ∈ trim text := by
  have atEnd : ∀ text : Text, character ∈ text → character ∈ trimEnd text := by
    intro text inside
    induction text with
    | nil => cases inside
    | cons first rest inductionHypothesis =>
      rw [trimEnd]
      rcases List.mem_cons.mp inside with rfl | later
      · split <;> simp [visible]
      · have kept := inductionHypothesis later
        split
        · next nothing => simp [nothing] at kept
        · exact List.mem_cons_of_mem _ kept
  apply atEnd
  induction text with
  | nil => cases inside
  | cons first rest inductionHypothesis =>
    cases blank : isBlank first with
    | false => simpa [trimStart, blank] using inside
    | true =>
      rcases List.mem_cons.mp inside with rfl | later
      · rw [visible] at blank
        cases blank
      · simpa [trimStart, blank] using inductionHypothesis later

namespace Brackets

/-- The text closes the awaited brackets one after another, each behind a nested text, and ends with
the last of them. -/
inductive ClosesAll : List Char → Text → Prop where
  | last (closer : Char) {inner : Text} (nested : Nested inner) :
      ClosesAll [closer] (inner ++ [closer])
  | further (closer : Char) {outer : List Char} {inner rest : Text} (nested : Nested inner)
      (closes : ClosesAll outer rest) : ClosesAll (closer :: outer) (inner ++ closer :: rest)

/-- Behind a nested text the same brackets are awaited. -/
theorem ClosesAll.behind {awaited : List Char} {front rest : Text} (nested : Nested front)
    (closes : ClosesAll awaited rest) : ClosesAll awaited (front ++ rest) := by
  cases closes with
  | last closer nestedInner =>
    rw [← List.append_assoc]
    exact .last closer (nested.append nestedInner)
  | further closer nestedInner closesOuter =>
    rw [← List.append_assoc]
    exact .further closer (nested.append nestedInner) closesOuter

/-- The search by a stack finds that the awaited brackets are closed only if they are, with nested
texts between them. -/
theorem closesAll_of_closesAtEnd {closer : Char} {outer : List Char} {text : Text}
    (closes : closesAtEnd (closer :: outer) text = true) : ClosesAll (closer :: outer) text := by
  induction text generalizing closer outer with
  | nil => cases closes
  | cons first rest inductionHypothesis =>
    rw [closesAtEnd] at closes
    split at closes
    · -- The bracket that opens here is closed first, so its pair belongs to the nested text in front.
      next ownCloser opens =>
      cases inductionHypothesis closes with
      | further _ nested closesOuter => simpa using closesOuter.behind (nested.enclosed opens)
    · next noOpener =>
      split at closes
      · simp only [Bool.and_eq_true, decide_eq_true_eq, Bool.or_eq_true] at closes
        obtain ⟨⟨rfl, outerOrEnd⟩, closesOuter⟩ := closes
        cases outer with
        | nil =>
          obtain rfl : rest = [] := by simpa using outerOrEnd
          exact .last first .empty
        | cons next others => exact .further first .empty (inductionHypothesis closesOuter)
      · next notCloser =>
        have nested : Nested [first] :=
          .character first (by simp [isOpener, noOpener]) (by simpa using notCloser) .empty
        exact (inductionHypothesis closes).behind nested

/-- A single awaited bracket is closed at the end exactly if a nested text stands in front of it. -/
theorem closesAtEnd_single_iff {opener closer : Char} (matching : closerOf? opener = some closer)
    {text : Text} :
    closesAtEnd [closer] text = true ↔ ∃ inner, Nested inner ∧ text = inner ++ [closer] := by
  constructor
  · intro closes
    cases closesAll_of_closesAtEnd closes with
    | last _ nested => exact ⟨_, nested, rfl⟩
    | further _ _ closesNone => cases closesNone
  · rintro ⟨inner, nested, rfl⟩
    exact closesAtEnd_behind matching nested

/-- An enclosing pair is found exactly if the text is a pair of brackets around a nested text. -/
theorem interior_iff {text inside : Text} :
    interior? text = some inside ↔ ∃ opener closer, closerOf? opener = some closer ∧
      Nested inside ∧ text = opener :: inside ++ [closer] := by
  constructor
  · intro enclosed
    cases text with
    | nil => cases enclosed
    | cons opener rest =>
      rw [interior?] at enclosed
      split at enclosed
      · next closer matching =>
        split at enclosed
        · next closes =>
          obtain ⟨inner, nested, rfl⟩ := (closesAtEnd_single_iff matching).mp closes
          obtain rfl : inner = inside := by simpa using enclosed
          exact ⟨opener, closer, matching, nested, rfl⟩
        · cases enclosed
      · cases enclosed
  · rintro ⟨opener, closer, matching, nested, rfl⟩
    exact interior_enclosed matching nested

/-- An enclosing pair is an opening bracket in front and a closing one at the end. -/
theorem interior_shape {text inside : Text} (enclosed : interior? text = some inside) :
    ∃ opener closer, text = opener :: inside ++ [closer] ∧ isOpener opener = true ∧
      isCloser closer = true := by
  obtain ⟨opener, closer, matching, _, same⟩ := interior_iff.mp enclosed
  exact ⟨opener, closer, same, by simp [isOpener, matching], (closer_cases matching).2⟩

/-- A text is nested exactly if it can be passed over inside a pair. -/
theorem nested_iff_closes {text : Text} :
    Nested text ↔ closesAtEnd [')'] (text ++ [')']) = true := by
  rw [closesAtEnd_single_iff (show closerOf? '(' = some ')' from rfl)]
  constructor
  · exact fun nested => ⟨text, nested, rfl⟩
  · rintro ⟨inner, nested, same⟩
    rwa [List.append_cancel_right same]

instance : DecidablePred Nested := fun _ => decidable_of_iff _ nested_iff_closes.symm

/-- A nested text is passed over wherever it stands in front of the end. -/
theorem closesAtEnd_insert {middle : Text} (nested : Nested middle) (closer : Char)
    (outer : List Char) (front : Text) {back : Text} (some : back ≠ []) :
    closesAtEnd (closer :: outer) (front ++ (middle ++ back)) =
      closesAtEnd (closer :: outer) (front ++ back) := by
  induction front generalizing closer outer with
  | nil => exact closesAtEnd_nested nested closer outer back
  | cons first rest inductionHypothesis =>
    have goesOn : (rest ++ back).isEmpty = false ∧ (rest ++ (middle ++ back)).isEmpty = false := by
      simp [some]
    rw [List.cons_append, List.cons_append, closesAtEnd, closesAtEnd, goesOn.1, goesOn.2]
    split
    · exact inductionHypothesis _ _
    · split
      · cases outer with
        | nil => simp
        | cons next others => rw [inductionHypothesis]
      · exact inductionHypothesis _ _

/-- A text is nested with a nested text inserted into it exactly if it is nested without it. -/
theorem nested_insert_iff {middle : Text} (nested : Nested middle) (front back : Text) :
    Nested (front ++ (middle ++ back)) ↔ Nested (front ++ back) := by
  have assembled : front ++ (middle ++ back) ++ [')'] = front ++ (middle ++ (back ++ [')'])) := by
    simp
  rw [nested_iff_closes, nested_iff_closes, assembled,
    closesAtEnd_insert nested _ _ _ (by simp), List.append_assoc]

/-- What is left without one pair is shorter. -/
theorem interior_shorter {text inside : Text} (enclosed : interior? text = some inside) :
    (Text.trim inside).length < text.length := by
  obtain ⟨opener, closer, rfl, _⟩ := interior_shape enclosed
  have shorter := Text.trim_length_le inside
  simp
  omega

/-- Any number of layers that is not less than the length of the text is enough. -/
theorem stripLayers_enough {text : Text} {layers : Nat} (enough : text.length ≤ layers) :
    stripLayers layers text = stripLayers text.length text := by
  induction layers using Nat.strongRecOn generalizing text with
  | ind layers inductionHypothesis =>
    cases enclosed : interior? text with
    | none => rw [stripLayers_bare enclosed, stripLayers_bare enclosed]
    | some inside =>
      have shorter := interior_shorter enclosed
      obtain ⟨fewer, rfl⟩ := Nat.exists_eq_succ_of_ne_zero (show layers ≠ 0 by omega)
      obtain ⟨least, length⟩ := Nat.exists_eq_succ_of_ne_zero (show text.length ≠ 0 by omega)
      rw [length, stripLayers, stripLayers, enclosed]
      dsimp only
      rw [inductionHypothesis fewer (by omega) (by omega),
        inductionHypothesis least (by omega) (by omega)]

/-- Without one enclosing pair the same is left. -/
theorem strip_of_interior {text inside : Text} (trimmed : Text.IsTrimmed text)
    (enclosed : interior? text = some inside) : strip text = strip inside := by
  have shorter := interior_shorter enclosed
  obtain ⟨layers, length⟩ := Nat.exists_eq_succ_of_ne_zero (show text.length ≠ 0 by omega)
  simp only [strip, trimmed.trim]
  rw [length, stripLayers, enclosed]
  exact stripLayers_enough (by omega)

/-- Without the blanks around it a text is the same inside its brackets. -/
theorem strip_trim (text : Text) : strip (Text.trim text) = strip text := by
  simp only [strip, (Text.trimmed_trim text).trim]

/-- A trimmed text without an enclosing pair is kept. -/
theorem strip_trimmed_bare {text : Text} (trimmed : Text.IsTrimmed text)
    (bare : interior? text = none) : strip text = text := by
  simp only [strip, trimmed.trim]
  exact stripLayers_bare bare text.length

/-- What is true of a trimmed text without an enclosing pair, and is passed on to a text from what it
encloses, is true of every text. -/
theorem strip_induction {motive : Text → Prop}
    (untrimmed : ∀ text, motive (Text.trim text) → motive text)
    (bare : ∀ text, Text.IsTrimmed text → interior? text = none → motive text)
    (enclosed : ∀ text inside, Text.IsTrimmed text → interior? text = some inside →
      motive inside → motive text) (text : Text) : motive text := by
  induction length : text.length using Nat.strongRecOn generalizing text with
  | ind number inductionHypothesis =>
    apply untrimmed
    cases within : interior? (Text.trim text) with
    | none => exact bare _ (Text.trimmed_trim text) within
    | some inside =>
      refine enclosed _ inside (Text.trimmed_trim text) within ?_
      obtain ⟨opener, closer, same, _⟩ := interior_shape within
      have shorter := Text.trim_length_le text
      rw [same] at shorter
      refine inductionHypothesis inside.length ?_ inside rfl
      simp at shorter
      omega

/-- What is left is trimmed, and no pair encloses it. -/
theorem strip_bare_trimmed (text : Text) :
    Text.IsTrimmed (strip text) ∧ interior? (strip text) = none := by
  induction text using strip_induction with
  | untrimmed text ofTrimmed => rwa [strip_trim] at ofTrimmed
  | bare text trimmed bare => rw [strip_trimmed_bare trimmed bare]; exact ⟨trimmed, bare⟩
  | enclosed text inside trimmed enclosed ofInside => rwa [strip_of_interior trimmed enclosed]

/-- A second time nothing is removed. -/
theorem strip_strip (text : Text) : strip (strip text) = strip text := by
  obtain ⟨trimmed, bare⟩ := strip_bare_trimmed text
  exact strip_trimmed_bare trimmed bare

/-- A character that is neither blank nor a bracket is kept. -/
theorem mem_strip {text : Text} {character : Char} (inside : character ∈ text)
    (visible : isBlank character = false) (notOpener : isOpener character = false)
    (notCloser : isCloser character = false) : character ∈ strip text := by
  induction text using strip_induction with
  | untrimmed text ofTrimmed =>
    rw [← strip_trim]
    exact ofTrimmed (Text.mem_trim inside visible)
  | bare text trimmed bare => rwa [strip_trimmed_bare trimmed bare]
  | enclosed text within trimmed enclosed ofInside =>
    rw [strip_of_interior trimmed enclosed]
    apply ofInside
    obtain ⟨opener, closer, rfl, opens, closes⟩ := interior_shape enclosed
    simp only [List.cons_append, List.mem_cons, List.mem_append, List.not_mem_nil, or_false] at inside
    rcases inside with rfl | within | rfl
    · rw [opens] at notOpener
      cases notOpener
    · exact within
    · rw [closes] at notCloser
      cases notCloser

/-- Something is left of the text without its enclosing brackets. -/
def IsFilled (text : Text) : Prop := strip text ≠ []

instance : DecidablePred IsFilled := fun text => inferInstanceAs (Decidable (strip text ≠ []))

/-- A text with a character that is neither blank nor a bracket is filled. -/
theorem filled_of_mem {text : Text} (character : Char) (inside : character ∈ text)
    (visible : isBlank character = false) (notOpener : isOpener character = false)
    (notCloser : isCloser character = false) : IsFilled text :=
  List.ne_nil_of_mem (mem_strip inside visible notOpener notCloser)

/-- A filled text is not blank. -/
theorem IsFilled.visible {text : Text} (filled : IsFilled text) : text.allBlank = false := by
  cases blank : text.allBlank with
  | false => rfl
  | true =>
    have nothing : strip text = [] := by
      rw [← strip_trim, Text.trim_blank blank]
      rfl
    exact absurd nothing filled

/-- A filled text is filled in round brackets as well. -/
theorem IsFilled.parenthesized {text : Text} (filled : IsFilled text) :
    IsFilled (parenthesized text) := by
  have trimmed : Text.IsTrimmed (Brackets.parenthesized text) := by
    have front : Text.IsTrimmed ['('] := Text.IsSolid.trimmed (by decide)
    have back : Text.IsTrimmed [')'] := Text.IsSolid.trimmed (by decide)
    exact front.around back (by simp) (by simp) text
  unfold IsFilled
  cases enclosed : interior? (Brackets.parenthesized text) with
  | none =>
    rw [strip_trimmed_bare trimmed enclosed]
    simp [Brackets.parenthesized]
  | some inside =>
    rw [strip_of_interior trimmed enclosed]
    obtain ⟨opener, closer, same, _⟩ := interior_shape enclosed
    obtain ⟨rfl, rfl⟩ : text = inside ∧ ')' = closer := by
      simpa [Brackets.parenthesized] using (List.cons.inj same).2
    exact filled

end Brackets

end PriorArt
