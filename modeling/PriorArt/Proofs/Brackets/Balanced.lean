import PriorArt.Proofs.Brackets.Nested

/-!
# Balanced texts

The brackets of a query are of three kinds: round and curly ones group, square ones enclose a group
of codes or a nearness. A text is balanced if all three open and close in pairs. The search for an
enclosing pair takes square brackets for ordinary characters, so an enclosing pair of a balanced text
is one that its brackets show, and the text stays balanced when it is removed.
-/

namespace PriorArt

/-- Blanks are removed from the end only behind the last character that can be seen. -/
theorem Text.trimEnd_behind (front : Text) {last : Char} (visible : isBlank last = false)
    (back : Text) : trimEnd (front ++ last :: back) = front ++ last :: trimEnd back := by
  induction front with
  | nil =>
    rw [List.nil_append, List.nil_append, trimEnd]
    split
    · next nothing => simp [nothing, visible]
    · rfl
  | cons first rest inductionHypothesis =>
    rw [List.cons_append, trimEnd, inductionHypothesis]
    split
    · next nothing => simp at nothing
    · next kept => simp

namespace Brackets

/-- The closing bracket that belongs to an opening one of any kind. -/
def partnerOf? : Char → Option Char
  | '[' => some ']'
  | character => closerOf? character

/-- Whether a character is a bracket of any kind. -/
def isBracket (character : Char) : Bool :=
  isOpener character || isCloser character || character = '[' || character = ']'

/-- A text in which round, curly and square brackets open and close in pairs. -/
inductive Balanced : Text → Prop where
  | empty : Balanced []
  | character (character : Char) {rest : Text} (ordinary : isBracket character = false)
      (balanced : Balanced rest) : Balanced (character :: rest)
  | pair {opener closer : Char} {inner rest : Text} (matching : partnerOf? opener = some closer)
      (balancedInner : Balanced inner) (balancedRest : Balanced rest) :
      Balanced (opener :: inner ++ closer :: rest)

/-- The pairs of brackets of any kind. -/
theorem partner_cases {opener closer : Char} (matching : partnerOf? opener = some closer) :
    opener = '[' ∧ closer = ']' ∨ closerOf? opener = some closer := by
  unfold partnerOf? at matching
  split at matching
  · exact .inl ⟨rfl, (Option.some.inj matching).symm⟩
  · exact .inr matching

/-- Round and curly pairs are pairs. -/
theorem partner_of_closer {opener closer : Char} (matching : closerOf? opener = some closer) :
    partnerOf? opener = some closer := by
  unfold partnerOf?
  split
  · cases matching
  · exact matching

/-- The brackets of a pair are not blank. -/
theorem partner_not_blank {opener closer : Char} (matching : partnerOf? opener = some closer) :
    isBlank opener = false ∧ isBlank closer = false := by
  unfold partnerOf? closerOf? at matching
  repeat' split at matching
  all_goals cases matching
  all_goals decide

/-- A pair of brackets is trimmed, whatever stands inside. -/
theorem trimmed_pair {opener closer : Char} (matching : closerOf? opener = some closer)
    (inside : Text) : Text.IsTrimmed (opener :: inside ++ [closer]) := by
  obtain ⟨visibleOpener, visibleCloser⟩ := partner_not_blank (partner_of_closer matching)
  have front : Text.IsTrimmed [opener] := Text.IsSolid.trimmed (by simpa [Text.IsSolid] using visibleOpener)
  have back : Text.IsTrimmed [closer] := Text.IsSolid.trimmed (by simpa [Text.IsSolid] using visibleCloser)
  exact front.around back (by simp) (by simp) inside

/-- The six brackets. -/
theorem mem_of_isBracket {character : Char} (bracket : isBracket character = true) :
    character ∈ ['(', ')', '{', '}', '[', ']'] := by
  unfold isBracket isOpener isCloser closerOf? at bracket
  split at bracket
  · simp
  · simp
  · simp only [Option.isSome_none, Bool.false_or, Bool.or_eq_true, decide_eq_true_eq] at bracket
    rcases bracket with ((rfl | rfl) | rfl) | rfl <;> simp

/-- An ordinary character is no bracket for the search of enclosing pairs. -/
theorem ordinary_cases {character : Char} (ordinary : isBracket character = false) :
    isOpener character = false ∧ isCloser character = false ∧ character ≠ '[' ∧
      character ≠ ']' := by
  simpa [isBracket, and_assoc] using ordinary

/-- Balanced texts make a balanced text together. -/
theorem Balanced.append {front back : Text} (balancedFront : Balanced front)
    (balancedBack : Balanced back) : Balanced (front ++ back) := by
  induction balancedFront with
  | empty => exact balancedBack
  | character first ordinary _ inductionHypothesis =>
    exact .character first ordinary inductionHypothesis
  | pair matching balancedInner _ _ inductionHypothesis =>
    simpa using Balanced.pair matching balancedInner inductionHypothesis

/-- A text without brackets is balanced. -/
theorem balanced_of_ordinary {text : Text} (ordinary : text.any isBracket = false) :
    Balanced text := by
  induction text with
  | nil => exact .empty
  | cons first rest inductionHypothesis =>
    obtain ⟨ofFirst, ofRest⟩ := (Bool.or_eq_false_iff).mp ordinary
    exact .character first ofFirst (inductionHypothesis ofRest)

/-- A balanced text is balanced behind an ordinary character in front of another one. -/
theorem Balanced.around {front back : Text} {separator : Char} (balancedFront : Balanced front)
    (ordinary : isBracket separator = false) (balancedBack : Balanced back) :
    Balanced (front ++ separator :: back) :=
  balancedFront.append (.character separator ordinary balancedBack)

/-- A balanced text stays balanced in a pair of brackets. -/
theorem Balanced.enclosed {opener closer : Char} {text : Text}
    (matching : partnerOf? opener = some closer) (balanced : Balanced text) :
    Balanced (opener :: text ++ [closer]) :=
  .pair matching balanced .empty

/-- A balanced text in square brackets. -/
def IsSquared (text : Text) : Prop := ∃ inner, Balanced inner ∧ text = '[' :: inner ++ [']']

/-- With its square brackets it is balanced. -/
theorem IsSquared.balanced {text : Text} (squared : IsSquared text) : Balanced text := by
  obtain ⟨inner, balanced, rfl⟩ := squared
  exact balanced.enclosed rfl

/-- A nested text without square brackets is balanced. -/
theorem Nested.balanced {text : Text} (nested : Nested text) (noOpening : '[' ∉ text)
    (noClosing : ']' ∉ text) : Balanced text := by
  induction nested with
  | empty => exact .empty
  | character first notOpener notCloser _ inductionHypothesis =>
    simp only [List.mem_cons, not_or] at noOpening noClosing
    have ordinary : isBracket first = false := by
      simp [isBracket, notOpener, notCloser, Ne.symm noOpening.1, Ne.symm noClosing.1]
    exact .character first ordinary (inductionHypothesis noOpening.2 noClosing.2)
  | pair matching _ _ innerHypothesis restHypothesis =>
    simp only [List.cons_append, List.mem_cons, List.mem_append, not_or] at noOpening noClosing
    exact .pair (partner_of_closer matching)
      (innerHypothesis noOpening.2.1 noClosing.2.1)
      (restHypothesis noOpening.2.2.2 noClosing.2.2.2)

/-- For the search of enclosing pairs a balanced text is nested. -/
theorem Balanced.nested {text : Text} (balanced : Balanced text) : Nested text := by
  induction balanced with
  | empty => exact .empty
  | character first ordinary _ inductionHypothesis =>
    obtain ⟨notOpener, notCloser, _⟩ := ordinary_cases ordinary
    exact .character first notOpener notCloser inductionHypothesis
  | pair matching _ _ innerHypothesis restHypothesis =>
    rcases partner_cases matching with ⟨rfl, rfl⟩ | matching
    · exact .character '[' rfl rfl
        (innerHypothesis.append (.character ']' rfl rfl restHypothesis))
    · exact .pair matching innerHypothesis restHypothesis

/-- What an enclosing pair of a balanced text encloses is balanced. -/
theorem Balanced.interior {text inside : Text} (balanced : Balanced text)
    (enclosed : interior? text = some inside) : Balanced inside := by
  cases balanced with
  | empty => cases enclosed
  | character first ordinary _ =>
    have noPair : closerOf? first = none := by simpa [isOpener] using (ordinary_cases ordinary).1
    simp [interior?, noPair] at enclosed
  | @pair opener closer inner rest matching balancedInner _ =>
    rcases partner_cases matching with ⟨rfl, rfl⟩ | matching
    · simp [interior?, closerOf?] at enclosed
    · -- The pair in front encloses the whole text only if nothing is behind it.
      cases rest with
      | nil =>
        rw [interior_enclosed matching balancedInner.nested] at enclosed
        rwa [← Option.some.inj enclosed]
      | cons next others =>
        have front : Nested (opener :: inner ++ [closer]) :=
          balancedInner.nested.enclosed matching
        have bare := interior_append front (by simp) (List.cons_ne_nil next others)
        have assembled : opener :: inner ++ closer :: next :: others =
            opener :: inner ++ [closer] ++ next :: others := by simp
        rw [assembled, bare] at enclosed
        cases enclosed

/-- Without the blanks in front a balanced text is balanced. -/
theorem Balanced.trimStart {text : Text} (balanced : Balanced text) :
    Balanced (Text.trimStart text) := by
  induction balanced with
  | empty => exact .empty
  | character first ordinary balancedRest inductionHypothesis =>
    cases blank : isBlank first with
    | true => simpa [Text.trimStart, blank] using inductionHypothesis
    | false => simpa [Text.trimStart, blank] using Balanced.character first ordinary balancedRest
  | pair matching balancedInner balancedRest _ _ =>
    have visible := (partner_not_blank matching).1
    simpa [Text.trimStart, visible] using Balanced.pair matching balancedInner balancedRest

/-- Without the blanks at the end a balanced text is balanced. -/
theorem Balanced.trimEnd {text : Text} (balanced : Balanced text) :
    Balanced (Text.trimEnd text) := by
  induction balanced with
  | empty => exact .empty
  | character first ordinary _ inductionHypothesis =>
    rw [Text.trimEnd]
    split
    · split
      · exact .empty
      · exact .character first ordinary .empty
    · exact .character first ordinary inductionHypothesis
  | pair matching balancedInner _ _ inductionHypothesis =>
    rw [Text.trimEnd_behind _ (partner_not_blank matching).2]
    exact .pair matching balancedInner inductionHypothesis

/-- Without the blanks around it a balanced text is balanced. -/
theorem Balanced.trim {text : Text} (balanced : Balanced text) : Balanced (Text.trim text) :=
  balanced.trimStart.trimEnd

/-- Without some enclosing pairs a balanced text is balanced. -/
theorem Balanced.stripLayers {text : Text} (balanced : Balanced text) (layers : Nat) :
    Balanced (stripLayers layers text) := by
  induction layers generalizing text with
  | zero => exact balanced
  | succ layers inductionHypothesis =>
    rw [Brackets.stripLayers]
    split
    · next inside enclosed => exact inductionHypothesis (balanced.interior enclosed).trim
    · exact balanced

/-- Without its enclosing pairs a balanced text is balanced. -/
theorem Balanced.strip {text : Text} (balanced : Balanced text) : Balanced (strip text) :=
  balanced.trim.stripLayers _

/-- A balanced text stays balanced in round brackets. -/
theorem Balanced.parenthesized {text : Text} (balanced : Balanced text) :
    Balanced (parenthesized text) :=
  balanced.enclosed rfl

/-- A balanced text is balanced whether it is enclosed or not. -/
theorem Balanced.groupIfCompound {text : Text} (balanced : Balanced text) :
    Balanced (groupIfCompound text) := by
  unfold Brackets.groupIfCompound
  split
  · exact balanced.parenthesized
  · exact balanced

/-- A balanced text is balanced when it is enclosed anew. -/
theorem Balanced.regroup {text : Text} (balanced : Balanced text) : Balanced (regroup text) :=
  balanced.strip.groupIfCompound

/-- Balanced pieces join to a balanced text. -/
theorem balanced_join (separator : Char) (ordinary : isBracket separator = false)
    {pieces : List Text} (each : ∀ piece ∈ pieces, Balanced piece) :
    Balanced (Text.join separator pieces) := by
  induction pieces with
  | nil => exact .empty
  | cons piece others inductionHypothesis =>
    obtain ⟨ofPiece, ofOthers⟩ := List.forall_mem_cons.mp each
    cases others with
    | nil => simpa using ofPiece
    | cons next rest =>
      rw [Text.join_cons (List.cons_ne_nil next rest)]
      exact ofPiece.around ordinary (inductionHypothesis ofOthers)

end Brackets

end PriorArt
