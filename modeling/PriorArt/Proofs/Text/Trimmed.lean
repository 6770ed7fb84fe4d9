import PriorArt.Proofs.Text.Solid

/-!
# Trimmed texts

A text is trimmed if no blank stands at either end; blanks inside do not matter. Trimming a text
makes it trimmed and keeps it if it is so already, with blanks around it or without, and trimmed
pieces join to a trimmed text.
-/

namespace PriorArt.Text

/-- The text neither begins nor ends with a blank. -/
structure IsTrimmed (text : Text) : Prop where
  front : ∀ character ∈ text.head?, isBlank character = false
  back : ∀ character ∈ text.getLast?, isBlank character = false

/-- A solid text is trimmed. -/
theorem IsSolid.trimmed {text : Text} (solid : IsSolid text) : IsTrimmed text where
  front character first := solid character (List.mem_of_mem_head? first)
  back character last := solid character (List.mem_of_mem_getLast? last)

/-- Behind the removal of blanks at the end no blank stands there. -/
theorem trimEnd_back (text : Text) :
    ∀ character ∈ (trimEnd text).getLast?, isBlank character = false := by
  induction text with
  | nil => simp [trimEnd]
  | cons character rest inductionHypothesis =>
    rw [trimEnd]
    cases kept : trimEnd rest with
    | nil => cases blank : isBlank character <;> simp [blank]
    | cons next others =>
      rw [kept] at inductionHypothesis
      simpa only [List.getLast?_cons_cons] using inductionHypothesis

/-- Removing blanks at the end leaves a part in front of them. -/
theorem trimEnd_leaves_front (text : Text) : trimEnd text <+: text := by
  induction text with
  | nil => exact List.prefix_rfl
  | cons character rest inductionHypothesis =>
    rw [trimEnd]
    cases kept : trimEnd rest with
    | nil =>
      cases isBlank character with
      | true => exact List.nil_prefix
      | false => exact (List.prefix_cons_inj character).mpr List.nil_prefix
    | cons next others =>
      rw [kept] at inductionHypothesis
      exact (List.prefix_cons_inj character).mpr inductionHypothesis

/-- Removing blanks at the end keeps a text that does not end with one. -/
theorem trimEnd_same {text : Text}
    (back : ∀ character ∈ text.getLast?, isBlank character = false) : trimEnd text = text := by
  induction text with
  | nil => rfl
  | cons character rest inductionHypothesis =>
    rw [trimEnd]
    cases rest with
    | nil => simp [trimEnd, back character rfl]
    | cons next others =>
      rw [inductionHypothesis (by simpa only [List.getLast?_cons_cons] using back)]

/-- A trimmed text is kept. -/
theorem IsTrimmed.trim {text : Text} (trimmed : IsTrimmed text) : Text.trim text = text := by
  have start : trimStart text = text := by
    cases text with
    | nil => rfl
    | cons character rest => simp [trimStart, trimmed.front character rfl]
  rw [Text.trim, start, trimEnd_same trimmed.back]

/-- Trimming trims. -/
theorem trimmed_trim (text : Text) : IsTrimmed (trim text) where
  front := by
    intro character first
    have inFront : character ∈ (trimStart text).head? := by
      cases kept : trim text with
      | nil => simp [kept] at first
      | cons other others =>
        obtain ⟨behind, split⟩ := trimEnd_leaves_front (trimStart text)
        rw [← split]
        change character ∈ (trim text ++ behind).head?
        rw [kept] at first ⊢
        exact first
    have notBlank := List.head?_dropWhile_not isBlank text
    rw [← trimStart, inFront] at notBlank
    simpa using notBlank
  back := trimEnd_back (trimStart text)

/-- What is left of a text by trimming stood in the text. -/
theorem trim_subset (text : Text) : trim text ⊆ text :=
  fun _ inside => (List.dropWhile_sublist _).subset ((trimEnd_leaves_front _).subset inside)

/-- Blanks are removed at the end. -/
theorem trimEnd_split (text : Text) :
    ∃ after, text = trimEnd text ++ after ∧ after.allBlank = true := by
  induction text with
  | nil => exact ⟨[], rfl, rfl⟩
  | cons character rest inductionHypothesis =>
    obtain ⟨after, split, blank⟩ := inductionHypothesis
    rw [trimEnd]
    cases kept : trimEnd rest with
    | nil =>
      rw [kept, List.nil_append] at split
      subst split
      cases visible : isBlank character with
      | false => exact ⟨rest, rfl, blank⟩
      | true => exact ⟨character :: rest, rfl, by simpa [allBlank, visible] using blank⟩
    | cons next others =>
      rw [kept] at split
      exact ⟨after, by rw [split]; rfl, blank⟩

/-- Blanks are removed in front and at the end. -/
theorem trim_split (text : Text) : ∃ before after, text = before ++ trim text ++ after ∧
    before.allBlank = true ∧ after.allBlank = true := by
  obtain ⟨after, split, blank⟩ := trimEnd_split (trimStart text)
  refine ⟨text.takeWhile isBlank, after, ?_, List.all_takeWhile, blank⟩
  rw [trim, List.append_assoc, ← split, trimStart, List.takeWhile_append_dropWhile]

/-- Nothing is left at the end of a blank text. -/
theorem trimEnd_blank {text : Text} (blank : text.allBlank = true) : trimEnd text = [] := by
  induction text with
  | nil => rfl
  | cons character rest inductionHypothesis =>
    simp only [allBlank, List.all_cons, Bool.and_eq_true] at blank
    rw [trimEnd, inductionHypothesis blank.2, blank.1]
    rfl

/-- Blanks behind a text are removed from its end with the blanks of the text. -/
theorem trimEnd_append_blank (text : Text) {after : Text} (blank : after.allBlank = true) :
    trimEnd (text ++ after) = trimEnd text := by
  induction text with
  | nil => exact trimEnd_blank blank
  | cons character rest inductionHypothesis =>
    rw [List.cons_append, trimEnd, trimEnd, inductionHypothesis]

/-- A trimmed text is what is left of it with blanks around it. -/
theorem IsTrimmed.trim_around {before text after : Text} (trimmed : IsTrimmed text)
    (blankBefore : before.allBlank = true) (blankAfter : after.allBlank = true) :
    Text.trim (before ++ text ++ after) = text := by
  have start : trimStart (before ++ text ++ after) = trimStart (text ++ after) := by
    rw [List.append_assoc, trimStart,
      List.dropWhile_append_of_pos (List.all_eq_true.mp blankBefore), trimStart]
  rw [Text.trim, start]
  cases text with
  | nil => exact trimEnd_blank (List.all_eq_true.mpr fun character inside =>
      List.all_eq_true.mp blankAfter character ((List.dropWhile_sublist _).subset inside))
  | cons first rest =>
    have visible : isBlank first = false := trimmed.front first rfl
    rw [List.cons_append, trimStart, List.dropWhile_cons_of_neg (by simp [visible]),
      ← List.cons_append, trimEnd_append_blank _ blankAfter, trimEnd_same trimmed.back]

/-- Between trimmed texts with characters anything may stand. -/
theorem IsTrimmed.around {front back : Text} (trimmedFront : IsTrimmed front)
    (trimmedBack : IsTrimmed back) (someFront : front ≠ []) (someBack : back ≠ [])
    (middle : Text) : IsTrimmed (front ++ middle ++ back) where
  front := by
    cases front with
    | nil => exact absurd rfl someFront
    | cons first rest => exact trimmedFront.front
  back := by
    obtain ⟨last, isLast⟩ := Option.ne_none_iff_exists'.mp
      (fun empty => someBack (List.getLast?_eq_none_iff.mp empty))
    intro character inside
    rw [List.getLast?_append, isLast, Option.some_or] at inside
    exact trimmedBack.back character (isLast.trans inside)

/-- Trimmed pieces with characters join to a trimmed text with characters. -/
theorem trimmed_join {separator : Char} {pieces : List Text} (some : pieces ≠ [])
    (proper : ∀ piece ∈ pieces, IsTrimmed piece ∧ piece ≠ []) :
    IsTrimmed (join separator pieces) ∧ join separator pieces ≠ [] := by
  induction pieces with
  | nil => exact absurd rfl some
  | cons piece others inductionHypothesis =>
    obtain ⟨⟨trimmed, filled⟩, properOthers⟩ := List.forall_mem_cons.mp proper
    cases others with
    | nil =>
      rw [join_single]
      exact ⟨trimmed, filled⟩
    | cons next rest =>
      obtain ⟨trimmedLater, filledLater⟩ := inductionHypothesis (by simp) properOthers
      rw [join_cons (by simp)]
      have around := trimmed.around trimmedLater filled filledLater [separator]
      exact ⟨by simpa using around, by simp⟩

end PriorArt.Text
