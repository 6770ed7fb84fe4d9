import PriorArt.Proofs.Brackets.Stripped
import PriorArt.Proofs.Catalogue.Met
import PriorArt.Proofs.Query.Kinds
import PriorArt.Proofs.Query.Written

/-!
# Proper nearnesses

A nearness of a query is proper if something is searched on its left, something on its right, and each
alternative on the right is something. Texts lose their enclosing brackets on the way, so what must not
be empty is what is left inside them.

A text that is made of several texts has a sign between them, which is no bracket, and so it is filled
whatever the texts are. A single text stands as it is. So it is enough that the texts of the leaves are
not empty inside their brackets, unless they are blank, and that this holds of the names of expressions,
which take the place of what a query has no notation for.
-/

namespace PriorArt

open Brackets

/-- The text is blank, or something is left of it without its enclosing brackets. -/
def Brackets.BlankOrFilled (text : Text) : Prop := text.allBlank = true ∨ IsFilled text

/-- This does not change by trimming. -/
theorem Brackets.BlankOrFilled.trim {text : Text} (proper : BlankOrFilled text) :
    BlankOrFilled (Text.trim text) := by
  rcases proper with blank | filled
  · rw [Text.trim_blank blank]
    exact .inl rfl
  · exact .inr (by rwa [IsFilled, strip_trim])

/-- Both sides of the nearness are filled, and the distance is one of the given ones. -/
structure Nearness.IsProper (near : Distance → Prop) (nearness : Nearness) : Prop where
  left : IsFilled nearness.left
  some : nearness.alternatives ≠ []
  each : ∀ alternative ∈ nearness.alternatives, IsFilled alternative
  distance : ∃ distance, near distance ∧ nearness.unit = distance.unit ∧
    nearness.count = distance.count

/-- The text of the factor is proper, or the nearness is. -/
def WordFactor.IsProper (near : Distance → Prop) : WordFactor → Prop
  | plain text => BlankOrFilled text
  | .near nearness => nearness.IsProper near

namespace WordFactor

variable {near : Distance → Prop} {factor : WordFactor}

/-- A proper factor is empty without its field, or filled. -/
theorem IsProper.text (proper : factor.IsProper near) (filled : factor.text ≠ []) :
    IsFilled factor.text := by
  cases factor with
  | plain text =>
    rcases proper with blank | ofText
    · exact absurd (Text.trim_blank blank) filled
    · rwa [IsFilled, WordFactor.text, strip_trim]
  | near nearness =>
    exact filled_of_mem ',' (by simp [WordFactor.text, Nearness.text, Nearness.reach])
      (by decide) (by decide) (by decide)

/-- A factor with content has a text. -/
theorem text_of_content (content : factor.hasContent = true) : factor.text ≠ [] := by
  cases factor with
  | plain text => exact Text.trim_filled (by simpa [hasContent] using content)
  | near nearness => simp [WordFactor.text, Nearness.text, Nearness.reach]

end WordFactor

/-- Two or more texts are joined to a filled text. -/
theorem Brackets.filled_join {separator : Char} (visible : isBlank separator = false)
    (notOpener : isOpener separator = false) (notCloser : isCloser separator = false)
    {first second : Text} {rest : List Text} :
    IsFilled (Text.join separator (first :: second :: rest)) := by
  rw [Text.join_cons (List.cons_ne_nil second rest)]
  exact filled_of_mem separator (by simp) visible notOpener notCloser

namespace Parts

variable {near : Distance → Prop}

/-- Parts whose word factors are proper. -/
def IsProper (near : Distance → Prop) (parts : Parts) : Prop :=
  ∀ factor ∈ parts.words, factor.IsProper near

/-- Parts without word factors are proper. -/
theorem proper_classes (classes : List Text) : (⟨[], classes⟩ : Parts).IsProper near := nofun

/-- A proper factor alone. -/
theorem proper_factor {factor : WordFactor} (proper : factor.IsProper near) :
    (ofFactor factor).IsProper near := by
  simpa [ofFactor, IsProper] using proper

/-- A proper text alone. -/
theorem proper_text {text : Text} (proper : BlankOrFilled text) :
    (ofText text).IsProper near :=
  proper_factor proper

/-- A proper text without the blanks around it. -/
theorem proper_trimmed {text : Text} (proper : BlankOrFilled text) :
    (ofTrimmed text).IsProper near := by
  unfold ofTrimmed
  split
  · exact proper_classes []
  · exact proper_text proper.trim

/-- Several proper parts are proper together. -/
theorem proper_together {several : List Parts} (each : ∀ parts ∈ several, parts.IsProper near) :
    (several.foldr (· ++ ·) empty).IsProper near := by
  induction several with
  | nil => exact proper_classes []
  | cons parts others inductionHypothesis =>
    obtain ⟨ofParts, ofOthers⟩ := List.forall_mem_cons.mp each
    exact List.forall_mem_append.mpr ⟨ofParts, inductionHypothesis ofOthers⟩

/-- The text of proper parts that search for words is filled. -/
theorem IsProper.wordsText {parts : Parts} (proper : parts.IsProper near)
    (kind : parts.kind = .words) : IsFilled parts.wordsText := by
  have texts : ∀ text ∈ (parts.words.map WordFactor.text).filter (fun text => !text.isEmpty),
      IsFilled text := by
    intro text listed
    obtain ⟨isText, filled⟩ := List.mem_filter.mp listed
    obtain ⟨factor, inside, rfl⟩ := List.mem_map.mp isText
    exact (proper factor inside).text (by simpa using filled)
  have some : (parts.words.map WordFactor.text).filter (fun text => !text.isEmpty) ≠ [] := by
    obtain ⟨factor, inside, content⟩ := List.any_eq_true.mp (kind_eq_words_iff.mp kind).1
    have listed := WordFactor.text_of_content content
    exact List.ne_nil_of_mem (List.mem_filter.mpr
      ⟨List.mem_map.mpr ⟨factor, inside, rfl⟩, by simpa using listed⟩)
  unfold Parts.wordsText
  split
  · next text same => exact texts text (by simp [same])
  · next several =>
    cases same : (parts.words.map WordFactor.text).filter (fun text => !text.isEmpty) with
    | nil => exact absurd same some
    | cons first others =>
      cases others with
      | nil => exact absurd same (several first)
      | cons second rest =>
        exact filled_join (by decide) (by decide) (by decide)

/-- The union of proper branches that search for words is proper. -/
theorem proper_uniteWords {branches : List Parts} (some : branches ≠ [])
    (each : ∀ branch ∈ branches, branch.IsProper near ∧ branch.kind = .words) :
    (uniteWords branches).IsProper near := by
  have texts : ∀ branch ∈ branches, IsFilled branch.wordsText :=
    fun branch listed => (each branch listed).1.wordsText (each branch listed).2
  unfold uniteWords
  split
  · next nearness others taken =>
    obtain ⟨⟨source, inside, factor⟩, fromBranches⟩ := mem_of_takeNear taken
    have ofNearness : nearness.IsProper near := (each source inside).1 _ factor
    apply proper_factor
    refine ⟨ofNearness.left, ?_, ?_, ofNearness.distance⟩
    · simp [Nearness.withAlternatives, ofNearness.some]
    · refine List.forall_mem_append.mpr ⟨ofNearness.each, ?_⟩
      exact List.forall_mem_map.mpr (fun other listed => texts other (fromBranches other listed))
  · apply proper_text
    cases branches with
    | nil => exact absurd rfl some
    | cons first others =>
      cases others with
      | nil =>
        have ofFirst : IsFilled (strip first.wordsText) := by
          rw [IsFilled, strip_strip]
          exact texts first (by simp)
        simpa using .inr ofFirst.parenthesized
      | cons second rest => exact .inr (filled_join (by decide) (by decide) (by decide))

/-- The union of proper branches is proper, if the fallback is where it is taken. -/
theorem proper_unite {fallback : Parts} {branches : List Parts}
    (ofFallback : ContentKind.mixed ∈ branches.map kind ∨
      ContentKind.words ∈ branches.map kind ∧ ContentKind.classes ∈ branches.map kind →
        fallback.IsProper near)
    (each : ∀ branch ∈ branches, branch.IsProper near) :
    (unite fallback branches).IsProper near := by
  simp only [unite, List.contains_eq_mem, Bool.or_eq_true, Bool.and_eq_true, decide_eq_true_eq]
  split
  · next degraded => exact ofFallback degraded
  · split
    · next words =>
      obtain ⟨branch, listed, same⟩ := List.mem_map.mp words
      apply proper_uniteWords
      · exact List.ne_nil_of_mem (List.mem_filter.mpr ⟨listed, decide_eq_true same⟩)
      · intro other inside
        obtain ⟨ofBranches, ofKind⟩ := List.mem_filter.mp inside
        exact ⟨each other ofBranches, of_decide_eq_true ofKind⟩
    · split
      · exact proper_classes _
      · exact proper_classes []

/-- The nearness of proper branches is proper, if the fallback is and the distance is a given one. -/
theorem proper_relate {fallback left right : Parts} (ofFallback : fallback.IsProper near)
    (ofLeft : left.IsProper near) {distance : Distance} (given : near distance)
    (ofRight : right.IsProper near) : (relate fallback distance left right).IsProper near := by
  unfold relate
  split
  · next words =>
    obtain ⟨wordsLeft, wordsRight⟩ : left.kind = .words ∧ right.kind = .words := by
      simpa using words
    apply proper_factor
    refine ⟨ofLeft.wordsText wordsLeft, by simp [Nearness.ofDistance], ?_, distance, given, rfl, rfl⟩
    simpa [Nearness.ofDistance] using ofRight.wordsText wordsRight
  · exact ofFallback

/-- Three branches together are proper, if the fallback is. -/
theorem proper_gather {fallback : Parts} (ofFallback : fallback.IsProper near) (count : Nat)
    (first second third : Parts) : (gather fallback count first second third).IsProper near := by
  unfold gather
  split
  · exact proper_text (.inr (filled_of_mem ',' (by simp [Expr.bracedText])
      (by decide) (by decide) (by decide)))
  · exact ofFallback

/-- Parts on one side of the query do not search for words and for codes. -/
theorem kind_of_one_side {parts : Parts} (oneSide : parts.words = [] ∨ parts.classes = []) :
    parts.kind ≠ .mixed := by
  unfold kind
  rcases oneSide with none | none
  · rw [none]
    split <;> simp_all
  · rw [none]
    split <;> simp_all

end Parts

/-- The form of a set operator is filled if it has a second operand, or if the form of the only operand
is filled. -/
theorem Expr.filled_form {name : Text → Text} (connective : Connective) {first : Expr}
    {others : List Expr} (single : others = [] → IsFilled (logicalForm name first)) :
    IsFilled (logicalForm name (.logical connective first others)) := by
  cases others with
  | nil =>
    have ofFirst := single rfl
    rw [logicalForm, logicalForms, List.append_nil, factorText]
    split
    · exact ofFirst.parenthesized
    · exact ofFirst
  | cons second rest =>
    apply filled_of_mem connective.sign
    · simp [logicalForm, logicalForms]
    all_goals cases connective <;> decide

namespace Catalogue

variable {catalogue : Catalogue} {tree : Expr}

/-- The texts for which a tree searches are filled unless they are blank, and the names of the
expressions to which it refers are filled. -/
structure SearchesProperly (catalogue : Catalogue) (tree : Expr) : Prop where
  texts : ∀ text, catalogue.Searches tree text → BlankOrFilled text
  names : ∀ id expression, catalogue.Meets tree (.reference id) →
    catalogue.find? id = some (.expression expression) → IsFilled (catalogue.nameOf id)

/-- The distances of the nearnesses that are met. -/
def MeetsDistance (catalogue : Catalogue) (tree : Expr) (distance : Distance) : Prop :=
  ∃ left right, catalogue.Meets tree (.proximity distance left right)

/-- What is written at once is proper, and it searches for words or for codes. -/
theorem SearchesProperly.leaf (searches : catalogue.SearchesProperly tree) {stack : List Text}
    {expr : Expr} {own : Parts} (met : catalogue.Meets tree expr)
    (writes : catalogue.WritesAtOnce stack expr own) :
    own.IsProper (catalogue.MeetsDistance tree) ∧ own.kind ≠ .mixed := by
  have trimmed : ∀ text, BlankOrFilled text →
      (Parts.ofTrimmed text).IsProper (catalogue.MeetsDistance tree) ∧
        (Parts.ofTrimmed text).kind ≠ .mixed := by
    intro text proper
    refine ⟨Parts.proper_trimmed proper, Parts.kind_of_one_side (.inr ?_)⟩
    unfold Parts.ofTrimmed
    split <;> rfl
  have nothing : (Parts.empty).IsProper (catalogue.MeetsDistance tree) ∧
      (Parts.empty).kind ≠ .mixed := ⟨Parts.proper_classes [], by decide⟩
  cases writes with
  | word text =>
    have ofText := searches.texts text (.word met)
    unfold wordParts
    split
    · next word found =>
      apply trimmed
      split
      · exact ofText
      · exact searches.texts _ (.definition met found)
    · exact trimmed _ ofText
  | unknown _ => exact nothing
  | ofWord found => exact trimmed _ (searches.texts _ (.content met found))
  | noCodes _ _ => exact nothing
  | ofGroup _ _ => exact ⟨Parts.proper_classes _, Parts.kind_of_one_side (.inl rfl)⟩
  | noTree _ _ => exact nothing
  | circle found _ _ =>
    exact ⟨Parts.proper_text (.inr (searches.names _ _ met found)),
      Parts.kind_of_one_side (.inr rfl)⟩

/-- The form of a set operator is filled if, where the operator has only one operand, this searches for
words and for codes. -/
theorem filled_of_operands {near : Distance → Prop} {name : Text → Text} {connective : Connective}
    {first : Expr} {others : List Expr} {each : List Parts}
    (ofEach : List.Forall₂ (fun expr own => Parts.IsProper near own ∧
      (own.kind = .mixed → IsFilled (expr.logicalForm name))) (first :: others) each)
    (mixed : ∀ only, each = [only] → only.kind = .mixed) :
    IsFilled (Expr.logicalForm name (.logical connective first others)) := by
  apply Expr.filled_form
  rintro rfl
  obtain ⟨only, none, ⟨_, ofOnly⟩, nothing, rfl⟩ := List.forall₂_cons_left_iff.mp ofEach
  obtain rfl := List.forall₂_nil_left_iff.mp nothing
  exact ofOnly (mixed only rfl)

/-- The parts of the expressions that are met are proper, and one that searches for words and for
codes has a filled logical form. -/
theorem SearchesProperly.keeps (searches : catalogue.SearchesProperly tree) :
    catalogue.Keeps tree (fun expr own => own.IsProper (catalogue.MeetsDistance tree) ∧
      (own.kind = .mixed → IsFilled (expr.logicalForm catalogue.nameOf))) where
  leaf stack expr own met writes := by
    obtain ⟨proper, notMixed⟩ := searches.leaf met writes
    exact ⟨proper, fun mixed => absurd mixed notMixed⟩
  opening id expression root own met found rooted ofRoot :=
    ⟨ofRoot.1, fun _ => searches.names id expression met found⟩
  intersection first others each _ ofEach := by
    have proper := forall_right (fun _ _ holds => holds.1) ofEach
    refine ⟨Parts.proper_together proper, fun mixed => filled_of_operands ofEach ?_⟩
    rintro only rfl
    rwa [Parts.kind_together, List.map_singleton, ContentKind.together_single] at mixed
  union first others each _ ofEach := by
    have proper := forall_right (fun _ _ holds => holds.1) ofEach
    -- The form is written if an operand searches for both, or if there are two operands.
    have filled : ContentKind.mixed ∈ each.map Parts.kind ∨
        ContentKind.words ∈ each.map Parts.kind ∧ ContentKind.classes ∈ each.map Parts.kind →
          IsFilled (Expr.logicalForm catalogue.nameOf (.logical .or first others)) := by
      refine fun degraded => filled_of_operands ofEach ?_
      rintro only rfl
      simp only [List.map_singleton, List.mem_singleton] at degraded
      rcases degraded with mixed | ⟨words, classes⟩
      · exact mixed.symm
      · cases words.trans classes.symm
    refine ⟨Parts.proper_unite (fun degraded => Parts.proper_text (.inr (filled degraded))) proper, ?_⟩
    intro mixed
    rw [Parts.kind_unite] at mixed
    · exact absurd mixed (ContentKind.either_ne_mixed _)
    · intro degraded
      rw [Expr.verbatim, Parts.kind_ofText, ContentKind.ofText, (filled degraded).visible]
      rfl
  proximity distance left right leftParts rightParts met ofLeft ofRight := by
    have filled : IsFilled (Expr.logicalForm catalogue.nameOf (.proximity distance left right)) :=
      filled_of_mem ',' (by simp [Expr.logicalForm]) (by decide) (by decide)
        (by decide)
    exact ⟨Parts.proper_relate (Parts.proper_text (.inr filled)) ofLeft.1 ⟨left, right, met⟩ ofRight.1,
      fun _ => filled⟩
  simultaneous count first second third firstParts secondParts thirdParts _ ofFirst ofSecond
      ofThird := by
    have filled : IsFilled
        (Expr.logicalForm catalogue.nameOf (.simultaneous count first second third)) :=
      filled_of_mem ',' (by simp [Expr.logicalForm, Expr.bracedText]) (by decide)
        (by decide) (by decide)
    exact ⟨Parts.proper_gather (Parts.proper_text (.inr filled)) count _ _ _, fun _ => filled⟩

/-- If the texts for which an expression searches are filled unless they are blank, and the names of
the expressions to which it refers are filled, then every nearness of its query has a filled left side
and alternatives, all of them filled, and its distance is that of a nearness that is met. -/
theorem nearness_proper (catalogue : Catalogue) (tree : Expr)
    (searches : catalogue.SearchesProperly tree) {nearness : Nearness}
    (listed : .near nearness ∈ (catalogue.parts tree).words) :
    strip nearness.left ≠ [] ∧ nearness.alternatives ≠ [] ∧
      (∀ alternative ∈ nearness.alternatives, strip alternative ≠ []) ∧
      ∃ distance left right, catalogue.Meets tree (.proximity distance left right) ∧
        nearness.unit = distance.unit ∧ nearness.count = distance.count := by
  have proper : nearness.IsProper (catalogue.MeetsDistance tree) := searches.keeps.parts.1 _ listed
  obtain ⟨distance, ⟨left, right, met⟩, unit, count⟩ := proper.distance
  exact ⟨proper.left, proper.some, proper.each, distance, left, right, met, unit, count⟩

/-- The nearness takes the token as a second alternative, and the definition is written for both. -/
theorem nearness_proper_nesting :
    nesting.SearchesProperly nestingTree ∧ ∃ left definition : Text,
      (nesting.parts nestingTree).words =
        [.near ⟨left, [definition, definition], .words, 5⟩] ∧
      strip left ≠ [] ∧ strip definition ≠ [] ∧
      ∃ distance left right, nesting.Meets nestingTree (.proximity distance left right) ∧
        DistanceUnit.words = distance.unit ∧ 5 = (distance.count : Int) := by
  have searches : nesting.SearchesProperly nestingTree := by
    constructor
    · intro text searched
      right
      cases searched with
      | word met =>
        obtain rfl := words_nesting met
        decide
      | definition met found =>
        obtain rfl := words_nesting met
        rw [← Option.some.inj found]
        decide
      | content met found =>
        rcases references_nesting met with rfl | rfl
        · cases found
        · rw [← Entity.word.inj (Option.some.inj found)]
          decide
    · intro id expression met found
      rcases references_nesting met with rfl | rfl
      · decide
      · cases found
  have sole : (nesting.parts nestingTree).words =
      [.near ⟨"((A)+{B})+(P)".toList, ["(A)+{B}".toList, "(A)+{B}".toList], .words, 5⟩] := by
    decide +kernel
  obtain ⟨filled, _, each, distance⟩ :=
    nearness_proper nesting nestingTree searches (sole ▸ List.mem_singleton_self _)
  exact ⟨searches, _, _, sole, filled, each _ List.mem_cons_self, distance⟩

end Catalogue

end PriorArt
