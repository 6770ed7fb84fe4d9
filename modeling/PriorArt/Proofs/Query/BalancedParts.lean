import PriorArt.Proofs.Brackets.Balanced
import PriorArt.Proofs.Catalogue.Met
import PriorArt.Proofs.Query.PartsLaidOut
import PriorArt.Proofs.Query.Written

/-!
# Balanced queries

Writing out an expression removes enclosing brackets from texts and adds brackets in many places. If
all the texts that are used are balanced, so is everything that is made of them: the logical form of
every expression that is met, the texts of the factors, and the query.
-/

namespace PriorArt

open Brackets

/-- The digits of a number are no brackets. -/
theorem decimal_balanced (number : Nat) : Balanced (decimal number) := by
  have noDigit : ['(', ')', '{', '}', '[', ']'].any Char.isDigit = false := by decide
  refine balanced_of_ordinary (List.any_eq_false.mpr fun character inside bracket => ?_)
  exact List.any_eq_false.mp noDigit character (mem_of_isBracket bracket)
    (decimal_digits number character inside)

/-- Neither is the sign in front of them. -/
theorem signedDecimal_balanced (number : Int) : Balanced (signedDecimal number) := by
  cases number with
  | ofNat number => exact decimal_balanced number
  | negSucc number => exact .character '-' (by decide) (decimal_balanced _)

/-- The suffixes of fields have no brackets. -/
theorem suffix_balanced (field : Field) : Balanced field.suffix.toList := by
  apply balanced_of_ordinary
  cases field <;> decide

namespace Expr

/-- Operands of nearness are enclosed or stand as they are. -/
theorem operandText_balanced (operand : Expr) {text : Text} (balanced : Balanced text) :
    Balanced (operandText operand text) := by
  unfold operandText
  split
  · exact balanced
  · exact balanced.parenthesized

/-- Operands of a set operator are enclosed or stand as they are. -/
theorem factorText_balanced (connective : Connective) (operand : Expr) {text : Text}
    (balanced : Balanced text) : Balanced (factorText connective operand text) := by
  unfold factorText
  split
  · exact balanced.parenthesized
  · exact balanced

/-- The form of three operands is balanced if their texts are. -/
theorem bracedText_balanced {first second third : Text} (ofFirst : Balanced first)
    (ofSecond : Balanced second) (ofThird : Balanced third) (count : Nat) :
    Balanced (bracedText first second third count) := by
  have reach : Balanced (decimal count ++ ['n']) :=
    (decimal_balanced count).append (.character 'n' (by decide) .empty)
  have inner : Balanced (first ++ ',' :: second ++ ',' :: third) :=
    (ofFirst.around (by decide) ofSecond).around (by decide) ofThird
  have whole := Balanced.pair (show partnerOf? '{' = some '}' from rfl) inner
    (.character ',' (by decide) reach)
  simpa [bracedText] using whole

/-- The form of a nearness is balanced if those of its operands are. -/
theorem proximity_balanced {name : Text → Text} (distance : Distance)
    {left right : Expr} (ofLeft : Balanced (logicalForm name left))
    (ofRight : Balanced (logicalForm name right)) :
    Balanced (logicalForm name (.proximity distance left right)) := by
  have letter : isBracket distance.unit.letter = false := by cases distance.unit <;> decide
  have reach : Balanced distance.text :=
    (decimal_balanced distance.count).append (.character _ letter .empty)
  have front := (operandText_balanced left ofLeft).around (show isBracket ',' = false by decide) reach
  exact front.around (by decide) (operandText_balanced right ofRight)

/-- The form of a set operator is balanced if those of its operands are. -/
theorem logical_balanced {name : Text → Text} (connective : Connective) {first : Expr}
    {others : List Expr}
    (each : ∀ operand ∈ first :: others, Balanced (logicalForm name operand)) :
    Balanced (logicalForm name (.logical connective first others)) := by
  have sign : isBracket connective.sign = false := by cases connective <;> decide
  rw [logicalForm_logical]
  exact balanced_join connective.sign sign (List.forall_mem_map.mpr
    (fun operand listed => factorText_balanced connective operand (each operand listed)))

end Expr

/-- The texts of a factor are balanced. -/
def WordFactor.IsBalanced : WordFactor → Prop
  | plain text => Balanced text
  | near nearness =>
    Balanced nearness.left ∧ ∀ alternative ∈ nearness.alternatives, Balanced alternative

/-- How near texts must be is written without brackets. -/
theorem Nearness.reach_balanced (nearness : Nearness) : Balanced nearness.reach := by
  have behind : Balanced [nearness.unit.letter, ','] := by
    apply balanced_of_ordinary
    cases nearness.unit <;> decide
  exact .character ',' (by decide) ((signedDecimal_balanced nearness.count).append behind)

namespace WordFactor

variable {factor : WordFactor}

/-- A balanced factor is balanced without its field. -/
theorem IsBalanced.text (balanced : factor.IsBalanced) : Balanced factor.text := by
  cases factor with
  | plain text => exact Balanced.trim balanced
  | near nearness =>
    obtain ⟨ofLeft, ofAlternatives⟩ := balanced
    have stripped : ∀ text ∈ nearness.alternatives.map strip, Balanced text :=
      List.forall_mem_map.mpr (fun alternative listed => (ofAlternatives alternative listed).strip)
    refine (ofLeft.regroup.append nearness.reach_balanced).append ?_
    split
    · next alternative same =>
      exact (stripped alternative (by simp [same])).groupIfCompound
    · exact (balanced_join '+' (by decide) stripped).parenthesized

/-- A balanced text is balanced in its field. -/
theorem renderWord_balanced {text : Text} (balanced : Balanced text) :
    Balanced (renderWord text) :=
  balanced.regroup.append (suffix_balanced .text)

/-- A balanced nearness is a balanced text in square brackets in the form of a query. -/
theorem render_squared {nearness : Nearness} (balanced : (near nearness).IsBalanced) :
    IsSquared nearness.render := by
  obtain ⟨ofLeft, ofAlternatives⟩ := balanced
  have rendered : ∀ text ∈ nearness.alternatives.map renderWord, Balanced text :=
    List.forall_mem_map.mpr
      (fun alternative listed => renderWord_balanced (ofAlternatives alternative listed))
  exact ⟨_, (ofLeft.regroup.append nearness.reach_balanced).append
    (balanced_join '+' (by decide) rendered), rfl⟩

/-- A balanced factor is balanced in the form of a query. -/
theorem IsBalanced.render (balanced : factor.IsBalanced) {text : Text}
    (rendered : factor.render? = some text) : Balanced text := by
  cases factor with
  | plain content =>
    rw [render?] at rendered
    split at rendered
    · cases rendered
    · rw [← Option.some.inj rendered]
      exact renderWord_balanced balanced
  | near nearness =>
    rw [← Option.some.inj rendered]
    exact (render_squared balanced).balanced

end WordFactor

/-- A balanced group of codes is a balanced text in square brackets in the form of a query. -/
theorem renderClass_squared {group text : Text} (balanced : Balanced group)
    (rendered : renderClass? group = some text) : IsSquared text := by
  rw [renderClass?] at rendered
  split at rendered
  · cases rendered
  · have inner := (balanced.strip.parenthesized.append (suffix_balanced .primaryClass)).around
      (show isBracket '+' = false by decide)
      (balanced.strip.parenthesized.append (suffix_balanced .furtherClass))
    exact ⟨_, inner, by simp [← Option.some.inj rendered, renderClass]⟩

/-- The union of balanced codes is balanced. -/
theorem ClassEntity.union_balanced {group : ClassEntity}
    (codes : ∀ code ∈ group.codes, Balanced code) : Balanced group.union := by
  unfold union
  split
  · exact .empty
  · exact (balanced_join '+' (by decide) codes).parenthesized

namespace Parts

/-- Parts whose factors and groups are balanced. -/
structure IsBalanced (parts : Parts) : Prop where
  words : ∀ factor ∈ parts.words, factor.IsBalanced
  classes : ∀ group ∈ parts.classes, Balanced group

/-- The parts that search for nothing are balanced. -/
theorem balanced_empty : IsBalanced empty := ⟨nofun, nofun⟩

/-- A balanced factor alone. -/
theorem balanced_factor {factor : WordFactor} (balanced : factor.IsBalanced) :
    (ofFactor factor).IsBalanced :=
  ⟨by simpa [ofFactor] using balanced, nofun⟩

/-- A balanced text alone. -/
theorem balanced_text {text : Text} (balanced : Balanced text) : (ofText text).IsBalanced :=
  balanced_factor balanced

/-- A balanced text without the blanks around it. -/
theorem balanced_trimmed {text : Text} (balanced : Balanced text) :
    (ofTrimmed text).IsBalanced := by
  unfold ofTrimmed
  split
  · exact balanced_empty
  · exact balanced_text balanced.trim

/-- A balanced group of codes alone. -/
theorem balanced_class {group : Text} (balanced : Balanced group) :
    (ofClass group).IsBalanced :=
  ⟨nofun, by simpa [ofClass] using balanced⟩

/-- Balanced parts are balanced together. -/
theorem IsBalanced.append {left right : Parts} (ofLeft : left.IsBalanced)
    (ofRight : right.IsBalanced) : (left ++ right).IsBalanced :=
  ⟨List.forall_mem_append.mpr ⟨ofLeft.words, ofRight.words⟩,
    List.forall_mem_append.mpr ⟨ofLeft.classes, ofRight.classes⟩⟩

/-- Several balanced parts are balanced together. -/
theorem balanced_together {several : List Parts} (each : ∀ parts ∈ several, parts.IsBalanced) :
    (several.foldr (· ++ ·) empty).IsBalanced := by
  induction several with
  | nil => exact balanced_empty
  | cons parts others inductionHypothesis =>
    obtain ⟨ofParts, ofOthers⟩ := List.forall_mem_cons.mp each
    exact ofParts.append (inductionHypothesis ofOthers)

/-- The words of balanced parts have a balanced text. -/
theorem IsBalanced.wordsText {parts : Parts} (balanced : parts.IsBalanced) :
    Balanced parts.wordsText := by
  have texts : ∀ text ∈ (parts.words.map WordFactor.text).filter (fun text => !text.isEmpty),
      Balanced text := by
    intro text listed
    obtain ⟨factor, inside, rfl⟩ := List.mem_map.mp (List.mem_of_mem_filter listed)
    exact (balanced.words factor inside).text
  unfold Parts.wordsText
  split
  · next text same => exact texts text (by simp [same])
  · exact balanced_join '*' (by decide)
      (List.forall_mem_map.mpr (fun text listed => (texts text listed).regroup))

/-- The groups of codes of balanced parts have a balanced text. -/
theorem IsBalanced.classesText {parts : Parts} (balanced : parts.IsBalanced) :
    Balanced parts.classesText := by
  have texts : ∀ text ∈ (parts.classes.filter (fun group => !group.allBlank)).map strip,
      Balanced text :=
    List.forall_mem_map.mpr
      (fun group listed => (balanced.classes group (List.mem_of_mem_filter listed)).strip)
  unfold Parts.classesText
  split
  · next group same => exact texts group (by simp [same])
  · exact balanced_join '*' (by decide)
      (List.forall_mem_map.mpr (fun text listed => (texts text listed).parenthesized))

/-- The query for balanced parts is balanced. -/
theorem IsBalanced.render {parts : Parts} (balanced : parts.IsBalanced) :
    Balanced parts.render := by
  refine balanced_join '*' (by decide) (List.forall_mem_append.mpr ⟨?_, ?_⟩)
  · intro text listed
    obtain ⟨factor, inside, rendered⟩ := List.mem_filterMap.mp listed
    exact (balanced.words factor inside).render rendered
  · intro text listed
    obtain ⟨group, inside, rendered⟩ := List.mem_filterMap.mp listed
    exact (renderClass_squared (balanced.classes group inside) rendered).balanced

/-- The union of balanced branches that search for words is balanced. -/
theorem balanced_uniteWords {branches : List Parts}
    (each : ∀ branch ∈ branches, branch.IsBalanced) : (uniteWords branches).IsBalanced := by
  unfold uniteWords
  split
  · next nearness others taken =>
    obtain ⟨⟨source, inside, factor⟩, fromBranches⟩ := mem_of_takeNear taken
    obtain ⟨ofLeft, ofAlternatives⟩ := (each source inside).words _ factor
    refine balanced_factor ⟨ofLeft, List.forall_mem_append.mpr ⟨ofAlternatives, ?_⟩⟩
    exact List.forall_mem_map.mpr
      (fun other listed => (each other (fromBranches other listed)).wordsText)
  · exact balanced_text (balanced_join '+' (by decide) (List.forall_mem_map.mpr
      (fun branch listed => (each branch listed).wordsText.strip.parenthesized)))

/-- The union of balanced branches is balanced, if the fallback is. -/
theorem balanced_unite {fallback : Parts} (ofFallback : fallback.IsBalanced)
    {branches : List Parts} (each : ∀ branch ∈ branches, branch.IsBalanced) :
    (unite fallback branches).IsBalanced := by
  have ofKind : ∀ kind, ∀ branch ∈ branchesOf kind branches, branch.IsBalanced :=
    fun kind branch listed => each branch (List.mem_of_mem_filter listed)
  simp only [unite]
  split_ifs
  · exact ofFallback
  · exact balanced_uniteWords (ofKind .words)
  · refine balanced_class (balanced_join '+' (by decide) ?_).parenthesized
    exact List.forall_mem_map.mpr
      (fun branch listed => (ofKind .classes branch listed).classesText)
  · exact balanced_empty

/-- The nearness of balanced branches is balanced, if the fallback is. -/
theorem balanced_relate {fallback left right : Parts} (ofFallback : fallback.IsBalanced)
    (ofLeft : left.IsBalanced) (distance : Distance) (ofRight : right.IsBalanced) :
    (relate fallback distance left right).IsBalanced := by
  unfold relate
  split
  · exact balanced_factor
      ⟨ofLeft.wordsText, by simpa [Nearness.ofDistance] using ofRight.wordsText⟩
  · exact ofFallback

/-- Three balanced branches are balanced together, if the fallback is. -/
theorem balanced_gather {fallback first second third : Parts} (ofFallback : fallback.IsBalanced)
    (ofFirst : first.IsBalanced) (ofSecond : second.IsBalanced) (ofThird : third.IsBalanced)
    (count : Nat) : (gather fallback count first second third).IsBalanced := by
  unfold gather
  split
  · exact balanced_text (Expr.bracedText_balanced ofFirst.wordsText.regroup
      ofSecond.wordsText.regroup ofThird.wordsText.regroup count)
  · exact ofFallback

end Parts

namespace Catalogue

variable {catalogue : Catalogue} {tree : Expr}

/-- What is written at once is balanced, if the texts that are used are. -/
theorem balanced_leaf (used : ∀ text, catalogue.Uses tree text → Balanced text)
    {stack : List Text} {expr : Expr} {own : Parts} (met : catalogue.Meets tree expr)
    (writes : catalogue.WritesAtOnce stack expr own) : own.IsBalanced := by
  cases writes with
  | word text =>
    have ofText := used text (.searched (.word met))
    unfold wordParts
    split
    · next word found =>
      apply Parts.balanced_trimmed
      split
      · exact ofText
      · exact used _ (.searched (.definition met found))
    · exact Parts.balanced_trimmed ofText
  | unknown _ => exact Parts.balanced_empty
  | ofWord found => exact Parts.balanced_trimmed (used _ (.searched (.content met found)))
  | noCodes _ _ => exact Parts.balanced_empty
  | ofGroup found _ =>
    exact Parts.balanced_class
      (ClassEntity.union_balanced (fun code listed => used code (.code met found listed)))
  | noTree _ _ => exact Parts.balanced_empty
  | circle _ _ _ => exact Parts.balanced_text (used _ (.name met))

/-- The logical form of every expression that is met is balanced along with its parts, if the texts
that are used are. -/
theorem keeps_balanced (used : ∀ text, catalogue.Uses tree text → Balanced text) :
    catalogue.Keeps tree
      (fun expr own => Balanced (expr.logicalForm catalogue.nameOf) ∧ own.IsBalanced) where
  leaf stack expr own met writes := by
    refine ⟨?_, balanced_leaf used met writes⟩
    cases writes with
    | word text => exact used text (.searched (.word met))
    | _ => exact used _ (.name met)
  opening id expression root own met _ _ ofRoot := ⟨used _ (.name met), ofRoot.2⟩
  intersection first others each _ ofEach := by
    have forms := forall_left (fun _ _ holds => holds.1) ofEach
    have parts := forall_right (fun _ _ holds => holds.2) ofEach
    exact ⟨Expr.logical_balanced .and forms, Parts.balanced_together parts⟩
  union first others each _ ofEach := by
    have forms := forall_left (fun _ _ holds => holds.1) ofEach
    have parts := forall_right (fun _ _ holds => holds.2) ofEach
    have form := Expr.logical_balanced .or forms
    exact ⟨form, Parts.balanced_unite (Parts.balanced_text form) parts⟩
  proximity distance left right leftParts rightParts _ ofLeft ofRight := by
    have form : Balanced (Expr.logicalForm catalogue.nameOf (.proximity distance left right)) :=
      Expr.proximity_balanced distance ofLeft.1 ofRight.1
    exact ⟨form, Parts.balanced_relate (Parts.balanced_text form) ofLeft.2 distance ofRight.2⟩
  simultaneous count first second third firstParts secondParts thirdParts _ ofFirst ofSecond
      ofThird := by
    have form : Balanced
        (Expr.logicalForm catalogue.nameOf (.simultaneous count first second third)) :=
      Expr.bracedText_balanced (Expr.operandText_balanced first ofFirst.1)
        (Expr.operandText_balanced second ofSecond.1) (Expr.operandText_balanced third ofThird.1)
        count
    exact ⟨form, Parts.balanced_gather (Parts.balanced_text form) ofFirst.2 ofSecond.2 ofThird.2
      count⟩

/-- The parts of an expression are balanced if the texts that are used are. -/
theorem parts_balanced (used : ∀ text, catalogue.Uses tree text → Balanced text) :
    (catalogue.parts tree).IsBalanced :=
  (keeps_balanced used).parts.2

/-- If every text that is used nests its round and curly brackets properly and has no square ones, then
round, curly and square brackets are balanced in the query for an expression, in the text of its
words, in both sides of every nearness and in every group of codes. -/
theorem written_balanced (catalogue : Catalogue) (tree : Expr)
    (proper : ∀ text, catalogue.Uses tree text → Nested text ∧ '[' ∉ text ∧ ']' ∉ text) :
    Balanced (catalogue.query tree) ∧ Balanced (catalogue.parts tree).wordsText ∧
      (∀ nearness, .near nearness ∈ (catalogue.parts tree).words →
        Balanced nearness.left ∧ ∀ alternative ∈ nearness.alternatives, Balanced alternative) ∧
      ∀ group ∈ (catalogue.parts tree).classes, Balanced group := by
  have balanced : (catalogue.parts tree).IsBalanced := by
    apply parts_balanced
    intro text uses
    obtain ⟨nested, noOpening, noClosing⟩ := proper text uses
    exact nested.balanced noOpening noClosing
  exact ⟨balanced.render, balanced.wordsText, fun nearness listed => balanced.words _ listed,
    balanced.classes⟩

/-- The brackets of the definition are nested, and those of the query are balanced. -/
theorem written_balanced_nesting :
    (∀ text, nesting.Uses nestingTree text → Nested text ∧ '[' ∉ text ∧ ']' ∉ text) ∧
      nesting.query nestingTree =
        "[(((A)+{B})+(P)),5n,((A)+{B})/TX+((A)+{B})/TX]".toList ∧
      Balanced (nesting.query nestingTree) := by
  have definition : Nested ('(' :: ['A'] ++ [')'] ++ '+' :: ('{' :: ['B'] ++ ['}'])) := by
    have front : Nested ('(' :: ['A'] ++ [')']) := (IsUnbracketed.nested (by decide)).enclosed rfl
    have back : Nested ('{' :: ['B'] ++ ['}']) := (IsUnbracketed.nested (by decide)).enclosed rfl
    exact front.append (.character '+' rfl rfl back)
  have proper : ∀ text, nesting.Uses nestingTree text → Nested text ∧ '[' ∉ text ∧ ']' ∉ text := by
    intro text uses
    cases uses with
    | searched searches =>
      cases searches with
      | word met =>
        obtain rfl := words_nesting met
        exact ⟨IsUnbracketed.nested (by decide), by decide, by decide⟩
      | definition met found =>
        obtain rfl := words_nesting met
        rw [← Option.some.inj found]
        exact ⟨definition, by decide, by decide⟩
      | content met found =>
        rcases references_nesting met with rfl | rfl
        · cases found
        · rw [← Entity.word.inj (Option.some.inj found)]
          exact ⟨definition, by decide, by decide⟩
    | code met found listed =>
      rcases references_nesting met with rfl | rfl <;> cases found
    | name met =>
      rcases references_nesting met with rfl | rfl
      all_goals exact ⟨IsUnbracketed.nested (by decide), by decide, by decide⟩
  exact ⟨proper, by decide +kernel, (written_balanced nesting nestingTree proper).1⟩

end Catalogue

end PriorArt
