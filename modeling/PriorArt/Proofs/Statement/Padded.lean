import PriorArt.Proofs.Expr.LoneUnions
import PriorArt.Proofs.Statement.LogicalForm
import PriorArt.Proofs.Expr.Leaves
import PriorArt.Proofs.Token.Blanks

/-!
# Words with blanks around them

A word of an expression can have blanks around it, which no reader sees. Without these blanks the
expression is written with the same tokens, and its logical form is shorter by the blanks alone.
-/

namespace PriorArt.Statement

open Expr

/-- Whether the only token of a text is an identifier, possibly with blanks around it. -/
def IsPadded (text : Text) : Prop := (Token.scan text).map Token.kind = [.identifier, .finish]

/-- The expression with every word freed from its blanks. -/
def bare (expr : Expr) : Expr := expr.replaceWords (fun word => .word (Token.withoutGaps word))

/-- The number of blanks in the words of an expression. -/
def gaps (expr : Expr) : Nat := expr.words.flatten.countP Token.isGap

/-- There are no blanks in the words exactly if no word has one. -/
theorem gaps_eq_zero (expr : Expr) :
    gaps expr = 0 ↔ ∀ word ∈ expr.words, ∀ character ∈ word, Token.isGap character = false := by
  simp only [gaps, List.countP_eq_zero, List.mem_flatten, Bool.not_eq_true]
  exact ⟨fun none text listed character inside => none character ⟨text, listed, inside⟩,
    fun none character ⟨text, listed, inside⟩ => none text listed character inside⟩

@[simp] theorem bare_word (text : Text) : bare (word text) = word (Token.withoutGaps text) := rfl

@[simp] theorem bare_logical (connective : Connective) (first : Expr) (others : List Expr) :
    bare (logical connective first others) =
      logical connective (bare first) (others.map bare) := by
  rw [bare, replaceWords, replaceWordsOfAll_eq]
  rfl

@[simp] theorem bare_proximity (distance : Distance) (left right : Expr) :
    bare (proximity distance left right) = proximity distance (bare left) (bare right) := rfl

@[simp] theorem bare_simultaneous (count : Nat) (first second third : Expr) :
    bare (simultaneous count first second third) =
      simultaneous count (bare first) (bare second) (bare third) := rfl

/-- Words without their blanks need the same brackets. -/
theorem brackets_bare (expr : Expr) :
    (bare expr).isUnion = expr.isUnion ∧ (bare expr).isPrimary = expr.isPrimary := by
  cases expr with
  | logical connective first others =>
    cases others with
    | nil =>
      rw [bare_logical, List.map_nil, isUnion_alone, isUnion_alone, isPrimary_alone,
        isPrimary_alone]
      exact brackets_bare first
    | cons second rest => simp [isUnion_several, isPrimary_several]
  | word text => exact ⟨rfl, rfl⟩
  | reference id => exact ⟨rfl, rfl⟩
  | proximity distance left right => exact ⟨rfl, rfl⟩
  | simultaneous count first second third => exact ⟨rfl, rfl⟩

/-- Freeing the words from blanks leaves the same unions alone. -/
theorem isLoneUnion_bare (expr : Expr) : (bare expr).isLoneUnion = expr.isLoneUnion := by
  cases expr with
  | logical connective first others =>
    cases others with
    | nil =>
      cases connective with
      | or => rfl
      | and => exact (brackets_bare first).1
    | cons second rest => cases connective <;> rfl
  | word text => rfl
  | reference id => rfl
  | proximity distance left right => rfl
  | simultaneous count first second third => rfl

mutual

/-- Freeing the words from blanks leaves as many unions alone. -/
theorem loneUnions_bare (expr : Expr) : (bare expr).loneUnions = expr.loneUnions := by
  cases expr with
  | word text => rfl
  | reference id => rfl
  | logical connective first others =>
    rw [loneUnions_logical, ← isLoneUnion_bare, bare_logical, loneUnions_logical, List.map_cons,
      List.map_cons, loneUnions_bare first, loneUnions_bare_all others]
  | proximity distance left right =>
    rw [bare_proximity, loneUnions_proximity, loneUnions_proximity, loneUnions_bare left,
      loneUnions_bare right]
  | simultaneous count first second third =>
    rw [bare_simultaneous, loneUnions_simultaneous, loneUnions_simultaneous,
      loneUnions_bare first, loneUnions_bare second, loneUnions_bare third]

/-- Freeing the words of several expressions from blanks leaves as many unions alone. -/
theorem loneUnions_bare_all (exprs : List Expr) :
    (exprs.map bare).map loneUnions = exprs.map loneUnions := by
  cases exprs with
  | nil => rfl
  | cons first others =>
    rw [List.map_cons, List.map_cons, List.map_cons, loneUnions_bare first,
      loneUnions_bare_all others]

end

/-- The short text is the long one with a number of blanks left out that separate no tokens. -/
structure Respells (short long : Text) (number : Nat) : Prop where
  shortened : Text.ShortensBy short long number
  tokens : Token.body short = Token.body long

namespace Respells

variable {short long back other : Text} {number more : Nat}

/-- A text that stays as it is. -/
theorem refl (text : Text) : Respells text text 0 := ⟨.refl text, rfl⟩

/-- Two texts with an operator sign between them. -/
theorem sign (character : Char) {token : Token} (signs : Token.ofSign? character = some token)
    (front : Respells short long number) (behind : Respells back other more) :
    Respells (short ++ character :: back) (long ++ character :: other) (number + more) := by
  refine ⟨front.shortened.append (behind.shortened.cons character), ?_⟩
  rw [Token.body_append_sign character token signs, Token.body_append_sign character token signs,
    front.tokens, behind.tokens]

/-- An operator sign in front of a text. -/
theorem behind_sign (character : Char) {token : Token}
    (signs : Token.ofSign? character = some token) (spelled : Respells short long number) :
    Respells (character :: short) (character :: long) number := by
  simpa using (refl []).sign character signs spelled

/-- A text in round brackets. -/
theorem parenthesized (spelled : Respells short long number) :
    Respells (Brackets.parenthesized short) (Brackets.parenthesized long) number :=
  (spelled.behind_sign '(' rfl).sign ')' rfl (refl [])

/-- Texts with the sign of a set operator between them. -/
theorem join {α : Type} (connective : Connective) {items : List α} {kept whole : α → Text}
    {numberOf : α → Nat}
    (each : ∀ item ∈ items, Respells (kept item) (whole item) (numberOf item)) :
    Respells (Text.join connective.sign (items.map kept))
      (Text.join connective.sign (items.map whole)) (items.map numberOf).sum := by
  refine ⟨.join connective.sign (fun item listed => (each item listed).shortened), ?_⟩
  obtain ⟨token, signs⟩ : ∃ token, Token.ofSign? connective.sign = some token := by
    cases connective <;> exact ⟨_, rfl⟩
  induction items with
  | nil => rfl
  | cons item others inductionHypothesis =>
    have first := (each item (by simp)).tokens
    have later := inductionHypothesis (fun other listed => each other (by simp [listed]))
    cases others with
    | nil => simpa using first
    | cons next rest =>
      rw [Text.join_map_several, Text.join_map_several, Token.body_append_sign _ token signs,
        Token.body_append_sign _ token signs, first, later]

end Respells

section Pieces

variable {expr : Expr} {short : Text} {number : Nat}

/-- An operand of nearness whose words are freed from blanks. -/
theorem operand_respells (spelled : Respells (bare expr).text expr.text number) :
    Respells (operandText (bare expr) (bare expr).text) (operandText expr expr.text) number := by
  rw [operandText, operandText, (brackets_bare expr).2]
  split
  · exact spelled
  · exact spelled.parenthesized

/-- An operand of a set operator whose words are freed from blanks. -/
theorem factor_respells (connective : Connective)
    (spelled : Respells (bare expr).text expr.text number) :
    Respells (factorText connective (bare expr) (bare expr).text)
      (factorText connective expr expr.text) number := by
  rw [factorText, factorText, (brackets_bare expr).1]
  split
  · exact spelled.parenthesized
  · exact spelled

end Pieces

mutual

/-- The logical form without the blanks of the words has the same tokens, and only the blanks are
left out. -/
theorem bare_respells (expr : Expr) (built : BuiltFrom IsPadded expr) :
    Respells (bare expr).text expr.text (gaps expr) := by
  cases expr with
  | word text =>
    have alone := Token.scan_of_kinds ((built_from_word text).mp built)
    refine ⟨⟨List.filter_sublist, ?_⟩, ?_⟩
    · have counted : gaps (word text) = text.countP Token.isGap := by simp [gaps]
      rw [counted]
      exact Token.length_without_gaps text
    · exact congrArg List.dropLast ((Token.scan_identifier alone).trans alone.symm)
  | reference id => exact absurd built (by simp)
  | logical connective first others =>
    obtain ⟨builtFirst, builtOthers⟩ := (built_from_logical ..).mp built
    have each : ∀ operand ∈ first :: others,
        Respells (bare operand).text operand.text (gaps operand) :=
      List.forall_mem_cons.mpr
        ⟨bare_respells first builtFirst, bare_respells_all others builtOthers⟩
    have total : gaps (logical connective first others) = ((first :: others).map gaps).sum := by
      have unfolded : gaps = fun operand => operand.words.flatten.countP Token.isGap := rfl
      simp [unfolded, List.countP_flatten, List.flatMap_def, Function.comp_def]
    have joined := Respells.join connective
      (fun operand listed => factor_respells connective (each operand listed))
    rw [bare_logical, text_logical, text_logical, operandTexts, operandTexts, total,
      ← List.map_cons, List.map_map]
    exact joined
  | proximity distance left right =>
    obtain ⟨builtLeft, builtRight⟩ := (built_from_proximity ..).mp built
    have ofLeft := operand_respells (bare_respells left builtLeft)
    have ofRight := operand_respells (bare_respells right builtRight)
    have total : gaps (proximity distance left right) = gaps left + gaps right := by
      simp [gaps]
    rw [total]
    exact (ofLeft.sign ',' rfl (.refl distance.text)).sign ',' rfl ofRight
  | simultaneous count first second third =>
    obtain ⟨builtFirst, builtSecond, builtThird⟩ := (built_from_simultaneous ..).mp built
    have ofFirst := operand_respells (bare_respells first builtFirst)
    have ofSecond := operand_respells (bare_respells second builtSecond)
    have ofThird := operand_respells (bare_respells third builtThird)
    have total : gaps (simultaneous count first second third) =
        gaps first + gaps second + gaps third := by
      simp [gaps, Nat.add_assoc]
    have brace := (ofFirst.sign ',' rfl ofSecond).sign ',' rfl ofThird
    have whole := (brace.behind_sign '{' rfl).sign '}' rfl (.refl (',' :: decimal count ++ ['n']))
    rw [total]
    simpa [bracedText, text, logicalForm] using whole

/-- The logical forms of several expressions without the blanks of their words. -/
theorem bare_respells_all (exprs : List Expr) (built : ∀ expr ∈ exprs, BuiltFrom IsPadded expr) :
    ∀ expr ∈ exprs, Respells (bare expr).text expr.text (gaps expr) := by
  cases exprs with
  | nil => simp
  | cons first others =>
    obtain ⟨builtFirst, builtOthers⟩ := List.forall_mem_cons.mp built
    exact List.forall_mem_cons.mpr
      ⟨bare_respells first builtFirst, bare_respells_all others builtOthers⟩

end

end PriorArt.Statement
