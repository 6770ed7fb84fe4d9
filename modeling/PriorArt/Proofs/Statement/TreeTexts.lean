import PriorArt.Proofs.Brackets.Nested
import PriorArt.Proofs.Statement.Grammar
import PriorArt.Proofs.Token.Signs

/-!
# Texts with the tokens of a tree

The brackets of an expression nest, and a bracket is a token wherever it stands. So every text with
the tokens of a tree is properly nested, whatever identifiers and blanks it has, and what the trees
say about signs outside brackets can be seen by counting depth in the text.

The texts are described by their tokens alone: around a sign a text is cut in two, and between two
enclosing signs it has an inside.
-/

namespace PriorArt

open Brackets Token

/-- No character of the text is an operator sign. -/
def IsSignless (text : Text) : Prop := ∀ character ∈ text, ofSign? character = none

/-- A text whose tokens are no signs is signless. -/
theorem signless_of_body {text : Text}
    (kinds : ∀ token ∈ body text, token.kind = .identifier ∨ token.kind = .distance) :
    IsSignless text := by
  intro character inside
  cases signs : ofSign? character with
  | none => rfl
  | some sign =>
    have ofSign := kinds sign ((sign_mem_body_iff signs).mpr inside)
    unfold ofSign? at signs
    split at signs <;> cases signs <;> simp [kind] at ofSign

/-- Brackets are signs. -/
theorem sign_of_bracket {character : Char}
    (bracket : isOpener character = true ∨ isCloser character = true) :
    ∃ sign, ofSign? character = some sign := by
  have cases : character = '(' ∨ character = '{' ∨ character = ')' ∨ character = '}' := by
    unfold isOpener closerOf? isCloser at bracket
    split at bracket
    · exact .inl rfl
    · exact .inr (.inl rfl)
    · exact .inr (.inr (by simpa using bracket))
  rcases cases with rfl | rfl | rfl | rfl <;> exact ⟨_, rfl⟩

/-- A signless text has no brackets. -/
theorem IsSignless.unbracketed {text : Text} (signless : IsSignless text) :
    IsUnbracketed text := by
  intro character inside
  by_contra bracket
  rw [not_and_or, Bool.not_eq_false, Bool.not_eq_false] at bracket
  obtain ⟨sign, signs⟩ := sign_of_bracket bracket
  rw [signless character inside] at signs
  cases signs

/-- A signless text has no star. -/
theorem IsSignless.uncut {text : Text} (signless : IsSignless text) :
    hasTopLevel ['*'] text = false := by
  apply occursOutside_absent
  intro character inside
  rw [List.contains_eq_mem, decide_eq_false_iff_not, List.mem_singleton]
  rintro rfl
  cases signless '*' inside

/-- Every text with these tokens is properly nested. -/
def HasNestedTexts (tokens : List Token) : Prop := ∀ text, body text = tokens → Nested text

/-- Every text with these tokens is properly nested, and no star stands outside its brackets. -/
def HasUncutTexts (tokens : List Token) : Prop :=
  ∀ text, body text = tokens → Nested text ∧ hasTopLevel ['*'] text = false

/-- Tokens that are no signs have texts without brackets and stars. -/
theorem uncut_texts_of_kinds {tokens : List Token}
    (kinds : ∀ token ∈ tokens, token.kind = .identifier ∨ token.kind = .distance) :
    HasUncutTexts tokens := by
  rintro text rfl
  have signless := signless_of_body kinds
  exact ⟨signless.unbracketed.nested, signless.uncut⟩

section Signs

variable {character : Char} {sign : Token} (signs : ofSign? character = some sign)
  {before after : List Token}

section Ordinary

variable (notOpener : isOpener character = false) (notCloser : isCloser character = false)
include signs notOpener notCloser

/-- Around an ordinary sign nested texts are nested. -/
theorem HasNestedTexts.around (ofBefore : HasNestedTexts before) (ofAfter : HasNestedTexts after) :
    HasNestedTexts (before ++ sign :: after) := by
  intro text read
  obtain ⟨front, back, rfl, readFront, readBack⟩ := exists_cut_at_sign signs read
  exact (ofBefore front readFront).append
    (.character character notOpener notCloser (ofAfter back readBack))

/-- Around an ordinary sign that is no star no star stands outside brackets. -/
theorem HasUncutTexts.around (notStar : character ≠ '*') (ofBefore : HasUncutTexts before)
    (ofAfter : HasUncutTexts after) : HasUncutTexts (before ++ sign :: after) := by
  intro text read
  obtain ⟨front, back, rfl, readFront, readBack⟩ := exists_cut_at_sign signs read
  obtain ⟨nestedFront, uncutFront⟩ := ofBefore front readFront
  obtain ⟨nestedBack, uncutBack⟩ := ofAfter back readBack
  refine ⟨nestedFront.append (.character character notOpener notCloser nestedBack), ?_⟩
  have sameDepth : depthAfter 0 character = 0 := by simp [depthAfter, notOpener, notCloser]
  unfold hasTopLevel at uncutBack
  rw [hasTopLevel_append nestedFront, uncutFront, hasTopLevel, occursOutside, sameDepth, uncutBack]
  simp [notStar]

end Ordinary

include signs in
/-- A text that goes on with a sign behind a nested part has no enclosing pair. -/
theorem bare_of_sign (ofBefore : HasNestedTexts before) (some : before ≠ []) {text : Text}
    (read : body text = before ++ sign :: after) : interior? text = none := by
  obtain ⟨front, back, rfl, readFront, _⟩ := exists_cut_at_sign signs read
  apply interior_append (ofBefore front readFront)
  · rintro rfl
    exact some readFront.symm
  · exact List.cons_ne_nil _ _

end Signs

section Brackets

variable {opener closer : Char} {opens closes : Token} (matching : closerOf? opener = some closer)
  (signsOpener : ofSign? opener = some opens) (signsCloser : ofSign? closer = some closes)
  {inner : List Token}

include signsOpener signsCloser in
/-- A text whose tokens are enclosed by two signs has an inside. -/
theorem exists_inside {text : Text} (read : body text = opens :: inner ++ [closes]) :
    ∃ before inside after, text = before ++ (opener :: inside ++ closer :: after) ∧
      body before = [] ∧ body inside = inner ∧ body after = [] := by
  have opened : body text = [] ++ opens :: (inner ++ [closes]) := read
  obtain ⟨before, rest, rfl, readBefore, readRest⟩ := exists_cut_at_sign signsOpener opened
  obtain ⟨inside, after, rfl, readInside, readAfter⟩ := exists_cut_at_sign signsCloser readRest
  exact ⟨before, inside, after, by simp, readBefore, readInside, readAfter⟩

include matching signsOpener signsCloser

/-- Enclosed texts that are nested are nested, and no star stands outside the brackets. -/
theorem HasNestedTexts.enclosed (ofInner : HasNestedTexts inner) :
    HasUncutTexts (opens :: inner ++ [closes]) := by
  intro text read
  obtain ⟨before, inside, after, rfl, readBefore, readInside, readAfter⟩ :=
    exists_inside signsOpener signsCloser read
  have nestedInside := ofInner inside readInside
  have blankless : ∀ part : Text, body part = [] → IsSignless part :=
    fun part none => signless_of_body (by simp [none])
  have signlessBefore := blankless before readBefore
  have signlessAfter := blankless after readAfter
  have notStar : opener ≠ '*' := by
    rintro rfl
    cases matching
  refine ⟨signlessBefore.unbracketed.nested.append
    (.pair matching nestedInside signlessAfter.unbracketed.nested), ?_⟩
  have uncutAfter := signlessAfter.uncut
  unfold hasTopLevel at uncutAfter
  rw [hasTopLevel_append signlessBefore.unbracketed.nested, signlessBefore.uncut, hasTopLevel,
    occursOutside_pair matching nestedInside, uncutAfter]
  simp [notStar]

end Brackets

/-- Texts without outermost stars are nested. -/
theorem HasUncutTexts.nested {tokens : List Token} (uncut : HasUncutTexts tokens) :
    HasNestedTexts tokens := fun text read => (uncut text read).1

namespace Statement

theorem comma_sign : ofSign? ',' = some .comma := rfl

theorem star_sign : ofSign? '*' = some .star := rfl

theorem plus_sign : ofSign? '+' = some .plus := rfl

/-- The tokens of a brace in front of its distance. -/
def bracedTokens (first second third : PrimaryTree) : List Token :=
  .leftBrace :: (first.tokens ++ .comma :: (second.tokens ++ .comma :: third.tokens))
    ++ [.rightBrace]

/-- A brace is enclosed in curly brackets in front of its distance. -/
theorem PrimaryTree.brace_tokens (first second third : PrimaryTree) (digits : Text)
    (capital : Bool) : (brace first second third digits capital).tokens =
      bracedTokens first second third ++ .comma :: [.distance digits .words capital] := by
  simp [PrimaryTree.tokens, bracedTokens]

/-- The texts of a distance have no star outside brackets. -/
theorem distance_uncut (digits : Text) (unit : DistanceUnit) (capital : Bool) :
    HasUncutTexts [.distance digits unit capital] :=
  uncut_texts_of_kinds (by simp [kind])

/-- The texts of a brace without its distance are nested if those of its operands are. -/
theorem braced_uncut {first second third : PrimaryTree} (ofFirst : HasNestedTexts first.tokens)
    (ofSecond : HasNestedTexts second.tokens) (ofThird : HasNestedTexts third.tokens) :
    HasUncutTexts (bracedTokens first second third) := by
  have inner := ofFirst.around comma_sign rfl rfl (ofSecond.around comma_sign rfl rfl ofThird)
  have opens : ofSign? '{' = some .leftBrace := rfl
  exact inner.enclosed rfl opens rfl

mutual

/-- The texts of a primary are nested and have no star outside brackets. -/
theorem PrimaryTree.uncut (tree : PrimaryTree) : HasUncutTexts tree.tokens := by
  cases tree with
  | identifier text => exact uncut_texts_of_kinds (by simp [PrimaryTree.tokens, kind])
  | parenthesized inner =>
    have opens : ofSign? '(' = some .leftParenthesis := rfl
    exact inner.nested.enclosed rfl opens rfl
  | brace first second third digits capital =>
    rw [PrimaryTree.brace_tokens]
    have braced := braced_uncut first.uncut.nested second.uncut.nested third.uncut.nested
    exact braced.around comma_sign rfl rfl (by decide) (distance_uncut digits .words capital)

/-- The texts of a nearness are nested and have no star outside brackets. -/
theorem NearnessTree.uncut (tree : NearnessTree) : HasUncutTexts tree.tokens := by
  cases tree with
  | single operand => exact operand.uncut
  | near left digits unit capital right =>
    have behind := (distance_uncut digits unit capital).around comma_sign rfl rfl (by decide)
      right.uncut
    exact left.uncut.around comma_sign rfl rfl (by decide) behind

/-- The texts of an intersection are nested. -/
theorem IntersectionTree.nested (tree : IntersectionTree) : HasNestedTexts tree.tokens := by
  cases tree with
  | last operand => exact operand.uncut.nested
  | more operand rest => exact operand.uncut.nested.around star_sign rfl rfl rest.nested

/-- The texts of a union are nested. -/
theorem UnionTree.nested (tree : UnionTree) : HasNestedTexts tree.tokens := by
  cases tree with
  | last operand => exact operand.nested
  | more operand rest => exact operand.nested.around plus_sign rfl rfl rest.nested

end

end Statement

end PriorArt
