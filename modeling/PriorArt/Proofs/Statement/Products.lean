import Mathlib.Data.List.Forall2
import PriorArt.Proofs.Brackets.ProductPieces
import PriorArt.Proofs.Brackets.Stripped
import PriorArt.Proofs.Statement.TreeTexts

/-!
# Products of expressions

An expression without a plus sign outside brackets is an intersection, whose operands are joined by
stars. Each operand is a nearness, in which every star is inside of brackets, and which ends at the
depth it begins with. So the factors of the text of an intersection are the texts of its operands,
in their order.
-/

/-!
## Expressions without their enclosing brackets

A pair of brackets that encloses a whole expression is round, and it is a pair of the grammar: a
brace never ends an expression, and any other sign outside brackets would be outside of the pair as
well. The grammar gives round brackets no meaning of their own, so an expression without its
enclosing brackets is read as the same tree. Blanks around the expression or inside of the pair are
removed too, which changes no token if all blanks are blanks of the scanner.
-/

namespace PriorArt

open Brackets Token Statement

/-- The expressions of the grammar are read from the texts of their tokens. -/
theorem Expr.parse_iff_tree {text : Text} {expr : Expr} :
    Expr.parse text = .ok expr ↔
      ∃ tree : UnionTree, body text = tree.tokens ∧ tree.expr = expr := by
  constructor
  · intro parsed
    obtain ⟨statement, parsedLine, kept⟩ := (Reading.bind_ok_iff ..).mp parsed
    obtain ⟨⟨name, tree, field⟩, tokens, rfl⟩ := parse_sound parsedLine
    split at kept
    · cases kept
    · next bare =>
      obtain ⟨rfl, rfl⟩ : name = none ∧ field = none := by
        simpa [Derivation.statement] using bare
      refine ⟨tree, ?_, Except.ok.inj kept⟩
      rw [scan_eq_body] at tokens
      exact (List.append_inj_left' tokens rfl).symm
  · rintro ⟨tree, read, rfl⟩
    have scanned : scan text = tree.tokens ++ [.finish] := by rw [scan_eq_body, read]
    have parsed : ofTokens (tree.tokens ++ [.finish]) = .ok ⟨none, tree.expr, none⟩ :=
      of_tokens_complete ⟨none, tree, none⟩
    rw [Expr.parse, Statement.parse, scanned, parsed]
    rfl

/-- A text without the blanks around it is read as the same expression. -/
theorem Expr.parse_trim_iff {text : Text} {expr : Expr} (plain : HasPlainBlanks text) :
    Expr.parse (Text.trim text) = .ok expr ↔ Expr.parse text = .ok expr := by
  rw [parse_iff_tree, parse_iff_tree, body_trim plain]

namespace Statement

/-- A text of a primary that a pair of brackets encloses is one in round brackets. -/
theorem PrimaryTree.of_interior {tree : PrimaryTree} {text inside : Text}
    (read : body text = tree.tokens) (enclosed : interior? text = some inside) :
    ∃ inner, tree = .parenthesized inner ∧ body inside = inner.tokens := by
  cases tree with
  | identifier name =>
    have signless : IsSignless text := signless_of_body (by simp [read, PrimaryTree.tokens, kind])
    rw [signless.unbracketed.bare] at enclosed
    cases enclosed
  | brace first second third digits capital =>
    rw [PrimaryTree.brace_tokens] at read
    have braced := braced_uncut first.uncut.nested second.uncut.nested third.uncut.nested
    rw [bare_of_sign comma_sign braced.nested (List.cons_ne_nil _ _) read] at enclosed
    cases enclosed
  | parenthesized inner =>
    obtain ⟨opener, closer, rfl, isOpening, isClosing⟩ := interior_shape enclosed
    obtain ⟨opens, signsOpener⟩ := sign_of_bracket (.inl isOpening)
    obtain ⟨closes, signsCloser⟩ := sign_of_bracket (.inr isClosing)
    rw [List.cons_append, body_sign opener opens signsOpener,
      body_append_sign closer closes signsCloser, body_nil] at read
    obtain ⟨_, sameInside⟩ := List.cons.inj read
    exact ⟨inner, rfl, List.append_inj_left' sameInside rfl⟩

/-- A text of an expression that a pair of brackets encloses has the same expression inside. -/
theorem UnionTree.of_interior {tree : UnionTree} {text inside : Text}
    (read : body text = tree.tokens) (enclosed : interior? text = some inside) :
    ∃ inner : UnionTree, body inside = inner.tokens ∧ inner.expr = tree.expr := by
  have notBare : interior? text ≠ none := by simp [enclosed]
  have bare : ∀ {character sign}, ofSign? character = some sign → ∀ {before after : List Token},
      HasNestedTexts before → 0 < before.length → body text ≠ before ++ sign :: after :=
    fun signs _ _ nested some read =>
      notBare (bare_of_sign signs nested (List.ne_nil_of_length_pos some) read)
  -- A sign of a chain would be outside of the pair.
  obtain ⟨operand, rfl⟩ : ∃ operand, tree = .last (.last (.single operand)) := by
    cases tree with
    | more operand rest => exact absurd read (bare plus_sign operand.nested operand.tokens_pos)
    | last operand =>
      cases operand with
      | more operand rest =>
        exact absurd read (bare star_sign operand.uncut.nested operand.tokens_pos)
      | last operand =>
        cases operand with
        | near left digits unit capital right =>
          exact absurd read (bare comma_sign left.uncut.nested left.tokens_pos)
        | single operand => exact ⟨operand, rfl⟩
  obtain ⟨inner, rfl, readInside⟩ := PrimaryTree.of_interior read enclosed
  exact ⟨inner, readInside, rfl⟩

end Statement

/-- An expression is read as the same tree without the brackets that enclose it, if all its blanks
are blanks of the scanner. -/
theorem Expr.parse_strip {text : Text} {expr : Expr} (parsed : Expr.parse text = .ok expr)
    (plain : ∀ character ∈ text, isBlank character = true → isGap character = true) :
    Expr.parse (strip text) = .ok expr := by
  induction text using strip_induction with
  | untrimmed text ofTrimmed =>
    rw [← strip_trim]
    exact ofTrimmed ((parse_trim_iff plain).mpr parsed)
      (fun character inside => plain character (Text.trim_subset text inside))
  | bare text trimmed bare => rwa [strip_trimmed_bare trimmed bare]
  | enclosed text inside trimmed enclosed ofInside =>
    rw [strip_of_interior trimmed enclosed]
    obtain ⟨tree, read, rfl⟩ := parse_iff_tree.mp parsed
    obtain ⟨inner, readInside, same⟩ := UnionTree.of_interior read enclosed
    obtain ⟨_, _, rfl, _⟩ := interior_shape enclosed
    exact ofInside (parse_iff_tree.mpr ⟨inner, readInside, same⟩)
      (fun character within => plain character (by simp [within]))

/-- Two pairs are removed from around a union. -/
theorem Expr.parse_strip_twice :
    let text : Text := ['(', '\t', '(', 'A', '+', 'B', ')', ' ', ')']
    strip text = ['A', '+', 'B'] ∧ Expr.parse (strip text) = Expr.parse text := by
  intro text
  have parsed : Expr.parse text = .ok (.logical .or (.word ['A']) [.word ['B']]) := rfl
  have plain : HasPlainBlanks text := by decide
  exact ⟨by decide, (parse_strip parsed plain).trans parsed.symm⟩

end PriorArt

namespace PriorArt

open Brackets Token Statement

namespace Statement

/-- The text of a nearness is read as the nearness, also without the blanks around it. -/
theorem NearnessTree.read_trimmed (tree : NearnessTree) {text : Text}
    (read : body text = tree.tokens) (plain : HasPlainBlanks text) :
    Expr.parse (Text.trim text) = .ok tree.expr :=
  (Expr.parse_trim_iff plain).mpr (Expr.parse_iff_tree.mpr ⟨.last (.last tree), read, rfl⟩)

/-- The pieces of the text of an intersection are read as its operands. -/
theorem IntersectionTree.read_pieces (tree : IntersectionTree) {text : Text}
    (read : body text = tree.tokens) (plain : HasPlainBlanks text) :
    (productPieces 0 text).map (fun piece => Expr.parse (Text.trim piece)) =
      (tree.operands.1 :: tree.operands.2).map .ok := by
  cases tree with
  | last operand =>
    obtain ⟨_, uncut⟩ := operand.uncut text read
    rw [productPieces_uncut uncut, List.map_singleton, operand.read_trimmed read plain]
    rfl
  | more operand rest =>
    obtain ⟨front, back, rfl, readFront, readBack⟩ := exists_cut_at_sign star_sign read
    obtain ⟨plainFront, plainStarred⟩ := List.forall_mem_append.mp plain
    obtain ⟨_, plainBack⟩ := List.forall_mem_cons.mp plainStarred
    obtain ⟨nested, uncut⟩ := operand.uncut front readFront
    rw [productPieces_star uncut (nested.depthBehind 0), List.map_cons,
      operand.read_trimmed readFront plainFront, rest.read_pieces readBack plainBack]
    rfl

end Statement

/-- Several factors of an expression without a plus sign outside brackets are read as the operands
of its intersection. -/
theorem Expr.parse_product {text : Text} {expr : Expr} (parsed : Expr.parse text = .ok expr)
    (plain : HasPlainBlanks text) (noUnion : hasTopLevel ['+'] text = false)
    (several : 2 ≤ (splitProduct text).length) :
    ∃ first second others, (splitProduct text).map Expr.parse =
        (first :: second :: others).map .ok ∧ expr = .logical .and first (second :: others) := by
  obtain ⟨tree, read, rfl⟩ := parse_iff_tree.mp parsed
  cases tree with
  | more operand rest =>
    obtain ⟨front, back, rfl, readFront, _⟩ := exists_cut_at_sign plus_sign read
    rw [hasTopLevel_behind (operand.nested front readFront) (by decide)] at noUnion
    cases noUnion
  | last tree =>
    have factors : (splitProduct text).map Expr.parse =
        (tree.operands.1 :: tree.operands.2).map .ok := by
      have visible : text.allBlank = false := by
        by_contra blank
        rw [splitProduct, if_pos (Bool.not_eq_false _ ▸ blank)] at several
        simp at several
      rw [splitProduct, visible, ← tree.read_pieces read plain]
      simp
    have counted := congrArg List.length factors
    simp only [List.length_map, List.length_cons] at counted
    obtain ⟨second, others, operands⟩ : ∃ second others, tree.operands.2 = second :: others :=
      List.exists_cons_of_length_pos (by omega)
    refine ⟨tree.operands.1, second, others, by rw [factors, operands], ?_⟩
    change Expr.join .and tree.operands.1 tree.operands.2 = _
    rw [operands]
    rfl

/-- Splitting a product is exact. The factors of a text that is not blank have no star outside
brackets, and they are the cuts of the text without the blanks around them: the cuts make the text
when they are joined by stars, each of which is outside brackets. Trimmed texts that have no star
outside brackets and end there are the factors of their product, unless there is just the empty text.
The factors of an expression without a plus sign outside brackets, if there are several, are read as
the operands of the intersection as which the expression is read. -/
theorem splitProduct_exact :
    (∀ text : Text, text.allBlank = false →
      (∀ piece ∈ splitProduct text, hasTopLevel ['*'] piece = false) ∧
      ∃ cuts, Text.join '*' cuts = text ∧ AreCuts 0 cuts ∧
        List.Forall₂ (fun cut piece => Text.IsTrimmed piece ∧ ∃ before after,
          cut = before ++ piece ++ after ∧ before.allBlank = true ∧ after.allBlank = true)
          cuts (splitProduct text)) ∧
    (∀ pieces : List Text, pieces ≠ [] → pieces ≠ [[]] →
      (∀ piece ∈ pieces, Text.trim piece = piece ∧ hasTopLevel ['*'] piece = false ∧
        depthBehind 0 piece = 0) →
      splitProduct (Text.join '*' pieces) = pieces) ∧
    (∀ text expr, Expr.parse text = .ok expr →
      (∀ character ∈ text, isBlank character = true → isGap character = true) →
      hasTopLevel ['+'] text = false → 2 ≤ (splitProduct text).length →
      ∃ first second others, (splitProduct text).map Expr.parse =
        (first :: second :: others).map .ok ∧ expr = .logical .and first (second :: others)) := by
  refine ⟨?_, fun pieces => splitProduct_join, fun text expr => Expr.parse_product⟩
  intro text visible
  obtain ⟨cuts, joined, areCuts, factors⟩ := splitProduct_cuts visible
  refine ⟨fun piece => splitProduct_uncut, cuts, joined, areCuts, ?_⟩
  rw [factors, List.forall₂_map_right_iff, List.forall₂_same]
  exact fun cut _ => ⟨Text.trimmed_trim cut, Text.trim_split cut⟩

/-- A text with brackets that do not match is cut, texts are put together again, and a product of a
word and a union is read as the intersection of the two. -/
theorem splitProduct_exact_mixed :
    let torn : Text := ['A', ')', '*', '(', 'B', '*', 'C']
    let pieces : List Text := [['A'], ['(', 'B', '*', 'C', ')']]
    let text : Text := ['A', ' ', '*', '\t', '(', 'B', '+', 'C', ')']
    (∀ piece ∈ splitProduct torn, hasTopLevel ['*'] piece = false) ∧
    splitProduct torn = [['A', ')'], ['(', 'B', '*', 'C']] ∧
    splitProduct (Text.join '*' pieces) = pieces ∧
    ∃ first second others, (splitProduct text).map Expr.parse =
      (first :: second :: others).map .ok ∧
      Expr.parse text = .ok (.logical .and first (second :: others)) := by
  intro torn pieces text
  obtain ⟨cut, joined, product⟩ := splitProduct_exact
  have parsed : Expr.parse text =
      .ok (.logical .and (.word ['A']) [.logical .or (.word ['B']) [.word ['C']]]) := rfl
  have plain : HasPlainBlanks text := by decide
  obtain ⟨first, second, others, factors, same⟩ :=
    product text _ parsed plain (by decide) (by decide)
  exact ⟨(cut torn (by decide)).1, by decide, joined pieces (by decide) (by decide) (by decide),
    first, second, others, factors, parsed.trans (congrArg Except.ok same)⟩

end PriorArt
