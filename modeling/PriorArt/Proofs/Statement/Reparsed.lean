import PriorArt.Proofs.Statement.Padded
import PriorArt.Proofs.Statement.Parsed

/-!
# Logical forms that are read again

A tree that is read from a line has no operator with a single operand, so its logical form is the
one of the flattened tree. A logical form that is read and written again is therefore what
flattening leaves of it, without the blanks around its words. Both differences are counted: the
new form is the old one exactly if there are none.
-/

namespace PriorArt.Statement

open Expr

mutual

/-- A primary of the grammar leaves no union alone. -/
theorem PrimaryTree.loneUnions_expr (tree : PrimaryTree) : tree.expr.loneUnions = 0 := by
  cases tree with
  | identifier text => rfl
  | parenthesized inner =>
    rw [PrimaryTree.expr, loneUnions_join]
    exact inner.loneUnions_operands
  | brace first second third digits capital =>
    rw [PrimaryTree.expr, loneUnions_simultaneous, first.loneUnions_expr, second.loneUnions_expr,
      third.loneUnions_expr]

/-- A nearness of the grammar leaves no union alone. -/
theorem NearnessTree.loneUnions_expr (tree : NearnessTree) : tree.expr.loneUnions = 0 := by
  cases tree with
  | single operand => exact operand.loneUnions_expr
  | near left digits unit capital right =>
    rw [NearnessTree.expr, loneUnions_proximity, left.loneUnions_expr, right.loneUnions_expr]

/-- The operands of an intersection of the grammar leave no union alone. -/
theorem IntersectionTree.loneUnions_operands (tree : IntersectionTree) :
    ((tree.operands.1 :: tree.operands.2).map loneUnions).sum = 0 := by
  cases tree with
  | last operand => simpa [IntersectionTree.operands] using operand.loneUnions_expr
  | more operand rest =>
    rw [IntersectionTree.operands, List.map_cons, List.sum_cons, operand.loneUnions_expr,
      rest.loneUnions_operands]

/-- The operands of a union of the grammar leave no union alone. -/
theorem UnionTree.loneUnions_operands (tree : UnionTree) :
    ((tree.operands.1 :: tree.operands.2).map loneUnions).sum = 0 := by
  cases tree with
  | last operand => simpa [UnionTree.operands] using operand.loneUnions_operands
  | more operand rest =>
    rw [UnionTree.operands, List.map_cons, List.sum_cons, loneUnions_join,
      operand.loneUnions_operands, rest.loneUnions_operands]

end

/-- An expression that is read without name and field is the one of a statement. -/
theorem of_parse_expr {line : Text} {read : Expr} (parsed : Expr.parse line = .ok read) :
    ∃ statement, parse line = .ok statement ∧ statement.expr = read := by
  obtain ⟨statement, parsedLine, kept⟩ := (Reading.bind_ok_iff ..).mp parsed
  refine ⟨statement, parsedLine, ?_⟩
  split at kept
  · cases kept
  · exact Except.ok.inj kept

/-- No union is alone in an expression that is read. -/
theorem loneUnions_parsed {line : Text} {read : Expr} (parsed : Expr.parse line = .ok read) :
    read.loneUnions = 0 := by
  obtain ⟨statement, parsedLine, rfl⟩ := of_parse_expr parsed
  obtain ⟨derivation, _, rfl⟩ := parse_sound parsedLine
  rw [Derivation.statement, UnionTree.expr, loneUnions_join, derivation.body.loneUnions_operands]

/-- The logical form of a flattened expression is the one of the expression if no union is
alone. -/
theorem text_flatten {expr : Expr} (none : expr.loneUnions = 0) :
    expr.flatten.text = expr.text :=
  (flatten_shortens expr).same_iff.mpr (by rw [none])

/-- Words without blanks are identifiers. -/
theorem built_bare {expr : Expr} (built : BuiltFrom IsPadded expr) :
    BuiltFrom IsIdentifier (bare expr) := by
  refine ⟨?_, ?_⟩
  · simp [bare, references_replaceWords _ built.1]
  · intro text listed
    rw [bare, words_replaceWords _ built.1] at listed
    obtain ⟨word, inside, spelled⟩ := List.mem_flatMap.mp listed
    obtain rfl : text = Token.withoutGaps word := by simpa using spelled
    exact Token.scan_identifier (Token.scan_of_kinds (built.2 word inside))

/-- An expression is built from words exactly if its operands under a set operator are. -/
theorem built_from_operandList {kind : Text → Prop} (connective : Connective) (expr : Expr) :
    (∀ operand ∈ operandList connective expr, BuiltFrom kind operand) ↔ BuiltFrom kind expr := by
  cases expr with
  | logical other first others =>
    by_cases own : other = connective
    · simp [operandList, operands, own]
    · simp [operandList, operands, own]
  | word text => simp [operandList, operands]
  | reference id => simp [operandList, operands]
  | proximity distance left right => simp [operandList, operands]
  | simultaneous count first second third => simp [operandList, operands]

mutual

/-- A flattened expression is built from words exactly if the expression is. -/
theorem built_from_flatten {kind : Text → Prop} (expr : Expr) :
    BuiltFrom kind expr.flatten ↔ BuiltFrom kind expr := by
  cases expr with
  | word text => rfl
  | reference id => rfl
  | logical connective first others =>
    rw [← built_from_operandList connective, operandList_flatten_logical, built_from_logical,
      List.forall_mem_append, built_from_operandList, built_from_flatten first,
      built_from_flattenAll connective others]
  | proximity distance left right =>
    rw [flatten, built_from_proximity, built_from_proximity, built_from_flatten left,
      built_from_flatten right]
  | simultaneous count first second third =>
    rw [flatten, built_from_simultaneous, built_from_simultaneous, built_from_flatten first,
      built_from_flatten second, built_from_flatten third]

/-- The flattened operands are built from words exactly if the operands are. -/
theorem built_from_flattenAll {kind : Text → Prop} (connective : Connective)
    (exprs : List Expr) :
    (∀ operand ∈ flattenAll connective exprs, BuiltFrom kind operand) ↔
      ∀ expr ∈ exprs, BuiltFrom kind expr := by
  cases exprs with
  | nil => simp [flattenAll]
  | cons first others =>
    rw [flattenAll, List.forall_mem_append, built_from_operandList, built_from_flatten first,
      built_from_flattenAll connective others, List.forall_mem_cons]

end

/-- The logical form of an expression is read, and the form of what is read is the old one without
two brackets for each union alone in an intersection and without the blanks of the words. -/
theorem parse_shortens {expr : Expr} (built : BuiltFrom IsPadded expr) :
    ∃ read, Expr.parse expr.text = .ok read ∧ BuiltFrom IsIdentifier read ∧
      Text.ShortensBy read.text expr.text (gaps expr + 2 * expr.loneUnions) := by
  have respelled : Respells (bare expr).text expr.text (gaps expr) := bare_respells expr built
  have written : WritesUnion expr.text (operandList .or (bare expr).flatten) := by
    obtain ⟨tree, tokens, said⟩ := (form_written _ (built_bare built)).union
    exact ⟨tree, tokens.trans respelled.tokens, said⟩
  obtain ⟨read, parsed, same⟩ := parse_of_writes_union written
  have readText : read.text = (bare expr).flatten.text := by
    rw [← text_flatten (loneUnions_parsed parsed), same]
  have flattened := flatten_shortens (bare expr)
  rw [loneUnions_bare, ← readText] at flattened
  refine ⟨read, parsed, ?_, flattened.trans respelled.shortened⟩
  rw [← built_from_flatten, same, built_from_flatten]
  exact built_bare built

/-- An identifier has no blanks. -/
theorem gaps_identifiers {expr : Expr} (built : BuiltFrom IsIdentifier expr) : gaps expr = 0 := by
  rw [gaps_eq_zero]
  intro word listed
  have identifies : Token.scan word = [.identifier word, .finish] := built.2 word listed
  have padded : IsPadded word := by
    rw [IsPadded, identifies]
    rfl
  have same : Token.withoutGaps word = word := by
    simpa [identifies, eq_comm] using Token.scan_of_kinds padded
  simpa [Token.withoutGaps] using same

/-- Reading and writing an expression again. The logical form of an expression without references
is read, if each word is scanned as one identifier, which can have blanks around it. The logical
form of what is read is the old one with characters left out, namely the blanks of the words and
two brackets for each union alone in an intersection. So it is the old one exactly if no word has a
blank and no union is alone in an intersection; and being read once more it stays as it is. -/
theorem reparsed_form_same_iff (expr : Expr) (noReference : expr.references = [])
    (single : ∀ word ∈ expr.words, (Token.scan word).map Token.kind = [.identifier, .finish]) :
    ∃ read, Expr.parse expr.text = .ok read ∧
      read.text.Sublist expr.text ∧
      expr.text.length = read.text.length + (gaps expr + 2 * expr.loneUnions) ∧
      (read.text = expr.text ↔
        (∀ word ∈ expr.words, ∀ character ∈ word, Token.isGap character = false) ∧
          ∀ part ∈ expr.subexpressions, part.isLoneUnion = false) ∧
      ∃ again, Expr.parse read.text = .ok again ∧ again.text = read.text := by
  obtain ⟨read, parsed, identifiers, shortened⟩ := parse_shortens ⟨noReference, single⟩
  have padded : BuiltFrom IsPadded read := by
    refine ⟨identifiers.1, fun word listed => ?_⟩
    rw [IsPadded, show Token.scan word = _ from identifiers.2 word listed]
    rfl
  obtain ⟨again, parsedAgain, _, shortenedAgain⟩ := parse_shortens padded
  have settled : again.text = read.text := by
    rw [shortenedAgain.same_iff, gaps_identifiers identifiers, loneUnions_parsed parsed]
  refine ⟨read, parsed, shortened.inside, shortened.counted, ?_, again, parsedAgain, settled⟩
  rw [shortened.same_iff, ← gaps_eq_zero, ← loneUnions_eq_zero]
  omega

/-- A union alone in an intersection. -/
def loneUnion : Expr := .logical .and (.logical .or (.word ['A']) [.word ['B']]) []

/-- The union alone in an intersection is read again without its brackets. -/
theorem reparsed_form_loses_brackets : loneUnion.references = [] ∧
    (∀ word ∈ loneUnion.words, (Token.scan word).map Token.kind = [.identifier, .finish]) ∧
    loneUnion.text = ['(', 'A', '+', 'B', ')'] ∧
    ∃ read, Expr.parse loneUnion.text = .ok read ∧ read.text = ['A', '+', 'B'] ∧
      read.text ≠ loneUnion.text := by
  refine ⟨by decide, by decide, by decide, ?_⟩
  obtain ⟨read, parsed, _, _, same, _⟩ :=
    reparsed_form_same_iff loneUnion (by decide) (by decide)
  have union : Expr.parse loneUnion.text = .ok (.logical .or (.word ['A']) [.word ['B']]) := rfl
  obtain rfl := Except.ok.inj (parsed.symm.trans union)
  exact ⟨_, union, rfl, fun kept => absurd (same.mp kept).2 (by decide)⟩

end PriorArt.Statement
