import PriorArt.Proofs.Reading
import PriorArt.Proofs.Statement.Derivation
import PriorArt.Proofs.Token.Distance

/-!
# The reader of statements and their grammar

The reader of statements follows the grammar exactly. What it reads has a derivation, and the
reader gives the statement that the derivation says; every derivation is read, because each of
its levels takes at least one token for four steps of the descent, which is what the bound on
the descent allows.

Sentence distances behind a brace have no derivation, so the two directions together also say
that the reader refuses them.
-/

namespace PriorArt.Statement

open Reading

/-- A primary that no comma follows is a nearness of its own. -/
theorem nearness_single {depth : Nat} {tokens rest : List Token} {operand : Expr}
    (read : primary depth tokens = .ok (operand, rest)) (ends : EndsNearness rest) :
    nearness (depth + 1) tokens = .ok (operand, rest) := by
  simp only [nearness, read, ok_bind]
  split
  · exact absurd rfl ends
  · rfl

/-- An intersection ends behind an operand that no star follows. -/
theorem intersection_last {depth : Nat} {tokens rest : List Token} {operand : Expr}
    (read : nearness depth tokens = .ok (operand, rest)) (ends : EndsIntersection rest) :
    intersection (depth + 1) tokens = .ok ((operand, []), rest) := by
  simp only [intersection, read, ok_bind]
  split
  · exact absurd rfl ends.2
  · rfl

/-- A union ends behind an operand that no plus sign follows. -/
theorem union_last {depth : Nat} {tokens rest : List Token} {operands : Expr × List Expr}
    (read : intersection depth tokens = .ok (operands, rest)) (ends : EndsUnion rest) :
    union (depth + 1) tokens = .ok ((Expr.join .and operands.1 operands.2, []), rest) := by
  simp only [union, read, ok_bind]
  split
  · exact absurd rfl ends.2
  · rfl

mutual

/-- The reader of primaries reads every primary, whatever follows. -/
theorem PrimaryTree.read (tree : PrimaryTree) (rest : List Token) (depth : Nat)
    (enough : 4 * tree.tokens.length ≤ depth + 3) :
    primary depth (tree.tokens ++ rest) = .ok (tree.expr, rest) := by
  cases tree with
  | identifier text =>
    cases depth with
    | zero => simp [PrimaryTree.tokens] at enough
    | succ depth => rfl
  | parenthesized inner =>
    simp only [PrimaryTree.tokens, List.length_cons, List.length_append, List.length_nil]
      at enough
    obtain ⟨depth, rfl⟩ : ∃ less, depth = less + 1 := ⟨depth - 1, by omega⟩
    have body := UnionTree.read inner (.rightParenthesis :: rest) depth (by simp) (by omega)
    simp only [PrimaryTree.tokens, List.cons_append, List.append_assoc, List.nil_append, primary,
      body, ok_bind, expect, ↓reduceIte]
    rfl
  | brace first second third digits capital =>
    simp only [PrimaryTree.tokens, List.length_cons, List.length_append, List.length_nil]
      at enough
    obtain ⟨depth, rfl⟩ : ∃ less, depth = less + 1 := ⟨depth - 1, by omega⟩
    have readFirst := fun behind => PrimaryTree.read first behind depth (by omega)
    have readSecond := fun behind => PrimaryTree.read second behind depth (by omega)
    have readThird := fun behind => PrimaryTree.read third behind depth (by omega)
    simp only [PrimaryTree.tokens, List.cons_append, List.append_assoc, List.nil_append, primary,
      readFirst, readSecond, readThird, ok_bind, expect, ↓reduceIte, braceDistance]
    rfl

/-- The reader of nearnesses reads every nearness that no comma follows. -/
theorem NearnessTree.read (tree : NearnessTree) (rest : List Token) (depth : Nat)
    (ends : EndsNearness rest) (enough : 4 * tree.tokens.length ≤ depth + 2) :
    nearness depth (tree.tokens ++ rest) = .ok (tree.expr, rest) := by
  cases tree with
  | single operand =>
    simp only [NearnessTree.tokens] at enough
    have nonempty : 0 < operand.tokens.length := operand.tokens_pos
    obtain ⟨depth, rfl⟩ : ∃ less, depth = less + 1 := ⟨depth - 1, by omega⟩
    exact nearness_single (PrimaryTree.read operand rest depth (by omega)) ends
  | near left digits unit capital right =>
    simp only [NearnessTree.tokens, List.length_cons, List.length_append] at enough
    obtain ⟨depth, rfl⟩ : ∃ less, depth = less + 1 := ⟨depth - 1, by omega⟩
    have readLeft := fun behind => PrimaryTree.read left behind depth (by omega)
    have readRight := fun behind => PrimaryTree.read right behind depth (by omega)
    simp only [NearnessTree.tokens, List.append_assoc, List.cons_append, nearness, readLeft,
      readRight, ok_bind, expect, ↓reduceIte]
    rfl

/-- The reader of intersections reads every intersection that neither a comma nor a star
follows. -/
theorem IntersectionTree.read (tree : IntersectionTree) (rest : List Token) (depth : Nat)
    (ends : EndsIntersection rest) (enough : 4 * tree.tokens.length ≤ depth + 1) :
    intersection depth (tree.tokens ++ rest) = .ok (tree.operands, rest) := by
  cases tree with
  | last operand =>
    simp only [IntersectionTree.tokens] at enough
    have nonempty : 0 < operand.tokens.length := operand.tokens_pos
    obtain ⟨depth, rfl⟩ : ∃ less, depth = less + 1 := ⟨depth - 1, by omega⟩
    exact intersection_last (NearnessTree.read operand rest depth ends.1 (by omega)) ends
  | more operand others =>
    simp only [IntersectionTree.tokens, List.length_cons, List.length_append] at enough
    obtain ⟨depth, rfl⟩ : ∃ less, depth = less + 1 := ⟨depth - 1, by omega⟩
    have readOperand :=
      NearnessTree.read operand (.star :: (others.tokens ++ rest)) depth (by simp) (by omega)
    have readOthers := IntersectionTree.read others rest depth ends (by omega)
    simp only [IntersectionTree.tokens, List.append_assoc, List.cons_append, intersection,
      readOperand, readOthers, ok_bind]
    rfl

/-- The reader of unions reads every union that no sign of a chain follows. -/
theorem UnionTree.read (tree : UnionTree) (rest : List Token) (depth : Nat)
    (ends : EndsUnion rest) (enough : 4 * tree.tokens.length ≤ depth) :
    union depth (tree.tokens ++ rest) = .ok (tree.operands, rest) := by
  cases tree with
  | last operand =>
    simp only [UnionTree.tokens] at enough
    have nonempty : 0 < operand.tokens.length := operand.tokens_pos
    obtain ⟨depth, rfl⟩ : ∃ less, depth = less + 1 := ⟨depth - 1, by omega⟩
    exact union_last (IntersectionTree.read operand rest depth ends.1 (by omega)) ends
  | more operand others =>
    simp only [UnionTree.tokens, List.length_cons, List.length_append] at enough
    obtain ⟨depth, rfl⟩ : ∃ less, depth = less + 1 := ⟨depth - 1, by omega⟩
    have readOperand :=
      IntersectionTree.read operand (.plus :: (others.tokens ++ rest)) depth (by simp) (by omega)
    have readOthers := UnionTree.read others rest depth ends (by omega)
    simp only [UnionTree.tokens, List.append_assoc, List.cons_append, union, readOperand,
      readOthers, ok_bind]
    rfl

end

/-- A demanded token stood at the front. -/
theorem expect_ok_iff (token : Token) (reason : ParseReason) (tokens rest : List Token) :
    expect token reason tokens = .ok rest ↔ tokens = token :: rest := by
  cases tokens with
  | nil => simp [expect, stop]
  | cons first others =>
    by_cases same : first = token
    · simp [expect, same]
    · simp [expect, stop, same]

/-- The distance behind a brace counts words. -/
theorem brace_distance_ok_iff (tokens rest : List Token) (count : Nat) :
    braceDistance tokens = .ok (count, rest) ↔
      ∃ digits capital, tokens = .distance digits .words capital :: rest ∧
        countOf digits = count := by
  constructor
  · intro read
    unfold braceDistance at read
    split at read
    · next digits capital behind =>
      simp only [Except.ok.injEq, Prod.mk.injEq] at read
      obtain ⟨counted, rfl⟩ := read
      exact ⟨digits, capital, rfl, counted⟩
    · simp [stop] at read
    · simp [stop] at read
  · rintro ⟨digits, capital, rfl, rfl⟩
    rfl

/-- What is read as a primary at this depth has a derivation as one. -/
def PrimarySound (depth : Nat) : Prop :=
  ∀ tokens expr rest, primary depth tokens = .ok (expr, rest) →
    ∃ tree : PrimaryTree, tokens = tree.tokens ++ rest ∧ tree.expr = expr

/-- What is read as a nearness at this depth has a derivation as one. -/
def NearnessSound (depth : Nat) : Prop :=
  ∀ tokens expr rest, nearness depth tokens = .ok (expr, rest) →
    ∃ tree : NearnessTree, tokens = tree.tokens ++ rest ∧ tree.expr = expr

/-- What is read as an intersection at this depth has a derivation as one. -/
def IntersectionSound (depth : Nat) : Prop :=
  ∀ tokens operands rest, intersection depth tokens = .ok (operands, rest) →
    ∃ tree : IntersectionTree, tokens = tree.tokens ++ rest ∧ tree.operands = operands

/-- What is read as a union at this depth has a derivation as one. -/
def UnionSound (depth : Nat) : Prop :=
  ∀ tokens operands rest, union depth tokens = .ok (operands, rest) →
    ∃ tree : UnionTree, tokens = tree.tokens ++ rest ∧ tree.operands = operands

/-- A primary read one step deeper has a derivation, if its parts have. The first token decides
which of the three rules applies. -/
theorem primary_sound_step {depth : Nat} (primaries : PrimarySound depth)
    (unions : UnionSound depth) : PrimarySound (depth + 1) := by
  intro tokens expr rest read
  unfold primary at read
  split at read
  · next text behind =>
    obtain ⟨rfl, rfl⟩ := Prod.mk.inj (Except.ok.inj read)
    exact ⟨.identifier text, rfl, rfl⟩
  · next behind =>
    obtain ⟨⟨operands, behindInner⟩, readInner, read⟩ := (bind_ok_iff ..).mp read
    obtain ⟨behindBracket, closed, read⟩ := (bind_ok_iff ..).mp read
    obtain ⟨inner, rfl, rfl⟩ := unions _ _ _ readInner
    obtain rfl := (expect_ok_iff ..).mp closed
    obtain ⟨rfl, rfl⟩ := Prod.mk.inj (Except.ok.inj read)
    exact ⟨.parenthesized inner, by simp [PrimaryTree.tokens], by simp [PrimaryTree.expr]⟩
  · next behind =>
    obtain ⟨⟨first, behindFirst⟩, readFirst, read⟩ := (bind_ok_iff ..).mp read
    obtain ⟨_, firstComma, read⟩ := (bind_ok_iff ..).mp read
    obtain ⟨⟨second, behindSecond⟩, readSecond, read⟩ := (bind_ok_iff ..).mp read
    obtain ⟨_, secondComma, read⟩ := (bind_ok_iff ..).mp read
    obtain ⟨⟨third, behindThird⟩, readThird, read⟩ := (bind_ok_iff ..).mp read
    obtain ⟨_, closed, read⟩ := (bind_ok_iff ..).mp read
    obtain ⟨_, thirdComma, read⟩ := (bind_ok_iff ..).mp read
    obtain ⟨⟨count, behindDistance⟩, readDistance, read⟩ := (bind_ok_iff ..).mp read
    obtain ⟨firstTree, rfl, rfl⟩ := primaries _ _ _ readFirst
    obtain rfl := (expect_ok_iff ..).mp firstComma
    obtain ⟨secondTree, rfl, rfl⟩ := primaries _ _ _ readSecond
    obtain rfl := (expect_ok_iff ..).mp secondComma
    obtain ⟨thirdTree, rfl, rfl⟩ := primaries _ _ _ readThird
    obtain rfl := (expect_ok_iff ..).mp closed
    obtain rfl := (expect_ok_iff ..).mp thirdComma
    obtain ⟨digits, capital, rfl, rfl⟩ := (brace_distance_ok_iff ..).mp readDistance
    obtain ⟨rfl, rfl⟩ := Prod.mk.inj (Except.ok.inj read)
    exact ⟨.brace firstTree secondTree thirdTree digits capital, by simp [PrimaryTree.tokens],
      by simp [PrimaryTree.expr]⟩
  all_goals simp [stop] at read

/-- A nearness read one step deeper has a derivation, if its primaries have. -/
theorem nearness_sound_step {depth : Nat} (primaries : PrimarySound depth) :
    NearnessSound (depth + 1) := by
  intro tokens expr rest read
  unfold nearness at read
  obtain ⟨⟨left, behindLeft⟩, readLeft, read⟩ := (bind_ok_iff ..).mp read
  obtain ⟨leftTree, rfl, rfl⟩ := primaries _ _ _ readLeft
  dsimp only at read
  split at read
  · next digits unit capital behind _ =>
    obtain ⟨_, comma, read⟩ := (bind_ok_iff ..).mp read
    obtain ⟨⟨right, behindRight⟩, readRight, read⟩ := (bind_ok_iff ..).mp read
    obtain rfl := (expect_ok_iff ..).mp comma
    obtain ⟨rightTree, rfl, rfl⟩ := primaries _ _ _ readRight
    obtain ⟨rfl, rfl⟩ := Prod.mk.inj (Except.ok.inj read)
    exact ⟨.near leftTree digits unit capital rightTree, by simp [NearnessTree.tokens],
      by simp [NearnessTree.expr, countOf]⟩
  · obtain ⟨rfl, rfl⟩ := Prod.mk.inj (Except.ok.inj read)
    exact ⟨.single leftTree, rfl, rfl⟩

/-- An intersection read one step deeper has a derivation, if its first operand and the rest of
its chain have. -/
theorem intersection_sound_step {depth : Nat} (nearnesses : NearnessSound depth)
    (intersections : IntersectionSound depth) : IntersectionSound (depth + 1) := by
  intro tokens operands rest read
  unfold intersection at read
  obtain ⟨⟨operand, behindOperand⟩, readOperand, read⟩ := (bind_ok_iff ..).mp read
  obtain ⟨operandTree, rfl, rfl⟩ := nearnesses _ _ _ readOperand
  dsimp only at read
  split at read
  · next behind =>
    obtain ⟨⟨others, behindOthers⟩, readOthers, read⟩ := (bind_ok_iff ..).mp read
    obtain ⟨othersTree, rfl, rfl⟩ := intersections _ _ _ readOthers
    obtain ⟨rfl, rfl⟩ := Prod.mk.inj (Except.ok.inj read)
    exact ⟨.more operandTree othersTree, by simp [IntersectionTree.tokens], rfl⟩
  · obtain ⟨rfl, rfl⟩ := Prod.mk.inj (Except.ok.inj read)
    exact ⟨.last operandTree, rfl, rfl⟩

/-- A union read one step deeper has a derivation, if its first operand and the rest of its chain
have. -/
theorem union_sound_step {depth : Nat} (intersections : IntersectionSound depth)
    (unions : UnionSound depth) : UnionSound (depth + 1) := by
  intro tokens operands rest read
  unfold union at read
  obtain ⟨⟨operand, behindOperand⟩, readOperand, read⟩ := (bind_ok_iff ..).mp read
  obtain ⟨operandTree, rfl, rfl⟩ := intersections _ _ _ readOperand
  dsimp only at read
  split at read
  · next behind =>
    obtain ⟨⟨others, behindOthers⟩, readOthers, read⟩ := (bind_ok_iff ..).mp read
    obtain ⟨othersTree, rfl, rfl⟩ := unions _ _ _ readOthers
    obtain ⟨rfl, rfl⟩ := Prod.mk.inj (Except.ok.inj read)
    exact ⟨.more operandTree othersTree, by simp [UnionTree.tokens], rfl⟩
  · obtain ⟨rfl, rfl⟩ := Prod.mk.inj (Except.ok.inj read)
    exact ⟨.last operandTree, rfl, rfl⟩

/-- Whatever the depth, what the four readers read has a derivation. Each step of the descent
appeals to shallower ones only. -/
theorem readers_sound (depth : Nat) :
    PrimarySound depth ∧ NearnessSound depth ∧ IntersectionSound depth ∧ UnionSound depth := by
  induction depth with
  | zero =>
    refine ⟨?_, ?_, ?_, ?_⟩ <;> intro tokens value rest read
    · simp [primary, stop] at read
    · simp [nearness, stop] at read
    · simp [intersection, stop] at read
    · simp [union, stop] at read
  | succ depth inductionHypothesis =>
    obtain ⟨primaries, nearnesses, intersections, unions⟩ := inductionHypothesis
    exact ⟨primary_sound_step primaries unions, nearness_sound_step primaries,
      intersection_sound_step nearnesses intersections, union_sound_step intersections unions⟩

/-- What is read as an expression has a derivation as a union. -/
theorem expression_sound {tokens rest : List Token} {expr : Expr}
    (read : expression tokens = .ok (expr, rest)) :
    ∃ tree : UnionTree, tokens = tree.tokens ++ rest ∧ tree.expr = expr := by
  obtain ⟨⟨operands, behind⟩, readOperands, read⟩ := (bind_ok_iff ..).mp read
  obtain ⟨tree, rfl, rfl⟩ := (readers_sound _).2.2.2 _ _ _ readOperands
  obtain ⟨rfl, rfl⟩ := Prod.mk.inj (Except.ok.inj read)
  exact ⟨tree, rfl, rfl⟩

/-- Every union is read as an expression, where no sign of a chain follows it. -/
theorem expression_complete (tree : UnionTree) (rest : List Token) (ends : EndsUnion rest) :
    expression (tree.tokens ++ rest) = .ok (tree.expr, rest) := by
  have enough : 4 * tree.tokens.length ≤ depthBound (tree.tokens ++ rest) := by
    simp only [depthBound, List.length_append]
    omega
  simp only [expression, tree.read rest _ ends enough, ok_bind]
  rfl

/-- The name in front of a statement is told from its body by the sign behind it. -/
theorem name_and_body_tokens (name : Option Text) (body : UnionTree) (field : Option Field) :
    nameAndBody (nameTokens name ++ (body.tokens ++ fieldTokens field)) =
      (name, body.tokens ++ fieldTokens field) := by
  cases name with
  | some text => rfl
  | none =>
    have absent : Token.assign ∉ body.tokens ++ fieldTokens field := body_assign_absent body field
    simp only [nameTokens, List.nil_append]
    unfold nameAndBody
    split
    · next name others sameTokens => simp [sameTokens] at absent
    · rfl

/-- A statement whose tokens are derived is read as the derivation says. -/
theorem of_tokens_complete (derivation : Derivation) :
    ofTokens derivation.tokens = .ok derivation.statement := by
  obtain ⟨name, body, field⟩ := derivation
  simp only [Derivation.tokens, List.append_assoc, ofTokens, name_and_body_tokens,
    expression_complete body (fieldTokens field) (ends_union_field_tokens field), ok_bind]
  cases field with
  | none => simp [fieldTokens, fieldAndRest, expect, Derivation.statement, pure, Except.pure]
  | some name => simp [fieldTokens, fieldAndRest, expect, Derivation.statement, pure, Except.pure]

/-- A name and the body behind it are all the tokens there are. -/
theorem name_and_body_append (tokens : List Token) :
    tokens = nameTokens (nameAndBody tokens).1 ++ (nameAndBody tokens).2 := by
  unfold nameAndBody
  split <;> simp [nameTokens]

/-- Whatever field there is, the end of the statement comes last. -/
theorem field_tokens_end (field : Option Field) :
    ∃ front, fieldTokens field = front ++ [.finish] := by
  cases field with
  | none => exact ⟨[], rfl⟩
  | some name => exact ⟨[.field name], rfl⟩

/-- A field and the end of the statement behind it are what they are read as. -/
theorem field_and_rest_append {tokens behind : List Token}
    (ended : (fieldAndRest tokens).2 = .finish :: behind) :
    tokens = fieldTokens (fieldAndRest tokens).1 ++ behind := by
  unfold fieldAndRest at ended ⊢
  split
  · next name rest => simpa [fieldTokens] using ended
  · next other => simpa [fieldTokens, other] using ended

/-- The steps of reading a statement: an expression behind the name, a field, and nothing but the
end of the statement behind that. -/
theorem of_tokens_steps {tokens : List Token} {statement : Statement}
    (read : ofTokens tokens = .ok statement) :
    ∃ expr rest behind, expression (nameAndBody tokens).2 = .ok (expr, rest) ∧
      (fieldAndRest rest).2 = .finish :: behind ∧
      statement = ⟨(nameAndBody tokens).1, expr, (fieldAndRest rest).1⟩ := by
  unfold ofTokens at read
  obtain ⟨⟨expr, rest⟩, readBody, read⟩ := (bind_ok_iff ..).mp read
  obtain ⟨behind, ended, read⟩ := (bind_ok_iff ..).mp read
  exact ⟨expr, rest, behind, readBody, (expect_ok_iff ..).mp ended, (Except.ok.inj read).symm⟩

/-- A statement that is read from the tokens of a line has a derivation of all of them. -/
theorem parse_sound {line : Text} {statement : Statement}
    (read : parse line = .ok statement) :
    ∃ derivation : Derivation, derivation.tokens = Token.scan line ∧
      derivation.statement = statement := by
  obtain ⟨expr, rest, behind, readBody, ended, rfl⟩ := of_tokens_steps read
  obtain ⟨tree, bodyTokens, rfl⟩ := expression_sound readBody
  obtain ⟨front, closing⟩ := field_tokens_end (fieldAndRest rest).1
  have fieldSplit : rest = fieldTokens (fieldAndRest rest).1 ++ behind :=
    field_and_rest_append ended
  have nameSplit : Token.scan line =
      nameTokens (nameAndBody (Token.scan line)).1 ++ (tree.tokens ++ rest) := by
    rw [← bodyTokens]
    exact name_and_body_append (Token.scan line)
  have whole : Token.scan line =
      (nameTokens (nameAndBody (Token.scan line)).1 ++ tree.tokens ++ front)
        ++ .finish :: behind := by
    calc Token.scan line
      _ = nameTokens (nameAndBody (Token.scan line)).1 ++ (tree.tokens ++ rest) := nameSplit
      _ = nameTokens (nameAndBody (Token.scan line)).1
          ++ (tree.tokens ++ (fieldTokens (fieldAndRest rest).1 ++ behind)) := by
        rw [← fieldSplit]
      _ = _ := by
        rw [closing]
        simp
  have nothing : behind = [] := Token.behind_finish whole
  have allOfRest : rest = fieldTokens (fieldAndRest rest).1 := by
    rw [nothing, List.append_nil] at fieldSplit
    exact fieldSplit
  refine ⟨⟨_, tree, _⟩, ?_, rfl⟩
  rw [Derivation.tokens, ← allOfRest, List.append_assoc, ← nameSplit]

/-- The reader of statements accepts exactly the grammar. A line is read if and only if its
tokens have a derivation; the derivation is the only one, and the line is read as the name, the
expression and the field that it says. A distance that occurs in it stands for the unit and the
number that its text has by itself. -/
theorem parse_exactly_grammar (line : Text) :
    ((∃ statement, parse line = .ok statement) ↔
      ∃ derivation : Derivation, derivation.tokens = Token.scan line) ∧
    (∀ derivation : Derivation, derivation.tokens = Token.scan line →
      parse line = .ok derivation.statement ∧
        ∀ other : Derivation, other.tokens = Token.scan line → other = derivation) ∧
    (∀ digits unit capital, .distance digits unit capital ∈ Token.scan line →
      Distance.ofText? (Token.distance digits unit capital).text =
        some ⟨unit, countOf digits⟩) := by
  refine ⟨⟨?_, ?_⟩, ?_, ?_⟩
  · rintro ⟨statement, read⟩
    obtain ⟨derivation, tokens, _⟩ := parse_sound read
    exact ⟨derivation, tokens⟩
  · rintro ⟨derivation, tokens⟩
    exact ⟨derivation.statement, by rw [parse, ← tokens, of_tokens_complete]⟩
  · intro derivation tokens
    refine ⟨by rw [parse, ← tokens, of_tokens_complete], ?_⟩
    intro other otherTokens
    exact Derivation.unique other derivation (otherTokens.trans tokens.symm)
  · intro digits unit capital member
    obtain ⟨some_digit, ascii⟩ := Token.scan_from_distance [] line digits unit capital member
    exact Token.of_text_distance digits unit capital some_digit ascii

end PriorArt.Statement
