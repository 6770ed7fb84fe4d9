import PriorArt.Statement

/-!
# Derivations of statements

A derivation shows how the grammar of statements produces a list of tokens. It keeps every
choice of the grammar: each bracket, each chain of operands with its length, and each distance
as it is spelled. What the derivation says is read off it: a chain of several operands is one
operator over all of them, a chain of one is its operand, and round brackets leave no trace.

Derivations are trees of their own, defined without any reader of statements. The main result
here is that the tokens determine the derivation, so the grammar is unambiguous. It rests on one
observation for each level: a primary ends where its brackets do, whatever follows, and a chain
ends where none of its signs follows.
-/

namespace PriorArt.Statement

mutual

/-- A primary: an identifier, a union in round brackets, or a brace of three primaries with its
word distance. -/
inductive PrimaryTree where
  | identifier (text : Text)
  | parenthesized (inner : UnionTree)
  | brace (first second third : PrimaryTree) (digits : Text) (capital : Bool)

/-- A primary, or two of them with the distance between them. -/
inductive NearnessTree where
  | single (operand : PrimaryTree)
  | near (left : PrimaryTree) (digits : Text) (unit : DistanceUnit) (capital : Bool)
      (right : PrimaryTree)

/-- A chain of one or more operands joined by stars. -/
inductive IntersectionTree where
  | last (operand : NearnessTree)
  | more (operand : NearnessTree) (rest : IntersectionTree)

/-- A chain of one or more operands joined by plus signs. -/
inductive UnionTree where
  | last (operand : IntersectionTree)
  | more (operand : IntersectionTree) (rest : UnionTree)

end

mutual

/-- The tokens that a primary produces. -/
def PrimaryTree.tokens : PrimaryTree → List Token
  | .identifier text => [.identifier text]
  | .parenthesized inner => .leftParenthesis :: inner.tokens ++ [.rightParenthesis]
  | .brace first second third digits capital =>
    .leftBrace :: first.tokens ++ .comma :: second.tokens ++ .comma :: third.tokens
      ++ [.rightBrace, .comma, .distance digits .words capital]

/-- The tokens that a nearness produces. -/
def NearnessTree.tokens : NearnessTree → List Token
  | .single operand => operand.tokens
  | .near left digits unit capital right =>
    left.tokens ++ .comma :: .distance digits unit capital :: .comma :: right.tokens

/-- The tokens that an intersection produces. -/
def IntersectionTree.tokens : IntersectionTree → List Token
  | .last operand => operand.tokens
  | .more operand rest => operand.tokens ++ .star :: rest.tokens

/-- The tokens that a union produces. -/
def UnionTree.tokens : UnionTree → List Token
  | .last operand => operand.tokens
  | .more operand rest => operand.tokens ++ .plus :: rest.tokens

end

/-- Every primary produces a token. -/
theorem PrimaryTree.tokens_pos (tree : PrimaryTree) : 0 < tree.tokens.length := by
  cases tree <;> simp [PrimaryTree.tokens]

/-- Every nearness produces a token, since it begins with a primary. -/
theorem NearnessTree.tokens_pos (tree : NearnessTree) : 0 < tree.tokens.length := by
  cases tree with
  | single operand => exact operand.tokens_pos
  | near left digits unit capital right =>
    simp only [NearnessTree.tokens, List.length_append, List.length_cons]
    omega

/-- Every intersection produces a token, since it begins with a nearness. -/
theorem IntersectionTree.tokens_pos (tree : IntersectionTree) : 0 < tree.tokens.length := by
  cases tree with
  | last operand => exact operand.tokens_pos
  | more operand rest =>
    simp only [IntersectionTree.tokens, List.length_append, List.length_cons]
    omega

/-- The number that the digits of a distance write. -/
def countOf (digits : Text) : Nat := Nat.ofDigitChars 10 digits 0

mutual

/-- The expression that a primary says. -/
def PrimaryTree.expr : PrimaryTree → Expr
  | .identifier text => .word text
  | .parenthesized inner => Expr.join .or inner.operands.1 inner.operands.2
  | .brace first second third digits _ =>
    .simultaneous (countOf digits) first.expr second.expr third.expr

/-- The expression that a nearness says. -/
def NearnessTree.expr : NearnessTree → Expr
  | .single operand => operand.expr
  | .near left digits unit _ right => .proximity ⟨unit, countOf digits⟩ left.expr right.expr

/-- The first operand of an intersection and the further ones, in order. -/
def IntersectionTree.operands : IntersectionTree → Expr × List Expr
  | .last operand => (operand.expr, [])
  | .more operand rest => (operand.expr, rest.operands.1 :: rest.operands.2)

/-- The first operand of a union and the further ones, in order. -/
def UnionTree.operands : UnionTree → Expr × List Expr
  | .last operand => (Expr.join .and operand.operands.1 operand.operands.2, [])
  | .more operand rest =>
    (Expr.join .and operand.operands.1 operand.operands.2,
      rest.operands.1 :: rest.operands.2)

end

/-- The expression that an intersection says. -/
def IntersectionTree.expr (tree : IntersectionTree) : Expr :=
  Expr.join .and tree.operands.1 tree.operands.2

/-- The expression that a union says. -/
def UnionTree.expr (tree : UnionTree) : Expr := Expr.join .or tree.operands.1 tree.operands.2

/-- The tokens of the name of a statement. -/
def nameTokens : Option Text → List Token
  | some name => [.identifier name, .assign]
  | none => []

/-- The tokens of the field of a statement, and the token that ends every statement. -/
def fieldTokens : Option Field → List Token
  | some field => [.field field, .finish]
  | none => [.finish]

/-- A derivation of a whole statement: a name with its sign, a union, and a field. -/
structure Derivation where
  name : Option Text
  body : UnionTree
  field : Option Field

/-- The tokens that a statement produces, up to the token that ends every statement. -/
def Derivation.tokens (derivation : Derivation) : List Token :=
  nameTokens derivation.name ++ derivation.body.tokens ++ fieldTokens derivation.field

/-- The statement that a derivation says. -/
def Derivation.statement (derivation : Derivation) : Statement :=
  ⟨derivation.name, derivation.body.expr, derivation.field⟩

/-- No token follows that could make a nearness of a primary. Every such token is a comma. -/
def EndsNearness (rest : List Token) : Prop := rest.head? ≠ some .comma

/-- No token follows that could continue an intersection. -/
def EndsIntersection (rest : List Token) : Prop := EndsNearness rest ∧ rest.head? ≠ some .star

/-- No token follows that could continue a union. -/
def EndsUnion (rest : List Token) : Prop := EndsIntersection rest ∧ rest.head? ≠ some .plus

/-- A star ends a nearness. -/
@[simp] theorem ends_nearness_star (rest : List Token) : EndsNearness (.star :: rest) := by
  simp [EndsNearness]

/-- A plus sign ends an intersection. -/
@[simp] theorem ends_intersection_plus (rest : List Token) : EndsIntersection (.plus :: rest) := by
  simp [EndsIntersection, EndsNearness]

/-- A closing bracket ends a union. -/
@[simp] theorem ends_union_parenthesis (rest : List Token) :
    EndsUnion (.rightParenthesis :: rest) := by
  simp [EndsUnion, EndsIntersection, EndsNearness]

/-- A field ends a union. -/
@[simp] theorem ends_union_field (field : Field) (rest : List Token) :
    EndsUnion (.field field :: rest) := by
  simp [EndsUnion, EndsIntersection, EndsNearness]

/-- The end of the statement ends a union. -/
@[simp] theorem ends_union_finish (rest : List Token) : EndsUnion (.finish :: rest) := by
  simp [EndsUnion, EndsIntersection, EndsNearness]

mutual

/-- Two primaries at the start of one list of tokens are the same, whatever follows them. The
first token tells which kind of primary comes, and the inner ones are the same by induction, so
that both run out at the same token. -/
theorem PrimaryTree.unique (tree other : PrimaryTree) (treeRest otherRest : List Token)
    (same : tree.tokens ++ treeRest = other.tokens ++ otherRest) :
    tree = other ∧ treeRest = otherRest := by
  cases tree with
  | identifier text =>
    cases other with
    | identifier text' =>
      simpa [PrimaryTree.tokens] using same
    | parenthesized inner' => simp [PrimaryTree.tokens] at same
    | brace => simp [PrimaryTree.tokens] at same
  | parenthesized inner =>
    cases other with
    | identifier text' => simp [PrimaryTree.tokens] at same
    | parenthesized inner' =>
      simp only [PrimaryTree.tokens, List.cons_append, List.append_assoc, List.nil_append,
        List.cons.injEq, true_and] at same
      obtain ⟨rfl, behind⟩ := UnionTree.unique inner inner' _ _ (by simp) (by simp) same
      exact ⟨rfl, by simpa using behind⟩
    | brace => simp [PrimaryTree.tokens] at same
  | brace first second third digits capital =>
    cases other with
    | identifier text' => simp [PrimaryTree.tokens] at same
    | parenthesized inner' => simp [PrimaryTree.tokens] at same
    | brace first' second' third' digits' capital' =>
      simp only [PrimaryTree.tokens, List.cons_append, List.append_assoc, List.nil_append,
        List.cons.injEq, true_and] at same
      obtain ⟨rfl, behindFirst⟩ := PrimaryTree.unique first first' _ _ same
      simp only [List.cons.injEq, true_and] at behindFirst
      obtain ⟨rfl, behindSecond⟩ := PrimaryTree.unique second second' _ _ behindFirst
      simp only [List.cons.injEq, true_and] at behindSecond
      obtain ⟨rfl, behindThird⟩ := PrimaryTree.unique third third' _ _ behindSecond
      simp only [List.cons.injEq, Token.distance.injEq, true_and] at behindThird
      obtain ⟨⟨rfl, rfl⟩, behind⟩ := behindThird
      exact ⟨rfl, behind⟩

/-- Two nearnesses at the start of one list of tokens are the same, if no comma follows either.
Both begin with the same primary, and the comma behind it decides between the two forms. -/
theorem NearnessTree.unique (tree other : NearnessTree) (treeRest otherRest : List Token)
    (treeEnds : EndsNearness treeRest) (otherEnds : EndsNearness otherRest)
    (same : tree.tokens ++ treeRest = other.tokens ++ otherRest) :
    tree = other ∧ treeRest = otherRest := by
  cases tree with
  | single operand =>
    cases other with
    | single operand' =>
      obtain ⟨rfl, behind⟩ := PrimaryTree.unique operand operand' _ _ same
      exact ⟨rfl, behind⟩
    | near left' digits' unit' capital' right' =>
      simp only [NearnessTree.tokens, List.append_assoc, List.cons_append] at same
      obtain ⟨_, behind⟩ := PrimaryTree.unique operand left' _ _ same
      exact absurd (by rw [behind]; rfl) treeEnds
  | near left digits unit capital right =>
    cases other with
    | single operand' =>
      simp only [NearnessTree.tokens, List.append_assoc, List.cons_append] at same
      obtain ⟨_, behind⟩ := PrimaryTree.unique left operand' _ _ same
      exact absurd (by rw [← behind]; rfl) otherEnds
    | near left' digits' unit' capital' right' =>
      simp only [NearnessTree.tokens, List.append_assoc, List.cons_append] at same
      obtain ⟨rfl, behindLeft⟩ := PrimaryTree.unique left left' _ _ same
      simp only [List.cons.injEq, Token.distance.injEq, true_and] at behindLeft
      obtain ⟨⟨rfl, rfl, rfl⟩, behindSpec⟩ := behindLeft
      obtain ⟨rfl, behind⟩ := PrimaryTree.unique right right' _ _ behindSpec
      exact ⟨rfl, behind⟩

/-- Two intersections at the start of one list of tokens are the same, if neither a comma nor a
star follows either. -/
theorem IntersectionTree.unique (tree other : IntersectionTree) (treeRest otherRest : List Token)
    (treeEnds : EndsIntersection treeRest) (otherEnds : EndsIntersection otherRest)
    (same : tree.tokens ++ treeRest = other.tokens ++ otherRest) :
    tree = other ∧ treeRest = otherRest := by
  cases tree with
  | last operand =>
    cases other with
    | last operand' =>
      obtain ⟨rfl, behind⟩ :=
        NearnessTree.unique operand operand' _ _ treeEnds.1 otherEnds.1 same
      exact ⟨rfl, behind⟩
    | more operand' rest' =>
      simp only [IntersectionTree.tokens, List.append_assoc, List.cons_append] at same
      obtain ⟨_, behind⟩ :=
        NearnessTree.unique operand operand' _ _ treeEnds.1 (by simp) same
      exact absurd (by rw [behind]; rfl) treeEnds.2
  | more operand rest =>
    cases other with
    | last operand' =>
      simp only [IntersectionTree.tokens, List.append_assoc, List.cons_append] at same
      obtain ⟨_, behind⟩ :=
        NearnessTree.unique operand operand' _ _ (by simp) otherEnds.1 same
      exact absurd (by rw [← behind]; rfl) otherEnds.2
    | more operand' rest' =>
      simp only [IntersectionTree.tokens, List.append_assoc, List.cons_append] at same
      obtain ⟨rfl, behindOperand⟩ :=
        NearnessTree.unique operand operand' _ _ (by simp) (by simp) same
      simp only [List.cons.injEq, true_and] at behindOperand
      obtain ⟨rfl, behind⟩ :=
        IntersectionTree.unique rest rest' _ _ treeEnds otherEnds behindOperand
      exact ⟨rfl, behind⟩

/-- Two unions at the start of one list of tokens are the same, if none of the signs of the
grammar's chains follows either. -/
theorem UnionTree.unique (tree other : UnionTree) (treeRest otherRest : List Token)
    (treeEnds : EndsUnion treeRest) (otherEnds : EndsUnion otherRest)
    (same : tree.tokens ++ treeRest = other.tokens ++ otherRest) :
    tree = other ∧ treeRest = otherRest := by
  cases tree with
  | last operand =>
    cases other with
    | last operand' =>
      obtain ⟨rfl, behind⟩ :=
        IntersectionTree.unique operand operand' _ _ treeEnds.1 otherEnds.1 same
      exact ⟨rfl, behind⟩
    | more operand' rest' =>
      simp only [UnionTree.tokens, List.append_assoc, List.cons_append] at same
      obtain ⟨_, behind⟩ :=
        IntersectionTree.unique operand operand' _ _ treeEnds.1 (by simp) same
      exact absurd (by rw [behind]; rfl) treeEnds.2
  | more operand rest =>
    cases other with
    | last operand' =>
      simp only [UnionTree.tokens, List.append_assoc, List.cons_append] at same
      obtain ⟨_, behind⟩ :=
        IntersectionTree.unique operand operand' _ _ (by simp) otherEnds.1 same
      exact absurd (by rw [← behind]; rfl) otherEnds.2
    | more operand' rest' =>
      simp only [UnionTree.tokens, List.append_assoc, List.cons_append] at same
      obtain ⟨rfl, behindOperand⟩ :=
        IntersectionTree.unique operand operand' _ _ (by simp) (by simp) same
      simp only [List.cons.injEq, true_and] at behindOperand
      obtain ⟨rfl, behind⟩ :=
        UnionTree.unique rest rest' _ _ treeEnds otherEnds behindOperand
      exact ⟨rfl, behind⟩

end

mutual

/-- The sign of a definition is no token of a primary. -/
theorem PrimaryTree.assign_absent (tree : PrimaryTree) : Token.assign ∉ tree.tokens := by
  cases tree with
  | identifier text => simp [PrimaryTree.tokens]
  | parenthesized inner => simp [PrimaryTree.tokens, UnionTree.assign_absent inner]
  | brace first second third digits capital =>
    simp [PrimaryTree.tokens, PrimaryTree.assign_absent first, PrimaryTree.assign_absent second,
      PrimaryTree.assign_absent third]

/-- The sign of a definition is no token of a nearness. -/
theorem NearnessTree.assign_absent (tree : NearnessTree) : Token.assign ∉ tree.tokens := by
  cases tree with
  | single operand => exact PrimaryTree.assign_absent operand
  | near left digits unit capital right =>
    simp [NearnessTree.tokens, PrimaryTree.assign_absent left, PrimaryTree.assign_absent right]

/-- The sign of a definition is no token of an intersection. -/
theorem IntersectionTree.assign_absent (tree : IntersectionTree) :
    Token.assign ∉ tree.tokens := by
  cases tree with
  | last operand => exact NearnessTree.assign_absent operand
  | more operand rest =>
    simp [IntersectionTree.tokens, NearnessTree.assign_absent operand,
      IntersectionTree.assign_absent rest]

/-- The sign of a definition is no token of a union. -/
theorem UnionTree.assign_absent (tree : UnionTree) : Token.assign ∉ tree.tokens := by
  cases tree with
  | last operand => exact IntersectionTree.assign_absent operand
  | more operand rest =>
    simp [UnionTree.tokens, IntersectionTree.assign_absent operand, UnionTree.assign_absent rest]

end

/-- A union in front of a field or of the end of a statement is followed by no sign of a chain. -/
theorem ends_union_field_tokens (field : Option Field) : EndsUnion (fieldTokens field) := by
  cases field <;> simp [fieldTokens]

/-- No union and field together contain the sign of a definition. -/
theorem body_assign_absent (body : UnionTree) (field : Option Field) :
    Token.assign ∉ body.tokens ++ fieldTokens field := by
  cases field <;> simp [fieldTokens, UnionTree.assign_absent body]

/-- The tokens of a statement have one derivation at most. The sign of a definition shows whether
there is a name; behind it the unions agree, and what is left is the field. -/
theorem Derivation.unique (derivation other : Derivation)
    (same : derivation.tokens = other.tokens) : derivation = other := by
  obtain ⟨name, body, field⟩ := derivation
  obtain ⟨name', body', field'⟩ := other
  have sameName : name = name' ∧
      body.tokens ++ fieldTokens field = body'.tokens ++ fieldTokens field' := by
    simp only [Derivation.tokens, List.append_assoc] at same
    cases name with
    | none =>
      cases name' with
      | none => exact ⟨rfl, same⟩
      | some text =>
        have sameTokens : body.tokens ++ fieldTokens field =
            .identifier text :: .assign :: (body'.tokens ++ fieldTokens field') := same
        have present : Token.assign ∈ body.tokens ++ fieldTokens field := by simp [sameTokens]
        exact absurd present (body_assign_absent body field)
    | some text =>
      cases name' with
      | none =>
        have sameTokens : .identifier text :: .assign :: (body.tokens ++ fieldTokens field) =
            body'.tokens ++ fieldTokens field' := same
        have present : Token.assign ∈ body'.tokens ++ fieldTokens field' := by
          simp [← sameTokens]
        exact absurd present (body_assign_absent body' field')
      | some text' =>
        simpa [nameTokens] using same
  obtain ⟨rfl, sameBody⟩ := sameName
  obtain ⟨rfl, sameField⟩ := UnionTree.unique body body' _ _ (ends_union_field_tokens field)
    (ends_union_field_tokens field') sameBody
  cases field <;> cases field' <;> simp_all [fieldTokens]

end PriorArt.Statement
