import PriorArt.Expr.Basic
import PriorArt.Token

/-!
# Statements

A statement is one line: an expression, with a name in front to define it and a field suffix
behind to say where to search. The grammar, with the loosest binding first:

    statement    := [identifier '='] union [field]
    union        := intersection ('+' intersection)*
    intersection := nearness ('*' nearness)*
    nearness     := primary [',' distance ',' primary]
    primary      := identifier | '(' union ')'
                  | '{' primary ',' primary ',' primary '}' ',' distance

The distance behind a brace counts words. A comma belongs to a nearness only if a distance
follows it, so that the commas of a brace are never taken by its operands.

Reading goes by recursive descent on the list of tokens. Every descent and every further
operand takes a token, so the number of tokens bounds the recursion. A reading gives a value
and the tokens that are left.
-/

namespace PriorArt

/-- What a reader finds wrong with a token. -/
inductive ParseReason where
  | endOfExpression
  | unexpected
  | trailing
  | unclosedParenthesis
  | noCommaAfterDistance
  | noCommaAfterFirst
  | noCommaAfterSecond
  | noBraceAfterThird
  | noCommaAfterBrace
  | noDistanceAfterBrace
  | sentenceDistanceAfterBrace
  | notBare
  | notDistance
  deriving DecidableEq, Repr

/-- A text that is not in the grammar, with the token at which its reading stops. -/
structure ParseError where
  reason : ParseReason
  stoppedText : Text
  stoppedKind : TokenKind
  deriving DecidableEq

/-- A reading that stops at a token. -/
def ParseError.atToken (reason : ParseReason) (token : Token) : ParseError :=
  ⟨reason, token.text, token.kind⟩

/-- The message for a parse error. -/
def ParseError.message (error : ParseError) : String :=
  let stopped := String.ofList error.stoppedText
  match error.reason with
  | .endOfExpression => "Unexpected end of expression"
  | .unexpected => s!"Unexpected token: {stopped} ({error.stoppedKind.name})"
  | .trailing => s!"Unexpected token at end of line: {stopped} ({error.stoppedKind.name})"
  | .unclosedParenthesis => "Expected \")\" to close \"(\""
  | .noCommaAfterDistance => "Expected \",\" after proximity spec (e.g. 10n,)"
  | .noCommaAfterFirst => "Expected \",\" after first operand in \"\x7bA,B,C\x7d\""
  | .noCommaAfterSecond => "Expected \",\" after second operand in \"\x7bA,B,C\x7d\""
  | .noBraceAfterThird => "Expected \"\x7d\" after third operand in \"\x7bA,B,C\x7d\""
  | .noCommaAfterBrace => "Expected \",\" after \"\x7d\" in \"\x7bA,B,C\x7d,10n\""
  | .noDistanceAfterBrace => "Expected proximity spec (e.g. 10n) after \"\x7bA,B,C\x7d,\""
  | .sentenceDistanceAfterBrace => "Simultaneous proximity supports word distance (n) only"
  | .notBare => "Expected a bare expression without name or field"
  | .notDistance => s!"Invalid proximity spec: {stopped}"

/-- A statement: an expression with an optional name and an optional field. -/
structure Statement where
  name : Option Text
  expr : Expr
  field : Option Field
  deriving DecidableEq

namespace Statement

/-- Stop at the first of the tokens. -/
def stop {α : Type} (reason : ParseReason) (tokens : List Token) : Except ParseError α :=
  .error (.atToken reason (tokens.headD .finish))

/-- Take a token that the grammar demands. -/
def expect (token : Token) (reason : ParseReason) : List Token → Except ParseError (List Token)
  | [] => stop reason []
  | first :: rest => if first = token then .ok rest else stop reason (first :: rest)

/-- The count of a word distance behind a brace. -/
def braceDistance : List Token → Except ParseError (Nat × List Token)
  | .distance digits .words _ :: rest => .ok (Nat.ofDigitChars 10 digits 0, rest)
  | .distance digits .sentences capital :: rest =>
    stop .sentenceDistanceAfterBrace (.distance digits .sentences capital :: rest)
  | tokens => stop .noDistanceAfterBrace tokens

mutual

/-- Read the operands of a union. -/
def union : Nat → List Token → Except ParseError ((Expr × List Expr) × List Token)
  | 0, tokens => stop .endOfExpression tokens
  | depth + 1, tokens => do
    let ((first, others), rest) ← intersection depth tokens
    let operand := Expr.join .and first others
    match rest with
    | .plus :: rest =>
      let ((second, others), rest) ← union depth rest
      return ((operand, second :: others), rest)
    | rest => return ((operand, []), rest)

/-- Read the operands of an intersection. -/
def intersection : Nat → List Token → Except ParseError ((Expr × List Expr) × List Token)
  | 0, tokens => stop .endOfExpression tokens
  | depth + 1, tokens => do
    let (operand, rest) ← nearness depth tokens
    match rest with
    | .star :: rest =>
      let ((second, others), rest) ← intersection depth rest
      return ((operand, second :: others), rest)
    | rest => return ((operand, []), rest)

/-- Read a primary, or two that are near each other. -/
def nearness : Nat → List Token → Except ParseError (Expr × List Token)
  | 0, tokens => stop .endOfExpression tokens
  | depth + 1, tokens => do
    let (left, rest) ← primary depth tokens
    match rest with
    | .comma :: .distance digits unit _ :: rest =>
      let rest ← expect .comma .noCommaAfterDistance rest
      let (right, rest) ← primary depth rest
      return (.proximity ⟨unit, Nat.ofDigitChars 10 digits 0⟩ left right, rest)
    | rest => return (left, rest)

/-- Read an identifier, a union in round brackets, or three operands in a brace. -/
def primary : Nat → List Token → Except ParseError (Expr × List Token)
  | 0, tokens => stop .endOfExpression tokens
  | depth + 1, tokens =>
    match tokens with
    | .identifier text :: rest => .ok (.word text, rest)
    | .leftParenthesis :: rest => do
      let ((first, others), rest) ← union depth rest
      let rest ← expect .rightParenthesis .unclosedParenthesis rest
      return (Expr.join .or first others, rest)
    | .leftBrace :: rest => do
      let (first, rest) ← primary depth rest
      let rest ← expect .comma .noCommaAfterFirst rest
      let (second, rest) ← primary depth rest
      let rest ← expect .comma .noCommaAfterSecond rest
      let (third, rest) ← primary depth rest
      let rest ← expect .rightBrace .noBraceAfterThird rest
      let rest ← expect .comma .noCommaAfterBrace rest
      let (count, rest) ← braceDistance rest
      return (.simultaneous count first second third, rest)
    | .finish :: _ | .field _ :: _ | [] => stop .endOfExpression tokens
    | tokens => stop .unexpected tokens

end

/-- A bound on the depth of the recursion: four levels of the grammar lie between one bracket
and the next. -/
def depthBound (tokens : List Token) : Nat := 4 * tokens.length + 4

/-- Read a union as one expression. -/
def expression (tokens : List Token) : Except ParseError (Expr × List Token) := do
  let ((first, others), rest) ← union (depthBound tokens) tokens
  return (Expr.join .or first others, rest)

/-- The name in front of a statement and the tokens behind it. -/
def nameAndBody : List Token → Option Text × List Token
  | .identifier name :: .assign :: body => (some name, body)
  | tokens => (none, tokens)

/-- The field behind an expression and the tokens behind it. -/
def fieldAndRest : List Token → Option Field × List Token
  | .field name :: rest => (some name, rest)
  | tokens => (none, tokens)

/-- Read a statement from all of its tokens. -/
def ofTokens (tokens : List Token) : Except ParseError Statement := do
  let (name, body) := nameAndBody tokens
  let (expr, rest) ← expression body
  let (field, rest) := fieldAndRest rest
  let _ ← expect .finish .trailing rest
  return ⟨name, expr, field⟩

/-- Read a statement from a line. -/
def parse (line : Text) : Except ParseError Statement := ofTokens (Token.scan line)

end Statement

/-- Read an expression without name and field. -/
def Expr.parse (text : Text) : Except ParseError Expr := do
  let statement ← Statement.parse text
  if statement.name.isSome || statement.field.isSome then
    .error ⟨.notBare, text, .identifier⟩
  else return statement.expr

/-- Read a distance from a text of its own. -/
def Distance.parse (text : Text) : Except ParseError Distance :=
  match Distance.ofText? text with
  | some distance => .ok distance
  | none => .error ⟨.notDistance, text, .distance⟩

/-- The refusal of a letter that names no unit. -/
def DistanceUnit.letterMessage : String := "Invalid proximity mode: must be 'n' or 'c'"

/-- The unit that a text names by its letter alone. -/
def DistanceUnit.ofText? : Text → Option DistanceUnit
  | [letter] => DistanceUnit.ofLetter? letter
  | _ => none

end PriorArt
