import PriorArt.Text.Basic
import PriorArt.Text.Numeral
import PriorArt.Expr.Basic

/-!
# Tokens of a statement

A statement is cut at its separators: blanks, which are dropped, and operator signs, which are
tokens of their own. What stands between two separators is a run. A run is an identifier as a
whole, unless it is a distance such as `10n`, or opens with a slash and a letter: then the slash
and its letters are a field suffix if they spell one, and the rest of the run is read as a run
of its own. So a slash inside a classification code such as `H04W16/24` has no effect.

Every text has tokens; characters without meaning become part of an identifier. Only four blanks
separate here, other blanks of Unicode belong to identifiers.
-/

namespace PriorArt

/-- The fields that a search looks into. -/
inductive Field where
  /-- The text of a document. -/
  | text
  /-- The first classification. -/
  | primaryClass
  /-- The further classifications. -/
  | furtherClass
  deriving DecidableEq, Repr

/-- The suffix that puts an expression into a field. -/
def Field.suffix : Field → String
  | .text => "/TX"
  | .primaryClass => "/CP"
  | .furtherClass => "/FI"

/-- The fields in the order of their introduction. -/
def Field.all : List Field := [.text, .primaryClass, .furtherClass]

/-- The field whose suffix has the given letters, in either case. -/
def Field.ofLetters? (letters : Text) : Option Field :=
  Field.all.find? (fun field => field.suffix.toList = '/' :: letters.map Char.toUpper)

/-- The kinds of tokens. -/
inductive TokenKind where
  | identifier
  | plus
  | star
  | comma
  | leftParenthesis
  | rightParenthesis
  | leftBrace
  | rightBrace
  | assign
  | field
  | distance
  | finish
  deriving DecidableEq, Repr

/-- The name of a kind in messages. -/
def TokenKind.name : TokenKind → String
  | .identifier => "ident"
  | .plus => "plus"
  | .star => "star"
  | .comma => "comma"
  | .leftParenthesis => "lparen"
  | .rightParenthesis => "rparen"
  | .leftBrace => "lbrace"
  | .rightBrace => "rbrace"
  | .assign => "assign"
  | .field => "field"
  | .distance => "prox"
  | .finish => "eof"

/-- A token of a statement. -/
inductive Token where
  | identifier (text : Text)
  | plus
  | star
  | comma
  | leftParenthesis
  | rightParenthesis
  | leftBrace
  | rightBrace
  | assign
  | field (name : Field)
  /-- A number in ASCII digits with the letter of a unit, which may be a capital. -/
  | distance (digits : Text) (unit : DistanceUnit) (capital : Bool)
  /-- The end of the statement. -/
  | finish
  deriving DecidableEq

namespace Token

/-- The kind of a token. -/
def kind : Token → TokenKind
  | identifier _ => .identifier
  | plus => .plus
  | star => .star
  | comma => .comma
  | leftParenthesis => .leftParenthesis
  | rightParenthesis => .rightParenthesis
  | leftBrace => .leftBrace
  | rightBrace => .rightBrace
  | assign => .assign
  | field _ => .field
  | distance .. => .distance
  | finish => .finish

/-- The text of a token as it was written, except that a field suffix is in upper case. -/
def text : Token → Text
  | identifier text => text
  | plus => ['+']
  | star => ['*']
  | comma => [',']
  | leftParenthesis => ['(']
  | rightParenthesis => [')']
  | leftBrace => ['{']
  | rightBrace => ['}']
  | assign => ['=']
  | field name => name.suffix.toList
  | distance digits unit capital =>
    digits ++ [if capital then unit.letter.toUpper else unit.letter]
  | finish => []

/-- The operator sign that a character is. -/
def ofSign? : Char → Option Token
  | '+' => some plus
  | '*' => some star
  | ',' => some comma
  | '(' => some leftParenthesis
  | ')' => some rightParenthesis
  | '{' => some leftBrace
  | '}' => some rightBrace
  | '=' => some assign
  | _ => none

/-- The blanks between tokens. -/
def isGap (character : Char) : Bool :=
  character = ' ' || character = '\t' || character = '\r' || character = '\n'

/-- Whether a character ends a run. -/
def isSeparator (character : Char) : Bool := isGap character || (ofSign? character).isSome

/-- A run without a field suffix: a distance if it is digits and the letter of a unit, and an
identifier otherwise. -/
def ofRun (run : Text) : Token :=
  match run.takeWhile Char.isDigit, run.dropWhile Char.isDigit with
  | digit :: digits, [letter] =>
    match DistanceUnit.ofLetter? letter with
    | some unit => distance (digit :: digits) unit letter.isUpper
    | none => identifier run
  | _, _ => identifier run

/-- The tokens of a run that does not open with a field suffix. -/
def ofRest : Text → List Token
  | [] => []
  | run => [ofRun run]

/-- A slash with the letters behind it, which is a field suffix if the letters name a field. -/
def ofSlash (letters : Text) : Token :=
  match Field.ofLetters? letters with
  | some name => field name
  | none => identifier ('/' :: letters)

/-- The tokens of a run between two separators. -/
def ofWholeRun : Text → List Token
  | '/' :: rest =>
    match rest.takeWhile Char.isAlpha with
    | [] => ofRest ('/' :: rest)
    | letters => ofSlash letters :: ofRest (rest.dropWhile Char.isAlpha)
  | run => ofRest run

/-- Scan a text; `run` is the part of the current run that is read. -/
def scanFrom (run : Text) : Text → List Token
  | [] => ofWholeRun run ++ [finish]
  | character :: rest =>
    match ofSign? character with
    | some sign => ofWholeRun run ++ sign :: scanFrom [] rest
    | none =>
      if isGap character then ofWholeRun run ++ scanFrom [] rest
      else scanFrom (run ++ [character]) rest

/-- The tokens of a statement, closed by the token `finish`. -/
def scan (text : Text) : List Token := scanFrom [] text

end Token

/-- A distance given as a text of its own: a numeral in the digits of any script and the letter
of a unit in either case. One line feed may follow. -/
def Distance.ofText? (text : Text) : Option Distance :=
  let body := Text.withoutFinalNewline text
  match body.getLast?.bind DistanceUnit.ofLetter?, Text.numeral? body.dropLast with
  | some unit, some count => some ⟨unit, count⟩
  | _, _ => none

end PriorArt
