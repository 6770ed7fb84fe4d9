import PriorArt.Expr.Basic
import PriorArt.Token

/-!
# Phrases of a query

A query string is what the search service accepts. Its grammar, in which `*` binds more loosely
than `+`:

    query     := union ('*' union)*
    product   := union ('*' union)*
    union     := atom ('+' atom)*
    atom      := fielded | bracket | brace | group | term
    fielded   := (group | term | brace) field
    group     := '(' (proximity | product) ')'
    bracket   := '[' (proximity | product) ']'
    proximity := product ',' distance ',' product
    brace     := '{' product ',' product ',' product '}' ',' distance

Gaps may stand between any two terminals. A field is a slash and the two letters of a field. A
term is a run of characters other than blanks, operators and slashes; a slash belongs to it
unless it opens a complete field suffix, two letters behind which the run ends. A distance is
digits and the letter of a unit.

At each point the grammar tells by the next characters which terminal comes, so a query has one
reading at most, and its phrase is the record of that reading. A reading that fails stops at the
first place where none of the possible terminals stands.
-/

namespace PriorArt

/-- The record of how the grammar reads a text. A union and a product have at least two
operands. -/
inductive Phrase where
  | term (text : Text)
  | union (first second : Phrase) (others : List Phrase)
  | product (first second : Phrase) (others : List Phrase)
  | group (inner : Phrase)
  | bracket (inner : Phrase)
  | proximity (left : Phrase) (distance : Distance) (right : Phrase)
  | brace (first second third : Phrase) (distance : Distance)
  | fielded (inner : Phrase) (field : Field)
  deriving Inhabited

namespace Phrase

/-- A union, or its operand where there is only one. -/
def joinUnion (first : Phrase) : List Phrase → Phrase
  | [] => first
  | second :: others => union first second others

/-- A product, or its operand where there is only one. -/
def joinProduct (first : Phrase) : List Phrase → Phrase
  | [] => first
  | second :: others => product first second others

/-- The blanks between terminals. -/
def isGap (character : Char) : Bool :=
  character = ' ' || character = '\t' || character = '\x0c' || character = '\r'
    || character = '\n'

/-- The text behind a gap. -/
def skipGap (text : Text) : Text := text.dropWhile isGap

/-- The characters with a meaning of their own. -/
def isMark (character : Char) : Bool :=
  ['+', '*', '(', ')', ',', '{', '}', '[', ']', '/'].contains character

/-- The characters of terms. -/
def isTermChar (character : Char) : Bool := !isBlank character && !isMark character

/-- The pieces of a term behind its first run, each with its slash, and the text behind the
term. A text has fewer slashes than characters, so its length bounds the number of pieces. -/
def termTail : Nat → Text → Text × Text
  | 0, text => ([], text)
  | pieces + 1, '/' :: rest =>
    let run := rest.takeWhile isTermChar
    if run.isEmpty || (Field.ofLetters? run).isSome then ([], '/' :: rest)
    else
      let (tail, behind) := termTail pieces (rest.dropWhile isTermChar)
      ('/' :: run ++ tail, behind)
  | _ + 1, text => ([], text)

/-- A term at the start of a text, and the text behind it. -/
def term? (text : Text) : Option (Text × Text) :=
  match text.takeWhile isTermChar with
  | [] => none
  | run =>
    let (tail, behind) := termTail text.length (text.dropWhile isTermChar)
    some (run ++ tail, behind)

/-- A field at the start of a text, and the text behind it. -/
def field? : Text → Option (Field × Text)
  | '/' :: first :: second :: rest =>
    match Field.ofLetters? [first, second] with
    | some field => some (field, rest)
    | none => none
  | _ => none

/-- A distance at the start of a text, and the text behind it. -/
def distance? (text : Text) : Option (Distance × Text) :=
  match text.takeWhile Char.isDigit, text.dropWhile Char.isDigit with
  | digit :: digits, letter :: rest =>
    match DistanceUnit.ofLetter? letter with
    | some unit => some (⟨unit, Nat.ofDigitChars 10 (digit :: digits) 0⟩, rest)
    | none => none
  | _, _ => none

/-- Take a mark behind a gap, or stop there. -/
def expectMark (mark : Char) (text : Text) : Except Text Text :=
  match skipGap text with
  | [] => .error []
  | character :: rest => if character = mark then .ok rest else .error (character :: rest)

/-- Take a distance behind a gap, or stop there. -/
def expectDistance (text : Text) : Except Text (Distance × Text) :=
  match distance? (skipGap text) with
  | some read => .ok read
  | none => .error (skipGap text)

/-- Put an atom into the field that stands behind it, if one does. -/
def withField (inner : Phrase) (text : Text) : Phrase × Text :=
  match field? (skipGap text) with
  | some (field, rest) => (fielded inner field, rest)
  | none => (inner, text)

mutual

/-- Read the operands of a product. -/
def factors : Nat → Text → Except Text ((Phrase × List Phrase) × Text)
  | 0, text => .error (skipGap text)
  | depth + 1, text => do
    let ((first, others), rest) ← alternatives depth text
    let operand := joinUnion first others
    match skipGap rest with
    | '*' :: behind =>
      let ((second, others), rest) ← factors depth behind
      return ((operand, second :: others), rest)
    | _ => return ((operand, []), rest)

/-- Read the operands of a union. -/
def alternatives : Nat → Text → Except Text ((Phrase × List Phrase) × Text)
  | 0, text => .error (skipGap text)
  | depth + 1, text => do
    let (operand, rest) ← atom depth text
    match skipGap rest with
    | '+' :: behind =>
      let ((second, others), rest) ← alternatives depth behind
      return ((operand, second :: others), rest)
    | _ => return ((operand, []), rest)

/-- Read an atom with its field. -/
def atom : Nat → Text → Except Text (Phrase × Text)
  | 0, text => .error (skipGap text)
  | depth + 1, text =>
    match skipGap text with
    | '(' :: rest => do
      let (inner, rest) ← inside depth rest
      let rest ← expectMark ')' rest
      return withField (group inner) rest
    | '[' :: rest => do
      let (inner, rest) ← inside depth rest
      let rest ← expectMark ']' rest
      return (bracket inner, rest)
    | '{' :: rest => do
      let ((first, firsts), rest) ← factors depth rest
      let rest ← expectMark ',' rest
      let ((second, seconds), rest) ← factors depth rest
      let rest ← expectMark ',' rest
      let ((third, thirds), rest) ← factors depth rest
      let rest ← expectMark '}' rest
      let rest ← expectMark ',' rest
      let (distance, rest) ← expectDistance rest
      return withField (brace (joinProduct first firsts) (joinProduct second seconds)
        (joinProduct third thirds) distance) rest
    | start =>
      match term? start with
      | some (text, rest) => return withField (term text) rest
      | none => .error start

/-- Read what stands inside a group or bracket, a product or two that are near each other. -/
def inside : Nat → Text → Except Text (Phrase × Text)
  | 0, text => .error (skipGap text)
  | depth + 1, text => do
    let ((first, others), rest) ← factors depth text
    let left := joinProduct first others
    match skipGap rest with
    | ',' :: behind =>
      let (distance, rest) ← expectDistance behind
      let rest ← expectMark ',' rest
      let ((first, others), rest) ← factors depth rest
      return (proximity left distance (joinProduct first others), rest)
    | _ => return (left, rest)

end

/-- A bound on the depth of the recursion: four levels of the grammar lie between one bracket
and the next. -/
def depthBound (text : Text) : Nat := 4 * text.length + 4

/-- Read the factors of a whole query, or give the text at which the reading stops. -/
def ofQuery (text : Text) : Except Text (List Phrase) := do
  let ((first, others), rest) ← factors (depthBound text) text
  match skipGap rest with
  | [] => return first :: others
  | stopped => .error stopped

end Phrase

end PriorArt
