import PriorArt.Classification
import PriorArt.Query.Phrase
import PriorArt.Spelling

/-!
# Factors of a query

The factors of a query are expressions and spans of classification codes. A phrase in a
classification field must unite plain codes; the span that results can be united with other
spans, and takes part in nothing else. Faults are reported in the order in which the phrase is
read, those of the operands before that of the operator.
-/

namespace PriorArt

/-- Codes that a query searches in one classification field or in both. -/
structure CodeSpan where
  codes : List Text
  inPrimary : Bool
  inFurther : Bool
  deriving DecidableEq

/-- The fields of a span. -/
def CodeSpan.fields (span : CodeSpan) : List Field :=
  (if span.inPrimary then [.primaryClass] else []) ++ if span.inFurther then [.furtherClass] else []

/-- The union of two spans. -/
def CodeSpan.union (left right : CodeSpan) : CodeSpan :=
  ⟨(left.codes ++ right.codes).eraseDups, left.inPrimary || right.inPrimary,
    left.inFurther || right.inFurther⟩

/-- A factor of a query. -/
inductive Factor where
  | words (expr : Expr)
  | codes (span : CodeSpan)
  deriving DecidableEq

/-- What is wrong with a query string. -/
inductive QueryFault where
  /-- No terminal that could come begins with this character. -/
  | unexpected (character : Char) (line column : Nat)
  /-- The query ends where a terminal must come. -/
  | unfinished
  | codesInProduct
  | codesInNearness
  | mixedUnion
  | secondField (field : Field)
  | codes (error : CodesError)
  | sentenceDistance
  deriving DecidableEq

/-- The message for a fault. -/
def QueryFault.message : QueryFault → String
  | .unexpected character line column =>
    s!"No terminal matches '{character}' in the current parser context, "
      ++ s!"at line {line} col {column}"
  | .unfinished => "Unexpected end-of-input. Expected one of:"
  | .codesInProduct => "Classification codes cannot be used inside a product"
  | .codesInNearness => "Classification codes cannot be used in a proximity operator"
  | .mixedUnion => "Cannot combine words and classification codes with '+'"
  | .secondField field => s!"Unexpected {field.suffix} after classification codes"
  | .codes error => error.message
  | .sentenceDistance => "Simultaneous proximity supports word distance (n) only"

namespace Factor

/-- A factor that must be an expression. -/
def expr (fault : QueryFault) : Factor → Except QueryFault Expr
  | words expr => .ok expr
  | codes _ => .error fault

/-- Factors that must be expressions. -/
def exprs (fault : QueryFault) (factors : List Factor) : Except QueryFault (List Expr) :=
  factors.mapM (expr fault)

/-- The expression of a factor. -/
def words? : Factor → Option Expr
  | words expr => some expr
  | codes _ => none

/-- The span of a factor. -/
def span? : Factor → Option CodeSpan
  | words _ => none
  | codes span => some span

/-- The union of several factors, which must all be expressions or all be spans. -/
def unite (first : Factor) (others : List Factor) : Except QueryFault Factor :=
  match first with
  | words expr =>
    if others.all (fun factor => factor.words?.isSome) then
      .ok (words (.logical .or expr (others.filterMap words?)))
    else .error .mixedUnion
  | codes span =>
    if others.all (fun factor => factor.span?.isSome) then
      .ok (codes ((others.filterMap span?).foldl CodeSpan.union span))
    else .error .mixedUnion

/-- Put a factor into a field. -/
def inField (field : Field) (factor : Factor) : Except QueryFault Factor :=
  match factor, field with
  | codes _, field => .error (.secondField field)
  | words expr, .text => .ok (words expr)
  | words expr, field =>
    match expr.codes with
    | .ok found => .ok (codes ⟨found, field = .primaryClass, field = .furtherClass⟩)
    | .error error => .error (.codes error)

end Factor

namespace Phrase

mutual

/-- The factor that a phrase stands for. -/
def factor : Phrase → Except QueryFault Factor
  | term text => .ok (.words (.word text))
  | union first second others => do
    let first ← factor first
    let second ← factor second
    let others ← factorsOf others
    Factor.unite first (second :: others)
  | product first second others => do
    let first ← factor first
    let second ← factor second
    let others ← factorsOf others
    let first ← first.expr .codesInProduct
    let others ← Factor.exprs .codesInProduct (second :: others)
    return .words (.logical .and first others)
  | group inner => factor inner
  | bracket inner => factor inner
  | proximity left distance right => do
    let left ← factor left
    let right ← factor right
    let left ← left.expr .codesInNearness
    let right ← right.expr .codesInNearness
    return .words (.proximity distance left right)
  | brace first second third distance => do
    let first ← factor first
    let second ← factor second
    let third ← factor third
    if distance.unit ≠ .words then
      throw .sentenceDistance
    let first ← first.expr .codesInNearness
    let second ← second.expr .codesInNearness
    let third ← third.expr .codesInNearness
    return .words (.simultaneous distance.count first second third)
  | fielded inner field => do
    let inner ← factor inner
    inner.inField field

/-- The factors that several phrases stand for. -/
def factorsOf : List Phrase → Except QueryFault (List Factor)
  | [] => .ok []
  | phrase :: phrases => do
    let first ← factor phrase
    let others ← factorsOf phrases
    return first :: others

end

end Phrase

/-- The fault of a reading of `text` that stops in front of `rest`. Lines and columns count
from one, and only a line feed starts a line. -/
def QueryFault.stoppedAt (text : Text) : Text → QueryFault
  | [] => .unfinished
  | character :: rest =>
    let before := text.take (text.length - (rest.length + 1))
    let column := (before.reverse.takeWhile (fun passed => passed ≠ '\n')).length + 1
    .unexpected character (before.count '\n' + 1) column

/-- A query string that cannot be imported, as it was given, and its fault. -/
structure QueryError where
  query : Text
  fault : QueryFault
  deriving DecidableEq

/-- The message for a query error. -/
def QueryError.message (error : QueryError) : String :=
  s!"Failed to import query '{String.ofList error.query}': {error.fault.message}"

namespace Query

/-- The factors of a query in normal form. -/
def factorsOf (text : Text) : Except QueryFault (List Factor) :=
  match Phrase.ofQuery text with
  | .ok phrases => Phrase.factorsOf phrases
  | .error stopped => .error (.stoppedAt text stopped)

/-- The factors of a query string. The query is brought into normal form first; a blank one has
no factors. -/
def parse (query : Text) : Except QueryError (List Factor) :=
  match Text.trim (Text.normalized query) with
  | [] => .ok []
  | text => (factorsOf text).mapError (QueryError.mk query)

end Query

end PriorArt
