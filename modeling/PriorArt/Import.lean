import PriorArt.Workspace

/-!
# Import of queries

An existing query becomes entities, factor by factor. A span of codes becomes a group, unless
there is a group of just these codes. Any other factor becomes a stored expression, labelled by
its logical form; where it is a union of plain words, or relates such unions by nearness, each
union becomes a word of its own, which the expression refers to. A word is stored under its key,
so that another import finds it again.

A factor that fails does not stop the others.
-/

namespace PriorArt

/-- The result of an import. -/
structure ImportReport where
  /-- The entities of the factors that did not fail, each once, in order of first occurrence. -/
  entities : List Entity
  /-- The factors that failed, counted from one, and why. -/
  errors : List (Nat × Failure)

namespace ImportReport

/-- A report on no factors. -/
def empty : ImportReport := ⟨[], []⟩

/-- Whether no factor failed. -/
def succeeded (report : ImportReport) : Bool := report.errors.isEmpty

/-- Add an entity unless one with its id is there. -/
def record (report : ImportReport) (entity : Entity) : ImportReport :=
  if report.entities.any (fun recorded => recorded.id = entity.id) then report
  else { report with entities := report.entities ++ [entity] }

/-- The messages of the factors that failed. -/
def messages (report : ImportReport) : List String :=
  report.errors.map (fun (number, failure) => s!"factor {number}: {failure.message}")

end ImportReport

namespace Import

/-- The group of codes for a span. -/
def importSpan (span : CodeSpan) : Action ClassEntity := do
  match (← Action.catalogue).classOfCodes? span.codes with
  | some group => return group
  | none =>
    Action.checkLimit .classification
    let id ← Action.takeId .classification
    let token ← Action.drawClassToken
    let group := ClassEntity.ofCodes id (span.codes.headD []) token span.codes
    Action.put (.classification group)
    return group

/-- The spellings of a word that is searched as it is typed. -/
def typedVariants (key : Text) : List Text :=
  ((Text.pieces '+' key).filter (fun word => !word.isEmpty)).eraseDups

/-- The word for a union of plain words, with all spellings of its words or only those in which
they are typed. -/
def importWord (expand : Bool) (expr : Expr) : Action WordEntity :=
  let key := Text.key expr.text
  let variants := if expand then Text.variants key else typedVariants key
  Action.wordForKey key variants (Text.labelOf variants)

/-- An operand of a factor as it is stored, with the word that it refers to if it is a union of
plain words. -/
def importOperand (expand : Bool) (expr : Expr) : Action (Expr × List Entity) := do
  if expr.isPlainUnion then
    let word ← importWord expand expr
    return (.reference word.id, [.word word])
  else return (expr, [])

/-- The expression to be stored for a factor, and the words that it refers to. -/
def importRoot (expand : Bool) : Expr → Action (Expr × List Entity)
  | .proximity distance left right => do
    let (left, leftWords) ← importOperand expand left
    let (right, rightWords) ← importOperand expand right
    return (.proximity distance left right, leftWords ++ rightWords)
  | .simultaneous count first second third => do
    let (first, firstWords) ← importOperand expand first
    let (second, secondWords) ← importOperand expand second
    let (third, thirdWords) ← importOperand expand third
    return (.simultaneous count first second third, firstWords ++ secondWords ++ thirdWords)
  | expr => importOperand expand expr

/-- The entities for a factor, the words before the expression that refers to them. -/
def importFactor (expand : Bool) : Factor → Action (List Entity)
  | .codes span => return [.classification (← importSpan span)]
  | .words expr => do
    let (root, words) ← importRoot expand expr
    let expression ← Action.defineExpression expr.text root
    return words ++ [.expression expression]

/-- Whether a failure ends an import as a whole instead of failing one factor. -/
def endsImport : Failure → Bool
  | .noKey | .noToken => true
  | _ => false

/-- Import numbered factors in order, adding to a report. -/
def importFactors (expand : Bool) (report : ImportReport) :
    List (Factor × Nat) → Action ImportReport
  | [] => return report
  | (factor, number) :: rest => do
    match ← Action.attempt (importFactor expand factor) with
    | .ok entities => importFactors expand (entities.foldl ImportReport.record report) rest
    | .error failure =>
      if endsImport failure then throw failure
      importFactors expand { report with errors := report.errors ++ [(number, failure)] } rest

/-- Import a query string. -/
def importQuery (expand : Bool) (query : Text) : Action ImportReport := do
  let factors ← Action.ofExcept .query (Query.parse query)
  importFactors expand .empty (factors.zipIdx 1)

end Import

end PriorArt
