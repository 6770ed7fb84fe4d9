import PriorArt.Workspace

/-!
# Workbooks

A workbook is a text of statements, one to a line. Blank lines and lines that open with `#` are
passed over.

* A statement with a classification field defines a group of codes, under its name or else under
  its first code.
* Another statement with a name defines a word, if it only combines plain words that are not
  defined themselves, and a stored expression otherwise.
* A statement without a name is a query, which is written out.

A name means one thing: defining it as one kind of entity removes the entities of other kinds
that bear it. Names of groups become references, and names of expressions are replaced by the
expressions, so that a later definition does not change a statement made before. Names of words
are looked up when a query is written.

Each line is processed on its own, and one that fails does not stop the others.
-/

namespace PriorArt

/-- What a line that does not fail achieves. -/
inductive Achievement where
  | classification (id query : Text)
  | word (id query logical : Text)
  | expression (id query logical : Text)
  | query (query logical : Text)
  deriving DecidableEq, Repr

namespace Achievement

/-- The name of the kind of line. -/
def kindName : Achievement → String
  | classification .. => "classification"
  | word .. => "word"
  | expression .. => "expression"
  | query .. => "query"

/-- The id of the entity that the line defines. -/
def id? : Achievement → Option Text
  | classification id _ | word id _ _ | expression id _ _ => some id
  | query .. => none

/-- The query that the line gives. -/
def queryText : Achievement → Text
  | classification _ written | word _ written _ | expression _ written _ | query written _ =>
    written

/-- The logical form of the expression of the line, except for a group of codes. -/
def logical? : Achievement → Option Text
  | classification .. => none
  | word _ _ logical | expression _ _ logical | query _ logical => some logical

end Achievement

/-- The result of one line of a workbook. -/
structure LineReport where
  number : Nat
  text : Text
  outcome : Except Failure Achievement

namespace LineReport

/-- Whether the line did not fail. -/
def succeeded (report : LineReport) : Bool := report.outcome.isOk

/-- The message of a failed line. -/
def error? (report : LineReport) : Option String :=
  match report.outcome with
  | .ok _ => none
  | .error failure => some failure.message

/-- The achievement of a line that did not fail. -/
def achievement? (report : LineReport) : Option Achievement := report.outcome.toOption

/-- Whether the line is a query that was written out. -/
def isQuery (report : LineReport) : Bool :=
  match report.outcome with
  | .ok (.query ..) => true
  | _ => false

/-- The message of a failed line with the number of the line. -/
def numberedError? (report : LineReport) : Option String :=
  report.error?.map (fun message => s!"line {report.number}: {message}")

end LineReport

namespace Catalogue

/-- What a word of a statement means: a group of codes by its token, an expression by its label,
or else the word itself. -/
def linkWord (catalogue : Catalogue) (text : Text) : Expr :=
  match catalogue.classOfToken? text with
  | some group => .reference group.id
  | none =>
    match (catalogue.expressionOfLabel? text).bind (·.root) with
    | some root => root
    | none => .word text

/-- Resolve the names in an expression. -/
def link (catalogue : Catalogue) (expr : Expr) : Expr := expr.replaceWords catalogue.linkWord

/-- Whether an expression, its names resolved, defines `name` as a word: it has no references,
no nearness, no words that are defined themselves, except `name`, and it searches for words. -/
def definesWord (catalogue : Catalogue) (name : Text) (expr : Expr) : Bool :=
  expr.references.isEmpty
    && expr.words.all (fun text => text = name || (catalogue.wordOfToken? text).isNone)
    && !expr.containsNearness && catalogue.contentKind expr = .words

end Catalogue

namespace Workbook

/-- Remove, of each kind but one, the first entity that bears a name. -/
def releaseName (name : Text) (keep : EntityKind) : Action Unit :=
  (EntityKind.all.filter (fun kind => kind ≠ keep)).forM (fun kind => do
    match (← Action.catalogue).ofLabel? name kind with
    | some entity => Action.erase entity.id
    | none => return ())

/-- The token of a group of codes: its name, or the token that it had, or a new one. -/
def classToken (name : Option Text) (id : Text) : Action Text := do
  match name with
  | some name => return name
  | none =>
    match (← Action.catalogue).find? id with
    | some (.classification previous) =>
      if previous.token.isEmpty then Action.drawClassToken else return previous.token
    | _ => Action.drawClassToken

/-- Define a group of codes. -/
def defineClass (name : Option Text) (expr : Expr) : Action ClassEntity := do
  let codes ← Action.ofExcept .codes expr.codes
  let label := name.getD (codes.headD [])
  if name.isSome then releaseName label .classification
  let id ← Action.takeIdForLabel label .classification
  let token ← classToken name id
  let entity := ClassEntity.ofCodes id label token codes
  Action.put (.classification entity)
  return entity

/-- Define a name by an expression whose names are resolved. -/
def defineName (name : Text) (linked : Expr) : Action Entity := do
  if (← Action.catalogue).definesWord name linked then
    releaseName name .word
    return .word (← Action.defineWord name (Brackets.parenthesized linked.text))
  else
    releaseName name .expression
    return .expression (← Action.defineExpression name linked)

/-- Carry out a statement. -/
def perform (statement : Statement) : Action Achievement := do
  match statement.field with
  | some .primaryClass | some .furtherClass =>
    let group ← defineClass statement.name statement.expr
    return .classification group.id group.search
  | _ =>
    let linked := (← Action.catalogue).link statement.expr
    match statement.name with
    | none => return .query ((← Action.catalogue).query linked) statement.expr.text
    | some name =>
      let entity ← defineName name linked
      let query := (← Action.catalogue).query (.reference entity.id)
      match entity with
      | .word word => return .word word.id query statement.expr.text
      | defined => return .expression defined.id query statement.expr.text

/-- Read a line and carry it out. -/
def processLine (line : Text) : Action Achievement := do
  perform (← Action.ofExcept .parse (Statement.parse line))

/-- The outcome of a line, which may be a failure. -/
def outcomeOf (line : Text) : StateM Workspace (Except Failure Achievement) :=
  (processLine line).run

/-- Whether a line holds no statement. -/
def isPassedOver (line : Text) : Bool :=
  match line with
  | [] => true
  | first :: _ => first = '#'

/-- Process numbered lines in order. -/
def processLines : List (Text × Nat) → StateM Workspace (List LineReport)
  | [] => return []
  | (line, number) :: rest => do
    if isPassedOver line then processLines rest
    else
      let outcome ← outcomeOf line
      let reports ← processLines rest
      return ⟨number, line, outcome⟩ :: reports

/-- Process the lines of a text, which are counted from one. -/
def processText (text : Text) : StateM Workspace (List LineReport) :=
  processLines (((Text.lines text).map Text.trim).zipIdx 1)

end Workbook

end PriorArt
