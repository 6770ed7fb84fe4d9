import PriorArt.Workspace

/-!
# Composition of entities

Stored entities are composed into new expressions. Words and groups of codes are referred to; an
expression contributes its tree, so that a later change of it does not reach the composition.

A composition is labelled by its operator and the labels of its sources, and composing the same
sources again stores the result in the same place.
-/

namespace PriorArt.Compose

/-- The entities with the given ids. -/
def sources (ids : List Text) : Action (List Entity) := ids.mapM Action.entity

/-- At least two entities with the given ids. -/
def severalSources (ids : List Text) : Action (List Entity) :=
  if ids.length < 2 then throw (.sources (.tooFew 2)) else sources ids

/-- An entity as an operand of a composition. -/
def operand : Entity → Action Expr
  | .expression entity =>
    match entity.root with
    | some root => return root
    | none => throw (.sources .noTree)
  | .word entity => return .reference entity.id
  | .classification group => return .reference group.id

/-- What an entity searches for. -/
def contentKind (catalogue : Catalogue) : Entity → ContentKind
  | .word _ => .words
  | .classification _ => .classes
  | .expression entity =>
    match entity.root with
    | some root => catalogue.contentKind root
    | none => .empty

/-- Check that every source searches for words alone. -/
def checkNearness (sources : List Entity) : Action Unit := do
  let catalogue ← Action.catalogue
  if !sources.all (fun source => contentKind catalogue source = .words) then
    throw (.sources .codesInNearness)

/-- The label of a composition: a mark for the operator and the titles of the sources. -/
def label (mark : String) (sources : List Entity) : Text :=
  mark.toList ++ Text.join '+' (sources.map Entity.title)

/-- Store an entity as an expression of its own. -/
def single (id : Text) : Action ExpressionEntity := do
  let source ← Action.entity id
  Action.defineExpression (label "L1:" [source]) (← operand source)

/-- Store the operands of a composition under a set operator. -/
def combine (connective : Connective) (mark : String) (sources : List Entity) :
    Action ExpressionEntity := do
  match ← sources.mapM operand with
  | [] => throw (.sources (.tooFew 2))
  | first :: others =>
    Action.defineExpression (label mark sources) (.logical connective first others)

/-- Whether sources can be united: leaving those without content aside, all search for words
alone or all for codes alone. -/
def canUnite (catalogue : Catalogue) (sources : List Entity) : Bool :=
  let kinds := sources.map (contentKind catalogue)
  !kinds.contains .mixed && !(kinds.contains .words && kinds.contains .classes)

/-- The union of two or more entities. -/
def union (ids : List Text) : Action ExpressionEntity := do
  let sources ← severalSources ids
  if !canUnite (← Action.catalogue) sources then throw (.sources .mixedUnion)
  combine .or "OR:" sources

/-- The intersection of two or more entities. -/
def intersection (ids : List Text) : Action ExpressionEntity := do
  let sources ← severalSources ids
  combine .and "AND:" sources

/-- One entity near another. The sources are checked before the distance. -/
def proximity (left right : Text) (mode count : Json) : Action ExpressionEntity := do
  let leftSource ← Action.entity left
  let rightSource ← Action.entity right
  checkNearness [leftSource, rightSource]
  let leftOperand ← operand leftSource
  let rightOperand ← operand rightSource
  let distance ← Action.ofExcept .distance (Distance.ofJson mode count)
  Action.defineExpression (label "P2:" [leftSource, rightSource])
    (.proximity distance leftOperand rightOperand)

/-- Three entities together. The sources are checked before the distance. -/
def simultaneous (ids : List Text) (count : Json) : Action ExpressionEntity := do
  match ids with
  | [first, second, third] =>
    let firstSource ← Action.entity first
    let secondSource ← Action.entity second
    let thirdSource ← Action.entity third
    checkNearness [firstSource, secondSource, thirdSource]
    let firstOperand ← operand firstSource
    let secondOperand ← operand secondSource
    let thirdOperand ← operand thirdSource
    let words ← Action.ofExcept .distance (distanceCount count)
    Action.defineExpression (label "P3:" [firstSource, secondSource, thirdSource])
      (.simultaneous words firstOperand secondOperand thirdOperand)
  | _ => throw (.sources .notThree)

/-- Define each of several tokens that stands for no word as a word for itself. -/
def defineTokens : List Text → Action (List WordEntity)
  | [] => return []
  | token :: tokens => do
    if ((← Action.catalogue).wordOfToken? token).isSome then defineTokens tokens
    else
      let word ← Action.defineWord token (Brackets.parenthesized token)
      return word :: (← defineTokens tokens)

/-- Define the words of a stored expression that are not defined, in code-point order. -/
def regenerateWords (id : Text) : Action (List WordEntity) := do
  match ← Action.entity id with
  | .expression entity =>
    match entity.root with
    | some root => defineTokens (Text.sortedDistinct root.words)
    | none => return []
  | _ => throw (.sources .notAnExpression)

end PriorArt.Compose
