import PriorArt.Catalogue
import PriorArt.Expr.Interchange
import PriorArt.Query.Factor
import PriorArt.Statement
import PriorArt.TokenSource
import PriorArt.Meaning

/-!
# The workspace

Workbooks, imports and compositions all work on a catalogue together with a source of tokens.
This module holds that state, the reasons for which a step of the work fails, and the steps that
the three share.

A step that fails keeps what it changed before it failed: ids that were given out and tokens
that were drawn are not given back.
-/

namespace PriorArt

/-- A fault of the entities of which an expression is to be composed. -/
inductive SourceFault where
  | tooFew (least : Nat)
  | notThree
  | mixedUnion
  | codesInNearness
  | noTree
  | notAnExpression
  deriving DecidableEq, Repr

/-- The message for a fault of the sources. -/
def SourceFault.message : SourceFault → String
  | .tooFew least => s!"Invalid sources: at least {least} entities are required"
  | .notThree => "Invalid sources: exactly three entities are required"
  | .mixedUnion =>
    "Invalid sources: OR only combines word content or classification content, not both"
  | .codesInNearness =>
    "Invalid source: classification content cannot be used in a proximity operator"
  | .noTree => "Invalid source: expression has no tree"
  | .notAnExpression => "Invalid entity: not an expression entity"

/-- Why a step of the work fails. -/
inductive Failure where
  | parse (error : ParseError)
  | codes (error : CodesError)
  | query (error : QueryError)
  /-- No further entity of the kind can be stored. -/
  | limit (kind : EntityKind) (most : Int)
  | unknownId (id : Text)
  | sources (fault : SourceFault)
  | distance (error : DistanceError)
  /-- A word cannot be stored under an empty key. -/
  | noKey
  /-- No token was free among all that were drawn. -/
  | noToken

/-- The message for a failure. -/
def Failure.message : Failure → String
  | .parse error => error.message
  | .codes error => error.message
  | .query error => error.message
  | .limit kind most =>
    s!"At most {most} {kind.name} entities can be created; remove an existing one first"
  | .unknownId id => s!"Entity not found: {String.ofList id}"
  | .sources fault => fault.message
  | .distance error => error.message
  | .noKey => "expression_key is required"
  | .noToken => "No unused token found"

/-- A catalogue and the source of tokens for it. -/
structure Workspace where
  catalogue : Catalogue
  tokens : TokenSource

/-- A step of the work. -/
abbrev Action := ExceptT Failure (StateM Workspace)

namespace Action

/-- The catalogue as it is now. -/
def catalogue : Action Catalogue := do return (← get).catalogue

/-- Change the catalogue. -/
def setCatalogue (catalogue : Catalogue) : Action Unit :=
  modify (fun workspace => { workspace with catalogue })

/-- Fail with an error of one of the readers. -/
def ofExcept {ε α : Type} (failure : ε → Failure) : Except ε α → Action α
  | .ok value => return value
  | .error error => throw (failure error)

/-- Take a step, and go on whether or not it fails. -/
def attempt {α : Type} (step : Action α) : Action (Except Failure α) := ExceptT.lift step.run

/-- Check that a further entity of a kind can be stored. -/
def checkLimit (kind : EntityKind) : Action Unit := do
  let catalogue ← catalogue
  if catalogue.isFull kind then throw (.limit kind catalogue.limit)

/-- Store an entity. -/
def put (entity : Entity) : Action Unit := do
  let catalogue ← catalogue
  match catalogue.put? entity with
  | some changed => setCatalogue changed
  | none => throw (.limit entity.kind catalogue.limit)

/-- Remove the entity with an id, if there is one. -/
def erase (id : Text) : Action Unit := do
  setCatalogue ((← catalogue).erase id)

/-- The entity with an id. -/
def entity (id : Text) : Action Entity := do
  match (← catalogue).find? id with
  | some entity => return entity
  | none => throw (.unknownId id)

/-- Give out an id. -/
def takeId (kind : EntityKind) : Action Text := do
  let (id, changed) := (← catalogue).takeId kind
  setCatalogue changed
  return id

/-- The id of the entity of a kind with a label, or else a new id. -/
def takeIdForLabel (label : Text) (kind : EntityKind) : Action Text := do
  let (id, changed) := (← catalogue).takeIdForLabel label kind
  setCatalogue changed
  return id

/-- Draw a token that is not taken. -/
def drawToken (taken : Catalogue → Text → Bool) : Action Text := do
  let workspace ← get
  let (token?, tokens) :=
    workspace.tokens.drawFree (taken workspace.catalogue) TokenSource.patience
  set { workspace with tokens }
  match token? with
  | some token => return token
  | none => throw .noToken

/-- Draw a token that stands for no word. -/
def drawWordToken : Action Text :=
  drawToken (fun catalogue token => (catalogue.wordOfToken? token).isSome)

/-- Draw a token that stands for no group of codes. -/
def drawClassToken : Action Text :=
  drawToken (fun catalogue token => (catalogue.classOfToken? token).isSome)

/-- Store a word under the label and token `token`. A word with that label is defined anew and
keeps its key and its variants. Without a definition the word stands for itself. -/
def defineWord (token definition : Text) : Action WordEntity := do
  let id ← takeIdForLabel token .word
  let (key, variants) :=
    match (← catalogue).find? id with
    | some (.word previous) => (previous.key, previous.variants)
    | _ => ([], [])
  let definition := if definition.isEmpty then Brackets.parenthesized token else definition
  let entity : WordEntity := ⟨id, token, token, definition, key, variants⟩
  put (.word entity)
  return entity

/-- The word stored under a key, or a new word under a drawn token. A new word is defined by its
spellings, or by the key if there are none, and bears the first spelling as its label. -/
def wordForKey (key : Text) (variants : List Text) (label : Text) : Action WordEntity := do
  if key.isEmpty then throw .noKey
  match (← catalogue).wordOfKey? key with
  | some stored => return stored
  | none =>
    checkLimit .word
    let id ← takeId .word
    let token ← drawWordToken
    let definition := if variants.isEmpty then key else Text.join '+' variants
    let fallback := if label.isEmpty then key else label
    let entity : WordEntity :=
      ⟨id, variants.headD fallback, token, Brackets.parenthesized definition, key, variants⟩
    put (.word entity)
    return entity

/-- Whether an expression searches for words alone. -/
def fitsNearness (expr : Expr) : Action Bool := do
  return (← catalogue).contentKind expr = .words

/-- Store an expression under a label, in the place of one with that label. -/
def defineExpression (label : Text) (root : Expr) : Action ExpressionEntity := do
  let id ← takeIdForLabel label .expression
  let entity : ExpressionEntity := ⟨id, label, some root, ← fitsNearness root⟩
  put (.expression entity)
  return entity

end Action

end PriorArt
