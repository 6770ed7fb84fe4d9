import PriorArt.Classification
import PriorArt.Expr.Basic
import PriorArt.Json
import PriorArt.Token

/-!
# Named entities

A workbook names three kinds of things: words, which stand for a definition of synonyms; groups
of classification codes; and expressions. Each entity has an id of its own.
-/

namespace PriorArt

/-- The kinds of entities. -/
inductive EntityKind where
  | word
  | classification
  | expression
  deriving DecidableEq, Repr

/-- The name of a kind. -/
def EntityKind.name : EntityKind → String
  | .word => "word"
  | .classification => "classification"
  | .expression => "expression"

/-- The letters in front of the number of an id. -/
def EntityKind.idLetters : EntityKind → String
  | .word => "WB"
  | .classification => "CB"
  | .expression => "EB"

/-- The kinds, in the order in which names are looked up. -/
def EntityKind.all : List EntityKind := [.word, .classification, .expression]

/-- The refusal of a document that names no kind. -/
def EntityKind.unknownMessage (document : Json) : String :=
  s!"{String.ofList document.literal} is not a valid EntityKind"

/-- The kind that a document names. -/
def EntityKind.ofJson? : Json → Option EntityKind
  | .str text => EntityKind.all.find? (fun kind => kind.name.toList = text)
  | _ => none

/-- A word, or a group of synonyms under one name. -/
structure WordEntity where
  id : Text
  label : Text
  /-- The identifier that stands for the word inside expressions. -/
  token : Text
  /-- The text that takes the place of the word in a query. -/
  definition : Text
  /-- The normalised source by which an import finds the word again. -/
  key : Text
  /-- The spellings of which the definition consists. -/
  variants : List Text
  deriving DecidableEq

/-- A group of classification codes. -/
structure ClassEntity where
  id : Text
  label : Text
  token : Text
  codes : List Text
  deriving DecidableEq

/-- A stored expression. -/
structure ExpressionEntity where
  id : Text
  label : Text
  root : Option Expr
  /-- Whether the expression searches for words alone. -/
  fitsNearness : Bool
  deriving DecidableEq

/-- A named entity. -/
inductive Entity where
  | word (entity : WordEntity)
  | classification (entity : ClassEntity)
  | expression (entity : ExpressionEntity)
  deriving DecidableEq

/-- The group of the distinct codes of a list. -/
def ClassEntity.ofCodes (id label token : Text) (codes : List Text) : ClassEntity :=
  ⟨id, label, token, distinctCodes codes⟩

/-- The union of the codes in brackets; nothing without codes. -/
def ClassEntity.union (group : ClassEntity) : Text :=
  if group.codes.isEmpty then [] else Brackets.parenthesized (Text.join '+' group.codes)

/-- The union of the codes in both classification fields; nothing without codes. -/
def ClassEntity.search (group : ClassEntity) : Text :=
  if group.codes.isEmpty then []
  else
    '[' :: group.union ++ Field.primaryClass.suffix.toList
      ++ '+' :: group.union ++ Field.furtherClass.suffix.toList ++ [']']

/-- The text that a word searches for: its definition, or its token if it has none. -/
def WordEntity.content (entity : WordEntity) : Text :=
  Text.trim (if entity.definition.isEmpty then entity.token else entity.definition)

namespace Entity

/-- The id of an entity. -/
def id : Entity → Text
  | word entity => entity.id
  | classification entity => entity.id
  | expression entity => entity.id

/-- The label of an entity. -/
def label : Entity → Text
  | word entity => entity.label
  | classification entity => entity.label
  | expression entity => entity.label

/-- The identifier that stands for an entity inside expressions; an expression has none. -/
def token : Entity → Text
  | word entity => entity.token
  | classification entity => entity.token
  | expression _ => []

/-- The kind of an entity. -/
def kind : Entity → EntityKind
  | word _ => .word
  | classification _ => .classification
  | expression _ => .expression

/-- The label of an entity, or its id if the label is empty. -/
def title (entity : Entity) : Text := if entity.label.isEmpty then entity.id else entity.label

/-- The name by which expressions show the entity. -/
def displayName (entity : Entity) : Text :=
  if entity.token.isEmpty then entity.title else entity.token

/-- The entity as a word. -/
def word? : Entity → Option WordEntity
  | word entity => some entity
  | _ => none

/-- The entity as a group of codes. -/
def classification? : Entity → Option ClassEntity
  | classification entity => some entity
  | _ => none

/-- The entity as a stored expression. -/
def expression? : Entity → Option ExpressionEntity
  | expression entity => some entity
  | _ => none

end Entity

end PriorArt
