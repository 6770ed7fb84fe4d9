import PriorArt.Entity

/-!
# The catalogue

The catalogue holds the named entities of one workbook in the order of their introduction, at
most so many of each kind. Words are found by token and by key, groups of codes by token; three
indexes say which entity was stored last under each. Ids are numbered through for each kind, and
a number is never given out twice.

Storing an entity under an id in use replaces the entity in its place, whatever its kind.
-/

namespace PriorArt

/-- An index from names to ids. -/
abbrev Index := List (Text × Text)

namespace Index

/-- Let a name lead to an id. -/
def insert (index : Index) (name id : Text) : Index :=
  (name, id) :: index.filter (fun entry => entry.1 ≠ name)

/-- Let a name lead to an id unless the name is empty. -/
def insertNamed (index : Index) (name id : Text) : Index :=
  if name.isEmpty then index else index.insert name id

/-- Forget a name if it leads to the given id. -/
def release (index : Index) (name id : Text) : Index :=
  if index.lookup name = some id then index.filter (fun entry => entry.1 ≠ name) else index

end Index

/-- How many ids of each kind have been given out. -/
structure IdCounters where
  words : Nat
  classifications : Nat
  expressions : Nat
  deriving DecidableEq, Repr

/-- The counter of a kind. -/
def IdCounters.get (counters : IdCounters) : EntityKind → Nat
  | .word => counters.words
  | .classification => counters.classifications
  | .expression => counters.expressions

/-- Set the counter of a kind. -/
def IdCounters.set (counters : IdCounters) (kind : EntityKind) (number : Nat) : IdCounters :=
  match kind with
  | .word => { counters with words := number }
  | .classification => { counters with classifications := number }
  | .expression => { counters with expressions := number }

/-- Named entities with the indexes to find them. -/
structure Catalogue where
  /-- The largest number of entities of a kind. -/
  limit : Int
  entities : List Entity
  wordTokens : Index
  wordKeys : Index
  classTokens : Index
  counters : IdCounters
  deriving DecidableEq

namespace Catalogue

/-- A catalogue without entities. -/
def empty (limit : Int) : Catalogue := ⟨limit, [], [], [], [], ⟨0, 0, 0⟩⟩

/-- The entity with an id. -/
def find? (catalogue : Catalogue) (id : Text) : Option Entity :=
  catalogue.entities.find? (fun entity => entity.id = id)

/-- Whether an id is in use. -/
def contains (catalogue : Catalogue) (id : Text) : Bool := (catalogue.find? id).isSome

/-- The entities of a kind. -/
def ofKind (catalogue : Catalogue) (kind : EntityKind) : List Entity :=
  catalogue.entities.filter (fun entity => entity.kind = kind)

/-- The number of entities of a kind. -/
def count (catalogue : Catalogue) (kind : EntityKind) : Nat := (catalogue.ofKind kind).length

/-- Whether no further entity of a kind can be stored. -/
def isFull (catalogue : Catalogue) (kind : EntityKind) : Bool :=
  catalogue.limit ≤ catalogue.count kind

/-- Enter an entity into the indexes. -/
def index (catalogue : Catalogue) : Entity → Catalogue
  | .word entity =>
    { catalogue with
      wordTokens := catalogue.wordTokens.insertNamed entity.token entity.id
      wordKeys := catalogue.wordKeys.insertNamed entity.key entity.id }
  | .classification entity =>
    { catalogue with
      classTokens := catalogue.classTokens.insertNamed entity.token entity.id }
  | .expression _ => catalogue

/-- Take an entity out of the indexes, as far as they lead to it. -/
def unindex (catalogue : Catalogue) : Entity → Catalogue
  | .word entity =>
    { catalogue with
      wordTokens := catalogue.wordTokens.release entity.token entity.id
      wordKeys := catalogue.wordKeys.release entity.key entity.id }
  | .classification entity =>
    { catalogue with
      classTokens := catalogue.classTokens.release entity.token entity.id }
  | .expression _ => catalogue

/-- Put an entity in the place of the one with its id, or at the end. -/
def replaceIn (entity : Entity) : List Entity → List Entity
  | [] => [entity]
  | first :: rest => if first.id = entity.id then entity :: rest else first :: replaceIn entity rest

/-- Store an entity without regard to the limit. -/
def store (catalogue : Catalogue) (entity : Entity) : Catalogue :=
  let cleared :=
    match catalogue.find? entity.id with
    | some previous => catalogue.unindex previous
    | none => catalogue
  { cleared with entities := replaceIn entity cleared.entities }.index entity

/-- Store an entity. A new one is refused where its kind is at the limit. -/
def put? (catalogue : Catalogue) (entity : Entity) : Option Catalogue :=
  if !catalogue.contains entity.id && catalogue.isFull entity.kind then none
  else some (catalogue.store entity)

/-- Remove the entity with an id, if there is one. -/
def erase (catalogue : Catalogue) (id : Text) : Catalogue :=
  match catalogue.find? id with
  | some entity =>
    { catalogue with entities := catalogue.entities.filter (fun stored => stored.id ≠ id) }.unindex
      entity
  | none => catalogue

/-- The entity that an index leads to. An empty id leads nowhere. -/
def follow? (catalogue : Catalogue) (index : Index) (name : Text) : Option Entity :=
  match index.lookup name with
  | some id => if id.isEmpty then none else catalogue.find? id
  | none => none

/-- The word that a token stands for. -/
def wordOfToken? (catalogue : Catalogue) (token : Text) : Option WordEntity :=
  (catalogue.follow? catalogue.wordTokens token).bind Entity.word?

/-- The word stored under a key. -/
def wordOfKey? (catalogue : Catalogue) (key : Text) : Option WordEntity :=
  (catalogue.follow? catalogue.wordKeys key).bind Entity.word?

/-- The group of codes that a token stands for. -/
def classOfToken? (catalogue : Catalogue) (token : Text) : Option ClassEntity :=
  (catalogue.follow? catalogue.classTokens token).bind Entity.classification?

/-- The first group that consists of exactly these codes in this order. -/
def classOfCodes? (catalogue : Catalogue) (codes : List Text) : Option ClassEntity :=
  (catalogue.entities.filterMap Entity.classification?).find? (fun group => group.codes = codes)

/-- The first entity of a kind with a label. -/
def ofLabel? (catalogue : Catalogue) (label : Text) (kind : EntityKind) : Option Entity :=
  catalogue.entities.find? (fun entity => entity.kind = kind && entity.label = label)

/-- The first stored expression with a label. -/
def expressionOfLabel? (catalogue : Catalogue) (label : Text) : Option ExpressionEntity :=
  (catalogue.ofLabel? label .expression).bind Entity.expression?

/-- The name by which expressions show the entity with an id. The id itself stands for an
unknown entity and for one without a name. -/
def nameOf (catalogue : Catalogue) (id : Text) : Text :=
  match catalogue.find? id with
  | some entity => if entity.displayName.isEmpty then id else entity.displayName
  | none => id

/-- The id with a number. The number has at least four digits. -/
def idOf (kind : EntityKind) (number : Nat) : Text :=
  kind.idLetters.toList ++ '-' :: List.leftpad 4 '0' (decimal number)

/-- The first number behind a given one whose id is not in use. Each of the ids tried is that of
another entity, so after as many attempts as there are entities the next number is free. -/
def freeNumber (catalogue : Catalogue) (kind : EntityKind) : Nat → Nat → Nat
  | 0, last => last + 1
  | attempts + 1, last =>
    if catalogue.contains (idOf kind (last + 1)) then freeNumber catalogue kind attempts (last + 1)
    else last + 1

/-- Give out the next id of a kind. -/
def takeId (catalogue : Catalogue) (kind : EntityKind) : Text × Catalogue :=
  let number :=
    catalogue.freeNumber kind catalogue.entities.length (catalogue.counters.get kind)
  (idOf kind number, { catalogue with counters := catalogue.counters.set kind number })

/-- The id of the entity of a kind with a label, or else a new id. -/
def takeIdForLabel (catalogue : Catalogue) (label : Text) (kind : EntityKind) : Text × Catalogue :=
  match catalogue.ofLabel? label kind with
  | some entity => (entity.id, catalogue)
  | none => catalogue.takeId kind

end Catalogue

end PriorArt
