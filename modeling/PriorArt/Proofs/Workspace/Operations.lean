import PriorArt.Proofs.Catalogue.Indexes
import PriorArt.Proofs.Workspace.Writes

/-!
# Catalogues under any operations

The operations of a catalogue may come in any order and with any entities: an entity may take the
place of one of another kind, several words may share a token or a key, and an operation may fail.
What storing and erasing preserve holds after all of them. In particular the three searches stay
sound.
-/

namespace PriorArt

/-- An operation on the catalogue of a workspace. -/
inductive Operation where
  /-- Store an entity, in the place of the one with its id if there is one. -/
  | put (entity : Entity)
  /-- Remove the entity with an id, if there is one. -/
  | erase (id : Text)
  /-- Store a word under the label and token `token`, or define it anew. -/
  | defineWord (token definition : Text)
  /-- Store a word under a key, unless there is one. -/
  | wordForKey (key : Text) (variants : List Text) (label : Text)

/-- The step that an operation takes. -/
def Operation.step : Operation → Action Unit
  | put entity => Action.put entity
  | erase id => Action.erase id
  | defineWord token definition => do
    let _ ← Action.defineWord token definition
  | wordForKey key variants label => do
    let _ ← Action.wordForKey key variants label

/-- The workspace after operations in order, of which some may have failed. -/
def afterOperations (operations : List Operation) (start : Workspace) : Workspace :=
  operations.foldl (fun before operation => (Action.runOn operation.step before).2) start

open Action

/-- Every operation preserves what writes keep, if those do that store entities of one's own
making. -/
theorem Operation.keeps {property : Catalogue → Prop} (kept : Catalogue.IsKeptByWrites property)
    (operation : Operation)
    (puts : ∀ entity, operation = .put entity → Preserves property (Action.put entity)) :
    Preserves property operation.step := by
  cases operation with
  | put entity => exact puts entity rfl
  | erase id => exact preserves_erase kept id
  | defineWord token definition =>
    exact (preserves_define_word kept token definition).bind (fun _ => preserves_pure _)
  | wordForKey key variants label =>
    exact (preserves_word_for_key kept key variants label).bind (fun _ => preserves_pure _)

/-- Every operation preserves what storing and erasing preserve. -/
theorem Operation.preserves {property : Catalogue → Prop} (stable : Catalogue.IsStable property)
    (operation : Operation) : Preserves property operation.step :=
  operation.keeps stable.kept (fun entity _ => preserves_put stable entity)

/-- What storing and erasing preserve holds after any operations. -/
theorem stable_after_operations {property : Catalogue → Prop}
    (stable : Catalogue.IsStable property) (operations : List Operation) {start : Workspace}
    (initial : property start.catalogue) :
    property (afterOperations operations start).catalogue := by
  induction operations generalizing start with
  | nil => exact initial
  | cons operation rest inductionHypothesis =>
    exact inductionHypothesis (operation.preserves stable start initial)

namespace Catalogue

/-- Each of the three searches only finds entities that are stored and have the token or the key,
and the index that it uses leads to nothing else. -/
structure SearchesSoundly (catalogue : Catalogue) : Prop where
  words : ∀ token word, catalogue.wordOfToken? token = some word →
    .word word ∈ catalogue.entities ∧ word.token = token
  keys : ∀ key word, catalogue.wordOfKey? key = some word →
    .word word ∈ catalogue.entities ∧ word.key = key
  groups : ∀ token group, catalogue.classOfToken? token = some group →
    .classification group ∈ catalogue.entities ∧ group.token = token
  onlyWords : ∀ token entity, catalogue.follow? catalogue.wordTokens token = some entity →
    ∃ word, entity = .word word ∧ catalogue.wordOfToken? token = some word
  onlyKeys : ∀ key entity, catalogue.follow? catalogue.wordKeys key = some entity →
    ∃ word, entity = .word word ∧ catalogue.wordOfKey? key = some word
  onlyGroups : ∀ token entity, catalogue.follow? catalogue.classTokens token = some entity →
    ∃ group, entity = .classification group ∧ catalogue.classOfToken? token = some group

/-- A search by way of an index is sound where the index leads to stored entities: `make` gives the
entities that are entered in the index, each under its `name`, and `select` takes them back. -/
theorem Leads.search {α : Type} {catalogue : Catalogue} {which : IndexKind}
    (leads : catalogue.Leads which) {make : α → Entity} {name : α → Text}
    (select : Entity → Option α)
    (entered : ∀ {entity text}, entity.entry? which = some text ↔
      ∃ value, entity = make value ∧ name value = text)
    (selects : ∀ value, select (make value) = some value) (text : Text) :
    (∀ value, (catalogue.follow? (catalogue.indexOf which) text).bind select = some value →
      make value ∈ catalogue.entities ∧ name value = text) ∧
    (∀ entity, catalogue.follow? (catalogue.indexOf which) text = some entity →
      ∃ value, entity = make value ∧
        (catalogue.follow? (catalogue.indexOf which) text).bind select = some value) := by
  have leadsTo : ∀ entity, catalogue.follow? (catalogue.indexOf which) text = some entity →
      ∃ value, entity = make value ∧ make value ∈ catalogue.entities ∧ name value = text := by
    intro entity followed
    obtain ⟨found, isEntered⟩ := leads.follow followed
    obtain ⟨value, rfl, named⟩ := entered.mp isEntered
    exact ⟨value, rfl, List.mem_of_find?_eq_some found, named⟩
  constructor
  · intro value found
    obtain ⟨entity, followed, selected⟩ := Option.bind_eq_some_iff.mp found
    obtain ⟨other, rfl, stored⟩ := leadsTo entity followed
    obtain rfl : other = value := Option.some.inj ((selects other).symm.trans selected)
    exact stored
  · intro entity followed
    obtain ⟨value, rfl, _⟩ := leadsTo entity followed
    exact ⟨value, rfl, by rw [followed, Option.bind_some, selects]⟩

/-- The searches are sound where the indexes lead to stored entities. -/
theorem searches_soundly {catalogue : Catalogue} (leads : ∀ which, catalogue.Leads which) :
    catalogue.SearchesSoundly := by
  have words := (leads .wordTokens).search Entity.word? entry_of_word_token (fun _ => rfl)
  have keys := (leads .wordKeys).search Entity.word? entry_of_word_key (fun _ => rfl)
  have groups :=
    (leads .classTokens).search Entity.classification? entry_of_class_token (fun _ => rfl)
  exact ⟨fun token => (words token).1, fun key => (keys key).1, fun token => (groups token).1,
    fun token => (words token).2, fun key => (keys key).2, fun token => (groups token).2⟩

end Catalogue

/-- After any operations on an empty catalogue, failing ones included, the three searches find
nothing but stored entities of their kind with the token or the key that was searched for. -/
theorem searches_soundly_after_operations (limit : Int) (tokens : TokenSource)
    (operations : List Operation) :
    (afterOperations operations
      ⟨Catalogue.empty limit, tokens⟩).catalogue.SearchesSoundly := by
  apply Catalogue.searches_soundly
  intro which
  refine stable_after_operations (Catalogue.leads_stable which) operations ?_
  intro name id led
  cases which <;> cases led

end PriorArt
