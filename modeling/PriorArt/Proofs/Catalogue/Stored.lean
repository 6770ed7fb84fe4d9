import PriorArt.Proofs.Catalogue.Contents

/-!
# Finding stored entities

What is found under an id after an entity was stored, erased or given a new id, and which entities
are stored then. Storing puts an entity under its id and changes nothing under other ids; erasing
an id leaves nothing under it and changes nothing under other ids.
-/

namespace PriorArt.Catalogue

/-- The entity that is found under an id has the id. -/
theorem id_of_find {catalogue : Catalogue} {id : Text} {entity : Entity}
    (found : catalogue.find? id = some entity) : entity.id = id := by
  simpa using List.find?_some found

/-- Nothing is found under an id exactly if no entity has it. -/
theorem find_none_iff (catalogue : Catalogue) (id : Text) :
    catalogue.find? id = none ↔ ∀ entity ∈ catalogue.entities, entity.id ≠ id := by
  simp [find?]

/-- Something is found under the id of a stored entity. -/
theorem find_of_stored {catalogue : Catalogue} {entity : Entity}
    (stored : entity ∈ catalogue.entities) : catalogue.find? entity.id ≠ none := by
  rw [Ne, find_none_iff]
  intro absent
  exact absent entity stored rfl

/-- The entity with a label is stored, of the kind, and bears the label. -/
theorem of_label_some {catalogue : Catalogue} {label : Text} {kind : EntityKind}
    {entity : Entity} (found : catalogue.ofLabel? label kind = some entity) :
    entity ∈ catalogue.entities ∧ entity.kind = kind ∧ entity.label = label := by
  refine ⟨List.mem_of_find?_eq_some found, ?_⟩
  simpa using List.find?_some found

/-- The tree of the expression with a label is that of a stored expression. -/
theorem root_of_label {catalogue : Catalogue} {label : Text} {root : Expr}
    (rooted : (catalogue.expressionOfLabel? label).bind (·.root) = some root) :
    ∃ entity, .expression entity ∈ catalogue.entities ∧ entity.root = some root := by
  obtain ⟨entity, found, ofEntity⟩ := Option.bind_eq_some_iff.mp rooted
  obtain ⟨labelled, ofLabel, isExpression⟩ := Option.bind_eq_some_iff.mp found
  have stored := (of_label_some ofLabel).1
  cases labelled with
  | word word => cases isExpression
  | classification group => cases isExpression
  | expression other =>
    obtain rfl : other = entity := Option.some.inj isExpression
    exact ⟨other, stored, ofEntity⟩

/-- Entering an entity into the indexes keeps the entities. -/
@[simp] theorem index_entities (catalogue : Catalogue) (entity : Entity) :
    (catalogue.index entity).entities = catalogue.entities := by
  cases entity with
  | word entity => rfl
  | classification entity => rfl
  | expression entity => rfl

/-- Entering an entity into the indexes keeps the counters. -/
@[simp] theorem index_counters (catalogue : Catalogue) (entity : Entity) :
    (catalogue.index entity).counters = catalogue.counters := by
  cases entity with
  | word entity => rfl
  | classification entity => rfl
  | expression entity => rfl

/-- Taking an entity out of the indexes keeps the counters. -/
@[simp] theorem unindex_counters (catalogue : Catalogue) (entity : Entity) :
    (catalogue.unindex entity).counters = catalogue.counters := by
  cases entity with
  | word entity => rfl
  | classification entity => rfl
  | expression entity => rfl

/-- The entities after one of them was stored. -/
@[simp] theorem store_entities (catalogue : Catalogue) (entity : Entity) :
    (catalogue.store entity).entities = replaceIn entity catalogue.entities := by
  unfold store
  cases catalogue.find? entity.id with
  | some previous => simp [unindex_entities]
  | none => simp

/-- Storing keeps the counters. -/
@[simp] theorem store_counters (catalogue : Catalogue) (entity : Entity) :
    (catalogue.store entity).counters = catalogue.counters := by
  unfold store
  cases catalogue.find? entity.id with
  | some previous => simp
  | none => simp

/-- Erasing keeps the counters. -/
@[simp] theorem erase_counters (catalogue : Catalogue) (id : Text) :
    (catalogue.erase id).counters = catalogue.counters := by
  unfold erase
  cases catalogue.find? id with
  | some entity => simp
  | none => rfl

/-- After storing, the entity itself and others that were there before are stored. -/
theorem mem_replaceIn {entity other : Entity} {entities : List Entity}
    (inside : other ∈ replaceIn entity entities) : other = entity ∨ other ∈ entities := by
  induction entities with
  | nil => exact .inl (by simpa [replaceIn] using inside)
  | cons first rest inductionHypothesis =>
    rw [replaceIn] at inside
    split at inside
    · rcases List.mem_cons.mp inside with same | later
      · exact .inl same
      · exact .inr (List.mem_cons_of_mem _ later)
    · rcases List.mem_cons.mp inside with same | later
      · exact .inr (by simp [same])
      · exact (inductionHypothesis later).imp_right (List.mem_cons_of_mem _)

/-- A stored entity with another id stays stored. -/
theorem mem_replaceIn_other {entity other : Entity} {entities : List Entity}
    (inside : other ∈ entities) (different : other.id ≠ entity.id) :
    other ∈ replaceIn entity entities := by
  induction entities with
  | nil => cases inside
  | cons first rest inductionHypothesis =>
    rw [replaceIn]
    split
    · next sameId =>
      rcases List.mem_cons.mp inside with same | later
      · exact absurd (same ▸ sameId) different
      · exact List.mem_cons_of_mem _ later
    · rcases List.mem_cons.mp inside with same | later
      · simp [same]
      · exact List.mem_cons_of_mem _ (inductionHypothesis later)

/-- The entity that was stored is found under its id, and under other ids what was found
before. -/
theorem find_store (catalogue : Catalogue) (entity : Entity) (id : Text) :
    (catalogue.store entity).find? id =
      if id = entity.id then some entity else catalogue.find? id := by
  simp only [find?, store_entities]
  induction catalogue.entities with
  | nil =>
    by_cases same : id = entity.id
    · simp [replaceIn, same]
    · simp [replaceIn, same, Ne.symm same]
  | cons first rest inductionHypothesis =>
    rw [replaceIn]
    by_cases same : id = entity.id
    · split
      · simp [same]
      · next different =>
        rw [List.find?_cons_of_neg (by simpa [same] using different), inductionHypothesis]
        simp [same]
    · rw [if_neg same] at inductionHypothesis ⊢
      split
      · next sameFirst =>
        rw [List.find?_cons_of_neg (by simpa using Ne.symm same),
          List.find?_cons_of_neg (by simpa [sameFirst] using Ne.symm same)]
      · rw [List.find?_cons, List.find?_cons, inductionHypothesis]

/-- Nothing is found under an id that was erased, and under other ids what was found before. -/
theorem find_erase (catalogue : Catalogue) (erased id : Text) :
    (catalogue.erase erased).find? id = if id = erased then none else catalogue.find? id := by
  simp only [find?, erase_entities]
  rw [List.find?_filter]
  split
  · next same =>
    rw [List.find?_eq_none]
    intro entity stored
    simp [same]
  · next different =>
    congr
    funext entity
    by_cases same : entity.id = id
    · simp [same, different]
    · simp [same]

/-- Erasing leaves only entities that were stored before. -/
theorem mem_of_mem_erase {catalogue : Catalogue} {id : Text} {entity : Entity}
    (stored : entity ∈ (catalogue.erase id).entities) : entity ∈ catalogue.entities := by
  rw [erase_entities] at stored
  exact (List.mem_filter.mp stored).1

/-- Storing an expression where no word and no group was keeps the tokens. -/
theorem store_expression_tokens {catalogue : Catalogue} {entity : ExpressionEntity}
    (replaced : ∀ previous, catalogue.find? entity.id = some previous →
      previous.kind = .expression) :
    (catalogue.store (.expression entity)).wordTokens = catalogue.wordTokens ∧
      (catalogue.store (.expression entity)).classTokens = catalogue.classTokens := by
  simp only [store, index, Entity.id]
  cases found : catalogue.find? entity.id with
  | none => exact ⟨rfl, rfl⟩
  | some previous =>
    cases previous with
    | word entity => cases replaced _ found
    | classification entity => cases replaced _ found
    | expression entity => exact ⟨rfl, rfl⟩

/-- The same words stand for tokens where the indexes are the same and the same words are found. -/
theorem word_of_token_congr {left right : Catalogue} (tokens : left.wordTokens = right.wordTokens)
    (words : ∀ id, (left.find? id).bind Entity.word? = (right.find? id).bind Entity.word?) :
    left.wordOfToken? = right.wordOfToken? := by
  funext token
  unfold wordOfToken? follow?
  rw [tokens]
  split
  · next id led =>
    split
    · rfl
    · exact words id
  · rfl

end PriorArt.Catalogue
