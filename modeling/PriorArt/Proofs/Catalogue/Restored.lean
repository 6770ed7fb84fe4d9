import PriorArt.Proofs.Catalogue.Additions

/-!
# Expressions that are stored again

Expressions are stored one after the other in the place of expressions with their ids. What is found
afterwards under an id is the last one of them with the id, and what was found before if there is
none. So nothing changes if the last ones are what was found before.
-/

namespace PriorArt

/-- The last of several expressions with an id. -/
def lastWith (id : Text) : List ExpressionEntity → Option ExpressionEntity
  | [] => none
  | expression :: rest => (lastWith id rest).or (if expression.id = id then some expression else none)

/-- The last expression with an id is one of them, and has the id. -/
theorem mem_of_lastWith {id : Text} {expressions : List ExpressionEntity}
    {expression : ExpressionEntity} (last : lastWith id expressions = some expression) :
    expression ∈ expressions ∧ expression.id = id := by
  induction expressions with
  | nil => cases last
  | cons first rest inductionHypothesis =>
    rw [lastWith, Option.or_eq_some_iff] at last
    rcases last with later | ⟨none, here⟩
    · obtain ⟨inside, sameId⟩ := inductionHypothesis later
      exact ⟨List.mem_cons_of_mem _ inside, sameId⟩
    · split at here
      · next sameId =>
        obtain rfl := Option.some.inj here
        exact ⟨List.mem_cons_self, sameId⟩
      · cases here

/-- There is no last expression with an id exactly if no expression has the id. -/
theorem lastWith_eq_none_iff {id : Text} {expressions : List ExpressionEntity} :
    lastWith id expressions = none ↔ ∀ expression ∈ expressions, expression.id ≠ id := by
  induction expressions with
  | nil => simp [lastWith]
  | cons first rest inductionHypothesis =>
    rw [lastWith, Option.or_eq_none_iff, inductionHypothesis, List.forall_mem_cons, and_comm]
    simp

/-- The last expression with an id among those of two lists. -/
theorem lastWith_append (id : Text) (front back : List ExpressionEntity) :
    lastWith id (front ++ back) = (lastWith id back).or (lastWith id front) := by
  induction front with
  | nil => simp [lastWith]
  | cons first rest inductionHypothesis =>
    rw [List.cons_append, lastWith, lastWith, inductionHypothesis, Option.or_assoc]

namespace Catalogue

/-- An entity comes in the place of the one with its id, and the ids stay in order. -/
theorem ids_replaceIn (entity : Entity) {previous : Entity} {entities : List Entity}
    (found : entities.find? (fun other => other.id = entity.id) = some previous) :
    (replaceIn entity entities).map Entity.id = entities.map Entity.id := by
  have sameId : previous.id = entity.id := by simpa using List.find?_some found
  obtain ⟨front, back, before, after⟩ := replaceIn_present entity found
  rw [after, before, List.map_append, List.map_append, List.map_cons, List.map_cons, sameId]

/-- Entities with distinct ids are the same if the ids are, in order, and the same is found under
each of them. -/
theorem entities_eq_of_find {left right : Catalogue} (distinct : left.HasDistinctIds)
    (ids : left.entities.map Entity.id = right.entities.map Entity.id)
    (found : ∀ id, left.find? id = right.find? id) : left.entities = right.entities := by
  have distinctRight : right.HasDistinctIds := by rwa [HasDistinctIds, ← ids]
  have lengths : left.entities.length = right.entities.length := by
    simpa using congrArg List.length ids
  apply List.ext_getElem lengths
  intro place inLeft inRight
  have sameId : (left.entities[place]).id = (right.entities[place]).id := by
    have both := congrArg (fun listed => listed[place]?) ids
    simpa [inLeft, inRight] using both
  have ofLeft := distinct.find (List.getElem_mem inLeft)
  have ofRight := distinctRight.find (List.getElem_mem inRight)
  rw [sameId, found, ofRight] at ofLeft
  exact (Option.some.inj ofLeft).symm

/-- Storing depends on the contents alone. -/
theorem store_contents {left right : Catalogue} (same : left.contents = right.contents)
    (entity : Entity) : (left.store entity).contents = (right.store entity).contents := by
  have found := congrFun (find_contents same) entity.id
  obtain ⟨limit, entities, wordTokens, wordKeys, classTokens, counters⟩ := left
  obtain ⟨limit', entities', wordTokens', wordKeys', classTokens', counters'⟩ := right
  simp only [contents, Contents.mk.injEq] at same
  obtain ⟨rfl, rfl, rfl, rfl⟩ := same
  unfold store
  rw [found]
  cases find? _ entity.id with
  | none => cases entity <;> rfl
  | some previous => cases previous <;> cases entity <;> rfl

/-- Erasing depends on the contents alone. -/
theorem erase_contents {left right : Catalogue} (same : left.contents = right.contents) (id : Text) :
    (left.erase id).contents = (right.erase id).contents := by
  have found := congrFun (find_contents same) id
  obtain ⟨limit, entities, wordTokens, wordKeys, classTokens, counters⟩ := left
  obtain ⟨limit', entities', wordTokens', wordKeys', classTokens', counters'⟩ := right
  simp only [contents, Contents.mk.injEq] at same
  obtain ⟨rfl, rfl, rfl, rfl⟩ := same
  unfold erase
  rw [found]
  cases find? _ id with
  | none => rfl
  | some previous => cases previous <;> rfl

/-- Store expressions one after the other. -/
def restore (catalogue : Catalogue) (expressions : List ExpressionEntity) : Catalogue :=
  expressions.foldl (fun changed expression => changed.store (.expression expression)) catalogue

/-- Storing expressions depends on the contents alone. -/
theorem restore_contents_congr {left right : Catalogue} (same : left.contents = right.contents)
    (expressions : List ExpressionEntity) :
    (left.restore expressions).contents = (right.restore expressions).contents := by
  induction expressions generalizing left right with
  | nil => exact same
  | cons expression rest inductionHypothesis => exact inductionHypothesis (store_contents same _)

/-- What is found after expressions were stored. -/
theorem find_restore (catalogue : Catalogue) (expressions : List ExpressionEntity) (id : Text) :
    (catalogue.restore expressions).find? id =
      ((lastWith id expressions).map Entity.expression).or (catalogue.find? id) := by
  induction expressions generalizing catalogue with
  | nil => rfl
  | cons expression rest inductionHypothesis =>
    have next : catalogue.restore (expression :: rest) =
      (catalogue.store (.expression expression)).restore rest := rfl
    rw [next, inductionHypothesis, find_store, lastWith]
    cases lastWith id rest with
    | some last => rfl
    | none =>
      by_cases same : expression.id = id
      · simp [same, Entity.id]
      · simp [same, Entity.id, Ne.symm same]

variable {catalogue : Catalogue} {expressions : List ExpressionEntity}

/-- Storing expressions in the place of expressions keeps the ids in order, and the indexes. -/
theorem restore_ids_and_indexes
    (inPlace : ∀ expression ∈ expressions, ∃ previous,
      catalogue.find? expression.id = some (.expression previous)) :
    (catalogue.restore expressions).entities.map Entity.id = catalogue.entities.map Entity.id ∧
      (catalogue.restore expressions).wordTokens = catalogue.wordTokens ∧
      (catalogue.restore expressions).wordKeys = catalogue.wordKeys ∧
      (catalogue.restore expressions).classTokens = catalogue.classTokens := by
  induction expressions generalizing catalogue with
  | nil => exact ⟨rfl, rfl, rfl, rfl⟩
  | cons expression rest inductionHypothesis =>
    obtain ⟨⟨previous, found⟩, inPlaceRest⟩ := List.forall_mem_cons.mp inPlace
    have stored : ∀ other ∈ rest, ∃ previous,
        (catalogue.store (.expression expression)).find? other.id = some (.expression previous) := by
      intro other inside
      rw [find_store]
      split
      · exact ⟨_, rfl⟩
      · exact inPlaceRest other inside
    obtain ⟨ids, wordTokens, wordKeys, classTokens⟩ := inductionHypothesis stored
    have ofStore : (catalogue.store (.expression expression)).wordTokens = catalogue.wordTokens ∧
        (catalogue.store (.expression expression)).wordKeys = catalogue.wordKeys ∧
        (catalogue.store (.expression expression)).classTokens = catalogue.classTokens := by
      unfold store
      rw [show (Entity.expression expression).id = expression.id from rfl, found]
      exact ⟨rfl, rfl, rfl⟩
    refine ⟨ids.trans ?_, wordTokens.trans ofStore.1, wordKeys.trans ofStore.2.1,
      classTokens.trans ofStore.2.2⟩
    rw [store_entities]
    exact ids_replaceIn (.expression expression) found

/-- Nothing changes if every expression comes in the place of an expression, and the last ones of
them are stored already. -/
theorem restore_contents (distinct : catalogue.HasDistinctIds)
    (stored : ∀ id expression, lastWith id expressions = some expression →
      catalogue.find? id = some (.expression expression)) :
    (catalogue.restore expressions).contents = catalogue.contents := by
  have inPlace : ∀ expression ∈ expressions, ∃ previous,
      catalogue.find? expression.id = some (.expression previous) := by
    intro expression inside
    cases last : lastWith expression.id expressions with
    | none => exact absurd rfl (lastWith_eq_none_iff.mp last expression inside)
    | some latest => exact ⟨latest, stored _ _ last⟩
  obtain ⟨ids, wordTokens, wordKeys, classTokens⟩ := restore_ids_and_indexes inPlace
  have found : ∀ id, catalogue.find? id = (catalogue.restore expressions).find? id := by
    intro id
    rw [find_restore]
    cases last : lastWith id expressions with
    | none => rfl
    | some expression => exact stored id expression last
  have entities := entities_eq_of_find distinct ids.symm found
  simp only [contents, ← entities, wordTokens, wordKeys, classTokens]

end Catalogue

end PriorArt
