import PriorArt.Meaning
import PriorArt.Proofs.Catalogue.Ids
import PriorArt.Proofs.Catalogue.Indexes
import PriorArt.Proofs.Catalogue.Labels

/-!
# Additions to a catalogue

There are two ways to store an entity without taking anything from a catalogue: under an id that is
not in use, and in the place of an expression with the same label. What the searches of a catalogue
find afterwards is what they found before, up to the new entity.
-/

/-!
## Catalogues with the same contents

Giving out an id changes a counter and nothing else. In catalogues with the same contents the same
is found by way of an index, and expressions have the same parts, however deep their references go.
-/

namespace PriorArt.Catalogue

variable {before after : Catalogue}

/-- The same is followed in catalogues with the same contents. -/
theorem follow_contents (same : after.contents = before.contents)
    (which : IndexKind) (name : Text) :
    after.follow? (after.indexOf which) name = before.follow? (before.indexOf which) name := by
  have sameIndex : after.indexOf which = before.indexOf which := by
    cases which with
    | wordTokens => exact congrArg Contents.wordTokens same
    | wordKeys => exact congrArg Contents.wordKeys same
    | classTokens => exact congrArg Contents.classTokens same
  simp only [follow?, sameIndex, find_contents same]

/-- Entities have the same names in catalogues with the same contents. -/
theorem name_of_contents (same : after.contents = before.contents) :
    after.nameOf = before.nameOf := by
  funext id
  rw [nameOf, nameOf, find_contents same]

/-- Words mean the same in catalogues with the same contents. -/
theorem word_parts_contents (same : after.contents = before.contents) :
    after.wordParts = before.wordParts := by
  funext text
  have searched : after.wordOfToken? text = before.wordOfToken? text :=
    congrArg (Option.bind · Entity.word?) (follow_contents same .wordTokens text)
  rw [wordParts, wordParts, searched]

/-- References mean the same in catalogues with the same contents. -/
theorem reference_parts_contents (same : after.contents = before.contents) (depth : Nat) :
    after.referenceParts depth = before.referenceParts depth := by
  induction depth with
  | zero =>
    funext expanding id
    unfold referenceParts
    rw [find_contents same, name_of_contents same]
    rcases before.find? id with _ | ⟨word⟩ | ⟨group⟩ | ⟨_, _, root, _⟩
    · rfl
    · rfl
    · rfl
    · cases root <;> rfl
  | succ depth inductionHypothesis =>
    funext expanding id
    unfold referenceParts
    rw [find_contents same, name_of_contents same, word_parts_contents same]
    rcases before.find? id with _ | ⟨word⟩ | ⟨group⟩ | ⟨_, _, root, _⟩
    · rfl
    · rfl
    · rfl
    · cases root with
      | none => rfl
      | some root => simp only [inductionHypothesis]

/-- Expressions have the same parts in catalogues with the same contents. -/
theorem parts_contents (same : after.contents = before.contents) : after.parts = before.parts := by
  have entities : after.entities = before.entities := congrArg Contents.entities same
  funext expr
  rw [parts, parts, meaning, meaning, name_of_contents same, word_parts_contents same, entities,
    reference_parts_contents same]

end PriorArt.Catalogue

namespace PriorArt.Catalogue

/-- No two entities share an id, and the indexes lead to stored entities. -/
structure IsIndexed (catalogue : Catalogue) : Prop where
  distinct : catalogue.HasDistinctIds
  leads : ∀ which, catalogue.Leads which

/-- An empty catalogue is indexed. -/
theorem indexed_empty (limit : Int) : (empty limit).IsIndexed where
  distinct := List.nodup_nil
  leads which := by
    intro name id led
    cases which <;> cases led

/-- Erasing keeps the ids distinct. -/
theorem HasDistinctIds.erase {catalogue : Catalogue} (distinct : catalogue.HasDistinctIds)
    (id : Text) : (catalogue.erase id).HasDistinctIds := by
  rw [HasDistinctIds, erase_entities]
  exact distinct.sublist (List.filter_sublist.map Entity.id)

/-- Storing and erasing keep a catalogue indexed. -/
theorem indexed_stable : IsStable IsIndexed where
  congr := by
    intro before after same indexed
    have sameEntities : after.entities = before.entities := congrArg Contents.entities same
    refine ⟨?_, fun which => (indexed.leads which).congr same⟩
    rw [HasDistinctIds, sameEntities]
    exact indexed.distinct
  store entity indexed :=
    ⟨indexed.distinct.store entity, fun which => (indexed.leads which).store entity⟩
  erase id indexed := ⟨indexed.distinct.erase id, fun which => (indexed.leads which).erase id⟩

/-- Giving out an id keeps a catalogue indexed. -/
theorem IsIndexed.taken {catalogue : Catalogue} (indexed : catalogue.IsIndexed) (kind : EntityKind) :
    (catalogue.takeId kind).2.IsIndexed :=
  indexed_stable.congr (show (catalogue.takeId kind).2.contents = catalogue.contents from rfl) indexed

/-- The stored groups of codes. -/
def groups (catalogue : Catalogue) : List ClassEntity :=
  catalogue.entities.filterMap Entity.classification?

/-- The id under which an entity of a kind with a label is stored. -/
def idOfLabel? (catalogue : Catalogue) (label : Text) (kind : EntityKind) : Option Text :=
  (catalogue.ofLabel? label kind).map Entity.id

/-- An entity whose id no entity of a list has comes behind them. -/
theorem replaceIn_absent {entity : Entity} {entities : List Entity}
    (absent : ∀ other ∈ entities, other.id ≠ entity.id) :
    replaceIn entity entities = entities ++ [entity] := by
  induction entities with
  | nil => rfl
  | cons first rest inductionHypothesis =>
    obtain ⟨different, absentRest⟩ := List.forall_mem_cons.mp absent
    rw [replaceIn, if_neg different, inductionHypothesis absentRest, List.cons_append]

/-- An entity comes in the place of the first one with its id. -/
theorem replaceIn_present (entity : Entity) {previous : Entity} {entities : List Entity}
    (found : entities.find? (fun other => other.id = entity.id) = some previous) :
    ∃ front back, entities = front ++ previous :: back ∧
      replaceIn entity entities = front ++ entity :: back := by
  induction entities with
  | nil => cases found
  | cons first rest inductionHypothesis =>
    by_cases same : first.id = entity.id
    · rw [List.find?_cons_of_pos (by simpa using same)] at found
      obtain rfl := Option.some.inj found
      exact ⟨[], rest, rfl, by rw [replaceIn, if_pos same]; rfl⟩
    · rw [List.find?_cons_of_neg (by simpa using same)] at found
      obtain ⟨front, back, before, after⟩ := inductionHypothesis found
      exact ⟨first :: front, back, by rw [before]; rfl, by rw [replaceIn, if_neg same, after]; rfl⟩

section Fresh

variable {catalogue : Catalogue} {entity : Entity} (fresh : catalogue.find? entity.id = none)
include fresh

/-- An entity under a new id comes behind the others. -/
theorem store_fresh_entities :
    (catalogue.store entity).entities = catalogue.entities ++ [entity] := by
  rw [store_entities, replaceIn_absent ((find_none_iff ..).mp fresh)]

/-- What was found is found after an entity was stored under a new id. -/
theorem find_store_fresh {id : Text} {other : Entity} (found : catalogue.find? id = some other) :
    (catalogue.store entity).find? id = some other := by
  rw [find_store, if_neg]
  · exact found
  · rintro rfl
    cases found.symm.trans fresh

/-- What is found by a label after an entity was stored under a new id. -/
theorem of_label_store_fresh (label : Text) (kind : EntityKind) :
    (catalogue.store entity).ofLabel? label kind =
      (catalogue.ofLabel? label kind).or
        (if entity.kind = kind ∧ entity.label = label then some entity else none) := by
  rw [ofLabel?, store_fresh_entities fresh, List.find?_append, ofLabel?, List.find?_singleton]
  simp

/-- How many entities of a kind there are after an entity was stored under a new id. -/
theorem count_store_fresh (kind : EntityKind) :
    (catalogue.store entity).count kind =
      catalogue.count kind + if entity.kind = kind then 1 else 0 := by
  rw [count, ofKind, store_fresh_entities fresh, List.filter_append, List.length_append, count,
    ofKind]
  by_cases same : entity.kind = kind
  · simp [same]
  · simp [same]

/-- The groups after an entity was stored under a new id. -/
theorem groups_store_fresh :
    (catalogue.store entity).groups = catalogue.groups ++ entity.classification?.toList := by
  rw [groups, store_fresh_entities fresh, List.filterMap_append, groups]
  cases entity with
  | word word => rfl
  | expression expression => rfl
  | classification group => rfl

/-- What is found by way of an index after an entity was stored under a new id: the entity itself
under its name, and what was found before under other names. -/
theorem Leads.follow_store_fresh {which : IndexKind} (leads : catalogue.Leads which)
    (filled : entity.id ≠ []) (name : Text) :
    (catalogue.store entity).follow? ((catalogue.store entity).indexOf which) name =
      if entity.entry? which = some name ∧ name ≠ [] then some entity
      else catalogue.follow? (catalogue.indexOf which) name := by
  have unused : (catalogue.indexOf which).lookup name ≠ some entity.id := by
    intro led
    have found := leads name entity.id led
    rw [fresh] at found
    cases found
  rw [follow?, leads.lookup_store, if_neg unused]
  by_cases entered : entity.entry? which = some name ∧ name ≠ []
  · simp [entered, filled, find_store]
  · rw [if_neg entered, if_neg entered, follow?]
    cases led : (catalogue.indexOf which).lookup name with
    | none => rfl
    | some id =>
      have different : id ≠ entity.id := by
        rintro rfl
        exact unused led
      simp only [find_store, if_neg different]

end Fresh

/-- How many entities of a kind there are after an entity came in the place of another one: a kind
loses what the other one counted and gains what the new one counts. -/
theorem count_store_found {catalogue : Catalogue} {entity previous : Entity}
    (found : catalogue.find? entity.id = some previous) (kind : EntityKind) :
    (catalogue.store entity).count kind + (if previous.kind = kind then 1 else 0) =
      catalogue.count kind + (if entity.kind = kind then 1 else 0) := by
  obtain ⟨front, back, before, after⟩ := replaceIn_present entity found
  have counted : ∀ middle : Entity,
      ((front ++ middle :: back).filter (fun other => other.kind = kind)).length =
        (front.filter (fun other => other.kind = kind)).length +
          (back.filter (fun other => other.kind = kind)).length +
          if middle.kind = kind then 1 else 0 := by
    intro middle
    rw [List.filter_append, List.length_append, List.filter_cons]
    by_cases same : middle.kind = kind
    · simp only [same, decide_true, ↓reduceIte, List.length_cons]
      omega
    · simp only [same, decide_false, Bool.false_eq_true, ↓reduceIte]
      omega
  rw [count, count, ofKind, ofKind, store_entities, after, before, counted, counted]
  omega

section Redefined

variable {catalogue : Catalogue} {previous redefined : ExpressionEntity}
  (found : catalogue.find? redefined.id = some (.expression previous))
include found

/-- A redefined expression comes in the place of the expression with its id. -/
theorem redefined_entities : ∃ front back,
    catalogue.entities = front ++ .expression previous :: back ∧
      (catalogue.store (.expression redefined)).entities =
        front ++ .expression redefined :: back := by
  rw [store_entities]
  exact replaceIn_present (.expression redefined) found

/-- The groups stay when an expression is redefined. -/
theorem groups_redefined :
    (catalogue.store (.expression redefined)).groups = catalogue.groups := by
  obtain ⟨front, back, before, after⟩ := redefined_entities found
  rw [groups, groups, before, after, List.filterMap_append, List.filterMap_append]
  rfl

/-- The entities of a kind stay as many when an expression is redefined. -/
theorem count_redefined (kind : EntityKind) :
    (catalogue.store (.expression redefined)).count kind = catalogue.count kind := by
  have foundById : catalogue.find? (Entity.expression redefined).id = some (.expression previous) :=
    found
  exact Nat.add_right_cancel (count_store_found foundById kind)

/-- A label leads to the same id when an expression is redefined under its label. -/
theorem id_of_label_redefined (labelled : redefined.label = previous.label) (label : Text)
    (kind : EntityKind) :
    (catalogue.store (.expression redefined)).idOfLabel? label kind =
      catalogue.idOfLabel? label kind := by
  have sameId : previous.id = redefined.id := id_of_find found
  obtain ⟨front, back, before, after⟩ := redefined_entities found
  rw [idOfLabel?, idOfLabel?, ofLabel?, ofLabel?, before, after, List.find?_append,
    List.find?_append, List.find?_cons, List.find?_cons]
  have sameKind : (Entity.expression redefined).kind = (Entity.expression previous).kind := rfl
  have sameLabel : (Entity.expression redefined).label = (Entity.expression previous).label :=
    labelled
  rw [sameKind, sameLabel]
  cases front.find? (fun entity => entity.kind = kind && entity.label = label) with
  | some entity => rfl
  | none =>
    cases decide ((Entity.expression previous).kind = kind) &&
        decide ((Entity.expression previous).label = label) with
    | true => exact congrArg some sameId.symm
    | false => rfl

/-- The same is found by way of an index when an expression is redefined. -/
theorem Leads.follow_redefined {which : IndexKind} (leads : catalogue.Leads which) (name : Text) :
    (catalogue.store (.expression redefined)).follow?
        ((catalogue.store (.expression redefined)).indexOf which) name =
      catalogue.follow? (catalogue.indexOf which) name := by
  have unused : (catalogue.indexOf which).lookup name ≠ some redefined.id := by
    intro led
    have entered := leads name redefined.id led
    rw [found] at entered
    cases which <;> cases entered
  have notEntered : Entity.entry? (.expression redefined) which ≠ some name := by
    cases which <;> exact nofun
  rw [follow?, leads.lookup_store, if_neg (fun both => notEntered both.1)]
  rw [if_neg (show (catalogue.indexOf which).lookup name ≠
    some (Entity.expression redefined).id from unused), follow?]
  cases led : (catalogue.indexOf which).lookup name with
  | none => rfl
  | some id =>
    have different : id ≠ (Entity.expression redefined).id := by
      rintro rfl
      exact unused led
    simp only [find_store, if_neg different]

end Redefined

end PriorArt.Catalogue
