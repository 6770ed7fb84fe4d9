import PriorArt.Proofs.Catalogue.Stored

/-!
# Indexes

The three indexes of a catalogue are kept in one way. An entity is entered under its token or its
key when it is stored. It is taken out when it is replaced or erased, unless another entity took the
entry over in the meantime. The laws of this module hold for each of the indexes, and for entities
of any kind under any id: what an index leads to is stored, and is entered there under the name by
which it is found.
-/

namespace PriorArt

namespace Index

/-- What an index leads to without one of its names. -/
theorem lookup_filter (index : Index) (name other : Text) :
    (index.filter (fun entry => entry.1 ≠ name)).lookup other =
      if other = name then none else index.lookup other := by
  induction index with
  | nil => simp
  | cons entry rest inductionHypothesis =>
    obtain ⟨first, id⟩ := entry
    by_cases same : first = name
    · rw [List.filter_cons_of_neg (by simp [same]), inductionHypothesis]
      split
      · rfl
      · next different =>
        rw [List.lookup_cons, beq_eq_false_iff_ne.mpr (same ▸ different)]
    · rw [List.filter_cons_of_pos (by simp [same]), List.lookup_cons, List.lookup_cons,
        inductionHypothesis]
      by_cases found : other = first
      · simp [found, same]
      · rw [beq_eq_false_iff_ne.mpr found]

/-- After a release the name leads nowhere if it led to the id. Nothing else changes. -/
theorem lookup_release (index : Index) (name id other : Text) :
    (index.release name id).lookup other =
      if other = name ∧ index.lookup other = some id then none else index.lookup other := by
  unfold release
  by_cases led : index.lookup name = some id
  · rw [if_pos led, lookup_filter]
    by_cases same : other = name
    · simp [same, led]
    · simp [same]
  · rw [if_neg led]
    by_cases same : other = name
    · simp [same, led]
    · simp [same]

/-- After a name was entered it leads to the id, unless it is empty. Nothing else changes. -/
theorem lookup_insertNamed (index : Index) (name id other : Text) :
    (index.insertNamed name id).lookup other =
      if other = name ∧ other ≠ [] then some id else index.lookup other := by
  unfold insertNamed
  by_cases empty : name = []
  · simp +contextual [empty]
  · rw [if_neg (by simpa using empty), insert, List.lookup_cons, lookup_filter]
    by_cases same : other = name
    · simp [same, empty]
    · rw [beq_eq_false_iff_ne.mpr same]
      simp [same]

end Index

/-- The indexes of a catalogue. -/
inductive IndexKind where
  | wordTokens
  | wordKeys
  | classTokens

/-- The name under which an entity is entered into an index, if it belongs there. -/
def Entity.entry? : Entity → IndexKind → Option Text
  | .word entity, .wordTokens => some entity.token
  | .word entity, .wordKeys => some entity.key
  | .classification entity, .classTokens => some entity.token
  | _, _ => none

namespace Catalogue

/-- The entities that are entered by token of a word are words. -/
theorem entry_of_word_token {entity : Entity} {token : Text} :
    entity.entry? .wordTokens = some token ↔ ∃ word, entity = .word word ∧ word.token = token := by
  cases entity <;> simp [Entity.entry?]

/-- The entities that are entered by key are words. -/
theorem entry_of_word_key {entity : Entity} {key : Text} :
    entity.entry? .wordKeys = some key ↔ ∃ word, entity = .word word ∧ word.key = key := by
  cases entity <;> simp [Entity.entry?]

/-- The entities that are entered by token of a group are groups. -/
theorem entry_of_class_token {entity : Entity} {token : Text} :
    entity.entry? .classTokens = some token ↔
      ∃ group, entity = .classification group ∧ group.token = token := by
  cases entity <;> simp [Entity.entry?]

/-- One of the indexes of a catalogue. -/
def indexOf (catalogue : Catalogue) : IndexKind → Index
  | .wordTokens => catalogue.wordTokens
  | .wordKeys => catalogue.wordKeys
  | .classTokens => catalogue.classTokens

variable {catalogue : Catalogue} {which : IndexKind}

/-- What an index leads to after an entity was entered. -/
theorem lookup_index (catalogue : Catalogue) (entity : Entity) (which : IndexKind) (name : Text) :
    ((catalogue.index entity).indexOf which).lookup name =
      if entity.entry? which = some name ∧ name ≠ [] then some entity.id
      else (catalogue.indexOf which).lookup name := by
  cases entity <;> cases which <;>
    simp +contextual [index, indexOf, Entity.entry?, Entity.id, Index.lookup_insertNamed, eq_comm]

/-- What an index leads to after an entity was taken out. -/
theorem lookup_unindex (catalogue : Catalogue) (entity : Entity) (which : IndexKind)
    (name : Text) :
    ((catalogue.unindex entity).indexOf which).lookup name =
      if entity.entry? which = some name ∧ (catalogue.indexOf which).lookup name = some entity.id
      then none else (catalogue.indexOf which).lookup name := by
  cases entity <;> cases which <;>
    simp +contextual [unindex, indexOf, Entity.entry?, Entity.id, Index.lookup_release, eq_comm]

/-- What an index leads to after the entity under an id was taken out. -/
theorem lookup_unindex_found (catalogue : Catalogue) {id : Text} {previous : Entity}
    (found : catalogue.find? id = some previous) (which : IndexKind) (name : Text) :
    ((catalogue.unindex previous).indexOf which).lookup name =
      if (catalogue.find? id).bind (Entity.entry? · which) = some name ∧
          (catalogue.indexOf which).lookup name = some id
      then none else (catalogue.indexOf which).lookup name := by
  rw [lookup_unindex, id_of_find found, found, Option.bind_some]

/-- What an index leads to after an entity was stored. -/
theorem lookup_store (catalogue : Catalogue) (entity : Entity) (which : IndexKind) (name : Text) :
    ((catalogue.store entity).indexOf which).lookup name =
      if entity.entry? which = some name ∧ name ≠ [] then some entity.id
      else if (catalogue.find? entity.id).bind (Entity.entry? · which) = some name ∧
          (catalogue.indexOf which).lookup name = some entity.id
      then none else (catalogue.indexOf which).lookup name := by
  unfold store
  cases found : catalogue.find? entity.id with
  | some previous =>
    have cleared := lookup_unindex_found catalogue found which name
    rw [found] at cleared
    simp only [lookup_index]
    rw [← cleared]
    cases which <;> rfl
  | none =>
    simp only [lookup_index]
    simp only [Option.bind_none, reduceCtorEq, false_and, ↓reduceIte]
    cases which <;> rfl

/-- What an index leads to after an id was erased. -/
theorem lookup_erase (catalogue : Catalogue) (id : Text) (which : IndexKind) (name : Text) :
    ((catalogue.erase id).indexOf which).lookup name =
      if (catalogue.find? id).bind (Entity.entry? · which) = some name ∧
          (catalogue.indexOf which).lookup name = some id
      then none else (catalogue.indexOf which).lookup name := by
  unfold erase
  cases found : catalogue.find? id with
  | some previous =>
    have cleared := lookup_unindex_found catalogue found which name
    rw [found] at cleared
    dsimp only
    rw [← cleared]
    cases previous <;> cases which <;> rfl
  | none => simp

/-- What an index leads to is stored, and is entered there under the name. -/
def Leads (which : IndexKind) (catalogue : Catalogue) : Prop :=
  ∀ name id, (catalogue.indexOf which).lookup name = some id →
    (catalogue.find? id).bind (Entity.entry? · which) = some name

/-- As long as an index leads to stored entities, storing an entity takes all entries of the one in
whose place it comes. -/
theorem Leads.lookup_store (leads : catalogue.Leads which) (entity : Entity) (name : Text) :
    ((catalogue.store entity).indexOf which).lookup name =
      if entity.entry? which = some name ∧ name ≠ [] then some entity.id
      else if (catalogue.indexOf which).lookup name = some entity.id then none
      else (catalogue.indexOf which).lookup name := by
  simp only [Catalogue.lookup_store, and_iff_right_of_imp (leads name entity.id)]

/-- As long as an index leads to stored entities, erasing an id takes all entries of its entity. -/
theorem Leads.lookup_erase (leads : catalogue.Leads which) (id name : Text) :
    ((catalogue.erase id).indexOf which).lookup name =
      if (catalogue.indexOf which).lookup name = some id then none
      else (catalogue.indexOf which).lookup name := by
  simp only [Catalogue.lookup_erase, and_iff_right_of_imp (leads name id)]

/-- After an entity was stored an index leads to stored entities. -/
theorem Leads.store (leads : catalogue.Leads which) (entity : Entity) :
    (catalogue.store entity).Leads which := by
  intro name id led
  rw [leads.lookup_store] at led
  rw [find_store]
  split at led
  · next entered =>
    rw [if_pos (Option.some.inj led).symm, Option.bind_some]
    exact entered.1
  · split at led
    · cases led
    · next other =>
      have different : id ≠ entity.id := by
        rintro rfl
        exact other led
      rw [if_neg different]
      exact leads name id led

/-- After an id was erased an index leads to stored entities. -/
theorem Leads.erase (leads : catalogue.Leads which) (id : Text) :
    (catalogue.erase id).Leads which := by
  intro name other led
  rw [leads.lookup_erase] at led
  split at led
  · cases led
  · next kept =>
    have different : other ≠ id := by
      rintro rfl
      exact kept led
    rw [find_erase, if_neg different]
    exact leads name other led

/-- Catalogues with the same contents have the same indexes. -/
theorem Leads.congr {other : Catalogue} (leads : catalogue.Leads which)
    (same : other.contents = catalogue.contents) : other.Leads which := by
  have sameEntities : other.entities = catalogue.entities := congrArg Contents.entities same
  have sameIndex : other.indexOf which = catalogue.indexOf which := by
    cases which with
    | wordTokens => exact congrArg Contents.wordTokens same
    | wordKeys => exact congrArg Contents.wordKeys same
    | classTokens => exact congrArg Contents.classTokens same
  intro name id led
  rw [sameIndex] at led
  rw [find?, sameEntities]
  exact leads name id led

/-- Storing and erasing keep an index leading to stored entities. -/
theorem leads_stable (which : IndexKind) : IsStable (Leads which) where
  congr same leads := leads.congr same
  store entity leads := leads.store entity
  erase id leads := leads.erase id

/-- What is found by way of an index is stored, and is entered there under the name. -/
theorem Leads.follow (leads : catalogue.Leads which) {name : Text} {entity : Entity}
    (found : catalogue.follow? (catalogue.indexOf which) name = some entity) :
    catalogue.find? entity.id = some entity ∧ entity.entry? which = some name := by
  unfold follow? at found
  split at found
  · next id led =>
    split at found
    · cases found
    · have entered := leads name id led
      rw [found, Option.bind_some] at entered
      rw [id_of_find found]
      exact ⟨found, entered⟩
  · cases found

end Catalogue

end PriorArt
