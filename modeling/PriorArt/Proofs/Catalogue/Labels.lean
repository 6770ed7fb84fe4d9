import Mathlib.Data.List.Nodup
import PriorArt.Proofs.Catalogue.Release

/-!
# Ids and labels that tell entities apart

In a catalogue of a workbook no two entities share an id, and a label belongs to one group of codes
at most and to one word or expression at most. Then storing takes the place of one entity at most,
and releasing a name takes the name from everything of the other kinds that bears it, not only from
what is found first.
-/

namespace PriorArt.Catalogue

/-- Storing an entity keeps the ids distinct. -/
theorem nodup_replaceIn {entities : List Entity} (distinct : (entities.map Entity.id).Nodup)
    (entity : Entity) : ((replaceIn entity entities).map Entity.id).Nodup := by
  induction entities with
  | nil => simp [replaceIn]
  | cons first rest inductionHypothesis =>
    obtain ⟨absent, distinctRest⟩ := List.nodup_cons.mp (List.map_cons ▸ distinct)
    rw [replaceIn]
    split
    · next same =>
      rw [List.map_cons, ← same]
      exact List.nodup_cons.mpr ⟨absent, distinctRest⟩
    · next different =>
      rw [List.map_cons]
      refine List.nodup_cons.mpr ⟨?_, inductionHypothesis distinctRest⟩
      rw [List.mem_map]
      rintro ⟨other, inside, same⟩
      rcases mem_replaceIn inside with rfl | later
      · exact different same.symm
      · exact absent (List.mem_map.mpr ⟨other, later, same⟩)

/-- The entity that was stored is stored. -/
theorem mem_replaceIn_self (entity : Entity) (entities : List Entity) :
    entity ∈ replaceIn entity entities := by
  induction entities with
  | nil => simp [replaceIn]
  | cons first rest inductionHypothesis =>
    rw [replaceIn]
    split
    · simp
    · exact List.mem_cons_of_mem _ inductionHypothesis

/-- The ids of the stored entities are distinct. -/
def HasDistinctIds (catalogue : Catalogue) : Prop := (catalogue.entities.map Entity.id).Nodup

section Distinct

variable {catalogue : Catalogue}

/-- Only one entity has an id. -/
theorem HasDistinctIds.eq_of_id (distinct : catalogue.HasDistinctIds) {entity other : Entity}
    (stored : entity ∈ catalogue.entities) (otherStored : other ∈ catalogue.entities)
    (same : entity.id = other.id) : entity = other :=
  List.inj_on_of_nodup_map distinct stored otherStored same

/-- A stored entity is the one that is found under its id. -/
theorem HasDistinctIds.find (distinct : catalogue.HasDistinctIds) {entity : Entity}
    (stored : entity ∈ catalogue.entities) : catalogue.find? entity.id = some entity := by
  obtain ⟨found, isFound⟩ := Option.ne_none_iff_exists'.mp (find_of_stored stored)
  rw [isFound, distinct.eq_of_id stored (List.mem_of_find?_eq_some isFound)
    (id_of_find isFound).symm]

/-- After an entity was stored, it is stored, and so are the entities with other ids. -/
theorem HasDistinctIds.mem_store (distinct : catalogue.HasDistinctIds) (entity other : Entity) :
    other ∈ (catalogue.store entity).entities ↔
      other = entity ∨ other ∈ catalogue.entities ∧ other.id ≠ entity.id := by
  rw [store_entities]
  constructor
  · intro stored
    by_cases sameId : other.id = entity.id
    · have distinctAfter := nodup_replaceIn distinct entity
      exact .inl (List.inj_on_of_nodup_map distinctAfter stored
        (mem_replaceIn_self entity catalogue.entities) sameId)
    · refine (mem_replaceIn stored).imp_right (fun earlier => ⟨earlier, sameId⟩)
  · rintro (rfl | ⟨stored, different⟩)
    · exact mem_replaceIn_self other catalogue.entities
    · exact mem_replaceIn_other stored different

/-- Storing keeps the ids distinct. -/
theorem HasDistinctIds.store (distinct : catalogue.HasDistinctIds) (entity : Entity) :
    (catalogue.store entity).HasDistinctIds := by
  rw [HasDistinctIds, store_entities]
  exact nodup_replaceIn distinct entity

end Distinct

/-- The entities that are stored after an id was erased. -/
theorem mem_erase_iff (catalogue : Catalogue) (id : Text) (entity : Entity) :
    entity ∈ (catalogue.erase id).entities ↔ entity ∈ catalogue.entities ∧ entity.id ≠ id := by
  simp [erase_entities]

/-- No two entities share an id, and no two groups, nor two entities that are no groups, share a
label. -/
structure IsLabelled (catalogue : Catalogue) : Prop where
  distinct : catalogue.HasDistinctIds
  labels : ∀ entity ∈ catalogue.entities, ∀ other ∈ catalogue.entities,
    entity.label = other.label → (entity.kind = .classification ↔ other.kind = .classification) →
    entity = other

namespace IsLabelled

variable {catalogue : Catalogue}

/-- The entity of a kind that is found by its label is the only one of the kind with the label. -/
theorem mem_label_iff (labelled : catalogue.IsLabelled) {label : Text} {kind : EntityKind}
    {found : Entity} (isFound : catalogue.ofLabel? label kind = some found) {entity : Entity}
    (stored : entity ∈ catalogue.entities) :
    entity = found ↔ entity.label = label ∧ entity.kind = kind := by
  obtain ⟨storedFound, kindFound, labelFound⟩ := of_label_some isFound
  constructor
  · rintro rfl
    exact ⟨labelFound, kindFound⟩
  · rintro ⟨sameLabel, sameKind⟩
    refine labelled.labels entity stored found storedFound (sameLabel.trans labelFound.symm) ?_
    rw [sameKind, kindFound]

/-- A stored entity is found by its label and its kind. -/
theorem of_label (labelled : catalogue.IsLabelled) {entity : Entity}
    (stored : entity ∈ catalogue.entities) :
    catalogue.ofLabel? entity.label entity.kind = some entity := by
  have isFound : catalogue.ofLabel? entity.label entity.kind ≠ none :=
    fun absent => by simpa using List.find?_eq_none.mp absent entity stored
  obtain ⟨found, byLabel⟩ := Option.ne_none_iff_exists'.mp isFound
  rw [byLabel, (labelled.mem_label_iff byLabel stored).mpr ⟨rfl, rfl⟩]

/-- A catalogue with fewer entities is labelled as well. -/
theorem of_sublist (labelled : catalogue.IsLabelled) {fewer : Catalogue}
    (sublist : fewer.entities.Sublist catalogue.entities) : fewer.IsLabelled where
  distinct := labelled.distinct.sublist (sublist.map Entity.id)
  labels entity stored other otherStored :=
    labelled.labels entity (sublist.subset stored) other (sublist.subset otherStored)

/-- Releasing a name from a kind takes it from every entity of the kind. -/
theorem mem_release_kind_iff (labelled : catalogue.IsLabelled) (name : Text) (kind : EntityKind)
    (entity : Entity) :
    entity ∈ (releaseKind name catalogue kind).entities ↔
      entity ∈ catalogue.entities ∧ ¬ (entity.label = name ∧ entity.kind = kind) := by
  unfold releaseKind
  cases found : catalogue.ofLabel? name kind with
  | none =>
    refine (and_iff_left_of_imp ?_).symm
    rintro stored ⟨rfl, rfl⟩
    rw [labelled.of_label stored] at found
    cases found
  | some erased =>
    rw [mem_erase_iff]
    refine and_congr_right (fun stored => not_congr ?_)
    rw [← labelled.mem_label_iff found stored]
    constructor
    · exact labelled.distinct.eq_of_id stored (of_label_some found).1
    · exact congrArg Entity.id

end IsLabelled

/-- Releasing a name from a kind leaves entities in their order. -/
theorem release_kind_sublist (name : Text) (catalogue : Catalogue) (kind : EntityKind) :
    (releaseKind name catalogue kind).entities.Sublist catalogue.entities := by
  unfold releaseKind
  split
  · rw [erase_entities]
    exact List.filter_sublist
  · exact List.Sublist.refl _

/-- Releasing a name leaves entities in their order. -/
theorem released_sublist (catalogue : Catalogue) (name : Text) (keep : EntityKind) :
    (catalogue.released name keep).entities.Sublist catalogue.entities := by
  refine released_induction (motive := fun after => after.entities.Sublist catalogue.entities) keep
    (List.Sublist.refl _) ?_
  intro middle kind fewer
  exact (release_kind_sublist name middle kind).trans fewer

namespace IsLabelled

variable {catalogue : Catalogue}

/-- Releasing a name from several kinds takes it from every entity of these kinds. -/
theorem mem_release_kinds_iff (labelled : catalogue.IsLabelled) (name : Text)
    (kinds : List EntityKind) (entity : Entity) :
    entity ∈ (kinds.foldl (releaseKind name) catalogue).entities ↔
      entity ∈ catalogue.entities ∧ ¬ (entity.label = name ∧ entity.kind ∈ kinds) := by
  induction kinds generalizing catalogue with
  | nil => simp
  | cons kind rest inductionHypothesis =>
    rw [List.foldl_cons,
      inductionHypothesis (labelled.of_sublist (release_kind_sublist name catalogue kind)),
      labelled.mem_release_kind_iff, List.mem_cons, and_assoc, ← not_or, ← and_or_left]

/-- The id that is given out for a label is that of the only entity of the kind with the label, and
no entity has it if there is none. -/
theorem take_id_for_label_iff (labelled : catalogue.IsLabelled) (numbered : catalogue.IsNumbered)
    (label : Text) (kind : EntityKind) {entity : Entity} (stored : entity ∈ catalogue.entities) :
    entity.id = (catalogue.takeIdForLabel label kind).1 ↔
      entity.label = label ∧ entity.kind = kind := by
  rcases numbered.take_id_for_label label kind with ⟨found, isFound, taken⟩ | ⟨absent, taken⟩
  · rw [taken, ← labelled.mem_label_iff isFound stored]
    constructor
    · exact labelled.distinct.eq_of_id stored (of_label_some isFound).1
    · exact congrArg Entity.id
  · rw [taken]
    constructor
    · intro same
      exact absurd same ((find_none_iff ..).mp (numbered.next_absent kind) entity stored)
    · rintro ⟨rfl, rfl⟩
      rw [labelled.of_label stored] at absent
      cases absent

/-- Releasing a name takes it from every entity of another kind. -/
theorem mem_released_iff (labelled : catalogue.IsLabelled) (name : Text) (keep : EntityKind)
    (entity : Entity) :
    entity ∈ (catalogue.released name keep).entities ↔
      entity ∈ catalogue.entities ∧ ¬ (entity.label = name ∧ entity.kind ≠ keep) := by
  rw [Catalogue.released, labelled.mem_release_kinds_iff, mem_released_kinds]

end IsLabelled

end PriorArt.Catalogue
