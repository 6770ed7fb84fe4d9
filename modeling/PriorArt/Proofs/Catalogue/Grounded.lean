import PriorArt.Proofs.Catalogue.Additions
import PriorArt.Proofs.Workbook.References

/-!
# Grounded catalogues

In a catalogue that was built by definitions, imports and compositions, every id in use was given out
for an entity of its kind, and expressions refer to nothing but ids that were given out for words or
for groups of codes. So a reference never leads to an expression, whatever was removed in the
meantime, and a reference to a removed entity never leads anywhere again.

This is an invariant of the way ids are given out. Entities that are stored under ids of one's own
choice need not respect it.
-/

namespace PriorArt.Catalogue

/-- An id that was given out for a word or for a group of codes. -/
def HasIssuedLeaf (catalogue : Catalogue) (id : Text) : Prop :=
  catalogue.HasIssued .word id ∨ catalogue.HasIssued .classification id

/-- Every id was given out for the kind of its entity, and references are to ids of words and
groups. -/
structure IsGrounded (catalogue : Catalogue) : Prop where
  indexed : catalogue.IsIndexed
  numbered : catalogue.IsNumbered
  refers : Workbook.RefersOnlyTo catalogue.HasIssuedLeaf catalogue

/-- What a step that gives out ids makes of a grounded catalogue: it stays grounded, no counter is
lowered, and an id that was given out and is not in use does not come into use. -/
structure Advances (before after : Catalogue) : Prop where
  grounded : after.IsGrounded
  counters : ∀ kind, before.counters.get kind ≤ after.counters.get kind
  gone : ∀ kind id, before.HasIssued kind id → before.find? id = none → after.find? id = none

variable {before middle after : Catalogue}

/-- Ids of words and groups stay so when counters grow. -/
theorem HasIssuedLeaf.mono {id : Text} (issued : before.HasIssuedLeaf id)
    (grown : ∀ kind, before.counters.get kind ≤ after.counters.get kind) :
    after.HasIssuedLeaf id :=
  issued.imp (·.mono (grown .word)) (·.mono (grown .classification))

/-- The empty catalogue is grounded. -/
theorem grounded_empty (limit : Int) : (empty limit).IsGrounded where
  indexed := indexed_empty limit
  numbered := nofun
  refers := nofun

/-- An id that was given out for a word or a group does not lead to an expression. -/
theorem IsGrounded.not_expression (grounded : before.IsGrounded) {id : Text} {entity : Entity}
    (issued : middle.HasIssuedLeaf id) (found : before.find? id = some entity) :
    entity.kind ≠ .expression := by
  rcases issued with issued | issued
  · rw [grounded.numbered.kind_of_find issued found]
    exact nofun
  · rw [grounded.numbered.kind_of_find issued found]
    exact nofun

namespace Advances

/-- A step that does nothing keeps a grounded catalogue grounded. -/
theorem refl (grounded : before.IsGrounded) : before.Advances before where
  grounded := grounded
  counters _ := Nat.le_refl _
  gone _ _ _ absent := absent

/-- Two steps together keep what each of them keeps. -/
theorem trans (first : before.Advances middle) (second : middle.Advances after) :
    before.Advances after where
  grounded := second.grounded
  counters kind := Nat.le_trans (first.counters kind) (second.counters kind)
  gone kind id issued absent :=
    second.gone kind id (issued.mono (first.counters kind)) (first.gone kind id issued absent)

/-- Giving out an id does not change what is stored. -/
theorem taken (grounded : before.IsGrounded) (kind : EntityKind) :
    before.Advances (before.takeId kind).2 := by
  have counters : ∀ other,
      before.counters.get other ≤ (before.takeId kind).2.counters.get other := by
    intro other
    rw [grounded.numbered.take_id, counters_get_set]
    split
    · next same =>
      rw [same]
      exact Nat.le_succ _
    · exact Nat.le_refl _
  refine ⟨⟨?_, ?_, ?_⟩, counters, fun _ _ _ absent => absent⟩
  · exact indexed_stable.congr
      (show (before.takeId kind).2.contents = before.contents from rfl) grounded.indexed
  · intro entity stored
    exact (grounded.numbered entity stored).mono (counters entity.kind)
  · intro expression root stored rooted id inside
    exact (grounded.refers expression root stored rooted id inside).mono counters

/-- An entity may be stored under an id of its kind, either one in use or a new one, if it refers to
words and groups alone. -/
theorem store (advances : before.Advances middle) (entity : Entity)
    (issued : middle.HasIssued entity.kind entity.id)
    (inUse : ∀ kind, before.HasIssued kind entity.id → before.find? entity.id ≠ none)
    (refers : ∀ expression root, entity = .expression expression → expression.root = some root →
      ∀ id ∈ root.references, middle.HasIssuedLeaf id) :
    before.Advances (middle.store entity) := by
  have counters : ∀ kind,
      middle.counters.get kind ≤ (middle.store entity).counters.get kind := by
    intro kind
    rw [store_counters]
  refine ⟨⟨indexed_stable.store entity advances.grounded.indexed, ?_, ?_⟩, ?_, ?_⟩
  · intro other stored
    rw [store_entities] at stored
    rcases mem_replaceIn stored with rfl | earlier
    · exact issued.mono (counters _)
    · exact (advances.grounded.numbered other earlier).mono (counters _)
  · intro expression root stored rooted id inside
    rw [store_entities] at stored
    refine HasIssuedLeaf.mono ?_ counters
    rcases mem_replaceIn stored with same | earlier
    · exact refers expression root same.symm rooted id inside
    · exact advances.grounded.refers expression root earlier rooted id inside
  · intro kind
    exact Nat.le_trans (advances.counters kind) (counters kind)
  · intro kind id issuedBefore absent
    rw [find_store, if_neg]
    · exact advances.gone kind id issuedBefore absent
    · rintro rfl
      exact inUse kind issuedBefore absent

/-- An entity that refers to words and groups alone may be stored under the next id of its kind. -/
theorem new (grounded : before.IsGrounded) (entity : Entity)
    (sameId : entity.id = (before.takeId entity.kind).1)
    (refers : ∀ expression root, entity = .expression expression → expression.root = some root →
      ∀ id ∈ root.references, before.HasIssuedLeaf id) :
    before.Advances ((before.takeId entity.kind).2.store entity) := by
  have advances := taken grounded entity.kind
  rw [grounded.numbered.take_id] at sameId
  refine advances.store entity ?_ ?_ ?_
  · refine ⟨_, ?_, sameId⟩
    rw [grounded.numbered.take_id, counters_get_set, if_pos rfl]
  · rintro kind ⟨number, reached, ofId⟩
    obtain ⟨rfl, rfl⟩ := id_of_injective (sameId.symm.trans ofId)
    exact absurd reached (Nat.not_succ_le_self _)
  · intro expression root same rooted id inside
    exact (refers expression root same rooted id inside).mono advances.counters

/-- An entity that refers to words and groups alone may be stored in the place of one of its
kind. -/
theorem redefined (grounded : before.IsGrounded) (entity : Entity) {previous : Entity}
    (stored : previous ∈ before.entities) (sameKind : previous.kind = entity.kind)
    (sameId : previous.id = entity.id)
    (refers : ∀ expression root, entity = .expression expression → expression.root = some root →
      ∀ id ∈ root.references, before.HasIssuedLeaf id) :
    before.Advances (before.store entity) := by
  refine (refl grounded).store entity ?_ ?_ refers
  · rw [← sameKind, ← sameId]
    exact grounded.numbered previous stored
  · intro kind _
    rw [← sameId]
    exact find_of_stored stored

/-- An entity that refers to words and groups alone may be stored under the id for a label among
those of its kind. -/
theorem at_label (grounded : before.IsGrounded) (label : Text) (entity : Entity)
    (sameId : entity.id = (before.takeIdForLabel label entity.kind).1)
    (refers : ∀ expression root, entity = .expression expression → expression.root = some root →
      ∀ id ∈ root.references, before.HasIssuedLeaf id) :
    before.Advances ((before.takeIdForLabel label entity.kind).2.store entity) := by
  unfold takeIdForLabel at sameId ⊢
  cases found : before.ofLabel? label entity.kind with
  | none =>
    rw [found] at sameId
    exact new grounded entity sameId refers
  | some previous =>
    rw [found] at sameId
    obtain ⟨stored, sameKind, _⟩ := of_label_some found
    exact redefined grounded entity stored sameKind sameId.symm refers

/-- Removing an entity lets no reference lead elsewhere. -/
theorem erase (grounded : before.IsGrounded) (id : Text) : before.Advances (before.erase id) := by
  have counters : (before.erase id).counters = before.counters := erase_counters before id
  refine ⟨⟨indexed_stable.erase id grounded.indexed, ?_, ?_⟩, ?_, ?_⟩
  · intro entity stored
    refine (grounded.numbered entity (mem_of_mem_erase stored)).mono ?_
    rw [counters]
  · intro expression root stored rooted other inside
    refine (grounded.refers expression root (mem_of_mem_erase stored) rooted other inside).mono ?_
    intro kind
    rw [counters]
  · intro kind
    rw [counters]
  · intro kind other _ absent
    rw [find_erase]
    split
    · rfl
    · exact absent

end Advances

end PriorArt.Catalogue
