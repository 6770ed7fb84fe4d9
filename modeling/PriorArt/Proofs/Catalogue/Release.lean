import Mathlib.Data.List.Find
import PriorArt.Proofs.Catalogue.Ids

/-!
# Finding entities after a name was released

Releasing a name erases, of each of several kinds, the first entity that bears the name. As long as
an id tells its kind, the erasing among one kind does not touch another, so the erased entities are
those that bore the name before any of them was erased.
-/

namespace PriorArt.Catalogue

/-- Releasing a name from a kind leaves only entities that were stored before. -/
theorem mem_of_mem_release_kind {name : Text} {catalogue : Catalogue} {kind : EntityKind}
    {entity : Entity} (stored : entity ∈ (releaseKind name catalogue kind).entities) :
    entity ∈ catalogue.entities := by
  unfold releaseKind at stored
  split at stored
  · exact mem_of_mem_erase stored
  · exact stored

/-- Releasing a name from a kind keeps the counters. -/
@[simp] theorem release_kind_counters (name : Text) (catalogue : Catalogue) (kind : EntityKind) :
    (releaseKind name catalogue kind).counters = catalogue.counters := by
  unfold releaseKind
  split
  · exact erase_counters ..
  · rfl

/-- Releasing a name from a kind erases the first entity of the kind that bears it. -/
theorem find_release_kind_none_iff (name : Text) (catalogue : Catalogue) (kind : EntityKind)
    (id : Text) :
    (releaseKind name catalogue kind).find? id = none ↔
      catalogue.find? id = none ∨
        ∃ entity, catalogue.ofLabel? name kind = some entity ∧ entity.id = id := by
  unfold releaseKind
  cases catalogue.ofLabel? name kind with
  | none => simp
  | some entity =>
    simp only [find_erase, Option.some.injEq, exists_eq_left']
    split
    · next same => simp [same]
    · next different => simp [Ne.symm different]

/-- What is found after a name was released from a kind was found before. -/
theorem find_of_find_release_kind {name : Text} {catalogue : Catalogue} {kind : EntityKind}
    {id : Text} {entity : Entity}
    (found : (releaseKind name catalogue kind).find? id = some entity) :
    catalogue.find? id = some entity := by
  unfold releaseKind at found
  split at found
  · rw [find_erase] at found
    split at found
    · cases found
    · exact found
  · exact found

/-- Releasing a name from a kind keeps the ids numbered. -/
theorem IsNumbered.release_kind {catalogue : Catalogue} (numbered : catalogue.IsNumbered)
    (name : Text) (kind : EntityKind) : (releaseKind name catalogue kind).IsNumbered := by
  intro entity stored
  exact (numbered entity (mem_of_mem_release_kind stored)).mono (by rw [release_kind_counters])

/-- Erasing an entity of one kind does not change what bears a label among another kind. -/
theorem IsNumbered.of_label_release_kind {catalogue : Catalogue} (numbered : catalogue.IsNumbered)
    (name label : Text) {kind other : EntityKind} (different : other ≠ kind) :
    (releaseKind name catalogue kind).ofLabel? label other = catalogue.ofLabel? label other := by
  unfold releaseKind
  cases found : catalogue.ofLabel? name kind with
  | none => rfl
  | some erased =>
    obtain ⟨stored, rfl, _⟩ := of_label_some found
    simp only [ofLabel?, erase_entities, List.find?_filter]
    apply List.find?_congr
    intro entity inside
    by_cases sameId : entity.id = erased.id
    · have sameKind : entity.kind = erased.kind :=
        (numbered entity inside).kind_unique (sameId ▸ numbered erased stored)
      simp [sameKind, Ne.symm different]
    · simp [sameId]

/-- Releasing a name from several kinds erases the first entity of each of them that bears it. -/
theorem IsNumbered.find_release_kinds_none_iff {catalogue : Catalogue}
    (numbered : catalogue.IsNumbered) (name : Text) {kinds : List EntityKind}
    (distinct : kinds.Nodup) (id : Text) :
    (kinds.foldl (releaseKind name) catalogue).find? id = none ↔
      catalogue.find? id = none ∨
        ∃ kind ∈ kinds, ∃ entity, catalogue.ofLabel? name kind = some entity ∧ entity.id = id := by
  induction kinds generalizing catalogue with
  | nil => simp
  | cons kind rest inductionHypothesis =>
    obtain ⟨absent, distinctRest⟩ := List.nodup_cons.mp distinct
    have sameOthers : ∀ other ∈ rest,
        (releaseKind name catalogue kind).ofLabel? name other = catalogue.ofLabel? name other := by
      intro other inside
      exact numbered.of_label_release_kind name name (fun same => absent (same ▸ inside))
    rw [List.foldl_cons, inductionHypothesis (numbered.release_kind name kind) distinctRest,
      find_release_kind_none_iff]
    constructor
    · rintro ((before | ofKind) | ⟨other, inside, entity, found, same⟩)
      · exact .inl before
      · exact .inr ⟨kind, by simp, ofKind⟩
      · rw [sameOthers other inside] at found
        exact .inr ⟨other, List.mem_cons_of_mem _ inside, entity, found, same⟩
    · rintro (before | ⟨other, inside, entity, found, same⟩)
      · exact .inl (.inl before)
      · rcases List.mem_cons.mp inside with rfl | later
        · exact .inl (.inr ⟨entity, found, same⟩)
        · exact .inr ⟨other, later, entity, (sameOthers other later).trans found, same⟩

/-- What every release of a name from a kind preserves is preserved by the release. -/
theorem released_induction {motive : Catalogue → Prop} {catalogue : Catalogue} {name : Text}
    (keep : EntityKind) (initial : motive catalogue)
    (step : ∀ middle kind, motive middle → motive (releaseKind name middle kind)) :
    motive (catalogue.released name keep) := by
  unfold released
  generalize EntityKind.all.filter (fun kind => kind ≠ keep) = kinds
  induction kinds generalizing catalogue with
  | nil => exact initial
  | cons kind rest inductionHypothesis => exact inductionHypothesis (step catalogue kind initial)

/-- Releasing a name preserves what erasing preserves. -/
theorem released_of_erase {property : Catalogue → Prop}
    (erase : ∀ {before : Catalogue} (id : Text), property before → property (before.erase id))
    {catalogue : Catalogue} (holds : property catalogue) (name : Text) (keep : EntityKind) :
    property (catalogue.released name keep) := by
  apply released_induction keep holds
  intro middle kind holdsMiddle
  unfold releaseKind
  split
  · exact erase _ holdsMiddle
  · exact holdsMiddle

/-- Releasing a name leaves only entities that were stored before. -/
theorem mem_of_mem_released {catalogue : Catalogue} {name : Text} {keep : EntityKind}
    {entity : Entity} (stored : entity ∈ (catalogue.released name keep).entities) :
    entity ∈ catalogue.entities := by
  refine released_induction (motive := fun after => entity ∈ after.entities →
    entity ∈ catalogue.entities) keep (fun before => before) ?_ stored
  intro middle kind before stored
  exact before (mem_of_mem_release_kind stored)

/-- Releasing a name keeps the counters. -/
@[simp] theorem released_counters (catalogue : Catalogue) (name : Text) (keep : EntityKind) :
    (catalogue.released name keep).counters = catalogue.counters := by
  refine released_induction (motive := fun after => after.counters = catalogue.counters) keep
    rfl ?_
  intro middle kind same
  rw [release_kind_counters, same]

/-- Releasing a name keeps the ids numbered. -/
theorem IsNumbered.released {catalogue : Catalogue} (numbered : catalogue.IsNumbered)
    (name : Text) (keep : EntityKind) : (catalogue.released name keep).IsNumbered := by
  apply released_induction keep numbered
  intro middle kind numberedMiddle
  exact numberedMiddle.release_kind name kind

/-- What is found after the release of a name was found before. -/
theorem find_of_find_released {catalogue : Catalogue} {name : Text} {keep : EntityKind}
    {id : Text} {entity : Entity}
    (found : (catalogue.released name keep).find? id = some entity) :
    catalogue.find? id = some entity := by
  refine released_induction (motive := fun after => after.find? id = some entity →
    catalogue.find? id = some entity) keep (fun before => before) ?_ found
  intro middle kind before found
  exact before (find_of_find_release_kind found)

/-- An id is gone after the release of a name if it was before, or if it is that of the first
entity of another kind that bore the name. -/
theorem IsNumbered.find_released_none_iff {catalogue : Catalogue}
    (numbered : catalogue.IsNumbered) (name : Text) (keep : EntityKind) (id : Text) :
    (catalogue.released name keep).find? id = none ↔
      catalogue.find? id = none ∨
        ∃ kind, kind ≠ keep ∧
          ∃ entity, catalogue.ofLabel? name kind = some entity ∧ entity.id = id := by
  have distinct : (EntityKind.all.filter (fun kind => kind ≠ keep)).Nodup := by
    cases keep <;> decide
  rw [Catalogue.released, numbered.find_release_kinds_none_iff name distinct]
  simp only [mem_released_kinds]

end PriorArt.Catalogue
