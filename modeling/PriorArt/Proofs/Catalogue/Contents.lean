import PriorArt.Catalogue

/-!
# What a catalogue stores

The contents of a catalogue are its entities, in order, and the three indexes. The limit never
changes, and the counters of ids are no part of the contents: an id may be given out and then
not be used.

The second half is about releasing a name, which erases the first entity of each of several
kinds that bears the name. It keeps the contents exactly if there is no such entity.
-/

namespace PriorArt.Catalogue

/-- The entities of a catalogue and the indexes that lead to them. -/
structure Contents where
  entities : List Entity
  wordTokens : Index
  wordKeys : Index
  classTokens : Index

/-- The contents of a catalogue. -/
def contents (catalogue : Catalogue) : Contents :=
  ⟨catalogue.entities, catalogue.wordTokens, catalogue.wordKeys, catalogue.classTokens⟩

/-- A property of the contents of a catalogue that storing and erasing preserve. -/
structure IsStable (property : Catalogue → Prop) : Prop where
  congr : ∀ {before after : Catalogue}, after.contents = before.contents → property before →
    property after
  store : ∀ {before : Catalogue} (entity : Entity), property before → property (before.store entity)
  erase : ∀ {before : Catalogue} (id : Text), property before → property (before.erase id)

/-- The same is found in catalogues with the same contents. -/
theorem find_contents {catalogue other : Catalogue} (same : other.contents = catalogue.contents) :
    other.find? = catalogue.find? := by
  have sameEntities : other.entities = catalogue.entities := congrArg Contents.entities same
  funext id
  rw [find?, sameEntities]
  rfl

/-- The same groups stand for tokens in catalogues with the same contents. -/
theorem class_of_token_contents {catalogue other : Catalogue}
    (same : other.contents = catalogue.contents) :
    other.classOfToken? = catalogue.classOfToken? := by
  have sameTokens : other.classTokens = catalogue.classTokens := congrArg Contents.classTokens same
  funext token
  rw [classOfToken?, classOfToken?, follow?, follow?, sameTokens, find_contents same]

/-- An index leads to stored entities only. -/
theorem mem_of_follow {catalogue : Catalogue} {index : Index} {name : Text} {entity : Entity}
    (found : catalogue.follow? index name = some entity) : entity ∈ catalogue.entities := by
  unfold follow? at found
  split at found
  · split at found
    · cases found
    · exact List.mem_of_find?_eq_some found
  · cases found

/-- Giving out an id keeps the contents. -/
theorem take_id_for_label_contents (catalogue : Catalogue) (label : Text) (kind : EntityKind) :
    (catalogue.takeIdForLabel label kind).2.contents = catalogue.contents := by
  unfold takeIdForLabel
  cases catalogue.ofLabel? label kind with
  | some entity => rfl
  | none => rfl

/-- Taking an entity out of the indexes keeps the entities. -/
theorem unindex_entities (catalogue : Catalogue) (entity : Entity) :
    (catalogue.unindex entity).entities = catalogue.entities := by
  cases entity with
  | word entity => rfl
  | classification entity => rfl
  | expression entity => rfl

/-- Erasing an id leaves the other entities in order. -/
theorem erase_entities (catalogue : Catalogue) (id : Text) :
    (catalogue.erase id).entities =
      catalogue.entities.filter (fun stored => stored.id ≠ id) := by
  unfold erase
  cases found : catalogue.find? id with
  | some entity => simp only [unindex_entities]
  | none =>
    have absent : ∀ entity ∈ catalogue.entities, entity.id ≠ id := by
      simpa [find?] using found
    have kept : ∀ entity ∈ catalogue.entities, decide (entity.id ≠ id) = true := by
      simpa using absent
    exact (List.filter_eq_self.mpr kept).symm

/-- Erasing the id of an entity leaves fewer entities. -/
theorem erase_shorter {catalogue : Catalogue} {entity : Entity}
    (member : entity ∈ catalogue.entities) :
    (catalogue.erase entity.id).entities.length < catalogue.entities.length := by
  rw [erase_entities]
  exact List.length_filter_lt_length_iff_exists.mpr ⟨entity, member, by simp⟩

/-- Erase the first entity of a kind that bears a name. -/
def releaseKind (name : Text) (catalogue : Catalogue) (kind : EntityKind) : Catalogue :=
  match catalogue.ofLabel? name kind with
  | some entity => catalogue.erase entity.id
  | none => catalogue

/-- The catalogue without the first entity of each kind but one that bears a name. -/
def released (catalogue : Catalogue) (name : Text) (keep : EntityKind) : Catalogue :=
  (EntityKind.all.filter (fun kind => kind ≠ keep)).foldl (releaseKind name) catalogue

/-- Releasing a name from a kind without an entity of that name changes nothing. -/
theorem release_kind_absent {name : Text} {catalogue : Catalogue} {kind : EntityKind}
    (absent : ∀ entity ∈ catalogue.entities, entity.label = name → entity.kind ≠ kind) :
    releaseKind name catalogue kind = catalogue := by
  unfold releaseKind
  cases found : catalogue.ofLabel? name kind with
  | none => rfl
  | some entity =>
    obtain ⟨sameKind, labelled⟩ : entity.kind = kind ∧ entity.label = name := by
      simpa using List.find?_some found
    exact absurd sameKind (absent entity (List.mem_of_find?_eq_some found) labelled)

/-- Releasing a name from the kind of an entity that bears it leaves fewer entities. -/
theorem release_kind_shorter {catalogue : Catalogue} {entity : Entity}
    (member : entity ∈ catalogue.entities) :
    (releaseKind entity.label catalogue entity.kind).entities.length <
      catalogue.entities.length := by
  unfold releaseKind
  cases found : catalogue.ofLabel? entity.label entity.kind with
  | none =>
    have other : ¬ (entity.kind = entity.kind ∧ entity.label = entity.label) := by
      simpa using List.find?_eq_none.mp found entity member
    exact absurd ⟨rfl, rfl⟩ other
  | some first => exact erase_shorter (List.mem_of_find?_eq_some found)

/-- Releasing a name from a kind changes nothing or leaves fewer entities. -/
theorem release_kind_same_or_shorter (name : Text) (catalogue : Catalogue) (kind : EntityKind) :
    releaseKind name catalogue kind = catalogue ∨
      (releaseKind name catalogue kind).entities.length < catalogue.entities.length := by
  by_cases absent : ∀ entity ∈ catalogue.entities, entity.label = name → entity.kind ≠ kind
  · exact .inl (release_kind_absent absent)
  · simp only [Classical.not_forall, Classical.not_not] at absent
    obtain ⟨entity, member, rfl, rfl⟩ := absent
    exact .inr (release_kind_shorter member)

/-- Releasing a name from kinds without an entity of that name changes nothing. -/
theorem release_kinds_absent {name : Text} {catalogue : Catalogue} {kinds : List EntityKind}
    (absent : ∀ entity ∈ catalogue.entities, entity.label = name → entity.kind ∉ kinds) :
    kinds.foldl (releaseKind name) catalogue = catalogue := by
  induction kinds with
  | nil => rfl
  | cons kind rest inductionHypothesis =>
    have absentKind : releaseKind name catalogue kind = catalogue := by
      apply release_kind_absent
      intro entity member labelled sameKind
      exact absent entity member labelled (by simp [sameKind])
    rw [List.foldl_cons, absentKind]
    apply inductionHypothesis
    intro entity member labelled later
    exact absent entity member labelled (by simp [later])

/-- Releasing a name from several kinds never adds entities. -/
theorem release_kinds_le (name : Text) (kinds : List EntityKind) (catalogue : Catalogue) :
    (kinds.foldl (releaseKind name) catalogue).entities.length ≤ catalogue.entities.length := by
  induction kinds generalizing catalogue with
  | nil => exact Nat.le_refl _
  | cons kind rest inductionHypothesis =>
    have later := inductionHypothesis (releaseKind name catalogue kind)
    rw [List.foldl_cons]
    rcases release_kind_same_or_shorter name catalogue kind with same | shorter
    · rwa [same] at later ⊢
    · omega

/-- Releasing a name from several kinds, of which one is the kind of an entity that bears it,
leaves fewer entities. -/
theorem release_kinds_shorter {catalogue : Catalogue} {entity : Entity}
    {kinds : List EntityKind} (member : entity ∈ catalogue.entities)
    (listed : entity.kind ∈ kinds) :
    (kinds.foldl (releaseKind entity.label) catalogue).entities.length <
      catalogue.entities.length := by
  induction kinds with
  | nil => cases listed
  | cons kind rest inductionHypothesis =>
    have later := release_kinds_le entity.label rest (releaseKind entity.label catalogue kind)
    rw [List.foldl_cons]
    rcases release_kind_same_or_shorter entity.label catalogue kind with same | shorter
    · rcases List.mem_cons.mp listed with sameKind | inRest
      · have shorter := release_kind_shorter member
        rw [sameKind, same] at shorter
        exact absurd shorter (Nat.lt_irrefl _)
      · rw [same]
        exact inductionHypothesis inRest
    · omega

/-- The kinds from which a name is released are all but one. -/
theorem mem_released_kinds (keep kind : EntityKind) :
    kind ∈ EntityKind.all.filter (fun kind => kind ≠ keep) ↔ kind ≠ keep := by
  cases kind <;> cases keep <;> decide

/-- Releasing a name changes nothing if only entities of the kept kind bear it. -/
theorem released_same {catalogue : Catalogue} {name : Text} {keep : EntityKind}
    (kept : ∀ entity ∈ catalogue.entities, entity.label = name → entity.kind = keep) :
    catalogue.released name keep = catalogue := by
  apply release_kinds_absent
  intro entity member labelled listed
  exact (mem_released_kinds keep entity.kind).mp listed (kept entity member labelled)

/-- Releasing a name keeps the contents exactly if only entities of the kept kind bear it. -/
theorem released_contents_iff (catalogue : Catalogue) (name : Text) (keep : EntityKind) :
    (catalogue.released name keep).contents = catalogue.contents ↔
      ∀ entity ∈ catalogue.entities, entity.label = name → entity.kind = keep := by
  constructor
  · intro same entity member labelled
    have sameEntities : (catalogue.released name keep).entities = catalogue.entities :=
      congrArg Contents.entities same
    by_cases kept : entity.kind = keep
    · exact kept
    · have shorter := release_kinds_shorter member
        ((mem_released_kinds keep entity.kind).mpr kept)
      rw [labelled, ← released, sameEntities] at shorter
      exact absurd shorter (Nat.lt_irrefl _)
  · intro kept
    rw [released_same kept]

end PriorArt.Catalogue
