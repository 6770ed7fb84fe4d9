import PriorArt.Proofs.Catalogue.Additions

/-!
# What the steps of the work do to a catalogue

A step that chooses ids itself changes a catalogue in one of four ways: it erases an entity, gives out
an id, stores an entity under the next id of its kind if there is room for it, or stores one in the
place of another of its kind. What these four keep is kept by everything that is put together from
such steps.

Entities may also be stored under ids of one's own choice, in the place of whatever has the id. A
catalogue becomes another one by storing of either sort, erasing and giving out ids.
-/

namespace PriorArt.Catalogue

/-- What a step that chooses ids itself does to a catalogue. -/
inductive Write (before : Catalogue) : Catalogue → Prop where
  | erased (id : Text) : Write before (before.erase id)
  | taken (kind : EntityKind) : Write before (before.takeId kind).2
  | new (entity : Entity) (room : before.isFull entity.kind = false)
      (sameId : entity.id = (before.takeId entity.kind).1) :
      Write before ((before.takeId entity.kind).2.store entity)
  | redefined (entity : Entity) {previous : Entity} (stored : previous ∈ before.entities)
      (sameKind : previous.kind = entity.kind) (sameId : previous.id = entity.id) :
      Write before (before.store entity)

/-- A property that holds behind every write if it held before. -/
def IsKeptByWrites (property : Catalogue → Prop) : Prop :=
  ∀ {before after : Catalogue}, Write before after → property before → property after

/-- What storing and erasing preserve is kept by writes. -/
theorem IsStable.kept {property : Catalogue → Prop} (stable : IsStable property) :
    IsKeptByWrites property := by
  intro before after write holds
  have taken : ∀ kind, property (before.takeId kind).2 := fun kind =>
    stable.congr (show (before.takeId kind).2.contents = before.contents from rfl) holds
  cases write with
  | erased id => exact stable.erase id holds
  | taken kind => exact taken kind
  | new entity => exact stable.store entity (taken entity.kind)
  | redefined entity => exact stable.store entity holds

/-- What writes keep is kept when a name is released. -/
theorem IsKeptByWrites.released {property : Catalogue → Prop} (kept : IsKeptByWrites property)
    {catalogue : Catalogue} (holds : property catalogue) (name : Text) (keep : EntityKind) :
    property (catalogue.released name keep) :=
  released_of_erase (fun id holdsBefore => kept (.erased id) holdsBefore) holds name keep

/-- Anything that can be done to a catalogue at one go. -/
inductive BasicStep (before : Catalogue) : Catalogue → Prop where
  | stored (entity : Entity) : BasicStep before (before.store entity)
  | erased (id : Text) : BasicStep before (before.erase id)
  | taken (kind : EntityKind) : BasicStep before (before.takeId kind).2

/-- One catalogue becomes another by basic steps, of which there may be none. -/
abbrev Becomes (before after : Catalogue) : Prop := Relation.ReflTransGen BasicStep before after

/-- A write is made of basic steps. -/
theorem Write.becomes {before after : Catalogue} (write : Write before after) :
    before.Becomes after := by
  cases write with
  | erased id => exact .single (.erased id)
  | taken kind => exact .single (.taken kind)
  | new entity => exact .tail (.single (.taken entity.kind)) (.stored entity)
  | redefined entity => exact .single (.stored entity)

/-- What a catalogue may become is kept by writes. -/
theorem becomes_kept (start : Catalogue) : IsKeptByWrites start.Becomes :=
  fun write became => became.trans write.becomes

/-- No basic step lowers a counter. -/
theorem BasicStep.counters_le {before after : Catalogue} (step : BasicStep before after)
    (kind : EntityKind) : before.counters.get kind ≤ after.counters.get kind := by
  cases step with
  | stored entity => rw [store_counters]
  | erased id => rw [erase_counters]
  | taken other => exact before.take_id_counters_le other kind

/-- Counters do not fall as a catalogue becomes another. -/
theorem Becomes.counters_le {before after : Catalogue} (became : before.Becomes after)
    (kind : EntityKind) : before.counters.get kind ≤ after.counters.get kind := by
  induction became with
  | refl => exact Nat.le_refl _
  | tail _ step inductionHypothesis =>
    exact Nat.le_trans inductionHypothesis (step.counters_le kind)

/-!
## Replacements in a catalogue

An entity that comes in the place of another one of its kind and label is found by this label wherever
the other one was, and no other label is affected. A name in an index that is not its own leads to what
it led to before, unless that was the other entity: then it leads nowhere.
-/

/-- An entity whose id one entity has comes in the place of this one. -/
theorem replaceIn_eq_map {entities : List Entity} (distinct : (entities.map Entity.id).Nodup)
    {entity : Entity} (inUse : ∃ previous ∈ entities, previous.id = entity.id) :
    replaceIn entity entities =
      entities.map (fun other => if other.id = entity.id then entity else other) := by
  induction entities with
  | nil => simp at inUse
  | cons first rest inductionHypothesis =>
    obtain ⟨absent, distinctRest⟩ := List.nodup_cons.mp (List.map_cons ▸ distinct)
    rw [replaceIn, List.map_cons]
    by_cases same : first.id = entity.id
    · have others : ∀ other ∈ rest, (if other.id = entity.id then entity else other) = other := by
        intro other inside
        rw [if_neg]
        intro sameOther
        exact absent (List.mem_map.mpr ⟨other, inside, sameOther.trans same.symm⟩)
      rw [if_pos same, if_pos same, List.map_congr_left others, List.map_id']
    · obtain ⟨previous, inside, sameId⟩ := inUse
      have later : previous ∈ rest :=
        (List.mem_cons.mp inside).resolve_left (fun isFirst => same (isFirst ▸ sameId))
      rw [if_neg same, if_neg same, inductionHypothesis distinctRest ⟨previous, later, sameId⟩]

/-- What is found by a label after an entity came in the place of another one of its kind and
label. -/
theorem of_label_replaced {catalogue : Catalogue} (distinct : catalogue.HasDistinctIds)
    {entity previous : Entity} (stored : previous ∈ catalogue.entities)
    (sameId : previous.id = entity.id) (sameKind : previous.kind = entity.kind)
    (sameLabel : previous.label = entity.label) (label : Text) (kind : EntityKind) :
    (catalogue.store entity).ofLabel? label kind =
      (catalogue.ofLabel? label kind).map
        (fun other => if other.id = entity.id then entity else other) := by
  rw [ofLabel?, store_entities, replaceIn_eq_map distinct ⟨previous, stored, sameId⟩,
    List.find?_map, ofLabel?]
  congr 1
  apply List.find?_congr
  intro other inside
  rw [Function.comp_apply]
  split
  · next same =>
    obtain rfl := distinct.eq_of_id inside stored (same.trans sameId.symm)
    rw [sameKind, sameLabel]
  · rfl

/-- As long as an index leads to stored entities, a name that a stored entity does not have leads to
what it led to before, unless that was the entity with its id. -/
theorem Leads.follow_store_other {catalogue : Catalogue} {which : IndexKind}
    (leads : catalogue.Leads which) {entity : Entity} {name : Text}
    (other : entity.entry? which ≠ some name) :
    (catalogue.store entity).follow? ((catalogue.store entity).indexOf which) name =
      (catalogue.follow? (catalogue.indexOf which) name).filter
        (fun found => found.id ≠ entity.id) := by
  rw [follow?, leads.lookup_store, if_neg (fun entered => other entered.1), follow?]
  cases led : (catalogue.indexOf which).lookup name with
  | none => rfl
  | some id =>
    have present := leads name id led
    cases found : catalogue.find? id with
    | none => simp [found] at present
    | some stored =>
      obtain rfl := id_of_find found
      dsimp only
      rw [found]
      by_cases same : stored.id = entity.id
      · rw [if_pos (congrArg some same)]
        dsimp only
        split
        · rfl
        · simp [Option.filter, same]
      · rw [if_neg (fun sameIds => same (Option.some.inj sameIds))]
        dsimp only
        rw [find_store, if_neg same, found]
        split
        · rfl
        · simp [Option.filter, same]

/-- A token that is not that of a stored entity stands for the word for which it stood before, unless
that was the entity with its id. -/
theorem word_of_token_store_other {catalogue : Catalogue} (leads : catalogue.Leads .wordTokens)
    {entity : Entity} {token : Text} (other : entity.entry? .wordTokens ≠ some token) :
    (catalogue.store entity).wordOfToken? token =
      (catalogue.wordOfToken? token).filter (fun found => found.id ≠ entity.id) := by
  have followed := leads.follow_store_other other
  rw [indexOf, indexOf] at followed
  rw [wordOfToken?, followed, wordOfToken?]
  cases catalogue.follow? catalogue.wordTokens token with
  | none => rfl
  | some found =>
    rw [Option.filter_some]
    cases found with
    | word word =>
      rw [Option.bind_some, Entity.word?, Option.filter_some,
        show (Entity.word word).id = word.id from rfl]
      split
      · rfl
      · rfl
    | classification group =>
      split
      · rfl
      · rfl
    | expression expression =>
      split
      · rfl
      · rfl

end PriorArt.Catalogue
