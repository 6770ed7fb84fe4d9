import PriorArt.Proofs.Catalogue.Additions

/-!
# Growth of a catalogue

A catalogue grows if entities are added to it without taking anything away, except that the tree of
an expression may change. Whatever a search found is found afterwards as well. What it did not find
may be found afterwards, but not where there was no room: once the kind is full, a search for it has
the same result for ever.
-/

namespace PriorArt.Catalogue

/-- Storing keeps the limit. -/
theorem store_limit (catalogue : Catalogue) (entity : Entity) :
    (catalogue.store entity).limit = catalogue.limit := by
  unfold store
  cases catalogue.find? entity.id with
  | none => cases entity <;> rfl
  | some previous => cases previous <;> cases entity <;> rfl

section Fresh

variable {catalogue : Catalogue} {entity : Entity} (fresh : catalogue.find? entity.id = none)
include fresh

/-- The search for a group by codes gives the same after an entity was stored under a new id, if it
found a group or the entity is none. -/
theorem class_of_codes_store_fresh {codes : List Text}
    (settled : catalogue.classOfCodes? codes ≠ none ∨ entity.kind ≠ .classification) :
    (catalogue.store entity).classOfCodes? codes = catalogue.classOfCodes? codes := by
  change (catalogue.store entity).groups.find? _ = catalogue.groups.find? _
  rw [groups_store_fresh fresh, List.find?_append]
  rcases settled with found | other
  · obtain ⟨group, isFound⟩ := Option.ne_none_iff_exists'.mp found
    change catalogue.groups.find? _ = some group at isFound
    rw [isFound]
    rfl
  · have noGroup : entity.classification? = none := by
      cases entity with
      | word word => rfl
      | expression expression => rfl
      | classification group => exact absurd rfl other
    rw [noGroup]
    simp

/-- The search for an id by a label gives the same after an entity was stored under a new id, if it
found one or the entity is of another kind. -/
theorem id_of_label_store_fresh {label : Text} {kind : EntityKind}
    (settled : catalogue.idOfLabel? label kind ≠ none ∨ entity.kind ≠ kind) :
    (catalogue.store entity).idOfLabel? label kind = catalogue.idOfLabel? label kind := by
  rw [idOfLabel?, of_label_store_fresh fresh, idOfLabel?]
  rcases settled with found | other
  · cases isFound : catalogue.ofLabel? label kind with
    | none => simp [idOfLabel?, isFound] at found
    | some labelled => rfl
  · rw [if_neg (fun same => other same.1), Option.or_none]

/-- A name that is not that of an entity leads to the same word after the entity was stored under a
new id. -/
theorem word_of_name_store_fresh {which : IndexKind} (leads : catalogue.Leads which)
    (filled : entity.id ≠ []) {name : Text} (other : entity.entry? which ≠ some name) :
    ((catalogue.store entity).follow? ((catalogue.store entity).indexOf which) name).bind
        Entity.word? =
      (catalogue.follow? (catalogue.indexOf which) name).bind Entity.word? := by
  rw [leads.follow_store_fresh fresh filled name, if_neg (fun entered => other entered.1)]

end Fresh

/-- What stays when a catalogue grows. -/
structure GrowsTo (before after : Catalogue) : Prop where
  limit : after.limit = before.limit
  count : ∀ kind, before.count kind ≤ after.count kind
  /-- Entities other than expressions stay as they are. -/
  kept : ∀ id entity, before.find? id = some entity → entity.kind ≠ .expression →
    after.find? id = some entity
  /-- Expressions stay expressions with the same label. -/
  relabelled : ∀ id expression, before.find? id = some (.expression expression) →
    ∃ later, after.find? id = some (.expression later) ∧ later.label = expression.label
  keys : ∀ key, before.wordOfKey? key ≠ none ∨ before.isFull .word = true →
    after.wordOfKey? key = before.wordOfKey? key
  codes : ∀ codes, before.classOfCodes? codes ≠ none ∨ before.isFull .classification = true →
    after.classOfCodes? codes = before.classOfCodes? codes
  labels : ∀ label, before.idOfLabel? label .expression ≠ none ∨
      before.isFull .expression = true →
    after.idOfLabel? label .expression = before.idOfLabel? label .expression
  /-- A token leads to another word only if it is that of a new word. -/
  tokens : ∀ token, (∀ word, .word word ∈ after.entities → before.find? word.id = none →
      word.token ≠ token) →
    after.wordOfToken? token = before.wordOfToken? token

namespace GrowsTo

variable {before middle after : Catalogue}

/-- A kind that was full is full. -/
theorem full (grows : before.GrowsTo after) {kind : EntityKind}
    (full : before.isFull kind = true) : after.isFull kind = true := by
  have more := grows.count kind
  simp only [isFull, decide_eq_true_eq, grows.limit] at full ⊢
  omega

/-- What is in use stays in use. -/
theorem found (grows : before.GrowsTo after) {id : Text} (found : before.find? id ≠ none) :
    after.find? id ≠ none := by
  obtain ⟨entity, isFound⟩ := Option.ne_none_iff_exists'.mp found
  by_cases isExpression : entity.kind = .expression
  · cases entity with
    | word word => cases isExpression
    | classification group => cases isExpression
    | expression expression =>
      obtain ⟨later, foundLater, _⟩ := grows.relabelled id expression isFound
      simp [foundLater]
  · simp [grows.kept id entity isFound isExpression]

/-- A catalogue grows to one with the same contents. -/
theorem of_contents (limit : after.limit = before.limit)
    (same : after.contents = before.contents) : before.GrowsTo after := by
  have sameEntities : after.entities = before.entities := congrArg Contents.entities same
  have sameFound : after.find? = before.find? := find_contents same
  constructor
  case limit => exact limit
  case count =>
    intro kind
    rw [Catalogue.count, Catalogue.count, ofKind, ofKind, sameEntities]
  case kept =>
    intro id entity found _
    rwa [sameFound]
  case relabelled =>
    intro id expression found
    exact ⟨expression, by rwa [sameFound], rfl⟩
  case keys =>
    intro key _
    exact congrArg (Option.bind · Entity.word?) (follow_contents same .wordKeys key)
  case codes =>
    intro codes _
    rw [classOfCodes?, classOfCodes?, sameEntities]
  case labels =>
    intro label _
    rw [idOfLabel?, idOfLabel?, ofLabel?, ofLabel?, sameEntities]
  case tokens =>
    intro token _
    exact congrArg (Option.bind · Entity.word?) (follow_contents same .wordTokens token)

/-- A catalogue grows to itself. -/
theorem refl (catalogue : Catalogue) : catalogue.GrowsTo catalogue := of_contents rfl rfl

/-- What grows in two steps grows. -/
theorem trans (first : before.GrowsTo middle) (distinct : middle.HasDistinctIds)
    (second : middle.GrowsTo after) : before.GrowsTo after := by
  constructor
  case limit => exact second.limit.trans first.limit
  case count => exact fun kind => Nat.le_trans (first.count kind) (second.count kind)
  case kept =>
    intro id entity found other
    exact second.kept id entity (first.kept id entity found other) other
  case relabelled =>
    intro id expression found
    obtain ⟨next, foundNext, sameNext⟩ := first.relabelled id expression found
    obtain ⟨last, foundLast, sameLast⟩ := second.relabelled id next foundNext
    exact ⟨last, foundLast, sameLast.trans sameNext⟩
  case keys =>
    intro key settled
    have same := first.keys key settled
    rw [← same] at settled ⊢
    exact second.keys key (settled.imp_right first.full)
  case codes =>
    intro codes settled
    have same := first.codes codes settled
    rw [← same] at settled ⊢
    exact second.codes codes (settled.imp_right first.full)
  case labels =>
    intro label settled
    have same := first.labels label settled
    rw [← same] at settled ⊢
    exact second.labels label (settled.imp_right first.full)
  case tokens =>
    intro token foreign
    rw [second.tokens token, first.tokens token]
    · intro word stored fresh
      have kept := second.kept word.id (.word word) (distinct.find stored) nofun
      exact foreign word (List.mem_of_find?_eq_some kept) fresh
    · intro word stored fresh
      refine foreign word stored ?_
      by_contra found
      exact first.found found fresh

/-- A catalogue grows when an entity is stored under a new id, if there was room for it and, in the
case of a word, no other word has its key. -/
theorem of_fresh (indexed : before.IsIndexed) {entity : Entity}
    (fresh : before.find? entity.id = none) (filled : entity.id ≠ [])
    (room : before.isFull entity.kind = false)
    (unkeyed : ∀ word, entity = .word word → before.wordOfKey? word.key = none) :
    before.GrowsTo (before.store entity) := by
  have sameKind : ∀ {kind}, before.isFull kind = true → entity.kind ≠ kind := by
    rintro kind full rfl
    rw [room] at full
    cases full
  have stored : (before.store entity).entities = before.entities ++ [entity] :=
    store_fresh_entities fresh
  constructor
  case limit => exact store_limit before entity
  case count =>
    intro kind
    rw [count_store_fresh fresh]
    exact Nat.le_add_right _ _
  case kept => exact fun id other found _ => find_store_fresh fresh found
  case relabelled =>
    exact fun id expression found => ⟨expression, find_store_fresh fresh found, rfl⟩
  case keys =>
    intro key settled
    refine word_of_name_store_fresh fresh (indexed.leads .wordKeys) filled (fun entered => ?_)
    obtain ⟨word, rfl, rfl⟩ := entry_of_word_key.mp entered
    rcases settled with found | full
    · exact found (unkeyed word rfl)
    · exact sameKind full rfl
  case codes =>
    exact fun codes settled => class_of_codes_store_fresh fresh (settled.imp_right sameKind)
  case labels =>
    exact fun label settled => id_of_label_store_fresh fresh (settled.imp_right sameKind)
  case tokens =>
    intro token foreign
    refine word_of_name_store_fresh fresh (indexed.leads .wordTokens) filled (fun entered => ?_)
    obtain ⟨word, rfl, ofToken⟩ := entry_of_word_token.mp entered
    exact foreign word (by rw [stored]; simp) fresh ofToken

/-- A catalogue grows when an expression is redefined under its label. -/
theorem of_redefined (indexed : before.IsIndexed) {previous redefined : ExpressionEntity}
    (found : before.find? redefined.id = some (.expression previous))
    (labelled : redefined.label = previous.label) :
    before.GrowsTo (before.store (.expression redefined)) := by
  constructor
  case limit => exact store_limit before (.expression redefined)
  case count => exact fun kind => (count_redefined found kind).ge
  case kept =>
    intro id other isFound notExpression
    rw [find_store, if_neg, isFound]
    rintro rfl
    rw [show before.find? (Entity.expression redefined).id = _ from found] at isFound
    exact notExpression (Option.some.inj isFound ▸ rfl)
  case relabelled =>
    intro id expression isFound
    rw [find_store]
    split
    · next same =>
      rw [same, show before.find? (Entity.expression redefined).id = _ from found] at isFound
      obtain rfl := Entity.expression.inj (Option.some.inj isFound)
      exact ⟨redefined, rfl, labelled⟩
    · exact ⟨expression, isFound, rfl⟩
  case keys =>
    intro key _
    have followed := (indexed.leads .wordKeys).follow_redefined found key
    exact congrArg (Option.bind · Entity.word?) followed
  case codes =>
    intro codes _
    change (before.store (.expression redefined)).groups.find? _ = before.groups.find? _
    rw [groups_redefined found]
  case labels =>
    intro label _
    exact id_of_label_redefined found labelled label .expression
  case tokens =>
    intro token _
    have followed := (indexed.leads .wordTokens).follow_redefined found token
    exact congrArg (Option.bind · Entity.word?) followed

end GrowsTo

end PriorArt.Catalogue
