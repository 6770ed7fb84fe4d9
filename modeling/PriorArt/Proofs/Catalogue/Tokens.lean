import PriorArt.Proofs.Catalogue.Indexes
import PriorArt.Proofs.Catalogue.Labels

/-!
# The tokens of groups

The index of group tokens leads to groups that are stored and have the token. An entity that is
replaced or erased is taken out of the index first, so no name leads to an id behind its group.

The other way round a group is led to by its token as long as no other group takes the token over.
Then no two groups share a token.
-/

namespace PriorArt.Catalogue

/-- Every token of the index of groups leads to a stored group that has the token. -/
def TokensLead (catalogue : Catalogue) : Prop :=
  ∀ token id, catalogue.classTokens.lookup token = some id →
    ∃ group, catalogue.find? id = some (.classification group) ∧ group.token = token

/-- The tokens lead to groups if their index leads to stored entities. -/
theorem tokens_lead_iff {catalogue : Catalogue} :
    catalogue.TokensLead ↔ catalogue.Leads .classTokens := by
  have entered : ∀ token id, (catalogue.find? id).bind (Entity.entry? · .classTokens) = some token ↔
      ∃ group, catalogue.find? id = some (.classification group) ∧ group.token = token := by
    intro token id
    simp only [Option.bind_eq_some_iff, entry_of_class_token]
    constructor
    · rintro ⟨_, found, group, rfl, ofToken⟩
      exact ⟨group, found, ofToken⟩
    · rintro ⟨group, found, ofToken⟩
      exact ⟨_, found, group, rfl, ofToken⟩
  unfold TokensLead Leads
  simp only [entered]
  rfl

/-- Storing and erasing keep the tokens leading to groups. -/
theorem tokens_lead_stable : IsStable TokensLead := by
  have same : TokensLead = Leads .classTokens := funext (fun _ => propext tokens_lead_iff)
  rw [same]
  exact leads_stable .classTokens

/-- The group that is found by a token is stored under its id and has the token. -/
theorem TokensLead.classOfToken {catalogue : Catalogue} (lead : catalogue.TokensLead)
    {token : Text} {group : ClassEntity} (found : catalogue.classOfToken? token = some group) :
    catalogue.find? group.id = some (.classification group) ∧ group.token = token := by
  obtain ⟨entity, followed, isGroup⟩ := Option.bind_eq_some_iff.mp found
  obtain ⟨stored, entered⟩ := (tokens_lead_iff.mp lead).follow followed
  obtain ⟨other, rfl, ofToken⟩ := entry_of_class_token.mp entered
  obtain rfl : other = group := Option.some.inj isGroup
  exact ⟨stored, ofToken⟩

/-- The tokens of groups and their index fit: what the index leads to is stored and has the token,
and every group is what its token leads to. -/
structure TokensFit (catalogue : Catalogue) : Prop where
  leads : catalogue.Leads .classTokens
  listed : ∀ group, .classification group ∈ catalogue.entities →
    (catalogue.indexOf .classTokens).lookup group.token = some group.id

namespace TokensFit

variable {catalogue : Catalogue}

/-- Catalogues with the same contents have tokens that fit alike. -/
theorem congr (fit : catalogue.TokensFit) {other : Catalogue}
    (same : other.contents = catalogue.contents) : other.TokensFit where
  leads := fit.leads.congr same
  listed := by
    have sameEntities : other.entities = catalogue.entities := congrArg Contents.entities same
    have sameTokens : other.indexOf .classTokens = catalogue.indexOf .classTokens :=
      congrArg Contents.classTokens same
    rw [sameEntities, sameTokens]
    exact fit.listed

/-- The tokens fit after an id was erased. -/
theorem erase (fit : catalogue.TokensFit) (id : Text) : (catalogue.erase id).TokensFit where
  leads := fit.leads.erase id
  listed := by
    intro group stored
    obtain ⟨earlier, different⟩ := (mem_erase_iff catalogue id _).mp stored
    rw [fit.leads.lookup_erase, fit.listed group earlier]
    exact if_neg (fun same => different (Option.some.inj same))

/-- The tokens fit after a name was released. -/
theorem released (fit : catalogue.TokensFit) (name : Text) (keep : EntityKind) :
    (catalogue.released name keep).TokensFit := by
  apply released_induction keep fit
  intro middle kind fitMiddle
  unfold releaseKind
  split
  · exact fitMiddle.erase _
  · exact fitMiddle

/-- The tokens fit after an entity was stored, if it is no group with the token of another group
that stays stored. -/
theorem store (fit : catalogue.TokensFit) (distinct : catalogue.HasDistinctIds) {entity : Entity}
    (filled : ∀ group, entity = .classification group → group.token ≠ [])
    (fresh : ∀ group, entity = .classification group → ∀ other,
      .classification other ∈ catalogue.entities → other.id ≠ group.id →
      other.token ≠ group.token) :
    (catalogue.store entity).TokensFit where
  leads := fit.leads.store entity
  listed := by
    intro group stored
    rw [fit.leads.lookup_store]
    rcases (distinct.mem_store entity _).mp stored with rfl | ⟨earlier, different⟩
    · rw [if_pos ⟨rfl, filled group rfl⟩]
      rfl
    · have notTaken : ¬ (entity.entry? .classTokens = some group.token ∧ group.token ≠ []) := by
        rintro ⟨entered, _⟩
        obtain ⟨new, rfl, sameToken⟩ := entry_of_class_token.mp entered
        exact fresh new rfl group earlier different sameToken.symm
      rw [if_neg notTaken, fit.listed group earlier]
      exact if_neg (fun same => different (Option.some.inj same))

/-- No two groups share a token. -/
theorem eq_of_token (fit : catalogue.TokensFit) (distinct : catalogue.HasDistinctIds)
    {group other : ClassEntity} (stored : .classification group ∈ catalogue.entities)
    (otherStored : .classification other ∈ catalogue.entities) (same : group.token = other.token) :
    group = other := by
  have led := fit.listed group stored
  rw [same, fit.listed other otherStored] at led
  exact Entity.classification.inj
    (distinct.eq_of_id stored otherStored (Option.some.inj led).symm)

/-- A group is found by its token. -/
theorem found (fit : catalogue.TokensFit) (numbered : catalogue.IsNumbered)
    (distinct : catalogue.HasDistinctIds) {group : ClassEntity}
    (stored : .classification group ∈ catalogue.entities) :
    catalogue.classOfToken? group.token = some group := by
  have followed := numbered.follow (fit.listed group stored) (distinct.find stored)
  change catalogue.follow? catalogue.classTokens group.token = _ at followed
  rw [classOfToken?, followed]
  rfl

end TokensFit

end PriorArt.Catalogue
