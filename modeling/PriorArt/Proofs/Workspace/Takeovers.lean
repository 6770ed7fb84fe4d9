import Mathlib.Data.List.Basic
import PriorArt.Proofs.Workspace.Operations

/-!
# Names that lead nowhere

An index keeps one entity for a name, the one that was stored last under it. What is stored under
the name before is still stored then, but the name has passed to another entity, and it does not
pass back: once that entity is erased or replaced, the name leads nowhere, until the next entity is
stored under it.

So a search can miss a stored entity. It does so exactly if the last entity that was stored under
the name is no longer in its place.
-/

namespace PriorArt

/-- An edit of a catalogue: an entity with an id is stored, or an id is erased. -/
inductive Edit where
  | put (entity : Entity) (identified : entity.id ≠ [])
  | erase (id : Text)

/-- The operation that makes an edit. -/
def Edit.operation : Edit → Operation
  | put entity _ => .put entity
  | erase id => .erase id

/-- The workspace after edits in order. -/
def afterEdits (edits : List Edit) (start : Workspace) : Workspace :=
  afterOperations (edits.map Edit.operation) start

/-- A change of what is stored under an id. -/
inductive Change where
  | stored (entity : Entity)
  | erased (id : Text)

namespace Change

/-- The id under which a change is made. -/
def id : Change → Text
  | stored entity => entity.id
  | erased id => id

/-- The name under which a change enters an entity into an index. -/
def entry? : Change → IndexKind → Option Text
  | stored entity, which => entity.entry? which
  | erased _, _ => none

end Change

/-- The change that an edit makes. Without room for its entity it makes none. -/
def Edit.change? (catalogue : Catalogue) : Edit → Option Change
  | put entity _ => if (catalogue.put? entity).isSome then some (.stored entity) else none
  | erase id => some (.erased id)

/-- The changes that edits make, in order. -/
def changesOf : List Edit → Workspace → List Change
  | [], _ => []
  | edit :: edits, start =>
    (edit.change? start.catalogue).toList
      ++ changesOf edits (Action.runOn edit.operation.step start).2

/-- After changes of a catalogue, the last entity that was stored under a name of an index is no
longer in its place: its id was erased, or something else was stored there. -/
def HasLostName (changes : List Change) (which : IndexKind) (name : Text) : Prop :=
  ∃ earlier taker later, changes = earlier ++ .stored taker :: later ∧
    taker.entry? which = some name ∧ (∀ change ∈ later, change.entry? which ≠ some name) ∧
    ∃ change ∈ later, change.id = taker.id

namespace Catalogue

/-- The catalogue after a change. -/
def change (catalogue : Catalogue) : Change → Catalogue
  | .stored entity => catalogue.store entity
  | .erased id => catalogue.erase id

variable {catalogue : Catalogue} {which : IndexKind}

/-- A change keeps an index leading to stored entities. -/
theorem Leads.change (leads : catalogue.Leads which) (change : Change) :
    (catalogue.change change).Leads which := by
  cases change with
  | stored entity => exact leads.store entity
  | erased id => exact leads.erase id

/-- Changes keep an index leading to stored entities. -/
theorem Leads.changes (leads : catalogue.Leads which) (changes : List Change) :
    (changes.foldl Catalogue.change catalogue).Leads which := by
  induction changes generalizing catalogue with
  | nil => exact leads
  | cons change rest inductionHypothesis => exact inductionHypothesis (leads.change change)

/-- What an index leads to after a change. -/
theorem Leads.lookup_change (leads : catalogue.Leads which) (change : Change) {name : Text}
    (filled : name ≠ []) :
    ((catalogue.change change).indexOf which).lookup name =
      if change.entry? which = some name then some change.id
      else if (catalogue.indexOf which).lookup name = some change.id then none
      else (catalogue.indexOf which).lookup name := by
  cases change with
  | stored entity =>
    rw [Catalogue.change, leads.lookup_store]
    by_cases entered : entity.entry? which = some name
    · rw [if_pos ⟨entered, filled⟩,
        if_pos (show Change.entry? (.stored entity) which = _ from entered)]
      rfl
    · rw [if_neg (fun both => entered both.1),
        if_neg (show Change.entry? (.stored entity) which ≠ _ from entered)]
      rfl
  | erased id => exact leads.lookup_erase id name

/-- Changes that enter nothing under a name leave it leading where it led, unless one of them is
made there. -/
theorem Leads.lookup_unentered (leads : catalogue.Leads which) {changes : List Change}
    {name : Text} (filled : name ≠ [])
    (unentered : ∀ change ∈ changes, change.entry? which ≠ some name) :
    ((changes.foldl Catalogue.change catalogue).indexOf which).lookup name =
      if ∃ change ∈ changes, (catalogue.indexOf which).lookup name = some change.id then none
      else (catalogue.indexOf which).lookup name := by
  induction changes generalizing catalogue with
  | nil => simp
  | cons change rest inductionHypothesis =>
    have notEntered := unentered change (by simp)
    have later := inductionHypothesis (leads.change change)
      (fun other inside => unentered other (by simp [inside]))
    rw [List.foldl_cons, later, leads.lookup_change change filled, if_neg notEntered]
    by_cases led : (catalogue.indexOf which).lookup name = some change.id
    · simp [led]
    · simp [led]

/-- Where a name leads after changes of which the last one that enters something under it is
known. -/
theorem Leads.lookup_taken (leads : catalogue.Leads which) (earlier : List Change)
    {later : List Change} {taker : Entity} {name : Text} (filled : name ≠ [])
    (taken : taker.entry? which = some name)
    (unentered : ∀ change ∈ later, change.entry? which ≠ some name) :
    (((earlier ++ .stored taker :: later).foldl Catalogue.change catalogue).indexOf which).lookup
        name =
      if ∃ change ∈ later, change.id = taker.id then none else some taker.id := by
  have leadsBefore := leads.changes earlier
  have takes := leadsBefore.lookup_change (.stored taker) filled
  rw [if_pos (show Change.entry? (.stored taker) which = _ from taken)] at takes
  rw [List.foldl_append, List.foldl_cons,
    (leadsBefore.change (.stored taker)).lookup_unentered filled unentered, takes]
  simp [Change.id, eq_comm]

/-- What an index leads to by a filled id is found. -/
theorem Leads.follow_of_lookup (leads : catalogue.Leads which) {name id : Text}
    (led : (catalogue.indexOf which).lookup name = some id) (filled : id ≠ []) :
    catalogue.follow? (catalogue.indexOf which) name ≠ none := by
  obtain ⟨entity, found, _⟩ := Option.bind_eq_some_iff.mp (leads name id led)
  simp [follow?, led, filled, found]

/-- A stored entity was there before the changes, or one of them stored it. -/
theorem mem_changed {changes : List Change} {entity : Entity}
    (stored : entity ∈ (changes.foldl Catalogue.change catalogue).entities) :
    entity ∈ catalogue.entities ∨ .stored entity ∈ changes := by
  induction changes generalizing catalogue with
  | nil => exact .inl stored
  | cons change rest inductionHypothesis =>
    rcases inductionHypothesis stored with before | later
    · cases change with
      | stored other =>
        rw [Catalogue.change, store_entities] at before
        rcases mem_replaceIn before with rfl | earlier
        · exact .inr (by simp)
        · exact .inl earlier
      | erased id => exact .inl (mem_of_mem_erase before)
    · exact .inr (List.mem_cons_of_mem _ later)

end Catalogue

/-- If changes enter something under a name, there is a last one that does. -/
theorem exists_last_taker {changes : List Change} {which : IndexKind} {name : Text}
    {entity : Entity} (inside : .stored entity ∈ changes)
    (entered : entity.entry? which = some name) :
    ∃ earlier taker later, changes = earlier ++ .stored taker :: later ∧
      taker.entry? which = some name ∧ ∀ change ∈ later, change.entry? which ≠ some name := by
  induction changes generalizing entity with
  | nil => cases inside
  | cons change rest inductionHypothesis =>
    by_cases again : ∃ later ∈ rest, later.entry? which = some name
    · obtain ⟨later, insideRest, enteredAgain⟩ := again
      cases later with
      | erased id => cases enteredAgain
      | stored other =>
        obtain ⟨earlier, taker, later, rfl, taken, unentered⟩ :=
          inductionHypothesis insideRest enteredAgain
        exact ⟨change :: earlier, taker, later, rfl, taken, unentered⟩
    · have unentered : ∀ later ∈ rest, later.entry? which ≠ some name :=
        fun later insideRest sameName => again ⟨later, insideRest, sameName⟩
      rcases List.mem_cons.mp inside with rfl | insideRest
      · exact ⟨[], entity, rest, rfl, entered, unentered⟩
      · exact absurd entered (unentered _ insideRest)

/-- The indexes of an empty catalogue lead nowhere. -/
theorem leads_empty (limit : Int) (which : IndexKind) : (Catalogue.empty limit).Leads which := by
  intro name id led
  cases which <;> cases led

/-- After changes of an empty catalogue that leave entities with ids alone, an index does not lead to
anything by the name of a stored entity exactly if the name was lost. -/
theorem follow_none_iff_has_lost {limit : Int} {changes : List Change} {which : IndexKind}
    {entity : Entity} {name : Text} (filled : name ≠ [])
    (identified : ∀ other ∈ (changes.foldl Catalogue.change (.empty limit)).entities, other.id ≠ [])
    (stored : entity ∈ (changes.foldl Catalogue.change (.empty limit)).entities)
    (entered : entity.entry? which = some name) :
    (changes.foldl Catalogue.change (.empty limit)).follow?
        ((changes.foldl Catalogue.change (.empty limit)).indexOf which) name = none ↔
      HasLostName changes which name := by
  have initial := leads_empty limit which
  have leads := initial.changes changes
  constructor
  · intro missed
    have inside : .stored entity ∈ changes := by
      rcases Catalogue.mem_changed stored with earlier | inside
      · cases earlier
      · exact inside
    obtain ⟨earlier, taker, later, rfl, taken, unentered⟩ := exists_last_taker inside entered
    refine ⟨earlier, taker, later, rfl, taken, unentered, ?_⟩
    by_contra kept
    have led := initial.lookup_taken earlier filled taken unentered
    rw [if_neg kept] at led
    obtain ⟨other, found, _⟩ := Option.bind_eq_some_iff.mp (leads name taker.id led)
    have takerIdentified := identified other (List.mem_of_find?_eq_some found)
    rw [Catalogue.id_of_find found] at takerIdentified
    exact leads.follow_of_lookup led takerIdentified missed
  · rintro ⟨earlier, taker, later, rfl, taken, unentered, replaced⟩
    have led := initial.lookup_taken earlier filled taken unentered
    rw [if_pos replaced] at led
    rw [Catalogue.follow?, led]

section Edits

variable {edits : List Edit} {start : Workspace}

/-- An edit makes its change, if it makes one. -/
theorem Edit.catalogue_after (edit : Edit) (start : Workspace) :
    (Action.runOn edit.operation.step start).2.catalogue =
      (edit.change? start.catalogue).toList.foldl Catalogue.change start.catalogue := by
  cases edit with
  | erase id => rfl
  | put entity identified =>
    rw [Edit.operation, Operation.step, Action.run_on_put, Edit.change?]
    cases stored : start.catalogue.put? entity with
    | none => rfl
    | some changed =>
      unfold Catalogue.put? at stored
      split at stored
      · cases stored
      · exact (Option.some.inj stored).symm

/-- The catalogue after edits is the one after the changes that they make. -/
theorem catalogue_after_edits (edits : List Edit) (start : Workspace) :
    (afterEdits edits start).catalogue =
      (changesOf edits start).foldl Catalogue.change start.catalogue := by
  induction edits generalizing start with
  | nil => rfl
  | cons edit rest inductionHypothesis =>
    rw [changesOf, List.foldl_append, ← edit.catalogue_after]
    exact inductionHypothesis _

/-- Edits only store entities with ids. -/
theorem identified_of_edits {entity : Entity} (stored : .stored entity ∈ changesOf edits start) :
    entity.id ≠ [] := by
  induction edits generalizing start with
  | nil => cases stored
  | cons edit rest inductionHypothesis =>
    rcases List.mem_append.mp stored with first | later
    · cases edit with
      | erase id => simp [Edit.change?] at first
      | put other identified =>
        simp only [Edit.change?, Option.mem_toList, Option.ite_none_right_eq_some] at first
        obtain ⟨_, same⟩ := first
        obtain rfl := Change.stored.inj (Option.some.inj same)
        exact identified
    · exact inductionHypothesis later

/-- After edits of an empty catalogue the indexes lead to stored entities. -/
theorem leads_after_edits (limit : Int) (tokens : TokenSource) (edits : List Edit)
    (which : IndexKind) : (afterEdits edits ⟨.empty limit, tokens⟩).catalogue.Leads which :=
  stable_after_operations (Catalogue.leads_stable which) _ (leads_empty limit which)

/-- After edits of an empty catalogue an index does not lead to anything by the name of a stored
entity exactly if the name was lost. -/
theorem follow_none_iff_lost (limit : Int) (tokens : TokenSource) (edits : List Edit)
    (which : IndexKind) {entity : Entity} {name : Text} (filled : name ≠ [])
    (stored : entity ∈ (afterEdits edits ⟨.empty limit, tokens⟩).catalogue.entities)
    (entered : entity.entry? which = some name) :
    (afterEdits edits ⟨.empty limit, tokens⟩).catalogue.follow?
        ((afterEdits edits ⟨.empty limit, tokens⟩).catalogue.indexOf which) name = none ↔
      HasLostName (changesOf edits ⟨.empty limit, tokens⟩) which name := by
  rw [catalogue_after_edits] at stored ⊢
  refine follow_none_iff_has_lost filled (fun other otherStored => ?_) stored entered
  rcases Catalogue.mem_changed otherStored with earlier | inside
  · cases earlier
  · exact identified_of_edits inside

end Edits

/-- Each of the three searches misses a stored entity that has the token or the key that was
searched for exactly if changes lost this name. -/
structure Catalogue.MissesLostNames (catalogue : Catalogue) (changes : List Change) : Prop where
  words : ∀ word, .word word ∈ catalogue.entities → word.token ≠ [] →
    (catalogue.wordOfToken? word.token = none ↔ HasLostName changes .wordTokens word.token)
  keys : ∀ word, .word word ∈ catalogue.entities → word.key ≠ [] →
    (catalogue.wordOfKey? word.key = none ↔ HasLostName changes .wordKeys word.key)
  groups : ∀ group, .classification group ∈ catalogue.entities → group.token ≠ [] →
    (catalogue.classOfToken? group.token = none ↔ HasLostName changes .classTokens group.token)

/-- A search by way of an index finds nothing exactly if the index leads nowhere, where all that the
index leads to is of the kind that the search selects. -/
theorem Catalogue.search_none_iff {α : Type} {followed : Option Entity} {select : Entity → Option α}
    (only : ∀ entity, followed = some entity → ∃ value, followed.bind select = some value) :
    followed.bind select = none ↔ followed = none := by
  constructor
  · intro missed
    by_contra leadsTo
    obtain ⟨entity, isFollowed⟩ := Option.ne_none_iff_exists'.mp leadsTo
    obtain ⟨value, found⟩ := only entity isFollowed
    rw [missed] at found
    cases found
  · rintro rfl
    rfl

/-- After any edits of an empty catalogue, refused ones included, a stored entity is missed by the
search for its token or its key exactly if the entity that was stored last under this name is no
longer in its place. -/
theorem searches_miss_iff_lost (limit : Int) (tokens : TokenSource) (edits : List Edit) :
    (afterEdits edits ⟨.empty limit, tokens⟩).catalogue.MissesLostNames
      (changesOf edits ⟨.empty limit, tokens⟩) := by
  have sound := Catalogue.searches_soundly (leads_after_edits limit tokens edits)
  constructor
  · intro word stored filled
    rw [← follow_none_iff_lost limit tokens edits .wordTokens filled stored rfl]
    refine Catalogue.search_none_iff (fun entity followed => ?_)
    obtain ⟨other, _, found⟩ := sound.onlyWords _ entity followed
    exact ⟨other, found⟩
  · intro word stored filled
    rw [← follow_none_iff_lost limit tokens edits .wordKeys filled stored rfl]
    refine Catalogue.search_none_iff (fun entity followed => ?_)
    obtain ⟨other, _, found⟩ := sound.onlyKeys _ entity followed
    exact ⟨other, found⟩
  · intro group stored filled
    rw [← follow_none_iff_lost limit tokens edits .classTokens filled stored rfl]
    refine Catalogue.search_none_iff (fun entity followed => ?_)
    obtain ⟨other, _, found⟩ := sound.onlyGroups _ entity followed
    exact ⟨other, found⟩

/-- A word with a token and a key that another word takes over. -/
def keptWord : WordEntity := ⟨['w', '1'], ['A'], ['x'], [], ['K'], []⟩

/-- A word that takes over the token and the key of another word. -/
def takingWord : WordEntity := ⟨['w', '2'], ['B'], ['x'], [], ['K'], []⟩

/-- Store two words under the same token and the same key, and erase the second one. -/
def takingEdits : List Edit :=
  [.put (.word keptWord) (by decide), .put (.word takingWord) (by decide), .erase takingWord.id]

/-- The workspace before the edits. -/
def beforeTaking : Workspace := ⟨.empty 5, TokenSource.standard (congruential 1)⟩

/-- The word that stays stored is found neither by its token nor by its key. -/
theorem searches_miss_kept_word :
    (afterEdits takingEdits beforeTaking).catalogue.entities = [.word keptWord] ∧
      (afterEdits takingEdits beforeTaking).catalogue.wordOfToken? keptWord.token = none ∧
      (afterEdits takingEdits beforeTaking).catalogue.wordOfKey? keptWord.key = none := by
  have remains : (afterEdits takingEdits beforeTaking).catalogue.entities = [.word keptWord] := by
    decide +kernel
  have lost : ∀ which name, Entity.entry? (.word takingWord) which = some name →
      HasLostName (changesOf takingEdits beforeTaking) which name := by
    intro which name entered
    have made : changesOf takingEdits beforeTaking =
        [.stored (.word keptWord)] ++ .stored (.word takingWord) :: [.erased takingWord.id] := rfl
    exact ⟨_, .word takingWord, _, made, entered, by simp [Change.entry?],
      by simp [Change.id, Entity.id]⟩
  have misses := searches_miss_iff_lost 5 (TokenSource.standard (congruential 1)) takingEdits
  have stored : .word keptWord ∈ (afterEdits takingEdits beforeTaking).catalogue.entities := by
    simp [remains]
  exact ⟨remains, (misses.words keptWord stored (by decide)).mpr (lost .wordTokens _ rfl),
    (misses.keys keptWord stored (by decide)).mpr (lost .wordKeys _ rfl)⟩

end PriorArt
