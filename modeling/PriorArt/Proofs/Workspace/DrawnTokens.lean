import PriorArt.Proofs.Catalogue.Restored
import PriorArt.Proofs.Workspace.IssuedIds
import PriorArt.Proofs.Workspace.TokenSpace

/-!
# Tokens that are drawn and names in use

A token that is drawn for a word is looked for among the tokens of words alone, and one that is drawn
for a group among those of groups alone. So the tokens of the other kind and the labels of expressions
may be drawn again, and so may a token of the same kind that was lost. A line that uses such a name
means something else from then on: the name of a group comes first.

This module says which names can be drawn, after any course of lines, imports and other requests that
choose ids themselves, and what an identifier means behind an entity that was stored under a token.
-/

namespace PriorArt

namespace Catalogue

variable {before after catalogue : Catalogue}

/-- A catalogue has what changes make of an empty one, apart from the counters of ids. -/
def ComesAboutBy (catalogue : Catalogue) (changes : List Change) : Prop :=
  catalogue.contents = (changes.foldl change (empty catalogue.limit)).contents

/-- A change depends on the contents alone. -/
theorem change_contents (same : before.contents = after.contents) (made : Change) :
    (before.change made).contents = (after.change made).contents := by
  cases made with
  | stored entity => exact store_contents same entity
  | erased id => exact erase_contents same id

/-- One catalogue becomes another by changes. -/
theorem Becomes.changes (became : before.Becomes after) :
    ∃ changes : List Change, after.contents = (changes.foldl change before).contents := by
  induction became with
  | refl => exact ⟨[], rfl⟩
  | tail _ step inductionHypothesis =>
    obtain ⟨changes, same⟩ := inductionHypothesis
    cases step with
    | taken kind => exact ⟨changes, same⟩
    | stored entity =>
      refine ⟨changes ++ [.stored entity], ?_⟩
      rw [List.foldl_append]
      exact change_contents same (.stored entity)
    | erased id =>
      refine ⟨changes ++ [.erased id], ?_⟩
      rw [List.foldl_append]
      exact change_contents same (.erased id)

/-- A word with a token is stored. -/
def IsWordToken (catalogue : Catalogue) (token : Text) : Prop :=
  ∃ word, .word word ∈ catalogue.entities ∧ word.token = token

/-- A group with a token is stored. -/
def IsGroupToken (catalogue : Catalogue) (token : Text) : Prop :=
  ∃ group, .classification group ∈ catalogue.entities ∧ group.token = token

section Unused

variable {changes : List Change} (course : catalogue.ComesAboutBy changes)
  (numbered : catalogue.IsNumbered) {name : Text} (filled : name ≠ [])
include course numbered filled

/-- An index does not lead to anything by a name exactly if the name was lost, unless no stored entity
is entered under it at all. -/
theorem follow_none_iff_unused (which : IndexKind) :
    catalogue.follow? (catalogue.indexOf which) name = none ↔
      ((∃ entity ∈ catalogue.entities, entity.entry? which = some name) →
        HasLostName changes which name) := by
  have sameEntities : catalogue.entities = (changes.foldl change (empty catalogue.limit)).entities :=
    congrArg Contents.entities course
  have identified : ∀ other ∈ catalogue.entities, other.id ≠ [] := by
    intro other stored
    obtain ⟨number, _, same⟩ := numbered other stored
    rw [same]
    exact id_of_filled other.kind number
  rw [follow_contents course]
  rw [sameEntities] at identified ⊢
  constructor
  · rintro missed ⟨entity, stored, entered⟩
    exact (follow_none_iff_has_lost filled identified stored entered).mp missed
  · intro unlessLost
    by_contra followed
    obtain ⟨entity, followed⟩ := Option.ne_none_iff_exists'.mp followed
    obtain ⟨found, entered⟩ := ((leads_empty _ which).changes changes).follow followed
    have stored := List.mem_of_find?_eq_some found
    have lost := unlessLost ⟨entity, stored, entered⟩
    rw [(follow_none_iff_has_lost filled identified stored entered).mpr lost] at followed
    cases followed

/-- No word is found by a name exactly if it is the token of none, or was lost as such. -/
theorem word_of_token_none_iff (leads : ∀ which, catalogue.Leads which) :
    catalogue.wordOfToken? name = none ↔
      (catalogue.IsWordToken name → HasLostName changes .wordTokens name) := by
  have missed : catalogue.wordOfToken? name = none ↔
      catalogue.follow? (catalogue.indexOf .wordTokens) name = none := by
    refine search_none_iff (fun entity followed => ?_)
    obtain ⟨word, _, found⟩ := (searches_soundly leads).onlyWords _ entity followed
    exact ⟨word, found⟩
  rw [missed, follow_none_iff_unused course numbered filled]
  simp [entry_of_word_token, IsWordToken]

/-- No group is found by a name exactly if it is the token of none, or was lost as such. -/
theorem class_of_token_none_iff (leads : ∀ which, catalogue.Leads which) :
    catalogue.classOfToken? name = none ↔
      (catalogue.IsGroupToken name → HasLostName changes .classTokens name) := by
  have missed : catalogue.classOfToken? name = none ↔
      catalogue.follow? (catalogue.indexOf .classTokens) name = none := by
    refine search_none_iff (fun entity followed => ?_)
    obtain ⟨group, _, found⟩ := (searches_soundly leads).onlyGroups _ entity followed
    exact ⟨group, found⟩
  rw [missed, follow_none_iff_unused course numbered filled]
  simp [entry_of_class_token, IsGroupToken]

end Unused

/-- The catalogue after an entity was stored under the next id of its kind. -/
def withNext (catalogue : Catalogue) (entity : Entity) : Catalogue :=
  (catalogue.takeId entity.kind).2.store entity

section Next

variable {entity : Entity} (sameId : entity.id = (catalogue.takeId entity.kind).1)
include sameId

/-- What is found by way of an index after an entity was stored under the next id. -/
theorem search_with_next {α : Type} {which : IndexKind} (leads : catalogue.Leads which)
    (select : Entity → Option α) (name : Text) :
    ((catalogue.withNext entity).follow? ((catalogue.withNext entity).indexOf which) name).bind
        select =
      if entity.entry? which = some name ∧ name ≠ [] then select entity
      else (catalogue.follow? (catalogue.indexOf which) name).bind select := by
  have filled : entity.id ≠ [] := by
    rw [sameId, takeId]
    exact id_of_filled entity.kind _
  have leadsBefore : (catalogue.takeId entity.kind).2.Leads which := leads.congr rfl
  have followed := leadsBefore.follow_store_fresh (find_next_none sameId) filled name
  rw [withNext, followed]
  split
  · rfl
  · rfl

/-- No other expression is found by a label after an entity was stored that is none. -/
theorem expression_with_next (other : entity.kind ≠ .expression) (label : Text) :
    (catalogue.withNext entity).expressionOfLabel? label = catalogue.expressionOfLabel? label := by
  have found := of_label_store_fresh (find_next_none sameId) label .expression
  rw [if_neg (fun both => other both.1), Option.or_none] at found
  exact congrArg (Option.bind · Entity.expression?) found

end Next

variable (leads : ∀ which, catalogue.Leads which)
include leads

/-- A group that is stored under the next id changes the meaning of its token alone, which refers to
the group from then on. -/
theorem link_with_next_group {group : ClassEntity}
    (sameId : group.id = (catalogue.takeId .classification).1) (text : Text) :
    (catalogue.withNext (.classification group)).linkWord text =
      if group.token = text ∧ text ≠ [] then .reference group.id else catalogue.linkWord text := by
  have sameId : (Entity.classification group).id = (catalogue.takeId .classification).1 := sameId
  have labelled := expression_with_next sameId nofun text
  have searched := search_with_next sameId (leads .classTokens) Entity.classification? text
  simp only [Entity.entry?, Option.some.injEq] at searched
  have found : (catalogue.withNext (.classification group)).classOfToken? text =
      if group.token = text ∧ text ≠ [] then some group else catalogue.classOfToken? text := searched
  rw [linkWord, found, labelled]
  by_cases entered : group.token = text ∧ text ≠ []
  · rw [if_pos entered, if_pos entered]
  · rw [if_neg entered, if_neg entered, linkWord]

/-- A word that is stored under the next id changes no link, and its token alone stands for the word
from then on. -/
theorem word_with_next_word {word : WordEntity} (sameId : word.id = (catalogue.takeId .word).1)
    (text : Text) :
    (catalogue.withNext (.word word)).linkWord text = catalogue.linkWord text ∧
      (catalogue.withNext (.word word)).wordOfToken? text =
        if word.token = text ∧ text ≠ [] then some word else catalogue.wordOfToken? text := by
  have sameId : (Entity.word word).id = (catalogue.takeId .word).1 := sameId
  have labelled := expression_with_next sameId nofun text
  have groups := search_with_next sameId (leads .classTokens) Entity.classification? text
  have words := search_with_next sameId (leads .wordTokens) Entity.word? text
  simp only [Entity.entry?, Option.some.injEq, reduceCtorEq, false_and, ↓reduceIte] at groups words
  have noGroup : (catalogue.withNext (.word word)).classOfToken? text =
      catalogue.classOfToken? text := groups
  constructor
  · rw [linkWord, noGroup, labelled, linkWord]
  · exact words

end Catalogue

/-- Which tokens may be drawn on a catalogue that comes about by changes, and what identifiers mean
behind an entity that is stored under such a token. A text of the length from the stock may be drawn
for a word unless it is the token of a stored word, but also then if it was lost as such; it may be
drawn for a group unless it is the token of a stored group, with the same exception. A group under the
next id takes its token as an identifier from whatever it meant before, and a word takes its token from
the other words. No other identifier changes its meaning. -/
structure DrawsPerKind (catalogue : Catalogue) (changes : List Change) (source : TokenSource) :
    Prop where
  words : ∀ token,
    (∃ numbers,
      (Action.runOn Action.drawWordToken ⟨catalogue, { source with numbers }⟩).1 = .ok token) ↔
      IsTextOf source.stock source.length token ∧
        (catalogue.IsWordToken token → HasLostName changes .wordTokens token)
  groups : ∀ token,
    (∃ numbers,
      (Action.runOn Action.drawClassToken ⟨catalogue, { source with numbers }⟩).1 = .ok token) ↔
      IsTextOf source.stock source.length token ∧
        (catalogue.IsGroupToken token → HasLostName changes .classTokens token)
  behindGroup : ∀ group, group.id = (catalogue.takeId .classification).1 → ∀ text,
    (catalogue.withNext (.classification group)).linkWord text =
      if group.token = text ∧ text ≠ [] then .reference group.id else catalogue.linkWord text
  behindWord : ∀ word, word.id = (catalogue.takeId .word).1 → ∀ text,
    (catalogue.withNext (.word word)).linkWord text = catalogue.linkWord text ∧
      (catalogue.withNext (.word word)).wordOfToken? text =
        if word.token = text ∧ text ≠ [] then some word else catalogue.wordOfToken? text

/-- After any lines, imports and other managed requests on an empty catalogue, tokens are drawn with
regard to the names of one kind alone. So any source may draw a name in use that has its length and its
characters, unless this is the token of a stored entity of the kind that was not lost. -/
theorem tokens_are_drawn_per_kind (limit : Int) (tokens : TokenSource) (requests : List Request)
    (managed : ∀ request ∈ requests, request.IsManaged) (source : TokenSource) :
    let final := (afterRequests requests ⟨.empty limit, tokens⟩).catalogue
    (∃ changes, final.ComesAboutBy changes) ∧
      ∀ changes, final.ComesAboutBy changes → DrawsPerKind final changes source := by
  intro final
  have leads : ∀ which, final.Leads which := fun which =>
    stable_after_requests (Catalogue.leads_stable which) requests (leads_empty limit which)
  have numbered : final.IsNumbered := (grounded_after_requests managed limit tokens).numbered
  have filled : ∀ {token}, IsTextOf source.stock source.length token → token ≠ [] :=
    fun drawable => List.ne_nil_of_length_pos (drawable.long ▸ source.length_pos)
  constructor
  · have became := becomes_after_requests requests ⟨.empty limit, tokens⟩
    obtain ⟨changes, same⟩ := became.changes
    have sameLimit : final.limit = limit := has_limit_after_requests requests rfl
    refine ⟨changes, ?_⟩
    rw [Catalogue.ComesAboutBy, sameLimit]
    exact same
  · intro changes course
    constructor
    case words =>
      intro token
      rw [Action.draws_word_iff]
      apply and_congr_right
      intro drawable
      exact Catalogue.word_of_token_none_iff course numbered (filled drawable) leads
    case groups =>
      intro token
      rw [Action.draws_class_iff]
      apply and_congr_right
      intro drawable
      exact Catalogue.class_of_token_none_iff course numbered (filled drawable) leads
    case behindGroup => exact fun group sameId text => Catalogue.link_with_next_group leads sameId text
    case behindWord => exact fun word sameId text => Catalogue.word_with_next_word leads sameId text

/-- The first token of the usual source on a certain sequence of numbers. -/
def drawnName : Text := ['k', '2', 'H', 'f', 'z']

/-- An empty workspace with this source. -/
def beforeDrawing : Workspace := ⟨.empty 5, TokenSource.standard (congruential 1)⟩

/-- A line that defines the name as a word. -/
def drawnAsWord : List Request := [.line (drawnName ++ [' ', '=', ' ', 'X'])]

/-- A query is imported, whose word gets the token, and the name is defined as another word and then as
an expression. -/
def drawnAndLost : List Request :=
  [.importQuery false ['X', '/', 'T', 'X'], .line (drawnName ++ [' ', '=', ' ', 'Y']),
    .line (drawnName ++ [' ', '=', ' ', 'A', ',', '5', 'n', ',', 'B'])]

/-- A group that bears the name as its token. -/
def drawnGroup : ClassEntity := ⟨['C', 'B', '-', '0', '0', '0', '1'], ['A'], drawnName, [['A']]⟩

/-- The token of a stored word is drawn for a group and means the group from then on. The token of an
imported word may be drawn again once another word under this name has made way for an expression. -/
theorem tokens_are_drawn_twice :
    (∀ request ∈ drawnAsWord ++ drawnAndLost, request.IsManaged) ∧
      (let final := (afterRequests drawnAsWord beforeDrawing).catalogue
      final.IsWordToken drawnName ∧ final.linkWord drawnName = .word drawnName ∧
        (∃ numbers, (Action.runOn Action.drawClassToken
          ⟨final, { beforeDrawing.tokens with numbers }⟩).1 = .ok drawnName) ∧
        (final.withNext (.classification drawnGroup)).linkWord drawnName =
          .reference drawnGroup.id) ∧
      (let final := (afterRequests drawnAndLost beforeDrawing).catalogue
      final.IsWordToken drawnName ∧
        ∃ numbers, (Action.runOn Action.drawWordToken
          ⟨final, { beforeDrawing.tokens with numbers }⟩).1 = .ok drawnName) := by
  have managed : ∀ request ∈ drawnAsWord ++ drawnAndLost, request.IsManaged := by
    simp [drawnAsWord, drawnAndLost, Request.IsManaged]
  obtain ⟨managedWord, managedLost⟩ := List.forall_mem_append.mp managed
  have drawable : IsTextOf beforeDrawing.tokens.stock beforeDrawing.tokens.length drawnName :=
    TokenSource.draw_text beforeDrawing.tokens
  refine ⟨managed, ?_, ?_⟩
  · have entities : (afterRequests drawnAsWord beforeDrawing).catalogue.entities =
        [.word
          ⟨['W', 'B', '-', '0', '0', '0', '1'], drawnName, drawnName, ['(', 'X', ')'], [], []⟩] := by
      rfl
    have noGroup : ¬ (afterRequests drawnAsWord beforeDrawing).catalogue.IsGroupToken drawnName := by
      rintro ⟨group, stored, _⟩
      rw [entities] at stored
      simp at stored
    obtain ⟨⟨changes, course⟩, drawn⟩ := tokens_are_drawn_per_kind 5
      (TokenSource.standard (congruential 1)) drawnAsWord managedWord beforeDrawing.tokens
    have perKind := drawn changes course
    refine ⟨⟨_, by rw [entities]; exact List.mem_singleton_self _, rfl⟩, rfl, ?_, ?_⟩
    · exact (perKind.groups drawnName).mpr ⟨drawable, fun isGroup => absurd isGroup noGroup⟩
    · exact (perKind.behindGroup drawnGroup rfl drawnName).trans (if_pos ⟨rfl, by decide⟩)
  · have first : (afterRequests drawnAndLost beforeDrawing).catalogue.entities.head? =
        some (.word ⟨['W', 'B', '-', '0', '0', '0', '1'], ['X'], drawnName, ['(', 'X', ')'], ['X'],
          [['X']]⟩) := by rfl
    have missed : (afterRequests drawnAndLost beforeDrawing).catalogue.wordOfToken? drawnName =
        none := by rfl
    have numbered := (grounded_after_requests managedLost 5
      (TokenSource.standard (congruential 1))).numbered
    have leads : ∀ which, (afterRequests drawnAndLost beforeDrawing).catalogue.Leads which :=
      fun which => stable_after_requests (Catalogue.leads_stable which) _ (leads_empty 5 which)
    obtain ⟨⟨changes, course⟩, drawn⟩ := tokens_are_drawn_per_kind 5
      (TokenSource.standard (congruential 1)) drawnAndLost managedLost beforeDrawing.tokens
    have lost := (Catalogue.word_of_token_none_iff course numbered (by decide) leads).mp missed
    exact ⟨⟨_, List.mem_of_mem_head? first, rfl⟩,
      ((drawn changes course).words drawnName).mpr ⟨drawable, lost⟩⟩

end PriorArt
