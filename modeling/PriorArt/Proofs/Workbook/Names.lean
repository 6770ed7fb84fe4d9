import PriorArt.Proofs.Catalogue.Tokens
import PriorArt.Proofs.Workbook.Labels

/-!
# A name means one thing

Words and groups of codes are found by token, expressions by label, and a name is released by label.
Nevertheless at most one entity answers to a name, as long as no token that was drawn is a name of
the workbook. Under this condition a group whose token is a name has the name for its label, so that
a later definition of the name finds the group and displaces it.
-/

namespace PriorArt

/-- An entity of the kind of groups is a group. -/
theorem Entity.group_of_kind {entity : Entity} (isGroup : entity.kind = .classification) :
    ∃ group, entity = .classification group := by
  cases entity with
  | word word => cases isGroup
  | classification group => exact ⟨group, rfl⟩
  | expression expression => cases isGroup

namespace Catalogue

/-- At most one of several entities with different ids is chosen, if all that are chosen are the
same. -/
theorem countP_le_one {entities : List Entity} (distinct : (entities.map Entity.id).Nodup)
    {chosen : Entity → Bool}
    (alone : ∀ entity ∈ entities, ∀ other ∈ entities, chosen entity = true → chosen other = true →
      entity = other) : entities.countP chosen ≤ 1 := by
  rw [List.countP_eq_length_filter]
  have nodup : (entities.filter chosen).Nodup := distinct.of_map.filter _
  rcases all : entities.filter chosen with _ | ⟨first, _ | ⟨second, rest⟩⟩
  · simp
  · simp
  · have inside : ∀ entity ∈ first :: second :: rest, entity ∈ entities ∧ chosen entity = true :=
      fun entity listed => List.mem_filter.mp (all ▸ listed)
    obtain ⟨stored, isChosen⟩ := inside first (by simp)
    obtain ⟨secondStored, secondChosen⟩ := inside second (by simp)
    have same := alone first stored second secondStored isChosen secondChosen
    rw [all, same] at nodup
    simp at nodup

/-- The tokens of the stored groups. -/
def groupTokens (catalogue : Catalogue) : List Text :=
  (catalogue.entities.filterMap Entity.classification?).map ClassEntity.token

/-- The tokens of groups are those of the stored ones. -/
theorem mem_groupTokens {catalogue : Catalogue} {token : Text} :
    token ∈ catalogue.groupTokens ↔
      ∃ group, .classification group ∈ catalogue.entities ∧ group.token = token := by
  have isGroup : ∀ entity group, Entity.classification? entity = some group ↔
      entity = .classification group := by
    intro entity group
    cases entity <;> simp [Entity.classification?]
  simp only [groupTokens, List.mem_map, List.mem_filterMap, isGroup, exists_eq_right]

/-- A catalogue whose names are apart from each other: the tokens of groups fit; words and
expressions have names for labels; and a group whose token is a name has it for its label, which no
word and no expression has. -/
structure NamesApart (isName : Text → Prop) (catalogue : Catalogue) : Prop where
  orderly : catalogue.IsOrderly
  fit : catalogue.TokensFit
  names : ∀ entity ∈ catalogue.entities, entity.kind ≠ .classification → isName entity.label
  labels : ∀ group, .classification group ∈ catalogue.entities → isName group.token →
    group.token = group.label
  others : ∀ group, .classification group ∈ catalogue.entities → isName group.token →
    ∀ entity ∈ catalogue.entities, entity.label = group.label → entity.kind = .classification

namespace NamesApart

variable {isName : Text → Prop} {catalogue : Catalogue}

/-- The names are apart in the empty catalogue. -/
theorem empty (isName : Text → Prop) (limit : Int) : NamesApart isName (Catalogue.empty limit) :=
  ⟨empty_orderly limit, ⟨nofun, nofun⟩, nofun, nofun, nofun⟩

/-- An entity that is no group and answers to a name has it for its label. -/
theorem label_of_answers (apart : NamesApart isName catalogue) {entity : Entity}
    (stored : entity ∈ catalogue.entities) (noGroup : entity.kind ≠ .classification) {name : Text}
    (answers : entity.answersTo name = true) : entity.label = name := by
  cases entity with
  | classification group => exact absurd rfl noGroup
  | word word => exact (apart.orderly.words word stored).symm.trans (of_decide_eq_true answers)
  | expression expression => exact of_decide_eq_true answers

/-- An entity that answers to the token of a group is a group. -/
theorem group_of_answers (apart : NamesApart isName catalogue) {group : ClassEntity}
    (stored : .classification group ∈ catalogue.entities) {entity : Entity}
    (entityStored : entity ∈ catalogue.entities)
    (answers : entity.answersTo group.token = true) : entity.kind = .classification := by
  by_contra noGroup
  have label := apart.label_of_answers entityStored noGroup answers
  have isName := apart.names entity entityStored noGroup
  rw [label] at isName
  exact noGroup (apart.others group stored isName entity entityStored
    (label.trans (apart.labels group stored isName)))

/-- Only one entity answers to a name. -/
theorem eq_of_answers (apart : NamesApart isName catalogue) {name : Text} {entity other : Entity}
    (stored : entity ∈ catalogue.entities) (otherStored : other ∈ catalogue.entities)
    (answers : entity.answersTo name = true) (otherAnswers : other.answersTo name = true) :
    entity = other := by
  have labelled := apart.orderly.labelled
  by_cases isGroup : entity.kind = .classification
  · obtain ⟨group, rfl⟩ := Entity.group_of_kind isGroup
    obtain rfl : group.token = name := of_decide_eq_true answers
    obtain ⟨otherGroup, rfl⟩ :=
      Entity.group_of_kind (apart.group_of_answers stored otherStored otherAnswers)
    have sameToken : otherGroup.token = group.token := of_decide_eq_true otherAnswers
    rw [apart.fit.eq_of_token labelled.distinct stored otherStored sameToken.symm]
  · have otherNoGroup : other.kind ≠ .classification := by
      intro otherIsGroup
      obtain ⟨group, rfl⟩ := Entity.group_of_kind otherIsGroup
      obtain rfl : group.token = name := of_decide_eq_true otherAnswers
      exact isGroup (apart.group_of_answers otherStored stored answers)
    have sameLabel := (apart.label_of_answers stored isGroup answers).trans
      (apart.label_of_answers otherStored otherNoGroup otherAnswers).symm
    exact labelled.labels entity stored other otherStored sameLabel
      ⟨fun same => absurd same isGroup, fun same => absurd same otherNoGroup⟩

/-- At most one stored entity answers to a name. -/
theorem answers_at_most_once (apart : NamesApart isName catalogue) (name : Text) :
    catalogue.entities.countP (Entity.answersTo name) ≤ 1 :=
  countP_le_one apart.orderly.labelled.distinct
    (fun _ stored _ otherStored => apart.eq_of_answers stored otherStored)

end NamesApart

/-- At most one stored entity of a kind has a label. -/
theorem IsLabelled.label_at_most_once {catalogue : Catalogue} (labelled : catalogue.IsLabelled)
    (kind : EntityKind) (label : Text) :
    catalogue.entities.countP (fun entity => entity.kind = kind && entity.label = label) ≤ 1 := by
  refine countP_le_one labelled.distinct ?_
  intro entity stored other otherStored chosen chosenOther
  simp only [Bool.and_eq_true, decide_eq_true_eq] at chosen chosenOther
  refine labelled.labels entity stored other otherStored
    (chosen.2.trans chosenOther.2.symm) ?_
  rw [chosen.1, chosenOther.1]

end Catalogue

namespace Definition

open Catalogue

variable {isName : Text → Prop} {before : Catalogue}

/-- The token of a group that is defined is that of no group that stays, if the names are apart. -/
theorem token_fresh (apart : NamesApart isName before) {name : Option Text} {codes : List Text}
    {drawn : Text} (isDrawn : (group name codes).IsDrawnFor before drawn)
    (given : ∀ written, name = some written → isName written) {new other : ClassEntity}
    (same : (group name codes).entity before drawn = .classification new)
    (stored : .classification other ∈ before.entities)
    (kept : ¬ (group name codes).Displaces (.classification other)) :
    other.token ≠ new.token := by
  intro sameToken
  have origin := token_origin apart.orderly isDrawn same
  rw [← sameToken] at origin
  generalize isToken : other.token = token at origin
  cases origin with
  | named =>
    have label := apart.labels other stored (isToken ▸ given token rfl)
    exact kept ⟨label.symm.trans isToken, nofun⟩
  | @kept previous inside label =>
    obtain rfl := apart.fit.eq_of_token apart.orderly.labelled.distinct stored inside isToken
    exact kept ⟨label, fun _ => rfl⟩
  | drawn _ free =>
    have found := apart.fit.found apart.orderly.numbered apart.orderly.labelled.distinct stored
    rw [isToken, free] at found
    cases found

/-- The tokens of groups fit where the id for a definition is given out. -/
theorem site_tokens_fit (definition : Definition) (fit : before.TokensFit) :
    (definition.site before).2.TokensFit :=
  TokensFit.congr (definition.cleared_induction fit fit.released) (definition.site_contents before)

/-- The tokens of groups fit after a definition, if the names were apart. -/
theorem tokens_fit_after (apart : NamesApart isName before) {definition : Definition} {drawn : Text}
    (isDrawn : definition.IsDrawnFor before drawn)
    (given : ∀ written, definition.name? = some written → isName written)
    (orderly : (definition.after before drawn).IsOrderly) :
    (definition.after before drawn).TokensFit := by
  have labelled := apart.orderly.labelled
  have distinctSite := (definition.site_labelled labelled).distinct
  have stored_iff := definition.mem_after_iff apart.orderly.numbered labelled drawn
  refine (definition.site_tokens_fit apart.fit).store distinctSite ?_ ?_
  · intro group same
    exact orderly.groups group ((stored_iff _).mpr (.inl same.symm))
  · intro group same other inside different
    have stays := (distinctSite.mem_store (definition.entity before drawn) _).mpr
      (.inr ⟨inside, same ▸ different⟩)
    rcases (stored_iff _).mp stays with new | ⟨stored, kept⟩
    · rw [same] at new
      exact absurd (congrArg Entity.id new) different
    · cases definition with
      | group name codes => exact token_fresh apart isDrawn given same stored kept
      | word name linked => cases same
      | expression name linked => cases same

/-- A group that is defined and has a name for its token has the name for its label, and of the
entities that stay only groups share the label. -/
theorem new_group_labelled (apart : NamesApart isName before) {name : Option Text}
    {codes : List Text} {drawn : Text} (isDrawn : (group name codes).IsDrawnFor before drawn)
    {new : ClassEntity} (same : (group name codes).entity before drawn = .classification new)
    (notDrawn : name = none → new.token ∉ before.groupTokens → ¬ isName new.token)
    (named : isName new.token) :
    new.token = new.label ∧ ∀ entity ∈ before.entities, ¬ (group name codes).Displaces entity →
      entity.label = new.label → entity.kind = .classification := by
  have newLabel := ((group name codes).entity_facts before drawn).2.2
  rw [same] at newLabel
  change new.label = _ at newLabel
  have origin := token_origin apart.orderly isDrawn same
  rw [← newLabel] at origin
  generalize isToken : new.token = token at origin notDrawn named
  generalize isLabel : new.label = label at origin newLabel
  cases origin with
  | named =>
    refine ⟨(label_of_name rfl).symm.trans newLabel.symm, ?_⟩
    intro entity _ kept sameLabel
    exact absurd ⟨sameLabel.trans newLabel, nofun⟩ kept
  | @kept previous inside ofPrevious =>
    refine ⟨(apart.labels previous inside named).trans ofPrevious, ?_⟩
    intro entity stored _ sameLabel
    exact apart.others previous inside named entity stored (sameLabel.trans ofPrevious.symm)
  | drawn _ free =>
    refine absurd named (notDrawn rfl ?_)
    intro listed
    obtain ⟨other, stored, ofOther⟩ := mem_groupTokens.mp listed
    have found := apart.fit.found apart.orderly.numbered apart.orderly.labelled.distinct stored
    rw [ofOther, free] at found
    cases found

/-- The names are apart after a definition, if they were before and a token that is drawn for it is
no name. -/
theorem names_apart_after (apart : NamesApart isName before) {definition : Definition}
    {drawn : Text} (isDrawn : definition.IsDrawnFor before drawn)
    (given : ∀ written, definition.name? = some written → isName written)
    (orderly : (definition.after before drawn).IsOrderly)
    (notDrawn : definition.name? = none → ∀ token ∈ (definition.after before drawn).groupTokens,
      token ∉ before.groupTokens → ¬ isName token) :
    NamesApart isName (definition.after before drawn) := by
  have stored_iff := definition.mem_after_iff apart.orderly.numbered apart.orderly.labelled drawn
  obtain ⟨_, newKind, newLabel⟩ := definition.entity_facts before drawn
  have newGroup : ∀ new, .classification new = definition.entity before drawn → isName new.token →
      new.token = new.label ∧ ∀ entity ∈ before.entities, ¬ definition.Displaces entity →
        entity.label = new.label → entity.kind = .classification := by
    intro new same
    have listed : new.token ∈ (definition.after before drawn).groupTokens :=
      mem_groupTokens.mpr ⟨new, (stored_iff _).mpr (.inl same), rfl⟩
    cases definition with
    | group name codes =>
      exact new_group_labelled apart isDrawn same.symm (fun unnamed => notDrawn unnamed _ listed)
    | word name linked => cases same
    | expression name linked => cases same
  refine ⟨orderly, tokens_fit_after apart isDrawn given orderly, ?_, ?_, ?_⟩
  · intro entity stored noGroup
    rcases (stored_iff entity).mp stored with rfl | ⟨earlier, _⟩
    · rw [newKind] at noGroup
      obtain ⟨name, named⟩ :=
        Option.ne_none_iff_exists'.mp (fun none => noGroup (kind_of_unnamed none))
      rw [newLabel, label_of_name named]
      exact given name named
    · exact apart.names entity earlier noGroup
  · intro group stored named
    rcases (stored_iff _).mp stored with same | ⟨earlier, _⟩
    · exact (newGroup group same named).1
    · exact apart.labels group earlier named
  · intro group stored named entity entityStored sameLabel
    rcases (stored_iff _).mp stored with same | ⟨earlier, kept⟩
    · rcases (stored_iff entity).mp entityStored with rfl | ⟨entityEarlier, entityKept⟩
      · exact same ▸ rfl
      · exact (newGroup group same named).2 entity entityEarlier entityKept sameLabel
    · rcases (stored_iff entity).mp entityStored with rfl | ⟨entityEarlier, _⟩
      · -- The group shares the label and stays, so the definition is without a name.
        rw [newKind]
        refine kind_of_unnamed (Classical.byContradiction fun hasName => kept ?_)
        exact ⟨sameLabel.symm.trans newLabel, fun none => absurd none hasName⟩
      · exact apart.others group earlier named entity entityEarlier sameLabel

end Definition

namespace Workbook

/-- The name that a line gives to what it defines. -/
def definedName? (line : Text) : Option Text :=
  (Statement.parse line).toOption.bind Statement.name

/-- The names that lines give. -/
def usedNames (lines : List Text) : List Text := lines.filterMap definedName?

/-- The tokens that were drawn for a line: those that groups have behind a line without a name and
that no group had before. -/
def tokensDrawnBy (line : Text) (before after : Catalogue) : List Text :=
  if (definedName? line).isNone then
    after.groupTokens.filter (fun token => token ∉ before.groupTokens)
  else []

/-- The tokens that are drawn for lines in order. -/
def drawnTokens : List Text → Workspace → List Text
  | [], _ => []
  | line :: rest, start =>
    let next := ((outcomeOf line).run start).2
    tokensDrawnBy line start.catalogue next.catalogue ++ drawnTokens rest next

/-- A line that gives a name is read as a statement with the name. -/
theorem statement_of_name {line name : Text} (named : definedName? line = some name) :
    ∃ statement, Statement.parse line = .ok statement ∧ statement.name = some name := by
  unfold definedName? at named
  cases read : Statement.parse line with
  | error error => simp [read, Except.toOption] at named
  | ok statement =>
    rw [read] at named
    exact ⟨statement, rfl, named⟩

/-- What is defined has the name that the line gives. -/
theorem definedName_of_definition {line : Text} {before : Catalogue} {definition : Definition}
    (defines : definitionOf before line = some definition) :
    definedName? line = definition.name? := by
  obtain ⟨statement, read, named⟩ := name_of_definition defines
  rw [definedName?, read, ← named]
  rfl

variable {isName : Text → Prop} {line : Text} {before after : Catalogue}
  {outcome : Except Failure Achievement}

/-- A line keeps the names apart, if it gives a name among them and draws no token among them. -/
theorem LineEffect.names_apart (effect : LineEffect line before outcome after)
    (apart : Catalogue.NamesApart isName before)
    (given : ∀ name, definedName? line = some name → isName name)
    (notDrawn : ∀ token ∈ tokensDrawnBy line before after, ¬ isName token) :
    Catalogue.NamesApart isName after := by
  have orderly := effect.orderly apart.orderly
  cases effect with
  | kept => exact apart
  | refused definition =>
    have earlier : ∀ entity ∈ (definition.site before).2.entities, entity ∈ before.entities :=
      fun _ => definition.mem_of_mem_site
    exact ⟨orderly, definition.site_tokens_fit apart.fit,
      fun entity stored => apart.names entity (earlier entity stored),
      fun group stored => apart.labels group (earlier _ stored),
      fun group stored named entity entityStored =>
        apart.others group (earlier _ stored) named entity (earlier entity entityStored)⟩
  | stored definition defines drawn query logical isDrawn =>
    have sameName := definedName_of_definition defines
    rw [sameName] at given
    refine Definition.names_apart_after apart isDrawn given orderly ?_
    intro unnamed token listed new
    refine notDrawn token ?_
    rw [tokensDrawnBy, sameName, unnamed]
    exact List.mem_filter.mpr ⟨listed, by simpa using new⟩

/-- Lines keep the names apart, if the names that they give are among them and the tokens that are
drawn are not. The induction is on the lines, for any workspace in which they start. -/
theorem names_apart_after_lines {lines : List Text} {start : Workspace}
    (apart : Catalogue.NamesApart isName start.catalogue)
    (given : ∀ name ∈ usedNames lines, isName name)
    (notDrawn : ∀ token ∈ drawnTokens lines start, ¬ isName token) :
    Catalogue.NamesApart isName (afterLines lines start).catalogue := by
  induction lines generalizing start with
  | nil => exact apart
  | cons line rest inductionHypothesis =>
    have drawnFirst : ∀ token ∈ tokensDrawnBy line start.catalogue
        ((outcomeOf line).run start).2.catalogue, ¬ isName token :=
      fun token listed => notDrawn token (List.mem_append_left _ listed)
    refine inductionHypothesis ((line_effect line start).names_apart apart ?_ drawnFirst) ?_ ?_
    · exact fun name named => given name (List.mem_filterMap.mpr ⟨line, by simp, named⟩)
    · intro name listed
      obtain ⟨other, inside, named⟩ := List.mem_filterMap.mp listed
      exact given name (List.mem_filterMap.mpr ⟨other, List.mem_cons_of_mem _ inside, named⟩)
    · exact fun token listed => notDrawn token (List.mem_append_right _ listed)

/-- After any lines from the empty catalogue the names of the workbook are apart, if none of them
was drawn as a token. -/
theorem used_names_apart {lines : List Text} {limit : Int} {tokens : TokenSource}
    (notDrawn : ∀ token ∈ drawnTokens lines ⟨Catalogue.empty limit, tokens⟩,
      token ∉ usedNames lines) :
    Catalogue.NamesApart (· ∈ usedNames lines)
      (afterLines lines ⟨Catalogue.empty limit, tokens⟩).catalogue :=
  names_apart_after_lines (.empty _ limit) (fun _ listed => listed) notDrawn

/-- After any lines from the empty catalogue, of which any may have failed, at most one entity
answers to a name, if no token that was drawn is a name of the workbook; and at most one entity of a
kind has a label. -/
theorem names_mean_one_thing (limit : Int) (tokens : TokenSource) (lines : List Text)
    (notDrawn : ∀ token ∈ drawnTokens lines ⟨Catalogue.empty limit, tokens⟩,
      token ∉ usedNames lines) :
    (∀ name, (afterLines lines ⟨Catalogue.empty limit, tokens⟩).catalogue.entities.countP
        (Entity.answersTo name) ≤ 1) ∧
      ∀ kind label, (afterLines lines ⟨Catalogue.empty limit, tokens⟩).catalogue.entities.countP
        (fun entity => entity.kind = kind && entity.label = label) ≤ 1 :=
  ⟨(used_names_apart notDrawn).answers_at_most_once,
    (used_names_apart notDrawn).orderly.labelled.label_at_most_once⟩

/-- Lines that define a group by the code `A`, a group `F`, and a word `F`; then the first group
anew, and an expression `E`. Between them a third group finds no room, and the last line is no
statement. -/
def variedLines : List Text :=
  [['A', ' ', '/', 'C', 'P'], ['F', ' ', '=', ' ', 'B', ' ', '/', 'C', 'P'],
    ['G', ' ', '=', ' ', 'C', ' ', '/', 'C', 'P'], ['F', ' ', '=', ' ', 'X'],
    ['A', '+', 'F', ' ', '/', 'C', 'P'], ['E', ' ', '=', ' ', 'F', '*', 'Y'], ['X', '+']]

/-- One token is drawn, which is no name, and only the word answers to `F`. -/
theorem names_mean_one_thing_varied :
    drawnTokens variedLines ⟨Catalogue.empty 2, TokenSource.standard (congruential 1)⟩ =
        [['k', '2', 'H', 'f', 'z']] ∧
      usedNames variedLines = [['F'], ['G'], ['F'], ['E']] ∧
      (afterLines variedLines
        ⟨Catalogue.empty 2, TokenSource.standard (congruential 1)⟩).catalogue.entities.countP
          (Entity.answersTo ['F']) = 1 := by
  have drawn : drawnTokens variedLines
      ⟨Catalogue.empty 2, TokenSource.standard (congruential 1)⟩ = [['k', '2', 'H', 'f', 'z']] := by
    decide +kernel
  have used : usedNames variedLines = [['F'], ['G'], ['F'], ['E']] := by decide +kernel
  have notDrawn : ∀ token ∈ drawnTokens variedLines
      ⟨Catalogue.empty 2, TokenSource.standard (congruential 1)⟩,
      token ∉ usedNames variedLines := by
    rw [drawn, used]
    decide
  have stored : ∃ entity ∈ (afterLines variedLines
      ⟨Catalogue.empty 2, TokenSource.standard (congruential 1)⟩).catalogue.entities,
      entity.answersTo ['F'] = true := by decide +kernel
  obtain ⟨atMostOnce, _⟩ := names_mean_one_thing 2 (TokenSource.standard (congruential 1))
    variedLines notDrawn
  exact ⟨drawn, used, Nat.le_antisymm (atMostOnce ['F']) (List.countP_pos_iff.mpr stored)⟩

end Workbook

end PriorArt
