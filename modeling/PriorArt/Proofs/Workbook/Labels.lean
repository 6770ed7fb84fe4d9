import PriorArt.Proofs.Catalogue.Labels
import PriorArt.Proofs.Query.GroupSearch
import PriorArt.Proofs.Workbook.References

/-!
# What a definition displaces

A definition with a name displaces all that has the name for its label. A group of codes without a
name has its first code for its label; it displaces the group with this label, of which it keeps
the token. Everything else stays as it is.

A label is not always a name: it may be the first code of a group that was given none. So a
definition with a name may displace a group that does not answer to the name, and a group without a
name may take the place of one that was given its name by a line.
-/

namespace PriorArt

/-- Whether an entity is what a name stands for: words and groups of codes are found by token, and
expressions by label. -/
def Entity.answersTo (name : Text) : Entity → Bool
  | word entity => entity.token = name
  | classification entity => entity.token = name
  | expression entity => entity.label = name

/-- A catalogue as lines leave it: the ids are numbered, labels tell entities apart, words have
their label for a token, and every group has a token. The label of a group is its token, if a line
gave it its name, or else its first code. -/
structure Catalogue.IsOrderly (catalogue : Catalogue) : Prop where
  numbered : catalogue.IsNumbered
  labelled : catalogue.IsLabelled
  words : ∀ word, .word word ∈ catalogue.entities → word.token = word.label
  groups : ∀ group, .classification group ∈ catalogue.entities → group.token ≠ []
  groupLabels : ∀ group, .classification group ∈ catalogue.entities →
    group.token = group.label ∨ group.codes.head? = some group.label

/-- The empty catalogue is orderly. -/
theorem Catalogue.empty_orderly (limit : Int) : (empty limit).IsOrderly :=
  ⟨nofun, ⟨List.nodup_nil, nofun⟩, nofun, nofun, nofun⟩

namespace Definition

variable {before : Catalogue}

/-- An entity makes way for a definition: it has the label of the definition, and it is a group of
codes if the definition is without a name. -/
def Displaces (definition : Definition) (entity : Entity) : Prop :=
  entity.label = definition.label ∧ (definition.name? = none → entity.kind = .classification)

/-- The release of the name of a definition takes everything of another kind that it displaces. -/
theorem mem_cleared_iff (definition : Definition) (labelled : before.IsLabelled) (entity : Entity) :
    entity ∈ (definition.cleared before).entities ↔
      entity ∈ before.entities ∧
        ¬ (definition.Displaces entity ∧ entity.kind ≠ definition.kind) := by
  unfold cleared Displaces
  cases named : definition.name? with
  | none =>
    refine (and_iff_left ?_).symm
    rintro ⟨⟨_, isGroup⟩, different⟩
    exact different ((isGroup rfl).trans (kind_of_unnamed named).symm)
  | some name =>
    simp only [reduceCtorEq, false_implies, and_true, label_of_name named]
    exact labelled.mem_released_iff name definition.kind entity

/-- The labels tell entities apart after the release of the name of a definition. -/
theorem cleared_labelled (definition : Definition) (labelled : before.IsLabelled) :
    (definition.cleared before).IsLabelled :=
  definition.cleared_induction labelled
    (fun name keep => labelled.of_sublist (Catalogue.released_sublist before name keep))

/-- The labels tell entities apart where the id for a definition is given out. -/
theorem site_labelled (definition : Definition) (labelled : before.IsLabelled) :
    (definition.site before).2.IsLabelled := by
  apply (definition.cleared_labelled labelled).of_sublist
  rw [site_entities]

/-- After a definition its entity is stored, and of the others those that it does not displace. -/
theorem mem_after_iff (definition : Definition) (numbered : before.IsNumbered)
    (labelled : before.IsLabelled) (drawn : Text) (entity : Entity) :
    entity ∈ (definition.after before drawn).entities ↔
      entity = definition.entity before drawn ∨
        entity ∈ before.entities ∧ ¬ definition.Displaces entity := by
  have hasSite : ∀ entity ∈ (definition.cleared before).entities,
      entity.id = (definition.site before).1 ↔
        entity.label = definition.label ∧ entity.kind = definition.kind := fun _ stored =>
    (definition.cleared_labelled labelled).take_id_for_label_iff
      (definition.cleared_numbered numbered) definition.label definition.kind stored
  rw [after, (definition.site_labelled labelled).distinct.mem_store,
    (definition.entity_facts before drawn).1, site_entities]
  refine or_congr_right ?_
  constructor
  · rintro ⟨stored, otherId⟩
    obtain ⟨storedBefore, kept⟩ := (definition.mem_cleared_iff labelled entity).mp stored
    refine ⟨storedBefore, fun displaced => kept ⟨displaced, fun sameKind => otherId ?_⟩⟩
    exact (hasSite entity stored).mpr ⟨displaced.1, sameKind⟩
  · rintro ⟨storedBefore, kept⟩
    have stored := (definition.mem_cleared_iff labelled entity).mpr
      ⟨storedBefore, fun displaced => kept displaced.1⟩
    refine ⟨stored, fun sameId => kept ?_⟩
    obtain ⟨sameLabel, sameKind⟩ := (hasSite entity stored).mp sameId
    exact ⟨sameLabel, fun unnamed => sameKind.trans (kind_of_unnamed unnamed)⟩

/-- The labels tell entities apart after a definition. -/
theorem after_labelled (definition : Definition) (numbered : before.IsNumbered)
    (labelled : before.IsLabelled) (drawn : Text) : (definition.after before drawn).IsLabelled where
  distinct := (definition.site_labelled labelled).distinct.store _
  labels := by
    obtain ⟨_, newKind, newLabel⟩ := definition.entity_facts before drawn
    -- What is displaced is all that shares the label with the new entity.
    have alone : ∀ other ∈ before.entities, ¬ definition.Displaces other →
        other.label = definition.label →
        ¬ (other.kind = .classification ↔ definition.kind = .classification) := by
      intro other _ kept sameLabel sameKind
      exact kept ⟨sameLabel, fun unnamed => sameKind.mpr (kind_of_unnamed unnamed)⟩
    intro entity stored other otherStored sameLabel sameKind
    rcases (definition.mem_after_iff numbered labelled drawn entity).mp stored with
      rfl | ⟨earlier, kept⟩
    · rcases (definition.mem_after_iff numbered labelled drawn other).mp otherStored with
        rfl | ⟨otherEarlier, otherKept⟩
      · rfl
      · rw [newLabel] at sameLabel
        rw [newKind] at sameKind
        exact absurd sameKind.symm (alone other otherEarlier otherKept sameLabel.symm)
    · rcases (definition.mem_after_iff numbered labelled drawn other).mp otherStored with
        rfl | ⟨otherEarlier, otherKept⟩
      · rw [newLabel] at sameLabel
        rw [newKind] at sameKind
        exact absurd sameKind (alone entity earlier kept sameLabel)
      · exact labelled.labels entity earlier other otherEarlier sameLabel sameKind

/-- An entity that is defined with a name answers to the name. -/
theorem entity_answers (definition : Definition) {name : Text}
    (named : definition.name? = some name) (drawn : Text) :
    (definition.entity before drawn).answersTo name = true := by
  cases definition with
  | group given codes =>
    obtain rfl : given = some name := named
    exact decide_eq_true rfl
  | word given linked => exact decide_eq_true (Option.some.inj named)
  | expression given linked => exact decide_eq_true (Option.some.inj named)

/-- Where the token of a group that is defined comes from, by the name and the label that it is
given. -/
inductive TokenOrigin (before : Catalogue) (label : Text) : Option Text → Text → Prop where
  /-- A group with a name has the name for its token. -/
  | named (name : Text) : TokenOrigin before label (some name) name
  /-- A group without a name keeps the token of the group with its label. -/
  | kept {previous : ClassEntity} (stored : .classification previous ∈ before.entities)
      (labelled : previous.label = label) : TokenOrigin before label none previous.token
  /-- If there is no such group, the token is drawn and stands for no group. -/
  | drawn {token : Text}
      (absent : ∀ group, .classification group ∈ before.entities → group.label ≠ label)
      (free : before.classOfToken? token = none) (filled : token ≠ []) :
      TokenOrigin before label none token

/-- The token of a group that is defined has an origin. -/
theorem token_origin (orderly : before.IsOrderly) {name : Option Text} {codes : List Text}
    {drawn : Text} (isDrawn : (group name codes).IsDrawnFor before drawn) {stored : ClassEntity}
    (same : (group name codes).entity before drawn = .classification stored) :
    TokenOrigin before (group name codes).label name stored.token := by
  rw [(group_entity same).1, find_site]
  cases name with
  | some name => exact .named name
  | none =>
    have hasSite : ∀ entity ∈ before.entities,
        entity.id = ((group none codes).site before).1 ↔
          entity.label = (group none codes).label ∧ entity.kind = .classification :=
      fun _ inside => orderly.labelled.take_id_for_label_iff orderly.numbered _ _ inside
    change TokenOrigin before _ none
      (groupToken none (before.find? ((group none codes).site before).1) drawn)
    cases found : before.find? ((group none codes).site before).1 with
    | none =>
      have free := isDrawn codes rfl (by simp [found])
      refine .drawn ?_ free.1 free.2
      intro other otherStored sameLabel
      have sameId := (hasSite _ otherStored).mpr ⟨sameLabel, rfl⟩
      exact Catalogue.find_of_stored otherStored (sameId ▸ found)
    | some entity =>
      have inside := List.mem_of_find?_eq_some found
      obtain ⟨sameLabel, isGroup⟩ := (hasSite entity inside).mp (Catalogue.id_of_find found)
      cases entity with
      | word entity => cases isGroup
      | expression entity => cases isGroup
      | classification previous =>
        rw [groupToken_kept (orderly.groups previous inside)]
        exact .kept inside sameLabel

/-- A group without a name has the id and the token of the group in whose place it comes. -/
theorem takes_place (orderly : before.IsOrderly) {codes : List Text} {drawn : Text}
    (isDrawn : (group none codes).IsDrawnFor before drawn) {stored previous : ClassEntity}
    (same : (group none codes).entity before drawn = .classification stored)
    (inside : .classification previous ∈ before.entities)
    (sameLabel : previous.label = stored.label) :
    previous.id = stored.id ∧ previous.token = stored.token := by
  obtain ⟨newId, _, newLabel⟩ := (group none codes).entity_facts before drawn
  rw [same] at newId newLabel
  have label : previous.label = (group none codes).label := sameLabel.trans newLabel
  constructor
  · have sameId := orderly.labelled.take_id_for_label_iff orderly.numbered
      (group none codes).label .classification inside
    exact (sameId.mpr ⟨label, rfl⟩).trans newId.symm
  · have origin := token_origin orderly isDrawn same
    generalize stored.token = token at origin
    cases origin with
    | kept other otherLabel =>
      have samePlace := orderly.labelled.labels _ inside _ other
        (label.trans otherLabel.symm : previous.label = _) Iff.rfl
      rw [Entity.classification.inj samePlace]
    | drawn absent => exact absurd label (absent previous inside)

end Definition

namespace Workbook

variable {line : Text} {before after : Catalogue} {outcome : Except Failure Achievement}

/-- A name that is defined has characters. -/
theorem defined_name_filled {definition : Definition}
    (defines : definitionOf before line = some definition) {name : Text}
    (named : definition.name? = some name) : name ≠ [] := by
  obtain ⟨statement, read, sameName⟩ := name_of_definition defines
  exact Statement.name_filled read (sameName.trans named)

/-- The label of a group that is defined is its token or its first code. -/
theorem new_group_label {name : Option Text} {codes : List Text}
    (defines : definitionOf before line = some (.group name codes)) {drawn : Text}
    {new : ClassEntity}
    (same : (Definition.group name codes).entity before drawn = .classification new) :
    new.token = new.label ∨ new.codes.head? = some new.label := by
  obtain ⟨statement, read, _, _, ofCodes⟩ := defines_group_iff.mp defines
  have label := ((Definition.group name codes).entity_facts before drawn).2.2
  rw [same] at label
  obtain ⟨token, sameCodes⟩ := Definition.group_entity same
  rw [show new.label = name.getD (codes.headD []) from label, token, sameCodes]
  cases name with
  | some name => exact .inl rfl
  | none =>
    have areCodes := Expr.codes_are_codes (Statement.words_are_runs read) ofCodes
    rw [areCodes.distinct.2]
    obtain ⟨code, others, rfl⟩ := List.exists_cons_of_ne_nil areCodes.filled
    exact .inr rfl

/-- The token of a group that is defined has characters. -/
theorem new_group_filled (orderly : before.IsOrderly) {name : Option Text} {codes : List Text}
    (defines : definitionOf before line = some (.group name codes)) {drawn : Text}
    (isDrawn : (Definition.group name codes).IsDrawnFor before drawn) {new : ClassEntity}
    (same : (Definition.group name codes).entity before drawn = .classification new) :
    new.token ≠ [] := by
  have origin := Definition.token_origin orderly isDrawn same
  generalize new.token = token at origin
  cases origin with
  | named => exact defined_name_filled defines rfl
  | kept inside => exact orderly.groups _ inside
  | drawn _ _ filled => exact filled

/-- Every line leaves an orderly catalogue behind. -/
theorem LineEffect.orderly (effect : LineEffect line before outcome after)
    (orderly : before.IsOrderly) : after.IsOrderly := by
  cases effect with
  | kept => exact orderly
  | refused definition =>
    have earlier : ∀ entity ∈ (definition.site before).2.entities, entity ∈ before.entities :=
      fun _ => definition.mem_of_mem_site
    exact ⟨definition.site_numbered orderly.numbered, definition.site_labelled orderly.labelled,
      fun word stored => orderly.words word (earlier _ stored),
      fun group stored => orderly.groups group (earlier _ stored),
      fun group stored => orderly.groupLabels group (earlier _ stored)⟩
  | stored definition defines drawn query logical isDrawn =>
    have stored_cases := definition.mem_after_iff orderly.numbered orderly.labelled drawn
    refine ⟨definition.after_numbered orderly.numbered drawn,
      definition.after_labelled orderly.numbered orderly.labelled drawn, ?_, ?_, ?_⟩
    · intro word stored
      rcases (stored_cases _).mp stored with new | ⟨earlier, _⟩
      · cases definition with
        | word name linked => rw [Entity.word.inj new]
        | group name codes => cases new
        | expression name linked => cases new
      · exact orderly.words word earlier
    · intro group stored
      rcases (stored_cases _).mp stored with new | ⟨earlier, _⟩
      · cases definition with
        | word name linked => cases new
        | expression name linked => cases new
        | group name codes => exact new_group_filled orderly defines isDrawn new.symm
      · exact orderly.groups group earlier
    · intro group stored
      rcases (stored_cases _).mp stored with new | ⟨earlier, _⟩
      · cases definition with
        | word name linked => cases new
        | expression name linked => cases new
        | group name codes => exact new_group_label defines new.symm
      · exact orderly.groupLabels group earlier

/-- After any lines from the empty catalogue the catalogue is orderly. -/
theorem orderly_after_lines (lines : List Text) (limit : Int) (tokens : TokenSource) :
    (afterLines lines ⟨Catalogue.empty limit, tokens⟩).catalogue.IsOrderly :=
  invariant_after_lines Catalogue.IsOrderly lines (fun _ _ _ _ _ effect => effect.orderly)
    (Catalogue.empty_orderly limit)

/-- A line with a name that succeeds stores an entity that answers to the name, and displaces what
has the name for its label. -/
theorem named_line_frame {start after : Workspace} (orderly : start.catalogue.IsOrderly)
    {statement : Statement} (read : Statement.parse line = .ok statement) {name : Text}
    (named : statement.name = some name) {achievement : Achievement}
    (success : (outcomeOf line).run start = (.ok achievement, after)) :
    ∃ defined : Entity, achievement.id? = some defined.id ∧ defined.answersTo name = true ∧
      ∀ entity, entity ∈ after.catalogue.entities ↔
        entity = defined ∨ entity ∈ start.catalogue.entities ∧ entity.label ≠ name := by
  obtain ⟨definition, drawn, _, sameName, left, ofId, _⟩ := named_line_stores read named success
  refine ⟨definition.entity start.catalogue drawn, ?_, ?_, ?_⟩
  · rw [ofId, (definition.entity_facts start.catalogue drawn).1]
  · exact definition.entity_answers sameName drawn
  · intro entity
    rw [left, definition.mem_after_iff orderly.numbered orderly.labelled, Definition.Displaces,
      Definition.label_of_name sameName, sameName]
    simp

/-- A line without a name that succeeds in defining a group of codes displaces the group with the
first of its codes for a label. The new group has the id and the token of the old one. -/
theorem unnamed_line_frame {start after : Workspace} (orderly : start.catalogue.IsOrderly)
    {statement : Statement} (read : Statement.parse line = .ok statement)
    (unnamed : statement.name = none) {id query : Text}
    (success : (outcomeOf line).run start = (.ok (.classification id query), after)) :
    ∃ codes group, statement.expr.codes = .ok codes ∧ codes.head? = some group.label ∧
      group.id = id ∧ group.codes = distinctCodes codes ∧
      (∀ entity, entity ∈ after.catalogue.entities ↔
        entity = .classification group ∨ entity ∈ start.catalogue.entities ∧
          ¬ (entity.kind = .classification ∧ entity.label = group.label)) ∧
      ∀ previous, .classification previous ∈ start.catalogue.entities →
        previous.label = group.label → previous.id = group.id ∧ previous.token = group.token := by
  have effect := line_effect line start
  rw [success] at effect
  dsimp only at effect
  generalize achieved : Except.ok (Achievement.classification id query) = outcome at effect
  generalize after.catalogue = stored at effect ⊢
  cases effect with
  | kept nothing answers =>
    obtain ⟨_, _, _, isQuery⟩ := answers _ achieved.symm
    cases isQuery
  | refused definition defines failure => cases achieved
  | stored definition defines drawn written logical isDrawn reports =>
    cases definition with
    | word name linked => cases achieved
    | expression name linked => cases achieved
    | group name codes =>
      obtain ⟨other, otherRead, sameName, _, ofCodes⟩ := defines_group_iff.mp defines
      obtain rfl := Except.ok.inj (read.symm.trans otherRead)
      obtain rfl : none = name := unnamed.symm.trans sameName
      obtain ⟨sameId, _⟩ := Achievement.classification.inj (Except.ok.inj achieved)
      obtain ⟨group, same⟩ : ∃ group, (Definition.group none codes).entity start.catalogue drawn =
        .classification group := ⟨_, rfl⟩
      obtain ⟨newId, _, newLabel⟩ :=
        (Definition.group none codes).entity_facts start.catalogue drawn
      rw [same] at newId newLabel
      refine ⟨codes, group, ofCodes, ?_, newId.trans sameId.symm, (Definition.group_entity same).2,
        ?_, fun previous => Definition.takes_place orderly isDrawn same⟩
      · rw [show group.label = codes.headD [] from newLabel]
        obtain ⟨code, others, rfl⟩ := List.exists_cons_of_ne_nil (Expr.codes_of_words ofCodes).2
        rfl
      · intro entity
        rw [Definition.mem_after_iff _ orderly.numbered orderly.labelled, same,
          Definition.Displaces, ← newLabel]
        simp [Definition.name?, Entity.label, and_comm]

/-- A line that succeeds in defining something touches no label but its own. With a name it
displaces what has the name for its label; of this only groups of codes may not answer to the name,
those that have it for their first code. Without a name it displaces the group that has the first
code of the line for its label, and the new group keeps the id and the token of this one. -/
theorem definitions_touch_their_label (limit : Int) (tokens : TokenSource) (lines : List Text)
    (line : Text) (statement : Statement) (achievement : Achievement) (after : Workspace)
    (read : Statement.parse line = .ok statement)
    (success : (outcomeOf line).run (afterLines lines ⟨Catalogue.empty limit, tokens⟩) =
      (.ok achievement, after)) :
    (∀ name, statement.name = some name →
      (∃ defined : Entity, achievement.id? = some defined.id ∧ defined.answersTo name = true ∧
        ∀ entity, entity ∈ after.catalogue.entities ↔
          entity = defined ∨
            entity ∈ (afterLines lines ⟨Catalogue.empty limit, tokens⟩).catalogue.entities ∧
              entity.label ≠ name) ∧
      ∀ entity ∈ (afterLines lines ⟨Catalogue.empty limit, tokens⟩).catalogue.entities,
        entity.label = name → entity.answersTo name = false →
          ∃ group, entity = .classification group ∧ group.codes.head? = some name) ∧
    (∀ id query, statement.name = none → achievement = .classification id query →
      ∃ codes group, statement.expr.codes = .ok codes ∧ codes.head? = some group.label ∧
        group.id = id ∧ group.codes = distinctCodes codes ∧
        (∀ entity, entity ∈ after.catalogue.entities ↔
          entity = .classification group ∨
            entity ∈ (afterLines lines ⟨Catalogue.empty limit, tokens⟩).catalogue.entities ∧
              ¬ (entity.kind = .classification ∧ entity.label = group.label)) ∧
        ∀ previous, .classification previous ∈
            (afterLines lines ⟨Catalogue.empty limit, tokens⟩).catalogue.entities →
          previous.label = group.label →
            previous.id = group.id ∧ previous.token = group.token) := by
  have orderly := orderly_after_lines lines limit tokens
  constructor
  · intro name named
    refine ⟨named_line_frame orderly read named success, ?_⟩
    intro entity stored labelled silent
    cases entity with
    | classification group =>
      have label : group.label = name := labelled
      refine ⟨group, rfl, ?_⟩
      rcases orderly.groupLabels group stored with ofToken | ofCode
      · simp [Entity.answersTo, ofToken, label] at silent
      · exact ofCode.trans (congrArg some label)
    | word word =>
      have answers : word.token = name := (orderly.words word stored).trans labelled
      simp [Entity.answersTo, answers] at silent
    | expression expression =>
      have answers : expression.label = name := labelled
      simp [Entity.answersTo, answers] at silent
  · rintro id query unnamed rfl
    exact unnamed_line_frame orderly read unnamed success

/-- A line that defines a group without a name, by the code `A`. -/
def codeLine : Text := ['A', ' ', '/', 'C', 'P']

/-- A line that defines a group `F`. -/
def groupLine : Text := ['F', ' ', '=', ' ', 'B', ' ', '/', 'C', 'P']

/-- The workspace after the two lines. -/
def colliding : Workspace :=
  afterLines [codeLine, groupLine] ⟨Catalogue.empty 5, TokenSource.standard (congruential 1)⟩

/-- The group of the first line. -/
def codeGroup : ClassEntity :=
  ⟨['C', 'B', '-', '0', '0', '0', '1'], ['A'], ['k', '2', 'H', 'f', 'z'], [['A']]⟩

/-- The group of the second line. -/
def namedGroup : ClassEntity := ⟨['C', 'B', '-', '0', '0', '0', '2'], ['F'], ['F'], [['B']]⟩

/-- A line that defines a word with the name that the first group has for its code. -/
def wordLine : Text := ['A', ' ', '=', ' ', 'X']

/-- What the line achieves. -/
def wordAchievement : Achievement :=
  .word ['W', 'B', '-', '0', '0', '0', '1'] ['X', '/', 'T', 'X'] ['X']

/-- The workspace after the line. -/
def worded : Workspace := ((outcomeOf wordLine).run colliding).2

/-- A line that defines a group without a name, by a code that is the name of the second group. -/
def nameLine : Text := ['F', ' ', '/', 'C', 'P']

/-- The search of the group. -/
def nameSearch : Text :=
  ['[', '(', 'F', ')', '/', 'C', 'P', '+', '(', 'F', ')', '/', 'F', 'I', ']']

/-- The workspace after the line. -/
def renewed : Workspace := ((outcomeOf nameLine).run colliding).2

/-- The first line displaces a group that does not answer to its name. The second one has no name
and redefines a group that a line with a name has stored. -/
theorem labels_collide :
    (Statement.parse wordLine = .ok ⟨some ['A'], .word ['X'], none⟩ ∧
      (outcomeOf wordLine).run colliding = (.ok wordAchievement, worded) ∧
      .classification codeGroup ∈ colliding.catalogue.entities ∧
      (Entity.classification codeGroup).answersTo ['A'] = false ∧
      .classification codeGroup ∉ worded.catalogue.entities) ∧
    (Statement.parse groupLine = .ok ⟨some ['F'], .word ['B'], some .primaryClass⟩ ∧
      (outcomeOf groupLine).run
          (afterLines [codeLine] ⟨Catalogue.empty 5, TokenSource.standard (congruential 1)⟩) =
        (.ok (.classification namedGroup.id namedGroup.search), colliding) ∧
      .classification namedGroup ∈ colliding.catalogue.entities ∧
      Statement.parse nameLine = .ok ⟨none, .word ['F'], some .primaryClass⟩ ∧
      (outcomeOf nameLine).run colliding =
        (.ok (.classification namedGroup.id nameSearch), renewed) ∧
      .classification namedGroup ∉ renewed.catalogue.entities) :=
  ⟨⟨rfl, rfl, by decide +kernel, by decide, by decide +kernel⟩,
    rfl, rfl, by decide +kernel, rfl, rfl, by decide +kernel⟩

/-- The same two lines touch nothing else, and the group `F` keeps its id and its token. -/
theorem definitions_touch_their_label_colliding :
    Statement.parse wordLine = .ok ⟨some ['A'], .word ['X'], none⟩ ∧
      (outcomeOf wordLine).run colliding = (.ok wordAchievement, worded) ∧
      (∃ defined : Entity, wordAchievement.id? = some defined.id ∧
        defined.answersTo ['A'] = true ∧
        ∀ entity, entity ∈ worded.catalogue.entities ↔
          entity = defined ∨ entity ∈ colliding.catalogue.entities ∧ entity.label ≠ ['A']) ∧
      Statement.parse nameLine = .ok ⟨none, .word ['F'], some .primaryClass⟩ ∧
      (outcomeOf nameLine).run colliding =
        (.ok (.classification namedGroup.id nameSearch), renewed) ∧
      ∃ group, .classification group ∈ renewed.catalogue.entities ∧ group.codes = [['F']] ∧
        group.id = namedGroup.id ∧ group.token = namedGroup.token := by
  have readWord : Statement.parse wordLine = .ok ⟨some ['A'], .word ['X'], none⟩ := rfl
  have defines : (outcomeOf wordLine).run colliding = (.ok wordAchievement, worded) := rfl
  have readName : Statement.parse nameLine = .ok ⟨none, .word ['F'], some .primaryClass⟩ := rfl
  have redefines : (outcomeOf nameLine).run colliding =
    (.ok (.classification namedGroup.id nameSearch), renewed) := rfl
  have stored : .classification namedGroup ∈ colliding.catalogue.entities := by decide +kernel
  obtain ⟨touched, _⟩ := (definitions_touch_their_label 5 (TokenSource.standard (congruential 1))
    [codeLine, groupLine] wordLine _ _ _ readWord defines).1 ['A'] rfl
  obtain ⟨codes, group, ofCodes, first, _, distinct, touchedGroup, keeps⟩ :=
    (definitions_touch_their_label 5 (TokenSource.standard (congruential 1))
      [codeLine, groupLine] nameLine _ _ _ readName redefines).2 _ _ rfl rfl
  obtain rfl : [['F']] = codes := Except.ok.inj ofCodes
  obtain ⟨sameId, sameToken⟩ := keeps namedGroup stored (Option.some.inj first)
  exact ⟨readWord, defines, touched, readName, redefines, group,
    (touchedGroup _).mpr (.inl rfl), distinct, sameId.symm, sameToken.symm⟩

end Workbook

end PriorArt
