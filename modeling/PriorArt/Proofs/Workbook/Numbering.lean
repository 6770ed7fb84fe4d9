import PriorArt.Proofs.Catalogue.Release
import PriorArt.Proofs.Workbook.Lines

/-!
# Ids in the course of a workbook

Every line keeps the ids of a catalogue numbered, so the id that a definition gives out is that of
the entity in whose place the new one comes, or an id that no entity ever had. An entity goes
exactly when a line takes its name for an entity of another kind, and its id does not come back.
-/

namespace PriorArt

namespace Definition

variable {before : Catalogue}

/-- What holds before a definition and is kept by the release of a name holds after the release of
the name of the definition. -/
theorem cleared_induction {motive : Catalogue → Prop} (definition : Definition)
    (kept : motive before) (released : ∀ name keep, motive (before.released name keep)) :
    motive (definition.cleared before) := by
  unfold cleared
  split
  · exact released _ _
  · exact kept

/-- Releasing the name of a definition keeps the counters. -/
@[simp] theorem cleared_counters (definition : Definition) (before : Catalogue) :
    (definition.cleared before).counters = before.counters :=
  definition.cleared_induction (motive := fun after => after.counters = before.counters) rfl
    (Catalogue.released_counters before)

/-- Releasing the name of a definition keeps the ids numbered. -/
theorem cleared_numbered (definition : Definition) (numbered : before.IsNumbered) :
    (definition.cleared before).IsNumbered :=
  definition.cleared_induction numbered numbered.released

/-- What is found after the release of the name of a definition was found before. -/
theorem find_of_find_cleared {definition : Definition} {id : Text} {entity : Entity} :
    (definition.cleared before).find? id = some entity → before.find? id = some entity :=
  definition.cleared_induction
    (motive := fun after => after.find? id = some entity → before.find? id = some entity) (·)
    (fun _ _ => Catalogue.find_of_find_released)

/-- What is stored where the id is given out was stored before. -/
theorem mem_of_mem_site (definition : Definition) {entity : Entity} :
    entity ∈ (definition.site before).2.entities → entity ∈ before.entities := by
  rw [site_entities]
  exact definition.cleared_induction
    (motive := fun after => entity ∈ after.entities → entity ∈ before.entities) (·)
    (fun _ _ => Catalogue.mem_of_mem_released)

/-- The entity of a definition comes in the place of the first one of its kind with its label, or
else under the id behind the counter. -/
theorem site_cases (definition : Definition) (numbered : before.IsNumbered) :
    (∃ previous, (definition.cleared before).ofLabel? definition.label definition.kind =
        some previous ∧ definition.site before = (previous.id, definition.cleared before)) ∨
      definition.site before =
        (Catalogue.idOf definition.kind (before.counters.get definition.kind + 1),
          { definition.cleared before with
            counters := before.counters.set definition.kind
              (before.counters.get definition.kind + 1) }) := by
  have taken := (definition.cleared_numbered numbered).take_id_for_label definition.label
    definition.kind
  rw [cleared_counters] at taken
  exact taken.imp_right (fun absent => absent.2)

/-- Giving out an id for a definition does not lower a counter. -/
theorem site_counters_le (definition : Definition) (numbered : before.IsNumbered)
    (kind : EntityKind) :
    before.counters.get kind ≤ (definition.site before).2.counters.get kind := by
  rcases definition.site_cases numbered with ⟨previous, _, same⟩ | same
  · rw [same, cleared_counters]
  · rw [same]
    simp only [Catalogue.counters_get_set]
    split
    · next sameKind =>
      rw [sameKind]
      omega
    · exact Nat.le_refl _

/-- The id of a definition is of its kind. -/
theorem site_issued (definition : Definition) (numbered : before.IsNumbered) :
    (definition.site before).2.HasIssued definition.kind (definition.site before).1 := by
  rcases definition.site_cases numbered with ⟨previous, found, same⟩ | same
  · obtain ⟨stored, sameKind, _⟩ := Catalogue.of_label_some found
    rw [same, ← sameKind]
    exact definition.cleared_numbered numbered previous stored
  · rw [same]
    refine ⟨_, ?_, rfl⟩
    simp [Catalogue.counters_get_set]

/-- If the id of a definition was given out before, it is that of the entity in whose place the new
one comes. -/
theorem site_found (definition : Definition) (numbered : before.IsNumbered) {kind : EntityKind}
    (issued : before.HasIssued kind (definition.site before).1) :
    (definition.cleared before).find? (definition.site before).1 ≠ none := by
  rcases definition.site_cases numbered with ⟨previous, found, same⟩ | same
  · rw [same]
    exact Catalogue.find_of_stored (Catalogue.of_label_some found).1
  · rw [same] at issued
    obtain ⟨number, reached, sameId⟩ := issued
    obtain ⟨rfl, rfl⟩ := Catalogue.id_of_injective sameId
    exact absurd reached (Nat.not_succ_le_self _)

/-- Where the id is given out, the same is found as after the release of the name. -/
theorem find_site (definition : Definition) (before : Catalogue) (id : Text) :
    (definition.site before).2.find? id = (definition.cleared before).find? id := by
  rw [Catalogue.find_contents (definition.site_contents before)]

/-- Giving out an id for a definition keeps the ids numbered. -/
theorem site_numbered (definition : Definition) (numbered : before.IsNumbered) :
    (definition.site before).2.IsNumbered := by
  intro entity stored
  rw [site_entities] at stored
  refine (definition.cleared_numbered numbered entity stored).mono ?_
  rw [cleared_counters]
  exact definition.site_counters_le numbered entity.kind

/-- Storing the entity of a definition keeps the ids numbered. -/
theorem after_numbered (definition : Definition) (numbered : before.IsNumbered) (drawn : Text) :
    (definition.after before drawn).IsNumbered := by
  obtain ⟨sameId, sameKind, _⟩ := definition.entity_facts before drawn
  intro entity stored
  rw [after, Catalogue.store_entities] at stored
  rw [Catalogue.HasIssued, after, Catalogue.store_counters]
  rcases Catalogue.mem_replaceIn stored with rfl | earlier
  · rw [sameId, sameKind]
    exact definition.site_issued numbered
  · exact definition.site_numbered numbered entity earlier

/-- What is found after a definition: its entity under its id, and under other ids what was left
after the release of its name. -/
theorem find_after (definition : Definition) (before : Catalogue) (drawn id : Text) :
    (definition.after before drawn).find? id =
      if id = (definition.site before).1 then some (definition.entity before drawn)
      else (definition.cleared before).find? id := by
  rw [after, Catalogue.find_store, (definition.entity_facts before drawn).1, find_site]

end Definition

namespace Workbook

/-- A line takes the name of the entity with an id for an entity of another kind. -/
def TakesName (line : Text) (before : Catalogue) (id : Text) : Prop :=
  ∃ definition name, definitionOf before line = some definition ∧ definition.name? = some name ∧
    ∃ kind, kind ≠ definition.kind ∧
      ∃ entity, before.ofLabel? name kind = some entity ∧ entity.id = id

variable {line : Text} {before after : Catalogue} {outcome : Except Failure Achievement}

/-- What a line stores was stored before, or it is the entity that the line defines. -/
theorem LineEffect.mem_entities (effect : LineEffect line before outcome after) {entity : Entity}
    (stored : entity ∈ after.entities) :
    entity ∈ before.entities ∨
      ∃ definition drawn, definitionOf before line = some definition ∧
        entity = definition.entity before drawn := by
  cases effect with
  | kept => exact .inl stored
  | refused definition => exact .inl (definition.mem_of_mem_site stored)
  | stored definition defines drawn =>
    rw [Definition.after, Catalogue.store_entities] at stored
    rcases Catalogue.mem_replaceIn stored with same | earlier
    · exact .inr ⟨definition, drawn, defines, same⟩
    · exact .inl (definition.mem_of_mem_site earlier)

/-- A word that is stored behind a line was stored before, or the line defines it. -/
theorem LineEffect.mem_words (effect : LineEffect line before outcome after) {word : WordEntity}
    (stored : .word word ∈ after.entities) :
    .word word ∈ before.entities ∨ ∃ name linked drawn,
      definitionOf before line = some (.word name linked) ∧
        .word word = (Definition.word name linked).entity before drawn := by
  rcases effect.mem_entities stored with earlier | ⟨definition, drawn, defines, same⟩
  · exact .inl earlier
  · cases definition with
    | group name codes => cases same
    | expression name linked => cases same
    | word name linked => exact .inr ⟨name, linked, drawn, defines, same⟩

/-- A group that is stored behind a line was stored before, or the line defines it, for its distinct
codes. -/
theorem LineEffect.mem_groups (effect : LineEffect line before outcome after) {group : ClassEntity}
    (stored : .classification group ∈ after.entities) :
    .classification group ∈ before.entities ∨ ∃ name codes,
      definitionOf before line = some (.group name codes) ∧ group.codes = distinctCodes codes := by
  rcases effect.mem_entities stored with earlier | ⟨definition, drawn, defines, same⟩
  · exact .inl earlier
  · cases definition with
    | word name linked => cases same
    | expression name linked => cases same
    | group name codes =>
      exact .inr ⟨name, codes, defines, (Definition.group_entity same.symm).2⟩

/-- The tree of an expression that is stored behind a line was stored before, or the line defines an
expression by it. -/
theorem LineEffect.mem_roots (effect : LineEffect line before outcome after)
    {expression : ExpressionEntity} {root : Expr} (stored : .expression expression ∈ after.entities)
    (rooted : expression.root = some root) :
    .expression expression ∈ before.entities ∨
      ∃ name, definitionOf before line = some (.expression name root) := by
  rcases effect.mem_entities stored with earlier | ⟨definition, drawn, defines, same⟩
  · exact .inl earlier
  · cases definition with
    | group name codes => cases same
    | word name linked => cases same
    | expression name linked =>
      obtain rfl := Entity.expression.inj same
      obtain rfl := Option.some.inj rooted
      exact .inr ⟨name, defines⟩

/-- Every line preserves what storing and erasing preserve. -/
theorem LineEffect.stable {property : Catalogue → Prop} (stable : Catalogue.IsStable property)
    (effect : LineEffect line before outcome after) (holds : property before) : property after := by
  have ofSite : ∀ definition : Definition, property (definition.site before).2 := fun definition =>
    stable.congr (definition.site_contents before)
      (definition.cleared_induction holds (Catalogue.released_of_erase stable.erase holds))
  cases effect with
  | kept => exact holds
  | refused definition => exact ofSite definition
  | stored definition _ drawn => exact stable.store _ (ofSite definition)

/-- Every line keeps the ids numbered. -/
theorem LineEffect.numbered (effect : LineEffect line before outcome after)
    (numbered : before.IsNumbered) : after.IsNumbered := by
  cases effect with
  | kept => exact numbered
  | refused definition => exact definition.site_numbered numbered
  | stored definition _ drawn => exact definition.after_numbered numbered drawn

/-- No line lowers a counter. -/
theorem LineEffect.counters_le (effect : LineEffect line before outcome after)
    (numbered : before.IsNumbered) (kind : EntityKind) :
    before.counters.get kind ≤ after.counters.get kind := by
  cases effect with
  | kept => exact Nat.le_refl _
  | refused definition => exact definition.site_counters_le numbered kind
  | stored definition _ drawn =>
    rw [Definition.after, Catalogue.store_counters]
    exact definition.site_counters_le numbered kind

/-- An id is gone after the release of the name of a definition if it was before, or if the name
was taken from its entity. -/
theorem find_cleared_none_iff (numbered : before.IsNumbered) {definition : Definition}
    (defines : definitionOf before line = some definition) (id : Text) :
    (definition.cleared before).find? id = none ↔
      before.find? id = none ∨ TakesName line before id := by
  unfold Definition.cleared
  constructor
  · intro gone
    split at gone
    · next name named =>
      refine ((numbered.find_released_none_iff name definition.kind id).mp gone).imp_right ?_
      exact fun taken => ⟨definition, name, defines, named, taken⟩
    · exact .inl gone
  · rintro (absent | ⟨other, name, otherDefines, named, taken⟩)
    · split
      · exact (numbered.find_released_none_iff _ definition.kind id).mpr (.inl absent)
      · exact absent
    · obtain rfl : definition = other := Option.some.inj (defines.symm.trans otherDefines)
      rw [named]
      exact (numbered.find_released_none_iff name definition.kind id).mpr (.inr taken)

/-- After a line an id that had been given out is not in use exactly if it was not in use before,
or if the line took the name of its entity. -/
theorem LineEffect.find_none_iff (effect : LineEffect line before outcome after)
    (numbered : before.IsNumbered) {kind : EntityKind} {id : Text}
    (issued : before.HasIssued kind id) :
    after.find? id = none ↔ before.find? id = none ∨ TakesName line before id := by
  cases effect with
  | kept nothing =>
    have takesNothing : ¬ TakesName line before id := by
      rintro ⟨definition, _, defines, _⟩
      rw [nothing] at defines
      cases defines
    exact (or_iff_left takesNothing).symm
  | refused definition defines =>
    rw [definition.find_site]
    exact find_cleared_none_iff numbered defines id
  | stored definition defines drawn =>
    rw [definition.find_after, ← find_cleared_none_iff numbered defines]
    split
    · next same =>
      rw [same] at issued ⊢
      simp [definition.site_found numbered issued]
    · exact Iff.rfl

/-- The ids of a catalogue are numbered after any lines from the empty catalogue. -/
theorem numbered_after_lines (lines : List Text) (limit : Int) (tokens : TokenSource) :
    (afterLines lines ⟨Catalogue.empty limit, tokens⟩).catalogue.IsNumbered := by
  refine invariant_after_lines Catalogue.IsNumbered lines
    (fun line _ before outcome after effect => effect.numbered) ?_
  intro entity stored
  cases stored

/-- An id that was given out stays so after further lines. -/
theorem issued_after_lines {start : Workspace} (numbered : start.catalogue.IsNumbered)
    {kind : EntityKind} {id : Text} (issued : start.catalogue.HasIssued kind id)
    (lines : List Text) : (afterLines lines start).catalogue.HasIssued kind id := by
  have both := invariant_after_lines
    (fun catalogue => catalogue.IsNumbered ∧ catalogue.HasIssued kind id) lines ?_
    ⟨numbered, issued⟩
  · exact both.2
  · rintro line - before outcome after effect ⟨numberedBefore, issuedBefore⟩
    exact ⟨effect.numbered numberedBefore,
      issuedBefore.mono (effect.counters_le numberedBefore kind)⟩

end Workbook

/-!
## The tokens of groups that are referred to

A group keeps its token as long as it is stored, unless a line defines it again under a name of its
own. So what holds of the token of a group when an expression comes to refer to it goes on to hold
while lines give names only of which it holds too. The id of a group that has gone is not given out
again.
-/

/-- The id of a group whose token has a property as long as the group is stored. -/
structure Catalogue.IsGroupWith (catalogue : Catalogue) (property : Text → Prop) (id : Text) :
    Prop where
  issued : catalogue.HasIssued .classification id
  token : ∀ group, catalogue.find? id = some (.classification group) → property group.token

namespace Workbook

variable {property : Text → Prop} {line id : Text} {before after : Catalogue}
  {outcome : Except Failure Achievement}

/-- The token stays as it is when an id is given out. -/
theorem group_with_site (numbered : before.IsNumbered) (isGroup : before.IsGroupWith property id)
    (definition : Definition) : (definition.site before).2.IsGroupWith property id where
  issued := isGroup.issued.mono (definition.site_counters_le numbered .classification)
  token := by
    intro group found
    rw [definition.find_site] at found
    exact isGroup.token group (Definition.find_of_find_cleared found)

/-- If a definition is of the group itself, the group has the name that is given, or it keeps the
token that it had. -/
theorem group_with_after (filled : ∀ text, property text → text ≠ []) (numbered : before.IsNumbered)
    (isGroup : before.IsGroupWith property id) {definition : Definition}
    (named : ∀ given codes, definition = .group (some given) codes → property given)
    (drawn : Text) : (definition.after before drawn).IsGroupWith property id where
  issued := by
    rw [Catalogue.HasIssued, Definition.after, Catalogue.store_counters]
    exact (group_with_site numbered isGroup definition).issued
  token := by
    intro group found
    rw [definition.find_after] at found
    split at found
    · next same =>
      cases definition with
      | word name linked => cases found
      | expression name linked => cases found
      | group name codes =>
        rw [(Definition.group_entity (Option.some.inj found)).1]
        cases name with
        | some given => exact named given codes rfl
        | none =>
          have issued := isGroup.issued
          rw [same] at issued
          have stays := Definition.site_found (.group none codes) numbered issued
          obtain ⟨previous, foundPrevious⟩ := Option.ne_none_iff_exists'.mp stays
          have foundBefore := Definition.find_of_find_cleared foundPrevious
          have kind := numbered.kind_of_find issued foundBefore
          cases previous with
          | word entity => cases kind
          | expression entity => cases kind
          | classification entity =>
            have holds := isGroup.token entity (same ▸ foundBefore)
            rw [← Definition.find_site] at foundPrevious
            rw [foundPrevious, Definition.groupToken_kept (filled _ holds)]
            exact holds
    · exact isGroup.token group (Definition.find_of_find_cleared found)

/-- The token of a group has the property after a line as well, if the names of groups have it. -/
theorem LineEffect.group_with (effect : LineEffect line before outcome after)
    (filled : ∀ text, property text → text ≠ []) (numbered : before.IsNumbered)
    (isGroup : before.IsGroupWith property id)
    (named : ∀ given codes, definitionOf before line = some (.group (some given) codes) →
      property given) : after.IsGroupWith property id := by
  cases effect with
  | kept => exact isGroup
  | refused definition => exact group_with_site numbered isGroup definition
  | stored definition defines drawn =>
    refine group_with_after filled numbered isGroup ?_ drawn
    rintro given codes rfl
    exact named given codes defines

end Workbook

end PriorArt
