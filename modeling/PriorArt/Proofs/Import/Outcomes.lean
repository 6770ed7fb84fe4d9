import PriorArt.Proofs.Import.Runs

/-!
# What became of the factors

A factor that was imported failed, or it is found in the catalogue afterwards: a span as the group of
its codes, and any other factor as an expression with its logical form as the label, which refers to
the words for the unions in the factor. This stays so while the catalogue grows. So it holds of all
factors when the last one has been imported.

An expression may have been replaced by then, if a later factor has the same logical form. What is
found under the id of an entity is still an entity of the same kind.

The report lists the entities that were given for the factors, one under each id.
-/

namespace PriorArt

/-- A report that lists some of the given entities, and one for each of their ids. -/
structure ImportReport.Lists (report : ImportReport) (entities : List Entity) : Prop where
  given : ∀ entity ∈ report.entities, entity ∈ entities
  each : ∀ entity ∈ entities, ∃ listed ∈ report.entities, listed.id = entity.id

/-- A report lists an entity that is recorded, or another one with its id. -/
theorem ImportReport.Lists.record {report : ImportReport} {entities : List Entity}
    (lists : report.Lists entities) (entity : Entity) :
    (report.record entity).Lists (entities ++ [entity]) := by
  unfold ImportReport.record
  split
  · next known =>
    obtain ⟨recorded, inside, sameId⟩ := List.any_eq_true.mp known
    constructor
    case given => exact fun other listed => List.mem_append_left _ (lists.given other listed)
    case each =>
      refine List.forall_mem_append.mpr ⟨lists.each, ?_⟩
      simpa using ⟨recorded, inside, by simpa using sameId⟩
  · constructor
    case given =>
      refine List.forall_mem_append.mpr ⟨?_, by simp⟩
      exact fun other listed => List.mem_append_left _ (lists.given other listed)
    case each =>
      refine List.forall_mem_append.mpr ⟨fun other given => ?_, by simp⟩
      obtain ⟨listed, inside, sameId⟩ := lists.each other given
      exact ⟨listed, List.mem_append_left _ inside, sameId⟩

namespace Import

open Action Catalogue

/-- The entities that were given for a factor. -/
def entitiesOf (outcome : Except Failure (List Entity)) : List Entity := outcome.toOption.getD []

/-- A report lists the entities that are given for a factor. -/
theorem lists_add {report : ImportReport} {entities : List Entity} (lists : report.Lists entities)
    (outcome : Except Failure (List Entity)) (number : Nat) :
    (report.add (outcome, number)).Lists (entities ++ entitiesOf outcome) := by
  cases outcome with
  | error failure =>
    have nothing : entities ++ entitiesOf (.error failure) = entities := List.append_nil entities
    rw [nothing]
    exact ⟨lists.given, lists.each⟩
  | ok given =>
    rw [ImportReport.add, show entitiesOf (.ok given) = given from rfl]
    induction given generalizing report entities with
    | nil => simpa using lists
    | cons entity rest inductionHypothesis =>
      simpa using inductionHypothesis (lists.record entity)

/-- A report lists the entities that are given for further factors. -/
theorem lists_further {report : ImportReport} {entities : List Entity}
    (lists : report.Lists entities) (outcomes : List (Except Failure (List Entity))) (first : Nat) :
    ((outcomes.zipIdx first).foldl ImportReport.add report).Lists
      (entities ++ outcomes.flatMap entitiesOf) := by
  induction outcomes generalizing report entities first with
  | nil => simpa using lists
  | cons outcome rest inductionHypothesis =>
    simpa using inductionHypothesis (lists_add lists outcome first) (first + 1)

/-- The report on an import lists the entities that were given for the factors. -/
theorem lists_report (outcomes : List (Except Failure (List Entity))) (first : Nat) :
    ((outcomes.zipIdx first).foldl ImportReport.add .empty).Lists (outcomes.flatMap entitiesOf) := by
  have nothing : ImportReport.empty.Lists [] := ⟨fun _ listed => listed, by simp⟩
  exact lists_further nothing outcomes first

/-- An expression that was stored for a factor, as far as the catalogue tells afterwards. -/
structure IsStoredFor (after : Catalogue) (expr : Expr) (expression : ExpressionEntity) : Prop where
  rooted : expression.root = some (after.importedRoot expr)
  labelled : after.idOfLabel? expr.text .expression = some expression.id

/-- What became of a factor, as far as the catalogue tells. -/
inductive IsImportedAs (catalogue : Catalogue) : Factor → Except Failure (List Entity) → Prop where
  | failed (factor : Factor) (failure : Failure) : IsImportedAs catalogue factor (.error failure)
  | codes {span : CodeSpan} {group : ClassEntity}
      (found : catalogue.classOfCodes? span.codes = some group) :
      IsImportedAs catalogue (.codes span) (.ok [.classification group])
  | words {expr : Expr} {expression : ExpressionEntity}
      (has : ∀ operand ∈ importedOperands expr, catalogue.HasWord operand)
      (stored : IsStoredFor catalogue expr expression) :
      IsImportedAs catalogue (.words expr)
        (.ok (catalogue.importedWords expr ++ [.expression expression]))

/-- The words for a factor stay the same when the catalogue has grown, if its operands have words. -/
theorem imported_words_grown {before after : Catalogue} {expr : Expr}
    (has : ∀ operand ∈ importedOperands expr, before.HasWord operand)
    (grows : before.GrowsTo after) : after.importedWords expr = before.importedWords expr := by
  rw [importedWords, importedWords, List.flatMap_def, List.flatMap_def]
  congr 1
  apply List.map_congr_left
  intro operand inside
  rw [((has operand inside).grown grows).2]

/-- An expression for a factor stays so when the catalogue has grown. -/
theorem IsStoredFor.grown {before after : Catalogue} {expr : Expr} {expression : ExpressionEntity}
    (stored : IsStoredFor before expr expression)
    (has : ∀ operand ∈ importedOperands expr, before.HasWord operand)
    (grows : before.GrowsTo after) : IsStoredFor after expr expression where
  rooted := by rw [imported_root_grown has grows, stored.rooted]
  labelled := by rw [grows.labels expr.text (.inl (by simp [stored.labelled])), stored.labelled]

/-- What became of a factor stays so when the catalogue has grown. -/
theorem IsImportedAs.grown {before after : Catalogue} {factor : Factor}
    {outcome : Except Failure (List Entity)} (imported : IsImportedAs before factor outcome)
    (grows : before.GrowsTo after) : IsImportedAs after factor outcome := by
  cases imported with
  | failed factor failure => exact .failed factor failure
  | @codes span group found =>
    refine .codes ?_
    rw [grows.codes span.codes (.inl (by simp [found])), found]
  | words has stored =>
    rw [← imported_words_grown has grows]
    exact .words (fun operand inside => ((has operand inside).grown grows).1)
      (stored.grown has grows)

variable {expand : Bool} {before after : Workspace} {factor : Factor} {factors : List Factor}
  {outcome : Except Failure (List Entity)} {outcomes : List (Except Failure (List Entity))}

/-- What became of a factor when it was imported. -/
theorem FactorRun.imported_as (run : FactorRun expand before factor outcome after)
    (plain : factor.IsPlain) (indexed : before.catalogue.IsIndexed) :
    IsImportedAs after.catalogue factor outcome := by
  cases run with
  | codes ofSpan =>
    cases plain with
    | codes plain => exact .codes ((span_run _ _ ofSpan).stored plain.distinctCodes)
  | codesFailed ofSpan => exact .failed _ _
  | wordFailed ofRoot => exact .failed _ _
  | full ofRoot absent full => exact .failed _ _
  | @stored expr root words middle _ expression ofRoot define =>
    obtain ⟨indexedMiddle, _⟩ := (repeats_import_root expand expr).run_grows indexed ofRoot
    obtain ⟨_, grows⟩ := define.grows indexedMiddle
    obtain ⟨rfl, rfl, has⟩ := import_root_ok indexed ofRoot
    rw [← imported_words_grown has grows]
    refine .words (fun operand inside => ((has operand inside).grown grows).1) ⟨?_, ?_⟩
    · rw [define.expression_eq, imported_root_grown has grows]
      rfl
    · exact define.labelled indexedMiddle

/-- What became of all factors when they were imported one after the other. -/
theorem Imports.imported_as (imports : Imports expand factors before outcomes after)
    (plain : ∀ factor ∈ factors, factor.IsPlain) (indexed : before.catalogue.IsIndexed) :
    List.Forall₂ (IsImportedAs after.catalogue) factors outcomes := by
  induction imports with
  | nil before => exact .nil
  | cons first goesOn others inductionHypothesis =>
    obtain ⟨plainFirst, plainOthers⟩ := List.forall_mem_cons.mp plain
    have run := factor_run first
    obtain ⟨indexedMiddle, _⟩ := run.grows plainFirst indexed
    obtain ⟨_, grows⟩ := others.grows plainOthers indexedMiddle
    exact .cons ((run.imported_as plainFirst indexed).grown grows)
      (inductionHypothesis plainOthers indexedMiddle)

/-- An entity that an import gave for a factor, as far as the catalogue tells. -/
inductive IsGivenFor (catalogue : Catalogue) : Factor → Entity → Prop where
  | word {expr : Expr} {word : WordEntity} (found : catalogue.find? word.id = some (.word word)) :
      IsGivenFor catalogue (.words expr) (.word word)
  | group {span : CodeSpan} {group : ClassEntity}
      (found : catalogue.classOfCodes? span.codes = some group) :
      IsGivenFor catalogue (.codes span) (.classification group)
  | expression {expr : Expr} {expression : ExpressionEntity}
      (has : ∀ operand ∈ importedOperands expr, catalogue.HasWord operand)
      (stored : IsStoredFor catalogue expr expression) :
      IsGivenFor catalogue (.words expr) (.expression expression)

/-- The entities among the outcome of a factor were given for it. -/
theorem IsImportedAs.given_for {catalogue : Catalogue}
    (imported : IsImportedAs catalogue factor outcome) (indexed : catalogue.IsIndexed)
    {entity : Entity} (inside : entity ∈ entitiesOf outcome) : IsGivenFor catalogue factor entity := by
  cases imported with
  | failed factor failure => cases inside
  | codes found =>
    rw [List.mem_singleton.mp inside]
    exact .group found
  | words has stored =>
    rcases List.mem_append.mp inside with isWord | isExpression
    · obtain ⟨operand, _, ofOperand⟩ := List.mem_flatMap.mp isWord
      obtain ⟨word, imported, rfl⟩ := by simpa using ofOperand
      exact .word (indexed.find_imported imported)
    · rw [List.mem_singleton.mp isExpression]
      exact .expression has stored

/-- The expressions that an import stored are those among the given entities. -/
theorem mem_expressionsOfAll {expression : ExpressionEntity} :
    expression ∈ expressionsOfAll outcomes ↔
      .expression expression ∈ outcomes.flatMap entitiesOf := by
  have ofOutcome : ∀ outcome, expression ∈ expressionsOf outcome ↔
      .expression expression ∈ entitiesOf outcome := by
    intro outcome
    cases outcome with
    | error failure => simp [expressionsOf, entitiesOf, Except.toOption]
    | ok entities =>
      rw [expressionsOf, List.mem_filterMap, show entitiesOf (.ok entities) = entities from rfl]
      constructor
      · rintro ⟨entity, inside, isExpression⟩
        cases entity with
        | word word => cases isExpression
        | classification group => cases isExpression
        | expression other => rwa [← Option.some.inj isExpression]
      · exact fun inside => ⟨_, inside, rfl⟩
  simp only [expressionsOfAll, List.mem_flatMap, ofOutcome]

/-- Under the id of an expression that was stored for a factor there is an expression with its logical
form as the label. -/
theorem IsStoredFor.find {catalogue : Catalogue} {expr : Expr} {expression : ExpressionEntity}
    (stored : IsStoredFor catalogue expr expression) (distinct : catalogue.HasDistinctIds) :
    ∃ later, catalogue.find? expression.id = some (.expression later) ∧ later.label = expr.text := by
  obtain ⟨place, isFirst, sameId⟩ := Option.map_eq_some_iff.mp stored.labelled
  obtain ⟨later, rfl, sameLabel, found⟩ := expression_of_label distinct isFirst
  exact ⟨later, sameId ▸ found, sameLabel⟩

/-- A group that is found by codes is stored under its id, and has the codes. -/
theorem group_of_codes {catalogue : Catalogue} (distinct : catalogue.HasDistinctIds)
    {codes : List Text} {group : ClassEntity} (found : catalogue.classOfCodes? codes = some group) :
    catalogue.find? group.id = some (.classification group) ∧ group.codes = codes := by
  have hasCodes : group.codes = codes := by simpa using List.find?_some found
  obtain ⟨entity, stored, isGroup⟩ := List.mem_filterMap.mp (List.mem_of_find?_eq_some found)
  cases entity with
  | word word => cases isGroup
  | expression expression => cases isGroup
  | classification other =>
    obtain rfl := Option.some.inj isGroup
    exact ⟨distinct.find stored, hasCodes⟩

/-- What is found under the id of an entity that was given for a factor is of the same kind. -/
theorem IsGivenFor.find_kind {catalogue : Catalogue} {entity : Entity}
    (given : IsGivenFor catalogue factor entity) (distinct : catalogue.HasDistinctIds) :
    ∃ found, catalogue.find? entity.id = some found ∧ found.kind = entity.kind := by
  cases given with
  | word found => exact ⟨_, found, rfl⟩
  | group found => exact ⟨_, (group_of_codes distinct found).1, rfl⟩
  | expression has stored =>
    obtain ⟨later, found, _⟩ := stored.find distinct
    exact ⟨_, found, rfl⟩

/-- Every member of a list is related to a member of the other list, if the lists are related member
by member. -/
theorem exists_related {α β : Type} {relation : α → β → Prop} {lefts : List α} {rights : List β}
    (related : List.Forall₂ relation lefts rights) {left : α} (inside : left ∈ lefts) :
    ∃ right ∈ rights, relation left right := by
  induction related with
  | nil => cases inside
  | @cons first right lefts rights one others inductionHypothesis =>
    rcases List.mem_cons.mp inside with rfl | later
    · exact ⟨right, List.mem_cons_self, one⟩
    · obtain ⟨other, ofOther, relates⟩ := inductionHypothesis later
      exact ⟨other, List.mem_cons_of_mem _ ofOther, relates⟩

/-- Every entity that an import gave was given for a factor. -/
theorem given_for_factor {catalogue : Catalogue}
    (imported : List.Forall₂ (IsImportedAs catalogue) factors outcomes)
    (indexed : catalogue.IsIndexed) {entity : Entity}
    (inside : entity ∈ outcomes.flatMap entitiesOf) :
    ∃ factor ∈ factors, IsGivenFor catalogue factor entity := by
  obtain ⟨outcome, given, ofOutcome⟩ := List.mem_flatMap.mp inside
  obtain ⟨factor, taken, ofFactor⟩ :=
    exists_related (List.Forall₂.flip (R := flip (IsImportedAs catalogue)) imported) given
  exact ⟨factor, taken, ofFactor.given_for indexed ofOutcome⟩

/-- Under the id of an expression that an import stored there is one that was stored for a factor, the
last one with this id. -/
theorem Imports.find_expression (imports : Imports expand factors before outcomes after)
    (plain : ∀ factor ∈ factors, factor.IsPlain) (indexed : before.catalogue.IsIndexed)
    {expression : ExpressionEntity} (inside : expression ∈ expressionsOfAll outcomes) :
    ∃ expr last, .words expr ∈ factors ∧
      after.catalogue.find? expression.id = some (.expression last) ∧ last.label = expr.text ∧
      last.root = some (after.catalogue.importedRoot expr) ∧
      ∀ operand ∈ importedOperands expr, after.catalogue.HasWord operand := by
  obtain ⟨indexedAfter, _⟩ := imports.grows plain indexed
  have some : lastWith expression.id (expressionsOfAll outcomes) ≠ none := fun none =>
    lastWith_eq_none_iff.mp none expression inside rfl
  obtain ⟨last, isLast⟩ := Option.ne_none_iff_exists'.mp some
  obtain ⟨ofAll, sameId⟩ := mem_of_lastWith isLast
  have found := (imports.find plain indexed expression.id).1 last isLast
  obtain ⟨factor, taken, given⟩ := given_for_factor (imports.imported_as plain indexed) indexedAfter
    (mem_expressionsOfAll.mp ofAll)
  cases given with
  | @expression expr _ has stored =>
    obtain ⟨later, isLater, label⟩ := stored.find indexedAfter.distinct
    rw [sameId, found] at isLater
    obtain rfl := Entity.expression.inj (Option.some.inj isLater)
    exact ⟨expr, last, taken, found, label, stored.rooted, has⟩

end Import

end PriorArt
