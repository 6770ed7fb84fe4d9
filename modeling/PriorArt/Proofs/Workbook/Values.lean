import PriorArt.Proofs.Catalogue.Agreement
import PriorArt.Proofs.Workbook.References

/-!
# The names of expressions stand for values

An expression that is used in a line is copied into it, and stored expressions refer to groups
alone. So defining an expression, or defining it anew, changes nothing but what its own name means
in the lines that follow: the other entities and the statements made before keep their queries.
-/

namespace PriorArt

namespace Definition

variable {before : Catalogue}

/-- Only an expression makes way for an expression. -/
theorem site_expression (numbered : before.IsNumbered) {name : Text} {linked : Expr}
    {previous : Entity}
    (found : before.find? ((expression name linked).site before).1 = some previous) :
    previous.kind = .expression :=
  numbered.kind_of_find ((expression name linked).site_issued numbered) found

/-- Where no word and no group bears the name, storing an expression under it changes what is found
under the id of the expression and nothing else. -/
theorem find_after_expression {name : Text} (linked : Expr)
    (noOther : ∀ entity ∈ before.entities, entity.label = name → entity.kind = .expression)
    (drawn : Text) {id : Text} (different : id ≠ ((expression name linked).site before).1) :
    ((expression name linked).after before drawn).find? id = before.find? id := by
  have cleared : (expression name linked).cleared before = before := Catalogue.released_same noOther
  rw [find_after, if_neg different, cleared]

/-- Where no word and no group bears the name, storing an expression under it keeps the entities
with other ids. -/
theorem mem_after_expression {name : Text} (linked : Expr)
    (noOther : ∀ entity ∈ before.entities, entity.label = name → entity.kind = .expression)
    (drawn : Text) {entity : Entity}
    (different : entity.id ≠ ((expression name linked).site before).1) :
    entity ∈ ((expression name linked).after before drawn).entities ↔ entity ∈ before.entities := by
  have cleared : (expression name linked).cleared before = before := Catalogue.released_same noOther
  have contents := (expression name linked).site_contents before
  rw [cleared] at contents
  have sameEntities : ((expression name linked).site before).2.entities = before.entities :=
    congrArg Catalogue.Contents.entities contents
  have sameId := ((expression name linked).entity_facts before drawn).1
  rw [after, Catalogue.store_entities, sameEntities]
  constructor
  · intro stored
    rcases Catalogue.mem_replaceIn stored with rfl | earlier
    · exact absurd sameId different
    · exact earlier
  · intro stored
    exact Catalogue.mem_replaceIn_other stored (sameId ▸ different)

/-- Where no word and no group bears the name, storing an expression under it does not change what
words stand for tokens. -/
theorem words_after_expression (numbered : before.IsNumbered) {name : Text} (linked : Expr)
    (noOther : ∀ entity ∈ before.entities, entity.label = name → entity.kind = .expression)
    (drawn : Text) :
    before.wordOfToken? = ((expression name linked).after before drawn).wordOfToken? := by
  have cleared : (expression name linked).cleared before = before := Catalogue.released_same noOther
  have contents := (expression name linked).site_contents before
  rw [cleared] at contents
  apply Catalogue.word_of_token_congr
  · have replaced : ∀ previous, ((expression name linked).site before).2.find?
        ((expression name linked).entity before drawn).id = some previous →
          previous.kind = .expression := by
      intro previous found
      rw [((expression name linked).entity_facts before drawn).1, find_site, cleared] at found
      exact site_expression numbered found
    exact (congrArg Catalogue.Contents.wordTokens contents).symm.trans
      (Catalogue.store_expression_tokens replaced).1.symm
  · intro id
    by_cases same : id = ((expression name linked).site before).1
    · rw [find_after, if_pos same]
      cases found : before.find? id with
      | none => rfl
      | some previous =>
        rw [same] at found
        have isExpression := site_expression numbered found
        cases previous with
        | word entity => cases isExpression
        | classification entity => cases isExpression
        | expression entity => rfl
    · rw [find_after_expression linked noOther drawn same]

/-- Where no word and no group bears the name, storing an expression under it does not change what
references to groups mean. -/
theorem group_after_expression (numbered : before.IsNumbered) {name : Text} (linked : Expr)
    (noOther : ∀ entity ∈ before.entities, entity.label = name → entity.kind = .expression)
    (drawn : Text) {id : Text} (issued : before.HasIssued .classification id) :
    Catalogue.AgreesAt before ((expression name linked).after before drawn) id := by
  constructor
  · refine (find_after_expression linked noOther drawn ?_).symm
    intro same
    have issuedSite := (expression name linked).site_issued numbered
    rw [← same] at issuedSite
    exact nomatch issued.kind_unique issuedSite
  · intro entity found
    rw [numbered.kind_of_find issued found]
    exact nofun

end Definition

namespace Workbook

/-- An expression whose names were resolved for an earlier line still refers to ids of groups. -/
theorem issued_of_linked (earlier later : List Text) (limit : Int) (tokens : TokenSource)
    {line : Text} {statement : Statement} (read : Statement.parse line = .ok statement) {id : Text}
    (inside : id ∈ ((afterLines earlier ⟨Catalogue.empty limit, tokens⟩).catalogue.link
      statement.expr).references) :
    (afterLines (earlier ++ later) ⟨Catalogue.empty limit, tokens⟩).catalogue.HasIssued
      .classification id := by
  have numbered := numbered_after_lines earlier limit tokens
  rw [after_lines_append]
  refine issued_after_lines numbered ?_ later
  rcases Catalogue.mem_references_link (Statement.references_nil read) inside with
    ⟨group, stored, rfl⟩ | ⟨entity, root, stored, rooted, referred⟩
  · exact numbered _ stored
  · exact refers_to_groups_after_lines earlier limit tokens entity root stored rooted id referred

/-- What a line that stores an expression does: nothing but storing it under its id. -/
theorem stores_expression {line name : Text} {statement : Statement}
    {before after : Catalogue} {id query logical : Text}
    (effect : LineEffect line before (.ok (.expression id query logical)) after)
    (read : Statement.parse line = .ok statement) (named : statement.name = some name) :
    ∃ linked drawn, id = ((Definition.expression name linked).site before).1 ∧
      after = (Definition.expression name linked).after before drawn := by
  generalize outcome : Except.ok (Achievement.expression id query logical) = achieved at effect
  cases effect with
  | kept nothing answers =>
    obtain ⟨_, _, _, isQuery⟩ := answers _ outcome.symm
    cases isQuery
  | refused definition defines failure => cases outcome
  | stored definition defines drawn =>
    cases definition with
    | group otherName codes => cases outcome
    | word otherName linked => cases outcome
    | expression otherName linked =>
      obtain ⟨other, otherRead, otherNamed, _⟩ := linked_of_expression defines
      obtain rfl : statement = other := Except.ok.inj (read.symm.trans otherRead)
      obtain rfl : name = otherName := Option.some.inj (named.symm.trans otherNamed)
      obtain ⟨sameId, _, _⟩ := Achievement.expression.inj (Except.ok.inj outcome)
      exact ⟨linked, drawn, sameId, rfl⟩

/-- A line that stores an expression under a name that no word and no group bears keeps the other
entities and their queries, and the queries of all expressions that the lines before it had. -/
theorem expression_names_are_values (limit : Int) (tokens : TokenSource) (lines : List Text)
    (line name : Text) (statement : Statement) (id query logical : Text) (after : Workspace)
    (read : Statement.parse line = .ok statement) (named : statement.name = some name)
    (noOther : ∀ entity ∈ (afterLines lines ⟨Catalogue.empty limit, tokens⟩).catalogue.entities,
      entity.label = name → entity.kind = .expression)
    (stores : (outcomeOf line).run (afterLines lines ⟨Catalogue.empty limit, tokens⟩) =
      (.ok (.expression id query logical), after)) :
    (∀ entity : Entity, entity.id ≠ id →
      (entity ∈ after.catalogue.entities ↔
        entity ∈ (afterLines lines ⟨Catalogue.empty limit, tokens⟩).catalogue.entities)) ∧
    (∀ entity ∈ (afterLines lines ⟨Catalogue.empty limit, tokens⟩).catalogue.entities,
      entity.id ≠ id →
        after.catalogue.query (.reference entity.id) =
          (afterLines lines ⟨Catalogue.empty limit, tokens⟩).catalogue.query
            (.reference entity.id)) ∧
    (∀ earlier past later pastStatement, lines = earlier ++ past :: later →
      Statement.parse past = .ok pastStatement →
        after.catalogue.query ((afterLines earlier
            ⟨Catalogue.empty limit, tokens⟩).catalogue.link pastStatement.expr) =
          (afterLines lines ⟨Catalogue.empty limit, tokens⟩).catalogue.query ((afterLines earlier
            ⟨Catalogue.empty limit, tokens⟩).catalogue.link pastStatement.expr)) := by
  have numbered := numbered_after_lines lines limit tokens
  have refers := refers_to_groups_after_lines lines limit tokens
  have effect := line_effect line (afterLines lines ⟨Catalogue.empty limit, tokens⟩)
  rw [stores] at effect
  obtain ⟨linked, drawn, rfl, sameAfter⟩ := stores_expression effect read named
  have words := Definition.words_after_expression numbered linked noOther drawn
  have groups : ∀ id, _ → Catalogue.AgreesAt _ _ id := fun _ issued =>
    Definition.group_after_expression numbered linked noOther drawn issued
  change after.catalogue = _ at sameAfter
  rw [sameAfter]
  refine ⟨?_, ?_, ?_⟩
  · intro entity different
    exact Definition.mem_after_expression linked noOther drawn different
  · intro entity stored different
    obtain ⟨first, found⟩ := Option.ne_none_iff_exists'.mp (Catalogue.find_of_stored stored)
    have foundAfter := Definition.find_after_expression linked noOther drawn different
    refine (Catalogue.query_reference_agree words found (foundAfter.trans found) ?_).symm
    rintro expression root rfl rooted referred inside
    exact groups referred
      (refers expression root (List.mem_of_find?_eq_some found) rooted referred inside)
  · rintro earlier past later pastStatement split pastRead
    refine (Catalogue.query_agree words ?_).symm
    intro id inside
    apply groups
    rw [split]
    exact issued_of_linked earlier (past :: later) limit tokens pastRead inside

/-- Lines that define an expression `N` and an expression `M` that uses it. -/
def usingLines : List Text :=
  [['N', ' ', '=', ' ', 'X', ',', '5', 'n', ',', 'Y'], ['M', ' ', '=', ' ', 'N', '*', 'W']]

/-- The workspace after the lines. -/
def used : Workspace :=
  afterLines usingLines ⟨Catalogue.empty 5, TokenSource.standard (congruential 1)⟩

/-- A line that extends `N` by itself. -/
def extendingLine : Text := ['N', ' ', '=', ' ', 'N', '*', 'Z']

/-- The statement of the line. -/
def extendingStatement : Statement :=
  ⟨some ['N'], .logical .and (.word ['N']) [.word ['Z']], none⟩

/-- The workspace after the line. -/
def extended : Workspace := ((outcomeOf extendingLine).run used).2

/-- Extending `N` changes its own query, while `M` still means what it was defined as. -/
theorem expression_names_are_values_extended :
    Statement.parse extendingLine = .ok extendingStatement ∧
      (∀ entity ∈ used.catalogue.entities, entity.label = ['N'] → entity.kind = .expression) ∧
      (outcomeOf extendingLine).run used =
        (.ok (.expression ['E', 'B', '-', '0', '0', '0', '1']
          ['[', 'X', ',', '5', 'n', ',', 'Y', '/', 'T', 'X', ']', '*', 'Z', '/', 'T', 'X']
          ['N', '*', 'Z']), extended) ∧
      extended.catalogue.query (.reference ['E', 'B', '-', '0', '0', '0', '2']) =
        used.catalogue.query (.reference ['E', 'B', '-', '0', '0', '0', '2']) ∧
      used.catalogue.query (.reference ['E', 'B', '-', '0', '0', '0', '2']) =
        ['[', 'X', ',', '5', 'n', ',', 'Y', '/', 'T', 'X', ']', '*', 'W', '/', 'T', 'X'] := by
  have read : Statement.parse extendingLine = .ok extendingStatement := rfl
  have noOther : ∀ entity ∈ used.catalogue.entities, entity.label = ['N'] →
      entity.kind = .expression := by decide +kernel
  have stores : (outcomeOf extendingLine).run used =
      (.ok (.expression ['E', 'B', '-', '0', '0', '0', '1']
        ['[', 'X', ',', '5', 'n', ',', 'Y', '/', 'T', 'X', ']', '*', 'Z', '/', 'T', 'X']
        ['N', '*', 'Z']), extended) := rfl
  obtain ⟨other, stored, otherId⟩ : ∃ entity ∈ used.catalogue.entities,
      entity.id = ['E', 'B', '-', '0', '0', '0', '2'] := by decide +kernel
  obtain ⟨_, keeps, _⟩ := expression_names_are_values 5 (TokenSource.standard (congruential 1))
    usingLines extendingLine ['N'] extendingStatement _ _ _ extended read rfl noOther stores
  have same := keeps other stored (by rw [otherId]; decide)
  rw [otherId] at same
  exact ⟨read, noOther, stores, same, by decide +kernel⟩

end Workbook

end PriorArt
