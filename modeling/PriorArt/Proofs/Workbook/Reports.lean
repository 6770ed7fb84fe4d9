import PriorArt.Proofs.Catalogue.Agreement
import PriorArt.Proofs.Workbook.Names

/-!
# What a definition reports

A definition reports the query of what it stores. A line that consists of the name alone looks the
name up: a group of codes becomes a reference, an expression is put in the place of its name, and
a word is left to be looked up when the query is written. As long as a name means one thing, each of
these ways comes to the query that was reported.
-/

namespace PriorArt

namespace Catalogue

variable {catalogue : Catalogue}

/-- A reference to a group of codes is written out as the search of the group. -/
theorem query_reference_group {group : ClassEntity} (areCodes : AreCodes group.codes)
    (found : catalogue.find? group.id = some (.classification group)) :
    catalogue.query (.reference group.id) = group.search := by
  rw [query, parts_reference_group areCodes.filled found, ClassEntity.render_union areCodes]

/-- A reference to a word with a definition is written out as the token by which the word is
found. -/
theorem query_reference_word {word : WordEntity} (defined : word.definition.allBlank = false)
    (found : catalogue.find? word.id = some (.word word))
    (ofToken : catalogue.wordOfToken? word.token = some word) :
    catalogue.query (.reference word.id) = catalogue.query (.word word.token) := by
  rw [query, query, parts, parts, Expr.partsWith, Expr.partsWith, reference_parts_word found]
  exact congrArg Parts.render (parts_of_token (.inr defined) ofToken).symm

/-- A word that was stored is found by its token. -/
theorem IsNumbered.word_stored {word : WordEntity}
    (numbered : (catalogue.store (.word word)).IsNumbered) (filled : word.token ≠ []) :
    (catalogue.store (.word word)).wordOfToken? word.token = some word := by
  have led := lookup_store catalogue (.word word) .wordTokens word.token
  rw [if_pos ⟨rfl, filled⟩] at led
  have found := find_store catalogue (.word word) (Entity.word word).id
  rw [if_pos rfl] at found
  have followed := numbered.follow led found
  change (catalogue.store (.word word)).follow? (catalogue.store (.word word)).wordTokens _ = _
    at followed
  rw [wordOfToken?, followed]
  rfl

namespace NamesApart

variable {isName : Text → Prop}

/-- In a line the token of a group stands for the group. -/
theorem link_group (apart : NamesApart isName catalogue) {group : ClassEntity}
    (stored : .classification group ∈ catalogue.entities) :
    catalogue.linkWord group.token = .reference group.id := by
  rw [linkWord, apart.fit.found apart.orderly.numbered apart.orderly.labelled.distinct stored]

/-- A name to which a word or an expression answers is no token of a group. -/
theorem no_group (apart : NamesApart isName catalogue) {entity : Entity}
    (stored : entity ∈ catalogue.entities) (noGroup : entity.kind ≠ .classification) {name : Text}
    (answers : entity.answersTo name = true) : catalogue.classOfToken? name = none := by
  by_contra isToken
  obtain ⟨group, found⟩ := Option.ne_none_iff_exists'.mp isToken
  obtain ⟨groupFound, rfl⟩ := (tokens_lead_iff.mpr apart.fit.leads).classOfToken found
  exact noGroup (apart.group_of_answers (List.mem_of_find?_eq_some groupFound) stored answers)

/-- In a line the token of a word stands for itself. -/
theorem link_word (apart : NamesApart isName catalogue) {word : WordEntity}
    (stored : .word word ∈ catalogue.entities) :
    catalogue.linkWord word.token = .word word.token := by
  have answers : (Entity.word word).answersTo word.token = true := decide_eq_true rfl
  have noExpression : catalogue.ofLabel? word.token .expression = none := by
    -- An expression with the token for its label would answer to it as well.
    by_contra isLabel
    obtain ⟨entity, found⟩ := Option.ne_none_iff_exists'.mp isLabel
    obtain ⟨entityStored, isExpression, ofLabel⟩ := of_label_some found
    cases entity with
    | word other => cases isExpression
    | classification group => cases isExpression
    | expression expression =>
      cases apart.eq_of_answers stored entityStored answers (decide_eq_true ofLabel)
  have noGroup : catalogue.classOfToken? word.token = none :=
    apart.no_group stored nofun answers
  rw [linkWord, noGroup, expressionOfLabel?, noExpression]
  rfl

/-- In a line the label of an expression stands for its tree. -/
theorem link_expression (apart : NamesApart isName catalogue) {expression : ExpressionEntity}
    {root : Expr} (stored : .expression expression ∈ catalogue.entities)
    (rooted : expression.root = some root) : catalogue.linkWord expression.label = root := by
  have answers : (Entity.expression expression).answersTo expression.label = true :=
    decide_eq_true rfl
  have byLabel : catalogue.ofLabel? expression.label .expression = some (.expression expression) :=
    apart.orderly.labelled.of_label stored
  have tree : (catalogue.expressionOfLabel? expression.label).bind (·.root) = some root := by
    rw [expressionOfLabel?, byLabel]
    exact rooted
  have noGroup : catalogue.classOfToken? expression.label = none :=
    apart.no_group stored nofun answers
  rw [linkWord, noGroup, tree]

end NamesApart

end Catalogue

namespace Definition

open Catalogue

variable {isName : Text → Prop} {before : Catalogue} {line : Text}

/-- What a definition reports is the query for its name, if behind it the names are apart and
expressions refer to groups. -/
theorem reports_name (definition : Definition) {drawn query name : Text}
    (defines : Workbook.definitionOf before line = some definition)
    (named : definition.name? = some name)
    (reports : definition.Reports before drawn query)
    (apart : NamesApart isName (definition.after before drawn))
    (refers : Workbook.RefersToGroups (definition.after before drawn)) :
    (definition.after before drawn).query ((definition.after before drawn).linkWord name) =
      query := by
  obtain ⟨newId, _⟩ := definition.entity_facts before drawn
  have found := definition.find_after before drawn (definition.site before).1
  rw [if_pos rfl, ← newId] at found
  have stored := List.mem_of_find?_eq_some found
  cases definition with
  | group given codes =>
    obtain rfl : given = some name := named
    obtain ⟨statement, read, _, _, ofCodes⟩ := Workbook.defines_group_iff.mp defines
    have areCodes := (Expr.codes_are_codes (Statement.words_are_runs read) ofCodes).distinct.1
    rw [reports.search _ rfl]
    exact (congrArg _ (apart.link_group stored)).trans (query_reference_group areCodes found)
  | word given linked =>
    obtain rfl : given = name := Option.some.inj named
    rw [reports.written nofun, ← newId]
    have filled := Workbook.defined_name_filled defines rfl
    have ofToken := apart.orderly.numbered.word_stored filled
    exact (congrArg _ (apart.link_word stored)).trans
      (query_reference_word rfl found ofToken).symm
  | expression given linked =>
    obtain rfl : given = name := Option.some.inj named
    rw [reports.written nofun, ← newId]
    have leaves : ∀ id ∈ linked.references, ∀ entity,
        ((expression given linked).after before drawn).find? id = some entity →
          entity.kind ≠ .expression := by
      intro id inside entity foundThere
      rw [apart.orderly.numbered.kind_of_find (refers _ linked stored rfl id inside) foundThere]
      exact nofun
    exact (congrArg _ (apart.link_expression stored rfl)).trans
      (query_reference_root found rfl leaves).symm

end Definition

namespace Workbook

open Action

/-- A line that consists of a name that another line gives is a query for what the name stands
for. -/
theorem outcome_of_name {line name : Text} (named : definedName? line = some name)
    (start : Workspace) :
    (outcomeOf name).run start =
      (.ok (.query (start.catalogue.query (start.catalogue.linkWord name)) name), start) := by
  obtain ⟨statement, read, given⟩ := statement_of_name named
  have isName := Statement.parse_name read given
  change runOn (processLine name) start = _
  rw [processLine, isName, run_on_bind_ok (run_on_of_except_ok ..)]
  rfl

/-- After any lines from the empty catalogue a line with a name that succeeds reports what the name
is written out to: the line that consists of the name alone is then a query with the same result, if
no token that was drawn is a name of the workbook. -/
theorem definition_reports_name (limit : Int) (tokens : TokenSource) (lines : List Text)
    (line name : Text) (achievement : Achievement) (after : Workspace)
    (named : definedName? line = some name)
    (success : (outcomeOf line).run (afterLines lines ⟨Catalogue.empty limit, tokens⟩) =
      (.ok achievement, after))
    (notDrawn : ∀ token ∈ drawnTokens (lines ++ [line]) ⟨Catalogue.empty limit, tokens⟩,
      token ∉ usedNames (lines ++ [line])) :
    (outcomeOf name).run after = (.ok (.query achievement.queryText name), after) := by
  obtain ⟨statement, read, given⟩ := statement_of_name named
  obtain ⟨definition, drawn, defines, sameName, left, _, reports⟩ :=
    named_line_stores read given success
  have reached : after = afterLines (lines ++ [line]) ⟨Catalogue.empty limit, tokens⟩ := by
    rw [after_lines_snoc, success]
  have apart := used_names_apart notDrawn
  have refers := refers_to_groups_after_lines (lines ++ [line]) limit tokens
  rw [← reached, left] at apart refers
  rw [outcome_of_name named, left, definition.reports_name defines sameName reports apart refers]

/-- Lines that define a group by the code `A`, a group `F` and a word `W`. -/
def mixedLines : List Text :=
  [['A', '+', 'B', ' ', '/', 'C', 'P'], ['F', ' ', '=', ' ', 'A', ' ', '/', 'C', 'P'],
    ['W', ' ', '=', ' ', 'X', '+', 'Y']]

/-- A line that defines an expression `E` by the group and the word. -/
def mixingLine : Text := ['E', ' ', '=', ' ', 'F', '*', 'W']

/-- The workspace after the lines. -/
def mixed : Workspace :=
  afterLines (mixedLines ++ [mixingLine]) ⟨Catalogue.empty 2, TokenSource.standard (congruential 1)⟩

/-- The query of the expression. -/
def mixedQuery : Text :=
  ['(', 'X', '+', 'Y', ')', '/', 'T', 'X', '*', '[', '(', 'A', ')', '/', 'C', 'P', '+', '(', 'A',
    ')', '/', 'F', 'I', ']']

/-- One token is drawn, and the line `E` asks for what the definition reported. -/
theorem definition_reports_name_mixed :
    drawnTokens (mixedLines ++ [mixingLine])
        ⟨Catalogue.empty 2, TokenSource.standard (congruential 1)⟩ = [['k', '2', 'H', 'f', 'z']] ∧
      (outcomeOf mixingLine).run
          (afterLines mixedLines ⟨Catalogue.empty 2, TokenSource.standard (congruential 1)⟩) =
        (.ok (.expression ['E', 'B', '-', '0', '0', '0', '1'] mixedQuery ['F', '*', 'W']), mixed) ∧
      (outcomeOf ['E']).run mixed = (.ok (.query mixedQuery ['E']), mixed) := by
  have drawn : drawnTokens (mixedLines ++ [mixingLine])
      ⟨Catalogue.empty 2, TokenSource.standard (congruential 1)⟩ = [['k', '2', 'H', 'f', 'z']] := by
    decide +kernel
  have success : (outcomeOf mixingLine).run
        (afterLines mixedLines ⟨Catalogue.empty 2, TokenSource.standard (congruential 1)⟩) =
      (.ok (.expression ['E', 'B', '-', '0', '0', '0', '1'] mixedQuery ['F', '*', 'W']), mixed) :=
    rfl
  refine ⟨drawn, success, definition_reports_name 2 (TokenSource.standard (congruential 1))
    mixedLines mixingLine ['E'] _ mixed rfl success ?_⟩
  rw [drawn]
  decide +kernel

end Workbook

end PriorArt
