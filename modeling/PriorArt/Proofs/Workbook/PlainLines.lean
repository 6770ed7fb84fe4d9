import PriorArt.Proofs.Catalogue.PlainContents
import PriorArt.Proofs.Query.Accepted
import PriorArt.Proofs.Workbook.Numbering
import PriorArt.Proofs.Workbook.References

/-!
# Workbooks of plain words

Lines of plain words leave a catalogue of plain words behind. So the query of such a line, in
whatever workbook of such lines, is put together from texts that lay out rows, and whether it is
accepted can be seen from its commas and from the stars in its groups of codes.
-/

namespace PriorArt

open Brackets Expr Layout

/-- A statement of plain words, with a plain name if it has one. -/
structure Statement.HasPlainWords (statement : Statement) : Prop where
  name : ∀ name, statement.name = some name → IsPlain name
  words : ∀ text ∈ statement.expr.words, IsPlain text

/-- What a definition by plain words has: a plain name, and plain codes, a tree of plain words or a
built tree. -/
def Definition.IsPlain (before : Catalogue) : Definition → Prop
  | .group name codes => (∀ given, name = some given → PriorArt.IsPlain given) ∧ ArePlain codes
  | .word name linked => PriorArt.IsPlain name ∧ IsPlainTree linked
  | .expression name linked => PriorArt.IsPlain name ∧ IsBuilt before.NamesGroup linked

/-- The distinct codes among plain ones are plain. -/
theorem ArePlain.distinct {codes : List Text} (plain : ArePlain codes) :
    ArePlain (distinctCodes codes) := by
  rw [distinctCodes_plain plain.plain]
  exact plain.eraseDups

/-- The codes of an expression of plain words are plain. -/
theorem Expr.plain_codes {expr : Expr} (plain : ∀ text ∈ expr.words, IsPlain text)
    {codes : List Text} (read : expr.codes = .ok codes) : ArePlain codes := by
  obtain ⟨rfl, some⟩ := codes_of_words read
  rw [distinctCodes_plain plain] at some ⊢
  exact ⟨some, fun code inside => plain code (List.mem_eraseDups.mp inside)⟩

namespace Workbook

open Action

/-- A line of plain words, if it is a statement. -/
def IsPlainLine (line : Text) : Prop :=
  ∀ statement, Statement.parse line = .ok statement → statement.HasPlainWords

variable {line : Text} {before after : Catalogue} {outcome : Except Failure Achievement}

/-- A line of plain words makes plain definitions. -/
theorem IsPlainLine.definition (plainLine : IsPlainLine line)
    (plainContents : before.HasPlainContents) {definition : Definition}
    (defines : definitionOf before line = some definition) : definition.IsPlain before := by
  by_cases isGroup : definition.kind = .classification
  · cases definition with
    | word name linked => cases isGroup
    | expression name linked => cases isGroup
    | group name codes =>
      obtain ⟨statement, read, rfl, _, found⟩ := defines_group_iff.mp defines
      have plain := plainLine statement read
      exact ⟨plain.name, plain_codes plain.words found⟩
  · obtain ⟨statement, name, read, named, _, _, rfl⟩ :=
      (defines_name_iff definition).mp ⟨defines, isGroup⟩
    have plain := plainLine statement read
    have built := plainContents.link (Statement.plain_tree read plain.words) plain.words
    unfold Definition.ofName
    split
    · next definesWord =>
      have noReference : (before.link statement.expr).references = [] := by
        simp only [Catalogue.definesWord, Bool.and_eq_true] at definesWord
        simpa using definesWord.1.1.1
      exact ⟨plain.name name named, built.mono (by simp [noReference])⟩
    · exact ⟨plain.name name named, built⟩

/-- A group that is named stays so after a line of plain words. -/
theorem LineEffect.names_group (effect : LineEffect line before outcome after)
    (plainLine : IsPlainLine line) (plainContents : before.HasPlainContents) {id : Text}
    (names : before.NamesGroup id) : after.NamesGroup id := by
  have isGroup : after.IsGroupWith PriorArt.IsPlain id := by
    refine effect.group_with (fun text plain => plain.filled) plainContents.numbered
      ⟨names.issued, names.token⟩ ?_
    intro given codes defines
    exact (plainLine.definition plainContents defines).1 given rfl
  exact ⟨isGroup.issued, isGroup.token⟩

/-- A line of plain words leaves a catalogue of plain words behind. -/
theorem LineEffect.plain_contents (effect : LineEffect line before outcome after)
    (plainLine : IsPlainLine line) (plainContents : before.HasPlainContents) :
    after.HasPlainContents where
  numbered := effect.numbered plainContents.numbered
  lead := effect.stable Catalogue.tokens_lead_stable plainContents.lead
  words := by
    intro word stored
    rcases effect.mem_words stored with earlier | ⟨name, linked, drawn, defines, same⟩
    · exact plainContents.words word earlier
    · have plain := plainLine.definition plainContents defines
      obtain rfl := Entity.word.inj same
      have clean : IsClean (linked.row id) := plain.2.clean (fun _ none => none.elim)
      have laysOut := clean.lays_out_enclosed
      rw [text_row] at laysOut
      exact ⟨_, laysOut⟩
  groups := by
    intro group stored
    rcases effect.mem_groups stored with earlier | ⟨name, codes, defines, distinct⟩
    · exact plainContents.groups group earlier
    · rw [distinct]
      exact (plainLine.definition plainContents defines).2.distinct
  roots := by
    intro expression root stored rooted
    have named : ∀ id, before.NamesGroup id → after.NamesGroup id :=
      fun id names => effect.names_group plainLine plainContents names
    rcases effect.mem_roots stored rooted with earlier | ⟨name, defines⟩
    · exact (plainContents.roots expression root earlier rooted).mono (fun id _ => named id)
    · exact (plainLine.definition plainContents defines).2.mono (fun id _ => named id)

/-- Lines of plain words from the empty catalogue leave a catalogue of plain words behind. -/
theorem plain_after_lines {lines : List Text} (plainLines : ∀ line ∈ lines, IsPlainLine line)
    (limit : Int) (tokens : TokenSource) :
    (afterLines lines ⟨Catalogue.empty limit, tokens⟩).catalogue.HasPlainContents := by
  refine invariant_after_lines Catalogue.HasPlainContents lines
    (fun line inside _ _ _ effect => effect.plain_contents (plainLines line inside)) ?_
  exact ⟨nofun, nofun, nofun, nofun, nofun⟩

/-- The query that answers a line is that of its expression with the names resolved. -/
theorem query_of_line {statement : Statement} (read : Statement.parse line = .ok statement)
    {start after : Workspace} {query logical : Text}
    (answered : (outcomeOf line).run start = (.ok (.query query logical), after)) :
    query = start.catalogue.query (start.catalogue.link statement.expr) := by
  have effect := line_effect line start
  rw [answered] at effect
  dsimp only at effect
  generalize achieved : Except.ok (Achievement.query query logical) = outcome at effect
  generalize after.catalogue = left at effect
  cases effect with
  | kept nothing answers =>
    obtain ⟨other, otherRead, _, isQuery⟩ := answers _ achieved.symm
    obtain rfl := Except.ok.inj (read.symm.trans otherRead)
    exact (Achievement.query.inj isQuery).1
  | refused definition defines failure => cases achieved
  | stored definition defines drawn => cases definition <;> cases achieved

/-- The query of a line of plain words, in a workbook of lines of plain words, is accepted exactly
if no bracket in it holds two distances and there is no star in its groups of codes. -/
theorem rendered_query_imports_iff (limit : Int) (tokens : TokenSource) (lines : List Text)
    (line : Text) (statement : Statement) (query logical : Text) (after : Workspace)
    (plainLines : ∀ earlier ∈ lines, IsPlainLine earlier) (plainLine : IsPlainLine line)
    (read : Statement.parse line = .ok statement)
    (accepted : (outcomeOf line).run (afterLines lines ⟨Catalogue.empty limit, tokens⟩) =
      (.ok (.query query logical), after)) :
    (∃ factors, Query.parse query = .ok factors) ↔
      distancesFit [0] query = true ∧
        ∀ group ∈ ((afterLines lines ⟨Catalogue.empty limit, tokens⟩).catalogue.parts
          ((afterLines lines ⟨Catalogue.empty limit, tokens⟩).catalogue.link
            statement.expr)).classes, '*' ∉ group := by
  have plainContents := plain_after_lines plainLines limit tokens
  have plain := plainLine statement read
  have built := plainContents.link (Statement.plain_tree read plain.words) plain.words
  rw [query_of_line read accepted]
  exact (built.laid_out plainContents.meaning).accepted

/-- A line that defines `N` as a union of three nearnesses. -/
def mergingLine : Text :=
  ['N', ' ', '=', ' ', '(', 'A', ',', '5', 'n', ',', 'B', ')', '+', '(', 'C', ',', '3', 'n', ',',
    'D', ')', '+', '(', 'E', ',', '3', 'n', ',', 'G', ')']

/-- The statement of the line. -/
def mergingStatement : Statement :=
  ⟨some ['N'], .logical .or (.proximity ⟨.words, 5⟩ (.word ['A']) (.word ['B']))
    [.proximity ⟨.words, 3⟩ (.word ['C']) (.word ['D']),
      .proximity ⟨.words, 3⟩ (.word ['E']) (.word ['G'])], none⟩

/-- The workspace after the line. -/
def merging : Workspace :=
  afterLines [mergingLine] ⟨Catalogue.empty 5, TokenSource.standard (congruential 1)⟩

/-- A line that relates `N` to another word. -/
def relatingLine : Text := ['N', ',', '2', 'n', ',', 'H']

/-- The statement of the line. -/
def relatingStatement : Statement :=
  ⟨none, .proximity ⟨.words, 2⟩ (.word ['N']) (.word ['H']), none⟩

/-- The query of the line. -/
def relatingQuery : Text :=
  ['[', '(', 'A', ',', '5', 'n', ',', '(', 'B', '+', 'C', ',', '3', 'n', ',', 'D', '+', 'E', ',',
    '3', 'n', ',', 'G', ')', ')', ',', '2', 'n', ',', 'H', '/', 'T', 'X', ']']

/-- The first nearness of the union takes up the other two, which stand in one bracket of the query
then, so the query is not accepted. -/
theorem rendered_query_imports_iff_merging :
    (∀ line ∈ [mergingLine], IsPlainLine line) ∧ IsPlainLine relatingLine ∧
      Statement.parse relatingLine = .ok relatingStatement ∧
      (outcomeOf relatingLine).run merging =
        (.ok (.query relatingQuery ['N', ',', '2', 'n', ',', 'H']), merging) ∧
      distancesFit [0] relatingQuery = false ∧
      ¬ ∃ factors, Query.parse relatingQuery = .ok factors := by
  have readMerging : Statement.parse mergingLine = .ok mergingStatement := rfl
  have read : Statement.parse relatingLine = .ok relatingStatement := rfl
  have plainLines : ∀ line ∈ [mergingLine], IsPlainLine line := by
    intro line inside
    obtain rfl := List.mem_singleton.mp inside
    intro statement other
    obtain rfl := Except.ok.inj (readMerging.symm.trans other)
    refine ⟨?_, by decide⟩
    intro name named
    obtain rfl := Option.some.inj named
    decide
  have plainLine : IsPlainLine relatingLine := by
    intro statement other
    obtain rfl := Except.ok.inj (read.symm.trans other)
    exact ⟨nofun, by decide⟩
  have answered : (outcomeOf relatingLine).run merging =
      (.ok (.query relatingQuery ['N', ',', '2', 'n', ',', 'H']), merging) := rfl
  have unfit : distancesFit [0] relatingQuery = false := by decide +kernel
  refine ⟨plainLines, plainLine, read, answered, unfit, ?_⟩
  rw [rendered_query_imports_iff 5 (TokenSource.standard (congruential 1)) [mergingLine] relatingLine
    relatingStatement relatingQuery _ merging plainLines plainLine read answered, unfit]
  rintro ⟨fits, _⟩
  cases fits

end Workbook

end PriorArt
