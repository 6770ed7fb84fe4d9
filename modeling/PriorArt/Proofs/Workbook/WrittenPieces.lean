import PriorArt.Proofs.Query.FieldPieces
import PriorArt.Proofs.Workbook.BalancedLines
import PriorArt.Proofs.Workbook.Reports
import PriorArt.Proofs.Workbook.WellFormed

/-!
# The pieces of the queries of a workbook

The query of a line is that of one expression: of what the line says, or of a reference to the entity
that the line defines. In a workbook of balanced identifiers its parts are balanced, and so it is cut at
its outermost stars into the pieces of its factors.

A product that is searched as it stands has the suffix of the field behind its last operand only. That is
how a definition of this shape is written, and it is the only way in which a piece comes to have neither
a suffix nor square brackets.
-/

namespace PriorArt

open Brackets

namespace Workbook

/-- The expression that is written out for what a line achieves: a reference to the entity that the line
defines, or else its own expression with the names resolved. -/
def writtenTree (catalogue : Catalogue) (statement : Statement) (achievement : Achievement) : Expr :=
  match achievement.id? with
  | some id => .reference id
  | none => catalogue.link statement.expr

/-- The parts of the query that a line reports. -/
def writtenParts (catalogue : Catalogue) (statement : Statement) (achievement : Achievement) :
    Parts :=
  catalogue.parts (writtenTree catalogue statement achievement)

variable {line : Text} {statement : Statement} {start after : Workspace}
  {achievement : Achievement}

/-- A definition by balanced identifiers reports a query for balanced parts. -/
theorem written_definition {before : Catalogue} {definition : Definition} {drawn query : Text}
    (contents : (definition.after before drawn).HasBalancedContents)
    (balanced : definition.IsBalanced before)
    (defines : definitionOf before line = some definition)
    (reports : definition.Reports before drawn query) :
    query = (definition.after before drawn).query (.reference (definition.site before).1) ∧
      ((definition.after before drawn).parts
        (.reference (definition.site before).1)).IsBalanced := by
  have found := definition.find_after before drawn (definition.site before).1
  rw [if_pos rfl] at found
  -- The name of a word or an expression that is defined is the one that the line gives.
  have ofName : ∀ {name}, (definition.entity before drawn).displayName = name →
      IsBalancedName name → ((definition.after before drawn).parts
        (.reference (definition.site before).1)).IsBalanced := by
    rintro name rfl ⟨filled, balancedName⟩
    apply contents.parts
    refine ⟨by simp, ?_⟩
    intro id inside
    obtain rfl : id = (definition.site before).1 := by simpa using inside
    simpa [Catalogue.nameOf, found, filled] using balancedName
  cases definition with
  | group name codes =>
    obtain ⟨statement, read, _, _, ofCodes⟩ := defines_group_iff.mp defines
    have areCodes := (Expr.codes_are_codes (Statement.words_are_runs read) ofCodes).distinct.1
    rw [reports.search _ rfl]
    refine ⟨(Catalogue.query_reference_group areCodes found).symm, ?_⟩
    rw [Catalogue.parts_reference_group areCodes.filled found]
    exact Parts.balanced_class (ClassEntity.union_balanced (balanced_distinct balanced.2))
  | word name linked =>
    have filled := balanced.1.1
    exact ⟨reports.written (by simp [Definition.kind]), ofName (by
      simp [Definition.entity, Entity.displayName, Entity.token, filled]) balanced.1⟩
  | expression name linked =>
    have filled := balanced.1.1
    exact ⟨reports.written (by simp [Definition.kind]), ofName (by
      simp [Definition.entity, Entity.displayName, Entity.token, Entity.title, Entity.label,
        filled]) balanced.1⟩

/-- A line of balanced identifiers that succeeds reports a query for balanced parts. -/
theorem written_line (contents : start.catalogue.HasBalancedContents)
    (balancedLine : IsBalancedLine line) (read : Statement.parse line = .ok statement)
    (achieved : (outcomeOf line).run start = (.ok achievement, after)) :
    achievement.queryText = (writtenParts after.catalogue statement achievement).render ∧
      (writtenParts after.catalogue statement achievement).IsBalanced := by
  have effect := line_effect line start
  rw [achieved] at effect
  dsimp only at effect
  generalize isOutcome : (Except.ok achievement : Except Failure Achievement) = outcome at effect
  generalize after.catalogue = later at effect
  have contentsAfter := effect.balanced_contents balancedLine contents
  cases effect with
  | kept nothing answers =>
    obtain ⟨other, otherRead, _, rfl⟩ := answers achievement isOutcome.symm
    obtain rfl := Except.ok.inj (read.symm.trans otherRead)
    have leaves := balancedLine.link contents read
    exact ⟨rfl, contents.parts (leaves.balanced_tree contents.numbered)⟩
  | refused definition defines failure => cases isOutcome
  | stored definition defines drawn query logical isDrawn reports =>
    obtain rfl := Except.ok.inj isOutcome
    obtain ⟨ofId, ofQuery⟩ := definition.achievement_facts
      (definition.site start.catalogue).1 query logical
    rw [writtenParts, writtenTree, ofId, ofQuery]
    exact written_definition contentsAfter (balancedLine.definition contents defines) defines reports

/-- Cut at its outermost stars, the query of a line in a workbook of balanced identifiers consists of
texts that end in the suffix of the field, of texts in square brackets, and of the operands, except for
the last one, of products that stand without brackets. A word factor that is such a product has the
suffix behind its last operand, and any other one is a single piece that ends in the suffix. -/
theorem pieces_of_written_query (limit : Int) (tokens : TokenSource) (lines : List Text)
    (line : Text) (statement : Statement) (achievement : Achievement) (after : Workspace)
    (balancedLines : ∀ earlier ∈ lines, IsBalancedLine earlier) (balancedLine : IsBalancedLine line)
    (read : Statement.parse line = .ok statement)
    (achieved : (outcomeOf line).run (afterLines lines ⟨Catalogue.empty limit, tokens⟩) =
      (.ok achievement, after))
    (filled : achievement.queryText ≠ []) :
    achievement.queryText = (writtenParts after.catalogue statement achievement).render ∧
      (∀ piece ∈ starPieces 0 achievement.queryText,
        (writtenParts after.catalogue statement achievement).IsPiece piece) ∧
      ∀ text, .plain text ∈ (writtenParts after.catalogue statement achievement).words →
        (IsBareProduct (strip text) → ∃ earlier last, starPieces 0 (strip text) = earlier ++ [last] ∧
          starPieces 0 (renderWord text) = earlier ++ [last ++ textSuffix]) ∧
        (¬ IsBareProduct (strip text) → starPieces 0 (renderWord text) = [renderWord text]) := by
  obtain ⟨written, balanced⟩ :=
    written_line (balanced_after_lines balancedLines limit tokens) balancedLine read achieved
  refine ⟨written, ?_, ?_⟩
  · rw [written] at filled ⊢
    exact balanced.pieces filled
  · intro text listed
    have ofText : Balanced text := balanced.words _ listed
    exact ⟨pieces_of_product ofText, pieces_of_other ofText⟩

/-- A line that defines a word as a product. -/
def productLine : Text := ['X', '=', 'A', '*', 'B']

/-- A line that defines a group of codes. -/
def codesLine : Text := ['F', '=', 'A', ' ', '/', 'C', 'P']

/-- A line with a square bracket that is not closed. -/
def bracketLine : Text := ['Z', '[', '*', 'F']

/-- The query that is reported for the product. -/
def productQuery : Text := ['A', '*', 'B', '/', 'T', 'X']

/-- The query for the line with the bracket. -/
def bracketQuery : Text :=
  ['Z', '[', '/', 'T', 'X', '*', '[', '(', 'A', ')', '/', 'C', 'P', '+', '(', 'A', ')', '/',
    'F', 'I', ']']

/-- The workspace of a new workbook. -/
def newWorkspace : Workspace := ⟨Catalogue.empty 5, TokenSource.standard (congruential 1)⟩

/-- The suffix stands behind the last operand of the product, and the bracket of the identifier goes on
over the star behind it. -/
theorem pieces_without_field :
    (∃ id logical after, (outcomeOf productLine).run newWorkspace =
      (.ok (.word id productQuery logical), after)) ∧
    starPieces 0 productQuery = [['A'], ['B', '/', 'T', 'X']] ∧
    ¬ textSuffix <:+ ['A'] ∧ ¬ IsSquared ['A'] ∧
    (∃ logical after, (outcomeOf bracketLine).run (afterLines [codesLine] newWorkspace) =
      (.ok (.query bracketQuery logical), after)) ∧
    starPieces 0 bracketQuery = [bracketQuery] ∧
    ¬ textSuffix <:+ bracketQuery ∧ ¬ IsSquared bracketQuery := by
  have notSquared : ∀ {first rest}, first ≠ '[' → ¬ IsSquared (first :: rest) := by
    rintro first rest other ⟨inner, _, same⟩
    exact other (List.cons.inj same).1
  exact ⟨⟨_, _, _, rfl⟩, by decide, by decide, notSquared (by decide), ⟨_, _, rfl⟩, by decide,
    by decide, notSquared (by decide)⟩

/-- The statement that defines the product. -/
def productStatement : Statement :=
  ⟨some ['X'], .logical .and (.word ['A']) [.word ['B']], none⟩

/-- The only word factor is the product, whose operands are the pieces. -/
theorem pieces_of_written_query_product :
    IsBalancedLine productLine ∧ Statement.parse productLine = .ok productStatement ∧
      ∃ id logical after,
        (outcomeOf productLine).run newWorkspace = (.ok (.word id productQuery logical), after) ∧
        (∀ piece ∈ starPieces 0 productQuery,
          (writtenParts after.catalogue productStatement (.word id productQuery logical)).IsPiece
            piece) ∧
        .plain ['(', 'A', '*', 'B', ')'] ∈
          (writtenParts after.catalogue productStatement (.word id productQuery logical)).words ∧
        ∃ earlier last, starPieces 0 (strip ['(', 'A', '*', 'B', ')']) = earlier ++ [last] ∧
          starPieces 0 (renderWord ['(', 'A', '*', 'B', ')']) = earlier ++ [last ++ textSuffix] := by
  have read : Statement.parse productLine = .ok productStatement := rfl
  have balancedLine : IsBalancedLine productLine := by
    intro statement other
    obtain rfl := Except.ok.inj (read.symm.trans other)
    constructor
    · intro name named
      obtain rfl := Option.some.inj named
      exact balanced_of_ordinary (by decide)
    · have words : ∀ text ∈ productStatement.expr.words, text.any isBracket = false := by decide
      exact fun text listed => balanced_of_ordinary (words text listed)
  obtain ⟨_, pieces, factors⟩ := pieces_of_written_query 5 (TokenSource.standard (congruential 1)) []
    productLine productStatement _ _ nofun balancedLine read rfl (by decide +kernel)
  exact ⟨balancedLine, read, _, _, _, rfl, pieces, by decide +kernel,
    (factors ['(', 'A', '*', 'B', ')'] (by decide +kernel)).1 (by decide +kernel)⟩

end Workbook

end PriorArt
