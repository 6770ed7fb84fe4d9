import PriorArt.CommandLine.Run
import PriorArt.Proofs.Import.Frame
import PriorArt.Proofs.Import.TypedRoots
import PriorArt.Proofs.Query.RowDenotation
import PriorArt.Proofs.Query.SaidFactors

/-!
# Imports are faithful

A query that was imported as it is typed can be written out again from the groups and the expressions
that the import gave. The new query means the same as the old one, whatever its words and codes denote.

The import may give one entity for several factors. It does so only where these mean the same: spans
of the same codes, or factors with the same logical form. What stands under the id of an expression was
stored for one of them, the last one, and says this factor.
-/

namespace PriorArt

open Action Catalogue

universe u

namespace Catalogue

/-- Whether the entity under an id stands for a factor: a group of the codes of a span, or an expression
with the logical form of the factor as its label. -/
def standsFor (catalogue : Catalogue) (id : Text) : Factor → Bool
  | .codes span =>
    ((catalogue.find? id).bind Entity.classification?).any (fun group => group.codes = span.codes)
  | .words expr =>
    ((catalogue.find? id).bind Entity.expression?).any (fun expression => expression.label = expr.text)

variable {catalogue : Catalogue} {id : Text} {factors : List Factor}

/-- Where a group stands for a factor, the factor is a span of its codes. -/
theorem standsFor_group {group : ClassEntity}
    (found : catalogue.find? id = some (.classification group)) (factor : Factor) :
    catalogue.standsFor id factor = true ↔ ∃ span, factor = .codes span ∧ group.codes = span.codes := by
  cases factor with
  | words expr => simp [standsFor, found, Entity.expression?]
  | codes span => simp [standsFor, found, Entity.classification?]

/-- Where an expression stands for a factor, its label is the logical form of the factor. -/
theorem standsFor_expression {expression : ExpressionEntity}
    (found : catalogue.find? id = some (.expression expression)) (factor : Factor) :
    catalogue.standsFor id factor = true ↔
      ∃ expr, factor = .words expr ∧ expression.label = expr.text := by
  cases factor with
  | words expr => simp [standsFor, found, Entity.expression?]
  | codes span => simp [standsFor, found, Entity.classification?]

/-- All plain factors for which one entity stands denote the same. -/
theorem denotes_eq_of_standsFor {factor other : Factor} (plain : factor.IsPlain)
    (plainOther : other.IsPlain) (stands : catalogue.standsFor id factor = true)
    (standsOther : catalogue.standsFor id other = true) {α : Type u}
    (interpretation : Interpretation α) :
    factor.denotes interpretation = other.denotes interpretation := by
  cases found : catalogue.find? id with
  | none => cases factor <;> simp [standsFor, found] at stands
  | some entity =>
    cases entity with
    | word word => cases factor <;> simp [standsFor, found, Entity.classification?,
        Entity.expression?] at stands
    | classification group =>
      obtain ⟨span, rfl, codes⟩ := (standsFor_group found factor).mp stands
      obtain ⟨otherSpan, rfl, sameCodes⟩ := (standsFor_group found other).mp standsOther
      rw [Factor.denotes, Factor.denotes, ← codes, sameCodes]
    | expression expression =>
      obtain ⟨expr, rfl, label⟩ := (standsFor_expression found factor).mp stands
      obtain ⟨otherExpr, rfl, sameLabel⟩ := (standsFor_expression found other).mp standsOther
      cases plain with
      | words plainTree =>
        cases plainOther with
        | words plainOther =>
          exact plainTree.denotes_eq_of_text plainOther (label.symm.trans sameLabel)

/-- What says one of the factors for which an entity stands says all of them. -/
theorem says_all_of_one {parts : Parts} {factor : Factor} (plain : ∀ factor ∈ factors, factor.IsPlain)
    (taken : factor ∈ factors) (stands : catalogue.standsFor id factor = true)
    (saysFactor : SaysFactors.{u} parts [factor]) :
    SaysFactors.{u} parts (factors.filter (catalogue.standsFor id)) := by
  refine saysFactor.congr (fun α interpretation => ?_)
  have same : ∀ other ∈ factors, catalogue.standsFor id other = true →
      other.denotes interpretation = factor.denotes interpretation := fun other listed standsOther =>
    denotes_eq_of_standsFor (plain other listed) (plain factor taken) standsOther stands interpretation
  ext point
  simp only [Query.denotes, Set.mem_ofPred_eq, List.forall_mem_singleton, List.mem_filter, and_imp]
  constructor
  · intro inside other listed standsOther
    rwa [same other listed standsOther]
  · exact fun inside => inside factor taken stands

/-- Entities together say the factors if each says those for which it stands, and for each factor there
is one that stands for it. -/
theorem says_entities {entities : List Entity}
    (each : ∀ entity ∈ entities, SaysFactors.{u} (catalogue.meaning.reference entity.id)
      (factors.filter (catalogue.standsFor entity.id)))
    (covered : ∀ factor ∈ factors, ∃ entity ∈ entities,
      catalogue.standsFor entity.id factor = true) :
    SaysFactors.{u} (Expr.productParts catalogue.meaning
      (entities.map (fun entity => Expr.reference entity.id))) factors := by
  have together := SaysFactors.product catalogue.meaning
    (fun entity : Entity => .reference entity.id)
    (fun entity : Entity => factors.filter (catalogue.standsFor entity.id)) each
  refine together.congr (Query.means_same_of_members (fun factor => ?_))
  simp only [List.mem_flatMap, List.mem_filter]
  constructor
  · rintro ⟨_, _, taken, _⟩
    exact taken
  · intro taken
    obtain ⟨entity, listed, stands⟩ := covered factor taken
    exact ⟨entity, listed, taken, stands⟩

/-- A reference to a group says the spans of its codes. -/
theorem says_group {group : ClassEntity} (found : catalogue.find? id = some (.classification group))
    {span : CodeSpan} (hasCodes : group.codes = span.codes) (plain : span.IsPlain) :
    SaysFactors.{u} (catalogue.meaning.reference id) [.codes span] := by
  have parts : catalogue.meaning.reference id = codeParts span.codes := by
    rw [meaning]
    unfold referenceParts
    simp [found, hasCodes, plain.plain.filled, codeParts, ClassEntity.union]
  rw [parts]
  exact codes_say plain.plain

/-- A reference to an expression that an import stored for a factor says the factor. -/
theorem says_expression (indexed : catalogue.IsIndexed) (typed : catalogue.HasTypedWords) {expr : Expr}
    (plainTree : IsPlainTree expr) (apart : expr.HasNoNearAlternative)
    (undefined : ∀ text ∈ expr.words, catalogue.wordOfToken? text = none)
    (has : ∀ operand ∈ importedOperands expr, catalogue.HasWord operand)
    {expression : ExpressionEntity} (found : catalogue.find? id = some (.expression expression))
    (rooted : expression.root = some (catalogue.importedRoot expr)) :
    SaysFactors.{u} (catalogue.meaning.reference id) [.words expr] := by
  have leaves : ∀ id ∈ (catalogue.importedRoot expr).references, ∀ entity,
      catalogue.find? id = some entity → entity.kind ≠ .expression := by
    intro id inside entity isFound
    obtain ⟨word, isWord⟩ := (imported_root_built indexed plainTree).references id inside
    rw [isWord] at isFound
    obtain rfl := Option.some.inj isFound
    simp [Entity.kind]
  rw [reference_parts_root found rooted leaves]
  refine (says_imported_root indexed typed plainTree apart undefined has).factor.congr ?_
  intro α interpretation
  simp [Query.denotes, Factor.denotes, denotes_typed_root plainTree]

end Catalogue

namespace Import

variable {before after : Workspace} {factors : List Factor}
  {outcomes : List (Except Failure (List Entity))} {report : ImportReport}

/-- A factor that was imported is given an entity that stands for it. -/
theorem IsImportedAs.given {catalogue : Catalogue} {factor : Factor}
    {outcome : Except Failure (List Entity)} (imported : IsImportedAs catalogue factor outcome)
    (distinct : catalogue.HasDistinctIds) (noFailure : ∀ failure, outcome ≠ .error failure) :
    ∃ entity ∈ entitiesOf outcome, entity.kind ≠ .word ∧
      catalogue.standsFor entity.id factor = true := by
  cases imported with
  | failed factor failure => exact absurd rfl (noFailure failure)
  | @codes span group found =>
    obtain ⟨foundGroup, hasCodes⟩ := group_of_codes distinct found
    refine ⟨_, List.mem_singleton.mpr rfl, by simp [Entity.kind], ?_⟩
    exact (standsFor_group foundGroup _).mpr ⟨span, rfl, hasCodes⟩
  | @words expr expression has stored =>
    obtain ⟨later, found, label⟩ := stored.find distinct
    refine ⟨_, List.mem_append_right _ (List.mem_singleton.mpr rfl), by simp [Entity.kind], ?_⟩
    exact (standsFor_expression found _).mpr ⟨expr, rfl, label⟩

/-- For every factor of an import without failures the report lists an entity that stands for it. -/
theorem listed_for_factor
    (imported : List.Forall₂ (IsImportedAs after.catalogue) factors outcomes)
    (indexed : after.catalogue.IsIndexed) (lists : report.Lists (outcomes.flatMap entitiesOf))
    (noFailure : ∀ failure, .error failure ∉ outcomes) {factor : Factor} (taken : factor ∈ factors) :
    ∃ entity ∈ report.entities, entity.kind ≠ .word ∧
      after.catalogue.standsFor entity.id factor = true := by
  obtain ⟨outcome, given, ofFactor⟩ := exists_related imported taken
  obtain ⟨entity, ofOutcome, noWord, stands⟩ := ofFactor.given indexed.distinct
    (fun failure same => noFailure failure (same ▸ given))
  obtain ⟨listed, inside, sameId⟩ :=
    lists.each entity (List.mem_flatMap.mpr ⟨outcome, given, ofOutcome⟩)
  -- another entity may be listed under the id, but it is of the same kind
  obtain ⟨_, _, ofListed⟩ := given_for_factor imported indexed (lists.given listed inside)
  obtain ⟨found, isFound, sameKind⟩ := ofListed.find_kind indexed.distinct
  obtain ⟨again, isAgain, kindAgain⟩ :=
    (ofFactor.given_for indexed ofOutcome).find_kind indexed.distinct
  refine ⟨listed, inside, ?_, sameId ▸ stands⟩
  rw [sameId, isAgain] at isFound
  rwa [← sameKind, ← Option.some.inj isFound, kindAgain]

/-- A reference to a group or an expression that an import lists says all the factors for which it
stands. -/
theorem says_listed (imports : Imports false factors before outcomes after)
    (plain : ∀ factor ∈ factors, factor.IsPlain) (indexed : before.catalogue.IsIndexed)
    (typed : before.catalogue.HasTypedWords) (lists : report.Lists (outcomes.flatMap entitiesOf))
    (apart : ∀ expr, .words expr ∈ factors → expr.HasNoNearAlternative)
    (undefined : ∀ expr, .words expr ∈ factors →
      ∀ text ∈ expr.words, after.catalogue.wordOfToken? text = none)
    {entity : Entity} (listed : entity ∈ report.entities) (noWord : entity.kind ≠ .word) :
    SaysFactors.{u} (after.catalogue.meaning.reference entity.id)
      (factors.filter (after.catalogue.standsFor entity.id)) := by
  obtain ⟨indexedAfter, _⟩ := imports.grows plain indexed
  have inside := lists.given entity listed
  obtain ⟨factor, taken, given⟩ :=
    given_for_factor (imports.imported_as plain indexed) indexedAfter inside
  cases given with
  | word found => exact absurd rfl noWord
  | group found =>
    obtain ⟨isFound, hasCodes⟩ := group_of_codes indexedAfter.distinct found
    cases plain _ taken with
    | codes plainSpan =>
      refine says_all_of_one plain taken ?_ (says_group isFound hasCodes plainSpan)
      exact (standsFor_group isFound _).mpr ⟨_, rfl, hasCodes⟩
  | expression _ _ =>
    obtain ⟨expr, last, takenLast, found, label, rooted, has⟩ :=
      imports.find_expression plain indexed (mem_expressionsOfAll.mpr inside)
    cases plain _ takenLast with
    | words plainTree =>
      refine says_all_of_one plain takenLast ?_ ?_
      · exact (standsFor_expression found _).mpr ⟨expr, rfl, label⟩
      · exact says_expression indexedAfter (imports.typed plain typed) plainTree (apart expr takenLast)
          (undefined expr takenLast) has found rooted

/-- A text that no stored word has as its token leads to no word. -/
theorem undefined_of_apart {catalogue : Catalogue} (indexed : catalogue.IsIndexed) {text : Text}
    (apart : ∀ word, .word word ∈ catalogue.entities → word.token ≠ text) :
    catalogue.wordOfToken? text = none := by
  rw [Option.eq_none_iff_forall_ne_some]
  intro word found
  obtain ⟨entity, followed, isWord⟩ := Option.bind_eq_some_iff.mp found
  obtain ⟨_, entered⟩ := (indexed.leads .wordTokens).follow followed
  obtain ⟨other, rfl, ofToken⟩ := entry_of_word_token.mp entered
  exact apart other (mem_of_follow followed) ofToken

/-- No factor failed if the report on an import shows no failure. -/
theorem no_failure (reported : report = (outcomes.zipIdx 1).foldl ImportReport.add .empty)
    (succeeded : report.errors = []) (failure : Failure) : .error failure ∉ outcomes := by
  intro given
  rw [← List.zipIdx_map_fst 1 outcomes] at given
  obtain ⟨⟨_, number⟩, numbered, rfl⟩ := List.mem_map.mp given
  have failed := (failed_in_report outcomes number).mpr ⟨failure, numbered⟩
  rw [← reported, ImportReport.failed, succeeded] at failed
  cases failed

open CommandLine

/-- The intersection of the groups and expressions that a report lists. There is one unless it lists
words alone. -/
theorem recombined_listed {entities : List Entity} {entity : Entity}
    (inside : entity ∈ entities.filter (fun entity => entity.kind ≠ .word)) :
    ∃ first others, recombined? entities = some (.logical .and first others) ∧
      (entities.filter (fun entity => entity.kind ≠ .word)).map (fun entity =>
        Expr.reference entity.id) = first :: others := by
  have some : (entities.filter (fun entity => entity.kind ≠ .word)).map (fun entity =>
      Expr.reference entity.id) ≠ [] := by
    rw [Ne, List.map_eq_nil_iff]
    exact List.ne_nil_of_mem inside
  obtain ⟨first, others, same⟩ := List.exists_cons_of_ne_nil some
  refine ⟨first, others, ?_, same⟩
  rw [recombined?, same]

/-- The command shows the query of the intersection, if the import lists more than words. -/
theorem shows_recombined {surroundings : Surroundings} {settings : Settings} {quiet : Bool}
    {query : Text} {expand : Option Bool} {expr : Expr}
    (run : runOn (importQuery (expand.getD settings.expandVariants) query)
      (emptyWorkspace surroundings settings) = (.ok report, after))
    (recombined : recombined? report.entities = some expr) :
    (runImport surroundings settings quiet query expand).output =
      "Re-rendered: ".toList ++ Outcome.plainLine (after.catalogue.query expr) := by
  have given : (importQuery (expand.getD settings.expandVariants) query).run.run
      (emptyWorkspace surroundings settings) = (.ok report, after) := run
  have some : report.entities.isEmpty = false := by
    cases entities : report.entities with
    | nil => simp [entities, recombined?] at recombined
    | cons entity others => rfl
  rw [runImport, given]
  simp [some, recombined]

/-- An import as typed keeps the meaning of the query. An accepted query with some factors, in none of
which a union has a nearness of two as an operand, is imported into an empty catalogue. No factor fails,
and no token of a stored word is a word of the query. Then the intersection of the groups and expressions
that the report lists is written as a query that is accepted, and that denotes the same set as the first
one, whatever the words and codes denote and nearness does. The command shows this query as a plain
line. -/
theorem import_keeps_meaning (limit : Int) (tokens : TokenSource) (query : Text)
    (factors : List Factor) (report : ImportReport) (after : Workspace)
    (accepted : Query.parse query = .ok factors) (filled : factors ≠ [])
    (apart : ∀ expr, .words expr ∈ factors → expr.HasNoNearAlternative)
    (run : runOn (importQuery false query) ⟨Catalogue.empty limit, tokens⟩ = (.ok report, after))
    (succeeded : report.errors = [])
    (tokensApart : ∀ word, .word word ∈ after.catalogue.entities →
      ∀ expr, .words expr ∈ factors → word.token ∉ expr.words) :
    ∃ expr again, recombined? report.entities = some expr ∧
      Query.parse (after.catalogue.query expr) = .ok again ∧ Query.MeansSame.{u} again factors ∧
      ∀ surroundings settings quiet expand, expand.getD settings.expandVariants = false →
        emptyWorkspace surroundings settings = ⟨Catalogue.empty limit, tokens⟩ →
        (runImport surroundings settings quiet query expand).output =
          "Re-rendered: ".toList ++ Outcome.plainLine (after.catalogue.query expr) := by
  obtain ⟨outcomes, imports, reported⟩ := imports_of_report accepted run
  have plain := Query.plain_factors accepted
  have indexed : (Catalogue.empty limit).IsIndexed := indexed_empty limit
  have typed : (Catalogue.empty limit).HasTypedWords := by
    intro word stored
    cases stored
  obtain ⟨indexedAfter, _⟩ := imports.grows plain indexed
  have lists : report.Lists (outcomes.flatMap entitiesOf) := by
    rw [reported]
    exact lists_report outcomes 1
  have undefined : ∀ expr, .words expr ∈ factors →
      ∀ text ∈ expr.words, after.catalogue.wordOfToken? text = none :=
    fun expr taken text ofExpr => undefined_of_apart indexedAfter (fun word stored same =>
      tokensApart word stored expr taken (same ▸ ofExpr))
  have covered : ∀ factor ∈ factors, ∃ entity ∈ report.entities.filter (fun entity =>
      entity.kind ≠ .word), after.catalogue.standsFor entity.id factor = true := by
    intro factor taken
    obtain ⟨entity, listed, noWord, stands⟩ := listed_for_factor
      (imports.imported_as plain indexed) indexedAfter lists (no_failure reported succeeded) taken
    exact ⟨entity, List.mem_filter.mpr ⟨listed, by simpa using noWord⟩, stands⟩
  have saysAll := says_entities (fun entity inside => by
    obtain ⟨listed, noWord⟩ := List.mem_filter.mp inside
    exact says_listed imports plain indexed typed lists apart undefined listed
      (by simpa using noWord)) covered
  obtain ⟨factor, taken⟩ := List.exists_mem_of_ne_nil factors filled
  obtain ⟨entity, inside, _⟩ := covered factor taken
  obtain ⟨first, others, recombined, references⟩ := recombined_listed inside
  rw [references] at saysAll
  obtain ⟨again, parsed, same⟩ := saysAll.read_back
  refine ⟨.logical .and first others, again, recombined, parsed, same, ?_⟩
  intro surroundings settings quiet expand noExpand sameWorkspace
  refine shows_recombined ?_ recombined
  rw [noExpand, sameWorkspace]
  exact run

/-- A query that has a union twice by itself and once in a nearness, and a span of codes in one field. -/
def repeatedQuery : Text :=
  ['(', 'A', '+', 'B', ')', '/', 'T', 'X', '*', '[', 'C', ',', '5', 'n', ',', '(', 'A', '+', 'B',
   ')', '/', 'T', 'X', ']', '*', '(', 'H', '0', '4', ')', '/', 'F', 'I', '*', '(', 'A', '+', 'B',
   ')', '/', 'T', 'X']

/-- The union in the query. -/
def repeatedUnion : Expr := .logical .or (.word ['A']) [.word ['B']]

/-- The factors of the query. -/
def repeatedFactors : List Factor :=
  [.words repeatedUnion, .words (.proximity ⟨.words, 5⟩ (.word ['C']) repeatedUnion),
    .codes ⟨[['H', '0', '4']], false, true⟩, .words repeatedUnion]

/-- A workspace without entities. -/
def beforeRepeated : Workspace := ⟨Catalogue.empty 5, TokenSource.standard (congruential 1)⟩

/-- No union in the factors has a nearness among its operands, and their words are `A`, `B` and `C`. -/
theorem repeated_apart {expr : Expr} (taken : .words expr ∈ repeatedFactors) :
    expr.HasNoNearAlternative ∧ expr.words ⊆ [['A'], ['B'], ['C']] := by
  have ofUnion : repeatedUnion.HasNoNearAlternative := by
    simp [Expr.HasNoNearAlternative, repeatedUnion, Expr.subexpressions, Expr.subexpressionsOfAll]
  have either : expr = repeatedUnion ∨ expr = .proximity ⟨.words, 5⟩ (.word ['C']) repeatedUnion := by
    simpa [repeatedFactors, or_comm, or_assoc] using taken
  rcases either with rfl | rfl
  · exact ⟨ofUnion, by decide⟩
  · refine ⟨?_, by decide⟩
    intro first others inside
    exact ofUnion first others (by simpa [Expr.subexpressions] using inside)

/-- The query is imported as two expressions and a group. It is written with the repeated union once and
with the codes in both fields, and it means the same. -/
theorem import_keeps_meaning_repeated :
    Query.parse repeatedQuery = .ok repeatedFactors ∧ repeatedFactors ≠ [] ∧
      (∀ expr, .words expr ∈ repeatedFactors → expr.HasNoNearAlternative) ∧
      ∃ report after, runOn (importQuery false repeatedQuery) beforeRepeated = (.ok report, after) ∧
        report.errors = [] ∧
        (∀ word, .word word ∈ after.catalogue.entities →
          ∀ expr, .words expr ∈ repeatedFactors → word.token ∉ expr.words) ∧
        ∃ expr again, recombined? report.entities = some expr ∧
          Query.parse (after.catalogue.query expr) = .ok again ∧
          Query.MeansSame.{0} again repeatedFactors ∧
          ∀ surroundings settings quiet expand, expand.getD settings.expandVariants = false →
            emptyWorkspace surroundings settings = beforeRepeated →
            (runImport surroundings settings quiet repeatedQuery expand).output =
              "Re-rendered: ".toList ++ Outcome.plainLine (after.catalogue.query expr) := by
  have accepted : Query.parse repeatedQuery = .ok repeatedFactors := by decide +kernel
  have filled : repeatedFactors ≠ [] := by simp [repeatedFactors]
  have recorded : (runOn (importQuery false repeatedQuery) beforeRepeated).1.toOption.map
      (fun report => report.errors.isEmpty) = some true := by decide +kernel
  have fresh : ∀ entity ∈ (runOn (importQuery false repeatedQuery) beforeRepeated).2.catalogue.entities,
      entity.kind = .word → entity.token ∉ [['A'], ['B'], ['C']] := by decide +kernel
  rcases run : runOn (importQuery false repeatedQuery) beforeRepeated with ⟨outcome, after⟩
  rw [run] at recorded fresh
  cases outcome with
  | error failure => cases recorded
  | ok report =>
    have succeeded : report.errors = [] := by simpa [Except.toOption] using recorded
    have apart : ∀ expr, .words expr ∈ repeatedFactors → expr.HasNoNearAlternative :=
      fun expr taken => (repeated_apart taken).1
    have tokensApart : ∀ word, .word word ∈ after.catalogue.entities →
        ∀ expr, .words expr ∈ repeatedFactors → word.token ∉ expr.words :=
      fun word stored expr taken ofExpr =>
        fresh (.word word) stored rfl ((repeated_apart taken).2 ofExpr)
    exact ⟨accepted, filled, apart, report, after, rfl, succeeded, tokensApart,
      import_keeps_meaning 5 (TokenSource.standard (congruential 1)) repeatedQuery repeatedFactors
        report after accepted filled apart run succeeded tokensApart⟩

end Import

end PriorArt
