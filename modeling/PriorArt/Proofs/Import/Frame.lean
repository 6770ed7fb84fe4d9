import PriorArt.Proofs.Catalogue.Agreement
import PriorArt.Proofs.Import.Outcomes
import PriorArt.Proofs.Workspace.Grounded

/-!
# What an import changes

An import adds words and groups, and it stores an expression for each factor that is no span of codes.
It looks for the place of the expression by the logical form of the factor, among the labels of all
stored expressions, and a name that a workbook gave is such a label as well. So an expression that is
named like a factor is lost to the import: from then on a reference to it searches for the factor.

Nothing else changes. What any other entity searches for is the same as before, as long as no token
that the import draws is one of the words of stored expressions.
-/

namespace PriorArt

open Action Catalogue

/-- Whether the factor with a number failed. -/
def ImportReport.failed (report : ImportReport) (number : Nat) : Bool :=
  report.errors.any (fun error => error.1 = number)

namespace Import

/-- The expressions of the factors that are no spans of codes and did not fail. -/
def importedExprs (report : ImportReport) (factors : List (Factor × Nat)) : List Expr :=
  factors.flatMap (fun (factor, number) =>
    match factor with
    | .words expr => if report.failed number then [] else [expr]
    | .codes _ => [])

/-- The last factor that an import stored in the place of an entity. The entity is the first
expression with its label, and the label is the logical form of the factor. -/
def storedInPlace? (before : Catalogue) (factors : List Factor) (report : ImportReport)
    (entity : Entity) : Option Expr :=
  (importedExprs report (factors.zipIdx 1)).reverse.find? (fun expr =>
    expr.text = entity.label ∧ before.ofLabel? entity.label .expression = some entity)

/-- The factor that an import of a query, with the given outcome, stored in the place of an entity. A
query that is rejected stores nothing. -/
def replacement? (before : Catalogue) (query : Text) (outcome : Except Failure ImportReport)
    (entity : Entity) : Option Expr :=
  match Query.parse query, outcome with
  | .ok factors, .ok report => storedInPlace? before factors report entity
  | _, _ => none

/-- Recording entities adds no failure. -/
theorem errors_record (entities : List Entity) (report : ImportReport) :
    (entities.foldl ImportReport.record report).errors = report.errors := by
  induction entities generalizing report with
  | nil => rfl
  | cons entity rest inductionHypothesis =>
    rw [List.foldl_cons, inductionHypothesis, ImportReport.record]
    split
    · rfl
    · rfl

/-- A report shows a factor as failed if it did before, or if the outcome of the factor is a
failure. -/
theorem failed_iff (outcomes : List (Except Failure (List Entity))) (first : Nat)
    (report : ImportReport) (number : Nat) :
    ((outcomes.zipIdx first).foldl ImportReport.add report).failed number = true ↔
      report.failed number = true ∨ ∃ failure, (.error failure, number) ∈ outcomes.zipIdx first := by
  induction outcomes generalizing first report with
  | nil => simp
  | cons outcome rest inductionHypothesis =>
    rw [List.zipIdx_cons, List.foldl_cons, inductionHypothesis]
    cases outcome with
    | ok entities =>
      rw [ImportReport.add, ImportReport.failed, errors_record]
      simp [ImportReport.failed]
    | error failure =>
      simp [ImportReport.add, ImportReport.failed, exists_or, or_assoc, @eq_comm _ first number]

/-- A report shows exactly the factors as failed whose outcomes are failures. -/
theorem failed_in_report (outcomes : List (Except Failure (List Entity))) (number : Nat) :
    ((outcomes.zipIdx 1).foldl ImportReport.add .empty).failed number = true ↔
      ∃ failure, (.error failure, number) ∈ outcomes.zipIdx 1 := by
  rw [failed_iff]
  simp [ImportReport.failed, ImportReport.empty]

variable {expand : Bool} {before after : Workspace} {factors : List Factor}
  {outcomes : List (Except Failure (List Entity))} {report : ImportReport}

/-- The expressions that a factor stored are those for the factor. -/
theorem IsImportedAs.stored_for {catalogue : Catalogue} {factor : Factor}
    {outcome : Except Failure (List Entity)} (imported : IsImportedAs catalogue factor outcome)
    (number : Nat) (failed : report.failed number = true ↔ ∃ failure, outcome = .error failure) :
    List.Forall₂ (IsStoredFor catalogue) (importedExprs report [(factor, number)])
      (expressionsOf outcome) := by
  cases imported with
  | codes found => exact .nil
  | failed factor failure =>
    cases factor with
    | codes span => exact .nil
    | words expr => simp [importedExprs, expressionsOf, failed]
  | words has stored =>
    have notFailed : report.failed number = false := by
      rw [← Bool.not_eq_true, failed]
      simp
    rw [expressions_of_stored]
    simpa [importedExprs, notFailed] using stored

/-- The expressions that an import stored are those for the factors that did not fail, in order. -/
theorem stored_for {catalogue : Catalogue}
    (imported : List.Forall₂ (IsImportedAs catalogue) factors outcomes) (first : Nat)
    (failed : ∀ number ≥ first, report.failed number = true ↔
      ∃ failure, (.error failure, number) ∈ outcomes.zipIdx first) :
    List.Forall₂ (IsStoredFor catalogue) (importedExprs report (factors.zipIdx first))
      (expressionsOfAll outcomes) := by
  induction imported generalizing first with
  | nil => exact .nil
  | @cons factor outcome rest outcomes ofFactor others inductionHypothesis =>
    have split : importedExprs report ((factor :: rest).zipIdx first) =
        importedExprs report [(factor, first)] ++ importedExprs report (rest.zipIdx (first + 1)) := by
      rw [List.zipIdx_cons, importedExprs, importedExprs, importedExprs, ← List.flatMap_append,
        List.singleton_append]
    have together : expressionsOfAll (outcome :: outcomes) =
      expressionsOf outcome ++ expressionsOfAll outcomes := rfl
    have later : ∀ failure number, (.error failure, number) ∈ outcomes.zipIdx (first + 1) →
        first + 1 ≤ number :=
      fun failure number inside => List.le_snd_of_mem_zipIdx inside
    rw [split, together]
    refine List.rel_append (ofFactor.stored_for first ?_) (inductionHypothesis (first + 1) ?_)
    · rw [failed first (Nat.le_refl _), List.zipIdx_cons]
      constructor
      · rintro ⟨failure, inside⟩
        rcases List.mem_cons.mp inside with same | further
        · exact ⟨failure, (Prod.mk.inj same).1.symm⟩
        · exact absurd (later failure first further) (Nat.not_succ_le_self first)
      · rintro ⟨failure, rfl⟩
        exact ⟨failure, List.mem_cons_self⟩
    · intro number behind
      rw [failed number (Nat.le_of_succ_le behind), List.zipIdx_cons]
      have different : number ≠ first := by omega
      simp [different]

/-- The last of several expressions with an id and the last of the factors for which this id is the
place belong together. -/
theorem last_stored_for {catalogue : Catalogue} {exprs : List Expr}
    {expressions : List ExpressionEntity} {id : Text} {isPlace : Expr → Bool}
    (stored : List.Forall₂ (IsStoredFor catalogue) exprs expressions)
    (same : ∀ expr expression, IsStoredFor catalogue expr expression →
      (expression.id = id ↔ isPlace expr = true)) :
    (exprs.reverse.find? isPlace = none ∧ lastWith id expressions = none) ∨
      ∃ expr expression, exprs.reverse.find? isPlace = some expr ∧
        lastWith id expressions = some expression ∧ IsStoredFor catalogue expr expression := by
  induction stored with
  | nil => exact .inl ⟨rfl, rfl⟩
  | @cons expr expression exprs expressions first others inductionHypothesis =>
    rw [List.reverse_cons, List.find?_append, lastWith]
    rcases inductionHypothesis with ⟨noExpr, noExpression⟩ | ⟨last, lastExpression, found, isLast, of⟩
    · rw [noExpr, noExpression, Option.none_or, Option.none_or]
      by_cases here : isPlace expr = true
      · refine .inr ⟨expr, expression, ?_, ?_, first⟩
        · simp [here]
        · rw [if_pos ((same expr expression first).mpr here)]
      · refine .inl ⟨?_, ?_⟩
        · simp [here]
        · rw [if_neg (fun sameId => here ((same expr expression first).mp sameId))]
    · rw [found, isLast]
      exact .inr ⟨last, lastExpression, rfl, rfl, of⟩

/-- An import stores an expression under the id of an entity exactly if the entity is the first
expression with the label. -/
theorem IsStoredFor.id_iff {before after : Catalogue} {expr : Expr} {expression : ExpressionEntity}
    (stored : IsStoredFor after expr expression) (distinct : before.HasDistinctIds)
    (distinctAfter : after.HasDistinctIds) (grows : before.GrowsTo after) {entity : Entity}
    (inside : entity ∈ before.entities) :
    expression.id = entity.id ↔
      expr.text = entity.label ∧ before.ofLabel? entity.label .expression = some entity := by
  have found := distinct.find inside
  have settled : ∀ other, before.ofLabel? entity.label .expression = some other →
      after.idOfLabel? entity.label .expression = some other.id := by
    intro other isFirst
    have ofBefore : before.idOfLabel? entity.label .expression = some other.id :=
      congrArg (Option.map Entity.id) isFirst
    rw [grows.labels entity.label (.inl (by simp [ofBefore])), ofBefore]
  have labelled := stored.labelled
  constructor
  · intro sameId
    obtain ⟨named, foundNamed, sameLabel⟩ := stored.find distinctAfter
    have placed : after.find? entity.id = some (.expression named) := sameId ▸ foundNamed
    cases entity with
    | word word =>
      rw [grows.kept _ _ found nofun] at placed
      cases placed
    | classification group =>
      rw [grows.kept _ _ found nofun] at placed
      cases placed
    | expression earlier =>
      obtain ⟨kept, foundKept, keptLabel⟩ := grows.relabelled _ earlier found
      obtain rfl := Entity.expression.inj (Option.some.inj (foundKept.symm.trans placed))
      have sameText : expr.text = (Entity.expression earlier).label := sameLabel.symm.trans keptLabel
      refine ⟨sameText, ?_⟩
      have some : before.ofLabel? (Entity.expression earlier).label .expression ≠ none := by
        rw [ofLabel?, Ne, List.find?_eq_none]
        intro none
        exact none _ inside (by simp [Entity.kind])
      obtain ⟨other, isOther⟩ := Option.ne_none_iff_exists'.mp some
      have otherId := settled other isOther
      rw [sameText, otherId] at labelled
      rw [isOther]
      congr 1
      refine distinct.eq_of_id (of_label_some isOther).1 inside ?_
      rw [Option.some.inj labelled, sameId]
  · rintro ⟨sameText, isFirst⟩
    rw [sameText, settled entity isFirst] at labelled
    exact (Option.some.inj labelled).symm

/-- An import that gives a report took every factor, and the report is put together from the
outcomes. -/
theorem imports_of_report {query : Text} (accepted : Query.parse query = .ok factors)
    (run : runOn (importQuery expand query) before = (.ok report, after)) :
    ∃ outcomes, Imports expand factors before outcomes after ∧
      report = (outcomes.zipIdx 1).foldl ImportReport.add .empty := by
  rw [importQuery, accepted, run_on_bind_ok (run_on_of_except_ok ..)] at run
  exact run_on_factors_ok_iff.mp run

/-- What is found after an import under the id of an entity: the expression that was stored in its
place for the last factor with its label, or the entity itself. -/
theorem Imports.entity_after (imports : Imports expand factors before outcomes after)
    (plain : ∀ factor ∈ factors, factor.IsPlain) (indexed : before.catalogue.IsIndexed)
    (reported : report = (outcomes.zipIdx 1).foldl ImportReport.add .empty) {entity : Entity}
    (inside : entity ∈ before.catalogue.entities) :
    (storedInPlace? before.catalogue factors report entity = none ∧
        after.catalogue.find? entity.id = some entity) ∨
      ∃ expr expression, storedInPlace? before.catalogue factors report entity = some expr ∧
        after.catalogue.find? entity.id = some (.expression expression) ∧
        expression.root = some (after.catalogue.importedRoot expr) := by
  obtain ⟨indexedAfter, grows⟩ := imports.grows plain indexed
  obtain ⟨replaced, kept⟩ := imports.find plain indexed entity.id
  have failed : ∀ number ≥ 1, report.failed number = true ↔
      ∃ failure, (.error failure, number) ∈ outcomes.zipIdx 1 := by
    intro number _
    rw [reported, failed_in_report]
  have stored := stored_for (imports.imported_as plain indexed) 1 failed
  have place := fun expr expression (of : IsStoredFor after.catalogue expr expression) =>
    (of.id_iff indexed.distinct indexedAfter.distinct grows inside).trans decide_eq_true_iff.symm
  have found := indexed.distinct.find inside
  rcases last_stored_for stored place with
    ⟨noExpr, noExpression⟩ | ⟨expr, expression, last, isLast, of⟩
  · exact .inl ⟨noExpr, kept entity noExpression found⟩
  · exact .inr ⟨expr, expression, last, replaced expression isLast, of.rooted⟩

/-- After the import of an accepted query a reference to an entity searches for the last factor that
was stored in the place of the entity, and for the same as before if there is none. -/
theorem query_after_import (grounded : before.catalogue.IsGrounded) {query : Text}
    (accepted : Query.parse query = .ok factors)
    (run : runOn (importQuery expand query) before = (.ok report, after))
    (apart : ∀ word, .word word ∈ after.catalogue.entities →
      before.catalogue.find? word.id = none →
      ∀ expression root, .expression expression ∈ before.catalogue.entities →
        expression.root = some root → word.token ∉ root.words)
    {entity : Entity} (inside : entity ∈ before.catalogue.entities) :
    after.catalogue.query (.reference entity.id) =
      match storedInPlace? before.catalogue factors report entity with
      | some expr => after.catalogue.query (after.catalogue.importedRoot expr)
      | none => before.catalogue.query (.reference entity.id) := by
  have plain := Query.plain_factors accepted
  have advances := advances_query expand query grounded
  rw [run] at advances
  obtain ⟨outcomes, imports, reported⟩ := imports_of_report accepted run
  obtain ⟨_, grows⟩ := imports.grows plain grounded.indexed
  rcases imports.entity_after plain grounded.indexed reported inside with
    ⟨kept, foundAfter⟩ | ⟨expr, expression, replaced, foundAfter, rooted⟩
  · rw [kept]
    refine (query_reference_agree_on (grounded.indexed.distinct.find inside) foundAfter ?_ ?_).symm
    · rintro expression root rfl rooted text ofRoot
      refine (grows.tokens text (fun word stored fresh same => ?_)).symm
      exact apart word stored fresh expression root inside rooted (same ▸ ofRoot)
    · rintro expression root rfl rooted id ofRoot
      have issued := grounded.refers expression root inside rooted id ofRoot
      refine ⟨?_, fun other found => grounded.not_expression issued found⟩
      cases found : before.catalogue.find? id with
      | some other =>
        exact (grows.kept id other found (grounded.not_expression issued found)).symm
      | none =>
        rcases issued with issued | issued
        · exact (advances.gone _ id issued found).symm
        · exact (advances.gone _ id issued found).symm
  · rw [replaced]
    refine query_reference_root foundAfter rooted (fun id ofRoot other found => ?_)
    have stored := List.mem_of_find?_eq_some foundAfter
    have issued := advances.grounded.refers expression _ stored rooted id ofRoot
    exact advances.grounded.not_expression issued found

/-- An import changes what an entity searches for exactly by storing a factor in its place. After any
managed requests on an empty catalogue, a query is imported, and no token of a new word is among the
words of a stored expression. Then a reference to an entity searches for the last factor that was
stored in the place of the entity, and for the same as before if there is none. Only an import that
found no free token, and so ended early, is left out. -/
theorem import_replaces_by_label (requests : List Request)
    (managed : ∀ request ∈ requests, request.IsManaged) (limit : Int) (tokens : TokenSource)
    (expand : Bool) (query : Text) (outcome : Except Failure ImportReport) (after : Workspace)
    (run : runOn (importQuery expand query)
      (afterRequests requests ⟨Catalogue.empty limit, tokens⟩) = (outcome, after))
    (ended : outcome ≠ .error .noToken)
    (apart : ∀ word, .word word ∈ after.catalogue.entities →
      (afterRequests requests ⟨Catalogue.empty limit, tokens⟩).catalogue.find? word.id = none →
      ∀ expression root, .expression expression ∈
          (afterRequests requests ⟨Catalogue.empty limit, tokens⟩).catalogue.entities →
        expression.root = some root → word.token ∉ root.words) :
    ∀ entity ∈ (afterRequests requests ⟨Catalogue.empty limit, tokens⟩).catalogue.entities,
      after.catalogue.query (.reference entity.id) =
        match replacement? (afterRequests requests ⟨Catalogue.empty limit, tokens⟩).catalogue
          query outcome entity with
        | some expr => after.catalogue.query (after.catalogue.importedRoot expr)
        | none => (afterRequests requests ⟨Catalogue.empty limit, tokens⟩).catalogue.query
            (.reference entity.id) := by
  have grounded := grounded_after_requests managed limit tokens
  generalize afterRequests requests ⟨Catalogue.empty limit, tokens⟩ = before at *
  intro entity inside
  unfold replacement?
  cases accepted : Query.parse query with
  | error error =>
    rw [importQuery, accepted, run_on_bind, run_on_of_except_error] at run
    obtain ⟨rfl, rfl⟩ := Prod.mk.inj run
    rfl
  | ok factors =>
    rcases run_on_query expand accepted grounded.indexed with
      ⟨last, failed⟩ | ⟨outcomes, last, _, given⟩
    · rw [run] at failed
      exact absurd (Prod.mk.inj failed).1 ended
    · obtain ⟨rfl, rfl⟩ := Prod.mk.inj (run.symm.trans given)
      exact query_after_import grounded accepted run apart inside

/-- Lines that define an expression `A` and an expression `B` that uses it. -/
def usedName : List Request :=
  [.line ['A', ' ', '=', ' ', 'X', ',', '5', 'n', ',', 'Y'], .line ['B', ' ', '=', ' ', 'A', '*', 'Z']]

/-- The workspace after the lines. -/
def beforeImport : Workspace :=
  afterRequests usedName ⟨Catalogue.empty 5, TokenSource.standard (congruential 1)⟩

/-- The tree of the expression `A`. -/
def namedTree : Expr := .proximity ⟨.words, 5⟩ (.word ['X']) (.word ['Y'])

/-- The expression `A`. -/
def namedExpression : ExpressionEntity :=
  ⟨['E', 'B', '-', '0', '0', '0', '1'], ['A'], some namedTree, true⟩

/-- The expression `B`. -/
def usingExpression : ExpressionEntity :=
  ⟨['E', 'B', '-', '0', '0', '0', '2'], ['B'], some (.logical .and namedTree [.word ['Z']]), true⟩

/-- A query for the word that is the name of the expression `A`. -/
def wordQuery : Text := ['A', '/', 'T', 'X']

/-- The workspace after the import of the query. -/
def afterImport : Workspace := (runOn (importQuery false wordQuery) beforeImport).2

/-- The report on the import. -/
def importReport : ImportReport :=
  (runOn (importQuery false wordQuery) beforeImport).1.toOption.getD .empty

/-- The word that the import stores. -/
def importedWord : WordEntity :=
  ⟨['W', 'B', '-', '0', '0', '0', '1'], ['A'], ['k', '2', 'H', 'f', 'z'], ['(', 'A', ')'], ['A'],
    [['A']]⟩

/-- The import of a query for the word `A` takes the expression `A` away: a reference to it searches
for the word from then on, and no longer for the nearness that the name stood for. What `B` searches
for, which has the tree of `A` as it was, stays the same. -/
theorem import_replaces_by_label_named :
    (∀ request ∈ usedName, request.IsManaged) ∧
      runOn (importQuery false wordQuery) beforeImport = (.ok importReport, afterImport) ∧
      beforeImport.catalogue.query (.reference namedExpression.id) =
        ['[', 'X', ',', '5', 'n', ',', 'Y', '/', 'T', 'X', ']'] ∧
      afterImport.catalogue.query (.reference namedExpression.id) = ['A', '/', 'T', 'X'] ∧
      afterImport.catalogue.query (.reference usingExpression.id) =
        beforeImport.catalogue.query (.reference usingExpression.id) := by
  have managed : ∀ request ∈ usedName, request.IsManaged := by simp [usedName, Request.IsManaged]
  have run : runOn (importQuery false wordQuery) beforeImport = (.ok importReport, afterImport) := by
    rfl
  have entities : beforeImport.catalogue.entities =
      [.expression namedExpression, .expression usingExpression] := by rfl
  have words : afterImport.catalogue.entities.filterMap Entity.word? = [importedWord] := by rfl
  have apart : ∀ word, .word word ∈ afterImport.catalogue.entities →
      beforeImport.catalogue.find? word.id = none →
      ∀ expression root, .expression expression ∈ beforeImport.catalogue.entities →
        expression.root = some root → word.token ∉ root.words := by
    intro word stored _ expression root inside rooted
    have isWord : word ∈ [importedWord] := by
      rw [← words]
      exact List.mem_filterMap.mpr ⟨_, stored, rfl⟩
    obtain rfl := List.mem_singleton.mp isWord
    rw [entities] at inside
    rcases (by simpa using inside : expression = namedExpression ∨ expression = usingExpression) with
      rfl | rfl
    · obtain rfl := Option.some.inj rooted
      decide
    · obtain rfl := Option.some.inj rooted
      decide
  have queries := import_replaces_by_label usedName managed 5 (TokenSource.standard (congruential 1))
    false wordQuery _ afterImport run nofun apart
  have ofNamed := queries (.expression namedExpression)
    (show _ ∈ beforeImport.catalogue.entities by simp [entities])
  have ofUsing := queries (.expression usingExpression)
    (show _ ∈ beforeImport.catalogue.entities by simp [entities])
  exact ⟨managed, run, by rfl, ofNamed.trans (by rfl), ofUsing.trans (by rfl)⟩

end Import

end PriorArt
