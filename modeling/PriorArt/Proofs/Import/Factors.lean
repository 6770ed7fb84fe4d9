import PriorArt.Proofs.Catalogue.Restored
import PriorArt.Proofs.Import.Roots

/-!
# The import of one factor

A factor is imported in two stages: the words that its expression refers to are found or stored, and
then the expression is stored. A factor that was imported can be imported again: it gives the same
entities or the same failure, and stores nothing but its expression, in the place of the expression
with its label.
-/

namespace PriorArt

open Catalogue

namespace Action

variable {label : Text} {root : Expr} {before after : Workspace} {expression : ExpressionEntity}

/-- The entity with a label among the expressions is a stored expression. -/
theorem expression_of_label {catalogue : Catalogue} (distinct : catalogue.HasDistinctIds)
    {previous : Entity} (labelled : catalogue.ofLabel? label .expression = some previous) :
    ∃ found : ExpressionEntity, previous = .expression found ∧ found.label = label ∧
      catalogue.find? found.id = some (.expression found) := by
  obtain ⟨stored, sameKind, sameLabel⟩ := of_label_some labelled
  cases previous with
  | word word => cases sameKind
  | classification group => cases sameKind
  | expression found => exact ⟨found, rfl, sameLabel, distinct.find stored⟩

/-- What is found when an expression was stored: the expression under its id, and what was found
before under other ids. -/
theorem ExpressionRun.find
    (run : ExpressionRun label root before (.ok expression) after) (id : Text) :
    after.catalogue.find? id =
      if id = expression.id then some (.expression expression) else before.catalogue.find? id := by
  cases run with
  | redefined labelled => exact find_store before.catalogue (.expression _) id
  | new absent room =>
    exact find_store (before.catalogue.takeId .expression).2 (.expression _) id

/-- The expression that was stored has the label and the tree. -/
theorem ExpressionRun.expression_eq
    (run : ExpressionRun label root before (.ok expression) after) :
    expression = expressionAt root before expression.id label := by
  cases run with
  | redefined labelled => rfl
  | new absent room => rfl

/-- The catalogue is indexed and has grown after an expression was stored under its label. -/
theorem ExpressionRun.grows (indexed : before.catalogue.IsIndexed)
    (run : ExpressionRun label root before (.ok expression) after) :
    after.catalogue.IsIndexed ∧ before.catalogue.GrowsTo after.catalogue := by
  cases run with
  | redefined labelled =>
    obtain ⟨previous, rfl, sameLabel, found⟩ := expression_of_label indexed.distinct labelled
    refine ⟨indexed_stable.store (.expression _) indexed, ?_⟩
    exact .of_redefined indexed
      (show before.catalogue.find? (expressionAt root before previous.id label).id = _ from found)
      sameLabel.symm
  | new absent room =>
    refine ⟨indexed_stable.store (.expression _) (indexed.taken .expression), ?_⟩
    exact grows_new indexed (.expression _) rfl room nofun

/-- An expression is found by its label after it was stored. -/
theorem ExpressionRun.labelled (indexed : before.catalogue.IsIndexed)
    (run : ExpressionRun label root before (.ok expression) after) :
    after.catalogue.idOfLabel? label .expression = some expression.id := by
  cases run with
  | redefined labelled =>
    obtain ⟨previous, rfl, sameLabel, found⟩ := expression_of_label indexed.distinct labelled
    have same := id_of_label_redefined
      (show before.catalogue.find? (expressionAt root before previous.id label).id = _ from found)
      sameLabel.symm label .expression
    exact same.trans (congrArg (Option.map Entity.id) labelled)
  | new absent room =>
    have fresh : (before.catalogue.takeId .expression).2.find?
        (before.catalogue.takeId .expression).1 = none := find_next_none rfl
    have absentTaken : (before.catalogue.takeId .expression).2.ofLabel? label .expression = none :=
      absent
    rw [idOfLabel?, of_label_store_fresh (by exact fresh), absentTaken]
    exact congrArg (Option.map Entity.id) (if_pos ⟨rfl, rfl⟩)

end Action

namespace Import

open Action

/-- What the import of a factor does. -/
inductive FactorRun (expand : Bool) (before : Workspace) :
    Factor → Except Failure (List Entity) → Workspace → Prop where
  | codes {span : CodeSpan} {group : ClassEntity} {after : Workspace}
      (run : runOn (importSpan span) before = (.ok group, after)) :
      FactorRun expand before (.codes span) (.ok [.classification group]) after
  | codesFailed {span : CodeSpan} {failure : Failure} {after : Workspace}
      (run : runOn (importSpan span) before = (.error failure, after)) :
      FactorRun expand before (.codes span) (.error failure) after
  | wordFailed {expr : Expr} {failure : Failure} {after : Workspace}
      (run : runOn (importRoot expand expr) before = (.error failure, after)) :
      FactorRun expand before (.words expr) (.error failure) after
  | full {expr root : Expr} {words : List Entity} {middle : Workspace}
      (run : runOn (importRoot expand expr) before = (.ok (root, words), middle))
      (absent : middle.catalogue.ofLabel? expr.text .expression = none)
      (full : middle.catalogue.isFull .expression = true) :
      FactorRun expand before (.words expr) (.error (.limit .expression middle.catalogue.limit))
        { middle with catalogue := (middle.catalogue.takeId .expression).2 }
  | stored {expr root : Expr} {words : List Entity} {middle after : Workspace}
      {expression : ExpressionEntity}
      (run : runOn (importRoot expand expr) before = (.ok (root, words), middle))
      (define : ExpressionRun expr.text root middle (.ok expression) after) :
      FactorRun expand before (.words expr) (.ok (words ++ [.expression expression])) after

/-- Every import of a factor is one of these runs. -/
theorem factor_run {expand : Bool} {before after : Workspace} {factor : Factor}
    {outcome : Except Failure (List Entity)}
    (run : runOn (importFactor expand factor) before = (outcome, after)) :
    FactorRun expand before factor outcome after := by
  cases factor with
  | codes span =>
    rw [importFactor, run_on_bind] at run
    rcases ofSpan : runOn (importSpan span) before with ⟨found, middle⟩
    rw [ofSpan] at run
    cases found with
    | error failure =>
      obtain ⟨rfl, rfl⟩ := Prod.mk.inj run
      exact .codesFailed ofSpan
    | ok group =>
      obtain ⟨rfl, rfl⟩ := Prod.mk.inj run
      exact .codes ofSpan
  | words expr =>
    rw [importFactor, run_on_bind] at run
    rcases ofRoot : runOn (importRoot expand expr) before with ⟨found, middle⟩
    rw [ofRoot] at run
    cases found with
    | error failure =>
      obtain ⟨rfl, rfl⟩ := Prod.mk.inj run
      exact .wordFailed ofRoot
    | ok rootAndWords =>
      obtain ⟨root, words⟩ := rootAndWords
      dsimp only at run
      rw [run_on_bind] at run
      rcases defined : runOn (defineExpression expr.text root) middle with ⟨given, last⟩
      rw [defined] at run
      have ofExpression := expression_run root middle defined
      cases given with
      | error failure =>
        obtain ⟨rfl, rfl⟩ := Prod.mk.inj run
        cases ofExpression with
        | full absent full => exact .full ofRoot absent full
      | ok expression =>
        obtain ⟨rfl, rfl⟩ := Prod.mk.inj run
        exact .stored ofRoot ofExpression

/-- The expressions that a factor stored. -/
def expressionsOf : Except Failure (List Entity) → List ExpressionEntity
  | .ok entities => entities.filterMap Entity.expression?
  | .error _ => []

/-- The words that an expression refers to are no expressions. -/
theorem no_expression_among_words (catalogue : Catalogue) (expr : Expr) :
    (catalogue.importedWords expr).filterMap Entity.expression? = [] := by
  rw [List.filterMap_eq_nil_iff]
  intro entity inside
  obtain ⟨operand, _, isWord⟩ := List.mem_flatMap.mp inside
  cases stored : catalogue.importedWord? operand with
  | none => simp [stored] at isWord
  | some word =>
    simp only [stored, Option.map_some, Option.toList_some, List.mem_singleton] at isWord
    rw [isWord]
    rfl

/-- Behind the words that it refers to, an expression is the only one. -/
theorem expressions_of_stored (catalogue : Catalogue) (expr : Expr)
    (expression : ExpressionEntity) :
    expressionsOf (.ok (catalogue.importedWords expr ++ [.expression expression])) =
      [expression] := by
  rw [expressionsOf, List.filterMap_append, no_expression_among_words]
  rfl

section Expression

variable {expand : Bool} {before middle later : Workspace} {expr root : Expr} {words : List Entity}
  (indexed : before.catalogue.IsIndexed)
  (run : runOn (importRoot expand expr) before = (.ok (root, words), middle))
include indexed run

/-- Where there was no room for the expression of a factor, there is none when the factor is imported
again. -/
theorem again_full (absent : middle.catalogue.ofLabel? expr.text .expression = none)
    (full : middle.catalogue.isFull .expression = true)
    (grown : (middle.catalogue.takeId .expression).2.GrowsTo later.catalogue) :
    ∃ last, runOn (importFactor expand (.words expr)) later =
        (.error (.limit .expression middle.catalogue.limit), last) ∧
      last.tokens = later.tokens ∧ last.catalogue.contents = later.catalogue.contents := by
  obtain ⟨indexedMiddle, _⟩ := (repeats_import_root expand expr).run_grows indexed run
  have grownMiddle : middle.catalogue.GrowsTo later.catalogue :=
    (grows_taken .expression).trans (indexedMiddle.taken .expression).distinct grown
  have again := (repeats_import_root expand expr).run_again indexed run nofun grownMiddle
  have noLabel : later.catalogue.ofLabel? expr.text .expression = none := by
    have same := grownMiddle.labels expr.text (.inr full)
    simpa [idOfLabel?, absent] using same
  refine ⟨{ later with catalogue := (later.catalogue.takeId .expression).2 }, ?_, rfl, rfl⟩
  rw [importFactor, run_on_bind_ok again]
  dsimp only
  rw [run_on_bind, run_on_expression_full root later noLabel (grownMiddle.full full),
    grownMiddle.limit]

/-- Where the expression of a factor was stored, it is stored in its own place when the factor is
imported again. -/
theorem again_stored (plainTree : IsPlainTree expr) {after : Workspace}
    {expression : ExpressionEntity}
    (define : ExpressionRun expr.text root middle (.ok expression) after)
    (grown : after.catalogue.GrowsTo later.catalogue) :
    ∃ last, runOn (importFactor expand (.words expr)) later =
        (.ok (words ++ [.expression expression]), last) ∧
      last.tokens = later.tokens ∧
      last.catalogue.contents = (later.catalogue.store (.expression expression)).contents := by
  obtain ⟨indexedMiddle, _⟩ := (repeats_import_root expand expr).run_grows indexed run
  obtain ⟨indexedAfter, growsAfter⟩ := define.grows indexedMiddle
  have grownMiddle := growsAfter.trans indexedAfter.distinct grown
  have again := (repeats_import_root expand expr).run_again indexed run nofun grownMiddle
  have labelled := define.labelled indexedMiddle
  have sameLabel := grown.labels expr.text (.inl (by simp [labelled]))
  rw [labelled, idOfLabel?, Option.map_eq_some_iff] at sameLabel
  obtain ⟨previous, found, sameId⟩ := sameLabel
  have sameExpression : expressionAt root later previous.id expr.text = expression := by
    have kind := content_kind_imported indexedMiddle grownMiddle plainTree
    rw [← (import_root_ok indexed run).1] at kind
    rw [define.expression_eq, sameId, expressionAt, expressionAt, kind]
  refine ⟨{ later with catalogue := later.catalogue.store (.expression expression) }, ?_, rfl, rfl⟩
  rw [importFactor, run_on_bind_ok again]
  dsimp only
  rw [run_on_bind_ok (run_on_expression_redefined root later found), sameExpression]
  rfl

end Expression

section Factor

variable {expand : Bool} {before after later : Workspace} {factor : Factor}
  {outcome : Except Failure (List Entity)} (plain : factor.IsPlain)
  (indexed : before.catalogue.IsIndexed)
include plain indexed

/-- The catalogue is indexed and has grown after a factor was imported. -/
theorem FactorRun.grows (run : FactorRun expand before factor outcome after) :
    after.catalogue.IsIndexed ∧ before.catalogue.GrowsTo after.catalogue := by
  cases run with
  | codes ofSpan =>
    cases plain with
    | codes plain => exact (repeats_import_span plain.distinctCodes).run_grows indexed ofSpan
  | codesFailed ofSpan =>
    cases plain with
    | codes plain => exact (repeats_import_span plain.distinctCodes).run_grows indexed ofSpan
  | @wordFailed expr failure _ ofRoot =>
    exact (repeats_import_root expand expr).run_grows indexed ofRoot
  | @full expr root words middle ofRoot absent full =>
    obtain ⟨indexedMiddle, grows⟩ := (repeats_import_root expand expr).run_grows indexed ofRoot
    exact ⟨indexedMiddle.taken .expression,
      grows.trans indexedMiddle.distinct (grows_taken .expression)⟩
  | @stored expr root words middle _ expression ofRoot define =>
    obtain ⟨indexedMiddle, grows⟩ := (repeats_import_root expand expr).run_grows indexed ofRoot
    obtain ⟨indexedAfter, growsAfter⟩ := define.grows indexedMiddle
    exact ⟨indexedAfter, grows.trans indexedMiddle.distinct growsAfter⟩

/-- What is found after a factor was imported: the expression that it stored under its id, and what
was found before under other ids. -/
theorem FactorRun.find (run : FactorRun expand before factor outcome after) (id : Text) :
    (∀ expression, lastWith id (expressionsOf outcome) = some expression →
      after.catalogue.find? id = some (.expression expression)) ∧
    (∀ entity, lastWith id (expressionsOf outcome) = none →
      before.catalogue.find? id = some entity → after.catalogue.find? id = some entity) := by
  cases run with
  | codes ofSpan =>
    cases plain with
    | codes plain =>
      exact ⟨nofun, fun _ _ => (repeats_import_span plain.distinctCodes).run_keeps ofSpan⟩
  | codesFailed ofSpan =>
    cases plain with
    | codes plain =>
      exact ⟨nofun, fun _ _ => (repeats_import_span plain.distinctCodes).run_keeps ofSpan⟩
  | @wordFailed expr failure _ ofRoot =>
    exact ⟨nofun, fun _ _ => (repeats_import_root expand expr).run_keeps ofRoot⟩
  | @full expr root words middle ofRoot absent full =>
    exact ⟨nofun, fun _ _ => (repeats_import_root expand expr).run_keeps ofRoot⟩
  | @stored expr root words middle _ expression ofRoot define =>
    obtain ⟨_, rfl, _⟩ := import_root_ok indexed ofRoot
    rw [expressions_of_stored, lastWith, lastWith, Option.none_or, define.find]
    by_cases same : expression.id = id
    · simp [same]
    · have keeps : ∀ entity, before.catalogue.find? id = some entity →
          middle.catalogue.find? id = some entity :=
        fun entity found => (repeats_import_root expand expr).run_keeps ofRoot found
      simpa [same, Ne.symm same] using keeps

/-- A factor that was imported can be imported again after the catalogue has grown. The outcome is
the same, no token is drawn, and only the expression is stored once more. -/
theorem FactorRun.again (run : FactorRun expand before factor outcome after)
    (noToken : outcome ≠ .error .noToken)
    (grown : after.catalogue.GrowsTo later.catalogue) :
    ∃ last, runOn (importFactor expand factor) later = (outcome, last) ∧
      last.tokens = later.tokens ∧
      last.catalogue.contents = (later.catalogue.restore (expressionsOf outcome)).contents := by
  cases run with
  | codes ofSpan =>
    cases plain with
    | codes plain =>
      have again := (repeats_import_span plain.distinctCodes).run_again indexed ofSpan nofun grown
      refine ⟨later, ?_, rfl, rfl⟩
      rw [importFactor, run_on_bind_ok again]
      rfl
  | codesFailed ofSpan =>
    cases plain with
    | codes plain =>
      have again := (repeats_import_span plain.distinctCodes).run_again indexed ofSpan
        (by simpa using noToken) grown
      refine ⟨later, ?_, rfl, rfl⟩
      rw [importFactor, run_on_bind, again]
  | @wordFailed expr failure _ ofRoot =>
    have again := (repeats_import_root expand expr).run_again indexed ofRoot
      (by simpa using noToken) grown
    refine ⟨later, ?_, rfl, rfl⟩
    rw [importFactor, run_on_bind, again]
  | full ofRoot absent full => exact again_full indexed ofRoot absent full grown
  | @stored expr root words middle _ expression ofRoot define =>
    cases plain with
    | words plainTree =>
      obtain ⟨_, areWords, _⟩ := import_root_ok indexed ofRoot
      have only : expressionsOf (.ok (words ++ [.expression expression])) = [expression] := by
        rw [areWords, expressions_of_stored]
      rw [only]
      exact again_stored indexed ofRoot plainTree define grown

end Factor

end Import

end PriorArt
