import PriorArt.Proofs.Workbook.Numbering

/-!
# Well-formed reports

Every line of a workbook gets a report. It shows a failure or an achievement, and not both. A failure
says that the line is no statement, that its expression gives no codes for a class field, or that a
kind of entity is at the limit; beside that a line can only want a token. An achievement other than a
query names an entity that is stored afterwards and is of the kind that the achievement says. A query
is answered from the catalogue as it is, and changes nothing.
-/

namespace PriorArt

open Action

namespace Workbook

/-- Why a line fails. -/
inductive LineFailure (line : Text) : Failure → Prop where
  | unread {error : ParseError} (unread : Statement.parse line = .error error) :
      LineFailure line (.parse error)
  | noCodes {statement : Statement} {error : CodesError}
      (read : Statement.parse line = .ok statement)
      (inClassField : statement.field = some .primaryClass ∨ statement.field = some .furtherClass)
      (noCodes : statement.expr.codes = .error error) : LineFailure line (.codes error)
  | full (kind : EntityKind) (most : Int) : LineFailure line (.limit kind most)
  | noToken : LineFailure line .noToken

variable {line : Text} {before after : Workspace} {failure : Failure}

/-- Storing a group of codes fails for want of room or of a token. -/
theorem store_class_cause {name : Option Text} {codes : List Text}
    (failed : runOn (storeClass name codes) before = (.error failure, after)) :
    LineFailure line failure := by
  rw [storeClass, run_on_bind_ok (run_on_take_id_for_label ..)] at failed
  rcases run_on_bind_error failed with noToken | ⟨token, middle, _, failed⟩
  · obtain ⟨_, cause⟩ := run_on_class_token name _ _
    rw [noToken] at cause
    rw [(cause failure rfl).1]
    exact .noToken
  · rcases run_on_bind_error failed with refused | ⟨_, _, _, impossible⟩
    · obtain ⟨⟨most, rfl⟩, _⟩ := put_failed refused
      exact .full _ most
    · cases (Prod.mk.inj impossible).1

/-- The definition of a group of codes fails because its expression gives none, or for want of room
or of a token. -/
theorem define_class_cause {statement : Statement} (read : Statement.parse line = .ok statement)
    (inClassField : statement.field = some .primaryClass ∨ statement.field = some .furtherClass)
    (failed : runOn (defineClass statement.name statement.expr) before = (.error failure, after)) :
    LineFailure line failure := by
  cases given : statement.expr.codes with
  | error error =>
    rw [defineClass, given, run_on_bind, run_on_of_except_error] at failed
    obtain ⟨same, _⟩ := Prod.mk.inj failed
    rw [← Except.error.inj same]
    exact .noCodes read inClassField given
  | ok codes =>
    rw [run_on_define_class _ given] at failed
    exact store_class_cause failed

/-- The definition of a name fails for want of room. -/
theorem define_name_cause {name : Text} {linked : Expr}
    (failed : runOn (defineName name linked) before = (.error failure, after)) :
    LineFailure line failure := by
  rw [defineName, run_on_bind_ok (run_on_catalogue before)] at failed
  split at failed
  · rw [run_on_bind_ok (run_on_release_name name .word before)] at failed
    rcases run_on_bind_error failed with refused | ⟨_, _, _, impossible⟩
    · obtain ⟨⟨most, rfl⟩, _⟩ := define_word_failed refused
      exact .full _ most
    · cases (Prod.mk.inj impossible).1
  · rw [run_on_bind_ok (run_on_release_name name .expression before)] at failed
    rcases run_on_bind_error failed with refused | ⟨_, _, _, impossible⟩
    · obtain ⟨⟨most, rfl⟩, _⟩ := define_expression_failed refused
      exact .full _ most
    · cases (Prod.mk.inj impossible).1

/-- A statement that cannot be carried out. -/
theorem perform_cause {statement : Statement} (read : Statement.parse line = .ok statement)
    (failed : runOn (perform statement) before = (.error failure, after)) :
    LineFailure line failure := by
  unfold perform at failed
  split at failed
  · next inPrimary =>
    rcases run_on_bind_error failed with defined | ⟨_, _, _, impossible⟩
    · exact define_class_cause read (.inl inPrimary) defined
    · cases (Prod.mk.inj impossible).1
  · next inFurther =>
    rcases run_on_bind_error failed with defined | ⟨_, _, _, impossible⟩
    · exact define_class_cause read (.inr inFurther) defined
    · cases (Prod.mk.inj impossible).1
  · rw [run_on_bind_ok (run_on_catalogue before)] at failed
    cases named : statement.name with
    | none =>
      rw [named] at failed
      cases (Prod.mk.inj failed).1
    | some name =>
      rw [named] at failed
      rcases run_on_bind_error failed with defined | ⟨entity, middle, _, impossible⟩
      · exact define_name_cause defined
      · cases entity <;> cases (Prod.mk.inj impossible).1

/-- A line that fails does so for one of the reasons. -/
theorem line_cause (failed : runOn (processLine line) before = (.error failure, after)) :
    LineFailure line failure := by
  unfold processLine at failed
  cases read : Statement.parse line with
  | error error =>
    rw [read, run_on_bind, run_on_of_except_error] at failed
    obtain ⟨same, _⟩ := Prod.mk.inj failed
    rw [← Except.error.inj same]
    exact .unread read
  | ok statement =>
    rw [read, run_on_bind_ok (run_on_of_except_ok ..)] at failed
    exact perform_cause read failed

/-- The entity that a line with an achievement other than a query has stored. -/
theorem achieved_entity {achievement : Achievement}
    (achieved : runOn (processLine line) before = (.ok achievement, after))
    (noQuery : achievement.kindName ≠ "query") :
    ∃ id entity, achievement.id? = some id ∧ after.catalogue.find? id = some entity ∧
      entity.kind.name = achievement.kindName := by
  have effect := line_effect line before
  change LineEffect line before.catalogue (runOn (processLine line) before).1
    (runOn (processLine line) before).2.catalogue at effect
  rw [achieved] at effect
  dsimp only at effect
  generalize isOutcome : (Except.ok achievement : Except Failure Achievement) = outcome at effect
  generalize isAfter : after.catalogue = later at effect
  cases effect with
  | kept nothing answers =>
    obtain ⟨statement, _, _, rfl⟩ := answers achievement isOutcome.symm
    exact absurd rfl noQuery
  | refused definition defines failure => cases isOutcome
  | stored definition defines drawn query logical isDrawn reports =>
    obtain rfl := Except.ok.inj isOutcome
    obtain ⟨ofId, _⟩ := definition.achievement_facts (definition.site before.catalogue).1 query
      logical
    have found := definition.find_after before.catalogue drawn (definition.site before.catalogue).1
    rw [if_pos rfl] at found
    refine ⟨_, _, ofId, found, ?_⟩
    rw [(definition.entity_facts before.catalogue drawn).2.1]
    cases definition with
    | group name codes => rfl
    | word name linked => rfl
    | expression name linked => rfl

/-- A line that is a query is answered from the workspace as it is. -/
theorem answered_query {query logical : Text}
    (achieved : runOn (processLine line) before = (.ok (.query query logical), after)) :
    after = before ∧ ∃ statement, Statement.parse line = .ok statement ∧
      query = before.catalogue.query (before.catalogue.link statement.expr) ∧
      logical = statement.expr.text := by
  unfold processLine at achieved
  cases read : Statement.parse line with
  | error error =>
    rw [read, run_on_bind, run_on_of_except_error] at achieved
    cases (Prod.mk.inj achieved).1
  | ok statement =>
    rw [read, run_on_bind_ok (run_on_of_except_ok ..)] at achieved
    unfold perform at achieved
    have noGroup : runOn (do
        let group ← defineClass statement.name statement.expr
        return Achievement.classification group.id group.search) before ≠
          (.ok (.query query logical), after) := by
      intro same
      obtain ⟨group, middle, _, given⟩ := run_on_bind_success same
      cases (Prod.mk.inj given).1
    split at achieved
    · exact absurd achieved noGroup
    · exact absurd achieved noGroup
    · rw [run_on_bind_ok (run_on_catalogue before)] at achieved
      cases named : statement.name with
      | none =>
        rw [named] at achieved
        obtain ⟨same, unchanged⟩ := Prod.mk.inj achieved
        obtain ⟨ofQuery, ofLogical⟩ := Achievement.query.inj (Except.ok.inj same)
        exact ⟨unchanged.symm, statement, rfl, ofQuery.symm, ofLogical.symm⟩
      | some name =>
        rw [named] at achieved
        obtain ⟨entity, middle, _, given⟩ := run_on_bind_success achieved
        cases entity <;> cases (Prod.mk.inj given).1

end Workbook

/-- A report on a line, which takes one workspace to another, is well formed. -/
structure LineReport.IsWellFormed (report : LineReport) (before after : Workspace) : Prop where
  /-- Either an achievement or an error is shown, and not both. -/
  exclusive : Xor (report.achievement?.isSome = true) (report.error?.isSome = true)
  /-- A failure is one that lines are allowed to have, and does not come from the tokens. -/
  caught : ∀ failure, report.outcome = .error failure →
    Workbook.LineFailure report.text failure ∧ failure ≠ .noToken
  /-- What is defined is stored, and is of the kind that is shown. -/
  stored : ∀ achievement, report.achievement? = some achievement →
    achievement.kindName ≠ "query" →
      ∃ id entity, achievement.id? = some id ∧ after.catalogue.find? id = some entity ∧
        entity.kind.name = achievement.kindName
  /-- A query has no id, is answered from the workspace as it was, and leaves it so. -/
  answered : ∀ achievement, report.achievement? = some achievement →
    achievement.kindName = "query" →
      achievement.id? = none ∧ after = before ∧
        ∃ statement, Statement.parse report.text = .ok statement ∧
          achievement = .query (before.catalogue.query (before.catalogue.link statement.expr))
            statement.expr.text

namespace Workbook

/-- Only queries are shown as queries. -/
theorem query_of_kindName {achievement : Achievement} (isQuery : achievement.kindName = "query") :
    ∃ query logical, achievement = .query query logical := by
  cases achievement with
  | classification id query => exact absurd isQuery (show "classification" ≠ "query" by decide)
  | word id query logical => exact absurd isQuery (show "word" ≠ "query" by decide)
  | expression id query logical => exact absurd isQuery (show "expression" ≠ "query" by decide)
  | query query logical => exact ⟨query, logical, rfl⟩

end Workbook

end PriorArt
