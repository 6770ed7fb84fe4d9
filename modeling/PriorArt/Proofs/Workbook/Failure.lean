import PriorArt.Proofs.Catalogue.Contents
import PriorArt.Proofs.Workspace.Steps
import PriorArt.Workbook

/-!
# Failing lines

A line that fails may still have changed what is stored. A definition first takes its name from
the entities of other kinds and only then stores the new entity, which may be refused for want of
room; the entities that bore the name are gone by then. This is the only way in which a failing
line changes the contents of the catalogue: every other failure comes before the first change, or
after changes to counters and tokens alone.

The statements hold for every workspace, so in particular for those that lines lead to.
-/

namespace PriorArt.Workbook

open Action

/-- Releasing a name never fails. -/
theorem run_on_release_name (name : Text) (keep : EntityKind) (before : Workspace) :
    runOn (releaseName name keep) before =
      (.ok (), { before with catalogue := before.catalogue.released name keep }) := by
  apply run_on_for_each
  intro kind middle
  rw [run_on_bind_ok (run_on_catalogue middle), Catalogue.releaseKind]
  cases middle.catalogue.ofLabel? name kind with
  | some entity => rfl
  | none => rfl

/-- Storing an entity fails only for want of room, and then changes nothing. -/
theorem put_failed {entity : Entity} {before after : Workspace} {failure : Failure}
    (failed : runOn (put entity) before = (.error failure, after)) :
    (∃ most, failure = .limit entity.kind most) ∧ after = before := by
  rw [run_on_put] at failed
  split at failed
  · cases (Prod.mk.inj failed).1
  · obtain ⟨sameFailure, sameAfter⟩ := Prod.mk.inj failed
    exact ⟨⟨_, (Except.error.inj sameFailure).symm⟩, sameAfter.symm⟩

/-- Defining a word fails only for want of room, and then keeps the contents. -/
theorem define_word_failed {token definition : Text} {before after : Workspace}
    {failure : Failure}
    (failed : runOn (defineWord token definition) before = (.error failure, after)) :
    (∃ most, failure = .limit .word most) ∧
      after.catalogue.contents = before.catalogue.contents := by
  rw [defineWord, run_on_bind_ok (run_on_take_id_for_label ..),
    run_on_bind_ok (run_on_catalogue _)] at failed
  rcases run_on_bind_error failed with refused | ⟨_, _, _, impossible⟩
  · obtain ⟨limit, same⟩ := put_failed refused
    exact ⟨limit, by rw [same, Catalogue.take_id_for_label_contents]⟩
  · cases (Prod.mk.inj impossible).1

/-- Defining an expression fails only for want of room, and then keeps the contents. -/
theorem define_expression_failed {label : Text} {root : Expr} {before after : Workspace}
    {failure : Failure}
    (failed : runOn (defineExpression label root) before = (.error failure, after)) :
    (∃ most, failure = .limit .expression most) ∧
      after.catalogue.contents = before.catalogue.contents := by
  have seen : ∀ middle, runOn (fitsNearness root) middle =
      (.ok (middle.catalogue.contentKind root = .words), middle) := fun _ => rfl
  rw [defineExpression, run_on_bind_ok (run_on_take_id_for_label ..),
    run_on_bind_ok (seen _)] at failed
  rcases run_on_bind_error failed with refused | ⟨_, _, _, impossible⟩
  · obtain ⟨limit, same⟩ := put_failed refused
    exact ⟨limit, by rw [same, Catalogue.take_id_for_label_contents]⟩
  · cases (Prod.mk.inj impossible).1

/-- Choosing the token of a group of codes keeps the catalogue. It fails only for want of a free
token, and never if the group has a name. -/
theorem run_on_class_token (name : Option Text) (id : Text) (before : Workspace) :
    (runOn (classToken name id) before).2.catalogue = before.catalogue ∧
      ∀ failure, (runOn (classToken name id) before).1 = .error failure →
        failure = .noToken ∧ name = none := by
  cases name with
  | some name => exact ⟨rfl, fun failure failed => by cases failed⟩
  | none =>
    obtain ⟨drawnSame, drawnFailed⟩ :=
      run_on_draw_token (fun catalogue token => (catalogue.classOfToken? token).isSome) before
    rw [classToken, run_on_bind_ok (run_on_catalogue before)]
    split
    · split
      · exact ⟨drawnSame, fun failure failed => ⟨drawnFailed failure failed, rfl⟩⟩
      · exact ⟨rfl, fun failure failed => by cases failed⟩
    · exact ⟨drawnSame, fun failure failed => ⟨drawnFailed failure failed, rfl⟩⟩

/-- How the contents stand after a statement failed. Either the failure came before any change,
in which case it is no refusal unless the statement has no name; or an entity of some kind was
refused, and by then the name had been released from the other kinds. -/
inductive FailureEffect (name : Option Text) (before after : Catalogue) (failure : Failure) :
    Prop where
  | early (same : after.contents = before.contents)
      (cause : name = none ∨ ∀ kind most, failure ≠ .limit kind most)
  | refused (label : Text) (kind : EntityKind) (most : Int) (named : name = some label)
      (limited : failure = .limit kind most)
      (left : after.contents = (before.released label kind).contents)

/-- After a failure the contents are as they were, except exactly if an entity was refused after
its name was taken from an entity of another kind. -/
theorem FailureEffect.keeps_contents_iff {name : Option Text} {before after : Catalogue}
    {failure : Failure} (effect : FailureEffect name before after failure) :
    after.contents = before.contents ↔
      ¬ ∃ label kind most, name = some label ∧ failure = .limit kind most ∧
        ∃ entity ∈ before.entities, entity.label = label ∧ entity.kind ≠ kind := by
  cases effect with
  | early same cause =>
    constructor
    · rintro - ⟨label, kind, most, named, limited, _⟩
      rcases cause with unnamed | noLimit
      · rw [unnamed] at named
        cases named
      · exact noLimit kind most limited
    · rintro -
      exact same
  | refused label kind most named limited left =>
    rw [left, Catalogue.released_contents_iff]
    constructor
    · rintro kept ⟨other, otherKind, _, otherNamed, otherLimited, entity, member, labelled,
        different⟩
      rw [named] at otherNamed
      rw [limited] at otherLimited
      obtain ⟨sameKind, _⟩ := Failure.limit.inj otherLimited
      rw [← Option.some.inj otherNamed] at labelled
      exact different (by rw [kept entity member labelled, sameKind])
    · intro notRefused entity member labelled
      by_cases sameKind : entity.kind = kind
      · exact sameKind
      · exact absurd ⟨label, kind, most, named, limited, entity, member, labelled, sameKind⟩
          notRefused

/-- The part of the definition of a group of codes that comes after its name was released. -/
theorem store_class_failed {name : Option Text} {label : Text} {codes : List Text}
    {before after : Workspace} {failure : Failure}
    (failed : runOn (do
      let id ← takeIdForLabel label .classification
      let token ← classToken name id
      let entity := ClassEntity.ofCodes id label token codes
      put (.classification entity)
      return entity) before = (.error failure, after)) :
    after.catalogue.contents = before.catalogue.contents ∧
      (name = none ∨ ∃ most, failure = .limit .classification most) := by
  rw [run_on_bind_ok (run_on_take_id_for_label ..)] at failed
  have kept := Catalogue.take_id_for_label_contents before.catalogue label .classification
  rcases run_on_bind_error failed with noToken | ⟨token, middle, drawn, failed⟩
  · obtain ⟨same, cause⟩ := run_on_class_token name _ _
    rw [noToken] at same cause
    exact ⟨by rw [same, kept], .inl (cause failure rfl).2⟩
  · obtain ⟨same, _⟩ := run_on_class_token name _ _
    rw [drawn] at same
    rcases run_on_bind_error failed with refused | ⟨_, _, _, impossible⟩
    · obtain ⟨limit, unchanged⟩ := put_failed refused
      exact ⟨by rw [unchanged, same, kept], .inr limit⟩
    · cases (Prod.mk.inj impossible).1

/-- The definition of a group of codes that fails. -/
theorem define_class_failed {name : Option Text} {expr : Expr} {before after : Workspace}
    {failure : Failure}
    (failed : runOn (defineClass name expr) before = (.error failure, after)) :
    FailureEffect name before.catalogue after.catalogue failure := by
  unfold defineClass at failed
  cases read : expr.codes with
  | error error =>
    rw [read, run_on_bind, run_on_of_except_error] at failed
    obtain ⟨sameFailure, sameAfter⟩ := Prod.mk.inj failed
    refine .early (by rw [sameAfter]) (.inr ?_)
    intro kind most limited
    rw [← Except.error.inj sameFailure] at limited
    cases limited
  | ok codes =>
    rw [read, run_on_bind_ok (run_on_of_except_ok ..)] at failed
    cases name with
    | none => exact .early (store_class_failed failed).1 (.inl rfl)
    | some label =>
      simp only [Option.isSome_some, ↓reduceIte, Option.getD_some] at failed
      rw [run_on_bind_ok (run_on_release_name label .classification before)] at failed
      obtain ⟨left, cause⟩ := store_class_failed failed
      rcases cause with unnamed | ⟨most, limited⟩
      · cases unnamed
      · exact .refused label .classification most rfl limited left

/-- The definition of a name that fails. -/
theorem define_name_failed {name : Text} {linked : Expr} {before after : Workspace}
    {failure : Failure}
    (failed : runOn (defineName name linked) before = (.error failure, after)) :
    FailureEffect (some name) before.catalogue after.catalogue failure := by
  rw [defineName, run_on_bind_ok (run_on_catalogue before)] at failed
  split at failed
  · rw [run_on_bind_ok (run_on_release_name name .word before)] at failed
    rcases run_on_bind_error failed with refused | ⟨_, _, _, impossible⟩
    · obtain ⟨⟨most, limited⟩, left⟩ := define_word_failed refused
      exact .refused name .word most rfl limited left
    · cases (Prod.mk.inj impossible).1
  · rw [run_on_bind_ok (run_on_release_name name .expression before)] at failed
    rcases run_on_bind_error failed with refused | ⟨_, _, _, impossible⟩
    · obtain ⟨⟨most, limited⟩, left⟩ := define_expression_failed refused
      exact .refused name .expression most rfl limited left
    · cases (Prod.mk.inj impossible).1

/-- A statement that is carried out and fails. Queries do not fail. -/
theorem perform_failed {statement : Statement} {before after : Workspace} {failure : Failure}
    (failed : runOn (perform statement) before = (.error failure, after)) :
    FailureEffect statement.name before.catalogue after.catalogue failure := by
  unfold perform at failed
  split at failed
  · rcases run_on_bind_error failed with defined | ⟨_, _, _, impossible⟩
    · exact define_class_failed defined
    · cases (Prod.mk.inj impossible).1
  · rcases run_on_bind_error failed with defined | ⟨_, _, _, impossible⟩
    · exact define_class_failed defined
    · cases (Prod.mk.inj impossible).1
  · rw [run_on_bind_ok (run_on_catalogue before)] at failed
    cases named : statement.name with
    | none =>
      rw [named] at failed
      cases (Prod.mk.inj failed).1
    | some name =>
      rw [named] at failed
      rcases run_on_bind_error failed with defined | ⟨entity, middle, _, impossible⟩
      · exact define_name_failed defined
      · cases entity <;> cases (Prod.mk.inj impossible).1

/-- A line is refused for want of room for an entity of one kind after its name was taken from an
entity of another kind. -/
def RefusedAfterRelease (line : Text) (before : Catalogue) (failure : Failure) : Prop :=
  ∃ statement name kind most, Statement.parse line = .ok statement ∧
    statement.name = some name ∧ failure = .limit kind most ∧
    ∃ entity ∈ before.entities, entity.label = name ∧ entity.kind ≠ kind

/-- A failing line keeps the stored entities and the indexes, except exactly if it is refused for
want of room after its name was taken from an entity of another kind. -/
theorem failing_line_keeps_contents_iff (line : Text) (before after : Workspace)
    (failure : Failure) (failed : (outcomeOf line).run before = (.error failure, after)) :
    after.catalogue.contents = before.catalogue.contents ↔
      ¬ RefusedAfterRelease line before.catalogue failure := by
  have run : runOn (processLine line) before = (.error failure, after) := failed
  unfold processLine at run
  cases read : Statement.parse line with
  | error error =>
    rw [read, run_on_bind, run_on_of_except_error] at run
    obtain ⟨_, sameAfter⟩ := Prod.mk.inj run
    constructor
    · rintro - ⟨statement, _, _, _, readable, _⟩
      rw [read] at readable
      cases readable
    · rintro -
      rw [sameAfter]
  | ok statement =>
    rw [read, run_on_bind_ok (run_on_of_except_ok ..)] at run
    rw [(perform_failed run).keeps_contents_iff]
    apply not_congr
    constructor
    · rintro ⟨name, kind, most, refused⟩
      exact ⟨statement, name, kind, most, read, refused⟩
    · rintro ⟨other, name, kind, most, readable, refused⟩
      rw [read] at readable
      rw [← Except.ok.inj readable] at refused
      exact ⟨name, kind, most, refused⟩

/-- A workspace with room for one entity of each kind, after lines that define the word `A` and
the expression `B`. -/
def crowded : Workspace :=
  ((processLines [(['A', '=', 'X'], 1), (['B', '=', 'X', ',', '5', 'n', ',', 'Y'], 2)]).run
    ⟨Catalogue.empty 1, TokenSource.standard (congruential 1)⟩).2

/-- The workspace after the further line that redefines `B` as a word. -/
def emptied : Workspace := ((outcomeOf ['B', '=', 'Z']).run crowded).2

/-- The redefinition fails, and the expression `B` is gone. -/
theorem failing_line_loses_expression :
    (outcomeOf ['B', '=', 'Z']).run crowded = (.error (.limit .word 1), emptied) ∧
      emptied.catalogue.contents ≠ crowded.catalogue.contents ∧
      (emptied.catalogue.contents = crowded.catalogue.contents ↔
        ¬ RefusedAfterRelease ['B', '=', 'Z'] crowded.catalogue (.limit .word 1)) := by
  refine ⟨rfl, ?_, failing_line_keeps_contents_iff _ crowded emptied _ rfl⟩
  intro same
  have sameNumber : emptied.catalogue.entities.length = crowded.catalogue.entities.length :=
    congrArg (fun contents => contents.entities.length) same
  exact absurd sameNumber (by decide)

end PriorArt.Workbook
