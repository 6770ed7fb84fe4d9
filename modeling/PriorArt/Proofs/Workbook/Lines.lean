import Mathlib.Data.List.Induction
import PriorArt.Proofs.Workbook.Failure

/-!
# What a line does

A line defines something or it does not. A line that defines nothing (a query, or a line that
cannot be read as a statement or as a group of codes) leaves the catalogue as it is. A definition
takes its name from the entities of other kinds, gives out an id and stores one entity under it;
it can only fail between the second and the third of these steps. Everything that lines do to a
catalogue is said by this description, so that an invariant of workbooks is proved by going
through its three cases.
-/

namespace PriorArt

/-- What a statement defines. The names in the expressions are resolved. -/
inductive Definition where
  | group (name : Option Text) (codes : List Text)
  | word (name : Text) (linked : Expr)
  | expression (name : Text) (linked : Expr)

namespace Definition

/-- The name that is defined; only a group of codes can do without. -/
def name? : Definition → Option Text
  | group name _ => name
  | word name _ => some name
  | expression name _ => some name

/-- The kind of the entity. -/
def kind : Definition → EntityKind
  | group .. => .classification
  | word .. => .word
  | expression .. => .expression

/-- The label of the entity: the name, or else the first code. -/
def label : Definition → Text
  | group name codes => name.getD (codes.headD [])
  | word name _ => name
  | expression name _ => name

/-- The catalogue in which the name has been taken from entities of other kinds. -/
def cleared (definition : Definition) (before : Catalogue) : Catalogue :=
  match definition.name? with
  | some name => before.released name definition.kind
  | none => before

/-- The id for the entity, and the catalogue in which it is stored. -/
def site (definition : Definition) (before : Catalogue) : Text × Catalogue :=
  (definition.cleared before).takeIdForLabel definition.label definition.kind

/-- The token of a group of codes: its name, or the token of the group in whose place it comes,
or else the token that was drawn. -/
def groupToken (name : Option Text) (found : Option Entity) (drawn : Text) : Text :=
  match name, found with
  | some name, _ => name
  | none, some (.classification previous) =>
    if previous.token.isEmpty then drawn else previous.token
  | none, _ => drawn

/-- The key and the variants of a word, which are those of the word in whose place it comes. -/
def keyAndVariants : Option Entity → Text × List Text
  | some (.word previous) => (previous.key, previous.variants)
  | _ => ([], [])

/-- The entity that is stored. Only a group of codes has a use for the token that was drawn. -/
def entity (definition : Definition) (before : Catalogue) (drawn : Text) : Entity :=
  let (id, site) := definition.site before
  match definition with
  | .group name codes =>
    .classification (.ofCodes id (name.getD (codes.headD [])) (groupToken name (site.find? id) drawn)
      codes)
  | .word name linked =>
    let (key, variants) := keyAndVariants (site.find? id)
    .word ⟨id, name, name, Brackets.parenthesized linked.text, key, variants⟩
  | .expression name linked =>
    .expression ⟨id, name, some linked, site.contentKind linked = .words⟩

/-- The catalogue in which the entity is stored. -/
def after (definition : Definition) (before : Catalogue) (drawn : Text) : Catalogue :=
  (definition.site before).2.store (definition.entity before drawn)

/-- A token that was drawn for a definition: where the definition is of a group without a name that
had no token before, the drawn one has characters and stands for no group. -/
def IsDrawnFor (definition : Definition) (before : Catalogue) (drawn : Text) : Prop :=
  ∀ codes, definition = group none codes →
    (∀ previous, before.find? (definition.site before).1 = some (.classification previous) →
      previous.token = []) →
    before.classOfToken? drawn = none ∧ drawn ≠ []

/-- The query that is reported for a definition: the search of a group of codes, and otherwise that
of the entity by reference. -/
structure Reports (definition : Definition) (before : Catalogue) (drawn query : Text) : Prop where
  search : ∀ group, definition.entity before drawn = .classification group → query = group.search
  written : definition.kind ≠ .classification →
    query = (definition.after before drawn).query (.reference (definition.site before).1)

/-- What a line achieves that defines an entity with an id. -/
def achievement (definition : Definition) (id query logical : Text) : Achievement :=
  match definition with
  | group .. => .classification id query
  | word .. => .word id query logical
  | expression .. => .expression id query logical

/-- What a definition achieves is the entity with the id and the query. -/
theorem achievement_facts (definition : Definition) (id query logical : Text) :
    (definition.achievement id query logical).id? = some id ∧
      (definition.achievement id query logical).queryText = query := by
  cases definition with
  | group name codes => exact ⟨rfl, rfl⟩
  | word name linked => exact ⟨rfl, rfl⟩
  | expression name linked => exact ⟨rfl, rfl⟩

/-- The id, the kind and the label of the entity that is stored. -/
theorem entity_facts (definition : Definition) (before : Catalogue) (drawn : Text) :
    (definition.entity before drawn).id = (definition.site before).1 ∧
      (definition.entity before drawn).kind = definition.kind ∧
      (definition.entity before drawn).label = definition.label := by
  cases definition with
  | group name codes => exact ⟨rfl, rfl, rfl⟩
  | word name linked => exact ⟨rfl, rfl, rfl⟩
  | expression name linked => exact ⟨rfl, rfl, rfl⟩

/-- The token and the codes of a group that is defined. -/
theorem group_entity {name : Option Text} {codes : List Text} {before : Catalogue}
    {drawn : Text} {stored : ClassEntity}
    (same : (group name codes).entity before drawn = .classification stored) :
    stored.token = groupToken name (((group name codes).site before).2.find?
        ((group name codes).site before).1) drawn ∧
      stored.codes = distinctCodes codes := by
  obtain rfl := Entity.classification.inj same
  exact ⟨rfl, rfl⟩

/-- The definition and the key of a word that is defined. -/
theorem word_entity {name : Text} {linked : Expr} {before : Catalogue} {drawn : Text}
    {stored : WordEntity} (same : (word name linked).entity before drawn = .word stored) :
    stored.definition = Brackets.parenthesized linked.text ∧
      stored.key = (keyAndVariants (((word name linked).site before).2.find?
        ((word name linked).site before).1)).1 := by
  obtain rfl := Entity.word.inj same
  exact ⟨rfl, rfl⟩

/-- A word that is defined has a key only if it comes in the place of a word with this key. -/
theorem keyAndVariants_filled {found : Option Entity} (filled : (keyAndVariants found).1 ≠ []) :
    ∃ previous, found = some (.word previous) ∧ previous.key = (keyAndVariants found).1 := by
  rcases found with _ | word | group | expression
  · exact absurd rfl filled
  · exact ⟨word, rfl, rfl⟩
  · exact absurd rfl filled
  · exact absurd rfl filled

/-- A group that is defined without a name keeps the token that it had. -/
theorem groupToken_kept {previous : ClassEntity} (filled : previous.token ≠ [])
    (drawn : Text) : groupToken none (some (.classification previous)) drawn = previous.token := by
  simp [groupToken, filled]

/-- A definition with a name has the name as its label. -/
theorem label_of_name {definition : Definition} {name : Text}
    (named : definition.name? = some name) : definition.label = name := by
  cases definition with
  | group given codes => rw [label, show given = some name from named, Option.getD_some]
  | word given linked => exact Option.some.inj named
  | expression given linked => exact Option.some.inj named

/-- A definition without a name is of a group of codes. -/
theorem kind_of_unnamed {definition : Definition} (unnamed : definition.name? = none) :
    definition.kind = .classification := by
  cases definition with
  | group given codes => rfl
  | word given linked => cases unnamed
  | expression given linked => cases unnamed

/-- A definition with a name has no use for a token. -/
theorem drawn_for_named {definition : Definition} {name : Text}
    (named : definition.name? = some name) (before : Catalogue) (drawn : Text) :
    definition.IsDrawnFor before drawn := by
  intro codes unnamed
  rw [unnamed] at named
  cases named

/-- The contents of the catalogue in which the id is given out are those after the release of the
name. -/
theorem site_contents (definition : Definition) (before : Catalogue) :
    (definition.site before).2.contents = (definition.cleared before).contents :=
  Catalogue.take_id_for_label_contents ..

/-- Where the id is given out, the entities are those after the release of the name. -/
theorem site_entities (definition : Definition) (before : Catalogue) :
    (definition.site before).2.entities = (definition.cleared before).entities :=
  congrArg Catalogue.Contents.entities (definition.site_contents before)

end Definition

/-- A name defines a word or an expression. -/
def Definition.ofName (before : Catalogue) (name : Text) (linked : Expr) : Definition :=
  if before.definesWord name linked then .word name linked else .expression name linked

/-- A name that is defined is the name of the definition. -/
theorem Definition.of_name_name (before : Catalogue) (name : Text) (linked : Expr) :
    (Definition.ofName before name linked).name? = some name := by
  unfold ofName
  split
  · rfl
  · rfl

/-- A name that is defined does not define a group of codes. -/
theorem Definition.of_name_kind (before : Catalogue) (name : Text) (linked : Expr) :
    (Definition.ofName before name linked).kind ≠ .classification := by
  unfold ofName
  split
  · exact nofun
  · exact nofun

/-- What a statement defines, if anything. -/
def Statement.definition? (statement : Statement) (before : Catalogue) : Option Definition :=
  match statement.field with
  | some .primaryClass | some .furtherClass =>
    match statement.expr.codes with
    | .ok codes => some (.group statement.name codes)
    | .error _ => none
  | _ =>
    statement.name.map (fun name => .ofName before name (before.link statement.expr))

namespace Workbook

open Action

/-- What a line defines, if anything. -/
def definitionOf (before : Catalogue) (line : Text) : Option Definition :=
  match Statement.parse line with
  | .ok statement => statement.definition? before
  | .error _ => none

/-- A word or an expression is defined by a statement with a name that is not in a class field. -/
theorem defines_name_iff {before : Catalogue} {line : Text} (definition : Definition) :
    definitionOf before line = some definition ∧ definition.kind ≠ .classification ↔
      ∃ statement name, Statement.parse line = .ok statement ∧ statement.name = some name ∧
        statement.field ≠ some .primaryClass ∧ statement.field ≠ some .furtherClass ∧
        definition = .ofName before name (before.link statement.expr) := by
  unfold definitionOf Statement.definition?
  constructor
  · rintro ⟨defines, other⟩
    split at defines
    · next statement read =>
      split at defines
      · split at defines
        · cases defines
          exact absurd rfl other
        · cases defines
      · split at defines
        · cases defines
          exact absurd rfl other
        · cases defines
      · next notPrimary notFurther =>
        obtain ⟨name, named, same⟩ := Option.map_eq_some_iff.mp defines
        exact ⟨statement, name, read, named, notPrimary, notFurther, same.symm⟩
    · cases defines
  · rintro ⟨statement, name, read, named, notPrimary, notFurther, rfl⟩
    refine ⟨?_, Definition.of_name_kind _ _ _⟩
    rw [read]
    dsimp only
    split
    · next primary => exact absurd primary notPrimary
    · next further => exact absurd further notFurther
    · rw [named]
      rfl

/-- A group of codes is defined by a statement in a class field whose expression gives the codes. -/
theorem defines_group_iff {before : Catalogue} {line : Text} {name : Option Text}
    {codes : List Text} :
    definitionOf before line = some (.group name codes) ↔
      ∃ statement, Statement.parse line = .ok statement ∧ statement.name = name ∧
        (statement.field = some .primaryClass ∨ statement.field = some .furtherClass) ∧
        statement.expr.codes = .ok codes := by
  have notNamed : ∀ statement : Statement,
      statement.name.map (fun name => Definition.ofName before name (before.link statement.expr)) ≠
        some (.group name codes) := by
    intro statement same
    obtain ⟨given, _, ofGiven⟩ := Option.map_eq_some_iff.mp same
    exact Definition.of_name_kind before given _ (congrArg Definition.kind ofGiven)
  unfold definitionOf Statement.definition?
  constructor
  · intro defines
    split at defines
    · next statement read =>
      refine ⟨statement, read, ?_⟩
      split at defines
      · next field =>
        split at defines
        · next found => cases defines; exact ⟨rfl, .inl field, found⟩
        · cases defines
      · next field =>
        split at defines
        · next found => cases defines; exact ⟨rfl, .inr field, found⟩
        · cases defines
      · exact absurd defines (notNamed statement)
    · cases defines
  · rintro ⟨statement, read, rfl, field | field, found⟩
    · simp only [read, field, found]
    · simp only [read, field, found]

/-- What is defined is given its name by the statement. -/
theorem name_of_definition {before : Catalogue} {line : Text} {definition : Definition}
    (defines : definitionOf before line = some definition) :
    ∃ statement, Statement.parse line = .ok statement ∧ statement.name = definition.name? := by
  by_cases isGroup : definition.kind = .classification
  · cases definition with
    | word name linked => cases isGroup
    | expression name linked => cases isGroup
    | group name codes =>
      obtain ⟨statement, read, named, _⟩ := defines_group_iff.mp defines
      exact ⟨statement, read, named⟩
  · obtain ⟨statement, name, read, named, _, _, rfl⟩ :=
      (defines_name_iff definition).mp ⟨defines, isGroup⟩
    exact ⟨statement, read, named.trans (Definition.of_name_name before name _).symm⟩

/-- An expression that is defined is that of a statement with the names resolved. -/
theorem linked_of_expression {before : Catalogue} {line name : Text} {linked : Expr}
    (defines : definitionOf before line = some (.expression name linked)) :
    ∃ statement, Statement.parse line = .ok statement ∧ statement.name = some name ∧
      linked = before.link statement.expr := by
  obtain ⟨statement, ofStatement, read, named, _, _, same⟩ :=
    (defines_name_iff (.expression name linked)).mp ⟨defines, nofun⟩
  unfold Definition.ofName at same
  split at same
  · cases same
  · obtain ⟨rfl, rfl⟩ := Definition.expression.inj same
    exact ⟨statement, read, named, rfl⟩

/-- What a line does to a catalogue, with its outcome. -/
inductive LineEffect (line : Text) (before : Catalogue) :
    Except Failure Achievement → Catalogue → Prop where
  /-- A line that defines nothing changes nothing. It fails, or it is a query that is answered. -/
  | kept {outcome : Except Failure Achievement} (nothing : definitionOf before line = none)
      (answers : ∀ achievement, outcome = .ok achievement →
        ∃ statement, Statement.parse line = .ok statement ∧ statement.name = none ∧
          achievement = .query (before.query (before.link statement.expr)) statement.expr.text) :
      LineEffect line before outcome before
  /-- A definition that fails has released its name and given out an id. -/
  | refused (definition : Definition) (defines : definitionOf before line = some definition)
      (failure : Failure) : LineEffect line before (.error failure) (definition.site before).2
  /-- A definition that succeeds has stored its entity as well. -/
  | stored (definition : Definition) (defines : definitionOf before line = some definition)
      (drawn query logical : Text) (isDrawn : definition.IsDrawnFor before drawn)
      (reports : definition.Reports before drawn query) :
      LineEffect line before
        (.ok (definition.achievement (definition.site before).1 query logical))
        (definition.after before drawn)

/-- How the storing of a definition ends. -/
inductive Ends (definition : Definition) (before : Catalogue) :
    Except Failure Entity → Catalogue → Prop where
  | refused (failure : Failure) :
      Ends definition before (.error failure) (definition.site before).2
  | stored (drawn : Text) (isDrawn : definition.IsDrawnFor before drawn) :
      Ends definition before (.ok (definition.entity before drawn)) (definition.after before drawn)

/-- A step whose value is only turned into another value. -/
theorem run_on_map {α β : Type} (step : Action α) (turn : α → β) (before : Workspace) :
    runOn (do return turn (← step)) before =
      ((runOn step before).1.map turn, (runOn step before).2) := by
  rw [run_on_bind]
  rcases runOn step before with ⟨outcome, middle⟩
  cases outcome with
  | ok value => rfl
  | error failure => rfl

/-- Storing the entity of a definition where its id was given out is how a definition ends. -/
theorem put_ends {α : Type} {definition : Definition} {before : Catalogue} {drawn : Text}
    (isDrawn : definition.IsDrawnFor before drawn) {start : Workspace}
    (site : start.catalogue = (definition.site before).2) {entity : Entity}
    (same : entity = definition.entity before drawn) (value : α) {turn : α → Entity}
    (turned : turn value = entity) :
    Ends definition before ((runOn (do put entity; return value) start).1.map turn)
      (runOn (do put entity; return value) start).2.catalogue := by
  rw [run_on_bind, run_on_put]
  cases stored : start.catalogue.put? entity with
  | none =>
    have ended : Ends definition before (.error (.limit entity.kind start.catalogue.limit)) _ :=
      .refused _
    rw [← site] at ended
    exact ended
  | some changed =>
    have whole : changed = definition.after before drawn := by
      unfold Catalogue.put? at stored
      split at stored
      · cases stored
      · rw [Definition.after, ← same, ← site]
        exact (Option.some.inj stored).symm
    have ended : Ends definition before _ _ := .stored drawn isDrawn
    rw [← whole, ← same, ← turned] at ended
    exact ended

/-- Storing an entity behind a step that keeps the catalogue. -/
theorem put_ends_behind {α β : Type} {definition : Definition} {before : Catalogue}
    {start : Workspace} (site : start.catalogue = (definition.site before).2) {step : Action β}
    (kept : (runOn step start).2.catalogue = start.catalogue) {value : β → α} {turn : α → Entity}
    (given : ∀ result, (runOn step start).1 = .ok result →
      ∃ drawn, turn (value result) = definition.entity before drawn ∧
        definition.IsDrawnFor before drawn) :
    Ends definition before
      ((runOn (do let result ← step; put (turn (value result)); return value result)
        start).1.map turn)
      (runOn (do let result ← step; put (turn (value result)); return value result)
        start).2.catalogue := by
  rw [run_on_bind]
  rcases run : runOn step start with ⟨outcome, middle⟩
  rw [run] at kept given
  have middleSite : middle.catalogue = (definition.site before).2 := kept.trans site
  cases outcome with
  | error failure =>
    have ended : Ends definition before (.error failure) _ := .refused failure
    rw [← middleSite] at ended
    exact ended
  | ok result =>
    obtain ⟨drawn, same, isDrawn⟩ := given result rfl
    exact put_ends isDrawn middleSite same (value result) rfl

/-- The definition of a name ends as definitions do. -/
theorem define_name_ends (name : Text) (linked : Expr) (before : Workspace) :
    Ends (.ofName before.catalogue name linked) before.catalogue
      (runOn (defineName name linked) before).1
      (runOn (defineName name linked) before).2.catalogue := by
  rw [defineName, run_on_bind_ok (run_on_catalogue before), Definition.ofName]
  split
  · rw [run_on_bind_ok (run_on_release_name name .word before), run_on_map]
    unfold defineWord
    rw [run_on_bind_ok (run_on_take_id_for_label ..), run_on_bind_ok (run_on_catalogue _)]
    refine put_ends (Definition.drawn_for_named rfl _ []) rfl ?_ _ rfl
    rfl
  · rw [run_on_bind_ok (run_on_release_name name .expression before), run_on_map]
    unfold defineExpression
    rw [run_on_bind_ok (run_on_take_id_for_label ..)]
    have seen : ∀ middle, runOn (fitsNearness linked) middle =
      (.ok (middle.catalogue.contentKind linked = .words), middle) := fun _ => rfl
    rw [run_on_bind_ok (seen _)]
    exact put_ends (Definition.drawn_for_named rfl _ []) rfl rfl _ rfl

/-- The token that the definition of a group takes, if drawing one does not fail, is its name,
that of the group in whose place it comes, or one that was drawn for it. -/
theorem class_token_given (name : Option Text) (id : Text) (before : Workspace) {token : Text}
    (given : (runOn (classToken name id) before).1 = .ok token) :
    ∃ drawn, token = Definition.groupToken name (before.catalogue.find? id) drawn ∧
      (name = none →
        (∀ previous, before.catalogue.find? id = some (.classification previous) →
          previous.token = []) →
        before.catalogue.classOfToken? drawn = none ∧ drawn ≠ []) := by
  cases name with
  | some name => exact ⟨[], (Except.ok.inj given).symm, nofun⟩
  | none =>
    have free : (runOn drawClassToken before).1 = .ok token →
        before.catalogue.classOfToken? token = none ∧ token ≠ [] := by
      intro drawn
      obtain ⟨notTaken, filled⟩ := draw_token_free drawn
      exact ⟨by simpa using notTaken, filled⟩
    rw [classToken, run_on_bind_ok (run_on_catalogue before)] at given
    split at given
    · next previous found =>
      rw [found]
      split at given
      · next empty =>
        exact ⟨token, by simp [Definition.groupToken, empty], fun _ _ => free given⟩
      · next filled =>
        refine ⟨[], by simp [Definition.groupToken, filled, (Except.ok.inj given).symm], ?_⟩
        intro _ noToken
        exact absurd (noToken previous rfl) (by simpa using filled)
    · next absent =>
      refine ⟨token, ?_, fun _ _ => free given⟩
      unfold Definition.groupToken
      split <;> simp_all

/-- The part of the definition of a group of codes that comes behind the release of its name. -/
def storeClass (name : Option Text) (codes : List Text) : Action ClassEntity := do
  let id ← takeIdForLabel (name.getD (codes.headD [])) .classification
  let token ← classToken name id
  let entity := ClassEntity.ofCodes id (name.getD (codes.headD [])) token codes
  put (.classification entity)
  return entity

/-- The definition of a group of codes releases the name, if there is one, and stores the group. -/
theorem run_on_define_class (name : Option Text) {expr : Expr} {codes : List Text}
    (read : expr.codes = .ok codes) (before : Workspace) :
    runOn (defineClass name expr) before =
      runOn (storeClass name codes)
        { before with catalogue := (Definition.group name codes).cleared before.catalogue } := by
  unfold defineClass
  rw [read, run_on_bind_ok (run_on_of_except_ok ..)]
  cases name with
  | none => rfl
  | some name =>
    simp only [Option.isSome_some, ↓reduceIte]
    rw [run_on_bind_ok (run_on_release_name _ .classification before)]
    rfl

/-- The definition of a group of codes ends as definitions do. -/
theorem define_class_ends (name : Option Text) {expr : Expr} {codes : List Text}
    (read : expr.codes = .ok codes) (before : Workspace) :
    Ends (.group name codes) before.catalogue
      ((runOn (defineClass name expr) before).1.map Entity.classification)
      (runOn (defineClass name expr) before).2.catalogue := by
  rw [run_on_define_class name read, storeClass, run_on_bind_ok (run_on_take_id_for_label ..)]
  apply put_ends_behind rfl (run_on_class_token ..).1
  intro token given
  obtain ⟨drawn, same, free⟩ := class_token_given _ _ _ given
  refine ⟨drawn, by rw [same]; rfl, ?_⟩
  intro otherCodes unnamed noToken
  obtain ⟨rfl, rfl⟩ := Definition.group.inj unnamed
  have kept : ((Definition.group none codes).site before.catalogue).2.contents =
    before.catalogue.contents := (Definition.group none codes).site_contents before.catalogue
  rw [← Catalogue.class_of_token_contents kept]
  refine free rfl ?_
  rw [← Catalogue.find_contents kept] at noToken
  exact noToken

/-- A statement in the class fields does what lines do. -/
theorem class_effect {line : Text} (name : Option Text) (expr : Expr) (before : Workspace)
    (defines : definitionOf before.catalogue line =
      match expr.codes with
      | .ok codes => some (.group name codes)
      | .error _ => none) :
    LineEffect line before.catalogue
      (runOn (do
        let group ← defineClass name expr
        return Achievement.classification group.id group.search) before).1
      (runOn (do
        let group ← defineClass name expr
        return Achievement.classification group.id group.search) before).2.catalogue := by
  rw [run_on_map]
  cases read : expr.codes with
  | error error =>
    rw [read] at defines
    rw [defineClass, read, run_on_bind, run_on_of_except_error]
    exact .kept defines nofun
  | ok codes =>
    rw [read] at defines
    have ended := define_class_ends name read before
    rcases run : runOn (defineClass name expr) before with ⟨outcome, after, tokens⟩
    rw [run] at ended
    dsimp only at ended ⊢
    generalize turned : outcome.map Entity.classification = stored at ended
    cases ended with
    | refused failure =>
      cases outcome with
      | ok group => cases turned
      | error failure' => exact .refused _ defines failure'
    | stored drawn isDrawn =>
      cases outcome with
      | error failure => cases turned
      | ok group =>
        obtain rfl := Entity.classification.inj (Except.ok.inj turned)
        refine .stored _ defines drawn _ [] isDrawn ⟨?_, fun other => absurd rfl other⟩
        intro group same
        obtain rfl := Entity.classification.inj same
        rfl

/-- A statement that defines a name does what lines do. -/
theorem name_effect {line : Text} (name : Text) (linked : Expr) (logical : Text)
    (before : Workspace)
    (defines : definitionOf before.catalogue line =
      some (.ofName before.catalogue name linked)) :
    LineEffect line before.catalogue
      (runOn (do
        let entity ← defineName name linked
        let query := (← catalogue).query (.reference entity.id)
        match entity with
        | .word word => return Achievement.word word.id query logical
        | defined => return Achievement.expression defined.id query logical) before).1
      (runOn (do
        let entity ← defineName name linked
        let query := (← catalogue).query (.reference entity.id)
        match entity with
        | .word word => return Achievement.word word.id query logical
        | defined => return Achievement.expression defined.id query logical)
        before).2.catalogue := by
  have ended := define_name_ends name linked before
  rw [run_on_bind]
  rcases run : runOn (defineName name linked) before with ⟨outcome, after, tokens⟩
  rw [run] at ended
  dsimp only at ended ⊢
  cases ended with
  | refused failure => exact .refused _ defines failure
  | stored drawn isDrawn =>
    by_cases plain : before.catalogue.definesWord name linked
    · have word : Definition.ofName before.catalogue name linked = .word name linked :=
        if_pos plain
      rw [word] at defines isDrawn ⊢
      exact .stored _ defines drawn _ logical isDrawn ⟨nofun, fun _ => rfl⟩
    · have expression : Definition.ofName before.catalogue name linked =
        .expression name linked := if_neg plain
      rw [expression] at defines isDrawn ⊢
      exact .stored _ defines drawn _ logical isDrawn ⟨nofun, fun _ => rfl⟩

/-- Every line has one of the three effects. -/
theorem line_effect (line : Text) (before : Workspace) :
    LineEffect line before.catalogue ((outcomeOf line).run before).1
      ((outcomeOf line).run before).2.catalogue := by
  change LineEffect line before.catalogue (runOn (processLine line) before).1
    (runOn (processLine line) before).2.catalogue
  unfold processLine
  cases read : Statement.parse line with
  | error error =>
    rw [run_on_bind, run_on_of_except_error]
    exact .kept (by rw [definitionOf, read]) nofun
  | ok statement =>
    have defines : definitionOf before.catalogue line = statement.definition? before.catalogue := by
      rw [definitionOf, read]
    rw [run_on_bind_ok (run_on_of_except_ok ..)]
    unfold perform
    unfold Statement.definition? at defines
    split
    · next field =>
      rw [field] at defines
      exact class_effect _ _ before defines
    · next field =>
      rw [field] at defines
      exact class_effect _ _ before defines
    · next notPrimary notFurther =>
      rw [run_on_bind_ok (run_on_catalogue before)]
      split at defines
      · next primary => exact absurd primary notPrimary
      · next further => exact absurd further notFurther
      · cases named : statement.name with
        | none =>
          rw [named] at defines
          refine .kept defines ?_
          intro achievement achieved
          exact ⟨statement, read, named, (Except.ok.inj achieved).symm⟩
        | some name =>
          rw [named] at defines
          exact name_effect name _ _ before defines

/-- A line with a name that succeeds has stored what it defines. -/
theorem named_line_stores {line name : Text} {statement : Statement}
    (read : Statement.parse line = .ok statement) (named : statement.name = some name)
    {before after : Workspace} {achievement : Achievement}
    (success : (outcomeOf line).run before = (.ok achievement, after)) :
    ∃ definition drawn, definitionOf before.catalogue line = some definition ∧
      definition.name? = some name ∧ after.catalogue = definition.after before.catalogue drawn ∧
      achievement.id? = some (definition.site before.catalogue).1 ∧
      definition.Reports before.catalogue drawn achievement.queryText := by
  have effect := line_effect line before
  rw [success] at effect
  dsimp only at effect
  generalize achieved : Except.ok achievement = outcome at effect
  generalize left : after.catalogue = stored at effect
  cases effect with
  | kept nothing answers =>
    obtain ⟨other, otherRead, unnamed, _⟩ := answers achievement achieved.symm
    obtain rfl := Except.ok.inj (read.symm.trans otherRead)
    cases named.symm.trans unnamed
  | refused definition defines failure => cases achieved
  | stored definition defines drawn query logical isDrawn reports =>
    obtain ⟨other, otherRead, sameName⟩ := name_of_definition defines
    obtain rfl := Except.ok.inj (read.symm.trans otherRead)
    obtain rfl := Except.ok.inj achieved
    obtain ⟨ofId, ofQuery⟩ := definition.achievement_facts (definition.site before.catalogue).1
      query logical
    exact ⟨definition, drawn, defines, sameName.symm.trans named, rfl, ofId, ofQuery.symm ▸ reports⟩

/-- The workspace after lines were processed in order. -/
def afterLines (lines : List Text) (start : Workspace) : Workspace :=
  lines.foldl (fun before line => ((outcomeOf line).run before).2) start

/-- Lines after others are processed where those ended. -/
theorem after_lines_append (earlier later : List Text) (start : Workspace) :
    afterLines (earlier ++ later) start = afterLines later (afterLines earlier start) :=
  List.foldl_append

/-- The last of several lines is processed where the others ended. -/
theorem after_lines_snoc (lines : List Text) (line : Text) (start : Workspace) :
    afterLines (lines ++ [line]) start =
      ((outcomeOf line).run (afterLines lines start)).2 := by
  rw [after_lines_append]
  rfl

/-- The lines of a workbook are processed in order, without those that are passed over. -/
theorem process_lines_state (numbered : List (Text × Nat)) (start : Workspace) :
    ((processLines numbered).run start).2 =
      afterLines ((numbered.map Prod.fst).filter (fun line => !isPassedOver line)) start := by
  induction numbered generalizing start with
  | nil => rfl
  | cons first rest inductionHypothesis =>
    obtain ⟨line, number⟩ := first
    by_cases passed : isPassedOver line
    · simp only [processLines, if_pos passed, List.map_cons]
      rw [List.filter_cons_of_neg (by simp [passed]), inductionHypothesis]
    · simp only [processLines, if_neg passed, List.map_cons]
      rw [List.filter_cons_of_pos (by simpa using passed), afterLines, List.foldl_cons]
      exact inductionHypothesis _

/-- What every line preserves, whatever its effect, holds after all lines. -/
theorem invariant_after_lines (invariant : Catalogue → Prop) (lines : List Text)
    (step : ∀ line ∈ lines, ∀ before outcome after,
      LineEffect line before outcome after → invariant before → invariant after)
    {start : Workspace} (initial : invariant start.catalogue) :
    invariant (afterLines lines start).catalogue := by
  induction lines using List.reverseRecOn with
  | nil => exact initial
  | append_singleton earlier line inductionHypothesis =>
    rw [after_lines_snoc]
    refine step line (by simp) _ _ _ (line_effect line _) (inductionHypothesis ?_)
    intro other inside
    exact step other (List.mem_append_left _ inside)

end Workbook

end PriorArt
