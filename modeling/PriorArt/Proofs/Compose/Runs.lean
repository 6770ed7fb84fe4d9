import Mathlib.Data.List.Forall2
import PriorArt.Compose
import PriorArt.Proofs.Expr.Leaves
import PriorArt.Proofs.Import.Steps
import PriorArt.Proofs.Workbook.Failure
import PriorArt.Proofs.Workspace.Steps

/-!
# What a composition does

A composition looks up its sources, checks them, takes their trees and reads the distance, if there is
one. Each of these steps only looks, and may refuse the composition. Then the composed tree is stored
under the label that is made of the sources. So a composition either is refused where nothing has
changed, or it is possible among the stored entities and all that happens is the definition of an
expression.
-/

namespace PriorArt

/-- A failure by which a composition is refused before anything is stored. -/
inductive Failure.IsRefusal : Failure → Prop where
  | unknownId (id : Text) : IsRefusal (.unknownId id)
  | sources (fault : SourceFault) : IsRefusal (.sources fault)
  | distance (error : DistanceError) : IsRefusal (.distance error)

namespace Action

variable {α β : Type} {before : Workspace}

/-- A step leaves the workspace as it is: it gives a value with a property, or it refuses. -/
inductive Checks (before : Workspace) (step : Action α) (gives : α → Prop) : Prop where
  | given {value : α} (run : runOn step before = (.ok value, before)) (holds : gives value) :
      Checks before step gives
  | refused {failure : Failure} (run : runOn step before = (.error failure, before))
      (refusal : failure.IsRefusal) : Checks before step gives

namespace Checks

variable {step : Action α} {next : α → Action β} {gives : α → Prop}

/-- What two steps do, the first of which only checks: either that one refuses, or the second one goes on
from the same workspace. -/
theorem behind (checks : Checks before step gives) {run : Except Failure β × Workspace → Prop}
    (refuses : ∀ failure, failure.IsRefusal → run (.error failure, before))
    (goesOn : ∀ value, gives value → run (runOn (next value) before)) :
    run (runOn (step >>= next) before) := by
  cases checks with
  | @given value ran holds =>
    rw [run_on_bind_ok ran]
    exact goesOn value holds
  | @refused failure ran refusal =>
    rw [run_on_bind, ran]
    exact refuses failure refusal

/-- Two steps that only check. -/
theorem bind (checks : Checks before step gives) {later : β → Prop}
    (second : ∀ value, gives value → Checks before (next value) later) :
    Checks before (step >>= next) later := by
  cases checks with
  | @given value ran holds =>
    cases second value holds with
    | given further holds => exact .given ((run_on_bind_ok ran next).trans further) holds
    | refused further refusal => exact .refused ((run_on_bind_ok ran next).trans further) refusal
  | @refused failure ran refusal => exact .refused (by rw [run_on_bind, ran]) refusal

/-- A check of which less is said. -/
theorem imp (checks : Checks before step gives) {other : α → Prop}
    (weaker : ∀ value, gives value → other value) : Checks before step other := by
  cases checks with
  | given run holds => exact .given run (weaker _ holds)
  | refused run refusal => exact .refused run refusal

/-- A check for each of several items. -/
theorem map_each {step : α → Action β} {gives : α → β → Prop}
    (each : ∀ item, Checks before (step item) (gives item)) (items : List α) :
    Checks before (items.mapM step) (fun values => List.Forall₂ gives items values) := by
  induction items with
  | nil => exact .given rfl .nil
  | cons item rest inductionHypothesis =>
    rw [List.mapM_cons]
    refine (each item).bind (fun value ofItem => ?_)
    exact inductionHypothesis.bind (fun values ofRest => .given rfl (.cons ofItem ofRest))

end Checks

/-- The catalogue is looked at. -/
theorem checks_catalogue : Checks before catalogue (fun seen => seen = before.catalogue) :=
  .given rfl rfl

/-- An entity is looked up by its id. -/
theorem checks_entity (id : Text) :
    Checks before (entity id) (fun source => before.catalogue.find? id = some source) := by
  refine checks_catalogue.bind (fun seen same => ?_)
  subst same
  cases before.catalogue.find? id with
  | some source => exact .given rfl rfl
  | none => exact .refused rfl (.unknownId id)

/-- What a reader gives is given; its error refuses. -/
theorem checks_of_except {ε : Type} {failure : ε → Failure}
    (refusal : ∀ error, (failure error).IsRefusal) (read : Except ε α) :
    Checks before (ofExcept failure read) (fun value => read = .ok value) := by
  cases read with
  | ok value => exact .given rfl rfl
  | error error => exact .refused rfl (refusal error)

end Action

namespace Compose

open Action

variable {before : Workspace}

/-- What an entity contributes to a composition, if it contributes anything. -/
def operand? : Entity → Option Expr
  | .expression entity => entity.root
  | .word entity => some (.reference entity.id)
  | .classification group => some (.reference group.id)

/-- An entity is taken as an operand unless it is an expression without a tree. -/
theorem checks_operand (source : Entity) :
    Checks before (operand source) (fun expr => operand? source = some expr) := by
  cases source with
  | word word => exact .given rfl rfl
  | classification group => exact .given rfl rfl
  | expression expression =>
    unfold operand operand?
    dsimp only
    cases expression.root with
    | some root => exact .given rfl rfl
    | none => exact .refused rfl (.sources .noTree)

/-- Two sources or more are looked up by their ids. -/
theorem checks_sources (ids : List Text) :
    Checks before (severalSources ids) (fun sources => 2 ≤ ids.length ∧
      List.Forall₂ (fun id source => before.catalogue.find? id = some source) ids sources) := by
  unfold severalSources
  split
  · exact .refused rfl (.sources (.tooFew 2))
  · next several =>
    exact (Checks.map_each checks_entity ids).imp (fun _ found => ⟨by omega, found⟩)

/-- Sources of a nearness search for words alone. -/
theorem checks_nearness (sources : List Entity) :
    Checks before (checkNearness sources) (fun _ =>
      ∀ source ∈ sources, contentKind before.catalogue source = .words) := by
  refine checks_catalogue.bind (fun seen same => ?_)
  subst same
  split
  · exact .refused rfl (.sources .codesInNearness)
  · next fit => exact .given rfl (by simpa using fit)

end Compose

open Action Compose

/-- A composition of stored entities under their ids. -/
inductive Composition where
  | single (id : Text)
  | union (ids : List Text)
  | intersection (ids : List Text)
  | proximity (left right : Text) (mode count : Json)
  | simultaneous (ids : List Text) (count : Json)

namespace Composition

/-- The step that composes. -/
def step : Composition → Action ExpressionEntity
  | single id => Compose.single id
  | union ids => Compose.union ids
  | intersection ids => Compose.intersection ids
  | proximity left right mode count => Compose.proximity left right mode count
  | simultaneous ids count => Compose.simultaneous ids count

/-- Sources with what each of them contributes, found by their ids. -/
inductive Sources (catalogue : Catalogue) : List Text → List Entity → List Expr → Prop where
  | none : Sources catalogue [] [] []
  | next {id : Text} {source : Entity} {operand : Expr} {ids : List Text} {sources : List Entity}
      {operands : List Expr} (found : catalogue.find? id = some source)
      (ofSource : operand? source = some operand) (others : Sources catalogue ids sources operands) :
      Sources catalogue (id :: ids) (source :: sources) (operand :: operands)

/-- Sources that are found and then give their operands. -/
theorem sources_of_each {catalogue : Catalogue} {ids : List Text} {sources : List Entity}
    {operands : List Expr}
    (found : List.Forall₂ (fun id source => catalogue.find? id = some source) ids sources)
    (each : List.Forall₂ (fun source operand => operand? source = some operand) sources operands) :
    Sources catalogue ids sources operands := by
  induction found generalizing operands with
  | nil =>
    cases each with
    | nil => exact .none
  | cons first _ inductionHypothesis =>
    cases each with
    | cons ofFirst ofOthers => exact .next first ofFirst (inductionHypothesis ofOthers)

/-- A composition is possible in a catalogue: its sources are stored and fit it, and it makes a tree
that is stored under a label. -/
inductive Makes (catalogue : Catalogue) : Composition → Text → Expr → Prop where
  | single {id : Text} {source : Entity} {root : Expr}
      (stored : Sources catalogue [id] [source] [root]) :
      Makes catalogue (single id) (label "L1:" [source]) root
  | union {ids : List Text} {sources : List Entity} {first : Expr} {others : List Expr}
      (several : 2 ≤ ids.length) (stored : Sources catalogue ids sources (first :: others))
      (unites : canUnite catalogue sources = true) :
      Makes catalogue (union ids) (label "OR:" sources) (.logical .or first others)
  | intersection {ids : List Text} {sources : List Entity} {first : Expr} {others : List Expr}
      (several : 2 ≤ ids.length) (stored : Sources catalogue ids sources (first :: others)) :
      Makes catalogue (intersection ids) (label "AND:" sources) (.logical .and first others)
  | proximity {left right : Text} {leftSource rightSource : Entity} {leftRoot rightRoot : Expr}
      {mode count : Json} {distance : Distance}
      (stored : Sources catalogue [left, right] [leftSource, rightSource] [leftRoot, rightRoot])
      (fit : ∀ source ∈ [leftSource, rightSource], contentKind catalogue source = .words)
      (within : Distance.ofJson mode count = .ok distance) :
      Makes catalogue (proximity left right mode count) (label "P2:" [leftSource, rightSource])
        (.proximity distance leftRoot rightRoot)
  | simultaneous {ids : List Text} {sources : List Entity} {first second third : Expr} {count : Json}
      {within : Nat} (stored : Sources catalogue ids sources [first, second, third])
      (fit : ∀ source ∈ sources, contentKind catalogue source = .words)
      (counted : distanceCount count = .ok within) :
      Makes catalogue (simultaneous ids count) (label "P3:" sources)
        (.simultaneous within first second third)

/-- The words and the references of a composed tree are those of its operands. -/
theorem Makes.leaves {catalogue : Catalogue} {composition : Composition} {label : Text} {root : Expr}
    (makes : Makes catalogue composition label root) :
    ∃ ids sources operands, Sources catalogue ids sources operands ∧
      root.words = operands.flatMap Expr.words ∧
      root.references = operands.flatMap Expr.references := by
  cases makes with
  | single stored => exact ⟨_, _, _, stored, by simp, by simp⟩
  | union several stored unites => exact ⟨_, _, _, stored, by simp, by simp⟩
  | intersection several stored => exact ⟨_, _, _, stored, by simp, by simp⟩
  | proximity stored fit within => exact ⟨_, _, _, stored, by simp, by simp⟩
  | simultaneous stored fit counted => exact ⟨_, _, _, stored, by simp, by simp⟩

/-- What a composition does. -/
inductive Runs (composition : Composition) (before : Workspace) :
    Except Failure ExpressionEntity × Workspace → Prop where
  | refused {failure : Failure} (refusal : failure.IsRefusal) :
      Runs composition before (.error failure, before)
  | defined {label : Text} {root : Expr} (makes : Makes before.catalogue composition label root)
      {outcome : Except Failure ExpressionEntity} {after : Workspace}
      (run : runOn (defineExpression label root) before = (outcome, after)) :
      Runs composition before (outcome, after)

variable {before : Workspace} {composition : Composition}

/-- A possible composition ends by defining its expression. -/
theorem Makes.runs {label : Text} {root : Expr}
    (makes : Makes before.catalogue composition label root) :
    Runs composition before (runOn (defineExpression label root) before) := .defined makes rfl

/-- There are sources for two ids or more. -/
theorem some_sources {catalogue : Catalogue} {ids : List Text} {sources : List Entity}
    (several : 2 ≤ ids.length)
    (found : List.Forall₂ (fun id source => catalogue.find? id = some source) ids sources) :
    sources ≠ [] := by
  rintro rfl
  rw [found.length_eq] at several
  cases several

/-- An operand that is stored as an expression of its own. -/
theorem single_runs (id : Text) (before : Workspace) :
    Runs (single id) before (runOn (Compose.single id) before) := by
  refine (checks_entity id).behind (fun _ => .refused) (fun source found => ?_)
  refine (checks_operand source).behind (fun _ => .refused) (fun root ofSource => ?_)
  exact (Makes.single (.next found ofSource .none)).runs

/-- Operands under a set operator. -/
theorem combine_runs (connective : Connective) (mark : String) {sources : List Entity}
    (some : sources ≠ [])
    (makes : ∀ first others, List.Forall₂ (fun source operand => operand? source = Option.some operand)
      sources (first :: others) →
      Makes before.catalogue composition (label mark sources) (.logical connective first others)) :
    Runs composition before (runOn (combine connective mark sources) before) := by
  refine (Checks.map_each checks_operand sources).behind (fun _ => .refused) (fun operands each => ?_)
  cases operands with
  | nil => exact absurd (List.forall₂_nil_right_iff.mp each) some
  | cons first others => exact (makes first others each).runs

/-- A union of stored entities. -/
theorem union_runs (ids : List Text) (before : Workspace) :
    Runs (union ids) before (runOn (Compose.union ids) before) := by
  refine (checks_sources ids).behind (fun _ => .refused) (fun sources => ?_)
  rintro ⟨several, found⟩
  refine checks_catalogue.behind (fun _ => .refused) (fun seen same => ?_)
  subst same
  split
  · exact .refused (.sources .mixedUnion)
  · next unites =>
    refine combine_runs .or "OR:" (some_sources several found) (fun first others each => ?_)
    exact .union several (sources_of_each found each) (by simpa using unites)

/-- An intersection of stored entities. -/
theorem intersection_runs (ids : List Text) (before : Workspace) :
    Runs (intersection ids) before (runOn (Compose.intersection ids) before) := by
  refine (checks_sources ids).behind (fun _ => .refused) (fun sources => ?_)
  rintro ⟨several, found⟩
  exact combine_runs .and "AND:" (some_sources several found)
    (fun first others each => .intersection several (sources_of_each found each))

/-- A nearness of stored entities. -/
theorem proximity_runs (left right : Text) (mode count : Json) (before : Workspace) :
    Runs (proximity left right mode count) before
      (runOn (Compose.proximity left right mode count) before) := by
  refine (checks_entity left).behind (fun _ => .refused) (fun leftSource leftFound => ?_)
  refine (checks_entity right).behind (fun _ => .refused) (fun rightSource rightFound => ?_)
  refine (checks_nearness _).behind (fun _ => .refused) (fun _ fit => ?_)
  refine (checks_operand leftSource).behind (fun _ => .refused) (fun leftRoot ofLeft => ?_)
  refine (checks_operand rightSource).behind (fun _ => .refused) (fun rightRoot ofRight => ?_)
  refine (checks_of_except .distance _).behind (fun _ => .refused) (fun distance within => ?_)
  have stored : Sources before.catalogue [left, right] [leftSource, rightSource]
      [leftRoot, rightRoot] :=
    .next leftFound ofLeft (.next rightFound ofRight .none)
  exact (Makes.proximity stored fit within).runs

/-- A nearness of three stored entities. -/
theorem simultaneous_runs (ids : List Text) (count : Json) (before : Workspace) :
    Runs (simultaneous ids count) before (runOn (Compose.simultaneous ids count) before) := by
  unfold Compose.simultaneous
  split
  · next first second third =>
    refine (checks_entity first).behind (fun _ => .refused) (fun firstSource firstFound => ?_)
    refine (checks_entity second).behind (fun _ => .refused) (fun secondSource secondFound => ?_)
    refine (checks_entity third).behind (fun _ => .refused) (fun thirdSource thirdFound => ?_)
    refine (checks_nearness _).behind (fun _ => .refused) (fun _ fit => ?_)
    refine (checks_operand firstSource).behind (fun _ => .refused) (fun firstRoot ofFirst => ?_)
    refine (checks_operand secondSource).behind (fun _ => .refused) (fun secondRoot ofSecond => ?_)
    refine (checks_operand thirdSource).behind (fun _ => .refused) (fun thirdRoot ofThird => ?_)
    refine (checks_of_except .distance _).behind (fun _ => .refused) (fun words counted => ?_)
    have stored : Sources before.catalogue [first, second, third]
        [firstSource, secondSource, thirdSource] [firstRoot, secondRoot, thirdRoot] :=
      .next firstFound ofFirst (.next secondFound ofSecond (.next thirdFound ofThird .none))
    exact (Makes.simultaneous stored fit counted).runs
  · exact .refused (.sources .notThree)

/-- Every composition is refused, or it is possible and ends by defining its expression. -/
theorem composition_run {outcome : Except Failure ExpressionEntity} {after : Workspace}
    (run : runOn composition.step before = (outcome, after)) :
    Runs composition before (outcome, after) := by
  rw [← run]
  cases composition with
  | single id => exact single_runs id before
  | union ids => exact union_runs ids before
  | intersection ids => exact intersection_runs ids before
  | proximity left right mode count => exact proximity_runs left right mode count before
  | simultaneous ids count => exact simultaneous_runs ids count before

end Composition

end PriorArt

/-!
## Compositions that fail

A composition that fails changes nothing that is stored. It is refused before anything changed, or there
is no room for its expression; then the id that was given out for it is not given back, but no entity
and no index has changed.
-/

namespace PriorArt

open Action Composition

/-- A composition that fails keeps the stored entities, in their order, and the indexes, whatever is
stored and whatever is composed. Either it is refused and leaves the workspace as it is; or there is no
room for a further expression, and all that is left of it is the id that was given out. -/
theorem failing_composition_keeps_contents (composition : Composition) {before after : Workspace}
    {failure : Failure} (failed : runOn composition.step before = (.error failure, after)) :
    after.catalogue.contents = before.catalogue.contents ∧
      ((failure.IsRefusal ∧ after = before) ∨
        (failure = .limit .expression before.catalogue.limit ∧
          before.catalogue.isFull .expression = true ∧
          after = { before with catalogue := (before.catalogue.takeId .expression).2 })) := by
  cases composition_run failed with
  | refused refusal => exact ⟨rfl, .inl ⟨refusal, rfl⟩⟩
  | defined makes run =>
    cases expression_run _ before run with
    | full absent full => exact ⟨rfl, .inr ⟨rfl, full, rfl⟩⟩

/-- The word and the expression of the crowded workspace are near each other within a distance that is
negative. -/
def misplaced : Composition :=
  .proximity ['W', 'B', '-', '0', '0', '0', '1'] ['E', 'B', '-', '0', '0', '0', '1']
    (.str "NNc".toList) (.int (-1))

/-- The expression of the crowded workspace is stored as an expression of its own. -/
def surplus : Composition := .single ['E', 'B', '-', '0', '0', '0', '1']

/-- In the crowded workspace the one composition is refused and there is no room for the other. -/
theorem failing_composition_keeps_contents_crowded :
    (∃ after, runOn misplaced.step Workbook.crowded = (.error (.distance .badCount), after) ∧
      after.catalogue.contents = Workbook.crowded.catalogue.contents) ∧
    ∃ after, runOn surplus.step Workbook.crowded = (.error (.limit .expression 1), after) ∧
      after.catalogue.contents = Workbook.crowded.catalogue.contents := by
  have refused : runOn misplaced.step Workbook.crowded =
      (.error (.distance .badCount), Workbook.crowded) := rfl
  have full : runOn surplus.step Workbook.crowded = (.error (.limit .expression 1),
      { Workbook.crowded with
        catalogue := (Workbook.crowded.catalogue.takeId .expression).2 }) := rfl
  exact ⟨⟨_, refused, (failing_composition_keeps_contents misplaced refused).1⟩, _, full,
    (failing_composition_keeps_contents surplus full).1⟩

end PriorArt
