import PriorArt.Import
import PriorArt.Proofs.Compose.Runs
import PriorArt.Proofs.Workbook.Numbering
import PriorArt.Proofs.Workspace.Operations

/-!
# Workspaces that can be reached

A workspace takes requests of every kind, in any order: lines of workbooks, imports, compositions,
operations on the catalogue, and the mere giving out of ids and tokens. A request may fail, and the
work goes on from where it failed. Whatever storing and erasing preserve holds after any requests.
-/

namespace PriorArt

/-- A request to a workspace. -/
inductive Request where
  | line (text : Text)
  | importQuery (expand : Bool) (query : Text)
  | single (id : Text)
  | union (ids : List Text)
  | intersection (ids : List Text)
  | proximity (left right : Text) (mode count : Json)
  | simultaneous (ids : List Text) (count : Json)
  | regenerateWords (id : Text)
  | operate (operation : Operation)
  | takeId (kind : EntityKind)
  | takeIdForLabel (label : Text) (kind : EntityKind)
  | drawWordToken
  | drawClassToken

/-- A step without its value. -/
def Action.discard {α : Type} (step : Action α) : Action Unit := do
  let _ ← step

/-- The step that a request takes. -/
def Request.step : Request → Action Unit
  | line text => (Workbook.processLine text).discard
  | importQuery expand query => (Import.importQuery expand query).discard
  | single id => (Compose.single id).discard
  | union ids => (Compose.union ids).discard
  | intersection ids => (Compose.intersection ids).discard
  | proximity left right mode count => (Compose.proximity left right mode count).discard
  | simultaneous ids count => (Compose.simultaneous ids count).discard
  | regenerateWords id => (Compose.regenerateWords id).discard
  | operate operation => operation.step
  | takeId kind => (Action.takeId kind).discard
  | takeIdForLabel label kind => (Action.takeIdForLabel label kind).discard
  | drawWordToken => Action.drawWordToken.discard
  | drawClassToken => Action.drawClassToken.discard

/-- The workspace after requests in order, of which some may have failed. -/
def afterRequests (requests : List Request) (start : Workspace) : Workspace :=
  requests.foldl (fun before request => (Action.runOn request.step before).2) start

/-- Requests after others start where those ended. -/
theorem after_requests_append (earlier later : List Request) (start : Workspace) :
    afterRequests (earlier ++ later) start = afterRequests later (afterRequests earlier start) :=
  List.foldl_append

namespace Action

variable {α β : Type} {property : Catalogue → Prop}

/-- A step without its value leaves the workspace as the step does. -/
theorem run_on_discard (step : Action α) (before : Workspace) :
    (runOn step.discard before).2 = (runOn step before).2 := by
  unfold discard
  rw [run_on_bind]
  rcases runOn step before with ⟨outcome, after⟩
  cases outcome with
  | ok value => rfl
  | error failure => rfl

/-- A step without its value preserves what it preserves. -/
theorem Preserves.discard {step : Action α} (preserved : Preserves property step) :
    Preserves property step.discard := preserved.bind (fun _ => preserves_pure _)

/-- An attempt preserves what the step preserves. -/
theorem Preserves.attempt {step : Action α} (preserved : Preserves property step) :
    Preserves property (attempt step) := preserved

/-- Reading preserves everything. -/
theorem preserves_of_except {ε : Type} (failure : ε → Failure) (read : Except ε α) :
    Preserves property (ofExcept failure read) := by
  cases read with
  | ok value => exact preserves_pure value
  | error error => exact preserves_throw _

/-- Finding an entity preserves everything. -/
theorem preserves_entity (id : Text) : Preserves property (entity id) := by
  refine preserves_catalogue.bind (fun catalogue => ?_)
  split
  · exact preserves_pure _
  · exact preserves_throw _

end Action

open Action

namespace Workbook

variable {property : Catalogue → Prop} (kept : Catalogue.IsKeptByWrites property)
include kept

/-- Releasing a name preserves what writes keep. -/
theorem preserves_release_name (name : Text) (keep : EntityKind) :
    Preserves property (releaseName name keep) := by
  intro before holds
  rw [run_on_release_name]
  exact kept.released holds name keep

/-- Storing a group of codes preserves what writes keep. -/
theorem preserves_store_class (name : Option Text) (codes : List Text) :
    Preserves property (storeClass name codes) := by
  intro before holds
  unfold storeClass
  rw [run_on_bind_ok (run_on_take_id_for_label ..), run_on_bind]
  obtain ⟨sameCatalogue, _⟩ := run_on_class_token name
    (before.catalogue.takeIdForLabel (name.getD (codes.headD [])) .classification).1
    { before with catalogue :=
        (before.catalogue.takeIdForLabel (name.getD (codes.headD [])) .classification).2 }
  split
  · next token middle run =>
    rw [run] at sameCatalogue
    refine holds_behind ?_ (fun _ => preserves_pure _)
    exact put_at_label_preserves kept _ (.classification _) rfl sameCatalogue holds
  · next failure middle run =>
    rw [run] at sameCatalogue
    rw [sameCatalogue]
    exact kept_at_label kept _ _ holds

/-- The definition of a group of codes preserves what writes keep. -/
theorem preserves_define_class (name : Option Text) (expr : Expr) :
    Preserves property (defineClass name expr) := by
  intro before holds
  cases read : expr.codes with
  | error error =>
    unfold defineClass
    rw [read]
    exact holds
  | ok codes =>
    rw [run_on_define_class name read]
    apply preserves_store_class kept
    exact (Definition.group name codes).cleared_induction holds (kept.released holds)

/-- The definition of a name preserves what writes keep. -/
theorem preserves_define_name (name : Text) (linked : Expr) :
    Preserves property (defineName name linked) := by
  refine preserves_catalogue.bind (fun catalogue => ?_)
  split
  · refine (preserves_release_name kept name .word).bind (fun _ => ?_)
    exact (preserves_define_word kept _ _).bind (fun _ => preserves_pure _)
  · refine (preserves_release_name kept name .expression).bind (fun _ => ?_)
    exact (preserves_define_expression kept _ _).bind (fun _ => preserves_pure _)

/-- A line of a workbook preserves what writes keep. -/
theorem preserves_line (text : Text) : Preserves property (processLine text) := by
  refine (preserves_of_except _ _).bind (fun statement => ?_)
  have group : Preserves property (do
      let group ← defineClass statement.name statement.expr
      return Achievement.classification group.id group.search) :=
    (preserves_define_class kept _ _).bind (fun _ => preserves_pure _)
  unfold perform
  split
  · exact group
  · exact group
  · refine preserves_catalogue.bind (fun catalogue => ?_)
    split
    · exact preserves_catalogue.bind (fun _ => preserves_pure _)
    · refine (preserves_define_name kept _ _).bind (fun entity => ?_)
      refine preserves_catalogue.bind (fun _ => ?_)
      split
      · exact preserves_pure _
      · exact preserves_pure _

end Workbook

namespace Import

variable {property : Catalogue → Prop}

/-- The import of a span preserves what writes keep. -/
theorem preserves_span (kept : Catalogue.IsKeptByWrites property) (span : CodeSpan) :
    Preserves property (importSpan span) := by
  intro before holds
  rcases run : runOn (importSpan span) before with ⟨outcome, after⟩
  cases span_run span before run with
  | found stored => exact holds
  | full absent full => exact holds
  | noToken tokens => exact kept (.taken .classification) holds
  | @new absent room tokens token free tokenFilled group same =>
    exact kept (.new (.classification group) room (congrArg ClassEntity.id same)) holds

section Steps

variable (words : ∀ key variants label, Preserves property (wordForKey key variants label))
include words

/-- The import of an operand preserves what storing words under keys preserves. -/
theorem preserves_operand (expand : Bool) (expr : Expr) :
    Preserves property (importOperand expand expr) := by
  unfold importOperand
  split
  · exact (words _ _ _).bind (fun _ => preserves_pure _)
  · exact preserves_pure _

/-- The import of the expression for a factor preserves what storing words under keys preserves. -/
theorem preserves_root (expand : Bool) (expr : Expr) :
    Preserves property (importRoot expand expr) := by
  unfold importRoot
  split
  · refine (preserves_operand words expand _).bind (fun left => ?_)
    exact (preserves_operand words expand _).bind (fun right => preserves_pure _)
  · refine (preserves_operand words expand _).bind (fun first => ?_)
    refine (preserves_operand words expand _).bind (fun second => ?_)
    exact (preserves_operand words expand _).bind (fun third => preserves_pure _)
  · exact preserves_operand words expand _

/-- The import of a factor preserves what the steps preserve by which it stores entities. -/
theorem preserves_factor {expand : Bool} {factor : Factor}
    (spans : ∀ span, factor = .codes span → Preserves property (importSpan span))
    (expressions : ∀ expr, factor = .words expr → ∀ before imported after,
      runOn (importRoot expand expr) before = (.ok imported, after) →
        Preserves property (defineExpression expr.text imported.1)) :
    Preserves property (importFactor expand factor) := by
  cases factor with
  | codes span => exact (spans span rfl).bind (fun _ => preserves_pure _)
  | words expr =>
    intro before holds
    have kept := preserves_root words expand expr before holds
    rw [importFactor, run_on_bind]
    rcases run : runOn (importRoot expand expr) before with ⟨outcome, middle⟩
    rw [run] at kept
    cases outcome with
    | error failure => exact kept
    | ok imported =>
      exact (expressions expr rfl before imported middle run).bind (fun _ => preserves_pure _)
        middle kept

end Steps

/-- The import of several factors preserves what the import of each of them preserves. -/
theorem preserves_factors (expand : Bool) (factors : List (Factor × Nat)) (report : ImportReport)
    (each : ∀ numbered ∈ factors, Preserves property (importFactor expand numbered.1)) :
    Preserves property (importFactors expand report factors) := by
  induction factors generalizing report with
  | nil => exact preserves_pure _
  | cons numbered rest inductionHypothesis =>
    obtain ⟨ofFirst, ofRest⟩ := List.forall_mem_cons.mp each
    obtain ⟨factor, number⟩ := numbered
    refine Preserves.bind ofFirst.attempt (fun outcome => ?_)
    cases outcome with
    | ok entities => exact inductionHypothesis _ ofRest
    | error failure =>
      dsimp only
      split
      · exact preserves_throw _
      · exact inductionHypothesis _ ofRest

/-- An import preserves what the import of each factor of its query preserves. -/
theorem preserves_query {expand : Bool} {query : Text}
    (each : ∀ factors, Query.parse query = .ok factors → ∀ factor ∈ factors,
      Preserves property (importFactor expand factor)) :
    Preserves property (importQuery expand query) := by
  unfold importQuery
  cases accepted : Query.parse query with
  | error error => exact preserves_throw _
  | ok factors =>
    intro before holds
    rw [run_on_bind_ok (run_on_of_except_ok ..)]
    exact preserves_factors expand _ _
      (fun numbered inside => each factors accepted numbered.1 (List.fst_mem_of_mem_zipIdx inside))
      before holds

end Import

/-- A composition preserves what defining the expressions preserves that it makes. -/
theorem Composition.preserves {property : Catalogue → Prop} {composition : Composition}
    (expressions : ∀ catalogue, property catalogue → ∀ label root,
      Makes catalogue composition label root → Preserves property (defineExpression label root)) :
    Preserves property composition.step := by
  intro before holds
  rcases run : runOn composition.step before with ⟨outcome, after⟩
  cases composition_run run with
  | refused refusal => exact holds
  | @defined label root makes _ _ defined =>
    have kept := expressions before.catalogue holds label root makes before holds
    rw [defined] at kept
    exact kept

namespace Compose

variable {property : Catalogue → Prop}
  (words : ∀ token, Preserves property (defineWord token (Brackets.parenthesized token)))
include words

/-- Defining tokens preserves what defining a word for itself preserves. -/
theorem preserves_define_tokens (tokens : List Text) : Preserves property (defineTokens tokens) := by
  induction tokens with
  | nil => exact preserves_pure _
  | cons token rest inductionHypothesis =>
    refine preserves_catalogue.bind (fun catalogue => ?_)
    split
    · exact inductionHypothesis
    · refine (words token).bind (fun word => ?_)
      exact inductionHypothesis.bind (fun words => preserves_pure _)

/-- Defining the words of an expression preserves what defining a word for itself preserves. -/
theorem preserves_regenerate (id : Text) : Preserves property (regenerateWords id) := by
  refine (preserves_entity id).bind (fun source => ?_)
  cases source with
  | word word => exact preserves_throw _
  | classification group => exact preserves_throw _
  | expression expression =>
    dsimp only
    split
    · exact preserves_define_tokens words _
    · exact preserves_pure _

end Compose

/-- Every request preserves what the steps preserve by which it can be met. -/
theorem Request.preserves_by {property : Catalogue → Prop}
    (lines : ∀ line, Preserves property (Workbook.processLine line))
    (imports : ∀ expand query, Preserves property (Import.importQuery expand query))
    (compositions : ∀ composition : Composition, Preserves property composition.step)
    (words : ∀ token, Preserves property (defineWord token (Brackets.parenthesized token)))
    (ids : ∀ kind, Preserves property (Action.takeId kind))
    (labels : ∀ label kind, Preserves property (Action.takeIdForLabel label kind)) (request : Request)
    (operations : ∀ operation, request = .operate operation → Preserves property operation.step) :
    Preserves property request.step := by
  cases request with
  | line text => exact (lines text).discard
  | importQuery expand query => exact (imports expand query).discard
  | single id => exact (compositions (.single id)).discard
  | union ids => exact (compositions (.union ids)).discard
  | intersection ids => exact (compositions (.intersection ids)).discard
  | proximity left right mode count => exact (compositions (.proximity left right mode count)).discard
  | simultaneous ids count => exact (compositions (.simultaneous ids count)).discard
  | regenerateWords id => exact (Compose.preserves_regenerate words id).discard
  | operate operation => exact operations operation rfl
  | takeId kind => exact (ids kind).discard
  | takeIdForLabel label kind => exact (labels label kind).discard
  | drawWordToken => exact (preserves_draw_token _).discard
  | drawClassToken => exact (preserves_draw_token _).discard

/-- Every request preserves what writes keep, if those do that store entities of one's own making. -/
theorem Request.keeps {property : Catalogue → Prop} (kept : Catalogue.IsKeptByWrites property)
    (request : Request)
    (puts : ∀ entity, request = .operate (.put entity) → Preserves property (put entity)) :
    Preserves property request.step := by
  have words := fun key variants label => preserves_word_for_key kept key variants label
  refine request.preserves_by (Workbook.preserves_line kept) (fun expand query => ?_)
    (fun _ => Composition.preserves (fun _ _ _ _ _ => preserves_define_expression kept _ _))
    (fun _ => preserves_define_word kept _ _)
    (preserves_take_id kept) (preserves_take_id_for_label kept) (fun operation same => ?_)
  · refine Import.preserves_query (fun _ _ factor _ => ?_)
    exact Import.preserves_factor words (fun span _ => Import.preserves_span kept span)
      (fun expr _ _ _ _ _ => preserves_define_expression kept _ _)
  · exact operation.keeps kept (fun entity isPut => puts entity (isPut ▸ same))

/-- Every request preserves what storing and erasing preserve. -/
theorem Request.preserves {property : Catalogue → Prop} (stable : Catalogue.IsStable property)
    (request : Request) : Preserves property request.step :=
  request.keeps stable.kept (fun entity _ => preserves_put stable entity)

/-- What each of several requests preserves holds after all of them. -/
theorem preserved_after_requests {property : Catalogue → Prop} {requests : List Request}
    (each : ∀ request ∈ requests, Preserves property request.step) {start : Workspace}
    (initial : property start.catalogue) : property (afterRequests requests start).catalogue := by
  induction requests generalizing start with
  | nil => exact initial
  | cons request rest inductionHypothesis =>
    obtain ⟨ofFirst, ofOthers⟩ := List.forall_mem_cons.mp each
    exact inductionHypothesis ofOthers (ofFirst start initial)

/-- What storing and erasing preserve holds after any requests. -/
theorem stable_after_requests {property : Catalogue → Prop}
    (stable : Catalogue.IsStable property) (requests : List Request) {start : Workspace}
    (initial : property start.catalogue) :
    property (afterRequests requests start).catalogue :=
  preserved_after_requests (fun request _ => request.preserves stable) initial

end PriorArt
