import PriorArt.Proofs.Catalogue.Grounded
import PriorArt.Proofs.Import.Failures
import PriorArt.Proofs.Workspace.Requests

/-!
# Grounded workspaces

Lines of workbooks, imports, compositions and removals keep a catalogue grounded: each of them stores
entities under ids that it was given, and lets expressions refer to words and groups alone. A
composition uses the trees of other expressions, never references to them. The only request that may
break this is to store an entity of one's own making.
-/

namespace PriorArt

namespace Action

variable {α β : Type} {before middle after : Workspace}

/-- A step that is run on a grounded catalogue keeps it grounded, and brings no id back into use. -/
def AdvancesOn (before : Workspace) (step : Action α) : Prop :=
  before.catalogue.IsGrounded → before.catalogue.Advances (runOn step before).2.catalogue

/-- A step that only looks. -/
def Reads (step : Action α) : Prop := ∀ before, (runOn step before).2 = before

/-- Two steps lead on from a catalogue if the first one does so, and the second one keeps what the
first one made of it grounded. -/
theorem advances_bind {start : Catalogue} {step : Action α} {next : α → Action β}
    (first : start.Advances (runOn step before).2.catalogue)
    (second : ∀ value middle, runOn step before = (.ok value, middle) →
      AdvancesOn middle (next value)) :
    start.Advances (runOn (step >>= next) before).2.catalogue := by
  rw [run_on_bind]
  rcases run : runOn step before with ⟨outcome, middle⟩
  rw [run] at first
  cases outcome with
  | error failure => exact first
  | ok value => exact first.trans (second value middle run first.grounded)

/-- Two steps keep a catalogue grounded if the second one does so where the first one ended. -/
theorem AdvancesOn.bind {step : Action α} {next : α → Action β} (first : AdvancesOn before step)
    (second : ∀ value middle, runOn step before = (.ok value, middle) →
      AdvancesOn middle (next value)) : AdvancesOn before (step >>= next) :=
  fun grounded => advances_bind (first grounded) second

/-- A step that only looks keeps a catalogue grounded. -/
theorem Reads.advances {step : Action α} (reads : Reads step) (before : Workspace) :
    AdvancesOn before step := by
  intro grounded
  rw [reads before]
  exact .refl grounded

/-- A step without its value keeps a catalogue grounded if the step does. -/
theorem AdvancesOn.discard {step : Action α} (advances : AdvancesOn before step) :
    AdvancesOn before step.discard :=
  advances.bind (fun _ middle _ => Reads.advances (fun _ => rfl) middle)

/-- A step that only looks ends where it began. -/
theorem Reads.run {step : Action α} (reads : Reads step) {outcome : Except Failure α}
    (run : runOn step before = (outcome, after)) : after = before := by
  rw [← reads before, run]

/-- Two steps that only look. -/
theorem Reads.bind {step : Action α} {next : α → Action β} (first : Reads step)
    (second : ∀ value, Reads (next value)) : Reads (step >>= next) := by
  intro before
  have same := first before
  rw [run_on_bind]
  rcases run : runOn step before with ⟨outcome, middle⟩
  rw [run] at same
  obtain rfl : middle = before := same
  cases outcome with
  | ok value => exact second value middle
  | error failure => rfl

/-- Behind a step that only looks, a catalogue is grounded if the next step keeps it so. -/
theorem Reads.behind {step : Action α} {next : α → Action β} (reads : Reads step)
    (second : ∀ value, runOn step before = (.ok value, before) → AdvancesOn before (next value)) :
    AdvancesOn before (step >>= next) := by
  refine (reads.advances before).bind (fun value middle run => ?_)
  obtain rfl := reads.run run
  exact second value run

/-- Finding an entity only looks. -/
theorem reads_entity (id : Text) : Reads (entity id) := by
  refine Reads.bind (fun _ => rfl) (fun catalogue => ?_)
  split
  · exact fun _ => rfl
  · exact fun _ => rfl

/-- What a reader gives, if anything, changes nothing. -/
theorem reads_of_except {ε : Type} (failure : ε → Failure) (read : Except ε α) :
    Reads (ofExcept failure read) := by
  cases read with
  | ok value => exact fun _ => rfl
  | error error => exact fun _ => rfl

/-- Giving out an id keeps a catalogue grounded. -/
theorem advances_take_id (kind : EntityKind) : AdvancesOn before (takeId kind) :=
  fun grounded => .taken grounded kind

/-- Giving out the id for a label keeps a catalogue grounded. -/
theorem advances_take_id_for_label (label : Text) (kind : EntityKind) :
    AdvancesOn before (takeIdForLabel label kind) := by
  intro grounded
  rw [run_on_take_id_for_label, Catalogue.takeIdForLabel]
  split
  · exact .refl grounded
  · exact .taken grounded kind

/-- Drawing a token keeps a catalogue grounded. -/
theorem advances_draw_token (taken : Catalogue → Text → Bool) :
    AdvancesOn before (drawToken taken) := by
  intro grounded
  rw [(run_on_draw_token taken before).1]
  exact .refl grounded

/-- Erasing keeps a catalogue grounded. -/
theorem advances_erase (id : Text) : AdvancesOn before (erase id) :=
  fun grounded => .erase grounded id

/-- Storing an entity is an advance if the catalogue in which it is stored is one either way. -/
theorem advances_put {start : Catalogue} {entity : Entity}
    (refused : start.Advances before.catalogue)
    (stored : start.Advances (before.catalogue.store entity)) :
    start.Advances (runOn (put entity) before).2.catalogue := by
  rw [run_on_put, Catalogue.put?]
  split
  · next changed put =>
    split at put
    · cases put
    · rw [← Option.some.inj put]
      exact stored
  · exact refused

/-- Defining a word keeps a catalogue grounded. -/
theorem advances_define_word (token definition : Text) :
    AdvancesOn before (defineWord token definition) := by
  intro grounded
  unfold defineWord
  rw [run_on_bind_ok (run_on_take_id_for_label ..), run_on_bind_ok (run_on_catalogue _)]
  refine advances_bind (advances_put ?_ ?_) (fun _ middle _ => Reads.advances (fun _ => rfl) middle)
  · exact advances_take_id_for_label token .word grounded
  · refine Catalogue.Advances.at_label grounded token (.word _) ?_ nofun
    rfl

/-- Finding or storing the word under a key keeps a catalogue grounded. -/
theorem advances_word_for_key (key : Text) (variants : List Text) (label : Text) :
    AdvancesOn before (wordForKey key variants label) := by
  intro grounded
  rcases run : runOn (wordForKey key variants label) before with ⟨outcome, after⟩
  cases word_run variants label before key run with
  | noKey empty => exact .refl grounded
  | found filled stored => exact .refl grounded
  | full filled absent full => exact .refl grounded
  | noToken tokens => exact .taken grounded .word
  | @new filled absent room tokens token free tokenFilled word same =>
    exact .new grounded (.word word) (congrArg WordEntity.id same) nofun

/-- Storing an expression under a label keeps a catalogue grounded, if it refers to words and groups
alone. -/
theorem advances_define_expression (label : Text) {root : Expr}
    (refers : before.catalogue.IsGrounded →
      ∀ id ∈ root.references, before.catalogue.HasIssuedLeaf id) :
    AdvancesOn before (defineExpression label root) := by
  intro grounded
  have ofRoot : ∀ id, ∀ expression other,
      Entity.expression (expressionAt root before id label) = .expression expression →
      expression.root = some other →
      ∀ referred ∈ other.references, before.catalogue.HasIssuedLeaf referred := by
    rintro id expression other same rooted
    rw [← Entity.expression.inj same] at rooted
    obtain rfl := Option.some.inj rooted
    exact refers grounded
  rcases run : runOn (defineExpression label root) before with ⟨outcome, after⟩
  cases expression_run root before run with
  | redefined labelled =>
    obtain ⟨stored, sameKind, _⟩ := Catalogue.of_label_some labelled
    exact .redefined grounded (.expression _) stored sameKind rfl (ofRoot _)
  | full absent full => exact .taken grounded .expression
  | new absent room => exact .new grounded (.expression _) rfl (ofRoot _)

/-- A line of a workbook keeps a catalogue grounded. -/
theorem advances_line (line : Text) : AdvancesOn before (Workbook.processLine line) := by
  intro grounded
  have effect := Workbook.line_effect line before
  have counters := effect.counters_le grounded.numbered
  refine ⟨⟨?_, ?_, ?_⟩, counters, ?_⟩
  · exact effect.stable Catalogue.indexed_stable grounded.indexed
  · exact effect.numbered grounded.numbered
  · refine effect.refers_only_to ?_ ?_
    · intro group stored
      exact Catalogue.HasIssuedLeaf.mono (.inr (grounded.numbered _ stored)) counters
    · intro expression root stored rooted id inside
      exact (grounded.refers expression root stored rooted id inside).mono counters
  · intro kind id issued absent
    exact (effect.find_none_iff grounded.numbered issued).mpr (.inl absent)

end Action

open Action

namespace Import

variable {before : Workspace}

/-- The import of an operand keeps a catalogue grounded. -/
theorem advances_operand (expand : Bool) (expr : Expr) :
    AdvancesOn before (importOperand expand expr) := by
  unfold importOperand
  split
  · refine (advances_word_for_key _ _ _).bind (fun word middle _ => ?_)
    exact Reads.advances (fun _ => rfl) middle
  · exact Reads.advances (fun _ => rfl) before

/-- The import of the expression for a factor keeps a catalogue grounded. -/
theorem advances_root (expand : Bool) (expr : Expr) :
    AdvancesOn before (importRoot expand expr) := by
  have done : ∀ {α : Type} (value : α) (middle : Workspace), AdvancesOn middle (pure value) :=
    fun _ middle => Reads.advances (fun _ => rfl) middle
  unfold importRoot
  split
  · refine (advances_operand expand _).bind (fun left middle _ => ?_)
    exact (advances_operand expand _).bind (fun right last _ => done _ last)
  · refine (advances_operand expand _).bind (fun first middle _ => ?_)
    refine (advances_operand expand _).bind (fun second next _ => ?_)
    exact (advances_operand expand _).bind (fun third last _ => done _ last)
  · exact advances_operand expand _

/-- The import of a span keeps a catalogue grounded. -/
theorem advances_span (span : CodeSpan) : AdvancesOn before (importSpan span) := by
  intro grounded
  rcases run : runOn (importSpan span) before with ⟨outcome, after⟩
  cases span_run span before run with
  | found stored => exact .refl grounded
  | full absent full => exact .refl grounded
  | noToken tokens => exact .taken grounded .classification
  | @new absent room tokens token free tokenFilled group same =>
    exact .new grounded (.classification group) (congrArg ClassEntity.id same) nofun

/-- The import of a plain factor keeps a catalogue grounded. -/
theorem advances_factor (expand : Bool) {factor : Factor} (plain : factor.IsPlain) :
    AdvancesOn before (importFactor expand factor) := by
  cases plain with
  | codes =>
    exact (advances_span _).bind (fun group middle _ => Reads.advances (fun _ => rfl) middle)
  | @words expr plainTree =>
    intro grounded
    refine (advances_root expand expr).bind (fun rootAndWords middle ofRoot => ?_) grounded
    obtain ⟨root, words⟩ := rootAndWords
    obtain ⟨isRoot, _⟩ := import_root_ok grounded.indexed ofRoot
    refine (advances_define_expression _ (fun groundedMiddle id inside => ?_)).bind
      (fun expression last _ => Reads.advances (fun _ => rfl) last)
    have built := Catalogue.imported_root_built groundedMiddle.indexed plainTree
    rw [isRoot] at inside
    obtain ⟨word, found⟩ := built.references id inside
    have issued := groundedMiddle.numbered _ (List.mem_of_find?_eq_some found)
    rw [Catalogue.id_of_find found] at issued
    exact .inl issued

/-- The import of plain factors keeps a catalogue grounded. -/
theorem advances_factors (expand : Bool) {factors : List Factor}
    (plain : ∀ factor ∈ factors, factor.IsPlain) (report : ImportReport) (number : Nat) :
    AdvancesOn before (importFactors expand report (factors.zipIdx number)) := by
  induction factors generalizing before report number with
  | nil => exact Reads.advances (fun _ => rfl) before
  | cons factor rest inductionHypothesis =>
    obtain ⟨plainFirst, plainOthers⟩ := List.forall_mem_cons.mp plain
    intro grounded
    have advances := advances_factor expand plainFirst grounded
    rw [List.zipIdx_cons, run_on_factors_cons]
    rcases run : runOn (importFactor expand factor) before with ⟨outcome, middle⟩
    rw [run] at advances
    cases outcome with
    | ok entities =>
      exact advances.trans (inductionHypothesis plainOthers _ _ advances.grounded)
    | error failure =>
      dsimp only
      split
      · exact advances
      · exact advances.trans (inductionHypothesis plainOthers _ _ advances.grounded)

/-- An import keeps a catalogue grounded. -/
theorem advances_query (expand : Bool) (query : Text) :
    AdvancesOn before (importQuery expand query) := by
  unfold importQuery
  cases accepted : Query.parse query with
  | error error => exact Reads.advances (fun _ => rfl) before
  | ok factors =>
    refine (Reads.advances (reads_of_except _ _) before).bind (fun value middle given => ?_)
    obtain rfl : factors = value := Except.ok.inj (Prod.mk.inj given).1
    exact advances_factors expand (Query.plain_factors accepted) _ _

end Import

namespace Composition

variable {before : Workspace} {catalogue : Catalogue}

/-- The operand for a stored entity refers to words and groups alone. -/
theorem operand_refers (grounded : catalogue.IsGrounded) {source : Entity}
    (stored : source ∈ catalogue.entities) {root : Expr}
    (ofSource : Compose.operand? source = some root) :
    ∀ id ∈ root.references, catalogue.HasIssuedLeaf id := by
  have issued := grounded.numbered source stored
  cases source with
  | word word =>
    obtain rfl := Option.some.inj ofSource
    exact List.forall_mem_singleton.mpr (.inl issued)
  | classification group =>
    obtain rfl := Option.some.inj ofSource
    exact List.forall_mem_singleton.mpr (.inr issued)
  | expression expression => exact grounded.refers expression root stored ofSource

/-- The operands of a composition refer to words and groups alone. -/
theorem Sources.refer (grounded : catalogue.IsGrounded) {ids : List Text} {sources : List Entity}
    {operands : List Expr} (stored : Sources catalogue ids sources operands) :
    ∀ operand ∈ operands, ∀ id ∈ operand.references, catalogue.HasIssuedLeaf id := by
  induction stored with
  | none => simp
  | next found ofSource others inductionHypothesis =>
    have ofFirst := operand_refers grounded (List.mem_of_find?_eq_some found) ofSource
    exact List.forall_mem_cons.mpr ⟨ofFirst, inductionHypothesis⟩

/-- A composed tree refers to words and groups alone. -/
theorem Makes.refer (grounded : catalogue.IsGrounded) {composition : Composition} {label : Text}
    {root : Expr} (makes : Makes catalogue composition label root) :
    ∀ id ∈ root.references, catalogue.HasIssuedLeaf id := by
  obtain ⟨ids, sources, operands, stored, _, references⟩ := makes.leaves
  intro id inside
  rw [references] at inside
  obtain ⟨operand, listed, ofOperand⟩ := List.mem_flatMap.mp inside
  exact stored.refer grounded operand listed id ofOperand

/-- A composition keeps a catalogue grounded. -/
theorem advances (composition : Composition) : AdvancesOn before composition.step := by
  intro grounded
  rcases run : runOn composition.step before with ⟨outcome, after⟩
  cases composition_run run with
  | refused refusal => exact .refl grounded
  | @defined label root makes _ _ defined =>
    have advances := advances_define_expression label (fun grounded => makes.refer grounded) grounded
    rw [defined] at advances
    exact advances

end Composition

namespace Compose

variable {before : Workspace}

/-- Defining tokens keeps a catalogue grounded. -/
theorem advances_define_tokens (tokens : List Text) : AdvancesOn before (defineTokens tokens) := by
  induction tokens generalizing before with
  | nil => exact Reads.advances (fun _ => rfl) before
  | cons token rest inductionHypothesis =>
    refine Reads.behind (fun _ => rfl) (fun catalogue _ => ?_)
    split
    · exact inductionHypothesis
    · refine (advances_define_word _ _).bind (fun word middle _ => ?_)
      exact inductionHypothesis.bind (fun words last _ => Reads.advances (fun _ => rfl) last)

/-- Defining the words of an expression keeps a catalogue grounded. -/
theorem advances_regenerate (id : Text) : AdvancesOn before (regenerateWords id) := by
  refine (reads_entity id).behind (fun source _ => ?_)
  cases source with
  | word word => exact Reads.advances (fun _ => rfl) before
  | classification group => exact Reads.advances (fun _ => rfl) before
  | expression expression =>
    dsimp only
    split
    · exact advances_define_tokens _
    · exact Reads.advances (fun _ => rfl) before

end Compose

/-- A request that does not store an entity of one's own making. -/
def Request.IsManaged : Request → Prop
  | operate (.put _) => False
  | _ => True

/-- Every managed request keeps a catalogue grounded. -/
theorem Request.advances {request : Request} (managed : request.IsManaged) (before : Workspace) :
    AdvancesOn before request.step := by
  cases request with
  | line text => exact (advances_line text).discard
  | importQuery expand query => exact (Import.advances_query expand query).discard
  | single id => exact (Composition.advances (.single id)).discard
  | union ids => exact (Composition.advances (.union ids)).discard
  | intersection ids => exact (Composition.advances (.intersection ids)).discard
  | proximity left right mode count =>
    exact (Composition.advances (.proximity left right mode count)).discard
  | simultaneous ids count => exact (Composition.advances (.simultaneous ids count)).discard
  | regenerateWords id => exact (Compose.advances_regenerate id).discard
  | operate operation =>
    cases operation with
    | put entity => exact managed.elim
    | erase id => exact advances_erase id
    | defineWord token definition => exact (advances_define_word token definition).discard
    | wordForKey key variants label => exact (advances_word_for_key key variants label).discard
  | takeId kind => exact (advances_take_id kind).discard
  | takeIdForLabel label kind => exact (advances_take_id_for_label label kind).discard
  | drawWordToken => exact (advances_draw_token _).discard
  | drawClassToken => exact (advances_draw_token _).discard

/-- Managed requests keep a catalogue grounded, and bring no id back into use. -/
theorem advances_after_requests {requests : List Request}
    (managed : ∀ request ∈ requests, request.IsManaged) {start : Workspace}
    (grounded : start.catalogue.IsGrounded) :
    start.catalogue.Advances (afterRequests requests start).catalogue := by
  induction requests generalizing start with
  | nil => exact .refl grounded
  | cons request rest inductionHypothesis =>
    obtain ⟨managedFirst, managedOthers⟩ := List.forall_mem_cons.mp managed
    have advances := request.advances managedFirst start grounded
    exact advances.trans (inductionHypothesis managedOthers advances.grounded)

/-- The catalogue is grounded after any managed requests. -/
theorem grounded_after_requests {requests : List Request}
    (managed : ∀ request ∈ requests, request.IsManaged) (limit : Int) (tokens : TokenSource) :
    (afterRequests requests ⟨Catalogue.empty limit, tokens⟩).catalogue.IsGrounded :=
  (advances_after_requests managed (Catalogue.grounded_empty limit)).grounded

end PriorArt
