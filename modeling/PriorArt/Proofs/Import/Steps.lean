import PriorArt.Import
import PriorArt.Proofs.Catalogue.Growth
import PriorArt.Proofs.Workspace.Steps

/-!
# The steps of an import

An import finds or stores words by key, groups by their codes and expressions by label. Each of these
steps finds what it wants, or is refused for want of room, or fails for want of a token, or stores
one entity under a new id; an expression with the label is redefined instead. This module lists what
the steps do, and that the catalogue only grows.
-/

namespace PriorArt

/-- The word that is stored under a key. -/
def WordEntity.ofKey (id token key : Text) (variants : List Text) (label : Text) : WordEntity :=
  let definition := if variants.isEmpty then key else Text.join '+' variants
  let fallback := if label.isEmpty then key else label
  ⟨id, variants.headD fallback, token, Brackets.parenthesized definition, key, variants⟩

namespace Catalogue

variable {catalogue : Catalogue} {entity : Entity}

/-- An entity is stored if there is room for it. -/
theorem put_room (room : catalogue.isFull entity.kind = false) :
    catalogue.put? entity = some (catalogue.store entity) := by
  simp [put?, room]

/-- An entity under a new id is refused if there is no room for it. -/
theorem put_full (fresh : catalogue.find? entity.id = none)
    (full : catalogue.isFull entity.kind = true) : catalogue.put? entity = none := by
  simp [put?, full, contains, fresh]

/-- An entity under an id in use is stored. -/
theorem put_found (found : catalogue.find? entity.id ≠ none) :
    catalogue.put? entity = some (catalogue.store entity) := by
  have inUse : catalogue.contains entity.id = true := by
    rw [contains, Option.isSome_iff_ne_none]
    exact found
  simp [put?, inUse]

end Catalogue

namespace Action

/-- Giving out an id never fails. -/
@[simp] theorem run_on_take_id (kind : EntityKind) (before : Workspace) :
    runOn (takeId kind) before =
      (.ok (before.catalogue.takeId kind).1,
        { before with catalogue := (before.catalogue.takeId kind).2 }) := rfl

/-- Whether there is room is looked up in the catalogue. -/
theorem run_on_check_limit (kind : EntityKind) (before : Workspace) :
    runOn (checkLimit kind) before =
      if before.catalogue.isFull kind then (.error (.limit kind before.catalogue.limit), before)
      else (.ok (), before) := by
  rw [checkLimit, run_on_bind_ok (run_on_catalogue before)]
  split
  · rfl
  · rfl

/-- Drawing a token gives one that is not taken, or fails for want of one, and leaves the catalogue
as it is. -/
theorem draw_token_cases (taken : Catalogue → Text → Bool) (before : Workspace) :
    (∃ token tokens, runOn (drawToken taken) before = (.ok token, ⟨before.catalogue, tokens⟩) ∧
        taken before.catalogue token = false ∧ token ≠ []) ∨
      ∃ tokens, runOn (drawToken taken) before = (.error .noToken, ⟨before.catalogue, tokens⟩) := by
  obtain ⟨kept, fails⟩ := run_on_draw_token taken before
  rcases run : runOn (drawToken taken) before with ⟨outcome, after, tokens⟩
  rw [run] at kept fails
  obtain rfl : after = before.catalogue := kept
  cases outcome with
  | error failure =>
    obtain rfl := fails failure rfl
    exact .inr ⟨tokens, rfl⟩
  | ok token =>
    obtain ⟨free, filled⟩ := draw_token_free (congrArg Prod.fst run)
    exact .inl ⟨token, tokens, rfl, free, filled⟩

section Word

variable {key : Text} (variants : List Text) (label : Text) (before : Workspace)

/-- No word is stored under an empty key. -/
theorem run_on_word_no_key :
    runOn (wordForKey [] variants label) before = (.error .noKey, before) := rfl

/-- The word under a key is found. -/
theorem run_on_word_found (filled : key ≠ []) {word : WordEntity}
    (stored : before.catalogue.wordOfKey? key = some word) :
    runOn (wordForKey key variants label) before = (.ok word, before) := by
  rw [wordForKey, if_neg (by simpa using filled)]
  dsimp only
  rw [run_on_bind_ok (run_on_catalogue before), stored]
  rfl

/-- A new word is refused if there is no room for it. -/
theorem run_on_word_full (filled : key ≠ []) (absent : before.catalogue.wordOfKey? key = none)
    (full : before.catalogue.isFull .word = true) :
    runOn (wordForKey key variants label) before =
      (.error (.limit .word before.catalogue.limit), before) := by
  rw [wordForKey, if_neg (by simpa using filled)]
  dsimp only
  rw [run_on_bind_ok (run_on_catalogue before), absent]
  simp only
  rw [run_on_bind, run_on_check_limit, if_pos full]

/-- A new word gets the next id and a token that is drawn, and is stored. -/
theorem run_on_word_new (filled : key ≠ []) (absent : before.catalogue.wordOfKey? key = none)
    (room : before.catalogue.isFull .word = false) :
    runOn (wordForKey key variants label) before =
      runOn (drawWordToken >>= fun token => do
          let word := WordEntity.ofKey (before.catalogue.takeId .word).1 token key variants label
          put (.word word)
          return word)
        { before with catalogue := (before.catalogue.takeId .word).2 } := by
  rw [wordForKey, if_neg (by simpa using filled)]
  dsimp only
  rw [run_on_bind_ok (run_on_catalogue before), absent]
  dsimp only
  rw [run_on_bind, run_on_check_limit, if_neg (by simp [room])]
  dsimp only
  rw [run_on_bind_ok (run_on_take_id .word before)]
  rfl

/-- What looking for the word under a key does. -/
inductive WordRun (key : Text) (variants : List Text) (label : Text) (before : Workspace) :
    Except Failure WordEntity → Workspace → Prop where
  | noKey (empty : key = []) : WordRun key variants label before (.error .noKey) before
  | found (filled : key ≠ []) {word : WordEntity}
      (stored : before.catalogue.wordOfKey? key = some word) :
      WordRun key variants label before (.ok word) before
  | full (filled : key ≠ []) (absent : before.catalogue.wordOfKey? key = none)
      (full : before.catalogue.isFull .word = true) :
      WordRun key variants label before (.error (.limit .word before.catalogue.limit)) before
  | noToken (tokens : TokenSource) :
      WordRun key variants label before (.error .noToken)
        ⟨(before.catalogue.takeId .word).2, tokens⟩
  | new (filled : key ≠ []) (absent : before.catalogue.wordOfKey? key = none)
      (room : before.catalogue.isFull .word = false) (tokens : TokenSource) {token : Text}
      (free : before.catalogue.wordOfToken? token = none) (token_filled : token ≠ [])
      {word : WordEntity}
      (same : word = .ofKey (before.catalogue.takeId .word).1 token key variants label) :
      WordRun key variants label before (.ok word)
        ⟨(before.catalogue.takeId .word).2.store (.word word), tokens⟩

/-- Every search for the word under a key is one of these runs. -/
theorem word_run (key : Text) {outcome : Except Failure WordEntity} {after : Workspace}
    (run : runOn (wordForKey key variants label) before = (outcome, after)) :
    WordRun key variants label before outcome after := by
  by_cases empty : key = []
  · subst empty
    rw [run_on_word_no_key] at run
    obtain ⟨rfl, rfl⟩ := Prod.mk.inj run
    exact .noKey rfl
  cases stored : before.catalogue.wordOfKey? key with
  | some word =>
    rw [run_on_word_found variants label before empty stored] at run
    obtain ⟨rfl, rfl⟩ := Prod.mk.inj run
    exact .found empty stored
  | none =>
    by_cases full : before.catalogue.isFull .word = true
    · rw [run_on_word_full variants label before empty stored full] at run
      obtain ⟨rfl, rfl⟩ := Prod.mk.inj run
      exact .full empty stored full
    · have room : before.catalogue.isFull .word = false := by simpa using full
      rw [run_on_word_new variants label before empty stored room, drawWordToken] at run
      rcases draw_token_cases (fun catalogue token => (catalogue.wordOfToken? token).isSome)
        { before with catalogue := (before.catalogue.takeId .word).2 } with
        ⟨token, tokens, drawn, free, filled⟩ | ⟨tokens, failed⟩
      · rw [run_on_bind_ok drawn, run_on_bind, run_on_put,
          Catalogue.put_room (by exact room)] at run
        obtain ⟨rfl, rfl⟩ := Prod.mk.inj run
        have noWord : before.catalogue.wordOfToken? token = none :=
          Option.isNone_iff_eq_none.mp (Option.isSome_eq_false_iff.mp free)
        exact .new empty stored room tokens noWord filled rfl
      · rw [run_on_bind, failed] at run
        obtain ⟨rfl, rfl⟩ := Prod.mk.inj run
        exact .noToken tokens

end Word

section Expression

variable {label : Text} (root : Expr) (before : Workspace)

/-- The entity for an expression under an id. -/
def expressionAt (id label : Text) : ExpressionEntity :=
  ⟨id, label, some root, before.catalogue.contentKind root = .words⟩

/-- An expression with the label is redefined. -/
theorem run_on_expression_redefined {previous : Entity}
    (labelled : before.catalogue.ofLabel? label .expression = some previous) :
    runOn (defineExpression label root) before =
      (.ok (expressionAt root before previous.id label),
        { before with
          catalogue := before.catalogue.store
            (.expression (expressionAt root before previous.id label)) }) := by
  have seen : ∀ middle, runOn (fitsNearness root) middle =
    (.ok (middle.catalogue.contentKind root = .words), middle) := fun _ => rfl
  have found : before.catalogue.find? previous.id ≠ none :=
    Catalogue.find_of_stored (Catalogue.of_label_some labelled).1
  unfold defineExpression
  rw [run_on_bind_ok (run_on_take_id_for_label ..), run_on_bind_ok (seen _), run_on_bind,
    run_on_put, Catalogue.takeIdForLabel, labelled]
  dsimp only
  rw [Catalogue.put_found (by exact found)]
  rfl

/-- An expression under a new label is refused if there is no room for it. -/
theorem run_on_expression_full (absent : before.catalogue.ofLabel? label .expression = none)
    (full : before.catalogue.isFull .expression = true) :
    runOn (defineExpression label root) before =
      (.error (.limit .expression before.catalogue.limit),
        { before with catalogue := (before.catalogue.takeId .expression).2 }) := by
  have seen : ∀ middle, runOn (fitsNearness root) middle =
    (.ok (middle.catalogue.contentKind root = .words), middle) := fun _ => rfl
  unfold defineExpression
  rw [run_on_bind_ok (run_on_take_id_for_label ..), run_on_bind_ok (seen _), run_on_bind,
    run_on_put, Catalogue.takeIdForLabel, absent]
  dsimp only
  rw [Catalogue.put_full (by exact Catalogue.take_id_fresh before.catalogue .expression)
    (by exact full)]
  rfl

/-- An expression under a new label is stored under a new id if there is room for it. -/
theorem run_on_expression_new (absent : before.catalogue.ofLabel? label .expression = none)
    (room : before.catalogue.isFull .expression = false) :
    runOn (defineExpression label root) before =
      (.ok (expressionAt root before (before.catalogue.takeId .expression).1 label),
        { before with
          catalogue := (before.catalogue.takeId .expression).2.store (.expression
            (expressionAt root before (before.catalogue.takeId .expression).1 label)) }) := by
  have seen : ∀ middle, runOn (fitsNearness root) middle =
    (.ok (middle.catalogue.contentKind root = .words), middle) := fun _ => rfl
  have sameParts : (before.catalogue.takeId .expression).2.parts = before.catalogue.parts :=
    Catalogue.parts_contents rfl
  have sameFit : decide ((before.catalogue.takeId .expression).2.contentKind root = .words) =
      decide (before.catalogue.contentKind root = .words) := by
    rw [Catalogue.contentKind, sameParts]
    rfl
  unfold defineExpression
  rw [run_on_bind_ok (run_on_take_id_for_label ..), run_on_bind_ok (seen _), run_on_bind,
    run_on_put, Catalogue.takeIdForLabel, absent]
  dsimp only
  rw [Catalogue.put_room (by exact room), sameFit]
  rfl

/-- What storing an expression under a label does. -/
inductive ExpressionRun (label : Text) (root : Expr) (before : Workspace) :
    Except Failure ExpressionEntity → Workspace → Prop where
  | redefined {previous : Entity}
      (labelled : before.catalogue.ofLabel? label .expression = some previous) :
      ExpressionRun label root before (.ok (expressionAt root before previous.id label))
        { before with
          catalogue := before.catalogue.store
            (.expression (expressionAt root before previous.id label)) }
  | full (absent : before.catalogue.ofLabel? label .expression = none)
      (full : before.catalogue.isFull .expression = true) :
      ExpressionRun label root before
        (.error (.limit .expression before.catalogue.limit))
        { before with catalogue := (before.catalogue.takeId .expression).2 }
  | new (absent : before.catalogue.ofLabel? label .expression = none)
      (room : before.catalogue.isFull .expression = false) :
      ExpressionRun label root before
        (.ok (expressionAt root before (before.catalogue.takeId .expression).1 label))
        { before with
          catalogue := (before.catalogue.takeId .expression).2.store (.expression
            (expressionAt root before (before.catalogue.takeId .expression).1 label)) }

/-- Every definition of an expression is one of these runs. -/
theorem expression_run {outcome : Except Failure ExpressionEntity} {after : Workspace}
    (run : runOn (defineExpression label root) before = (outcome, after)) :
    ExpressionRun label root before outcome after := by
  cases labelled : before.catalogue.ofLabel? label .expression with
  | some previous =>
    rw [run_on_expression_redefined root before labelled] at run
    obtain ⟨rfl, rfl⟩ := Prod.mk.inj run
    exact .redefined labelled
  | none =>
    by_cases full : before.catalogue.isFull .expression = true
    · rw [run_on_expression_full root before labelled full] at run
      obtain ⟨rfl, rfl⟩ := Prod.mk.inj run
      exact .full labelled full
    · have room : before.catalogue.isFull .expression = false := by simpa using full
      rw [run_on_expression_new root before labelled room] at run
      obtain ⟨rfl, rfl⟩ := Prod.mk.inj run
      exact .new labelled room

end Expression

end Action

namespace Import

open Action

section Span

variable (span : CodeSpan) (before : Workspace)

/-- The group for a span is found. -/
theorem run_on_span_found {group : ClassEntity}
    (stored : before.catalogue.classOfCodes? span.codes = some group) :
    runOn (importSpan span) before = (.ok group, before) := by
  rw [importSpan, run_on_bind_ok (run_on_catalogue before), stored]
  rfl

/-- A new group is refused if there is no room for it. -/
theorem run_on_span_full (absent : before.catalogue.classOfCodes? span.codes = none)
    (full : before.catalogue.isFull .classification = true) :
    runOn (importSpan span) before =
      (.error (.limit .classification before.catalogue.limit), before) := by
  rw [importSpan, run_on_bind_ok (run_on_catalogue before), absent]
  dsimp only
  rw [run_on_bind, run_on_check_limit, if_pos full]

/-- What importing a span of codes does. -/
inductive SpanRun (span : CodeSpan) (before : Workspace) :
    Except Failure ClassEntity → Workspace → Prop where
  | found {group : ClassEntity} (stored : before.catalogue.classOfCodes? span.codes = some group) :
      SpanRun span before (.ok group) before
  | full (absent : before.catalogue.classOfCodes? span.codes = none)
      (full : before.catalogue.isFull .classification = true) :
      SpanRun span before (.error (.limit .classification before.catalogue.limit)) before
  | noToken (tokens : TokenSource) :
      SpanRun span before (.error .noToken)
        ⟨(before.catalogue.takeId .classification).2, tokens⟩
  | new (absent : before.catalogue.classOfCodes? span.codes = none)
      (room : before.catalogue.isFull .classification = false) (tokens : TokenSource)
      {token : Text} (free : before.catalogue.classOfToken? token = none)
      (token_filled : token ≠ []) {group : ClassEntity}
      (same : group = .ofCodes (before.catalogue.takeId .classification).1 (span.codes.headD [])
        token span.codes) :
      SpanRun span before (.ok group)
        ⟨(before.catalogue.takeId .classification).2.store (.classification group), tokens⟩

/-- Every import of a span is one of these runs. -/
theorem span_run {outcome : Except Failure ClassEntity} {after : Workspace}
    (run : runOn (importSpan span) before = (outcome, after)) :
    SpanRun span before outcome after := by
  cases stored : before.catalogue.classOfCodes? span.codes with
  | some group =>
    rw [run_on_span_found span before stored] at run
    obtain ⟨rfl, rfl⟩ := Prod.mk.inj run
    exact .found stored
  | none =>
    by_cases full : before.catalogue.isFull .classification = true
    · rw [run_on_span_full span before stored full] at run
      obtain ⟨rfl, rfl⟩ := Prod.mk.inj run
      exact .full stored full
    · have room : before.catalogue.isFull .classification = false := by simpa using full
      unfold importSpan drawClassToken at run
      rw [run_on_bind_ok (run_on_catalogue before), stored] at run
      dsimp only at run
      rw [run_on_bind, run_on_check_limit, if_neg full] at run
      dsimp only at run
      rw [run_on_bind_ok (run_on_take_id .classification before)] at run
      rcases draw_token_cases (fun catalogue token => (catalogue.classOfToken? token).isSome)
        { before with catalogue := (before.catalogue.takeId .classification).2 } with
        ⟨token, tokens, drawn, free, filled⟩ | ⟨tokens, failed⟩
      · rw [run_on_bind_ok drawn, run_on_bind, run_on_put,
          Catalogue.put_room (by exact room)] at run
        obtain ⟨rfl, rfl⟩ := Prod.mk.inj run
        have noGroup : before.catalogue.classOfToken? token = none :=
          Option.isNone_iff_eq_none.mp (Option.isSome_eq_false_iff.mp free)
        exact .new stored room tokens noGroup filled rfl
      · rw [run_on_bind, failed] at run
        obtain ⟨rfl, rfl⟩ := Prod.mk.inj run
        exact .noToken tokens

end Span

end Import

end PriorArt
