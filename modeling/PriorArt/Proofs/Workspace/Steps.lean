import PriorArt.Proofs.Catalogue.Contents
import PriorArt.Workspace

/-!
# Runs of the steps

A step is run on a workspace and gives an outcome and the workspace after it. The equations of
this module say what each of the shared steps gives, in terms of the catalogue alone. A failure
ends a run but does not undo it: what stands in the workspace when a step fails stays there.
-/

namespace PriorArt

/-- A token that is found by drawing is not taken, and it has characters. -/
theorem TokenSource.drawFree_some {taken : Text → Bool} {attempts : Nat}
    {source next : TokenSource} {token : Text}
    (drawn : source.drawFree taken attempts = (some token, next)) :
    taken token = false ∧ token ≠ [] := by
  induction attempts generalizing source with
  | zero => cases drawn
  | succ attempts inductionHypothesis =>
    rw [drawFree] at drawn
    dsimp only at drawn
    split at drawn
    · exact inductionHypothesis drawn
    · next free =>
      obtain rfl := Option.some.inj (Prod.mk.inj drawn).1
      refine ⟨by simpa using free, ?_⟩
      have length : source.draw.1.length = source.length := by simp [draw]
      exact List.ne_nil_of_length_pos (length ▸ source.length_pos)

namespace Action

variable {α β : Type}

/-- The outcome of a step on a workspace, and the workspace after it. -/
def runOn (step : Action α) (before : Workspace) : Except Failure α × Workspace :=
  step.run.run before

/-- A step that only gives a value. -/
@[simp] theorem run_on_pure (value : α) (before : Workspace) :
    runOn (pure value) before = (.ok value, before) := rfl

/-- A step that only fails. -/
@[simp] theorem run_on_throw (failure : Failure) (before : Workspace) :
    runOn (throw failure : Action α) before = (.error failure, before) := rfl

/-- The second of two steps is run where the first one ended, unless that one fails. -/
theorem run_on_bind (step : Action α) (next : α → Action β) (before : Workspace) :
    runOn (step >>= next) before =
      match runOn step before with
      | (.ok value, middle) => runOn (next value) middle
      | (.error failure, middle) => (.error failure, middle) := by
  have opened : runOn (step >>= next) before =
      (ExceptT.bindCont next (runOn step before).1).run (runOn step before).2 := rfl
  rw [opened]
  rcases runOn step before with ⟨outcome, middle⟩
  cases outcome with
  | ok value => rfl
  | error failure => rfl

/-- A step behind one that succeeds. -/
theorem run_on_bind_ok {step : Action α} {before middle : Workspace} {value : α}
    (first : runOn step before = (.ok value, middle)) (next : α → Action β) :
    runOn (step >>= next) before = runOn (next value) middle := by
  rw [run_on_bind, first]

/-- Two steps succeed if the first one succeeds and then the second one. -/
theorem run_on_bind_success {step : Action α} {next : α → Action β} {before after : Workspace}
    {result : β} (succeeded : runOn (step >>= next) before = (.ok result, after)) :
    ∃ value middle, runOn step before = (.ok value, middle) ∧
      runOn (next value) middle = (.ok result, after) := by
  rw [run_on_bind] at succeeded
  rcases first : runOn step before with ⟨outcome, middle⟩
  rw [first] at succeeded
  cases outcome with
  | ok value => exact ⟨value, middle, rfl, succeeded⟩
  | error failure => cases succeeded

/-- A step that gives a value runs to this value and the workspace after it. -/
theorem run_of_value {step : Action α} {before : Workspace} {value : α}
    (given : (runOn step before).1.toOption = some value) :
    runOn step before = (.ok value, (runOn step before).2) := by
  rcases run : runOn step before with ⟨outcome, after⟩
  rw [run] at given
  cases outcome with
  | ok other => rw [show other = value from Option.some.inj given]
  | error failure => cases given

/-- Two steps fail if the first one fails, or if it succeeds and the second one then fails. -/
theorem run_on_bind_error {step : Action α} {next : α → Action β} {before after : Workspace}
    {failure : Failure} (failed : runOn (step >>= next) before = (.error failure, after)) :
    runOn step before = (.error failure, after) ∨
      ∃ value middle, runOn step before = (.ok value, middle) ∧
        runOn (next value) middle = (.error failure, after) := by
  rw [run_on_bind] at failed
  rcases first : runOn step before with ⟨outcome, middle⟩
  rw [first] at failed
  cases outcome with
  | ok value => exact .inr ⟨value, middle, rfl, failed⟩
  | error failure' =>
    obtain ⟨sameFailure, sameAfter⟩ := Prod.mk.inj failed
    exact .inl (by rw [Except.error.inj sameFailure, sameAfter])

/-- Steps that each change the catalogue and never fail, taken one after the other. -/
theorem run_on_for_each {items : List α} {step : α → Action Unit}
    {change : Catalogue → α → Catalogue}
    (each : ∀ item before, runOn (step item) before =
      (.ok (), { before with catalogue := change before.catalogue item }))
    (before : Workspace) :
    runOn (items.forM step) before =
      (.ok (), { before with catalogue := items.foldl change before.catalogue }) := by
  induction items generalizing before with
  | nil => rfl
  | cons item rest inductionHypothesis =>
    rw [List.forM, run_on_bind_ok (each item before), inductionHypothesis]
    rfl

/-- Looking at the catalogue changes nothing. -/
@[simp] theorem run_on_catalogue (before : Workspace) :
    runOn catalogue before = (.ok before.catalogue, before) := rfl

/-- Setting the catalogue leaves the source of tokens as it is. -/
@[simp] theorem run_on_set_catalogue (changed : Catalogue) (before : Workspace) :
    runOn (setCatalogue changed) before = (.ok (), { before with catalogue := changed }) := rfl

/-- What a reader gives is given. -/
@[simp] theorem run_on_of_except_ok {ε : Type} (toFailure : ε → Failure) (value : α)
    (before : Workspace) : runOn (ofExcept toFailure (.ok value)) before = (.ok value, before) :=
  rfl

/-- An error of a reader fails the step. -/
@[simp] theorem run_on_of_except_error {ε : Type} (toFailure : ε → Failure) (error : ε)
    (before : Workspace) :
    runOn (ofExcept toFailure (.error error) : Action α) before =
      (.error (toFailure error), before) := rfl

/-- Erasing never fails. -/
@[simp] theorem run_on_erase (id : Text) (before : Workspace) :
    runOn (erase id) before =
      (.ok (), { before with catalogue := before.catalogue.erase id }) := rfl

/-- An entity is stored if there is room for it; otherwise nothing changes. -/
theorem run_on_put (entity : Entity) (before : Workspace) :
    runOn (put entity) before =
      match before.catalogue.put? entity with
      | some changed => (.ok (), { before with catalogue := changed })
      | none => (.error (.limit entity.kind before.catalogue.limit), before) := by
  rw [put, run_on_bind_ok (run_on_catalogue before)]
  cases before.catalogue.put? entity with
  | some changed => rfl
  | none => rfl

/-- An entity that could be stored is stored, in the place of another one or where there was room. -/
theorem run_on_put_success {entity : Entity} {before after : Workspace} {value : Unit}
    (run : runOn (put entity) before = (.ok value, after)) :
    (before.catalogue.contains entity.id = true ∨ before.catalogue.isFull entity.kind = false) ∧
      after = { before with catalogue := before.catalogue.store entity } := by
  rw [run_on_put, Catalogue.put?] at run
  by_cases refused : (!before.catalogue.contains entity.id &&
      before.catalogue.isFull entity.kind) = true
  · rw [if_pos refused] at run
    cases run
  · rw [if_neg refused] at run
    refine ⟨?_, (Prod.mk.inj run).2.symm⟩
    simpa [Decidable.or_iff_not_imp_left] using refused

/-- Giving out the id for a label never fails. -/
@[simp] theorem run_on_take_id_for_label (label : Text) (kind : EntityKind)
    (before : Workspace) :
    runOn (takeIdForLabel label kind) before =
      (.ok (before.catalogue.takeIdForLabel label kind).1,
        { before with catalogue := (before.catalogue.takeIdForLabel label kind).2 }) := rfl

/-- Drawing a token changes the source of tokens alone, and fails only for want of a free
token. -/
theorem run_on_draw_token (taken : Catalogue → Text → Bool) (before : Workspace) :
    (runOn (drawToken taken) before).2.catalogue = before.catalogue ∧
      ∀ failure, (runOn (drawToken taken) before).1 = .error failure → failure = .noToken := by
  have seen : runOn (get : Action Workspace) before = (.ok before, before) := rfl
  rw [drawToken, run_on_bind_ok seen]
  rcases before.tokens.drawFree (taken before.catalogue) TokenSource.patience with
    ⟨token?, tokens⟩
  cases token? with
  | some token =>
    refine ⟨rfl, ?_⟩
    intro failure failed
    have given : (Except.ok token : Except Failure Text) = .error failure := failed
    cases given
  | none =>
    refine ⟨rfl, ?_⟩
    intro failure failed
    exact (Except.error.inj failed).symm

/-- A token that is drawn is not taken, and it has characters. -/
theorem draw_token_free {taken : Catalogue → Text → Bool} {before : Workspace} {token : Text}
    (given : (runOn (drawToken taken) before).1 = .ok token) :
    taken before.catalogue token = false ∧ token ≠ [] := by
  have seen : runOn (get : Action Workspace) before = (.ok before, before) := rfl
  rw [drawToken, run_on_bind_ok seen] at given
  -- The bound on the search is a large numeral, which is not to be computed with.
  generalize TokenSource.patience = attempts at given
  rcases drawn : before.tokens.drawFree (taken before.catalogue) attempts with ⟨token?, tokens⟩
  rw [drawn] at given
  cases token? with
  | none => cases given
  | some other =>
    obtain rfl : other = token := Except.ok.inj given
    exact TokenSource.drawFree_some drawn

end Action

end PriorArt

/-!
## What steps preserve

A step preserves a property of the catalogue if the property holds behind the step whenever it held
before, whether or not the step fails. A step that is put together from others preserves what they
preserve.
-/

namespace PriorArt.Action

variable {α β : Type} {property : Catalogue → Prop}

/-- The property holds behind the step if it held before, also if the step fails. -/
def Preserves (property : Catalogue → Prop) (step : Action α) : Prop :=
  ∀ before, property before.catalogue → property (runOn step before).2.catalogue

/-- Giving a value preserves everything. -/
theorem preserves_pure (value : α) : Preserves property (pure value) := fun _ holds => holds

/-- Failing preserves everything. -/
theorem preserves_throw (failure : Failure) : Preserves property (throw failure : Action α) :=
  fun _ holds => holds

/-- Looking at the catalogue preserves everything. -/
theorem preserves_catalogue : Preserves property catalogue := fun _ holds => holds

/-- What holds behind the first of two steps, and is preserved by the second, holds behind both. -/
theorem holds_behind {step : Action α} {next : α → Action β} {before : Workspace}
    (between : property (runOn step before).2.catalogue)
    (second : ∀ value, Preserves property (next value)) :
    property (runOn (step >>= next) before).2.catalogue := by
  rw [run_on_bind]
  rcases run : runOn step before with ⟨outcome, middle⟩
  rw [run] at between
  cases outcome with
  | ok value => exact second value middle between
  | error failure => exact between

/-- Two steps preserve what each of them preserves. -/
theorem Preserves.bind {step : Action α} {next : α → Action β} (first : Preserves property step)
    (second : ∀ value, Preserves property (next value)) : Preserves property (step >>= next) :=
  fun before holds => holds_behind (first before holds) second

/-- Drawing a token preserves everything. -/
theorem preserves_draw_token (taken : Catalogue → Text → Bool) :
    Preserves property (drawToken taken) := by
  intro before holds
  rw [(run_on_draw_token taken before).1]
  exact holds

/-- Storing an entity preserves what holds behind the storing as well as without it. -/
theorem put_preserves {entity : Entity} {before : Workspace} (refused : property before.catalogue)
    (stored : before.catalogue.put? entity = some (before.catalogue.store entity) →
      property (before.catalogue.store entity)) :
    property (runOn (put entity) before).2.catalogue := by
  rw [run_on_put]
  cases put : before.catalogue.put? entity with
  | none => exact refused
  | some changed =>
    have same : changed = before.catalogue.store entity := by
      unfold Catalogue.put? at put
      split at put
      · cases put
      · exact (Option.some.inj put).symm
    subst same
    exact stored put

/-- Storing an entity, or failing to for want of room, preserves a stable property. -/
theorem preserves_put (stable : Catalogue.IsStable property) (entity : Entity) :
    Preserves property (put entity) :=
  fun _ holds => put_preserves holds (fun _ => stable.store entity holds)

end PriorArt.Action
