import PriorArt.Proofs.Import.Runs

/-!
# Why an import fails

A union of plain words is its own key, which is never empty. So the import of a plain factor fails
only because a kind of entity is at the limit or because no token is free, and an import as a whole
ends early only for want of a token.
-/

namespace PriorArt

open Expr

/-- The logical form of a tree of plain words is its own key, and has characters. -/
theorem IsPlainTree.key_text {tree : Expr} (plainTree : IsPlainTree tree) :
    Text.key tree.text = tree.text ∧ tree.text ≠ [] := by
  have laysOut : Layout.LaysOut (logicalForm id tree) (tree.row id) :=
    IsBuilt.lays_out (fun _ isNamed => isNamed.elim) plainTree
  have normal : Text.normalized tree.text = tree.text := laysOut.tidy.normal
  have solid : Text.withoutBlanks tree.text = tree.text := by
    rw [Text.withoutBlanks, List.filter_eq_self]
    intro character inside
    simpa using laysOut.tidy.solid character inside
  refine ⟨?_, laysOut.filled⟩
  rw [Text.key, normal, solid]
  exact laysOut.strip.trans (text_row id tree)

namespace Import

open Action Catalogue

/-- A failure for want of room or of a token. -/
def IsWant (limit : Int) (failure : Failure) : Prop :=
  (∃ kind, failure = .limit kind limit) ∨ failure = .noToken

variable {expand : Bool} {before after : Workspace} {failure : Failure}

/-- The import of an operand fails only for want of room or of a token. -/
theorem import_operand_failed {expr : Expr} (plainTree : IsPlainTree expr)
    (failed : runOn (importOperand expand expr) before = (.error failure, after)) :
    IsWant before.catalogue.limit failure := by
  unfold importOperand at failed
  split at failed
  · rcases run_on_bind_error failed with ofWord | ⟨word, middle, _, given⟩
    · unfold importWord at ofWord
      cases word_run _ _ before _ ofWord with
      | noKey empty => exact absurd (plainTree.key_text.1.symm.trans empty) plainTree.key_text.2
      | full filled absent full => exact .inl ⟨.word, rfl⟩
      | noToken tokens => exact .inr rfl
    · cases given
  · cases failed

/-- The import of the expression for a factor fails only for want of room or of a token. -/
theorem import_root_failed {expr : Expr} (plainTree : IsPlainTree expr)
    (indexed : before.catalogue.IsIndexed)
    (failed : runOn (importRoot expand expr) before = (.error failure, after)) :
    IsWant before.catalogue.limit failure := by
  have sameLimit : ∀ {tree : Expr} {start next : Workspace} {value : Expr × List Entity},
      start.catalogue.IsIndexed → runOn (importOperand expand tree) start = (.ok value, next) →
      next.catalogue.IsIndexed ∧ next.catalogue.limit = start.catalogue.limit :=
    fun indexed run =>
      ((repeats_import_operand expand _).run_grows indexed run).imp_right (·.limit)
  cases plainTree with
  | word plain => exact import_operand_failed (.word plain) failed
  | reference isNamed => exact isNamed.elim
  | logical connective operands => exact import_operand_failed (.logical connective operands) failed
  | proximity distance ofLeft ofRight =>
    rcases run_on_bind_error failed with failed | ⟨left, middle, runLeft, failed⟩
    · exact import_operand_failed ofLeft failed
    obtain ⟨_, limit⟩ := sameLimit indexed runLeft
    rcases run_on_bind_error failed with failed | ⟨right, next, _, given⟩
    · rw [← limit]
      exact import_operand_failed ofRight failed
    · cases given
  | simultaneous count ofFirst ofSecond ofThird =>
    rcases run_on_bind_error failed with failed | ⟨first, middle, runFirst, failed⟩
    · exact import_operand_failed ofFirst failed
    obtain ⟨indexedMiddle, limit⟩ := sameLimit indexed runFirst
    rcases run_on_bind_error failed with failed | ⟨second, next, runSecond, failed⟩
    · rw [← limit]
      exact import_operand_failed ofSecond failed
    obtain ⟨_, limitNext⟩ := sameLimit indexedMiddle runSecond
    rcases run_on_bind_error failed with failed | ⟨third, last, _, given⟩
    · rw [← limit, ← limitNext]
      exact import_operand_failed ofThird failed
    · cases given

/-- The import of a plain factor fails only for want of room or of a token. -/
theorem FactorRun.failed {factor : Factor} (plain : factor.IsPlain)
    (indexed : before.catalogue.IsIndexed)
    (run : FactorRun expand before factor (.error failure) after) :
    IsWant before.catalogue.limit failure := by
  cases run with
  | codesFailed ofSpan =>
    cases span_run _ _ ofSpan with
    | full absent full => exact .inl ⟨.classification, rfl⟩
    | noToken tokens => exact .inr rfl
  | wordFailed ofRoot =>
    cases plain with
    | words plainTree => exact import_root_failed plainTree indexed ofRoot
  | full ofRoot absent full =>
    obtain ⟨_, grows⟩ := (repeats_import_root expand _).run_grows indexed ofRoot
    exact .inl ⟨.expression, by rw [grows.limit]⟩

/-- Plain factors are all imported, unless the import ends for want of a token. -/
theorem imports_or_no_token {factors : List Factor} (plain : ∀ factor ∈ factors, factor.IsPlain)
    (indexed : before.catalogue.IsIndexed) (report : ImportReport) (number : Nat) :
    (∃ outcomes after, Imports expand factors before outcomes after) ∨
      ∃ after, runOn (importFactors expand report (factors.zipIdx number)) before =
        (.error .noToken, after) := by
  induction factors generalizing before report number with
  | nil => exact .inl ⟨[], before, .nil before⟩
  | cons factor rest inductionHypothesis =>
    obtain ⟨plainFirst, plainOthers⟩ := List.forall_mem_cons.mp plain
    rw [List.zipIdx_cons, run_on_factors_cons]
    rcases first : runOn (importFactor expand factor) before with ⟨outcome, middle⟩
    have run := factor_run first
    obtain ⟨indexedMiddle, _⟩ := run.grows plainFirst indexed
    have goOn : ∀ next, (∀ failure, outcome = .error failure → endsImport failure = false) →
        (∃ outcomes after, Imports expand (factor :: rest) before outcomes after) ∨
          ∃ after, runOn (importFactors expand next (rest.zipIdx (number + 1))) middle =
            (.error .noToken, after) := by
      intro next goesOn
      rcases inductionHypothesis plainOthers indexedMiddle next (number + 1) with
        ⟨outcomes, after, imports⟩ | ended
      · exact .inl ⟨_, after, .cons first goesOn imports⟩
      · exact .inr ended
    cases outcome with
    | ok entities => exact goOn _ nofun
    | error failure =>
      rcases run.failed plainFirst indexed with ⟨kind, rfl⟩ | rfl
      · refine goOn _ (fun failure same => ?_)
        rw [← Except.error.inj same]
        rfl
      · exact .inr ⟨middle, rfl⟩

/-- An accepted query is imported, unless the import ends for want of a token. The report is put
together from the outcomes of the factors. -/
theorem run_on_query (expand : Bool) {query : Text} {factors : List Factor}
    (accepted : Query.parse query = .ok factors) (indexed : before.catalogue.IsIndexed) :
    (∃ after, runOn (importQuery expand query) before = (.error .noToken, after)) ∨
      ∃ outcomes after, Imports expand factors before outcomes after ∧
        runOn (importQuery expand query) before =
          (.ok ((outcomes.zipIdx 1).foldl ImportReport.add .empty), after) := by
  have plain := Query.plain_factors accepted
  have opened : runOn (importQuery expand query) before =
      runOn (importFactors expand .empty (factors.zipIdx 1)) before := by
    rw [importQuery, accepted, run_on_bind_ok (run_on_of_except_ok ..)]
  rw [opened]
  rcases imports_or_no_token plain indexed .empty 1 with ⟨outcomes, after, imports⟩ | ended
  · exact .inr ⟨outcomes, after, imports, run_on_factors_ok_iff.mpr ⟨outcomes, imports, rfl⟩⟩
  · exact .inl ended

end Import

end PriorArt
