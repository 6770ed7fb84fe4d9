import PriorArt.Proofs.Import.Factors

/-!
# Imports

An import takes factors one after the other and notes what became of each. It ends before the last
factor only if a word has no key or if no token is free. The report is put together from the outcomes
of the factors, and the expressions among them are what an import leaves under their ids.

When all factors are imported again, each has the same outcome, whatever was added in the meantime, and
nothing is stored but the expressions, in the places where they are.
-/

namespace PriorArt

/-- Add the outcome of a factor to a report. -/
def ImportReport.add (report : ImportReport) :
    Except Failure (List Entity) × Nat → ImportReport
  | (.ok entities, _) => entities.foldl record report
  | (.error failure, number) => { report with errors := report.errors ++ [(number, failure)] }

namespace Import

open Action Catalogue

/-- Factors that are imported one after the other, with their outcomes. -/
inductive Imports (expand : Bool) :
    List Factor → Workspace → List (Except Failure (List Entity)) → Workspace → Prop where
  | nil (before : Workspace) : Imports expand [] before [] before
  | cons {factor : Factor} {rest : List Factor} {before middle after : Workspace}
      {outcome : Except Failure (List Entity)} {outcomes : List (Except Failure (List Entity))}
      (first : runOn (importFactor expand factor) before = (outcome, middle))
      (goesOn : ∀ failure, outcome = .error failure → endsImport failure = false)
      (others : Imports expand rest middle outcomes after) :
      Imports expand (factor :: rest) before (outcome :: outcomes) after

/-- The steps of an import: a factor is imported, and the import goes on with the others unless the
factor failed in a way that ends it. -/
theorem run_on_factors_cons (expand : Bool) (report : ImportReport) (factor : Factor) (number : Nat)
    (rest : List (Factor × Nat)) (before : Workspace) :
    runOn (importFactors expand report ((factor, number) :: rest)) before =
      match runOn (importFactor expand factor) before with
      | (.ok entities, middle) =>
        runOn (importFactors expand (report.add (.ok entities, number)) rest) middle
      | (.error failure, middle) =>
        if endsImport failure then (.error failure, middle)
        else runOn (importFactors expand (report.add (.error failure, number)) rest) middle := by
  have attempted : runOn (attempt (importFactor expand factor)) before =
      (.ok (runOn (importFactor expand factor) before).1,
        (runOn (importFactor expand factor) before).2) := rfl
  rw [importFactors, run_on_bind_ok attempted]
  rcases runOn (importFactor expand factor) before with ⟨outcome, middle⟩
  cases outcome with
  | ok entities => rfl
  | error failure =>
    dsimp only
    split
    · next ends => rfl
    · next goesOn => rfl

/-- An import gives a report exactly if all factors are imported, and the report is put together from
their outcomes. -/
theorem run_on_factors_ok_iff {expand : Bool} {report result : ImportReport}
    {factors : List Factor} {number : Nat} {before after : Workspace} :
    runOn (importFactors expand report (factors.zipIdx number)) before = (.ok result, after) ↔
      ∃ outcomes, Imports expand factors before outcomes after ∧
        result = (outcomes.zipIdx number).foldl ImportReport.add report := by
  induction factors generalizing report number before with
  | nil =>
    constructor
    · intro run
      obtain ⟨same, rfl⟩ := Prod.mk.inj run
      exact ⟨[], .nil before, (Except.ok.inj same).symm⟩
    · rintro ⟨outcomes, imports, rfl⟩
      cases imports
      rfl
  | cons factor rest inductionHypothesis =>
    rw [List.zipIdx_cons, run_on_factors_cons]
    constructor
    · intro run
      rcases first : runOn (importFactor expand factor) before with ⟨outcome, middle⟩
      rw [first] at run
      cases outcome with
      | ok entities =>
        obtain ⟨outcomes, imports, rfl⟩ := inductionHypothesis.mp run
        exact ⟨.ok entities :: outcomes, .cons first nofun imports, rfl⟩
      | error failure =>
        dsimp only at run
        split at run
        · cases run
        · next goesOn =>
          obtain ⟨outcomes, imports, rfl⟩ := inductionHypothesis.mp run
          refine ⟨.error failure :: outcomes, .cons first ?_ imports, rfl⟩
          intro other same
          rw [← Except.error.inj same]
          simpa using goesOn
    · rintro ⟨outcomes, imports, rfl⟩
      cases imports with
      | @cons _ _ _ middle _ outcome outcomes first goesOn others =>
        rw [first]
        cases outcome with
        | ok entities => exact inductionHypothesis.mpr ⟨outcomes, others, rfl⟩
        | error failure =>
          dsimp only
          rw [goesOn failure rfl, if_neg Bool.false_ne_true]
          exact inductionHypothesis.mpr ⟨outcomes, others, rfl⟩

/-- The expressions that an import stored, in order. -/
def expressionsOfAll (outcomes : List (Except Failure (List Entity))) : List ExpressionEntity :=
  outcomes.flatMap expressionsOf

variable {expand : Bool} {factors : List Factor} {before after later : Workspace}
  {outcomes : List (Except Failure (List Entity))}

/-- The catalogue is indexed and has grown after an import. -/
theorem Imports.grows (imports : Imports expand factors before outcomes after)
    (plain : ∀ factor ∈ factors, factor.IsPlain) (indexed : before.catalogue.IsIndexed) :
    after.catalogue.IsIndexed ∧ before.catalogue.GrowsTo after.catalogue := by
  induction imports with
  | nil before => exact ⟨indexed, .refl _⟩
  | cons first goesOn others inductionHypothesis =>
    obtain ⟨plainFirst, plainOthers⟩ := List.forall_mem_cons.mp plain
    obtain ⟨indexedMiddle, grows⟩ := (factor_run first).grows plainFirst indexed
    obtain ⟨indexedAfter, growsAfter⟩ := inductionHypothesis plainOthers indexedMiddle
    exact ⟨indexedAfter, grows.trans indexedMiddle.distinct growsAfter⟩

/-- What is found after an import: the last expression that it stored under an id, and what was found
before under the other ids. -/
theorem Imports.find (imports : Imports expand factors before outcomes after)
    (plain : ∀ factor ∈ factors, factor.IsPlain) (indexed : before.catalogue.IsIndexed)
    (id : Text) :
    (∀ expression, lastWith id (expressionsOfAll outcomes) = some expression →
      after.catalogue.find? id = some (.expression expression)) ∧
    (∀ entity, lastWith id (expressionsOfAll outcomes) = none →
      before.catalogue.find? id = some entity → after.catalogue.find? id = some entity) := by
  induction imports with
  | nil before => exact ⟨nofun, fun _ _ found => found⟩
  | @cons factor rest before middle after outcome outcomes first goesOn others
      inductionHypothesis =>
    obtain ⟨plainFirst, plainOthers⟩ := List.forall_mem_cons.mp plain
    have run := factor_run first
    obtain ⟨indexedMiddle, _⟩ := run.grows plainFirst indexed
    obtain ⟨storedFirst, keptFirst⟩ := run.find plainFirst indexed id
    obtain ⟨storedLater, keptLater⟩ := inductionHypothesis plainOthers indexedMiddle
    rw [expressionsOfAll, List.flatMap_cons, lastWith_append, ← expressionsOfAll]
    cases last : lastWith id (expressionsOfAll outcomes) with
    | some expression => exact ⟨fun _ same => storedLater _ (last.trans same), nofun⟩
    | none =>
      rw [Option.none_or]
      refine ⟨fun expression stored => ?_, fun entity none found => ?_⟩
      · exact keptLater _ last (storedFirst expression stored)
      · exact keptLater _ last (keptFirst entity none found)

/-- Factors that were imported can be imported again after the catalogue has grown. Each has the same
outcome, no token is drawn, and only the expressions are stored once more. -/
theorem Imports.again (imports : Imports expand factors before outcomes after)
    (plain : ∀ factor ∈ factors, factor.IsPlain) (indexed : before.catalogue.IsIndexed)
    (indexedLater : later.catalogue.IsIndexed)
    (grown : after.catalogue.GrowsTo later.catalogue) :
    ∃ last, Imports expand factors later outcomes last ∧ last.tokens = later.tokens ∧
      last.catalogue.contents =
        (later.catalogue.restore (expressionsOfAll outcomes)).contents := by
  induction imports generalizing later with
  | nil before => exact ⟨later, .nil later, rfl, rfl⟩
  | @cons factor rest before middle after outcome outcomes first goesOn others
      inductionHypothesis =>
    obtain ⟨plainFirst, plainOthers⟩ := List.forall_mem_cons.mp plain
    have run := factor_run first
    obtain ⟨indexedMiddle, _⟩ := run.grows plainFirst indexed
    obtain ⟨indexedAfter, growsAfter⟩ := others.grows plainOthers indexedMiddle
    have noToken : outcome ≠ .error .noToken := by
      rintro rfl
      cases goesOn _ rfl
    obtain ⟨next, again, sameTokens, sameContents⟩ :=
      run.again plainFirst indexed noToken (growsAfter.trans indexedAfter.distinct grown)
    obtain ⟨indexedNext, growsNext⟩ := (factor_run again).grows plainFirst indexedLater
    obtain ⟨last, importsLast, lastTokens, lastContents⟩ :=
      inductionHypothesis plainOthers indexedMiddle indexedNext
        (grown.trans indexedLater.distinct growsNext)
    refine ⟨last, .cons again goesOn importsLast, lastTokens.trans sameTokens, ?_⟩
    have together : expressionsOfAll (outcome :: outcomes) =
      expressionsOf outcome ++ expressionsOfAll outcomes := rfl
    rw [lastContents, restore_contents_congr sameContents, together, restore, restore, restore,
      List.foldl_append]

/-- Importing the same factors twice in a row gives the same outcomes, draws no token the second time
and leaves the contents of the catalogue as they are. -/
theorem Imports.twice (imports : Imports expand factors before outcomes after)
    (plain : ∀ factor ∈ factors, factor.IsPlain) (indexed : before.catalogue.IsIndexed) :
    ∃ last, Imports expand factors after outcomes last ∧ last.tokens = after.tokens ∧
      last.catalogue.contents = after.catalogue.contents := by
  obtain ⟨indexedAfter, _⟩ := imports.grows plain indexed
  obtain ⟨last, again, sameTokens, sameContents⟩ :=
    imports.again plain indexed indexedAfter (.refl _)
  refine ⟨last, again, sameTokens, sameContents.trans ?_⟩
  apply restore_contents indexedAfter.distinct
  exact fun id expression stored => (imports.find plain indexed id).1 expression stored

end Import

end PriorArt
