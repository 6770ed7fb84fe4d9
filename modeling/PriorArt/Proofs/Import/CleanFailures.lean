import PriorArt.Proofs.Import.Failures
import PriorArt.Proofs.Import.Frame
import PriorArt.Proofs.Workspace.Limits
import PriorArt.Proofs.Workspace.Requests

/-!
# Imports fail cleanly

An import either rejects its query, and then it has touched nothing, or it takes the factors one after
the other and gives a report. A factor that fails is noted under its number, counted from one, and it
fails for one reason only: a kind of entity is at the limit of the library, which no request changes.
In particular no word of a query is without a key. Beside that an import can only want a token.
-/

/-!
## Importing twice

An import right after the same import does nothing new. It finds the words by key, the groups by
their codes and the expressions by label; it stores the expressions again, in the order in which they
were stored before, so that the same one comes last under each id; and it is refused where it was
refused before, since a kind that is at its limit stays there.
-/

namespace PriorArt

open Action Import

/-- The catalogue is indexed after any requests. -/
theorem indexed_after_requests (requests : List Request) (limit : Int) (tokens : TokenSource) :
    (afterRequests requests ⟨Catalogue.empty limit, tokens⟩).catalogue.IsIndexed :=
  stable_after_requests Catalogue.indexed_stable requests (Catalogue.indexed_empty limit)

/-- An accepted query that is imported twice in a row, after any requests on an empty catalogue, gives
the same report, with the same entities in the same order and the same failures. The second import
draws no token, and the entities and the indexes are what they were after the first one. Only if the
first one finds no free token, it ends early. -/
theorem import_twice (requests : List Request) (limit : Int) (tokens : TokenSource) (expand : Bool)
    (query : Text) (factors : List Factor) (accepted : Query.parse query = .ok factors) :
    (∃ after, runOn (importQuery expand query)
        (afterRequests requests ⟨Catalogue.empty limit, tokens⟩) = (.error .noToken, after)) ∨
      ∃ report after last,
        runOn (importQuery expand query)
            (afterRequests requests ⟨Catalogue.empty limit, tokens⟩) = (.ok report, after) ∧
          runOn (importQuery expand query) after = (.ok report, last) ∧
          last.tokens = after.tokens ∧ last.catalogue.contents = after.catalogue.contents := by
  have indexed := indexed_after_requests requests limit tokens
  have plain := Query.plain_factors accepted
  rcases run_on_query expand accepted indexed with
    ended | ⟨outcomes, after, imports, first⟩
  · exact .inl ended
  · obtain ⟨last, again, sameTokens, sameContents⟩ := imports.twice plain indexed
    refine .inr ⟨_, after, last, first, ?_, sameTokens, sameContents⟩
    rw [importQuery, accepted, run_on_bind_ok (run_on_of_except_ok ..)]
    exact run_on_factors_ok_iff.mpr ⟨outcomes, again, rfl⟩

/-- A workspace with one group of codes and room for one entity of each kind. -/
def cramped : Workspace :=
  afterRequests [.line ['G', '=', '(', 'H', '0', '4', 'L', ')', '/', 'C', 'P']]
    ⟨Catalogue.empty 1, TokenSource.standard (congruential 1)⟩

/-- A query of two words is imported twice where there is room for one of them. Both times the first
word is recorded with the expression that refers to it, and the second one fails. -/
theorem import_twice_cramped :
    Query.parse ['A', '*', 'B'] = .ok [.words (.word ['A']), .words (.word ['B'])] ∧
      ∃ report after last,
        runOn (importQuery false ['A', '*', 'B']) cramped = (.ok report, after) ∧
          runOn (importQuery false ['A', '*', 'B']) after = (.ok report, last) ∧
          last.tokens = after.tokens ∧ last.catalogue.contents = after.catalogue.contents ∧
          report.entities.map Entity.kind = [.word, .expression] ∧
          report.errors.map Prod.fst = [2] := by
  have accepted : Query.parse ['A', '*', 'B'] =
      .ok [.words (.word ['A']), .words (.word ['B'])] := by rfl
  have recorded : (runOn (importQuery false ['A', '*', 'B']) cramped).1.toOption.map
      (fun report => (report.entities.map Entity.kind, report.errors.map Prod.fst)) =
        some ([.word, .expression], [2]) := by rfl
  refine ⟨accepted, ?_⟩
  rcases import_twice [.line ['G', '=', '(', 'H', '0', '4', 'L', ')', '/', 'C', 'P']] 1
      (TokenSource.standard (congruential 1)) false _ _ accepted with
    ⟨after, ended⟩ | ⟨report, after, last, first, again, sameTokens, sameContents⟩
  · rw [cramped, ended] at recorded
    cases recorded
  · rw [cramped, first] at recorded
    obtain ⟨entities, errors⟩ := Prod.mk.inj (Option.some.inj recorded)
    exact ⟨report, after, last, first, again, sameTokens, sameContents, entities, errors⟩

end PriorArt

namespace PriorArt

open Action Catalogue

namespace Import

/-- The failures among outcomes that are counted from a number, each with its number. -/
def failuresFrom (number : Nat) : List (Except Failure (List Entity)) → List (Nat × Failure)
  | [] => []
  | .ok _ :: outcomes => failuresFrom (number + 1) outcomes
  | .error failure :: outcomes => (number, failure) :: failuresFrom (number + 1) outcomes

/-- A report that outcomes are added to notes their failures behind those that it has. -/
theorem errors_of_outcomes (outcomes : List (Except Failure (List Entity))) (number : Nat)
    (report : ImportReport) :
    ((outcomes.zipIdx number).foldl ImportReport.add report).errors =
      report.errors ++ failuresFrom number outcomes := by
  induction outcomes generalizing number report with
  | nil => exact (List.append_nil _).symm
  | cons outcome rest inductionHypothesis =>
    rw [List.zipIdx_cons, List.foldl_cons, inductionHypothesis]
    cases outcome with
    | ok entities => rw [ImportReport.add, errors_record, failuresFrom]
    | error failure =>
      rw [ImportReport.add, failuresFrom, List.append_assoc, List.singleton_append]

/-- What is noted as a failure is the outcome of a factor. -/
theorem outcome_of_failure {outcomes : List (Except Failure (List Entity))} {first number : Nat}
    {failure : Failure} (noted : (number, failure) ∈ failuresFrom first outcomes) :
    .error failure ∈ outcomes := by
  induction outcomes generalizing first with
  | nil => cases noted
  | cons outcome rest inductionHypothesis =>
    cases outcome with
    | ok entities => exact List.mem_cons_of_mem _ (inductionHypothesis noted)
    | error other =>
      rcases List.mem_cons.mp noted with same | later
      · rw [(Prod.mk.inj same).2]
        exact List.mem_cons_self
      · exact List.mem_cons_of_mem _ (inductionHypothesis later)

variable {expand : Bool} {factors : List Factor} {before after : Workspace}
  {outcomes : List (Except Failure (List Entity))}

/-- Plain factors that an import goes through fail only at the limit. -/
theorem Imports.failed_at_limit (imports : Imports expand factors before outcomes after)
    (plain : ∀ factor ∈ factors, factor.IsPlain) (indexed : before.catalogue.IsIndexed)
    {failure : Failure} (failed : .error failure ∈ outcomes) :
    ∃ kind, failure = .limit kind before.catalogue.limit := by
  induction imports with
  | nil before => cases failed
  | @cons factor rest before middle after outcome outcomes first goesOn others
      inductionHypothesis =>
    obtain ⟨plainFirst, plainOthers⟩ := List.forall_mem_cons.mp plain
    have run := factor_run first
    obtain ⟨indexedMiddle, grows⟩ := run.grows plainFirst indexed
    rcases List.mem_cons.mp failed with same | later
    · subst same
      rcases run.failed plainFirst indexed with atLimit | rfl
      · exact atLimit
      · cases goesOn _ rfl
    · rw [← grows.limit]
      exact inductionHypothesis plainOthers indexedMiddle later

/-- An import of any text, after any requests on an empty library, that does not end for want of a
token: either the text is no query, and then that is the failure and nothing has changed, or there is
a report. Its errors are the failures of the factors in order, each with the number of its factor, and
each says that a kind of entity is at the limit of the library. -/
theorem import_fails_cleanly (requests : List Request) (limit : Int) (tokens : TokenSource)
    (expand : Bool) (query : Text) {outcome : Except Failure ImportReport} {after : Workspace}
    (run : runOn (importQuery expand query)
      (afterRequests requests ⟨Catalogue.empty limit, tokens⟩) = (outcome, after))
    (drawn : outcome ≠ .error .noToken) :
    (∃ error, Query.parse query = .error error ∧ outcome = .error (.query error) ∧
      after = afterRequests requests ⟨Catalogue.empty limit, tokens⟩) ∨
    ∃ factors outcomes report, Query.parse query = .ok factors ∧ outcome = .ok report ∧
      Imports expand factors (afterRequests requests ⟨Catalogue.empty limit, tokens⟩) outcomes
        after ∧
      report.errors = failuresFrom 1 outcomes ∧
      ∀ number failure, (number, failure) ∈ report.errors →
        ∃ kind, failure = .limit kind limit := by
  have indexed := indexed_after_requests requests limit tokens
  have sameLimit : HasLimit limit (afterRequests requests ⟨.empty limit, tokens⟩).catalogue :=
    has_limit_after_requests requests rfl
  cases accepted : Query.parse query with
  | error error =>
    rw [importQuery, accepted] at run
    obtain ⟨same, unchanged⟩ := Prod.mk.inj run
    exact .inl ⟨error, rfl, same.symm, unchanged.symm⟩
  | ok factors =>
    rcases run_on_query expand accepted indexed with
      ⟨_, ended⟩ | ⟨outcomes, last, imports, reported⟩
    · exact absurd (Prod.mk.inj (run.symm.trans ended)).1 drawn
    · obtain ⟨rfl, rfl⟩ := Prod.mk.inj (run.symm.trans reported)
      refine .inr ⟨factors, outcomes, _, rfl, rfl, imports, errors_of_outcomes .., ?_⟩
      intro number failure noted
      rw [errors_of_outcomes] at noted
      obtain ⟨kind, atLimit⟩ := imports.failed_at_limit (Query.plain_factors accepted) indexed
        (outcome_of_failure noted)
      exact ⟨kind, atLimit.trans (congrArg _ sameLimit)⟩

/-- Where there is room for one word, the import of two of them notes the failure of the second. -/
theorem import_fails_cleanly_cramped :
    ∃ report after outcomes,
      runOn (importQuery false ['A', '*', 'B']) cramped = (.ok report, after) ∧
        Imports false [.words (.word ['A']), .words (.word ['B'])] cramped outcomes after ∧
        report.errors = failuresFrom 1 outcomes ∧ report.errors = [(2, .limit .word 1)] := by
  have accepted : Query.parse ['A', '*', 'B'] =
      .ok [.words (.word ['A']), .words (.word ['B'])] := by rfl
  have recorded : (runOn (importQuery false ['A', '*', 'B']) cramped).1.toOption.map
      ImportReport.errors = some [(2, .limit .word 1)] := by rfl
  rcases run : runOn (importQuery false ['A', '*', 'B']) cramped with ⟨outcome, after⟩
  rw [run] at recorded
  have drawn : outcome ≠ .error .noToken := by
    rintro rfl
    cases recorded
  rcases import_fails_cleanly [.line ['G', '=', '(', 'H', '0', '4', 'L', ')', '/', 'C', 'P']] 1
      (TokenSource.standard (congruential 1)) false ['A', '*', 'B'] run drawn with
    ⟨error, rejected, _, _⟩ | ⟨factors, outcomes, report, read, rfl, imports, noted, _⟩
  · cases accepted.symm.trans rejected
  · obtain rfl := Except.ok.inj (read.symm.trans accepted)
    exact ⟨report, after, outcomes, rfl, imports, noted, Option.some.inj recorded⟩

end Import

end PriorArt
