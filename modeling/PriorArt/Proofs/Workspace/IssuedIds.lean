import PriorArt.Proofs.Catalogue.Circles
import PriorArt.Proofs.Workspace.Grounded

/-!
# Ids that are fresh for ever

Whatever is asked of a workspace only stores, erases and gives out ids, and none of this lowers a
counter. An id is given out under a number that its counter has not reached, and sets the counter to
it, so it differs from every id that was given out before, of whatever kind. This holds even where
entities are stored under ids of one's own making; the search for the next number passes over those.

Where no entity of one's own making is stored, every id in use was given out for the kind of its
entity, so a new entity has an id that no entity had before.
-/

namespace PriorArt

/-- The next id differs from every id that was given out on the way to a catalogue. -/
theorem Catalogue.Becomes.take_id_ne {given final : Catalogue} {other : EntityKind}
    (became : (given.takeId other).2.Becomes final) (kind : EntityKind) :
    (final.takeId kind).1 ≠ (given.takeId other).1 := by
  intro same
  have issued := (given.take_id_issued other).mono (became.counters_le other)
  rw [← same] at issued
  exact final.take_id_not_issued kind other issued

open Action

/-- A request leads from one catalogue to another by basic steps. -/
theorem Request.becomes (request : Request) (before : Workspace) :
    before.catalogue.Becomes (runOn request.step before).2.catalogue := by
  apply request.keeps (Catalogue.becomes_kept before.catalogue) _ before .refl
  intro entity _ middle became
  exact put_preserves became (fun _ => became.tail (.stored entity))

/-- Requests lead from one catalogue to another by basic steps. -/
theorem becomes_after_requests (requests : List Request) (start : Workspace) :
    start.catalogue.Becomes (afterRequests requests start).catalogue := by
  induction requests generalizing start with
  | nil => exact .refl
  | cons request rest inductionHypothesis =>
    exact (request.becomes start).trans (inductionHypothesis _)

section Managed

variable {earlier later : List Request} {start : Workspace}
  (managed : ∀ request ∈ earlier ++ later, request.IsManaged)
  (grounded : start.catalogue.IsGrounded)
include managed grounded

/-- Managed requests keep a catalogue grounded from any point of their course on. -/
theorem advances_between :
    (afterRequests earlier start).catalogue.IsGrounded ∧
      (afterRequests earlier start).catalogue.Advances
        (afterRequests (earlier ++ later) start).catalogue := by
  obtain ⟨managedEarlier, managedLater⟩ := List.forall_mem_append.mp managed
  have groundedBetween := (advances_after_requests managedEarlier grounded).grounded
  rw [after_requests_append]
  exact ⟨groundedBetween, advances_after_requests managedLater groundedBetween⟩

/-- The ids in use at some point of the course of managed requests stay issued. -/
theorem issued_between {entity : Entity}
    (stored : entity ∈ (afterRequests earlier start).catalogue.entities) :
    (afterRequests (earlier ++ later) start).catalogue.HasIssued entity.kind entity.id := by
  obtain ⟨groundedBetween, advances⟩ := advances_between managed grounded
  exact (groundedBetween.numbered entity stored).mono (advances.counters entity.kind)

/-- The next id is not that of an entity that was stored at some point of the course of managed
requests. -/
theorem take_id_unused {entity : Entity}
    (stored : entity ∈ (afterRequests earlier start).catalogue.entities) (kind : EntityKind) :
    ((afterRequests (earlier ++ later) start).catalogue.takeId kind).1 ≠ entity.id := by
  intro same
  have issued := issued_between managed grounded stored
  rw [← same] at issued
  exact Catalogue.take_id_not_issued _ kind entity.kind issued

end Managed

/-- An id that comes into use with the last of several managed requests was never in use before. -/
theorem never_in_use {earlier : List Request} {request : Request} {start : Workspace}
    (managed : ∀ other ∈ earlier ++ [request], other.IsManaged)
    (grounded : start.catalogue.IsGrounded) {id : Text}
    (absent : (afterRequests earlier start).catalogue.find? id = none)
    (present : (afterRequests (earlier ++ [request]) start).catalogue.find? id ≠ none)
    {past rest : List Request} (split : earlier = past ++ rest) :
    (afterRequests past start).catalogue.find? id = none := by
  by_contra inUse
  obtain ⟨entity, found⟩ := Option.ne_none_iff_exists'.mp inUse
  have managedEarlier := (List.forall_mem_append.mp managed).1
  rw [split] at managedEarlier
  have issued := issued_between managedEarlier grounded (List.mem_of_find?_eq_some found)
  rw [Catalogue.id_of_find found, ← split] at issued
  obtain ⟨_, advances⟩ := advances_between managed grounded
  exact present (advances.gone entity.kind id issued absent)

/-- After any requests on an empty catalogue, failing ones and entities of one's own making included:
giving out an id of a kind gives that with the least number behind the counter whose id is not in use,
and it differs from every id that was given out before, of whatever kind, be it by a request for an id
or on the way of another request. If all requests are managed, every id in use is one of the kind of
its entity, the next id was never in use, and an id that comes into use was never in use before. -/
theorem ids_are_fresh_for_ever (limit : Int) (tokens : TokenSource) (requests : List Request) :
    let start : Workspace := ⟨Catalogue.empty limit, tokens⟩
    let final := (afterRequests requests start).catalogue
    (∀ kind, ∃ number, final.IsNext kind number ∧
      (final.takeId kind).1 = Catalogue.idOf kind number) ∧
    (∀ kind other earlier later, requests = earlier ++ .takeId other :: later →
      (final.takeId kind).1 ≠ ((afterRequests earlier start).catalogue.takeId other).1) ∧
    (∀ kind other (given : Catalogue), (given.takeId other).2.Becomes final →
      (final.takeId kind).1 ≠ (given.takeId other).1) ∧
    ((∀ request ∈ requests, request.IsManaged) →
      (∀ entity ∈ final.entities, ∃ number, entity.id = Catalogue.idOf entity.kind number) ∧
      (∀ earlier later, requests = earlier ++ later →
        ∀ entity ∈ (afterRequests earlier start).catalogue.entities, ∀ kind,
          (final.takeId kind).1 ≠ entity.id) ∧
      ∀ earlier request, requests = earlier ++ [request] → ∀ id,
        (afterRequests earlier start).catalogue.find? id = none → final.find? id ≠ none →
          ∀ past rest, earlier = past ++ rest →
            (afterRequests past start).catalogue.find? id = none) := by
  intro start final
  refine ⟨?_, ?_, ?_, ?_⟩
  · intro kind
    obtain ⟨number, next, taken⟩ := final.take_id_next kind
    exact ⟨number, next, congrArg Prod.fst taken⟩
  · intro kind other earlier later split
    have became := becomes_after_requests later (afterRequests (earlier ++ [.takeId other]) start)
    rw [← after_requests_append, List.append_assoc, List.singleton_append, ← split,
      after_requests_append] at became
    exact Catalogue.Becomes.take_id_ne became kind
  · intro kind other given became
    exact became.take_id_ne kind
  · intro managed
    have grounded : start.catalogue.IsGrounded := Catalogue.grounded_empty limit
    refine ⟨?_, ?_, ?_⟩
    · intro entity stored
      obtain ⟨number, _, same⟩ :=
        (grounded_after_requests managed limit tokens).numbered entity stored
      exact ⟨number, same⟩
    · rintro earlier later split entity stored kind
      subst split
      exact take_id_unused managed grounded stored kind
    · rintro earlier request split id absent present past rest splitEarlier
      subst split
      exact never_in_use managed grounded absent present splitEarlier

/-- A word is defined and removed, an id is given out that is not used, and another word is
defined. -/
def interrupted : List Request :=
  [.line ['A', '=', 'X'], .operate (.erase ['W', 'B', '-', '0', '0', '0', '1']), .takeId .word,
    .line ['B', '=', 'Y']]

/-- The second word has the third id, and the id behind it is new. -/
theorem ids_are_fresh_interrupted :
    (∀ request ∈ interrupted, request.IsManaged) ∧
      let start : Workspace := ⟨Catalogue.empty 5, TokenSource.standard (congruential 1)⟩
      let final := (afterRequests interrupted start).catalogue
      final.entities.map Entity.id = [['W', 'B', '-', '0', '0', '0', '3']] ∧
        (final.takeId .word).1 = ['W', 'B', '-', '0', '0', '0', '4'] ∧
        (final.takeId .word).1 ≠
          ((afterRequests (interrupted.take 2) start).catalogue.takeId .word).1 ∧
        (afterRequests (interrupted.take 1) start).catalogue.find?
          ['W', 'B', '-', '0', '0', '0', '3'] = none := by
  have managed : ∀ request ∈ interrupted, request.IsManaged := by
    simp [interrupted, Request.IsManaged]
  obtain ⟨_, differs, _, ofManaged⟩ := ids_are_fresh_for_ever 5
    (TokenSource.standard (congruential 1)) interrupted
  obtain ⟨_, _, neverInUse⟩ := ofManaged managed
  refine ⟨managed, rfl, rfl, ?_, ?_⟩
  · exact differs .word .word (interrupted.take 2) (interrupted.drop 3) rfl
  · refine neverInUse (interrupted.take 3) (.line ['B', '=', 'Y']) rfl _ rfl ?_
      (interrupted.take 1) [interrupted[1], interrupted[2]] rfl
    exact fun absent => by cases absent

end PriorArt

/-!
## What expressions refer to

Lines, imports and compositions let expressions refer to words and to groups of codes, never to
expressions: an expression that is named or composed contributes its tree. Ids tell the kind for which
they were given out, so what a tree refers to never was an expression either, and never will be one.
Writing out a stored entity therefore leads into no circle, and what is written for circles does not
matter.
-/

namespace PriorArt

/-- After any managed requests on an empty catalogue, each reference of the tree of a stored expression
is to an id of a word or of a group of codes, and at no point of the course was there an expression
under this id. So no reference leads into a circle, and each means the same whatever is written for
circles. -/
theorem expressions_refer_to_no_expressions (limit : Int) (tokens : TokenSource)
    (requests : List Request) (managed : ∀ request ∈ requests, request.IsManaged) :
    let start : Workspace := ⟨Catalogue.empty limit, tokens⟩
    let final := (afterRequests requests start).catalogue
    (∀ expression root, .expression expression ∈ final.entities → expression.root = some root →
      ∀ id ∈ root.references,
        (∃ kind number, kind ≠ .expression ∧ id = Catalogue.idOf kind number) ∧
        ∀ earlier later, requests = earlier ++ later → ∀ entity,
          (afterRequests earlier start).catalogue.find? id = some entity →
            entity.kind ≠ .expression) ∧
    (∀ id, ¬ final.MeetsCircle [] id) ∧
    ∀ circle id,
      final.referencePartsOr circle final.entities.length [] id = final.meaning.reference id := by
  intro start final
  have grounded : final.IsGrounded := grounded_after_requests managed limit tokens
  have noCircle : ∀ id, ¬ final.MeetsCircle [] id := by
    apply Catalogue.no_circle_of_leaves
    intro id expression root found rooted inner listed entity innerFound
    have stored := List.mem_of_find?_eq_some found
    exact grounded.not_expression (grounded.refers expression root stored rooted inner listed)
      innerFound
  refine ⟨?_, noCircle, ?_⟩
  · intro expression root stored rooted id listed
    have issued := grounded.refers expression root stored rooted id listed
    constructor
    · rcases issued with ⟨number, _, same⟩ | ⟨number, _, same⟩
      · exact ⟨.word, number, nofun, same⟩
      · exact ⟨.classification, number, nofun, same⟩
    · rintro earlier later rfl entity found
      have groundedEarlier := grounded_after_requests
        (List.forall_mem_append.mp managed).1 limit tokens
      exact groundedEarlier.not_expression issued found
  · intro circle id
    exact Catalogue.reference_parts_or_meaning circle (noCircle id)

/-- A query is imported, its expression is composed with the word that it refers to, and then
removed. -/
def composed : List Request :=
  [.importQuery false ['X', '/', 'T', 'X'],
    .intersection [['E', 'B', '-', '0', '0', '0', '1'], ['W', 'B', '-', '0', '0', '0', '1']],
    .operate (.erase ['E', 'B', '-', '0', '0', '0', '1'])]

/-- The composition refers to the word twice, and what is written for circles does not matter to it. -/
theorem expressions_refer_to_no_expressions_composed :
    (∀ request ∈ composed, request.IsManaged) ∧
      let start : Workspace := ⟨Catalogue.empty 5, TokenSource.standard (congruential 1)⟩
      let final := (afterRequests composed start).catalogue
      final.entities.filterMap (fun entity => entity.expression?.bind (·.root)) =
          [.logical .and (.reference ['W', 'B', '-', '0', '0', '0', '1'])
            [.reference ['W', 'B', '-', '0', '0', '0', '1']]] ∧
        final.referencePartsOr (fun _ => .empty) final.entities.length []
            ['E', 'B', '-', '0', '0', '0', '2'] =
          final.meaning.reference ['E', 'B', '-', '0', '0', '0', '2'] := by
  have managed : ∀ request ∈ composed, request.IsManaged := by
    simp [composed, Request.IsManaged]
  obtain ⟨_, _, sameParts⟩ := expressions_refer_to_no_expressions 5
    (TokenSource.standard (congruential 1)) composed managed
  exact ⟨managed, rfl, sameParts _ _⟩

end PriorArt
