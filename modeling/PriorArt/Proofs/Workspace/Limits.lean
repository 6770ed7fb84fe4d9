import PriorArt.Proofs.Catalogue.Growth
import PriorArt.Proofs.Workspace.Requests

/-!
# Limits

An entity under a new id is refused where its kind is at the limit. An entity that comes in the place
of another one is never refused. Where both are of one kind, nothing is gained by this; but where the
other one is of another kind, the kind of the new one gains an entity that was never counted against
the limit. So the number of entities of a kind stays within the limit and as many further ones as there
were such replacements.

Steps that choose ids themselves replace entities by those of the same kind alone. It takes an entity
of one's own making to exceed a limit.
-/

namespace PriorArt

namespace Catalogue

/-- Erasing keeps the limit. -/
theorem erase_limit (catalogue : Catalogue) (id : Text) :
    (catalogue.erase id).limit = catalogue.limit := by
  unfold erase
  cases catalogue.find? id with
  | none => rfl
  | some entity => cases entity <;> rfl

/-- A catalogue that takes so many entities of a kind. -/
def HasLimit (limit : Int) (catalogue : Catalogue) : Prop := catalogue.limit = limit

/-- Storing an entity keeps the limit. -/
theorem HasLimit.store {limit : Int} {catalogue : Catalogue} (same : catalogue.HasLimit limit)
    (entity : Entity) : (catalogue.store entity).HasLimit limit :=
  (store_limit catalogue entity).trans same

/-- Writes keep the limit. -/
theorem has_limit_kept (limit : Int) : IsKeptByWrites (HasLimit limit) := by
  intro before after write same
  cases write with
  | erased id => exact (erase_limit before id).trans same
  | taken kind => exact same
  | new entity =>
    have taken : (before.takeId entity.kind).2.HasLimit limit := same
    exact taken.store entity
  | redefined entity => exact HasLimit.store same entity

/-- Erasing leaves no more entities of a kind. -/
theorem count_erase_le (catalogue : Catalogue) (id : Text) (kind : EntityKind) :
    (catalogue.erase id).count kind ≤ catalogue.count kind := by
  rw [count, count, ofKind, ofKind, erase_entities]
  apply List.Sublist.length_le
  exact List.filter_sublist.filter _

/-- How many entities a kind gains beyond its limit when an entity is stored: one if it comes in the
place of an entity of another kind. -/
def excess (catalogue : Catalogue) (entity : Entity) (kind : EntityKind) : Nat :=
  match catalogue.find? entity.id with
  | some previous => if entity.kind = kind ∧ previous.kind ≠ kind then 1 else 0
  | none => 0

/-- The entities of each kind are within the limit and some further room. -/
structure Fits (limit : Nat) (room : EntityKind → Nat) (catalogue : Catalogue) : Prop where
  distinct : catalogue.HasDistinctIds
  limited : catalogue.limit = limit
  bounded : ∀ kind, catalogue.count kind ≤ limit + room kind

variable {limit : Nat} {room : EntityKind → Nat} {before : Catalogue}

/-- The empty catalogue has no need of further room. -/
theorem fits_empty (limit : Nat) : (empty limit).Fits limit (fun _ => 0) where
  distinct := List.nodup_nil
  limited := rfl
  bounded _ := Nat.zero_le _

/-- There is room for one more entity of a kind that is not full. -/
theorem Fits.count_lt (fits : before.Fits limit room) {kind : EntityKind}
    (notFull : before.isFull kind = false) : before.count kind < limit := by
  rw [isFull, fits.limited, decide_eq_false_iff_not] at notFull
  omega

/-- An entity under a new id stays within the limit of its kind. -/
theorem Fits.store_fresh (fits : before.Fits limit room) {entity : Entity}
    (fresh : before.find? entity.id = none) (notFull : before.isFull entity.kind = false) :
    (before.store entity).Fits limit room := by
  have fewer := fits.count_lt notFull
  refine ⟨fits.distinct.store entity, by rw [store_limit, fits.limited], fun kind => ?_⟩
  have bounded := fits.bounded kind
  rw [count_store_fresh fresh]
  split
  · next same =>
    rw [same] at fewer
    omega
  · omega

/-- An entity in the place of another one needs room only if it is of another kind. -/
theorem Fits.store_found (fits : before.Fits limit room) {entity previous : Entity}
    (found : before.find? entity.id = some previous) :
    (before.store entity).Fits limit (fun kind => room kind + before.excess entity kind) := by
  refine ⟨fits.distinct.store entity, by rw [store_limit, fits.limited], fun kind => ?_⟩
  have bounded := fits.bounded kind
  have counted := count_store_found found kind
  simp only [excess, found]
  by_cases gained : entity.kind = kind ∧ previous.kind ≠ kind
  · rw [if_pos gained.1, if_neg gained.2] at counted
    rw [if_pos gained]
    omega
  · rw [if_neg gained]
    by_cases same : entity.kind = kind
    · have alike : previous.kind = kind := by
        by_contra different
        exact gained ⟨same, different⟩
      rw [if_pos same, if_pos alike] at counted
      omega
    · rw [if_neg same] at counted
      omega

/-- Writes never need further room. -/
theorem fits_kept (limit : Nat) (room : EntityKind → Nat) : IsKeptByWrites (Fits limit room) := by
  intro before after write fits
  cases write with
  | erased id =>
    refine ⟨fits.distinct.erase id, (erase_limit before id).trans fits.limited, fun kind => ?_⟩
    exact Nat.le_trans (count_erase_le before id kind) (fits.bounded kind)
  | taken kind => exact ⟨fits.distinct, fits.limited, fits.bounded⟩
  | new entity notFull sameId =>
    have taken : (before.takeId entity.kind).2.Fits limit room :=
      ⟨fits.distinct, fits.limited, fits.bounded⟩
    exact taken.store_fresh (Catalogue.find_next_none sameId) notFull
  | @redefined entity previous stored sameKind sameId =>
    have found := fits.distinct.find stored
    rw [sameId] at found
    have fitsAfter := fits.store_found found
    have noExcess : ∀ kind, before.excess entity kind = 0 := by
      intro kind
      simp only [excess, found, sameKind]
      rw [if_neg (fun both => both.2 both.1)]
    simpa only [noExcess, Nat.add_zero] using fitsAfter

end Catalogue

open Action

/-- Requests keep the limit. -/
theorem has_limit_after_requests (requests : List Request) {limit : Int} {start : Workspace}
    (same : start.catalogue.HasLimit limit) :
    (afterRequests requests start).catalogue.HasLimit limit := by
  induction requests generalizing start with
  | nil => exact same
  | cons request rest inductionHypothesis =>
    have kept : Preserves (Catalogue.HasLimit limit) request.step :=
      request.keeps (Catalogue.has_limit_kept limit)
        (fun entity _ _ before => put_preserves before (fun _ => before.store entity))
    exact inductionHypothesis (kept start same)

/-- How many entities a kind gains beyond its limit by a request: those that are stored in the place
of entities of another kind. Only entities of one's own making are. -/
def Request.excess (request : Request) (before : Catalogue) (kind : EntityKind) : Nat :=
  match request with
  | operate (.put entity) => before.excess entity kind
  | _ => 0

/-- How many entities a kind gains beyond its limit by requests in order. -/
def excessOf (kind : EntityKind) : List Request → Workspace → Nat
  | [], _ => 0
  | request :: rest, before =>
    request.excess before.catalogue kind + excessOf kind rest (runOn request.step before).2

variable {limit : Nat} {room : EntityKind → Nat}

/-- Storing an entity of one's own making needs room only if it comes in the place of an entity of
another kind. -/
theorem fits_put (entity : Entity) {before : Workspace} (fits : before.catalogue.Fits limit room) :
    (runOn (put entity) before).2.catalogue.Fits limit
      (fun kind => room kind + before.catalogue.excess entity kind) := by
  have refused : before.catalogue.Fits limit
      (fun kind => room kind + before.catalogue.excess entity kind) :=
    ⟨fits.distinct, fits.limited, fun kind => Nat.le_trans (fits.bounded kind) (by omega)⟩
  refine put_preserves refused (fun stored => ?_)
  cases found : before.catalogue.find? entity.id with
  | some previous => exact fits.store_found found
  | none =>
    have notFull : before.catalogue.isFull entity.kind = false := by
      by_contra full
      rw [Catalogue.put_full found ((Bool.not_eq_false _).mp full)] at stored
      cases stored
    have noExcess : ∀ kind, before.catalogue.excess entity kind = 0 := by
      intro kind
      simp only [Catalogue.excess, found]
    simpa only [noExcess, Nat.add_zero] using fits.store_fresh found notFull

/-- A request needs as much further room as it gains beyond the limits. -/
theorem Request.fits (request : Request) {before : Workspace}
    (fits : before.catalogue.Fits limit room) :
    (runOn request.step before).2.catalogue.Fits limit
      (fun kind => room kind + request.excess before.catalogue kind) := by
  by_cases isPut : ∃ entity, request = .operate (.put entity)
  · obtain ⟨entity, rfl⟩ := isPut
    exact fits_put entity fits
  · have noExcess : ∀ kind, request.excess before.catalogue kind = 0 := by
      intro kind
      unfold Request.excess
      split
      · next entity => exact absurd ⟨entity, rfl⟩ isPut
      · rfl
    simp only [noExcess, Nat.add_zero]
    refine request.keeps (Catalogue.fits_kept limit room) (fun entity same => ?_) before fits
    exact absurd ⟨entity, same⟩ isPut

/-- Requests need as much further room as they gain beyond the limits. -/
theorem fits_after_requests (requests : List Request) {start : Workspace}
    (fits : start.catalogue.Fits limit room) :
    (afterRequests requests start).catalogue.Fits limit
      (fun kind => room kind + excessOf kind requests start) := by
  induction requests generalizing start room with
  | nil => exact fits
  | cons request rest inductionHypothesis =>
    have fitsAfter := inductionHypothesis (request.fits fits)
    simp only [Nat.add_assoc] at fitsAfter
    exact fitsAfter

/-- After any requests on an empty catalogue, failing ones and entities of one's own making included,
there are no more entities of a kind than the limit and the number of times that an entity of the kind
was stored in the place of an entity of another kind. -/
theorem count_within_limit_and_excess (limit : Nat) (tokens : TokenSource)
    (requests : List Request) (kind : EntityKind) :
    (afterRequests requests ⟨Catalogue.empty limit, tokens⟩).catalogue.count kind ≤
      limit + excessOf kind requests ⟨Catalogue.empty limit, tokens⟩ := by
  have fits : (afterRequests requests ⟨Catalogue.empty limit, tokens⟩).catalogue.Fits limit
      (fun kind => 0 + excessOf kind requests ⟨Catalogue.empty limit, tokens⟩) :=
    fits_after_requests requests (Catalogue.fits_empty limit)
  have bounded := fits.bounded kind
  omega

/-- A word is stored and a group of codes, and then a group in the place of the word. -/
def replacements : List Request :=
  [.operate (.put (.word ⟨['w'], ['A'], [], [], [], []⟩)),
    .operate (.put (.classification ⟨['c'], ['B'], [], []⟩)),
    .operate (.put (.classification ⟨['w'], ['C'], [], []⟩))]

/-- Where one group is allowed, there are two if one of them comes in the place of a word. -/
theorem limit_exceeded_by_replacement :
    ¬ ∀ (limit : Nat) (tokens : TokenSource) (requests : List Request) (kind : EntityKind),
      1 ≤ limit →
        (afterRequests requests ⟨Catalogue.empty limit, tokens⟩).catalogue.count kind ≤ limit := by
  intro always
  have two : (afterRequests replacements
      ⟨Catalogue.empty (1 : Nat), TokenSource.standard (congruential 1)⟩).catalogue.count
        .classification = 2 := rfl
  have atMostOne := always 1 (TokenSource.standard (congruential 1)) replacements .classification
    (Nat.le_refl 1)
  omega

end PriorArt
