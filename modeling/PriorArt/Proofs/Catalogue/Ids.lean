import Mathlib.Data.List.Nodup
import Mathlib.Data.List.Perm.Subperm
import PriorArt.Proofs.Catalogue.Stored

/-!
# Ids

An id tells its kind and its number. As long as no id of a kind is in use whose number the counter
of the kind has not reached, the next id is the one behind the counter, and it is new: it differs
from every id that was given out before, whether or not that id is still in use.

So an id that is no longer in use never comes into use again, and what refers to it refers to
nothing from then on.
-/

namespace PriorArt.Catalogue

/-- Zeros in front of a numeral do not change its value. -/
theorem value_of_zeros (zeros : Nat) (digits : Text) :
    Nat.ofDigitChars 10 (List.replicate zeros '0' ++ digits) 0 = Nat.ofDigitChars 10 digits 0 := by
  induction zeros with
  | zero => rfl
  | succ zeros inductionHypothesis =>
    rw [List.replicate_succ, List.cons_append, Nat.ofDigitChars_cons]
    exact inductionHypothesis

/-- The digits of an id have the value of its number. -/
theorem value_of_padded (number : Nat) :
    Nat.ofDigitChars 10 (List.leftpad 4 '0' (decimal number)) 0 = number := by
  rw [List.leftpad, value_of_zeros]
  simp [decimal]

/-- An id has characters. -/
theorem id_of_filled (kind : EntityKind) (number : Nat) : idOf kind number ≠ [] := by
  simp [idOf]

/-- An id determines its kind and its number. -/
theorem id_of_injective {kind other : EntityKind} {number otherNumber : Nat}
    (same : idOf kind number = idOf other otherNumber) :
    kind = other ∧ number = otherNumber := by
  have lengths : kind.idLetters.toList.length = other.idLetters.toList.length := by
    cases kind <;> cases other <;> rfl
  obtain ⟨sameLetters, sameRest⟩ := List.append_inj same lengths
  refine ⟨by revert sameLetters; cases kind <;> cases other <;> decide, ?_⟩
  have sameDigits := (List.cons.inj sameRest).2
  rw [← value_of_padded number, sameDigits, value_of_padded]

/-- An id that the counter of its kind has reached. -/
def HasIssued (catalogue : Catalogue) (kind : EntityKind) (id : Text) : Prop :=
  ∃ number ≤ catalogue.counters.get kind, id = idOf kind number

/-- The counters have reached every id in use, where the id of an entity tells its kind. -/
def IsNumbered (catalogue : Catalogue) : Prop :=
  ∀ entity ∈ catalogue.entities, catalogue.HasIssued entity.kind entity.id

/-- Setting a counter sets no other. -/
theorem counters_get_set (counters : IdCounters) (kind other : EntityKind) (number : Nat) :
    (counters.set kind number).get other = if other = kind then number else counters.get other := by
  cases kind <;> cases other <;> rfl

/-- Issued ids stay issued when counters grow. -/
theorem HasIssued.mono {before after : Catalogue} {kind : EntityKind} {id : Text}
    (issued : before.HasIssued kind id)
    (grown : before.counters.get kind ≤ after.counters.get kind) : after.HasIssued kind id := by
  obtain ⟨number, reached, same⟩ := issued
  exact ⟨number, Nat.le_trans reached grown, same⟩

/-- An id of one kind is no id of another. -/
theorem HasIssued.kind_unique {catalogue other : Catalogue} {kind otherKind : EntityKind}
    {id : Text} (issued : catalogue.HasIssued kind id) (issuedOther : other.HasIssued otherKind id) :
    kind = otherKind := by
  obtain ⟨number, _, rfl⟩ := issued
  obtain ⟨otherNumber, _, same⟩ := issuedOther
  exact (id_of_injective same).1

/-- The entity with an issued id is of the kind of the id. -/
theorem IsNumbered.kind_of_find {catalogue other : Catalogue} (numbered : catalogue.IsNumbered)
    {kind : EntityKind} {id : Text} (issued : other.HasIssued kind id) {entity : Entity}
    (found : catalogue.find? id = some entity) : entity.kind = kind := by
  have issuedEntity := numbered entity (List.mem_of_find?_eq_some found)
  rw [id_of_find found] at issuedEntity
  exact issuedEntity.kind_unique issued

/-- A stored entity is found by way of an index that leads to its id. -/
theorem IsNumbered.follow {catalogue : Catalogue} (numbered : catalogue.IsNumbered) {index : Index}
    {name : Text} {entity : Entity} (led : index.lookup name = some entity.id)
    (found : catalogue.find? entity.id = some entity) :
    catalogue.follow? index name = some entity := by
  obtain ⟨number, _, sameId⟩ := numbered entity (List.mem_of_find?_eq_some found)
  have filled : entity.id ≠ [] := sameId ▸ id_of_filled _ number
  simp [follow?, led, filled, found]

/-- The id behind the counter is not in use. -/
theorem IsNumbered.next_absent {catalogue : Catalogue} (numbered : catalogue.IsNumbered)
    (kind : EntityKind) :
    catalogue.find? (idOf kind (catalogue.counters.get kind + 1)) = none := by
  rw [find_none_iff]
  intro entity stored same
  obtain ⟨number, reached, ofEntity⟩ := numbered entity stored
  rw [ofEntity] at same
  obtain ⟨rfl, rfl⟩ := id_of_injective same
  omega

/-- The next id is the one behind the counter. -/
theorem IsNumbered.take_id {catalogue : Catalogue} (numbered : catalogue.IsNumbered)
    (kind : EntityKind) :
    catalogue.takeId kind =
      (idOf kind (catalogue.counters.get kind + 1),
        { catalogue with
          counters := catalogue.counters.set kind (catalogue.counters.get kind + 1) }) := by
  have number : catalogue.freeNumber kind catalogue.entities.length (catalogue.counters.get kind) =
      catalogue.counters.get kind + 1 := by
    cases catalogue.entities.length with
    | zero => rfl
    | succ attempts =>
      rw [freeNumber, contains, numbered.next_absent kind]
      rfl
  simp only [takeId, number]

/-- What giving out the id for a label does: an entity of the kind with the label has it already,
or else it is the one behind the counter, which no entity has. -/
theorem IsNumbered.take_id_for_label {catalogue : Catalogue} (numbered : catalogue.IsNumbered)
    (label : Text) (kind : EntityKind) :
    (∃ entity, catalogue.ofLabel? label kind = some entity ∧
        catalogue.takeIdForLabel label kind = (entity.id, catalogue)) ∨
      (catalogue.ofLabel? label kind = none ∧
        catalogue.takeIdForLabel label kind =
          (idOf kind (catalogue.counters.get kind + 1),
            { catalogue with
              counters := catalogue.counters.set kind (catalogue.counters.get kind + 1) })) := by
  unfold takeIdForLabel
  cases found : catalogue.ofLabel? label kind with
  | some entity => exact .inl ⟨entity, rfl, rfl⟩
  | none => exact .inr ⟨rfl, numbered.take_id kind⟩

/-!
## Fresh ids

The next id of a kind is not in use, whatever is stored. The search for it tries one number after
the other and passes over those that are in use, as often as there are entities. Each number that
it passes over is that of another entity, so the number at which it gives up the search is free: if
it were in use as well, there would be more ids in use than entities.
-/

/-- An id is in use if something is found under it. -/
theorem contains_eq_false_iff {catalogue : Catalogue} {id : Text} :
    catalogue.contains id = false ↔ catalogue.find? id = none := by
  simp [contains]

/-- An id in use is that of an entity. -/
theorem mem_ids_of_contains {catalogue : Catalogue} {id : Text}
    (inUse : catalogue.contains id = true) : id ∈ catalogue.entities.map Entity.id := by
  obtain ⟨entity, found⟩ := Option.isSome_iff_exists.mp inUse
  exact List.mem_map.mpr ⟨entity, List.mem_of_find?_eq_some found, id_of_find found⟩

/-- The search for a free number stops at a number that is not in use, or it has passed over as
many numbers in use as it may try. -/
theorem freeNumber_cases (catalogue : Catalogue) (kind : EntityKind) (attempts last : Nat) :
    catalogue.contains (idOf kind (catalogue.freeNumber kind attempts last)) = false ∨
      catalogue.freeNumber kind attempts last = last + attempts + 1 ∧
        ∀ step < attempts, catalogue.contains (idOf kind (last + 1 + step)) = true := by
  induction attempts generalizing last with
  | zero => exact .inr ⟨rfl, nofun⟩
  | succ attempts inductionHypothesis =>
    rw [freeNumber]
    by_cases inUse : catalogue.contains (idOf kind (last + 1)) = true
    · rw [if_pos inUse]
      refine (inductionHypothesis (last + 1)).imp_right ?_
      rintro ⟨number, passed⟩
      refine ⟨by omega, fun step bound => ?_⟩
      cases step with
      | zero => exact inUse
      | succ step =>
        have next := passed step (by omega)
        rwa [show last + 1 + (step + 1) = last + 1 + 1 + step by omega]
    · rw [if_neg inUse]
      exact .inl (by simpa using inUse)

/-- The search for a free number goes up. -/
theorem lt_freeNumber (catalogue : Catalogue) (kind : EntityKind) (attempts last : Nat) :
    last < catalogue.freeNumber kind attempts last := by
  induction attempts generalizing last with
  | zero => exact Nat.lt_succ_self last
  | succ attempts inductionHypothesis =>
    rw [freeNumber]
    split
    · have further := inductionHypothesis (last + 1)
      omega
    · exact Nat.lt_succ_self last

/-- The search for a free number passes over numbers in use alone. -/
theorem passed_in_use (catalogue : Catalogue) (kind : EntityKind) {attempts last number : Nat}
    (behind : last < number) (passed : number < catalogue.freeNumber kind attempts last) :
    catalogue.contains (idOf kind number) = true := by
  induction attempts generalizing last with
  | zero =>
    rw [freeNumber] at passed
    omega
  | succ attempts inductionHypothesis =>
    rw [freeNumber] at passed
    split at passed
    · next inUse =>
      by_cases first : number = last + 1
      · rw [first]
        exact inUse
      · apply inductionHypothesis _ passed
        omega
    · omega

/-- There are no more ids of a kind in use, one behind the other, than there are entities. -/
theorem run_in_use_le {catalogue : Catalogue} {kind : EntityKind} {first length : Nat}
    (inUse : ∀ step < length, catalogue.contains (idOf kind (first + step)) = true) :
    length ≤ catalogue.entities.length := by
  have distinct : ((List.range length).map (fun step => idOf kind (first + step))).Nodup := by
    refine List.Nodup.map (fun step other same => ?_) List.nodup_range
    exact Nat.add_left_cancel (id_of_injective same).2
  have listed : (List.range length).map (fun step => idOf kind (first + step)) ⊆
      catalogue.entities.map Entity.id := by
    intro id inside
    obtain ⟨step, bound, rfl⟩ := List.mem_map.mp inside
    exact mem_ids_of_contains (inUse step (List.mem_range.mp bound))
  simpa using (distinct.subperm listed).length_le

/-- The next id is not in use. -/
theorem take_id_fresh (catalogue : Catalogue) (kind : EntityKind) :
    catalogue.find? (catalogue.takeId kind).1 = none := by
  rw [← contains_eq_false_iff]
  rcases catalogue.freeNumber_cases kind catalogue.entities.length (catalogue.counters.get kind)
    with free | ⟨number, passed⟩
  · exact free
  · rw [← Bool.not_eq_true]
    intro inUse
    have allInUse : ∀ step < catalogue.entities.length + 1,
        catalogue.contains (idOf kind (catalogue.counters.get kind + 1 + step)) = true := by
      intro step bound
      rcases Nat.lt_succ_iff_lt_or_eq.mp bound with earlier | rfl
      · exact passed step earlier
      · rwa [takeId, number, show catalogue.counters.get kind + catalogue.entities.length + 1 =
          catalogue.counters.get kind + 1 + catalogue.entities.length by omega] at inUse
    have tooMany := run_in_use_le allInUse
    omega

/-- Nothing is found under the next id, also when it has been given out. -/
theorem find_next_none {catalogue : Catalogue} {kind : EntityKind} {id : Text}
    (next : id = (catalogue.takeId kind).1) : (catalogue.takeId kind).2.find? id = none := by
  rw [next]
  exact catalogue.take_id_fresh kind

/-- The next id has characters. -/
theorem take_id_filled (catalogue : Catalogue) (kind : EntityKind) :
    (catalogue.takeId kind).1 ≠ [] := id_of_filled kind _

/-- A number is the next one of a kind: it is the least behind the counter whose id is not in use. -/
structure IsNext (catalogue : Catalogue) (kind : EntityKind) (number : Nat) : Prop where
  behind : catalogue.counters.get kind < number
  absent : catalogue.find? (idOf kind number) = none
  passed : ∀ other, catalogue.counters.get kind < other → other < number →
    catalogue.find? (idOf kind other) ≠ none

/-- Giving out an id gives that with the next number, and sets the counter to it. -/
theorem take_id_next (catalogue : Catalogue) (kind : EntityKind) :
    ∃ number, catalogue.IsNext kind number ∧
      catalogue.takeId kind =
        (idOf kind number, { catalogue with counters := catalogue.counters.set kind number }) := by
  refine ⟨_, ⟨?_, ?_, ?_⟩, rfl⟩
  · exact catalogue.lt_freeNumber kind _ _
  · exact catalogue.take_id_fresh kind
  · intro other behind passed
    have inUse := catalogue.passed_in_use kind behind passed
    rw [contains, Option.isSome_iff_ne_none] at inUse
    exact inUse

/-- Giving out an id does not lower a counter. -/
theorem take_id_counters_le (catalogue : Catalogue) (kind other : EntityKind) :
    catalogue.counters.get other ≤ (catalogue.takeId kind).2.counters.get other := by
  obtain ⟨number, next, taken⟩ := catalogue.take_id_next kind
  rw [taken, counters_get_set]
  split
  · next same =>
    rw [same]
    exact Nat.le_of_lt next.behind
  · exact Nat.le_refl _

/-- An id that is given out counts as issued. -/
theorem take_id_issued (catalogue : Catalogue) (kind : EntityKind) :
    (catalogue.takeId kind).2.HasIssued kind (catalogue.takeId kind).1 := by
  obtain ⟨number, _, taken⟩ := catalogue.take_id_next kind
  rw [taken]
  refine ⟨number, Nat.le_of_eq ?_, rfl⟩
  rw [counters_get_set, if_pos rfl]

/-- The next id was not issued before, for whatever kind. -/
theorem take_id_not_issued (catalogue : Catalogue) (kind other : EntityKind) :
    ¬ catalogue.HasIssued other (catalogue.takeId kind).1 := by
  rintro ⟨number, reached, same⟩
  obtain ⟨nextNumber, next, taken⟩ := catalogue.take_id_next kind
  rw [taken] at same
  obtain ⟨rfl, rfl⟩ := id_of_injective same
  exact absurd next.behind (Nat.not_lt_of_le reached)

end PriorArt.Catalogue
