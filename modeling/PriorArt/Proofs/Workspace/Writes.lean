import PriorArt.Proofs.Catalogue.Writes
import PriorArt.Proofs.Import.Steps

/-!
# Steps that choose ids themselves

The shared steps store entities under the next id of a kind, or in the place of one of the kind. So
they preserve whatever is kept by the four ways to write to a catalogue.
-/

namespace PriorArt.Action

variable {property : Catalogue → Prop} (kept : Catalogue.IsKeptByWrites property)
include kept

/-- Erasing an entity preserves what writes keep. -/
theorem preserves_erase (id : Text) : Preserves property (erase id) :=
  fun _ holds => kept (.erased id) holds

/-- Giving out an id preserves what writes keep. -/
theorem preserves_take_id (kind : EntityKind) : Preserves property (takeId kind) :=
  fun _ holds => kept (.taken kind) holds

/-- Where an id is given out for a label, there holds what writes keep. -/
theorem kept_at_label {before : Catalogue} (label : Text) (kind : EntityKind)
    (holds : property before) : property (before.takeIdForLabel label kind).2 := by
  unfold Catalogue.takeIdForLabel
  split
  · exact holds
  · exact kept (.taken kind) holds

/-- Giving out the id for a label preserves what writes keep. -/
theorem preserves_take_id_for_label (label : Text) (kind : EntityKind) :
    Preserves property (takeIdForLabel label kind) :=
  fun _ holds => kept_at_label kept label kind holds

/-- Storing an entity under the id for a label preserves what writes keep. -/
theorem put_at_label_preserves {before : Catalogue} {middle : Workspace} (label : Text)
    (entity : Entity) (sameId : entity.id = (before.takeIdForLabel label entity.kind).1)
    (at_label : middle.catalogue = (before.takeIdForLabel label entity.kind).2)
    (holds : property before) : property (runOn (put entity) middle).2.catalogue := by
  have holdsThere := kept_at_label kept label entity.kind holds
  rw [← at_label] at holdsThere
  refine put_preserves holdsThere (fun put => ?_)
  unfold Catalogue.takeIdForLabel at sameId at_label
  cases found : before.ofLabel? label entity.kind with
  | some previous =>
    rw [found] at sameId at_label
    obtain ⟨stored, sameKind, _⟩ := Catalogue.of_label_some found
    rw [at_label]
    exact kept (.redefined entity stored sameKind sameId.symm) holds
  | none =>
    rw [found] at sameId at_label
    rw [at_label] at put ⊢
    have room : before.isFull entity.kind = false := by
      by_contra full
      have absent := Catalogue.find_next_none sameId
      have fullThere : (before.takeId entity.kind).2.isFull entity.kind = true :=
        (Bool.not_eq_false _).mp full
      rw [Catalogue.put_full absent fullThere] at put
      cases put
    exact kept (.new entity room sameId) holds

/-- Defining a word preserves what writes keep. -/
theorem preserves_define_word (token definition : Text) :
    Preserves property (defineWord token definition) := by
  intro before holds
  unfold defineWord
  rw [run_on_bind_ok (run_on_take_id_for_label ..), run_on_bind_ok (run_on_catalogue _)]
  refine holds_behind ?_ (fun _ => preserves_pure _)
  exact put_at_label_preserves kept token (.word _) rfl rfl holds

/-- Finding the word for a key, or storing a new one, preserves what writes keep. -/
theorem preserves_word_for_key (key : Text) (variants : List Text) (label : Text) :
    Preserves property (wordForKey key variants label) := by
  intro before holds
  rcases run : runOn (wordForKey key variants label) before with ⟨outcome, after⟩
  cases word_run variants label before key run with
  | noKey empty => exact holds
  | found filled stored => exact holds
  | full filled absent full => exact holds
  | noToken tokens => exact kept (.taken .word) holds
  | @new filled absent room tokens token free tokenFilled word same =>
    exact kept (.new (.word word) room (congrArg WordEntity.id same)) holds

/-- Storing an expression under a label preserves what writes keep. -/
theorem preserves_define_expression (label : Text) (root : Expr) :
    Preserves property (defineExpression label root) := by
  intro before holds
  rcases run : runOn (defineExpression label root) before with ⟨outcome, after⟩
  cases expression_run root before run with
  | redefined labelled =>
    obtain ⟨stored, sameKind, _⟩ := Catalogue.of_label_some labelled
    exact kept (.redefined (.expression _) stored sameKind rfl) holds
  | full absent full => exact kept (.taken .expression) holds
  | new absent room => exact kept (.new (.expression _) room rfl) holds

end PriorArt.Action
