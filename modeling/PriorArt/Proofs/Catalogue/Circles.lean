import Mathlib.Data.List.Perm.Subperm
import PriorArt.Proofs.Catalogue.Agreement

/-!
# References in circles

Writing out a reference to an expression writes out the references of its tree. One that leads back to
an expression on the way is written by name, so that this comes to an end. Here the name is a
parameter: where no reference on the way leads back, what would be written for it does not matter, and
the bound on the depth does not matter either, since every expression on the way is another entity.
-/

namespace PriorArt.Catalogue

/-- Writing out a reference while the expressions of a list are being written out leads to a reference
that is to an expression of the list, or of those that are opened on the way. -/
inductive MeetsCircle (catalogue : Catalogue) : List Text → Text → Prop where
  | here {expanding : List Text} {id : Text} {expression : ExpressionEntity} {root : Expr}
      (found : catalogue.find? id = some (.expression expression))
      (rooted : expression.root = some root) (isOpen : id ∈ expanding) :
      MeetsCircle catalogue expanding id
  | inside {expanding : List Text} {id inner : Text} {expression : ExpressionEntity} {root : Expr}
      (found : catalogue.find? id = some (.expression expression))
      (rooted : expression.root = some root) (notOpen : id ∉ expanding)
      (listed : inner ∈ root.references) (meets : MeetsCircle catalogue (id :: expanding) inner) :
      MeetsCircle catalogue expanding id

/-- The meaning of a reference while the expressions of a list are being written out, where `circle`
gives what is written for a reference to one of them. -/
def referencePartsOr (circle : Text → Parts) (catalogue : Catalogue) :
    Nat → List Text → Text → Parts
  | depth, expanding, id =>
    match catalogue.find? id with
    | none => .empty
    | some (.word entity) => .ofTrimmed entity.content
    | some (.classification group) =>
      if group.codes.isEmpty then .empty else .ofClass group.union
    | some (.expression entity) =>
      match entity.root, depth with
      | none, _ => .empty
      | some _, 0 => circle id
      | some root, depth + 1 =>
        if expanding.contains id then circle id
        else root.partsWith
          ⟨catalogue.wordParts, referencePartsOr circle catalogue depth (id :: expanding),
            catalogue.nameOf⟩

variable {catalogue : Catalogue}

/-- Where a circle is written by name, references mean what they mean. -/
theorem reference_parts_or_name (catalogue : Catalogue) (depth : Nat) (expanding : List Text)
    (id : Text) :
    catalogue.referencePartsOr (fun id => .ofText (catalogue.nameOf id)) depth expanding id =
      catalogue.referenceParts depth expanding id := by
  induction depth generalizing expanding id with
  | zero =>
    unfold referencePartsOr referenceParts
    rcases catalogue.find? id with _ | word | group | expression
    · rfl
    · rfl
    · rfl
    · dsimp only
      cases expression.root <;> rfl
  | succ depth inductionHypothesis =>
    have deeper : catalogue.referencePartsOr (fun id => .ofText (catalogue.nameOf id)) depth
        (id :: expanding) = catalogue.referenceParts depth (id :: expanding) :=
      funext (inductionHypothesis (id :: expanding))
    unfold referencePartsOr referenceParts
    rcases catalogue.find? id with _ | word | group | expression
    · rfl
    · rfl
    · rfl
    · dsimp only
      cases expression.root with
      | none => rfl
      | some root =>
        dsimp only
        rw [deeper]

/-- A reference to an expression that is not being written out is written out as its tree. -/
theorem reference_parts_or_open (circle : Text → Parts) {expanding : List Text} {id : Text}
    {expression : ExpressionEntity} (found : catalogue.find? id = some (.expression expression))
    {root : Expr} (rooted : expression.root = some root) (notOpen : id ∉ expanding)
    (depth : Nat) :
    catalogue.referencePartsOr circle (depth + 1) expanding id =
      root.partsWith ⟨catalogue.wordParts,
        catalogue.referencePartsOr circle depth (id :: expanding), catalogue.nameOf⟩ := by
  rw [referencePartsOr, found]
  dsimp only
  rw [rooted]
  exact if_neg (by simpa using notOpen)

/-- A reference to anything but the tree of an expression cannot lead into a circle. -/
theorem reference_parts_or_leaf (circle other : Text → Parts) {id : Text}
    (leaf : ∀ expression, catalogue.find? id = some (.expression expression) →
      expression.root = none) (depth : Nat) (expanding : List Text) :
    catalogue.referencePartsOr circle depth expanding id =
      catalogue.referencePartsOr other depth expanding id := by
  unfold referencePartsOr
  split
  · rfl
  · rfl
  · rfl
  · next expression found =>
    rw [leaf expression found]

/-- The expressions that are being written out are other entities than one that is none of them, so
there are fewer of them than entities. -/
theorem length_lt_of_not_open {expanding : List Text} {id : Text} (distinct : expanding.Nodup)
    (inUse : ∀ other ∈ expanding, catalogue.find? other ≠ none)
    (notOpen : id ∉ expanding) (found : catalogue.find? id ≠ none) :
    expanding.length < catalogue.entities.length := by
  have listed : id :: expanding ⊆ catalogue.entities.map Entity.id := by
    intro other inside
    have otherInUse : catalogue.find? other ≠ none := by
      rcases List.mem_cons.mp inside with rfl | later
      · exact found
      · exact inUse other later
    obtain ⟨entity, isFound⟩ := Option.ne_none_iff_exists'.mp otherInUse
    exact List.mem_map.mpr ⟨entity, List.mem_of_find?_eq_some isFound, id_of_find isFound⟩
  have distinctAll : (id :: expanding).Nodup := List.nodup_cons.mpr ⟨notOpen, distinct⟩
  have counted := (distinctAll.subperm listed).length_le
  rw [List.length_cons, List.length_map] at counted
  exact counted

/-- Where writing out a reference meets no circle, it does not matter what is written for circles. -/
theorem reference_parts_or_eq (circle other : Text → Parts) {depth : Nat} {expanding : List Text}
    {id : Text} (distinct : expanding.Nodup)
    (inUse : ∀ other ∈ expanding, catalogue.find? other ≠ none)
    (enough : catalogue.entities.length ≤ expanding.length + depth)
    (noCircle : ¬ catalogue.MeetsCircle expanding id) :
    catalogue.referencePartsOr circle depth expanding id =
      catalogue.referencePartsOr other depth expanding id := by
  induction depth generalizing expanding id with
  | zero =>
    -- An expression that is opened here would be one more than there are entities.
    apply reference_parts_or_leaf
    intro expression found
    cases rooted : expression.root with
    | none => rfl
    | some root =>
      have notOpen : id ∉ expanding := fun isOpen => noCircle (.here found rooted isOpen)
      have fewer := length_lt_of_not_open distinct inUse notOpen (by simp [found])
      omega
  | succ depth inductionHypothesis =>
    by_cases opened : ∃ expression root, catalogue.find? id = some (.expression expression) ∧
        expression.root = some root
    · obtain ⟨expression, root, found, rooted⟩ := opened
      have notOpen : id ∉ expanding := fun isOpen => noCircle (.here found rooted isOpen)
      rw [reference_parts_or_open circle found rooted notOpen,
        reference_parts_or_open other found rooted notOpen]
      apply Expr.partsWith_congr
      refine ⟨fun _ _ => rfl, fun inner listed => ?_, fun _ _ => rfl⟩
      have innerListed : inner ∈ root.references := by simpa using listed
      apply inductionHypothesis
      · exact List.nodup_cons.mpr ⟨notOpen, distinct⟩
      · refine List.forall_mem_cons.mpr ⟨?_, inUse⟩
        simp [found]
      · rw [List.length_cons]
        omega
      · intro meets
        exact noCircle (.inside found rooted notOpen innerListed meets)
    · apply reference_parts_or_leaf
      intro expression found
      cases rooted : expression.root with
      | none => rfl
      | some root => exact absurd ⟨expression, root, found, rooted⟩ opened

/-- Where the trees of expressions refer to no expressions, no reference leads into a circle. -/
theorem no_circle_of_leaves
    (leaves : ∀ id expression root, catalogue.find? id = some (.expression expression) →
      expression.root = some root → ∀ inner ∈ root.references, ∀ entity,
        catalogue.find? inner = some entity → entity.kind ≠ .expression) (id : Text) :
    ¬ catalogue.MeetsCircle [] id := by
  intro meets
  cases meets with
  | here found rooted isOpen => cases isOpen
  | inside found rooted notOpen listed meets =>
    have innerLeaf := leaves id _ _ found rooted _ listed
    cases meets with
    | here innerFound => exact innerLeaf _ innerFound rfl
    | inside innerFound => exact innerLeaf _ innerFound rfl

/-- Where a reference leads into no circle, it means the same whatever is written for circles. -/
theorem reference_parts_or_meaning (circle : Text → Parts) {id : Text}
    (noCircle : ¬ catalogue.MeetsCircle [] id) :
    catalogue.referencePartsOr circle catalogue.entities.length [] id =
      catalogue.meaning.reference id := by
  rw [meaning]
  dsimp only
  rw [← reference_parts_or_name]
  exact reference_parts_or_eq circle _ List.nodup_nil (by simp) (by simp) noCircle

end PriorArt.Catalogue
