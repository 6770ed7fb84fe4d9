import Mathlib.Data.List.Forall2
import PriorArt.Proofs.Query.Distances
import PriorArt.Proofs.Query.RowOperators
import PriorArt.Proofs.Query.Written

/-!
# Logical forms in lines and in queries

A logical form means one thing in a line and another in a query. In a line a star binds more
tightly than a plus sign, and a distance more tightly than both. In a query a plus sign binds more
tightly than a star, and a distance relates everything around it up to the next brackets. So
`A+B*C` is a union in a line and an intersection in a query, and `A+B,5n,C` is a union in a line
and a nearness in a query.

A common tree has nothing that is read in two ways. No union has an intersection or a nearness of
two among its operands, and no intersection has a nearness of two among them; everything else is
enclosed by the logical form, or read alike. These are exactly the trees whose logical forms are
read back from a query.
-/

namespace PriorArt

open Brackets Expr Layout Phrase

/-- A tree of plain words that a line can write. -/
def IsPlainTree (tree : Expr) : Prop := IsBuilt (fun _ => False) tree

/-- Whether an operand is read alike in lines and in queries under a set operator. -/
def Expr.standsUnder (connective : Connective) : Expr → Bool
  | .logical .and _ _ => connective = .and
  | .proximity .. => false
  | _ => true

/-- A tree in which every operand of a set operator is read alike in lines and in queries. -/
inductive IsCommonTree : Expr → Prop where
  | word (text : Text) : IsCommonTree (.word text)
  | logical (connective : Connective) {first : Expr} {others : List Expr}
      (operands : ∀ operand ∈ first :: others, IsCommonTree operand)
      (stand : ∀ operand ∈ first :: others, operand.standsUnder connective = true) :
      IsCommonTree (.logical connective first others)
  | proximity (distance : Distance) {left right : Expr} (ofLeft : IsCommonTree left)
      (ofRight : IsCommonTree right) : IsCommonTree (.proximity distance left right)
  | simultaneous (count : Nat) {first second third : Expr} (ofFirst : IsCommonTree first)
      (ofSecond : IsCommonTree second) (ofThird : IsCommonTree third) :
      IsCommonTree (.simultaneous count first second third)

/-- The row of a tree of words. -/
def Expr.wordRow (tree : Expr) : Row := tree.row id

/-- The row of a plain tree is proper. -/
theorem IsPlainTree.proper {tree : Expr} (plainTree : IsPlainTree tree) :
    tree.wordRow.IsProper :=
  (IsBuilt.clean (fun _ none => none.elim) plainTree).proper

/-- A tree is read back from its row: the row can be read inside a group and says the tree, up to
flattening. -/
def IsReadBack (tree : Expr) : Prop :=
  tree.wordRow.fits = true ∧ tree.wordRow.said.flatten = tree.flatten

section Operands

variable {operand : Expr}

/-- An operand of nearness is a single atom, which is legible if the row of the operand can be read
inside a group, and says what that row says. -/
theorem operand_atom (plainTree : IsPlainTree operand) :
    ∃ atom, operandRow operand operand.wordRow = .last atom ∧
      atom.legible = operand.wordRow.fits ∧ atom.said = operand.wordRow.said := by
  have alone : ∀ atom : Atom, atom.legible = (Row.last atom).fits := by
    intro atom
    simp [Row.fits, Row.legible, Row.distances]
  cases plainTree with
  | word plain => exact ⟨_, rfl, alone _, rfl⟩
  | reference isNamed => exact isNamed.elim
  | logical connective operands => exact ⟨_, rfl, rfl, Atom.said_group _ _⟩
  | proximity distance ofLeft ofRight => exact ⟨_, rfl, rfl, Atom.said_group _ _⟩
  | simultaneous count ofFirst ofSecond ofThird => exact ⟨_, rfl, alone _, rfl⟩

/-- An operand of a set operator says what its row says. -/
theorem said_factorRow (connective : Connective) (operand : Expr) :
    (factorRow connective operand operand.wordRow).said = operand.wordRow.said := by
  unfold factorRow
  split
  · simp
  · rfl

/-- An operand of a set operator that keeps to the operator is legible if its row can be read
inside a group. -/
theorem legible_factorRow {connective : Connective}
    (keeps : (factorRow connective operand operand.wordRow).KeepsTo connective) :
    (factorRow connective operand operand.wordRow).legible = operand.wordRow.fits := by
  have noDistance := keeps.no_distance
  unfold factorRow at noDistance ⊢
  split at noDistance
  · next enclosed => simp [enclosed, Row.legible, Atom.legible, Row.fits]
  · next bare => simp [bare, Row.fits, noDistance]

/-- An operand whose row keeps to a set operator is read alike under it. -/
theorem stands_of_keeps (plainTree : IsPlainTree operand) {connective : Connective}
    (keeps : (factorRow connective operand operand.wordRow).KeepsTo connective) :
    operand.standsUnder connective = true := by
  cases plainTree with
  | word plain => rfl
  | reference isNamed => exact isNamed.elim
  | @logical inner first second others operands =>
    cases inner with
    | or => rfl
    | and =>
      cases connective with
      | and => rfl
      | or =>
        have star := (Row.keeps_append .or _ .star _).mp keeps
        exact absurd star.2.1 (by decide)
  | @proximity distance left right ofLeft ofRight =>
    have bare : ∀ row, factorRow connective (.proximity distance left right) row = row := by
      intro row
      cases connective <;> rfl
    rw [bare] at keeps
    have near := (Row.keeps_append connective _ (.near distance) _).mp keeps
    exact absurd near.2.1 (by simp [Separator.isWithin])
  | simultaneous count ofFirst ofSecond ofThird => rfl

end Operands

/-- The row of a tree under a set operator is the rows of its operands, joined by the sign. -/
theorem wordRow_logical (connective : Connective) (first : Expr) (others : List Expr) :
    (Expr.logical connective first others).wordRow =
      .joined connective (factorRow connective first first.wordRow)
        (others.map (fun operand => factorRow connective operand operand.wordRow)) := by
  simp [wordRow, row, rowsOfAll_eq]

/-- Several operands as rows under a set operator. -/
def operandRows (connective : Connective) (operands : List Expr) : List Row :=
  operands.map (fun operand => factorRow connective operand operand.wordRow)

/-- What several operands say as rows under a set operator. -/
theorem said_operandRows (connective : Connective) (operands : List Expr) :
    (operandRows connective operands).map Row.said =
      operands.map (fun operand => operand.wordRow.said) := by
  rw [operandRows, List.map_map]
  apply List.map_congr_left
  exact fun operand _ => said_factorRow connective operand

/-- The row of a tree under a set operator keeps to the operator if the rows of its operands do. -/
theorem keeps_logical (connective : Connective) (first : Expr) (others : List Expr) :
    (Expr.logical connective first others).wordRow.KeepsTo connective ↔
      ∀ operand ∈ first :: others,
        (factorRow connective operand operand.wordRow).KeepsTo connective := by
  rw [wordRow_logical, Row.keeps_joined, ← List.map_cons
    (f := fun operand => factorRow connective operand operand.wordRow), List.forall_mem_map]

/-- Where the row of a tree keeps to its set operator, it says what the rows of the operands say,
one after another. -/
theorem operandList_logical_said {connective : Connective} {first : Expr} {others : List Expr}
    (keeps : (Expr.logical connective first others).wordRow.KeepsTo connective) :
    operandList connective (Expr.logical connective first others).wordRow.said.flatten =
      flattenAll connective
        ((first :: others).map (fun operand => operand.wordRow.said)) := by
  have keepsEach := keeps
  rw [wordRow_logical, Row.keeps_joined] at keepsEach
  rw [wordRow_logical, operandList_joined keepsEach, ← said_operandRows connective]
  rfl

/-- Where the row of a tree keeps to its set operator, it can be read inside a group exactly if the
rows of the operands can. -/
theorem fits_logical {connective : Connective} {first : Expr} {others : List Expr}
    (keeps : (Expr.logical connective first others).wordRow.KeepsTo connective) :
    (Expr.logical connective first others).wordRow.fits = true ↔
      ∀ operand ∈ first :: others, operand.wordRow.fits = true := by
  have keepsEach := (keeps_logical connective first others).mp keeps
  rw [Row.fits, keeps.no_distance, wordRow_logical]
  simp only [Nat.zero_le, decide_true, Bool.and_true]
  rw [Row.legible_joined, ← List.map_cons
    (f := fun operand => factorRow connective operand operand.wordRow), List.forall_mem_map]
  constructor
  · intro legible operand inside
    rw [← legible_factorRow (keepsEach operand inside)]
    exact legible operand inside
  · intro fits operand inside
    rw [legible_factorRow (keepsEach operand inside)]
    exact fits operand inside

/-- A common tree that is read alike under a set operator keeps to the operator there. -/
theorem IsCommonTree.keeps {tree : Expr} (common : IsCommonTree tree) {connective : Connective}
    (stands : tree.standsUnder connective = true) :
    (factorRow connective tree tree.wordRow).KeepsTo connective := by
  induction common generalizing connective with
  | word text => cases connective <;> trivial
  | @logical inner first others operands stand inductionHypothesis =>
    have keepsInner : (Expr.logical inner first others).wordRow.KeepsTo inner :=
      (keeps_logical inner first others).mpr
        (fun operand inside => inductionHypothesis operand inside (stand operand inside))
    unfold factorRow
    split
    · trivial
    · next bare =>
      cases inner with
      | and =>
        cases connective with
        | and => exact keepsInner
        | or => exact absurd stands (by simp [standsUnder])
      | or =>
        cases connective with
        | or => exact keepsInner
        | and => exact Row.keeps_of_no_distance keepsInner.no_distance
  | proximity distance ofLeft ofRight _ _ => exact absurd stands (by simp [standsUnder])
  | simultaneous count ofFirst ofSecond ofThird _ _ _ => cases connective <;> trivial

/-- Expressions that are flattened alike one by one have the same operands. -/
theorem flattenAll_same {connective : Connective} {said : Expr → Expr} {exprs : List Expr}
    (same : ∀ expr ∈ exprs, (said expr).flatten = expr.flatten) :
    flattenAll connective (exprs.map said) = flattenAll connective exprs := by
  induction exprs with
  | nil => rfl
  | cons expr others inductionHypothesis =>
    rw [List.map_cons, flattenAll, flattenAll, same expr (by simp),
      inductionHypothesis (fun other inside => same other (by simp [inside]))]

/-- Expressions that have as many operands each as others, or more, have as many in total. -/
theorem flattenAll_least {connective : Connective} {said : Expr → Expr} {exprs : List Expr}
    (least : ∀ expr ∈ exprs, (operandList connective expr.flatten).length ≤
      (operandList connective (said expr).flatten).length) :
    (flattenAll connective exprs).length ≤ (flattenAll connective (exprs.map said)).length := by
  induction exprs with
  | nil => exact Nat.le_refl 0
  | cons expr others inductionHypothesis =>
    have first := least expr (by simp)
    have later := inductionHypothesis (fun other inside => least other (by simp [inside]))
    simp only [flattenAll, List.map_cons, List.length_append]
    omega

/-- Where the row of a tree keeps to a set operator, it says at least as many operands under it as
the tree has. -/
theorem operands_said_least {tree : Expr} (plainTree : IsPlainTree tree)
    {connective : Connective}
    (keeps : (factorRow connective tree tree.wordRow).KeepsTo connective) :
    (operandList connective tree.flatten).length ≤
      (operandList connective tree.wordRow.said.flatten).length := by
  have least : ∀ expr : Expr, 1 ≤ (operandList connective expr).length := by
    intro expr
    simp [operandList]
  induction plainTree with
  | word plain => exact least _
  | reference isNamed => exact isNamed.elim
  | @logical inner first second others operands inductionHypothesis =>
    by_cases same : inner = connective
    · obtain rfl := same
      have bare : ∀ row, factorRow inner (.logical inner first (second :: others)) row = row := by
        intro row
        cases inner <;> rfl
      rw [bare] at keeps
      have keepsEach := (keeps_logical inner first (second :: others)).mp keeps
      rw [operandList_logical_all, operandList_logical_said keeps]
      exact flattenAll_least (fun operand inside =>
        inductionHypothesis operand inside (keepsEach operand inside))
    · rw [operandList_other same]
      exact least _
  | proximity distance ofLeft ofRight _ _ => exact least _
  | simultaneous count ofFirst ofSecond ofThird _ _ _ => exact least _

/-- Lists of operands that are the same one after another are the same one by one, if none of the
one side is shorter than its fellow. -/
theorem flatten_eq_of_flattenAll {connective : Connective} {said : Expr → Expr}
    {exprs : List Expr}
    (same : flattenAll connective (exprs.map said) = flattenAll connective exprs)
    (least : ∀ expr ∈ exprs, (operandList connective expr.flatten).length ≤
      (operandList connective (said expr).flatten).length) :
    ∀ expr ∈ exprs, (said expr).flatten = expr.flatten := by
  induction exprs with
  | nil => nofun
  | cons expr others inductionHypothesis =>
    have leastOthers : ∀ other ∈ others, (operandList connective other.flatten).length ≤
        (operandList connective (said other).flatten).length :=
      fun other inside => least other (by simp [inside])
    have leastFirst := least expr (by simp)
    have leastTotal := flattenAll_least leastOthers
    have lengths := congrArg List.length same
    simp only [List.map_cons, flattenAll, List.length_append] at lengths same
    obtain ⟨sameFirst, sameOthers⟩ := List.append_inj same (by omega)
    rw [List.forall_mem_cons]
    exact ⟨flatten_eq_of_operandList connective sameFirst,
      inductionHypothesis sameOthers leastOthers⟩

/-- A nearness is read back if both operands are. -/
theorem read_back_proximity (distance : Distance) {left right : Expr}
    (plainLeft : IsPlainTree left) (plainRight : IsPlainTree right) :
    IsReadBack (.proximity distance left right) ↔ IsReadBack left ∧ IsReadBack right := by
  obtain ⟨leftAtom, leftRow, legibleLeft, saidLeft⟩ := operand_atom plainLeft
  obtain ⟨rightAtom, rightRow, legibleRight, saidRight⟩ := operand_atom plainRight
  have whole : (Expr.proximity distance left right).wordRow =
      .more leftAtom (.near distance) (.last rightAtom) := by
    have assembled : (Expr.proximity distance left right).wordRow =
        (operandRow left left.wordRow).append (.near distance)
          (operandRow right right.wordRow) := rfl
    rw [assembled, leftRow, rightRow]
    rfl
  have fits : (Expr.proximity distance left right).wordRow.fits =
      (left.wordRow.fits && right.wordRow.fits) := by
    simp [whole, Row.fits, Row.legible, Row.distances, legibleLeft, legibleRight]
  have said : (Expr.proximity distance left right).wordRow.said =
      .proximity distance left.wordRow.said right.wordRow.said := by
    rw [whole, ← saidLeft, ← saidRight]
    rfl
  rw [IsReadBack, fits, said]
  simp only [flatten, Bool.and_eq_true, Expr.proximity.injEq, true_and, IsReadBack]
  tauto

/-- A nearness of three is read back if all operands are. -/
theorem read_back_simultaneous (count : Nat) {first second third : Expr}
    (plainFirst : IsPlainTree first) (plainSecond : IsPlainTree second)
    (plainThird : IsPlainTree third) :
    IsReadBack (.simultaneous count first second third) ↔
      IsReadBack first ∧ IsReadBack second ∧ IsReadBack third := by
  obtain ⟨firstAtom, firstRow, legibleFirst, saidFirst⟩ := operand_atom plainFirst
  obtain ⟨secondAtom, secondRow, legibleSecond, saidSecond⟩ := operand_atom plainSecond
  obtain ⟨thirdAtom, thirdRow, legibleThird, saidThird⟩ := operand_atom plainThird
  have whole : (Expr.simultaneous count first second third).wordRow =
      .last (.brace (.last firstAtom) (.last secondAtom) (.last thirdAtom) count false) := by
    rw [← firstRow, ← secondRow, ← thirdRow]
    rfl
  have fits : (Expr.simultaneous count first second third).wordRow.fits =
      (first.wordRow.fits && second.wordRow.fits && third.wordRow.fits) := by
    simp [whole, Row.fits, Row.legible, Atom.legible, Row.distances, legibleFirst, legibleSecond,
      legibleThird]
  have said : (Expr.simultaneous count first second third).wordRow.said =
      .simultaneous count first.wordRow.said second.wordRow.said third.wordRow.said := by
    rw [whole, ← saidFirst, ← saidSecond, ← saidThird]
    rfl
  rw [IsReadBack, fits, said]
  simp only [flatten, Bool.and_eq_true, Expr.simultaneous.injEq, true_and, IsReadBack]
  tauto

/-- A tree under a set operator is read back if its operands are, and are read alike in lines and
in queries. -/
theorem read_back_logical (connective : Connective) {first second : Expr} {others : List Expr}
    (plainOperands : ∀ operand ∈ first :: second :: others, IsPlainTree operand)
    (readBack : IsReadBack (.logical connective first (second :: others))) :
    ∀ operand ∈ first :: second :: others,
      IsReadBack operand ∧ operand.standsUnder connective = true := by
  obtain ⟨fits, same⟩ := readBack
  -- the tree has several operands, so its row keeps to the operator
  have keeps : (Expr.logical connective first (second :: others)).wordRow.KeepsTo connective := by
    apply keeps_of_several
    rw [same]
    exact operandList_several connective first second others
  have keepsEach := (keeps_logical connective first (second :: others)).mp keeps
  have fitsEach := (fits_logical keeps).mp fits
  have sameAll : flattenAll connective
      ((first :: second :: others).map (fun operand => operand.wordRow.said)) =
        flattenAll connective (first :: second :: others) := by
    rw [← operandList_logical_said keeps, same, operandList_logical_all]
  have sameEach := flatten_eq_of_flattenAll sameAll (fun operand inside =>
    operands_said_least (plainOperands operand inside) (keepsEach operand inside))
  intro operand inside
  exact ⟨⟨fitsEach operand inside, sameEach operand inside⟩,
    stands_of_keeps (plainOperands operand inside) (keepsEach operand inside)⟩

/-- A common tree under a set operator is read back if its operands are. -/
theorem IsCommonTree.read_back {connective : Connective} {first : Expr} {others : List Expr}
    (common : ∀ operand ∈ first :: others, IsCommonTree operand)
    (stand : ∀ operand ∈ first :: others, operand.standsUnder connective = true)
    (readBack : ∀ operand ∈ first :: others, IsReadBack operand) :
    IsReadBack (.logical connective first others) := by
  have keeps : (Expr.logical connective first others).wordRow.KeepsTo connective :=
    (keeps_logical connective first others).mpr
      (fun operand inside => (common operand inside).keeps (stand operand inside))
  refine ⟨(fits_logical keeps).mpr (fun operand inside => (readBack operand inside).1), ?_⟩
  apply flatten_eq_of_operandList connective
  rw [operandList_logical_said keeps, operandList_logical_all]
  exact flattenAll_same (fun operand inside => (readBack operand inside).2)

/-- The trees that are read back from their rows are the common trees. The induction follows the
tree; the length of chains and the depth of nesting play no part. -/
theorem read_back_iff {tree : Expr} (plainTree : IsPlainTree tree) :
    IsReadBack tree ↔ IsCommonTree tree := by
  induction plainTree with
  | word plain => exact ⟨fun _ => .word _, fun _ => ⟨rfl, rfl⟩⟩
  | reference isNamed => exact isNamed.elim
  | logical connective operands inductionHypothesis =>
    constructor
    · intro readBack
      have each := read_back_logical connective operands readBack
      exact .logical connective
        (fun operand inside => (inductionHypothesis operand inside).mp (each operand inside).1)
        (fun operand inside => (each operand inside).2)
    · intro common
      cases common with
      | logical _ commonEach stand =>
        exact IsCommonTree.read_back commonEach stand
          (fun operand inside => (inductionHypothesis operand inside).mpr (commonEach operand inside))
  | proximity distance ofLeft ofRight leftHypothesis rightHypothesis =>
    rw [read_back_proximity distance ofLeft ofRight, leftHypothesis, rightHypothesis]
    constructor
    · rintro ⟨commonLeft, commonRight⟩
      exact .proximity distance commonLeft commonRight
    · intro common
      cases common with
      | proximity _ commonLeft commonRight => exact ⟨commonLeft, commonRight⟩
  | simultaneous count ofFirst ofSecond ofThird firstHypothesis secondHypothesis thirdHypothesis =>
    rw [read_back_simultaneous count ofFirst ofSecond ofThird, firstHypothesis, secondHypothesis,
      thirdHypothesis]
    constructor
    · rintro ⟨commonFirst, commonSecond, commonThird⟩
      exact .simultaneous count commonFirst commonSecond commonThird
    · intro common
      cases common with
      | simultaneous _ commonFirst commonSecond commonThird =>
        exact ⟨commonFirst, commonSecond, commonThird⟩

/-- The logical form of a tree of words, in the text field. -/
def Expr.formQuery (tree : Expr) : Text :=
  parenthesized tree.text ++ Field.text.suffix.toList

/-- The query with the logical form of a plain tree can be read exactly if no brackets of it hold
more than one distance. It has one factor then, which is an expression, and this is the tree
itself, up to flattening, exactly if the tree is common. -/
theorem logical_form_read_back {tree : Expr} (plainTree : IsPlainTree tree) :
    ((∃ factors, Query.parse tree.formQuery = .ok factors) ↔
        distancesFit [0] tree.formQuery = true) ∧
      (∀ factors, Query.parse tree.formQuery = .ok factors → ∃ said, factors = [.words said]) ∧
      ((∃ said, Query.parse tree.formQuery = .ok [.words said] ∧
        said.flatten = tree.flatten) ↔ IsCommonTree tree) := by
  have sameText : tree.wordRow.text = tree.text := text_row id tree
  have parsed : ∀ factors, Query.parse tree.formQuery = .ok factors ↔
      tree.wordRow.fits = true ∧ factors = [.words tree.wordRow.said] := by
    intro factors
    rw [formQuery, ← sameText]
    exact parse_row plainTree.proper factors
  have counted : distancesFit [0] tree.formQuery = tree.wordRow.fits := by
    have passed := Atom.distancesFit (.group tree.wordRow true) plainTree.proper 0 [] []
    have ended : distancesFit [0] [] = true := rfl
    rw [List.append_nil, Atom.text, sameText, ended, Bool.and_true] at passed
    exact passed
  refine ⟨?_, ?_, ?_⟩
  · rw [counted]
    constructor
    · rintro ⟨factors, read⟩
      exact ((parsed factors).mp read).1
    · intro fits
      exact ⟨_, (parsed _).mpr ⟨fits, rfl⟩⟩
  · intro factors read
    exact ⟨_, ((parsed factors).mp read).2⟩
  · rw [← read_back_iff plainTree]
    constructor
    · rintro ⟨said, read, same⟩
      obtain ⟨fits, one⟩ := (parsed _).mp read
      obtain rfl : said = tree.wordRow.said := by simpa using one
      exact ⟨fits, same⟩
    · rintro ⟨fits, same⟩
      exact ⟨_, (parsed _).mpr ⟨fits, rfl⟩, same⟩

/-- A union with an intersection among its operands. -/
def starInUnion : Expr :=
  .logical .or (.word ['A']) [.logical .and (.word ['B']) [.word ['C']]]

/-- A union with an intersection among its operands comes back as an intersection, so it is not
read back. -/
theorem logical_form_read_back_star :
    IsPlainTree starInUnion ∧
      Query.parse starInUnion.formQuery = .ok [.words
        (.logical .and (.logical .or (.word ['A']) [.word ['B']]) [.word ['C']])] ∧
      ¬ ∃ said, Query.parse starInUnion.formQuery = .ok [.words said] ∧
        said.flatten = starInUnion.flatten := by
  have plainTree : IsPlainTree starInUnion := by
    have ⟨plainA, plainB, plainC⟩ : IsPlain ['A'] ∧ IsPlain ['B'] ∧ IsPlain ['C'] := by decide
    refine .logical .or ?_
    simp only [List.forall_mem_cons]
    refine ⟨.word plainA, .logical .and ?_, by simp⟩
    simp only [List.forall_mem_cons]
    exact ⟨.word plainB, .word plainC, by simp⟩
  refine ⟨plainTree, by decide, ?_⟩
  rw [(logical_form_read_back plainTree).2.2]
  intro common
  cases common with
  | logical _ operands stand =>
    exact absurd (stand (.logical .and (.word ['B']) [.word ['C']]) (by simp)) (by decide)

end PriorArt
