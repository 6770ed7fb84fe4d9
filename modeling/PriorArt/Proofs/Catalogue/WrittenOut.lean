import Mathlib.Data.List.Basic
import Mathlib.Data.List.Perm.Subperm
import PriorArt.Proofs.Catalogue.Agreement

/-!
# Writing out to the end

Writing out an expression opens the expressions that it refers to, whose trees may refer to any
entities again, themselves included. The ids of the expressions that are open stand on a stack: an id
is pushed before its tree is written out and popped behind it, and an id on the stack is not opened
again.

Here this is a relation in which nothing bounds the depth. Each expression that is opened leaves fewer
that are not, and within one tree the operands are smaller, so writing out comes to an end on every
catalogue, also where references lead in circles. It leaves the stack as it was, so what is written for
an operand does not depend on the operands before it.
-/

namespace PriorArt.Catalogue

/-- What is written for an expression that is no operator, while the expressions of a stack are open
and without opening another one. -/
inductive WritesAtOnce (catalogue : Catalogue) (stack : List Text) : Expr → Parts → Prop where
  | word (text : Text) : WritesAtOnce catalogue stack (.word text) (catalogue.wordParts text)
  | unknown {id : Text} (absent : catalogue.find? id = none) :
      WritesAtOnce catalogue stack (.reference id) .empty
  | ofWord {id : Text} {word : WordEntity} (found : catalogue.find? id = some (.word word)) :
      WritesAtOnce catalogue stack (.reference id) (.ofTrimmed word.content)
  | noCodes {id : Text} {group : ClassEntity}
      (found : catalogue.find? id = some (.classification group)) (bare : group.codes = []) :
      WritesAtOnce catalogue stack (.reference id) .empty
  | ofGroup {id : Text} {group : ClassEntity}
      (found : catalogue.find? id = some (.classification group)) (filled : group.codes ≠ []) :
      WritesAtOnce catalogue stack (.reference id) (.ofClass group.union)
  | noTree {id : Text} {expression : ExpressionEntity}
      (found : catalogue.find? id = some (.expression expression))
      (bare : expression.root = none) : WritesAtOnce catalogue stack (.reference id) .empty
  | circle {id : Text} {expression : ExpressionEntity} {root : Expr}
      (found : catalogue.find? id = some (.expression expression))
      (rooted : expression.root = some root) (isOpen : id ∈ stack) :
      WritesAtOnce catalogue stack (.reference id) (.ofText (catalogue.nameOf id))

/-- Writing out expressions one after the other, from a stack of open expressions: the parts of each
of them, the stacks behind the pushes on the way, in order, and the stack that is left. -/
inductive WritesOut (catalogue : Catalogue) :
    List Text → List Expr → List Parts → List (List Text) → List Text → Prop where
  | none (stack : List Text) : WritesOut catalogue stack [] [] [] stack
  | atOnce {stack after : List Text} {expr : Expr} {own : Parts} {exprs : List Expr}
      {parts : List Parts} {pushes : List (List Text)}
      (first : catalogue.WritesAtOnce stack expr own)
      (rest : WritesOut catalogue stack exprs parts pushes after) :
      WritesOut catalogue stack (expr :: exprs) (own :: parts) pushes after
  | opening {stack between after : List Text} {id popped : Text} {expression : ExpressionEntity}
      {root : Expr} {own : Parts} {exprs : List Expr} {parts : List Parts}
      {inside pushes : List (List Text)}
      (found : catalogue.find? id = some (.expression expression))
      (rooted : expression.root = some root) (notOpen : id ∉ stack)
      (tree : WritesOut catalogue (id :: stack) [root] [own] inside (popped :: between))
      (rest : WritesOut catalogue between exprs parts pushes after) :
      WritesOut catalogue stack (.reference id :: exprs) (own :: parts)
        ((id :: stack) :: inside ++ pushes) after
  | intersection {stack between after : List Text} {first : Expr} {others exprs : List Expr}
      {each parts : List Parts} {inside pushes : List (List Text)}
      (operands : WritesOut catalogue stack (first :: others) each inside between)
      (rest : WritesOut catalogue between exprs parts pushes after) :
      WritesOut catalogue stack (.logical .and first others :: exprs)
        (each.foldr (· ++ ·) .empty :: parts) (inside ++ pushes) after
  | union {stack between after : List Text} {first : Expr} {others exprs : List Expr}
      {each parts : List Parts} {inside pushes : List (List Text)}
      (operands : WritesOut catalogue stack (first :: others) each inside between)
      (rest : WritesOut catalogue between exprs parts pushes after) :
      WritesOut catalogue stack (.logical .or first others :: exprs)
        (.unite (Expr.verbatim catalogue.nameOf (.logical .or first others)) each :: parts)
        (inside ++ pushes) after
  | proximity {stack between after : List Text} {distance : Distance} {left right : Expr}
      {leftParts rightParts : Parts} {exprs : List Expr} {parts : List Parts}
      {inside pushes : List (List Text)}
      (operands : WritesOut catalogue stack [left, right] [leftParts, rightParts] inside between)
      (rest : WritesOut catalogue between exprs parts pushes after) :
      WritesOut catalogue stack (.proximity distance left right :: exprs)
        (.relate (Expr.verbatim catalogue.nameOf (.proximity distance left right)) distance
          leftParts rightParts :: parts) (inside ++ pushes) after
  | simultaneous {stack between after : List Text} {count : Nat} {first second third : Expr}
      {firstParts secondParts thirdParts : Parts} {exprs : List Expr} {parts : List Parts}
      {inside pushes : List (List Text)}
      (operands : WritesOut catalogue stack [first, second, third]
        [firstParts, secondParts, thirdParts] inside between)
      (rest : WritesOut catalogue between exprs parts pushes after) :
      WritesOut catalogue stack (.simultaneous count first second third :: exprs)
        (.gather (Expr.verbatim catalogue.nameOf (.simultaneous count first second third)) count
          firstParts secondParts thirdParts :: parts) (inside ++ pushes) after

/-- The parts of an expression while the expressions of a stack are open, with a bound on the depth
to which others are opened. -/
def partsToDepth (catalogue : Catalogue) (depth : Nat) (stack : List Text) (expr : Expr) : Parts :=
  expr.partsWith ⟨catalogue.wordParts, catalogue.referenceParts depth stack, catalogue.nameOf⟩

/-- The parts of an expression while the expressions of a stack are open. -/
def partsWithin (catalogue : Catalogue) (stack : List Text) (expr : Expr) : Parts :=
  catalogue.partsToDepth catalogue.entities.length stack expr

/-- The number of entities that are not open. -/
def unopened (catalogue : Catalogue) (stack : List Text) : Nat :=
  (catalogue.entities.filter (fun entity => !stack.contains entity.id)).length

variable {catalogue : Catalogue} {stack : List Text}

/-- No more entities are not open than there are. -/
theorem unopened_le (catalogue : Catalogue) (stack : List Text) :
    catalogue.unopened stack ≤ catalogue.entities.length := List.length_filter_le ..

/-- Opening an entity that is not open leaves fewer of them. -/
theorem unopened_push {id : Text} {entity : Entity} (found : catalogue.find? id = some entity)
    (notOpen : id ∉ stack) : catalogue.unopened (id :: stack) < catalogue.unopened stack := by
  have sublist : (catalogue.entities.filter (fun entity => !(id :: stack).contains entity.id)).Sublist
      (catalogue.entities.filter (fun entity => !stack.contains entity.id)) := by
    apply List.monotone_filter_right
    intro other
    simp +contextual
  have listed : entity ∈ catalogue.entities.filter (fun entity => !stack.contains entity.id) := by
    rw [List.mem_filter, id_of_find found]
    exact ⟨List.mem_of_find?_eq_some found, by simpa using notOpen⟩
  have unlisted :
      entity ∉ catalogue.entities.filter (fun entity => !(id :: stack).contains entity.id) := by
    simp [id_of_find found]
  apply Nat.lt_of_le_of_ne sublist.length_le
  intro same
  rw [sublist.eq_of_length same] at unlisted
  exact unlisted listed

/-- What is written at once are the parts of the expression, to any depth. -/
theorem WritesAtOnce.parts {expr : Expr} {own : Parts} (writes : catalogue.WritesAtOnce stack expr own)
    (depth : Nat) : own = catalogue.partsToDepth depth stack expr := by
  cases writes with
  | word text => rfl
  | unknown absent => simp [partsToDepth, Expr.partsWith, referenceParts, absent]
  | ofWord found => simp [partsToDepth, Expr.partsWith, referenceParts, found]
  | noCodes found bare => simp [partsToDepth, Expr.partsWith, referenceParts, found, bare]
  | ofGroup found filled => simp [partsToDepth, Expr.partsWith, referenceParts, found, filled]
  | noTree found bare => simp [partsToDepth, Expr.partsWith, referenceParts, found, bare]
  | circle found rooted isOpen =>
    cases depth with
    | zero => simp [partsToDepth, Expr.partsWith, referenceParts, found, rooted]
    | succ depth => simp [partsToDepth, Expr.partsWith, referenceParts, found, rooted, isOpen]

/-- The parts of a reference to an expression that is not open are those of its tree, with the
expression on the stack. -/
theorem parts_to_depth_opening {id : Text} {expression : ExpressionEntity} {root : Expr}
    (found : catalogue.find? id = some (.expression expression))
    (rooted : expression.root = some root) (notOpen : id ∉ stack) (depth : Nat) :
    catalogue.partsToDepth (depth + 1) stack (.reference id) =
      catalogue.partsToDepth depth (id :: stack) root := by
  simp [partsToDepth, Expr.partsWith, referenceParts, found, rooted, notOpen]

namespace WritesOut

variable {exprs : List Expr} {parts : List Parts} {pushes : List (List Text)} {after : List Text}

/-- Writing out leaves the stack from which it starts. -/
theorem leaves_stack (writes : catalogue.WritesOut stack exprs parts pushes after) :
    after = stack := by
  induction writes with
  | none stack => rfl
  | atOnce first rest inductionHypothesis => exact inductionHypothesis
  | opening found rooted notOpen tree rest ofTree ofRest =>
    rw [ofRest]
    exact (List.cons.inj ofTree).2
  | intersection operands rest ofOperands ofRest => rw [ofRest, ofOperands]
  | union operands rest ofOperands ofRest => rw [ofRest, ofOperands]
  | proximity operands rest ofOperands ofRest => rw [ofRest, ofOperands]
  | simultaneous operands rest ofOperands ofRest => rw [ofRest, ofOperands]

/-- What is written for each of several expressions are its parts, for any depth that is not less than
the number of entities that are not open. -/
theorem parts_eq (writes : catalogue.WritesOut stack exprs parts pushes after) {depth : Nat}
    (enough : catalogue.unopened stack ≤ depth) :
    parts = exprs.map (catalogue.partsToDepth depth stack) := by
  induction writes generalizing depth with
  | none stack => rfl
  | atOnce first rest inductionHypothesis =>
    rw [List.map_cons, ← inductionHypothesis enough, ← first.parts depth]
  | opening found rooted notOpen tree rest ofTree ofRest =>
    have fewer := unopened_push found notOpen
    obtain ⟨less, rfl⟩ := Nat.exists_eq_succ_of_ne_zero (show depth ≠ 0 by omega)
    have sameStack := (List.cons.inj tree.leaves_stack).2
    have own := ofTree (show _ ≤ less by omega)
    rw [sameStack] at ofRest
    rw [List.map_cons, ← ofRest enough, parts_to_depth_opening found rooted notOpen]
    rw [(List.cons.inj own).1]
  | intersection operands rest ofOperands ofRest =>
    rw [operands.leaves_stack] at ofRest
    rw [List.map_cons, ← ofRest enough, ofOperands enough, partsToDepth, Expr.partsWith,
      Expr.productParts_eq]
    rfl
  | union operands rest ofOperands ofRest =>
    rw [operands.leaves_stack] at ofRest
    rw [List.map_cons, ← ofRest enough, ofOperands enough, partsToDepth, Expr.partsWith,
      Expr.eachParts_eq]
    rfl
  | proximity operands rest ofOperands ofRest =>
    rw [operands.leaves_stack] at ofRest
    obtain ⟨sameLeft, sameRight⟩ := List.cons.inj (ofOperands enough)
    rw [List.map_cons, ← ofRest enough, partsToDepth, Expr.partsWith, sameLeft,
      (List.cons.inj sameRight).1]
    rfl
  | simultaneous operands rest ofOperands ofRest =>
    rw [operands.leaves_stack] at ofRest
    obtain ⟨sameFirst, others⟩ := List.cons.inj (ofOperands enough)
    obtain ⟨sameSecond, last⟩ := List.cons.inj others
    rw [List.map_cons, ← ofRest enough, partsToDepth, Expr.partsWith, sameFirst, sameSecond,
      (List.cons.inj last).1]
    rfl

/-- An expression and further ones are written out one after the other. -/
theorem cons {between : List Text} {expr : Expr} {own : Parts} {inside : List (List Text)}
    (first : catalogue.WritesOut stack [expr] [own] inside between)
    (rest : catalogue.WritesOut between exprs parts pushes after) :
    catalogue.WritesOut stack (expr :: exprs) (own :: parts) (inside ++ pushes) after := by
  cases first with
  | atOnce first nothing =>
    cases nothing
    exact .atOnce first rest
  | opening found rooted notOpen tree nothing =>
    cases nothing
    simpa using WritesOut.opening found rooted notOpen tree rest
  | intersection operands nothing =>
    cases nothing
    simpa using WritesOut.intersection operands rest
  | union operands nothing =>
    cases nothing
    simpa using WritesOut.union operands rest
  | proximity operands nothing =>
    cases nothing
    simpa using WritesOut.proximity operands rest
  | simultaneous operands nothing =>
    cases nothing
    simpa using WritesOut.simultaneous operands rest

end WritesOut

/-- The trees of all expressions that may be opened on a stack are written out. -/
def OpensAll (catalogue : Catalogue) (stack : List Text) : Prop :=
  ∀ id expression root, catalogue.find? id = some (.expression expression) →
    expression.root = some root → id ∉ stack →
      ∃ own inside, catalogue.WritesOut (id :: stack) [root] [own] inside (id :: stack)

/-- A reference is written out if the trees are that may be opened. -/
theorem exists_reference_written (opens : catalogue.OpensAll stack) (id : Text) :
    ∃ own pushes, catalogue.WritesOut stack [.reference id] [own] pushes stack := by
  have atOnce : ∀ {own}, catalogue.WritesAtOnce stack (.reference id) own →
      ∃ own pushes, catalogue.WritesOut stack [.reference id] [own] pushes stack :=
    fun writes => ⟨_, _, .atOnce writes (.none stack)⟩
  cases found : catalogue.find? id with
  | none => exact atOnce (.unknown found)
  | some entity =>
    cases entity with
    | word word => exact atOnce (.ofWord found)
    | classification group =>
      by_cases bare : group.codes = []
      · exact atOnce (.noCodes found bare)
      · exact atOnce (.ofGroup found bare)
    | expression expression =>
      cases rooted : expression.root with
      | none => exact atOnce (.noTree found rooted)
      | some root =>
        by_cases isOpen : id ∈ stack
        · exact atOnce (.circle found rooted isOpen)
        · obtain ⟨own, inside, tree⟩ := opens id expression root found rooted isOpen
          exact ⟨own, _, .opening found rooted isOpen tree (.none stack)⟩

mutual

/-- An expression is written out if the trees are that may be opened. -/
theorem exists_written (opens : catalogue.OpensAll stack) (expr : Expr) :
    ∃ own pushes, catalogue.WritesOut stack [expr] [own] pushes stack := by
  cases expr with
  | word text => exact ⟨_, _, .atOnce (.word text) (.none stack)⟩
  | reference id => exact exists_reference_written opens id
  | logical connective first others =>
    obtain ⟨own, inside, ofFirst⟩ := exists_written opens first
    obtain ⟨parts, pushes, ofOthers⟩ := exists_all_written opens others
    cases connective with
    | and => exact ⟨_, _, .intersection (ofFirst.cons ofOthers) (.none stack)⟩
    | or => exact ⟨_, _, .union (ofFirst.cons ofOthers) (.none stack)⟩
  | proximity distance left right =>
    obtain ⟨leftParts, _, ofLeft⟩ := exists_written opens left
    obtain ⟨rightParts, _, ofRight⟩ := exists_written opens right
    exact ⟨_, _, .proximity (ofLeft.cons ofRight) (.none stack)⟩
  | simultaneous count first second third =>
    obtain ⟨firstParts, _, ofFirst⟩ := exists_written opens first
    obtain ⟨secondParts, _, ofSecond⟩ := exists_written opens second
    obtain ⟨thirdParts, _, ofThird⟩ := exists_written opens third
    exact ⟨_, _, .simultaneous (ofFirst.cons (ofSecond.cons ofThird)) (.none stack)⟩

/-- Several expressions are written out if the trees are that may be opened. -/
theorem exists_all_written (opens : catalogue.OpensAll stack) (exprs : List Expr) :
    ∃ parts pushes, catalogue.WritesOut stack exprs parts pushes stack := by
  cases exprs with
  | nil => exact ⟨[], [], .none stack⟩
  | cons expr others =>
    obtain ⟨own, inside, ofFirst⟩ := exists_written opens expr
    obtain ⟨parts, pushes, ofOthers⟩ := exists_all_written opens others
    exact ⟨_, _, ofFirst.cons ofOthers⟩

end

/-- Any expressions are written out from any stack. -/
theorem exists_writes_out (catalogue : Catalogue) (stack : List Text) (exprs : List Expr) :
    ∃ parts pushes, catalogue.WritesOut stack exprs parts pushes stack := by
  -- On the number of entities that are not open; the trees are followed inside.
  induction left : catalogue.unopened stack using Nat.strongRecOn generalizing stack exprs with
  | ind number inductionHypothesis =>
    apply exists_all_written
    intro id expression root found rooted notOpen
    have fewer := unopened_push found notOpen
    rw [left] at fewer
    obtain ⟨parts, inside, tree⟩ := inductionHypothesis _ fewer (id :: stack) [root] rfl
    rw [tree.parts_eq (Nat.le_refl _)] at tree
    exact ⟨_, inside, tree⟩

/-- A stack of open expressions on top of another one: no id stands on it twice, and those on top are
ids of expressions. -/
structure IsStackedOn (catalogue : Catalogue) (stack opened : List Text) : Prop where
  distinct : opened.Nodup
  top : ∃ ids, opened = ids ++ stack ∧
    ∀ id ∈ ids, ∃ expression, catalogue.find? id = some (.expression expression)

/-- What is on top of one more expression is on top of what is below. -/
theorem IsStackedOn.below {opened : List Text} {id : Text} {expression : ExpressionEntity}
    (stacked : catalogue.IsStackedOn (id :: stack) opened)
    (found : catalogue.find? id = some (.expression expression)) :
    catalogue.IsStackedOn stack opened := by
  obtain ⟨distinct, ids, rfl, expressions⟩ := stacked
  refine ⟨distinct, ids ++ [id], by simp, ?_⟩
  intro other listed
  rcases List.mem_append.mp listed with above | last
  · exact expressions other above
  · rw [List.mem_singleton.mp last]
    exact ⟨expression, found⟩

/-- No more expressions are open on top of a stack than there are. -/
theorem IsStackedOn.length_le {opened : List Text} (stacked : catalogue.IsStackedOn stack opened) :
    opened.length ≤ catalogue.count .expression + stack.length := by
  obtain ⟨distinct, ids, rfl, expressions⟩ := stacked
  have listed : ids ⊆ (catalogue.ofKind .expression).map Entity.id := by
    intro id inside
    obtain ⟨expression, found⟩ := expressions id inside
    refine List.mem_map.mpr ⟨.expression expression, ?_, id_of_find found⟩
    exact List.mem_filter.mpr ⟨List.mem_of_find?_eq_some found, decide_eq_true rfl⟩
  have counted := ((List.nodup_append.mp distinct).1.subperm listed).length_le
  rw [List.length_map] at counted
  rw [List.length_append]
  exact Nat.add_le_add_right counted _

/-- Every push makes a stack on which no id stands twice. -/
theorem WritesOut.stacked {exprs : List Expr} {parts : List Parts} {pushes : List (List Text)}
    {after : List Text} (writes : catalogue.WritesOut stack exprs parts pushes after)
    (distinct : stack.Nodup) : ∀ opened ∈ pushes, catalogue.IsStackedOn stack opened := by
  induction writes with
  | none stack => simp
  | atOnce first rest inductionHypothesis => exact inductionHypothesis distinct
  | @opening stack between after id popped expression root own exprs parts inside pushes found
      rooted notOpen tree rest ofTree ofRest =>
    have distinctAbove : (id :: stack).Nodup := List.nodup_cons.mpr ⟨notOpen, distinct⟩
    have sameStack := (List.cons.inj tree.leaves_stack).2
    rw [sameStack] at ofRest
    rw [List.cons_append, List.forall_mem_cons, List.forall_mem_append]
    refine ⟨⟨distinctAbove, [id], rfl, by simp [found]⟩, ?_, ofRest distinct⟩
    intro opened listed
    exact (ofTree distinctAbove opened listed).below found
  | intersection operands rest ofOperands ofRest =>
    rw [operands.leaves_stack] at ofRest
    exact List.forall_mem_append.mpr ⟨ofOperands distinct, ofRest distinct⟩
  | union operands rest ofOperands ofRest =>
    rw [operands.leaves_stack] at ofRest
    exact List.forall_mem_append.mpr ⟨ofOperands distinct, ofRest distinct⟩
  | proximity operands rest ofOperands ofRest =>
    rw [operands.leaves_stack] at ofRest
    exact List.forall_mem_append.mpr ⟨ofOperands distinct, ofRest distinct⟩
  | simultaneous operands rest ofOperands ofRest =>
    rw [operands.leaves_stack] at ofRest
    exact List.forall_mem_append.mpr ⟨ofOperands distinct, ofRest distinct⟩

/-- On any catalogue, whatever the trees of its expressions refer to, writing out an expression comes
to an end with its parts. So does writing out operands one after the other from any stack of open
expressions. Whichever way they are written out, the stack is left as it was, each operand has the
parts that it has by itself, and no id is on the stack twice at any time, so that no more expressions
are opened one inside the other than there are. -/
theorem writing_out_ends (catalogue : Catalogue) :
    (∀ expr, ∃ pushes, catalogue.WritesOut [] [expr] [catalogue.parts expr] pushes []) ∧
    ∀ stack exprs,
      (∃ parts pushes, catalogue.WritesOut stack exprs parts pushes stack) ∧
      ∀ parts pushes after, catalogue.WritesOut stack exprs parts pushes after →
        after = stack ∧ parts = exprs.map (catalogue.partsWithin stack) ∧
        (stack.Nodup → ∀ opened ∈ pushes, catalogue.IsStackedOn stack opened ∧
          opened.length ≤ catalogue.count .expression + stack.length) := by
  have unique : ∀ {stack exprs parts pushes after},
      catalogue.WritesOut stack exprs parts pushes after →
        parts = exprs.map (catalogue.partsWithin stack) :=
    fun writes => writes.parts_eq (catalogue.unopened_le _)
  constructor
  · intro expr
    obtain ⟨parts, pushes, writes⟩ := catalogue.exists_writes_out [] [expr]
    rw [unique writes] at writes
    exact ⟨pushes, writes⟩
  · intro stack exprs
    refine ⟨catalogue.exists_writes_out stack exprs, ?_⟩
    intro parts pushes after writes
    refine ⟨writes.leaves_stack, unique writes, ?_⟩
    intro distinct opened listed
    have stacked := writes.stacked distinct opened listed
    exact ⟨stacked, stacked.length_le⟩

/-- Two expressions that refer to each other, and the second one to itself as well. -/
def looping : Catalogue :=
  { empty 5 with
    entities :=
      [.expression ⟨['p'], ['P'], some (.logical .and (.word ['A']) [.reference ['q']]), true⟩,
        .expression ⟨['q'], ['Q'],
          some (.logical .or (.reference ['p']) [.reference ['q']]), true⟩] }

/-- Writing out the first one opens the second one once, and what leads back is written by name. -/
theorem writing_out_ends_looping :
    looping.parts (.reference ['p']) =
        ⟨[.plain ['A'], .plain ['(', 'P', ')', '+', '(', 'Q', ')']], []⟩ ∧
      ([] : List Text).Nodup ∧
      ∃ pushes, looping.WritesOut [] [.reference ['p']] [looping.parts (.reference ['p'])] pushes [] ∧
        ∀ opened ∈ pushes, opened.Nodup ∧ opened.length ≤ 2 := by
  obtain ⟨ends, unique⟩ := writing_out_ends looping
  obtain ⟨pushes, writes⟩ := ends (.reference ['p'])
  refine ⟨by decide +kernel, List.nodup_nil, pushes, writes, ?_⟩
  intro opened listed
  obtain ⟨_, _, whenDistinct⟩ := (unique [] [.reference ['p']]).2 _ _ _ writes
  obtain ⟨stacked, bounded⟩ := whenDistinct List.nodup_nil opened listed
  exact ⟨stacked.distinct, bounded⟩

end PriorArt.Catalogue
