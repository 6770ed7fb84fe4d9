import PriorArt.Proofs.Catalogue.WrittenOut

/-!
# What is met on the way

While an expression is written out, its operands are met, and so are the trees of the expressions to
which it refers, at every depth. The parts that are written depend on nothing but the words and the
references that are met: on their texts, on the definitions and the codes to which they lead, and on
the names of the references.

What holds of every leaf that is met and of what is written for it, and is kept by the operators,
holds of the expression and its parts.
-/

namespace PriorArt

/-- The operands of an operator; a leaf has none. -/
def Expr.children : Expr → List Expr
  | word _ | reference _ => []
  | logical _ first others => first :: others
  | proximity _ left right => [left, right]
  | simultaneous _ first second third => [first, second, third]

/-- The leaves of an operand are leaves of the operator. -/
theorem Expr.leaves_of_child {expr operand : Expr} (listed : operand ∈ expr.children) :
    (∀ text ∈ operand.words, text ∈ expr.words) ∧
      ∀ id ∈ operand.references, id ∈ expr.references := by
  cases expr with
  | word text => cases listed
  | reference id => cases listed
  | logical connective first others =>
    rw [words_logical, references_logical, ← List.flatMap_cons, ← List.flatMap_cons]
    exact ⟨fun text inside => List.mem_flatMap.mpr ⟨operand, listed, inside⟩,
      fun id inside => List.mem_flatMap.mpr ⟨operand, listed, inside⟩⟩
  | proximity distance left right =>
    rcases List.mem_pair.mp listed with rfl | rfl
    · exact ⟨by simp +contextual, by simp +contextual⟩
    · exact ⟨by simp +contextual, by simp +contextual⟩
  | simultaneous count first second third =>
    simp only [children, List.mem_cons, List.not_mem_nil, or_false] at listed
    rcases listed with rfl | rfl | rfl
    · exact ⟨by simp +contextual, by simp +contextual⟩
    · exact ⟨by simp +contextual, by simp +contextual⟩
    · exact ⟨by simp +contextual, by simp +contextual⟩

namespace Catalogue

/-- The expressions that are met while a tree is written out. -/
inductive Meets (catalogue : Catalogue) (tree : Expr) : Expr → Prop where
  | itself : Meets catalogue tree tree
  | operand {expr operand : Expr} (met : Meets catalogue tree expr)
      (listed : operand ∈ expr.children) : Meets catalogue tree operand
  | root {id : Text} {expression : ExpressionEntity} {root : Expr}
      (met : Meets catalogue tree (.reference id))
      (found : catalogue.find? id = some (.expression expression))
      (rooted : expression.root = some root) : Meets catalogue tree root

/-- The texts for which a tree searches in the text of documents: those of its words, with the
definitions that are found by them, and the contents of the words to which it refers. -/
inductive Searches (catalogue : Catalogue) (tree : Expr) : Text → Prop where
  | word {text : Text} (met : catalogue.Meets tree (.word text)) : Searches catalogue tree text
  | definition {text : Text} {word : WordEntity} (met : catalogue.Meets tree (.word text))
      (found : catalogue.wordOfToken? text = some word) : Searches catalogue tree word.definition
  | content {id : Text} {word : WordEntity} (met : catalogue.Meets tree (.reference id))
      (found : catalogue.find? id = some (.word word)) : Searches catalogue tree word.content

/-- The texts that are used when a tree is written out: those for which it searches, the codes of the
groups to which it refers, and the names of its references, which are tokens, labels or ids. -/
inductive Uses (catalogue : Catalogue) (tree : Expr) : Text → Prop where
  | searched {text : Text} (searches : catalogue.Searches tree text) : Uses catalogue tree text
  | code {id code : Text} {group : ClassEntity} (met : catalogue.Meets tree (.reference id))
      (found : catalogue.find? id = some (.classification group)) (listed : code ∈ group.codes) :
      Uses catalogue tree code
  | name {id : Text} (met : catalogue.Meets tree (.reference id)) :
      Uses catalogue tree (catalogue.nameOf id)

variable {catalogue : Catalogue} {tree : Expr}

/-- Among expressions with all their operands, and with the trees of the expressions to which they
refer, only those are met. -/
theorem Meets.among {exprs : List Expr} (listed : tree ∈ exprs)
    (operands : ∀ expr ∈ exprs, ∀ operand ∈ expr.children, operand ∈ exprs)
    (roots : ∀ id, .reference id ∈ exprs → ∀ expression root,
      catalogue.find? id = some (.expression expression) → expression.root = some root →
        root ∈ exprs)
    {expr : Expr} (met : catalogue.Meets tree expr) : expr ∈ exprs := by
  induction met with
  | itself => exact listed
  | operand _ ofExpr inductionHypothesis => exact operands _ inductionHypothesis _ ofExpr
  | root _ found rooted inductionHypothesis => exact roots _ inductionHypothesis _ _ found rooted

/-- What holds of every leaf that is met with its parts, and is kept by the operators. -/
structure Keeps (catalogue : Catalogue) (tree : Expr) (holds : Expr → Parts → Prop) : Prop where
  leaf : ∀ stack expr own, catalogue.Meets tree expr → catalogue.WritesAtOnce stack expr own →
    holds expr own
  opening : ∀ id expression root own, catalogue.Meets tree (.reference id) →
    catalogue.find? id = some (.expression expression) → expression.root = some root →
      holds root own → holds (.reference id) own
  intersection : ∀ first others each, catalogue.Meets tree (.logical .and first others) →
    List.Forall₂ holds (first :: others) each →
      holds (.logical .and first others) (each.foldr (· ++ ·) .empty)
  union : ∀ first others each, catalogue.Meets tree (.logical .or first others) →
    List.Forall₂ holds (first :: others) each →
      holds (.logical .or first others)
        (.unite (Expr.verbatim catalogue.nameOf (.logical .or first others)) each)
  proximity : ∀ distance left right leftParts rightParts,
    catalogue.Meets tree (.proximity distance left right) →
      holds left leftParts → holds right rightParts →
        holds (.proximity distance left right)
          (.relate (Expr.verbatim catalogue.nameOf (.proximity distance left right)) distance
            leftParts rightParts)
  simultaneous : ∀ count first second third firstParts secondParts thirdParts,
    catalogue.Meets tree (.simultaneous count first second third) →
      holds first firstParts → holds second secondParts → holds third thirdParts →
        holds (.simultaneous count first second third)
          (.gather (Expr.verbatim catalogue.nameOf (.simultaneous count first second third)) count
            firstParts secondParts thirdParts)

/-- What is kept holds of all expressions that are met with what is written for them. -/
theorem Keeps.writes {holds : Expr → Parts → Prop} (keeps : catalogue.Keeps tree holds)
    {stack after : List Text} {exprs : List Expr} {parts : List Parts} {pushes : List (List Text)}
    (writes : catalogue.WritesOut stack exprs parts pushes after)
    (met : ∀ expr ∈ exprs, catalogue.Meets tree expr) : List.Forall₂ holds exprs parts := by
  induction writes with
  | none stack => exact .nil
  | atOnce first rest ofRest =>
    obtain ⟨metFirst, metOthers⟩ := List.forall_mem_cons.mp met
    exact .cons (keeps.leaf _ _ _ metFirst first) (ofRest metOthers)
  | opening found rooted notOpen tree rest ofTree ofRest =>
    obtain ⟨metFirst, metOthers⟩ := List.forall_mem_cons.mp met
    have ofRoot := ofTree (by simpa using metFirst.root found rooted)
    rw [List.forall₂_cons] at ofRoot
    exact .cons (keeps.opening _ _ _ _ metFirst found rooted ofRoot.1) (ofRest metOthers)
  | intersection operands rest ofOperands ofRest =>
    obtain ⟨metFirst, metOthers⟩ := List.forall_mem_cons.mp met
    have each := ofOperands (fun operand listed => metFirst.operand listed)
    exact .cons (keeps.intersection _ _ _ metFirst each) (ofRest metOthers)
  | union operands rest ofOperands ofRest =>
    obtain ⟨metFirst, metOthers⟩ := List.forall_mem_cons.mp met
    have each := ofOperands (fun operand listed => metFirst.operand listed)
    exact .cons (keeps.union _ _ _ metFirst each) (ofRest metOthers)
  | proximity operands rest ofOperands ofRest =>
    obtain ⟨metFirst, metOthers⟩ := List.forall_mem_cons.mp met
    have each := ofOperands (fun operand listed => metFirst.operand listed)
    simp only [List.forall₂_cons] at each
    obtain ⟨ofLeft, ofRight, _⟩ := each
    exact .cons (keeps.proximity _ _ _ _ _ metFirst ofLeft ofRight) (ofRest metOthers)
  | simultaneous operands rest ofOperands ofRest =>
    obtain ⟨metFirst, metOthers⟩ := List.forall_mem_cons.mp met
    have each := ofOperands (fun operand listed => metFirst.operand listed)
    simp only [List.forall₂_cons] at each
    obtain ⟨ofFirst, ofSecond, ofThird, _⟩ := each
    exact .cons (keeps.simultaneous _ _ _ _ _ _ _ metFirst ofFirst ofSecond ofThird)
      (ofRest metOthers)

/-- The parts of an expression are written out from the empty stack. -/
theorem parts_written (catalogue : Catalogue) (expr : Expr) :
    ∃ pushes, catalogue.WritesOut [] [expr] [catalogue.parts expr] pushes [] := by
  obtain ⟨parts, pushes, writes⟩ := catalogue.exists_writes_out [] [expr]
  rw [writes.parts_eq (catalogue.unopened_le [])] at writes
  exact ⟨pushes, writes⟩

/-- What is kept holds of the tree and its parts. -/
theorem Keeps.parts {holds : Expr → Parts → Prop} (keeps : catalogue.Keeps tree holds) :
    holds tree (catalogue.parts tree) := by
  obtain ⟨pushes, writes⟩ := catalogue.parts_written tree
  have holdsAll := keeps.writes writes (by simpa using Meets.itself)
  exact (List.forall₂_cons.mp holdsAll).1

/-- A word with a definition in brackets, and an expression that refers to itself. -/
def nesting : Catalogue :=
  { empty 5 with
    entities :=
      [.word ⟨['w'], ['W'], ['W'], '(' :: ['A'] ++ [')'] ++ '+' :: ('{' :: ['B'] ++ ['}']), ['W'], []⟩,
        .expression ⟨['p'], ['P'], some (.logical .or (.word ['W']) [.reference ['p']]), true⟩]
    wordTokens := [(['W'], ['w'])] }

/-- The expression near the word, or the token of the word. -/
def nestingTree : Expr :=
  .logical .or (.proximity ⟨.words, 5⟩ (.reference ['p']) (.reference ['w'])) [.word ['W']]

/-- What is met when it is written out. -/
theorem met_nesting {expr : Expr} (met : nesting.Meets nestingTree expr) :
    expr ∈ [nestingTree, .proximity ⟨.words, 5⟩ (.reference ['p']) (.reference ['w']),
      .reference ['p'], .reference ['w'], .word ['W'],
      .logical .or (.word ['W']) [.reference ['p']]] := by
  refine met.among (by decide) (by decide) ?_
  intro id listed expression root found rooted
  have ids : id = ['p'] ∨ id = ['w'] := by simpa [nestingTree] using listed
  rcases ids with rfl | rfl
  · obtain rfl := Entity.expression.inj (Option.some.inj found)
    obtain rfl := Option.some.inj rooted
    decide
  · cases found

/-- The only word that is met. -/
theorem words_nesting {text : Text} (met : nesting.Meets nestingTree (.word text)) :
    text = ['W'] := by
  simpa [nestingTree] using met_nesting met

/-- The references that are met. -/
theorem references_nesting {id : Text} (met : nesting.Meets nestingTree (.reference id)) :
    id = ['p'] ∨ id = ['w'] := by
  simpa [nestingTree] using met_nesting met

end Catalogue

end PriorArt
