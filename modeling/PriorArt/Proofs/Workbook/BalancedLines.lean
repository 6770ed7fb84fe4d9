import PriorArt.Proofs.Catalogue.Tokens
import PriorArt.Proofs.Expr.Leaves
import PriorArt.Proofs.Query.BalancedParts
import PriorArt.Proofs.Query.GroupSearch
import PriorArt.Proofs.Statement.Parsed
import PriorArt.Proofs.Workbook.Numbering

/-!
# Workbooks of balanced identifiers

An identifier has no round and no curly brackets, but it may have square ones. If the square brackets of
every identifier of a workbook are balanced, then so are all the texts that are used when its
expressions are written out: definitions are logical forms of words, codes are words, and a group to
which an expression refers was named by a word when the expression was defined. The tokens that are
drawn for groups do not matter, unless a line uses one of them.
-/

namespace PriorArt

open Brackets

/-- A balanced text with characters. -/
def Brackets.IsBalancedName (text : Text) : Prop := text ≠ [] ∧ Balanced text

namespace Catalogue

/-- An id is balanced. -/
theorem balanced_id (kind : EntityKind) (number : Nat) : Balanced (idOf kind number) := by
  have letters : Balanced kind.idLetters.toList := by
    apply balanced_of_ordinary
    cases kind <;> decide
  have zeros : Balanced (List.leftpad 4 '0' (decimal number)) := by
    refine Balanced.append (balanced_of_ordinary (List.any_eq_false.mpr ?_))
      (decimal_balanced number)
    intro character inside
    rw [List.eq_of_mem_replicate inside]
    decide
  exact letters.around (by decide) zeros

/-- The words of an expression are balanced, and it refers to groups with balanced tokens. -/
structure HasBalancedLeaves (catalogue : Catalogue) (expr : Expr) : Prop where
  words : ∀ text ∈ expr.words, Balanced text
  references : ∀ id ∈ expr.references, catalogue.IsGroupWith IsBalancedName id

/-- The contents of a catalogue are made of balanced texts. -/
structure HasBalancedContents (catalogue : Catalogue) : Prop where
  numbered : catalogue.IsNumbered
  lead : catalogue.TokensLead
  words : ∀ word, .word word ∈ catalogue.entities →
    Balanced word.token ∧ Balanced word.definition
  codes : ∀ group, .classification group ∈ catalogue.entities → ∀ code ∈ group.codes, Balanced code
  roots : ∀ expression root, .expression expression ∈ catalogue.entities →
    expression.root = some root → catalogue.HasBalancedLeaves root

/-- A tree whose words are balanced, and whose references have balanced names. -/
def IsBalancedTree (catalogue : Catalogue) (expr : Expr) : Prop :=
  (∀ text ∈ expr.words, Balanced text) ∧ ∀ id ∈ expr.references, Balanced (catalogue.nameOf id)

variable {catalogue : Catalogue} {tree : Expr}

/-- The name of a group with a balanced token is the token, or the id when the group is gone. -/
theorem IsGroupWith.balanced_name (numbered : catalogue.IsNumbered) {id : Text}
    (isGroup : catalogue.IsGroupWith IsBalancedName id) : Balanced (catalogue.nameOf id) := by
  unfold nameOf
  cases found : catalogue.find? id with
  | none =>
    obtain ⟨number, _, rfl⟩ := isGroup.issued
    exact balanced_id .classification number
  | some entity =>
    have kind := numbered.kind_of_find isGroup.issued found
    cases entity with
    | word entity => cases kind
    | expression entity => cases kind
    | classification group =>
      obtain ⟨filled, balanced⟩ := isGroup.token group found
      simpa [Entity.displayName, Entity.token, filled] using balanced

/-- A tree with balanced leaves is balanced. -/
theorem HasBalancedLeaves.balanced_tree (leaves : catalogue.HasBalancedLeaves tree)
    (numbered : catalogue.IsNumbered) : catalogue.IsBalancedTree tree :=
  ⟨leaves.words, fun id inside => (leaves.references id inside).balanced_name numbered⟩

namespace HasBalancedContents

/-- Everything that is met while a balanced tree is written out is balanced. -/
theorem met (contents : catalogue.HasBalancedContents) (balanced : catalogue.IsBalancedTree tree)
    {expr : Expr} (met : catalogue.Meets tree expr) : catalogue.IsBalancedTree expr := by
  induction met with
  | itself => exact balanced
  | @operand expr operand _ listed inductionHypothesis =>
    obtain ⟨words, references⟩ := inductionHypothesis
    have inside := Expr.leaves_of_child listed
    exact ⟨fun text listed => words text (inside.1 text listed),
      fun id listed => references id (inside.2 id listed)⟩
  | root _ found rooted _ =>
    exact (contents.roots _ _ (List.mem_of_find?_eq_some found) rooted).balanced_tree contents.numbered

/-- Every text that is used when a balanced tree is written out is balanced. -/
theorem used (contents : catalogue.HasBalancedContents) (balanced : catalogue.IsBalancedTree tree)
    {text : Text} (uses : catalogue.Uses tree text) : Balanced text := by
  cases uses with
  | searched searches =>
    cases searches with
    | word met => exact (contents.met balanced met).1 text (by simp)
    | definition _ found =>
      obtain ⟨entity, followed, isWord⟩ := Option.bind_eq_some_iff.mp found
      cases entity with
      | word word =>
        rw [← Option.some.inj isWord]
        exact (contents.words word (mem_of_follow followed)).2
      | classification group => cases isWord
      | expression expression => cases isWord
    | content _ found =>
      obtain ⟨ofToken, ofDefinition⟩ := contents.words _ (List.mem_of_find?_eq_some found)
      apply Balanced.trim
      split
      · exact ofToken
      · exact ofDefinition
  | code _ found listed => exact contents.codes _ (List.mem_of_find?_eq_some found) _ listed
  | name met => exact (contents.met balanced met).2 _ (by simp)

/-- The parts of a balanced tree are balanced. -/
theorem parts (contents : catalogue.HasBalancedContents) (balanced : catalogue.IsBalancedTree tree) :
    (catalogue.parts tree).IsBalanced :=
  parts_balanced (fun _ => contents.used balanced)

/-- The logical form of a balanced tree is balanced. -/
theorem form (contents : catalogue.HasBalancedContents) (balanced : catalogue.IsBalancedTree tree) :
    Balanced (tree.logicalForm catalogue.nameOf) :=
  (keeps_balanced (fun _ => contents.used balanced)).parts.1

/-- A balanced word resolves to an expression with balanced leaves. -/
theorem linkWord (contents : catalogue.HasBalancedContents) {text : Text}
    (name : IsBalancedName text) : catalogue.HasBalancedLeaves (catalogue.linkWord text) := by
  unfold Catalogue.linkWord
  split
  · next group found =>
    obtain ⟨stored, rfl⟩ := contents.lead.classOfToken found
    refine ⟨by simp, ?_⟩
    intro id inside
    obtain rfl : id = group.id := by simpa using inside
    refine ⟨contents.numbered _ (List.mem_of_find?_eq_some stored), ?_⟩
    intro other foundOther
    obtain rfl := Entity.classification.inj (Option.some.inj (stored.symm.trans foundOther))
    exact name
  · split
    · next root rooted =>
      obtain ⟨entity, stored, ofEntity⟩ := root_of_label rooted
      exact contents.roots entity root stored ofEntity
    · exact ⟨by simpa using name.2, by simp⟩

/-- An expression of balanced words resolves to one with balanced leaves. -/
theorem link (contents : catalogue.HasBalancedContents) {expr : Expr}
    (noReference : expr.references = []) (names : ∀ text ∈ expr.words, IsBalancedName text) :
    catalogue.HasBalancedLeaves (catalogue.link expr) where
  words := by
    intro text inside
    rw [Catalogue.link, Expr.words_replaceWords _ noReference] at inside
    obtain ⟨word, listed, ofWord⟩ := List.mem_flatMap.mp inside
    exact (contents.linkWord (names word listed)).words text ofWord
  references := by
    intro id inside
    rw [Catalogue.link, Expr.references_replaceWords _ noReference] at inside
    obtain ⟨word, listed, ofWord⟩ := List.mem_flatMap.mp inside
    exact (contents.linkWord (names word listed)).references id ofWord

/-- Without references the logical form of an expression does not depend on names. -/
theorem text (contents : catalogue.HasBalancedContents)
    (leaves : catalogue.HasBalancedLeaves tree) (noReference : tree.references = []) :
    Balanced tree.text := by
  have form := contents.form (leaves.balanced_tree contents.numbered)
  rwa [Expr.logicalForm_congr tree (by simp [noReference])] at form

end HasBalancedContents

end Catalogue

/-- What a definition by balanced identifiers has: a balanced name, and balanced codes, a balanced logical
form or an expression with balanced leaves. -/
def Definition.IsBalanced (before : Catalogue) : Definition → Prop
  | .group name codes =>
    (∀ given, name = some given → IsBalancedName given) ∧ ∀ code ∈ codes, Balanced code
  | .word name linked => IsBalancedName name ∧ Balanced linked.text
  | .expression name linked => IsBalancedName name ∧ before.HasBalancedLeaves linked

/-- The distinct ones among balanced codes are balanced. -/
theorem balanced_distinct {codes : List Text} (each : ∀ code ∈ codes, Balanced code) :
    ∀ code ∈ distinctCodes codes, Balanced code := by
  intro code listed
  obtain ⟨⟨written, inside, rfl⟩, _⟩ := mem_distinctCodes.mp listed
  exact (each written inside).trim

namespace Workbook

/-- A line whose identifiers are balanced, if it is a statement. -/
def IsBalancedLine (line : Text) : Prop :=
  ∀ statement, Statement.parse line = .ok statement →
    (∀ name, statement.name = some name → Balanced name) ∧
      ∀ text ∈ statement.expr.words, Balanced text

variable {line : Text} {before after : Catalogue} {outcome : Except Failure Achievement}

/-- The words of a line of balanced identifiers have balanced leaves when they are resolved. -/
theorem IsBalancedLine.link (balancedLine : IsBalancedLine line)
    (contents : before.HasBalancedContents) {statement : Statement}
    (read : Statement.parse line = .ok statement) :
    before.HasBalancedLeaves (before.link statement.expr) := by
  refine contents.link (Statement.references_nil read) ?_
  intro text inside
  exact ⟨Statement.words_filled read text inside, (balancedLine statement read).2 text inside⟩

/-- A line of balanced identifiers makes balanced definitions. -/
theorem IsBalancedLine.definition (balancedLine : IsBalancedLine line)
    (contents : before.HasBalancedContents) {definition : Definition}
    (defines : definitionOf before line = some definition) : definition.IsBalanced before := by
  by_cases isGroup : definition.kind = .classification
  · cases definition with
    | word name linked => cases isGroup
    | expression name linked => cases isGroup
    | group name codes =>
      obtain ⟨statement, read, rfl, _, found⟩ := defines_group_iff.mp defines
      obtain ⟨ofName, ofWords⟩ := balancedLine statement read
      refine ⟨fun given named => ⟨Statement.name_filled read named, ofName given named⟩, ?_⟩
      rw [(Expr.codes_of_words found).1]
      exact balanced_distinct ofWords
  · obtain ⟨statement, name, read, named, _, _, rfl⟩ :=
      (defines_name_iff definition).mp ⟨defines, isGroup⟩
    have isName : IsBalancedName name :=
      ⟨Statement.name_filled read named, (balancedLine statement read).1 name named⟩
    have leaves := balancedLine.link contents read
    unfold Definition.ofName
    split
    · next definesWord =>
      have noReference : (before.link statement.expr).references = [] := by
        simp only [Catalogue.definesWord, Bool.and_eq_true] at definesWord
        simpa using definesWord.1.1.1
      exact ⟨isName, contents.text leaves noReference⟩
    · exact ⟨isName, leaves⟩

/-- An expression keeps its balanced leaves after a line of balanced identifiers. -/
theorem LineEffect.balanced_leaves (effect : LineEffect line before outcome after)
    (balancedLine : IsBalancedLine line) (contents : before.HasBalancedContents) {expr : Expr}
    (leaves : before.HasBalancedLeaves expr) : after.HasBalancedLeaves expr where
  words := leaves.words
  references := by
    intro id inside
    refine effect.group_with (fun text name => name.1) contents.numbered
      (leaves.references id inside) ?_
    intro given codes defines
    exact (balancedLine.definition contents defines).1 given rfl

/-- A line of balanced identifiers leaves a catalogue of balanced texts behind. -/
theorem LineEffect.balanced_contents (effect : LineEffect line before outcome after)
    (balancedLine : IsBalancedLine line) (contents : before.HasBalancedContents) :
    after.HasBalancedContents where
  numbered := effect.numbered contents.numbered
  lead := effect.stable Catalogue.tokens_lead_stable contents.lead
  words := by
    intro word stored
    rcases effect.mem_words stored with earlier | ⟨name, linked, drawn, defines, same⟩
    · exact contents.words word earlier
    · have balanced := balancedLine.definition contents defines
      obtain rfl := Entity.word.inj same
      exact ⟨balanced.1.2, balanced.2.parenthesized⟩
  codes := by
    intro group stored
    rcases effect.mem_groups stored with earlier | ⟨name, codes, defines, distinct⟩
    · exact contents.codes group earlier
    · rw [distinct]
      exact balanced_distinct (balancedLine.definition contents defines).2
  roots := by
    intro expression root stored rooted
    refine effect.balanced_leaves balancedLine contents ?_
    rcases effect.mem_roots stored rooted with earlier | ⟨name, defines⟩
    · exact contents.roots expression root earlier rooted
    · exact (balancedLine.definition contents defines).2

/-- Lines of balanced identifiers from the empty catalogue leave a catalogue of balanced texts
behind. -/
theorem balanced_after_lines {lines : List Text}
    (balancedLines : ∀ line ∈ lines, IsBalancedLine line) (limit : Int) (tokens : TokenSource) :
    (afterLines lines ⟨Catalogue.empty limit, tokens⟩).catalogue.HasBalancedContents := by
  refine invariant_after_lines Catalogue.HasBalancedContents lines
    (fun line inside _ _ _ effect => effect.balanced_contents (balancedLines line inside)) ?_
  exact ⟨nofun, nofun, nofun, nofun, nofun⟩

end Workbook

end PriorArt
