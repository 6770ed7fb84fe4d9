import PriorArt.Proofs.Expr.Leaves
import PriorArt.Proofs.Statement.Grammar
import PriorArt.Proofs.Token.Identifiers

/-!
# Parsed expressions

A line has no notation for references, so the expression of a statement is built from words, and
these are identifiers of the line. The name of a statement is an identifier by itself, so a line
that consists of the name alone asks for what the name stands for.
-/

namespace PriorArt.Statement

open Expr

mutual

/-- A primary is built from its identifiers. -/
theorem PrimaryTree.built_from {kind : Text → Prop} (tree : PrimaryTree)
    (identifiers : ∀ text, .identifier text ∈ tree.tokens → kind text) :
    BuiltFrom kind tree.expr := by
  cases tree with
  | identifier text =>
    exact (built_from_word text).mpr (identifiers text (by simp [PrimaryTree.tokens]))
  | parenthesized inner =>
    refine (built_from_join .or _ _).mpr (inner.operands_built_from ?_)
    exact fun text inside => identifiers text (by simp [PrimaryTree.tokens, inside])
  | brace first second third digits capital =>
    refine (built_from_simultaneous ..).mpr ⟨first.built_from ?_, second.built_from ?_,
      third.built_from ?_⟩
    · exact fun text inside => identifiers text (by simp [PrimaryTree.tokens, inside])
    · exact fun text inside => identifiers text (by simp [PrimaryTree.tokens, inside])
    · exact fun text inside => identifiers text (by simp [PrimaryTree.tokens, inside])

/-- A nearness of the grammar is built from its identifiers. -/
theorem NearnessTree.built_from {kind : Text → Prop} (tree : NearnessTree)
    (identifiers : ∀ text, .identifier text ∈ tree.tokens → kind text) :
    BuiltFrom kind tree.expr := by
  cases tree with
  | single operand => exact operand.built_from identifiers
  | near left digits unit capital right =>
    refine (built_from_proximity ..).mpr ⟨left.built_from ?_, right.built_from ?_⟩
    · exact fun text inside => identifiers text (by simp [NearnessTree.tokens, inside])
    · exact fun text inside => identifiers text (by simp [NearnessTree.tokens, inside])

/-- The operands of an intersection are built from its identifiers. -/
theorem IntersectionTree.operands_built_from {kind : Text → Prop} (tree : IntersectionTree)
    (identifiers : ∀ text, .identifier text ∈ tree.tokens → kind text) :
    ∀ operand ∈ tree.operands.1 :: tree.operands.2, BuiltFrom kind operand := by
  cases tree with
  | last operand => simpa [IntersectionTree.operands] using operand.built_from identifiers
  | more operand rest =>
    have first := operand.built_from (fun text inside =>
      identifiers text (by simp [IntersectionTree.tokens, inside]))
    have others := rest.operands_built_from (fun text inside =>
      identifiers text (by simp [IntersectionTree.tokens, inside]))
    exact List.forall_mem_cons.mpr ⟨first, others⟩

/-- The operands of a union are built from its identifiers. -/
theorem UnionTree.operands_built_from {kind : Text → Prop} (tree : UnionTree)
    (identifiers : ∀ text, .identifier text ∈ tree.tokens → kind text) :
    ∀ operand ∈ tree.operands.1 :: tree.operands.2, BuiltFrom kind operand := by
  cases tree with
  | last operand =>
    have first := (built_from_join .and _ _).mpr (operand.operands_built_from identifiers)
    simpa [UnionTree.operands] using first
  | more operand rest =>
    have first := (built_from_join .and _ _).mpr (operand.operands_built_from (fun text inside =>
      identifiers text (by simp [UnionTree.tokens, inside])))
    have others := rest.operands_built_from (fun text inside =>
      identifiers text (by simp [UnionTree.tokens, inside]))
    exact List.forall_mem_cons.mpr ⟨first, others⟩

end

variable {line : Text} {statement : Statement}

/-- The expression of a statement is built from identifiers of the line. -/
theorem built_from {kind : Text → Prop} (read : parse line = .ok statement)
    (identifiers : ∀ text, .identifier text ∈ Token.scan line → kind text) :
    BuiltFrom kind statement.expr := by
  obtain ⟨derivation, tokens, rfl⟩ := parse_sound read
  refine (built_from_join .or _ _).mpr (derivation.body.operands_built_from ?_)
  intro text inside
  refine identifiers text ?_
  rw [← tokens]
  simp [Derivation.tokens, inside]

/-- The expression of a statement has no references. -/
theorem references_nil (read : parse line = .ok statement) : statement.expr.references = [] := by
  have built : BuiltFrom (fun text => .identifier text ∈ Token.scan line) statement.expr :=
    built_from read (fun _ inside => inside)
  exact built.1

/-- No separator stands in a word of a statement. -/
theorem words_are_runs (read : parse line = .ok statement) :
    ∀ text ∈ statement.expr.words, Token.IsRun text :=
  (built_from read (fun _ inside => Token.run_of_identifier .nil inside)).2

/-- The words of a statement have characters. -/
theorem words_filled (read : parse line = .ok statement) :
    ∀ text ∈ statement.expr.words, text ≠ [] :=
  (built_from read (fun _ inside => Token.identifier_filled inside)).2

/-- The name of a statement is one identifier by itself. -/
theorem name_identifies {name : Text} (read : parse line = .ok statement)
    (named : statement.name = some name) :
    Token.scan name = [.identifier name, .finish] := by
  obtain ⟨derivation, tokens, rfl⟩ := parse_sound read
  have front : derivation.name = some name := named
  rw [Derivation.tokens, front] at tokens
  exact Token.scan_name .nil tokens.symm

/-- The name of a statement has characters. -/
theorem name_filled {name : Text} (read : parse line = .ok statement)
    (named : statement.name = some name) : name ≠ [] := by
  rintro rfl
  cases name_identifies read named

/-- A line that consists of the name of a statement is read as a word. -/
theorem parse_name {name : Text} (read : parse line = .ok statement)
    (named : statement.name = some name) : parse name = .ok ⟨none, .word name, none⟩ := by
  rw [parse, name_identifies read named]
  rfl

end PriorArt.Statement
