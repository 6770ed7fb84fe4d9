import PriorArt.Proofs.Expr.Rewriting
import PriorArt.Proofs.Query.ReadBack

/-!
# Intersections inside intersections

It does not matter how intersections are nested. An operand of an intersection that is an intersection
of several operands can be written out in place. That holds anywhere in an expression: above it, an
operator that a query has no notation for is written as its logical form, and the logical form does not
tell the nesting either.

An intersection of a single operand is not written out in place, because it is written as that operand.
Inside an intersection a single union is enclosed twice if there is an intersection in between.
-/

namespace PriorArt

namespace Expr

/-- An operand of an intersection that is itself an intersection, of two operands at least, gives way
to its operands. -/
inductive InlinesIntersection : Expr → Expr → Prop where
  | inline (before : List Expr) {after rest others others' : List Expr}
      {first first' innerFirst second : Expr}
      (nested : first :: others = before ++ logical .and innerFirst (second :: rest) :: after)
      (inlined : first' :: others' = before ++ (innerFirst :: second :: rest) ++ after) :
      InlinesIntersection (logical .and first others) (logical .and first' others')

/-- An intersection of several operands binds like an intersection. -/
theorem binds_and (first second : Expr) (others : List Expr) :
    (logical .and first (second :: others)).isUnion = false ∧
      (logical .and first (second :: others)).isPrimary = false :=
  ⟨rfl, rfl⟩

variable {meaning : Meaning}

namespace InlinesIntersection

/-- An intersection with an intersection of several operands in it binds like an intersection. -/
theorem binds {expr other : Expr} (inlines : InlinesIntersection expr other) :
    (expr.isUnion = false ∧ expr.isPrimary = false) ∧
      other.isUnion = false ∧ other.isPrimary = false := by
  obtain @⟨before, after, rest, others, others', first, first', innerFirst, second, nested, inlined⟩ :=
    inlines
  constructor
  · cases others with
    | cons next later => exact binds_and first next later
    | nil =>
      obtain ⟨-, rfl, -⟩ : before = [] ∧ logical .and innerFirst (second :: rest) = first ∧
          after = [] := by simpa [List.singleton_eq_append_iff] using nested
      exact binds_and innerFirst second rest
  · cases others' with
    | cons next later => exact binds_and first' next later
    | nil =>
      have lengths := congrArg List.length inlined
      simp at lengths
      omega

/-- An intersection is read as before when an operand gives way to its operands. -/
theorem reads_alike {expr other : Expr} (inlines : InlinesIntersection expr other) :
    ReadsAlike meaning expr other := by
  obtain ⟨⟨noUnion, notPrimary⟩, noUnion', notPrimary'⟩ := inlines.binds
  obtain @⟨before, after, rest, others, others', first, first', innerFirst, second, nested, inlined⟩ :=
    inlines
  refine ⟨?_, ?_, noUnion.trans noUnion'.symm, notPrimary.trans notPrimary'.symm⟩
  · have same : (logical .and first others).conjuncts = (logical .and first' others').conjuncts := by
      rw [conjuncts_and, conjuncts_and, nested, inlined, List.flatMap_append, List.flatMap_cons,
        conjuncts_and, List.flatMap_append, List.flatMap_append, List.append_assoc]
    rw [← productParts_conjuncts, same, productParts_conjuncts]
  · -- An intersection needs no brackets inside an intersection.
    have unenclosed : factorText .and (logical .and innerFirst (second :: rest))
        (logicalForm meaning.name (logical .and innerFirst (second :: rest))) =
          logicalForm meaning.name (logical .and innerFirst (second :: rest)) := rfl
    rw [logicalForm_logical, logicalForm_logical, nested, inlined, List.map_append, List.map_cons,
      unenclosed, logicalForm_logical, Text.join_inlined (by simp), List.map_append, List.map_append]

end InlinesIntersection

end Expr

/-- Intersection is associative anywhere in an expression. When operands of intersections that are
intersections of several operands are written out in place, in any number of places, the expression has
the same parts, whatever its leaves mean, and the same logical form, whatever its references are
called. So among stored entities its query is the same, with the same words, nearnesses and codes in
the same order. -/
theorem intersection_is_associative {expr inlined : Expr}
    (rewrites : expr.Rewrites Expr.InlinesIntersection inlined) :
    (∀ meaning : Meaning, expr.partsWith meaning = inlined.partsWith meaning) ∧
      (∀ name, expr.logicalForm name = inlined.logicalForm name) ∧
      ∀ catalogue : Catalogue, catalogue.parts expr = catalogue.parts inlined ∧
        catalogue.query expr = catalogue.query inlined ∧
        expr.logicalForm catalogue.nameOf = inlined.logicalForm catalogue.nameOf := by
  have alike : ∀ meaning : Meaning, Expr.ReadsAlike meaning expr inlined :=
    fun meaning => rewrites.reads_alike Expr.InlinesIntersection.reads_alike
  refine ⟨fun meaning => (alike meaning).parts, fun name => ?_, fun catalogue => ?_⟩
  · exact (alike ⟨Parts.ofTrimmed, Parts.ofTrimmed, name⟩).form
  · have sameParts : catalogue.parts expr = catalogue.parts inlined :=
      (alike catalogue.meaning).parts
    exact ⟨sameParts, congrArg Parts.render sameParts, (alike catalogue.meaning).form⟩

/-- A union of a group with a nearness, so that it is written as its logical form. Each side of the
nearness is an intersection with an intersection in it. -/
def scatteredTree : Expr :=
  .logical .or (.reference ['1'])
    [.proximity ⟨.words, 3⟩
      (.logical .and (.logical .and (.word ['a']) [.logical .or (.word ['b']) [.word ['c']]])
        [.word ['d']])
      (.logical .and (.word ['e']) [.logical .and (.word ['f']) [.word ['g']]])]

/-- The same union without intersections inside intersections. -/
def gatheredTree : Expr :=
  .logical .or (.reference ['1'])
    [.proximity ⟨.words, 3⟩
      (.logical .and (.word ['a']) [.logical .or (.word ['b']) [.word ['c']], .word ['d']])
      (.logical .and (.word ['e']) [.word ['f'], .word ['g']])]

/-- The union has the query `(1+(a*(b+c)*d),3n,(e*f*g))/TX` either way. -/
theorem intersection_is_associative_sample :
    scatteredTree.Rewrites Expr.InlinesIntersection gatheredTree ∧ scatteredTree ≠ gatheredTree ∧
      sampleGroups.query scatteredTree = sampleGroups.query gatheredTree := by
  have left : Expr.InlinesIntersection
      (.logical .and (.logical .and (.word ['a']) [.logical .or (.word ['b']) [.word ['c']]])
        [.word ['d']])
      (.logical .and (.word ['a']) [.logical .or (.word ['b']) [.word ['c']], .word ['d']]) :=
    .inline [] rfl rfl
  have right : Expr.InlinesIntersection
      (.logical .and (.word ['e']) [.logical .and (.word ['f']) [.word ['g']]])
      (.logical .and (.word ['e']) [.word ['f'], .word ['g']]) :=
    .inline [.word ['e']] rfl rfl
  have rewrites : scatteredTree.Rewrites Expr.InlinesIntersection gatheredTree :=
    .logical .or (.kept _) (.cons (.proximity _ (.replaced left) (.replaced right)) .nil)
  exact ⟨rewrites, by simp [scatteredTree, gatheredTree],
    ((intersection_is_associative rewrites).2.2 sampleGroups).2.1⟩

end PriorArt
