import PriorArt.Proofs.Query.CommonTrees
import PriorArt.Proofs.Query.NearRows
import PriorArt.Proofs.Query.ReadBack

/-!
# The rows of word trees

The text of the words of a word tree lays out a row, and inside brackets this row says the tree. How
the row goes on with a plus sign behind it can be told from the tree. As it stands the row keeps to
union unless the tree is an intersection or a nearness of two. Enclosed where it shows compound
marks, it keeps to union unless the tree is an intersection, because stars are no compound marks.
-/

namespace PriorArt

open Brackets Expr Layout Phrase

/-- Whether an expression is an intersection. -/
def Expr.isIntersection : Expr → Bool
  | .logical .and _ _ => true
  | _ => false

/-- A word tree is a built tree. -/
theorem IsWordTree.built {named : Text → Prop} {tree : Expr} (wordTree : IsWordTree tree) :
    IsBuilt named tree := by
  induction wordTree with
  | word plain => exact .word plain
  | intersection operands inductionHypothesis => exact .logical .and inductionHypothesis
  | union operands apart inductionHypothesis => exact .logical .or inductionHypothesis
  | proximity distance ofLeft ofRight leftHypothesis rightHypothesis =>
    exact .proximity distance leftHypothesis rightHypothesis
  | simultaneous count ofFirst ofSecond ofThird firstHypothesis secondHypothesis thirdHypothesis =>
    exact .simultaneous count firstHypothesis secondHypothesis thirdHypothesis

/-- Flattening leaves the top of a word tree what it is. -/
theorem IsWordTree.top_of_flatten {tree : Expr} (wordTree : IsWordTree tree) :
    tree.flatten.standsUnder .or = tree.standsUnder .or ∧
      tree.flatten.isIntersection = tree.isIntersection := by
  cases wordTree with
  | word plain => exact ⟨rfl, rfl⟩
  | @intersection first second others operands =>
    obtain ⟨head, next, rest, same⟩ := flatten_several .and first second others
    rw [same]
    exact ⟨rfl, rfl⟩
  | @union first second others operands apart =>
    obtain ⟨head, next, rest, same⟩ := flatten_several .or first second others
    rw [same]
    exact ⟨rfl, rfl⟩
  | proximity distance ofLeft ofRight => exact ⟨rfl, rfl⟩
  | simultaneous count ofFirst ofSecond ofThird => exact ⟨rfl, rfl⟩

/-- The parts of a word tree lay out rows. -/
theorem IsWordTree.laid_out {meaning : Meaning} {tree : Expr}
    (plainWords : ∀ word, IsPlain word → meaning.word word = .ofTrimmed word)
    (wordTree : IsWordTree tree) : (tree.partsWith meaning).IsLaidOut := by
  have leaves : meaning.LaysOut (fun _ => False) := by
    refine ⟨?_, nofun, nofun⟩
    intro text plain
    have laidOut : Layout.IsLaidOut text := by
      simpa [Row.text, Atom.text, suffix] using lays_out_clean (clean_word plain)
    rw [plainWords text plain]
    exact Parts.laid_out_trimmed laidOut
  exact wordTree.built.laid_out leaves

/-- The text of an intersection of word trees shows no compound mark outside of brackets. -/
theorem IsWordTree.not_compound {meaning : Meaning} {tree : Expr}
    (plainWords : ∀ word, IsPlain word → meaning.word word = .ofTrimmed word)
    (wordTree : IsWordTree tree) (intersection : tree.isIntersection = true) :
    hasTopLevel compoundMarks (tree.partsWith meaning).wordsText = false := by
  cases wordTree with
  | word plain => cases intersection
  | @intersection first second others operands =>
    obtain ⟨written, write, _, enough⟩ := translates_all (fun operand inside =>
      word_tree_translates plainWords (operands operand inside))
    cases written with
    | nil => simp at enough
    | cons head tail =>
      cases tail with
      | nil => simp at enough
      | cons next rest => exact write.not_compound
  | union operands apart => cases intersection
  | proximity distance ofLeft ofRight => cases intersection
  | simultaneous count ofFirst ofSecond ofThird => cases intersection

namespace Layout

/-- A row that a text writing a tree lays out is read as the tree. -/
theorem LaysOut.reads_as {text : Text} {row : Row} {tree : Expr} (laysOut : LaysOut text row)
    (writes : Writes text tree) : row.ReadsAs tree := by
  have same : text = row.text := (strip_bare writes.tidy.solid writes.bare).symm.trans laysOut.strip
  obtain ⟨phrase, reads, said, factor, flat⟩ := (says_group writes.inside).fielded
  have query := query_of_factors (.cons
    (⟨(writes.tidy.enclosed rfl).fielded .text, phrase, reads, factor⟩ :
      ReadsFactor (parenthesized text ++ Field.text.suffix.toList) (.words said)) .nil)
  rw [Text.join_single, same] at query
  obtain ⟨fits, only⟩ := (parse_row laysOut.proper _).mp query
  obtain rfl : said = row.said := by simpa using only
  exact ⟨fits, flat⟩

/-- A row that is no group keeps to union exactly if it says neither an intersection nor a nearness
of two. -/
theorem LaysOut.keeps_iff {text : Text} {row : Row} (laysOut : LaysOut text row) :
    row.KeepsTo .or ↔ row.said.flatten.standsUnder .or = true := by
  by_cases keeps : row.KeepsTo .or
  · refine iff_of_true keeps ?_
    cases row with
    | last atom =>
      cases atom with
      | word text marked => cases marked <;> rfl
      | group inner marked =>
        obtain rfl : marked = false := by simpa [Row.isOpen, Atom.isOpen] using laysOut.isOpen
        exact absurd ⟨inner, rfl⟩ laysOut.noGroup
      | brace first second third count marked => cases marked <;> rfl
    | more atom separator rest =>
      cases separator with
      | plus =>
        rw [said_of_keeps keeps]
        obtain ⟨head, next, others, same⟩ := flatten_several .or atom.phrase.said
          rest.reading.union.1.said (rest.reading.union.2.map Phrase.said)
        simp only [Reading.operands, Row.reading, Reading.put, List.map_cons, join, same]
        rfl
      | star => exact absurd keeps.1 (by decide)
      | near distance => exact absurd keeps.1 (by simp [Separator.isWithin])
  · refine iff_of_false keeps ?_
    cases found : row.behind with
    | none =>
      have noDistance := (Row.behind_none_iff row).mp found
      obtain ⟨first, second, others, said⟩ :=
        Row.said_intersection (Row.keeps_of_no_distance noDistance) keeps
      obtain ⟨head, next, rest, same⟩ := flatten_several .and first second others
      rw [said, same]
      simp [standsUnder]
    | some pair =>
      obtain ⟨distance, rest⟩ := pair
      have chain := (Row.of_behind_some row found).2.2.2
      rw [Row.said, Reading.inside, chain]
      simp [Phrase.said, flatten, standsUnder]

/-- A row that shows no compound mark keeps to union unless it says an intersection. -/
theorem LaysOut.keeps_iff_of_simple {text : Text} {row : Row} (laysOut : LaysOut text row)
    (simple : row.isCompound = false) :
    row.KeepsTo .or ↔ row.said.flatten.isIntersection = false := by
  constructor
  · intro keeps
    have stands := laysOut.keeps_iff.mp keeps
    cases top : row.said.flatten.isIntersection with
    | false => rfl
    | true =>
      unfold isIntersection at top
      split at top
      · next same => simp [same, standsUnder] at stands
      · cases top
  · intro other
    by_contra broken
    obtain ⟨first, second, others, said⟩ := Row.said_intersection
      (Row.keeps_of_no_distance (row.distances_of_not_compound simple)) broken
    obtain ⟨head, next, rest, same⟩ := flatten_several .and first second others
    rw [said, same] at other
    cases other

end Layout

/-- A row as which the text of a tree is laid out. Inside brackets it is read as the tree. It keeps
to union as it stands unless the tree is an intersection or a nearness of two, and enclosed where it
shows compound marks unless the tree is an intersection. -/
structure Layout.Row.IsRowOf (row : Row) (tree : Expr) : Prop where
  reads : row.ReadsAs tree
  keeps : row.KeepsTo .or ↔ tree.standsUnder .or = true
  regrouped : row.regrouped.KeepsTo .or ↔ tree.isIntersection = false

/-- A row that the text of a word tree lays out is a row of the tree. -/
theorem IsWordTree.row_of {meaning : Meaning} {tree : Expr} {row : Row}
    (plainWords : ∀ word, IsPlain word → meaning.word word = .ofTrimmed word)
    (wordTree : IsWordTree tree)
    (laysOut : LaysOut (tree.partsWith meaning).wordsText row) : row.IsRowOf tree := by
  have writes := (word_tree_translates plainWords wordTree).text
  have reads := laysOut.reads_as writes
  obtain ⟨stands, top⟩ := wordTree.top_of_flatten
  refine ⟨reads, ?_, ?_⟩
  · rw [laysOut.keeps_iff, reads.2, stands]
  · rw [Row.regrouped]
    split
    · next compound =>
      refine iff_of_true trivial ?_
      by_contra intersection
      have simple := wordTree.not_compound plainWords (by simpa using intersection)
      rw [← strip_bare writes.tidy.solid writes.bare, laysOut.strip, row.compound laysOut.proper,
        compound] at simple
      cases simple
    · next simple =>
      rw [laysOut.keeps_iff_of_simple (by simpa using simple), reads.2, top]

end PriorArt
