import PriorArt.Proofs.Query.WordRows

/-!
# Merged alternatives

A query has no notation for a union with a nearness of two among its operands. The first nearness
takes up the other operands as further alternatives of its right side instead, and is written with
all of them behind its distance. There every alternative is to be an operand of a union.

The alternatives are written in two ways. In the form of a query each one is enclosed where it shows
compound marks and is put into its field, so that only an intersection is torn apart, whose stars are
no such marks. Where the nearness is an operand itself, its alternatives share a single pair of
brackets and have none of their own, so that a nearness of two among them is torn apart as well.
-/

namespace PriorArt

open Brackets Expr Layout

/-- A nearness that has taken up further alternatives. -/
structure Merged where
  distance : Distance
  left : Expr
  right : Expr
  further : List Expr

namespace Merged

/-- What may stand at the right side. -/
def alternatives (merged : Merged) : List Expr := merged.right :: merged.further

/-- The nearness as an expression, with the union of the alternatives at its right side. -/
def tree (merged : Merged) : Expr :=
  .proximity merged.distance merged.left (.logical .or merged.right merged.further)

end Merged

namespace Expr

/-- The first nearness of two among operands, with the other operands, in order, as further
alternatives. -/
def merge? : List Expr → Option Merged
  | [] => none
  | .proximity distance left right :: rest => some ⟨distance, left, right, rest⟩
  | operand :: rest =>
    (merge? rest).map (fun merged => { merged with further := operand :: merged.further })

/-- The expression as which an operand of nearness should be read back: a union with a nearness of
two among its operands is the merged nearness. -/
def merged : Expr → Expr
  | .logical .or first others =>
    match merge? (first :: others) with
    | some merged => merged.tree
    | none => .logical .or first others
  | expr => expr

/-- Whether the alternatives of a merged nearness, if there are several, all stand under a union as
they are. -/
def mergesWell : Expr → Prop
  | .logical .or first others =>
    ∀ merged, merge? (first :: others) = some merged →
      merged.further = [] ∨ ∀ alternative ∈ merged.alternatives, alternative.standsUnder .or = true
  | _ => True

/-- What may stand on either side of a nearness: a word tree, or a union of word trees with a nearness
of two among them. -/
inductive IsNearOperand : Expr → Prop where
  | words {tree : Expr} (wordTree : IsWordTree tree) : IsNearOperand tree
  | union {first : Expr} {others : List Expr} {merged : Merged}
      (trees : ∀ operand ∈ first :: others, IsWordTree operand)
      (merges : merge? (first :: others) = some merged) :
      IsNearOperand (.logical .or first others)

/-- Nothing is merged exactly if no operand is a nearness of two. -/
theorem merge_none_iff {operands : List Expr} :
    merge? operands = none ↔
      ∀ operand ∈ operands, ∀ distance left right, operand ≠ .proximity distance left right := by
  induction operands with
  | nil => exact iff_of_true rfl nofun
  | cons operand rest inductionHypothesis =>
    rw [List.forall_mem_cons, ← inductionHypothesis]
    cases operand with
    | proximity distance left right =>
      exact iff_of_false nofun (fun apart => apart.1 distance left right rfl)
    | _ => simp [merge?]

/-- The operands in front of a merged nearness are no nearness, and its further alternatives are they
and the operands behind it. -/
theorem merge_split {operands : List Expr} {merged : Merged}
    (merges : merge? operands = some merged) :
    ∃ before after,
      operands = before ++ .proximity merged.distance merged.left merged.right :: after ∧
        (∀ operand ∈ before, ∀ distance left right, operand ≠ .proximity distance left right) ∧
        merged.further = before ++ after := by
  induction operands generalizing merged with
  | nil => cases merges
  | cons operand rest inductionHypothesis =>
    unfold merge? at merges
    split at merges
    · next same => cases same
    · next distance left right _ same =>
      obtain ⟨rfl, rfl⟩ := List.cons.inj same
      obtain rfl := Option.some.inj merges
      exact ⟨[], rest, rfl, nofun, rfl⟩
    · next apart same =>
      obtain ⟨rfl, rfl⟩ := List.cons.inj same
      obtain ⟨later, found, rfl⟩ := Option.map_eq_some_iff.mp merges
      obtain ⟨before, after, rfl, apartLater, further⟩ := inductionHypothesis found
      refine ⟨operand :: before, after, rfl, ?_, by simp [further]⟩
      exact List.forall_mem_cons.mpr ⟨apart, apartLater⟩

end Expr

section Alternatives

variable {right : Expr} {further : List Expr} {row : Expr → Row}

/-- The rows of several alternatives, joined by plus signs, keep to union if each of them does. -/
theorem keeps_alternatives :
    (Row.joined .or (row right) (further.map row)).KeepsTo .or ↔
      ∀ tree ∈ right :: further, (row tree).KeepsTo .or := by
  rw [Row.keeps_joined, ← List.map_cons, List.forall_mem_map]

/-- Alternatives that are laid out as rows and joined by plus signs are read as their union exactly if
there is only one of them or each of them keeps to union. -/
theorem said_alternatives_iff
    (said : ∀ tree ∈ right :: further, (row tree).said.flatten = tree.flatten) :
    (Row.joined .or (row right) (further.map row)).said.flatten =
        (Expr.logical .or right further).flatten ↔
      further = [] ∨ ∀ tree ∈ right :: further, (row tree).KeepsTo .or := by
  cases further with
  | nil =>
    refine iff_of_true ?_ (.inl rfl)
    rw [flatten_alone]
    exact said right (by simp)
  | cons second others =>
    rw [or_iff_right (by simp), ← keeps_alternatives]
    constructor
    · intro same
      apply keeps_of_several
      rw [same]
      exact operandList_several .or right second others
    · intro keeps
      apply flatten_eq_of_operandList .or
      have each := (Row.keeps_joined .or _ _).mp keeps
      rw [operandList_joined each, operandList_logical_all, ← List.map_cons, List.map_map]
      exact flattenAll_same said

/-- Without brackets of their own, alternatives that can each be read are read as their union exactly
if there is only one of them or each of them keeps to union. -/
theorem reads_alternatives_iff (reads : ∀ tree ∈ right :: further, (row tree).ReadsAs tree) :
    (Row.joined .or (row right) (further.map row)).ReadsAs (.logical .or right further) ↔
      further = [] ∨ ∀ tree ∈ right :: further, (row tree).KeepsTo .or := by
  rw [Row.ReadsAs, said_alternatives_iff (fun tree inside => (reads tree inside).2),
    and_iff_right_iff_imp]
  rintro (rfl | keeps)
  · exact (reads right (by simp)).1
  · have keepsJoined := keeps_alternatives.mpr keeps
    have legible : (Row.joined .or (row right) (further.map row)).legible = true := by
      rw [Row.legible_joined, ← List.map_cons, List.forall_mem_map]
      intro tree inside
      have fits := (reads tree inside).1
      rw [Row.fits, Bool.and_eq_true] at fits
      exact fits.1
    simp [Row.fits, legible, keepsJoined.no_distance]

end Alternatives

/-- In a word tree no union has a nearness to merge. -/
theorem IsWordTree.merges_nothing {tree : Expr} (wordTree : IsWordTree tree) :
    tree.merged = tree ∧ tree.mergesWell := by
  cases wordTree with
  | word plain => exact ⟨rfl, trivial⟩
  | intersection trees => exact ⟨rfl, trivial⟩
  | @union first second others trees apart =>
    have none : merge? (first :: second :: others) = none := merge_none_iff.mpr apart
    exact ⟨by simp only [Expr.merged, none], by simp [mergesWell, none]⟩
  | proximity distance ofLeft ofRight => exact ⟨rfl, trivial⟩
  | simultaneous count ofFirst ofSecond ofThird => exact ⟨rfl, trivial⟩

/-- The text of the words of an expression whose leaves have the given meanings. -/
def Meaning.wordsText (meaning : Meaning) (expr : Expr) : Text := (expr.partsWith meaning).wordsText

/-- The nearness that is written for a merged nearness. -/
def Merged.nearness (meaning : Meaning) (merged : Merged) : Nearness :=
  ⟨meaning.wordsText merged.left, merged.alternatives.map meaning.wordsText,
    merged.distance.unit, merged.distance.count⟩

/-- A merged nearness of word trees. -/
structure Merged.IsOfWords (merged : Merged) : Prop where
  left : IsWordTree merged.left
  alternatives : ∀ alternative ∈ merged.alternatives, IsWordTree alternative

/-- The first nearness among word trees merges with word trees. -/
theorem Expr.merge_of_words {operands : List Expr} {merged : Merged}
    (trees : ∀ operand ∈ operands, IsWordTree operand)
    (merges : merge? operands = some merged) : merged.IsOfWords := by
  obtain ⟨before, after, rfl, _, further⟩ := merge_split merges
  obtain ⟨ofBefore, ofRest⟩ := List.forall_mem_append.mp trees
  obtain ⟨ofNear, ofAfter⟩ := List.forall_mem_cons.mp ofRest
  cases ofNear with
  | proximity _ ofLeft ofRight =>
    refine ⟨ofLeft, ?_⟩
    rw [Merged.alternatives, further]
    exact List.forall_mem_cons.mpr ⟨ofRight, List.forall_mem_append.mpr ⟨ofBefore, ofAfter⟩⟩

/-- The text of a nearness alone. -/
theorem wordsText_near (nearness : Nearness) :
    (Parts.ofFactor (.near nearness)).wordsText = nearness.text := by
  have filled : nearness.text.isEmpty = false := by simp [Nearness.text, Nearness.reach]
  simp [Parts.wordsText, Parts.ofFactor, WordFactor.text, filled]

/-- The query for a nearness alone. -/
theorem render_near (nearness : Nearness) :
    (Parts.ofFactor (.near nearness)).render = nearness.render := by
  simp [Parts.render, Parts.ofFactor, WordFactor.render?]

section Parts

variable {meaning : Meaning}
  (plainWords : ∀ word, IsPlain word → meaning.word word = .ofTrimmed word)
include plainWords

/-- The parts of a union of word trees with a nearness among them. -/
theorem parts_merging {first : Expr} {others : List Expr} {merged : Merged}
    (trees : ∀ operand ∈ first :: others, IsWordTree operand)
    (merges : merge? (first :: others) = some merged) :
    (Expr.logical .or first others).partsWith meaning =
      .ofFactor (.near (merged.nearness meaning)) := by
  have translated : ∀ operand ∈ first :: others, Translates operand (operand.partsWith meaning) :=
    fun operand inside => word_tree_translates plainWords (trees operand inside)
  have kinds : ∀ part ∈ (first :: others).map (fun operand => operand.partsWith meaning),
      part.kind = .words := by
    rw [List.forall_mem_map]
    exact fun operand inside => (translated operand inside).kind
  have ofWords := merge_of_words trees merges
  have ofRight := ofWords.alternatives merged.right (by simp [Merged.alternatives])
  have sides := fun fallback => relate_of_words
    (word_tree_translates plainWords ofWords.left).kind
    (word_tree_translates plainWords ofRight).kind fallback merged.distance
  obtain ⟨before, after, split, apart, further⟩ := merge_split merges
  -- no branch in front of the nearness is a nearness
  have taken : Parts.takeNear? ((first :: others).map (fun operand => operand.partsWith meaning)) =
      some (.ofDistance (meaning.wordsText merged.left) (meaning.wordsText merged.right)
          merged.distance,
        merged.further.map (fun operand => operand.partsWith meaning)) := by
    rw [split, List.map_append, List.map_cons, partsWith, sides, further, List.map_append]
    apply takeNear_some
    rw [List.forall_mem_map]
    intro operand inside nearness same
    obtain ⟨distance, left, right, isNear⟩ :=
      (translated operand (by simp [split, inside])).near nearness same
    exact apart operand inside distance left right isNear
  rw [List.map_cons] at kinds taken
  rw [partsWith, eachParts_eq, unite_of_words kinds, Parts.uniteWords, taken]
  simp only [List.map_map]
  rfl

/-- A merged nearness of word trees lays out rows. -/
theorem Merged.IsOfWords.laid_out {merged : Merged} (ofWords : merged.IsOfWords) :
    (merged.nearness meaning).IsLaidOut merged.distance := by
  have text : ∀ {tree}, IsWordTree tree → Layout.IsLaidOut (meaning.wordsText tree) := by
    intro tree wordTree
    exact (wordTree.laid_out plainWords).text (word_tree_translates plainWords wordTree).kind
  refine ⟨text ofWords.left, by simp [Merged.nearness, Merged.alternatives], ?_, rfl, rfl⟩
  simp only [Merged.nearness, List.forall_mem_map]
  exact fun alternative inside => text (ofWords.alternatives alternative inside)

/-- A merged nearness of word trees has rows for its sides. As a query they stand in square brackets,
each alternative enclosed where it shows compound marks and in its field. As a text they stand as they
are, several alternatives in a group. -/
theorem Merged.IsOfWords.rows {merged : Merged} (ofWords : merged.IsOfWords) :
    ∃ (leftRow : Row) (row : Expr → Row),
      leftRow.ReadsAs merged.left ∧ (∀ tree ∈ merged.alternatives, (row tree).IsRowOf tree) ∧
        (∀ tree, IsReadAs (merged.nearness meaning).render tree ↔
          (leftRow.regrouped.append (.near merged.distance)
            (.joined .or (row merged.right).regrouped.mark
              (merged.further.map (fun tree => (row tree).regrouped.mark)))).ReadsAs tree) ∧
        LaysOut (merged.nearness meaning).text (leftRow.regrouped.append (.near merged.distance)
          (besideRow (row merged.right) (merged.further.map row))) := by
  have laidOut := ofWords.laid_out plainWords
  obtain ⟨leftRow, laysLeft⟩ := laidOut.left
  obtain ⟨row, laysOut⟩ := rows_of_texts laidOut.each
  have rowOf : ∀ tree ∈ merged.alternatives, (row (meaning.wordsText tree)).IsRowOf tree :=
    fun tree inside => (ofWords.alternatives tree inside).row_of plainWords
      (laysOut _ (List.mem_map_of_mem inside))
  have leftReads := (ofWords.left.row_of plainWords laysLeft).reads
  obtain ⟨written, proper⟩ := laidOut.render_row rfl laysLeft laysOut
  have asText := laidOut.lays_out rfl laysLeft laysOut
  rw [List.map_map] at written proper asText
  refine ⟨leftRow, row ∘ meaning.wordsText, leftReads, rowOf, ?_, asText⟩
  intro tree
  rw [written]
  exact bracketed_read_iff proper tree

/-- The query for a union of word trees with a nearness among them is read as the merged nearness
exactly if there is only one alternative or no alternative is an intersection. -/
theorem merging_query_iff {first : Expr} {others : List Expr} {merged : Merged}
    (trees : ∀ operand ∈ first :: others, IsWordTree operand)
    (merges : merge? (first :: others) = some merged) :
    IsReadAs ((Expr.logical .or first others).partsWith meaning).render merged.tree ↔
      merged.further = [] ∨
        ∀ alternative ∈ merged.alternatives, alternative.isIntersection = false := by
  obtain ⟨leftRow, row, leftReads, rowOf, reads, _⟩ :=
    (merge_of_words trees merges).rows plainWords
  have noDistance : (Row.joined .or (row merged.right).regrouped.mark
      (merged.further.map (fun tree => (row tree).regrouped.mark))).distances = 0 := by
    apply Row.distances_joined
    simp [Row.distances_regrouped]
  have each : ∀ tree ∈ merged.alternatives, (row tree).regrouped.mark.ReadsAs tree :=
    fun tree inside => by simpa using (rowOf tree inside).reads
  rw [parts_merging plainWords trees merges, render_near, reads, Merged.tree,
    Row.reads_near_iff leftRow noDistance, and_iff_right leftReads]
  refine (reads_alternatives_iff each).trans (or_congr_right (forall₂_congr ?_))
  intro tree inside
  rw [Row.keeps_mark, (rowOf tree inside).regrouped]

/-- An operand of nearness lays out a row, which is read as the operand with its alternatives merged
exactly if these stand under a union. -/
theorem near_operand_row {operand : Expr} (isOperand : IsNearOperand operand) :
    (operand.partsWith meaning).kind = .words ∧
      ∃ row, LaysOut (meaning.wordsText operand) row ∧
        (row.ReadsAs operand.merged ↔ operand.mergesWell) := by
  cases isOperand with
  | words wordTree =>
    have kind := (word_tree_translates plainWords wordTree).kind
    obtain ⟨row, laysOut⟩ := (wordTree.laid_out plainWords).text kind
    obtain ⟨same, well⟩ := wordTree.merges_nothing
    rw [same]
    exact ⟨kind, row, laysOut, iff_of_true (wordTree.row_of plainWords laysOut).reads well⟩
  | @union first others merged trees merges =>
    have parts := parts_merging plainWords trees merges
    obtain ⟨leftRow, row, leftReads, rowOf, _, laysOut⟩ :=
      (merge_of_words trees merges).rows plainWords
    refine ⟨by rw [parts]; rfl, _, by rwa [Meaning.wordsText, parts, wordsText_near], ?_⟩
    have same : (Expr.logical .or first others).merged = merged.tree := by
      simp only [Expr.merged, merges]
    have well : (Expr.logical .or first others).mergesWell ↔ merged.further = [] ∨
        ∀ alternative ∈ merged.alternatives, alternative.standsUnder .or = true := by
      simp [mergesWell, merges]
    rw [same, well, Merged.tree, Row.reads_near_iff leftRow (distances_beside _ _),
      and_iff_right leftReads, reads_beside]
    refine (reads_alternatives_iff (fun tree inside => (rowOf tree inside).reads)).trans
      (or_congr_right (forall₂_congr ?_))
    exact fun tree inside => (rowOf tree inside).keeps

/-- The query for a nearness of such operands is read as the nearness of the operands with their
alternatives merged exactly if these stand under a union on either side. -/
theorem near_query_iff (distance : Distance) {left right : Expr} (ofLeft : IsNearOperand left)
    (ofRight : IsNearOperand right) :
    IsReadAs ((Expr.proximity distance left right).partsWith meaning).render
        (.proximity distance left.merged right.merged) ↔
      left.mergesWell ∧ right.mergesWell := by
  obtain ⟨leftKind, leftRow, laysLeft, leftReads⟩ := near_operand_row plainWords ofLeft
  obtain ⟨rightKind, rightRow, laysRight, rightReads⟩ := near_operand_row plainWords ofRight
  have laidOut : (Nearness.ofDistance (meaning.wordsText left) (meaning.wordsText right)
      distance).IsLaidOut distance :=
    ⟨⟨leftRow, laysLeft⟩, by simp [Nearness.ofDistance],
      by simpa [Nearness.ofDistance] using ⟨rightRow, laysRight⟩, rfl, rfl⟩
  have laysAlone : ∀ text ∈ [meaning.wordsText right], LaysOut text rightRow := by
    simpa using laysRight
  obtain ⟨written, proper⟩ := laidOut.render_row rfl laysLeft laysAlone
  have noDistance : rightRow.regrouped.mark.distances = 0 := by simp [Row.distances_regrouped]
  rw [partsWith, relate_of_words leftKind rightKind, render_near]
  rw [← Meaning.wordsText, ← Meaning.wordsText, written, bracketed_read_iff proper,
    List.map_nil, Row.joined, Row.reads_near_iff leftRow noDistance, Row.reads_mark,
    Row.reads_regrouped, leftReads, rightReads]

end Parts

/-- Without stored entities, the query for a union of word trees with a nearness among them is read as
the nearness that has taken up the other operands, exactly if there are none or no alternative is an
intersection. As an operand of a further nearness such a union is read as the merged nearness exactly if
it takes up nothing or its alternatives all stand under a union: none of them is an intersection or a
nearness of two. -/
theorem merged_alternatives_read_back (limit : Int) :
    (∀ (first : Expr) (others : List Expr) (merged : Merged),
      (∀ operand ∈ first :: others, IsWordTree operand) →
      merge? (first :: others) = some merged →
        (IsReadAs ((Catalogue.empty limit).query (.logical .or first others)) merged.tree ↔
          merged.further = [] ∨
            ∀ alternative ∈ merged.alternatives, alternative.isIntersection = false)) ∧
      ∀ (distance : Distance) (left right : Expr), IsNearOperand left → IsNearOperand right →
        (IsReadAs ((Catalogue.empty limit).query (.proximity distance left right))
            (.proximity distance left.merged right.merged) ↔
          left.mergesWell ∧ right.mergesWell) := by
  have plainWords : ∀ word, IsPlain word →
      (Catalogue.empty limit).meaning.word word = .ofTrimmed word :=
    fun word _ => undefined_of_groups (by simp [Catalogue.empty]) word
  constructor
  · intro first others merged trees merges
    exact merging_query_iff plainWords trees merges
  · intro distance left right ofLeft ofRight
    exact near_query_iff plainWords distance ofLeft ofRight

/-- The nearness of two words to which samples add an operand. -/
def sampleNear : Expr := .proximity ⟨.words, 5⟩ (.word ['A']) (.word ['B'])

/-- An intersection as a further alternative. -/
def starAlternative : Expr := .logical .and (.word ['C']) [.word ['D']]

/-- A nearness as a further alternative. -/
def nearAlternative : Expr := .proximity ⟨.words, 3⟩ (.word ['C']) (.word ['D'])

/-- What `sampleNear` is when it has taken up an operand. -/
def sampleMerged (alternative : Expr) : Merged :=
  ⟨⟨.words, 5⟩, .word ['A'], .word ['B'], [alternative]⟩

/-- An intersection is torn apart in the query for a union, and a nearness of two in that for a nearness
with the union as an operand: the plus sign in front of them takes their first word. For the union alone
a nearness of two is read as it should be. -/
theorem merged_alternatives_read_back_torn :
    (∀ operand ∈ [sampleNear, starAlternative, nearAlternative], IsWordTree operand) ∧
      (∀ alternative, merge? [sampleNear, alternative] = some (sampleMerged alternative)) ∧
      Query.parse ((Catalogue.empty 5).query (.logical .or sampleNear [starAlternative])) =
        .ok [.words (.proximity ⟨.words, 5⟩ (.word ['A'])
          (.logical .and (.logical .or (.word ['B']) [.word ['C']]) [.word ['D']]))] ∧
      ¬ IsReadAs ((Catalogue.empty 5).query (.logical .or sampleNear [starAlternative]))
        (sampleMerged starAlternative).tree ∧
      IsReadAs ((Catalogue.empty 5).query (.logical .or sampleNear [nearAlternative]))
        (sampleMerged nearAlternative).tree ∧
      Query.parse ((Catalogue.empty 5).query
          (.proximity ⟨.words, 2⟩ (.logical .or sampleNear [nearAlternative]) (.word ['H']))) =
        .ok [.words (.proximity ⟨.words, 2⟩ (.proximity ⟨.words, 5⟩ (.word ['A'])
          (.proximity ⟨.words, 3⟩ (.logical .or (.word ['B']) [.word ['C']]) (.word ['D'])))
          (.word ['H']))] ∧
      ¬ IsReadAs ((Catalogue.empty 5).query
          (.proximity ⟨.words, 2⟩ (.logical .or sampleNear [nearAlternative]) (.word ['H'])))
        (.proximity ⟨.words, 2⟩ (sampleMerged nearAlternative).tree (.word ['H'])) := by
  have word : ∀ text, IsPlain text → IsWordTree (.word text) := fun _ plain => .word plain
  have a := word ['A'] (by decide)
  have b := word ['B'] (by decide)
  have c := word ['C'] (by decide)
  have d := word ['D'] (by decide)
  have near : IsWordTree sampleNear := .proximity _ a b
  have star : IsWordTree starAlternative := .intersection (by simp [c, d])
  have nearOther : IsWordTree nearAlternative := .proximity _ c d
  have trees : ∀ alternative, IsWordTree alternative →
      ∀ operand ∈ [sampleNear, alternative], IsWordTree operand := by
    intro alternative ofAlternative
    simp [near, ofAlternative]
  obtain ⟨alone, asOperand⟩ := merged_alternatives_read_back 5
  refine ⟨by simp [near, star, nearOther], fun _ => rfl, by decide +kernel, ?_, ?_,
    by decide +kernel, ?_⟩
  · rw [alone _ _ (sampleMerged starAlternative) (trees _ star) rfl]
    simp [sampleMerged, Merged.alternatives, starAlternative, isIntersection]
  · apply (alone _ _ (sampleMerged nearAlternative) (trees _ nearOther) rfl).mpr
    simp [sampleMerged, Merged.alternatives, nearAlternative, isIntersection]
  · intro read
    have well := ((asOperand ⟨.words, 2⟩ _ _ (.union (trees _ nearOther) rfl)
      (.words (word ['H'] (by decide)))).mp read).1 _ rfl
    simp [Merged.alternatives, nearAlternative, standsUnder] at well

end PriorArt
