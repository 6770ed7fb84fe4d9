import PriorArt.Meaning
import PriorArt.Proofs.Query.CodeRows

/-!
# The parts of built trees

The parts of a built tree lay out rows, as long as those of its leaves do: every word factor is a
text or a nearness that lays out rows, and every group lists codes. This includes what a query has
no notation for, where the logical form of the tree is a factor as it stands.
-/

namespace PriorArt

open Brackets Expr

namespace Parts

/-- Parts whose word factors lay out rows and whose groups list codes. -/
structure IsLaidOut (parts : Parts) : Prop where
  words : ∀ factor ∈ parts.words, factor.IsLaidOut
  classes : ∀ group ∈ parts.classes, ListsCodes group

/-- The parts that search for nothing lay out rows. -/
theorem laid_out_empty : IsLaidOut empty := ⟨nofun, nofun⟩

/-- A factor that lays out rows, alone. -/
theorem laid_out_factor {factor : WordFactor} (laidOut : factor.IsLaidOut) :
    (ofFactor factor).IsLaidOut :=
  ⟨by simpa [ofFactor] using laidOut, nofun⟩

/-- A text that lays out a row, alone. -/
theorem laid_out_text {text : Text} (laidOut : Layout.IsLaidOut text) : (ofText text).IsLaidOut :=
  laid_out_factor (.plain laidOut)

/-- A text that lays out a row is not blank. -/
theorem laid_out_trimmed {text : Text} (laidOut : Layout.IsLaidOut text) :
    (ofTrimmed text).IsLaidOut := by
  obtain ⟨row, laysOut⟩ := laidOut
  rw [ofTrimmed, Text.trim_solid laysOut.tidy.solid]
  split
  · exact laid_out_empty
  · exact laid_out_text ⟨row, laysOut⟩

/-- A group that lists codes, alone. -/
theorem laid_out_class {group : Text} (lists : ListsCodes group) : (ofClass group).IsLaidOut :=
  ⟨nofun, by simpa [ofClass] using lists⟩

/-- Parts that lay out rows do so together. -/
theorem IsLaidOut.append {left right : Parts} (ofLeft : left.IsLaidOut)
    (ofRight : right.IsLaidOut) : (left ++ right).IsLaidOut :=
  ⟨List.forall_mem_append.mpr ⟨ofLeft.words, ofRight.words⟩,
    List.forall_mem_append.mpr ⟨ofLeft.classes, ofRight.classes⟩⟩

/-- Parts that search for words have word factors. -/
theorem words_of_kind {parts : Parts} (kind : parts.kind = .words) : parts.words ≠ [] := by
  intro none
  rw [Parts.kind, none] at kind
  cases content : parts.classes.any (fun group => !group.allBlank) <;> simp [content] at kind

/-- Parts that search for codes have groups. -/
theorem classes_of_kind {parts : Parts} (kind : parts.kind = .classes) : parts.classes ≠ [] := by
  intro none
  rw [Parts.kind, none] at kind
  cases content : parts.words.any WordFactor.hasContent <;> simp [content] at kind

/-- The text of parts that search for words lays out a row. -/
theorem IsLaidOut.text {parts : Parts} (laidOut : parts.IsLaidOut) (kind : parts.kind = .words) :
    Layout.IsLaidOut parts.wordsText :=
  wordsText_laid_out (words_of_kind kind) laidOut.words

/-- A nearness that is taken out of branches is a factor of one of them, and the others are among
them. -/
theorem mem_of_takeNear {branches others : List Parts} {nearness : Nearness}
    (taken : takeNear? branches = some (nearness, others)) :
    (∃ branch ∈ branches, .near nearness ∈ branch.words) ∧
      ∀ other ∈ others, other ∈ branches := by
  induction branches generalizing others with
  | nil => cases taken
  | cons branch rest inductionHypothesis =>
    unfold takeNear? at taken
    split at taken
    · next same => cases same
    · next first classes later same =>
      obtain ⟨rfl, rfl⟩ := List.cons.inj same
      obtain ⟨rfl, rfl⟩ := Prod.mk.inj (Option.some.inj taken)
      refine ⟨⟨⟨[.near first], classes⟩, List.mem_cons_self, by simp⟩, ?_⟩
      exact fun other inside => List.mem_cons_of_mem _ inside
    · next first later _ same =>
      obtain ⟨rfl, rfl⟩ := List.cons.inj same
      split at taken
      · next first further foundLater =>
        obtain ⟨rfl, rfl⟩ := Prod.mk.inj (Option.some.inj taken)
        obtain ⟨⟨source, inside, factor⟩, fromRest⟩ := inductionHypothesis foundLater
        refine ⟨⟨source, by simp [inside], factor⟩, ?_⟩
        intro other listed
        rcases List.mem_cons.mp listed with rfl | further
        · simp
        · simp [fromRest other further]
      · cases taken

/-- The union of branches that search for words lays out rows. -/
theorem laid_out_uniteWords {branches : List Parts} (some : branches ≠ [])
    (each : ∀ branch ∈ branches, branch.IsLaidOut ∧ branch.kind = .words) :
    (uniteWords branches).IsLaidOut := by
  have texts : ∀ branch ∈ branches, Layout.IsLaidOut branch.wordsText :=
    fun branch inside => (each branch inside).1.text (each branch inside).2
  unfold uniteWords
  split
  · next nearness others taken =>
    obtain ⟨⟨source, inside, factor⟩, fromBranches⟩ := mem_of_takeNear taken
    have ofFactor := (each source inside).1.words _ factor
    cases ofFactor with
    | near distance laidOut =>
      refine laid_out_factor (.near distance ⟨laidOut.left, ?_, ?_, laidOut.unit, laidOut.count⟩)
      · simp [Nearness.withAlternatives, laidOut.filled]
      · rw [Nearness.withAlternatives]
        refine List.forall_mem_append.mpr ⟨laidOut.each, ?_⟩
        rw [List.forall_mem_map]
        exact fun other listed => texts other (fromBranches other listed)
  · have someTexts : branches.map wordsText ≠ [] := by simpa using some
    have united := Layout.lays_out_union someTexts (by rw [List.forall_mem_map]; exact texts)
    rw [List.map_map] at united
    exact laid_out_text united

/-- The union of branches that lay out rows lays out rows, if the fallback does. -/
theorem laid_out_unite {fallback : Parts} (ofFallback : fallback.IsLaidOut)
    {branches : List Parts} (each : ∀ branch ∈ branches, branch.IsLaidOut) :
    (unite fallback branches).IsLaidOut := by
  have ofKind : ∀ wanted, ∀ branch ∈ branchesOf wanted branches,
      branch.IsLaidOut ∧ branch.kind = wanted := by
    intro wanted branch inside
    obtain ⟨listed, same⟩ := List.mem_filter.mp inside
    exact ⟨each branch listed, by simpa using same⟩
  have someOf : ∀ wanted, (branches.map Parts.kind).contains wanted →
      branchesOf wanted branches ≠ [] := by
    intro wanted listed
    obtain ⟨branch, inside, same⟩ := List.mem_map.mp (List.contains_iff_mem.mp listed)
    exact List.ne_nil_of_mem (List.mem_filter.mpr ⟨inside, by simpa using same⟩)
  simp only [unite]
  split
  · exact ofFallback
  · split
    · next words => exact laid_out_uniteWords (someOf .words words) (ofKind .words)
    · split
      · next classes =>
        obtain ⟨group, same, lists⟩ := uniteClasses_lists (someOf .classes classes)
          (fun branch inside => ⟨classes_of_kind (ofKind .classes branch inside).2,
            (ofKind .classes branch inside).1.classes⟩)
        rw [same]
        exact laid_out_class lists
      · exact laid_out_empty

/-- The nearness of branches that lay out rows lays out rows, if the fallback does. -/
theorem laid_out_relate {fallback left right : Parts} (ofFallback : fallback.IsLaidOut)
    (ofLeft : left.IsLaidOut) (distance : Distance) (ofRight : right.IsLaidOut) :
    (relate fallback distance left right).IsLaidOut := by
  unfold relate
  split
  · next words =>
    obtain ⟨wordsLeft, wordsRight⟩ : left.kind = .words ∧ right.kind = .words := by
      simpa using words
    refine laid_out_factor (.near distance ⟨ofLeft.text wordsLeft, by simp [Nearness.ofDistance], ?_,
      rfl, rfl⟩)
    simpa [Nearness.ofDistance] using ofRight.text wordsRight
  · exact ofFallback

/-- The brace of branches that lay out rows lays out rows, if the fallback does. -/
theorem laid_out_gather {fallback first second third : Parts} (ofFallback : fallback.IsLaidOut)
    (ofFirst : first.IsLaidOut) (ofSecond : second.IsLaidOut) (ofThird : third.IsLaidOut)
    (count : Nat) : (gather fallback count first second third).IsLaidOut := by
  unfold gather
  split
  · next words =>
    obtain ⟨⟨wordsFirst, wordsSecond⟩, wordsThird⟩ :
        (first.kind = .words ∧ second.kind = .words) ∧ third.kind = .words := by
      simpa using words
    exact laid_out_text (Layout.lays_out_brace (ofFirst.text wordsFirst)
      (ofSecond.text wordsSecond) (ofThird.text wordsThird) count)
  · exact ofFallback

end Parts

/-- A meaning whose leaves lay out rows, with plain names for the references. -/
structure Meaning.LaysOut (meaning : Meaning) (named : Text → Prop) : Prop where
  word : ∀ text, IsPlain text → (meaning.word text).IsLaidOut
  reference : ∀ id, named id → (meaning.reference id).IsLaidOut
  name : ∀ id, named id → IsPlain (meaning.name id)

namespace Expr

/-- A built tree is a text that lays out a row as it stands. -/
theorem IsBuilt.verbatim {meaning : Meaning} {named : Text → Prop}
    (laysOut : meaning.LaysOut named) {expr : Expr} (built : IsBuilt named expr) :
    (verbatim meaning.name expr).IsLaidOut :=
  Parts.laid_out_text ⟨_, built.lays_out laysOut.name⟩

/-- The parts of several operands that lay out rows lay out rows together. -/
theorem laid_out_product {meaning : Meaning} {operands : List Expr}
    (each : ∀ operand ∈ operands, (operand.partsWith meaning).IsLaidOut) :
    (productParts meaning operands).IsLaidOut := by
  induction operands with
  | nil => exact Parts.laid_out_empty
  | cons operand others inductionHypothesis =>
    exact (each operand (by simp)).append
      (inductionHypothesis (fun other inside => each other (by simp [inside])))

/-- The parts of a built tree lay out rows. -/
theorem IsBuilt.laid_out {meaning : Meaning} {named : Text → Prop}
    (laysOut : meaning.LaysOut named) {expr : Expr} (built : IsBuilt named expr) :
    (expr.partsWith meaning).IsLaidOut := by
  induction built with
  | word plain => exact laysOut.word _ plain
  | reference isNamed => exact laysOut.reference _ isNamed
  | @logical connective first second others operands inductionHypothesis =>
    have whole : IsBuilt named (.logical connective first (second :: others)) :=
      .logical connective operands
    cases connective with
    | and =>
      rw [partsWith]
      exact laid_out_product inductionHypothesis
    | or =>
      rw [partsWith, eachParts_eq, ← List.map_cons]
      apply Parts.laid_out_unite (whole.verbatim laysOut)
      rw [List.forall_mem_map]
      exact inductionHypothesis
  | proximity distance ofLeft ofRight leftHypothesis rightHypothesis =>
    exact Parts.laid_out_relate (IsBuilt.verbatim laysOut (.proximity distance ofLeft ofRight))
      leftHypothesis distance rightHypothesis
  | simultaneous count ofFirst ofSecond ofThird firstHypothesis secondHypothesis thirdHypothesis =>
    exact Parts.laid_out_gather
      (IsBuilt.verbatim laysOut (.simultaneous count ofFirst ofSecond ofThird))
      firstHypothesis secondHypothesis thirdHypothesis count

end Expr

end PriorArt
