import PriorArt.Proofs.Expr.Agreement
import PriorArt.Proofs.Query.Written

/-!
# The parts of word trees

A word tree combines plain words by the operators, where no union has a nearness of two among its
operands. Its parts are word factors that write the operands of an intersection, namely the
flattened tree. A nearness among the operands of a union would take the other operands into its
right side, so that the union would come back as a nearness; here this never happens, because the
parts of an operand are a single nearness only if the operand is one.

What words mean is a parameter, of which only plain words must mean themselves.
-/

namespace PriorArt

open Brackets Expr Phrase

/-- A tree of plain words in which every set operator has at least two operands and no union has
a nearness of two among them. -/
inductive IsWordTree : Expr → Prop where
  | word {text : Text} (plain : IsPlain text) : IsWordTree (.word text)
  | intersection {first second : Expr} {others : List Expr}
      (operands : ∀ operand ∈ first :: second :: others, IsWordTree operand) :
      IsWordTree (.logical .and first (second :: others))
  | union {first second : Expr} {others : List Expr}
      (operands : ∀ operand ∈ first :: second :: others, IsWordTree operand)
      (apart : ∀ operand ∈ first :: second :: others, ∀ distance left right,
        operand ≠ .proximity distance left right) :
      IsWordTree (.logical .or first (second :: others))
  | proximity (distance : Distance) {left right : Expr} (ofLeft : IsWordTree left)
      (ofRight : IsWordTree right) : IsWordTree (.proximity distance left right)
  | simultaneous (count : Nat) {first second third : Expr} (ofFirst : IsWordTree first)
      (ofSecond : IsWordTree second) (ofThird : IsWordTree third) :
      IsWordTree (.simultaneous count first second third)

/-- A word factor that writes an expression, both as a text and in the form of a query. -/
structure FactorWrites (factor : WordFactor) (expr : Expr) : Prop where
  text : WritesFactor factor.text expr
  rendered : ∃ text, factor.render? = some text ∧ IsTidy text ∧ SaysAtom text expr
  content : factor.hasContent = true

/-- A word factor that says an expression in the form of a query. -/
def FactorSays (factor : WordFactor) (expr : Expr) : Prop :=
  ∃ text, factor.render? = some text ∧ IsTidy text ∧ SaysAtom text expr

/-- A written factor says the expression that it writes. -/
theorem FactorWrites.said {factor : WordFactor} {expr : Expr} (write : FactorWrites factor expr) :
    FactorSays factor expr := write.rendered

/-- A written text is a factor as it stands. -/
theorem plain_writes {text : Text} {expr : Expr} (written : WritesFactor text expr) :
    FactorWrites (.plain text) expr where
  text := by
    rw [WordFactor.text, Text.trim_solid written.tidy.solid]
    exact written
  rendered := by
    have filled : (strip text).isEmpty = false := by
      rw [strip_bare written.tidy.solid written.bare]
      simp [written.filled]
    refine ⟨renderWord text, ?_, ?_, written.enclosed.fielded⟩
    · simp [WordFactor.render?, filled]
    · exact (written.tidy.regroup written.bare).fielded .text
  content := by
    rw [WordFactor.hasContent, Text.not_allBlank_of_solid written.tidy.solid written.filled]
    rfl

/-- A nearness of two written texts is a factor. -/
theorem near_writes {leftText rightText : Text} {left right : Expr}
    (writtenLeft : Writes leftText left) (distance : Distance)
    (writtenRight : Writes rightText right) :
    FactorWrites (.near (.ofDistance leftText rightText distance))
      (.proximity distance left right) where
  text := by
    have asText : (WordFactor.near (.ofDistance leftText rightText distance)).text =
        regroup leftText ++ ',' :: distance.text ++ ',' :: regroup rightText := by
      simp [WordFactor.text, Nearness.text, Nearness.ofDistance, Nearness.reach, signedDecimal,
        Distance.text, regroup]
    rw [asText]
    exact writes_near writtenLeft distance writtenRight
  rendered := by
    have asQuery : (Nearness.ofDistance leftText rightText distance).render =
        '[' :: (regroup leftText ++ ',' :: distance.text ++ ',' ::
          (regroup rightText ++ Field.text.suffix.toList)) ++ [']'] := by
      simp [Nearness.render, Nearness.ofDistance, Nearness.reach, signedDecimal, Distance.text,
        renderWord]
    have tidyLeft := writtenLeft.tidy.regroup writtenLeft.bare
    have tidyRight := (writtenRight.tidy.regroup writtenRight.bare).fielded .text
    have tidy := tidy_sign (by decide : IsSign ',') tidyLeft
      (tidy_sign (by decide : IsSign ',') (tidy_distance distance) tidyRight)
    refine ⟨_, rfl, ?_, ?_⟩
    · rw [asQuery]
      have whole := tidy.bracketed
      simpa using whole
    · rw [asQuery]
      exact says_bracket (says_proximity writtenLeft.product distance writtenRight.fielded)
  content := rfl

/-- Parts without groups of codes whose factors write expressions. -/
structure PartsWrite (parts : Parts) (exprs : List Expr) : Prop where
  words : List.Forall₂ FactorWrites parts.words exprs
  classes : parts.classes = []

/-- Parts that write expressions search for words. -/
theorem PartsWrite.kind {parts : Parts} {expr : Expr} {exprs : List Expr}
    (write : PartsWrite parts (expr :: exprs)) : parts.kind = .words := by
  obtain ⟨words, classes⟩ := parts
  obtain ⟨write, noClasses⟩ := write
  cases write with
  | cons first others => simp_all [Parts.kind, first.content]

/-- The factors of parts that write expressions have texts that write them, and the text of the parts
leaves none of these out. -/
theorem PartsWrite.texts {parts : Parts} {exprs : List Expr} (write : PartsWrite parts exprs) :
    List.Forall₂ WritesFactor (parts.words.map WordFactor.text) exprs ∧
      (parts.words.map WordFactor.text).filter (fun text => !text.isEmpty) =
        parts.words.map WordFactor.text := by
  have written : List.Forall₂ WritesFactor (parts.words.map WordFactor.text) exprs := by
    rw [List.forall₂_map_left_iff]
    exact write.words.imp (fun _ _ one => one.text)
  refine ⟨written, List.filter_eq_self.mpr ?_⟩
  exact forall_left (fun text _ one => by simpa using one.filled) written

/-- The text of parts that write expressions writes their intersection. -/
theorem PartsWrite.text {parts : Parts} {expr : Expr} {exprs : List Expr}
    (write : PartsWrite parts (expr :: exprs)) :
    Writes parts.wordsText (.logical .and expr exprs) := by
  obtain ⟨written, kept⟩ := write.texts
  rw [Parts.wordsText, kept]
  generalize parts.words.map WordFactor.text = texts at written
  cases written with
  | @cons text _ texts _ first others =>
    cases others with
    | nil => exact first.writes.congr (flatten_alone .and expr).symm
    | @cons next nextExpr rest restExprs second later =>
      exact writes_product (.cons first (.cons second later))

/-- The text of parts that write several expressions shows no compound mark outside of brackets. -/
theorem PartsWrite.not_compound {parts : Parts} {first second : Expr} {others : List Expr}
    (write : PartsWrite parts (first :: second :: others)) :
    hasTopLevel compoundMarks parts.wordsText = false := by
  obtain ⟨written, kept⟩ := write.texts
  rw [Parts.wordsText, kept]
  generalize parts.words.map WordFactor.text = texts at written
  cases written with
  | cons ofFirst later =>
    cases later with
    | cons ofSecond rest => exact stars_not_compound (.cons ofFirst (.cons ofSecond rest))

/-- Two parts together write the expressions of the one and then those of the other. -/
theorem PartsWrite.append {left right : Parts} {lefts rights : List Expr}
    (writeLeft : PartsWrite left lefts) (writeRight : PartsWrite right rights) :
    PartsWrite (left ++ right) (lefts ++ rights) where
  words := List.rel_append writeLeft.words writeRight.words
  classes := by
    have both : (left ++ right).classes = left.classes ++ right.classes := rfl
    rw [both, writeLeft.classes, writeRight.classes, List.append_nil]

/-- Parts that translate a tree: they write the operands of its intersection, at least one, and
are a single nearness only if the tree is a nearness of two. -/
structure Translates (tree : Expr) (parts : Parts) : Prop where
  write : ∃ first others, PartsWrite parts (first :: others) ∧
    flattenAll .and (first :: others) = operandList .and tree.flatten
  near : ∀ nearness, parts.words = [.near nearness] →
    ∃ distance left right, tree = .proximity distance left right

/-- The parts that translate a tree search for words. -/
theorem Translates.kind {tree : Expr} {parts : Parts} (translates : Translates tree parts) :
    parts.kind = .words := by
  obtain ⟨first, others, write, _⟩ := translates.write
  exact write.kind

/-- The text of the parts that translate a tree writes the tree. -/
theorem Translates.text {tree : Expr} {parts : Parts} (translates : Translates tree parts) :
    Writes parts.wordsText tree := by
  obtain ⟨first, others, write, same⟩ := translates.write
  apply write.text.congr
  apply flatten_eq_of_operandList .and
  rw [operandList_logical_all, same]

/-- A single factor that is no nearness translates what it writes. -/
theorem translates_plain {text : Text} {tree : Expr} (written : WritesFactor text tree) :
    Translates tree (.ofText text) where
  write := ⟨tree, [], ⟨.cons (plain_writes written) .nil, rfl⟩, by simp [flattenAll]⟩
  near := by
    intro nearness same
    cases same

/-- A branch that is no single nearness is passed over and stays in front of the others. -/
theorem takeNear_cons {branch : Parts} (apart : ∀ nearness, branch.words ≠ [.near nearness])
    (rest : List Parts) :
    Parts.takeNear? (branch :: rest) =
      (Parts.takeNear? rest).map (Prod.map id (branch :: ·)) := by
  rw [Parts.takeNear?]
  · cases Parts.takeNear? rest with
    | none => rfl
    | some pair => rfl
  · rintro nearness classes rfl
    exact apart nearness rfl

/-- Branches that are no single nearness are passed over and stay in front of the others. -/
theorem takeNear_append {before : List Parts}
    (apart : ∀ branch ∈ before, ∀ nearness, branch.words ≠ [.near nearness]) (rest : List Parts) :
    Parts.takeNear? (before ++ rest) = (Parts.takeNear? rest).map (Prod.map id (before ++ ·)) := by
  induction before with
  | nil =>
    cases found : Parts.takeNear? rest with
    | none => exact found
    | some pair => exact found
  | cons branch later inductionHypothesis =>
    obtain ⟨ofBranch, ofLater⟩ := List.forall_mem_cons.mp apart
    rw [List.cons_append, takeNear_cons ofBranch, inductionHypothesis ofLater, Option.map_map]
    rfl

/-- Without a branch that is a single nearness no nearness is taken out. -/
theorem takeNear_none {branches : List Parts}
    (apart : ∀ branch ∈ branches, ∀ nearness, branch.words ≠ [.near nearness]) :
    Parts.takeNear? branches = none := by
  have passed := takeNear_append apart []
  rwa [List.append_nil] at passed

/-- The first branch that is a single nearness is taken out. -/
theorem takeNear_some {before : List Parts}
    (apart : ∀ branch ∈ before, ∀ nearness, branch.words ≠ [.near nearness])
    (nearness : Nearness) (after : List Parts) :
    Parts.takeNear? (before ++ .ofFactor (.near nearness) :: after) =
      some (nearness, before ++ after) :=
  takeNear_append apart _

/-- The kinds of branches of one kind. -/
theorem contains_kind {kind : ContentKind} {branch : Parts} {rest : List Parts}
    (kinds : ∀ part ∈ branch :: rest, part.kind = kind) (other : ContentKind) :
    ((branch :: rest).map Parts.kind).contains other = decide (other = kind) := by
  have same : (branch :: rest).map Parts.kind = List.replicate (rest.length + 1) kind := by
    rw [List.eq_replicate_iff]
    simpa using kinds
  rw [same]
  simp [eq_comm]

/-- The branches of the only kind that there is are all of them. -/
theorem branchesOf_kind {kind : ContentKind} {branches : List Parts}
    (kinds : ∀ part ∈ branches, part.kind = kind) : Parts.branchesOf kind branches = branches := by
  rw [Parts.branchesOf, List.filter_eq_self]
  intro part inside
  simp [kinds part inside]

/-- The union of branches that all search for words. -/
theorem unite_of_words {fallback branch : Parts} {rest : List Parts}
    (kinds : ∀ part ∈ branch :: rest, part.kind = .words) :
    Parts.unite fallback (branch :: rest) = Parts.uniteWords (branch :: rest) := by
  simp only [Parts.unite, contains_kind kinds, branchesOf_kind kinds]
  rfl

/-- The union of trees that are translated, none of which is a single nearness. -/
theorem translates_union {first second : Expr} {others : List Expr} {parts : Expr → Parts}
    (translated : ∀ operand ∈ first :: second :: others, Translates operand (parts operand))
    (apart : ∀ operand ∈ first :: second :: others, ∀ distance left right,
      operand ≠ .proximity distance left right) (fallback : Parts) :
    Translates (.logical .or first (second :: others))
      (Parts.unite fallback ((first :: second :: others).map parts)) := by
  have kinds : ∀ part ∈ (first :: second :: others).map parts, part.kind = .words := by
    rw [List.forall_mem_map]
    exact fun operand inside => (translated operand inside).kind
  have noNear : ∀ part ∈ (first :: second :: others).map parts, ∀ nearness,
      part.words ≠ [.near nearness] := by
    rw [List.forall_mem_map]
    intro operand inside nearness same
    obtain ⟨distance, left, right, nearOperand⟩ := (translated operand inside).near nearness same
    exact apart operand inside distance left right nearOperand
  have written : List.Forall₂ Writes
      ((first :: second :: others).map (fun operand => (parts operand).wordsText))
      (first :: second :: others) := by
    rw [List.forall₂_map_left_iff, List.forall₂_same]
    exact fun operand inside => (translated operand inside).text
  have stripped : ((first :: second :: others).map parts).map
        (fun branch => parenthesized (strip branch.wordsText)) =
      ((first :: second :: others).map (fun operand => (parts operand).wordsText)).map
        parenthesized := by
    rw [List.map_map, List.map_map]
    apply List.map_congr_left
    intro operand inside
    have text := (translated operand inside).text
    simp only [Function.comp_apply, strip_bare text.tidy.solid text.bare]
  rw [List.map_cons] at kinds noNear
  rw [List.map_cons, unite_of_words kinds, Parts.uniteWords, takeNear_none noNear]
  simp only
  rw [← List.map_cons, stripped]
  exact translates_plain (writes_sum written)

/-- The parts of several operands together. -/
theorem translates_all {exprs : List Expr} {meaning : Meaning}
    (translated : ∀ operand ∈ exprs, Translates operand (operand.partsWith meaning)) :
    ∃ operands, PartsWrite (productParts meaning exprs) operands ∧
      flattenAll .and operands = flattenAll .and exprs ∧ exprs.length ≤ operands.length := by
  induction exprs with
  | nil => exact ⟨[], ⟨.nil, rfl⟩, rfl, Nat.le_refl 0⟩
  | cons expr others inductionHypothesis =>
    obtain ⟨later, writeLater, sameLater, enough⟩ :=
      inductionHypothesis (fun operand inside => translated operand (by simp [inside]))
    obtain ⟨first, further, write, same⟩ := (translated expr (by simp)).write
    refine ⟨(first :: further) ++ later, write.append writeLater, ?_, ?_⟩
    · rw [flattenAll_append, same, sameLater, flattenAll]
    · simp only [List.length_append, List.length_cons]
      omega

/-- The intersection of several trees that are translated. -/
theorem translates_intersection {first second : Expr} {others : List Expr} {meaning : Meaning}
    (translated : ∀ operand ∈ first :: second :: others,
      Translates operand (operand.partsWith meaning)) :
    Translates (.logical .and first (second :: others))
      (productParts meaning (first :: second :: others)) := by
  obtain ⟨operands, write, same, enough⟩ := translates_all translated
  cases operands with
  | nil => simp at enough
  | cons head tail =>
    refine ⟨⟨head, tail, write, ?_⟩, ?_⟩
    · rw [same, operandList_logical_all]
    · intro nearness single
      have numbers := write.words.length_eq
      rw [single] at numbers
      simp only [List.length_cons, List.length_nil] at numbers enough
      omega

/-- Two branches that search for words are related as a nearness of their texts. -/
theorem relate_of_words {left right : Parts} (ofLeft : left.kind = .words)
    (ofRight : right.kind = .words) (fallback : Parts) (distance : Distance) :
    Parts.relate fallback distance left right =
      .ofFactor (.near (.ofDistance left.wordsText right.wordsText distance)) := by
  simp [Parts.relate, ofLeft, ofRight]

/-- The nearness of two trees that are translated. -/
theorem translates_near {left right : Expr} {leftParts rightParts : Parts}
    (translatesLeft : Translates left leftParts) (distance : Distance)
    (translatesRight : Translates right rightParts) (fallback : Parts) :
    Translates (.proximity distance left right)
      (Parts.relate fallback distance leftParts rightParts) := by
  have written := near_writes translatesLeft.text distance translatesRight.text
  rw [relate_of_words translatesLeft.kind translatesRight.kind]
  exact ⟨⟨_, [], ⟨.cons written .nil, rfl⟩, by simp [flattenAll]⟩,
    fun _ _ => ⟨distance, left, right, rfl⟩⟩

/-- The brace of three trees that are translated. -/
theorem translates_brace {first second third : Expr} {firstParts secondParts thirdParts : Parts}
    (translatesFirst : Translates first firstParts)
    (translatesSecond : Translates second secondParts)
    (translatesThird : Translates third thirdParts) (count : Nat) (fallback : Parts) :
    Translates (.simultaneous count first second third)
      (Parts.gather fallback count firstParts secondParts thirdParts) := by
  have gathered : Parts.gather fallback count firstParts secondParts thirdParts =
      .ofText (bracedText (regroup firstParts.wordsText) (regroup secondParts.wordsText)
        (regroup thirdParts.wordsText) count) := by
    simp [Parts.gather, translatesFirst.kind, translatesSecond.kind, translatesThird.kind]
  rw [gathered]
  exact translates_plain
    (writes_brace translatesFirst.text translatesSecond.text translatesThird.text count)

/-- The parts of every word tree translate it, if plain words mean themselves. The induction
follows the tree; the length of chains and the depth of nesting play no part. -/
theorem word_tree_translates {meaning : Meaning} {tree : Expr}
    (plainWords : ∀ word, IsPlain word → meaning.word word = .ofTrimmed word)
    (wordTree : IsWordTree tree) : Translates tree (tree.partsWith meaning) := by
  induction wordTree with
  | @word text plain =>
    have means : meaning.word text = .ofText text := by
      rw [plainWords text plain, Parts.ofTrimmed, Text.trim_solid plain.tidy.solid]
      split
      · exact absurd rfl plain.filled
      · rfl
    rw [partsWith, means]
    exact translates_plain (writes_word plain)
  | intersection operands inductionHypothesis =>
    exact translates_intersection inductionHypothesis
  | union operands apart inductionHypothesis =>
    rw [partsWith, eachParts_eq, ← List.map_cons]
    exact translates_union inductionHypothesis apart _
  | proximity distance ofLeft ofRight leftHypothesis rightHypothesis =>
    exact translates_near leftHypothesis distance rightHypothesis _
  | simultaneous count ofFirst ofSecond ofThird firstHypothesis secondHypothesis thirdHypothesis =>
    exact translates_brace firstHypothesis secondHypothesis thirdHypothesis count _

end PriorArt
