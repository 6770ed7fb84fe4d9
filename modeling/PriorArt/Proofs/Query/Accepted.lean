import PriorArt.Proofs.Query.Distances
import PriorArt.Proofs.Query.PartsLaidOut

/-!
# Accepted queries

A query is accepted if its text is read, which is so unless a bracket holds two distances, and if
all of its factors are sound. Word factors are sound always. A group of codes is sound if it is a
union of codes: a star in it, which comes from a union over several groups, is refused.

An outcome says this of the text of a query, and of the text of a factor that further factors may
follow behind a star. A word factor may say several factors, since the stars in it are not
enclosed.
-/

namespace PriorArt

open Brackets Expr Layout Phrase

/-- Several phrases have factors if each of them has one. -/
theorem Phrase.factorsOf_ok {phrase : Phrase} {phrases : List Phrase} :
    (∃ factors, factorsOf (phrase :: phrases) = .ok factors) ↔
      (∃ factor, phrase.factor = .ok factor) ∧ ∃ factors, factorsOf phrases = .ok factors := by
  rw [factorsOf]
  cases first : phrase.factor with
  | error fault => simp [Bind.bind, Except.bind]
  | ok factor =>
    cases others : factorsOf phrases with
    | error fault => simp [Bind.bind, Except.bind]
    | ok factors => simp [Bind.bind, Except.bind, Pure.pure, Except.pure]

/-- The text of a query that is accepted if its distances fit and it is sound. -/
structure QueryOutcome (text : Text) (sound : Prop) : Prop where
  tidy : IsTidy text
  filled : text ≠ []
  read : ∃ operands legible, ProductOutcome text operands legible ∧
    ((∃ factors, factorsOf (operands.1 :: operands.2) = .ok factors) ↔ sound) ∧
    ∀ rest, distancesFit [0] (text ++ rest) = (legible && distancesFit [0] rest)

/-- The text of a factor, which is such a query alone, and in front of one. -/
structure FactorOutcome (text : Text) (sound : Prop) : Prop where
  alone : QueryOutcome text sound
  before : ∀ {more : Text} {soundMore : Prop}, QueryOutcome more soundMore →
    QueryOutcome (text ++ '*' :: more) (sound ∧ soundMore)

/-- A query is accepted if its distances fit and it is sound. -/
theorem QueryOutcome.accepted {text : Text} {sound : Prop} (outcome : QueryOutcome text sound) :
    (∃ factors, Query.parse text = .ok factors) ↔ distancesFit [0] text = true ∧ sound := by
  obtain ⟨operands, legible, reads, factors, counted⟩ := outcome.read
  have whole := counted []
  rw [List.append_nil, distancesFit, Bool.and_true] at whole
  simp only [parse_outcome outcome.tidy outcome.filled reads, exists_and_left, factors, whole]

/-- An atom of a query that has a factor if it is sound. -/
theorem Phrase.AtomOutcome.factor {text : Text} {phrase : Phrase} {legible : Bool} {sound : Prop}
    (outcome : AtomOutcome text phrase legible) (tidy : IsTidy text) (filled : text ≠ [])
    (factor : (∃ factor, phrase.factor = .ok factor) ↔ sound)
    (counted : ∀ rest, distancesFit [0] (text ++ rest) = (legible && distancesFit [0] rest)) :
    FactorOutcome text sound where
  alone := by
    refine ⟨tidy, filled, _, legible, outcome.union.product, ?_, counted⟩
    have none : ∃ factors, factorsOf [] = .ok factors := ⟨[], rfl⟩
    rw [factorsOf_ok, iff_true_intro none, and_true]
    exact factor
  before := by
    rintro more soundMore ⟨tidyMore, filledMore, operands, legibleMore, reads, factors, countedMore⟩
    refine ⟨tidy_sign (by decide) tidy tidyMore, by simp, _, _,
      ProductOutcome.cons outcome.union reads, ?_, ?_⟩
    · rw [factorsOf_ok, factors]
      exact and_congr_left' factor
    · intro rest
      rw [List.append_assoc, List.cons_append, counted, distancesFit_uncounted (by simp [IsUncounted]),
        countedMore, Bool.and_assoc]

/-- Two factors with a star between them. -/
theorem FactorOutcome.star {text more : Text} {sound soundMore : Prop}
    (front : FactorOutcome text sound) (back : FactorOutcome more soundMore) :
    FactorOutcome (text ++ '*' :: more) (sound ∧ soundMore) where
  alone := front.before back.alone
  before := by
    intro further soundFurther query
    have both := front.before (back.before query)
    rwa [← and_assoc, ← List.cons_append, ← List.append_assoc] at both

/-- Several factors with stars between them. -/
theorem factor_outcome_join {α : Type} (write : α → Text) (sound : α → Prop) {members : List α}
    (some : members ≠ []) (each : ∀ member ∈ members, FactorOutcome (write member) (sound member)) :
    FactorOutcome (Text.join '*' (members.map write)) (∀ member ∈ members, sound member) := by
  induction members with
  | nil => exact absurd rfl some
  | cons member others inductionHypothesis =>
    rw [List.forall_mem_cons]
    cases others with
    | nil => simpa using each member (by simp)
    | cons next rest =>
      rw [List.map_cons, Text.join_cons (by simp)]
      exact (each member (by simp)).star (inductionHypothesis (by simp)
        (fun other inside => each other (by simp [inside])))

namespace Layout

/-- An atom is a factor. -/
theorem Atom.factor_outcome (atom : Atom) (proper : atom.IsProper) :
    FactorOutcome atom.text True := by
  refine (Atom.outcome atom proper).factor (Atom.tidy atom proper) (Atom.filled atom proper) ?_ ?_
  · exact iff_true_intro ⟨_, Atom.verbal atom⟩
  · exact fun rest => Atom.distancesFit atom proper 0 [] rest

/-- A row without compound marks is a factor for each of its atoms. -/
theorem Row.factor_outcome (row : Row) (proper : row.IsProper) (simple : row.isCompound = false) :
    FactorOutcome row.text True := by
  cases row with
  | last atom => exact Atom.factor_outcome atom proper
  | more atom separator rest =>
    simp only [Row.isCompound, Bool.or_eq_false_iff] at simple
    cases separator with
    | plus => exact absurd simple.1.2 (by decide)
    | near distance => exact absurd simple.1.2 (by simp [Separator.isCompound])
    | star =>
      have both := (Atom.factor_outcome atom proper.1).star
        (Row.factor_outcome rest proper.2 simple.2)
      simpa [Row.text, Separator.text] using both

/-- The text field makes no difference to the compound marks of a row. -/
theorem Row.compound_mark (row : Row) : row.mark.isCompound = row.isCompound := by
  cases row with
  | last atom => cases atom <;> rfl
  | more atom separator rest =>
    have later := Row.compound_mark rest
    simp [Row.mark, Row.isCompound, later]

/-- The counting passes over a row in square brackets if the row can be read inside of them. -/
theorem Row.distancesFit_bracketed (row : Row) (proper : row.IsProper) (rest : Text) :
    PriorArt.distancesFit [0] ('[' :: row.text ++ [']'] ++ rest) =
      (row.fits && PriorArt.distancesFit [0] rest) := by
  have assembled : '[' :: row.text ++ [']'] ++ rest = '[' :: (row.text ++ ']' :: rest) := by simp
  have allowed : decide ((0 : Int) + 2 * row.distances ≤ 2) = decide (row.distances ≤ 1) := by
    rw [decide_eq_decide]
    omega
  rw [assembled, PriorArt.distancesFit, Row.distancesFit row proper, PriorArt.distancesFit, allowed,
    Row.fits, Bool.and_assoc]

/-- A row in square brackets is a factor. -/
theorem Row.factor_bracketed (row : Row) (proper : row.IsProper) :
    FactorOutcome ('[' :: row.text ++ [']']) True := by
  refine (Row.reads row proper).inside.bracket.factor (Row.tidy row proper).bracketed (by simp) ?_
    (row.distancesFit_bracketed proper)
  exact iff_true_intro ⟨_, (Row.verbal row).inside⟩

/-- A text that lays out a row is, in the text field, the row of its regrouped atoms. -/
theorem LaysOut.renderWord {text : Text} {row : Row} (laysOut : LaysOut text row) :
    renderWord text = row.regrouped.mark.text := by
  rw [PriorArt.renderWord, laysOut.regroup, Row.text_mark _ (Row.open_regrouped laysOut.isOpen)]

end Layout

/-- A text that lays out a row is a factor in the text field. -/
theorem factor_outcome_word {text : Text} (laidOut : Layout.IsLaidOut text) :
    FactorOutcome (renderWord text) True := by
  obtain ⟨row, laysOut⟩ := laidOut
  rw [laysOut.renderWord]
  apply Row.factor_outcome
  · exact (Row.proper_mark _).mpr (Row.proper_regrouped laysOut.proper)
  · rw [Row.compound_mark, Row.not_compound_regrouped]

/-- In the form of a query, a nearness is a row in square brackets. Every alternative on its right
side is enclosed where it shows compound marks, and is in the text field. -/
theorem Nearness.IsLaidOut.render_row {nearness : Nearness} {distance : Distance}
    {alternative : Text} {others : List Text} {leftRow : Row} {row : Text → Row}
    (laidOut : nearness.IsLaidOut distance)
    (alternatives : nearness.alternatives = alternative :: others)
    (laysLeft : LaysOut nearness.left leftRow)
    (laysOut : ∀ text ∈ alternative :: others, LaysOut text (row text)) :
    nearness.render = '[' :: (leftRow.regrouped.append (.near distance)
        (.joined .or (row alternative).regrouped.mark
          (others.map (fun text => (row text).regrouped.mark)))).text ++ [']'] ∧
      (leftRow.regrouped.append (.near distance)
        (.joined .or (row alternative).regrouped.mark
          (others.map (fun text => (row text).regrouped.mark)))).IsProper := by
  have written := text_joined_texts .or renderWord (fun text => (row text).regrouped.mark)
    (fun member inside => (laysOut member inside).renderWord)
  simp only [Connective.sign] at written
  constructor
  · rw [Nearness.render, alternatives, written, laysLeft.regroup, laidOut.reach, Row.text_append,
      List.cons_append, List.cons_append]
  · rw [Row.proper_append, Row.proper_joined, ← List.map_cons
      (f := fun text => (row text).regrouped.mark), List.forall_mem_map]
    exact ⟨Row.proper_regrouped laysLeft.proper, fun member inside =>
      (Row.proper_mark _).mpr (Row.proper_regrouped (laysOut member inside).proper)⟩

/-- A nearness of texts that lay out rows is a factor. -/
theorem Nearness.IsLaidOut.factor_outcome {nearness : Nearness} {distance : Distance}
    (laidOut : nearness.IsLaidOut distance) : FactorOutcome nearness.render True := by
  obtain ⟨leftRow, laysLeft⟩ := laidOut.left
  obtain ⟨row, laysOut⟩ := rows_of_texts laidOut.each
  cases alternatives : nearness.alternatives with
  | nil => exact absurd alternatives laidOut.filled
  | cons alternative others =>
    rw [alternatives] at laysOut
    obtain ⟨written, proper⟩ := laidOut.render_row alternatives laysLeft laysOut
    rw [written]
    exact Row.factor_bracketed _ proper

/-- A word factor that lays out rows is written, and is a factor. -/
theorem WordFactor.IsLaidOut.factor_outcome {factor : WordFactor} (laidOut : factor.IsLaidOut) :
    ∃ text, factor.render? = some text ∧ FactorOutcome text True := by
  cases laidOut with
  | plain laidOut =>
    have outcome := factor_outcome_word laidOut
    obtain ⟨row, laysOut⟩ := laidOut
    refine ⟨_, ?_, outcome⟩
    simp [render?, laysOut.strip, row.filled laysOut.proper]
  | near distance laidOut => exact ⟨_, rfl, laidOut.factor_outcome⟩

/-- There is no star in a plain word. -/
theorem IsPlain.no_star {word : Text} (plain : IsPlain word) : '*' ∉ word := by
  intro inside
  rcases (term_chars plain.term).2 '*' inside with termChar | slash
  · exact absurd termChar (by decide)
  · exact absurd slash (by decide)

/-- There is no star in a union of plain codes. -/
theorem ArePlain.no_star {codes : List Text} (plain : ∀ code ∈ codes, IsPlain code) :
    '*' ∉ Text.join '+' codes := by
  induction codes with
  | nil => simp [Text.join]
  | cons code others inductionHypothesis =>
    have first := (plain code (by simp)).no_star
    cases others with
    | nil => simpa using first
    | cons next rest =>
      have later := inductionHypothesis (fun other inside => plain other (by simp [inside]))
      rw [Text.join_cons (by simp)]
      simp [first, later]

namespace Layout

/-- A row without distances that does not keep to union has a star. -/
theorem Row.star_mem {row : Row} (keeps : row.KeepsTo .and) (broken : ¬ row.KeepsTo .or) :
    '*' ∈ row.text := by
  cases row with
  | last atom => exact absurd trivial broken
  | more atom separator rest =>
    cases separator with
    | star => simp [Row.text, Separator.text]
    | near distance => exact absurd keeps.1 (by simp [Separator.isWithin])
    | plus =>
      have later := Row.star_mem keeps.2 (fun keepsRest => broken ⟨rfl, keepsRest⟩)
      simp [Row.text, later]

/-- A row without distances that does not keep to union says an intersection. -/
theorem Row.said_intersection {row : Row} (keeps : row.KeepsTo .and)
    (broken : ¬ row.KeepsTo .or) :
    ∃ first second others, row.said = .logical .and first (second :: others) := by
  have noDistance := keeps.no_distance
  have noChain := (of_behind_none row ((behind_none_iff row).mpr noDistance)).2.2.2
  have whole : row.said = (wholeProduct row.reading.product).said := by
    rw [Row.said, Reading.inside, noChain]
  rw [whole, said_wholeProduct, Reading.product]
  cases factors : row.reading.factors with
  | nil => exact absurd (keeps_of_no_factors noDistance factors) broken
  | cons second others => exact ⟨_, _, _, rfl⟩

end Layout

/-- A row of codes keeps to union if there is no star in it. -/
theorem IsCodeRow.keeps_iff {row : Row} (ofRow : IsCodeRow row) :
    row.KeepsTo .or ↔ '*' ∉ row.text := by
  constructor
  · intro keeps
    obtain ⟨codes, plain, same⟩ := ofRow.union keeps
    rw [same]
    exact ArePlain.no_star plain.plain
  · intro noStar
    by_contra broken
    exact noStar (Row.star_mem ofRow.keeps broken)

/-- A row of codes in a classification field has a factor if there is no star in it. -/
theorem IsCodeRow.fault {row : Row} (ofRow : IsCodeRow row) (star : '*' ∈ row.text)
    (others : List Phrase) (second : Phrase) :
    ¬ ∃ factor, (Phrase.bracket (.union (.fielded (.group row.reading.inside) .primaryClass) second
      others)).factor = .ok factor := by
  have broken : ¬ row.KeepsTo .or := fun keeps => ofRow.keeps_iff.mp keeps star
  obtain ⟨first, next, rest, said⟩ := Row.said_intersection ofRow.keeps broken
  have inside : (Phrase.group row.reading.inside).factor =
      .ok (.words (.logical .and first (next :: rest))) := by
    rw [← said]
    exact (Row.verbal row).inside
  have fielded : (Phrase.fielded (.group row.reading.inside) .primaryClass).factor =
      .error (.codes (.intersection (.logical .and first (next :: rest)))) := by
    rw [Phrase.factor, inside]
    rfl
  rintro ⟨factor, accepted⟩
  rw [Phrase.factor, Phrase.factor, fielded] at accepted
  cases accepted

/-- A group of codes in the form of a query, where the fields are shown. -/
theorem IsCodeRow.written {row : Row} (ofRow : IsCodeRow row) :
    renderClass (parenthesized row.text) =
      '[' :: (parenthesized row.text ++ Field.primaryClass.suffix.toList
        ++ '+' :: (parenthesized row.text ++ Field.furtherClass.suffix.toList)) ++ [']'] := by
  have laysOut := ofRow.clean.lays_out_enclosed
  rw [renderClass, laysOut.strip]
  simp

/-- A row of codes is read in both classification fields, and has a factor if there is no star in
it. -/
theorem IsCodeRow.reads {row : Row} (ofRow : IsCodeRow row) :
    ∃ phrase, ReadsAtom (renderClass (parenthesized row.text)) phrase ∧
      ((∃ factor, phrase.factor = .ok factor) ↔ '*' ∉ row.text) := by
  by_cases star : '*' ∈ row.text
  · have legible : (row.legible && decide (row.distances ≤ 1)) = true := ofRow.fits
    have inside := (Row.reads row ofRow.clean.proper).inside
    rw [legible] at inside
    have group : ReadsOpen (parenthesized row.text) (.group row.reading.inside) :=
      reads_group inside
    have both := (group.fielded .furtherClass).union.cons (group.fielded .primaryClass)
    rw [ofRow.written]
    exact ⟨_, reads_bracket both.product.inside,
      iff_of_false (ofRow.fault star _ _) (fun noStar => noStar star)⟩
  · obtain ⟨codes, plain, same⟩ := ofRow.union (ofRow.keeps_iff.mpr star)
    obtain ⟨text, written, _, phrase, reads, factor⟩ := reads_span plain
    rw [← same, renderClass?] at written
    split at written
    · cases written
    · obtain rfl := Option.some.inj written
      exact ⟨phrase, reads, iff_of_true ⟨_, factor⟩ star⟩

/-- The counting passes over a group of codes. -/
theorem IsCodeRow.distancesFit {row : Row} (ofRow : IsCodeRow row) (rest : Text) :
    distancesFit [0] (renderClass (parenthesized row.text) ++ rest) =
      PriorArt.distancesFit [0] rest := by
  have group : ∀ rest, PriorArt.distancesFit [0, 0] (parenthesized row.text ++ rest) =
      PriorArt.distancesFit [0, 0] rest := by
    intro rest
    have proper : (Atom.group row false).IsProper := ofRow.clean.proper
    have legible : (Atom.group row false).legible = true := ofRow.fits
    have counted := Atom.distancesFit _ proper 0 [0] rest
    rwa [legible, Bool.true_and, Atom.text, suffix, if_neg (by simp), List.append_nil] at counted
  have field : ∀ field : Field, ∀ character ∈ field.suffix.toList, IsUncounted character := by
    intro field
    cases field <;> simp [Field.suffix, IsUncounted]
  have assembled : renderClass (parenthesized row.text) ++ rest =
      '[' :: (parenthesized row.text ++ (Field.primaryClass.suffix.toList
        ++ '+' :: (parenthesized row.text ++ (Field.furtherClass.suffix.toList
        ++ ']' :: rest)))) := by
    rw [ofRow.written]
    simp
  rw [assembled, PriorArt.distancesFit, group, distancesFit_run (field .primaryClass),
    distancesFit_uncounted (by simp [IsUncounted]), group, distancesFit_run (field .furtherClass),
    PriorArt.distancesFit]
  rfl

/-- A group that lists codes is written, and is a factor if there is no star in it. -/
theorem ListsCodes.factor_outcome {group : Text} (lists : ListsCodes group) :
    renderClass? group = some (renderClass group) ∧
      FactorOutcome (renderClass group) ('*' ∉ group) := by
  obtain ⟨row, ofRow, rfl⟩ := lists
  have laysOut := ofRow.clean.lays_out_enclosed
  have tidy : IsTidy (renderClass (parenthesized row.text)) := by
    rw [ofRow.written]
    exact (tidy_sign (by decide : IsSign '+') (laysOut.tidy.fielded .primaryClass)
      (laysOut.tidy.fielded .furtherClass)).bracketed
  have star : '*' ∉ parenthesized row.text ↔ '*' ∉ row.text := by simp [parenthesized]
  obtain ⟨phrase, reads, factor⟩ := ofRow.reads
  have outcome : AtomOutcome (renderClass (parenthesized row.text)) phrase true := reads
  refine ⟨?_, outcome.factor tidy (by simp [renderClass]) (factor.trans star.symm) ?_⟩
  · rw [renderClass?, laysOut.strip]
    simp [row.filled ofRow.clean.proper]
  · exact ofRow.distancesFit

namespace Parts

/-- The query for parts that lay out rows is accepted exactly if no bracket in it holds two
distances and no group of codes has a star. -/
theorem IsLaidOut.accepted {parts : Parts} (laidOut : parts.IsLaidOut) :
    (∃ factors, Query.parse parts.render = .ok factors) ↔
      distancesFit [0] parts.render = true ∧ ∀ group ∈ parts.classes, '*' ∉ group := by
  have words : ∀ text ∈ parts.words.filterMap WordFactor.render?, FactorOutcome text True := by
    intro text inside
    obtain ⟨factor, listed, written⟩ := List.mem_filterMap.mp inside
    obtain ⟨same, rendered, outcome⟩ := (laidOut.words factor listed).factor_outcome
    obtain rfl := Option.some.inj (written.symm.trans rendered)
    exact outcome
  have classes : parts.classes.filterMap renderClass? = parts.classes.map renderClass :=
    List.filterMap_eq_map_iff_forall_eq_some.mpr
      (fun group inside => (laidOut.classes group inside).factor_outcome.1)
  -- every factor with what makes it sound
  let factors : List (Text × Prop) :=
    (parts.words.filterMap WordFactor.render?).map (fun text => (text, True))
      ++ parts.classes.map (fun group => (renderClass group, '*' ∉ group))
  have written : parts.render = Text.join '*' (factors.map Prod.fst) := by
    simp [Parts.render, factors, classes, Function.comp_def]
  have sound : (∀ factor ∈ factors, factor.2) ↔ ∀ group ∈ parts.classes, '*' ∉ group := by
    simp [factors, or_imp, forall_and]
  have each : ∀ factor ∈ factors, FactorOutcome factor.1 factor.2 := by
    refine List.forall_mem_append.mpr ⟨?_, ?_⟩
    · rw [List.forall_mem_map]
      exact words
    · rw [List.forall_mem_map]
      exact fun group inside => (laidOut.classes group inside).factor_outcome.2
  rw [written, ← sound]
  by_cases none : factors = []
  · have parsed : Query.parse [] = .ok [] := rfl
    simp [none, Text.join, parsed, distancesFit]
  · exact (factor_outcome_join Prod.fst Prod.snd none each).alone.accepted

end Parts

end PriorArt
