import PriorArt.Parts
import PriorArt.Proofs.Query.ExprRows

/-!
# Texts that lay out rows

The texts of which a query is put together lay out rows, behind their enclosing brackets. Each way
of putting such texts together keeps this: unions of enclosed texts, products of texts that are
enclosed where they show compound marks, a nearness of a text and several alternatives, and braces.
So the text of every factor that searches for words lays out a row.
-/

namespace PriorArt

open Brackets Layout

namespace Layout

/-- Joined rows have their texts joined by the sign. -/
theorem Row.text_joined_join (connective : Connective) (first : Row) (others : List Row) :
    (Row.joined connective first others).text =
      Text.join connective.sign ((first :: others).map Row.text) := by
  induction others generalizing first with
  | nil => simp [Row.joined]
  | cons second rest inductionHypothesis =>
    rw [List.map_cons, Text.join_cons (by simp), ← inductionHypothesis]
    simp [Row.joined]

/-- What is enclosed if it shows compound marks has no distances then. -/
theorem Row.distances_regrouped (row : Row) : row.regrouped.distances = 0 :=
  row.regrouped.distances_of_not_compound row.not_compound_regrouped

/-- The text lays out some row. -/
def IsLaidOut (text : Text) : Prop := ∃ row, LaysOut text row

/-- Texts that each lay out a row have a function to these rows. -/
theorem rows_of_texts {texts : List Text} (each : ∀ text ∈ texts, IsLaidOut text) :
    ∃ row : Text → Row, ∀ text ∈ texts, LaysOut text (row text) := by
  have total : ∀ text, ∃ row, text ∈ texts → LaysOut text row := by
    intro text
    by_cases inside : text ∈ texts
    · obtain ⟨row, laysOut⟩ := each text inside
      exact ⟨row, fun _ => laysOut⟩
    · exact ⟨.last (.word [] false), fun other => absurd other inside⟩
  exact ⟨fun text => (total text).choose, fun text => (total text).choose_spec⟩

/-- Texts that are joined by a sign make the text of the joined rows. -/
theorem text_joined_texts (connective : Connective) (write : Text → Text) (row : Text → Row)
    {text : Text} {others : List Text}
    (each : ∀ member ∈ text :: others, write member = (row member).text) :
    Text.join connective.sign ((text :: others).map write) =
      (Row.joined connective (row text) (others.map row)).text := by
  rw [Row.text_joined_join, ← List.map_cons, List.map_map]
  congr 1
  exact List.map_congr_left each

/-- Joined rows of several texts are clean if each of them is proper and ends outside of the text
field. -/
theorem clean_joined (connective : Connective) (row : Text → Row) {text next : Text}
    {rest : List Text} (proper : ∀ member ∈ text :: next :: rest, (row member).IsProper)
    (isOpen : ∀ member ∈ text :: next :: rest, (row member).isOpen = true) :
    Expr.IsClean (Row.joined connective (row text) ((next :: rest).map row)) := by
  refine ⟨?_, ?_, Row.not_group_append _ _ _⟩
  · rw [Row.proper_joined, ← List.map_cons, List.forall_mem_map]
    exact proper
  · apply Row.open_joined
    rw [← List.map_cons, List.forall_mem_map]
    exact isOpen

/-- The text of a clean row lays it out. -/
theorem lays_out_clean {row : Row} (clean : Expr.IsClean row) : IsLaidOut row.text :=
  ⟨row, clean.lays_out⟩

/-- The text inside the brackets of a text that lays out a row, enclosed anew, is a group. -/
theorem LaysOut.enclosed {text : Text} {row : Row} (laysOut : LaysOut text row) :
    parenthesized (Brackets.strip text) = (Row.last (.group row false)).text := by
  simp [laysOut.strip, Row.text, Atom.text, suffix]

/-- Texts that lay out rows, each enclosed, lay out a row with plus signs between them. -/
theorem lays_out_union {texts : List Text} (some : texts ≠ [])
    (each : ∀ text ∈ texts, IsLaidOut text) :
    IsLaidOut (Text.join '+' (texts.map (fun text => parenthesized (strip text)))) := by
  obtain ⟨row, laysOut⟩ := rows_of_texts each
  cases texts with
  | nil => exact absurd rfl some
  | cons text others =>
    cases others with
    | nil =>
      have alone := laysOut text (by simp)
      rw [List.map_singleton, Text.join_single, alone.strip]
      exact ⟨_, Row.lays_out_enclosed alone.proper alone.isOpen alone.noGroup⟩
    | cons next rest =>
      have joined := text_joined_texts .or (fun text => parenthesized (Brackets.strip text))
        (fun text => .last (.group (row text) false))
        (fun member inside => (laysOut member inside).enclosed)
      simp only [Connective.sign] at joined
      rw [joined]
      exact lays_out_clean (clean_joined .or (fun text => .last (.group (row text) false))
        (fun member inside => (laysOut member inside).proper) (fun _ _ => rfl))

/-- Several texts that lay out rows, enclosed where they show compound marks, lay out a row with
stars between them. -/
theorem lays_out_product {text next : Text} {rest : List Text}
    (each : ∀ member ∈ text :: next :: rest, IsLaidOut member) :
    IsLaidOut (Text.join '*' ((text :: next :: rest).map regroup)) := by
  obtain ⟨row, laysOut⟩ := rows_of_texts each
  have joined := text_joined_texts .and regroup (fun text => (row text).regrouped)
    (fun member inside => (laysOut member inside).regroup)
  simp only [Connective.sign] at joined
  rw [joined]
  exact lays_out_clean (clean_joined .and (fun text => (row text).regrouped)
    (fun member inside => Row.proper_regrouped (laysOut member inside).proper)
    (fun member inside => Row.open_regrouped (laysOut member inside).isOpen))

/-- Three texts that lay out rows, enclosed where they show compound marks, lay out a brace. -/
theorem lays_out_brace {first second third : Text} (ofFirst : IsLaidOut first)
    (ofSecond : IsLaidOut second) (ofThird : IsLaidOut third) (count : Nat) :
    IsLaidOut (Expr.bracedText (regroup first) (regroup second) (regroup third) count) := by
  obtain ⟨firstRow, laysFirst⟩ := ofFirst
  obtain ⟨secondRow, laysSecond⟩ := ofSecond
  obtain ⟨thirdRow, laysThird⟩ := ofThird
  have asRow : Expr.bracedText (regroup first) (regroup second) (regroup third) count =
      (Row.last (.brace firstRow.regrouped secondRow.regrouped thirdRow.regrouped count
        false)).text := by
    simp [Row.text, Atom.text, suffix, laysFirst.regroup, laysSecond.regroup, laysThird.regroup]
  rw [asRow]
  refine lays_out_clean ⟨?_, rfl, by rintro ⟨inner, same⟩; cases same⟩
  exact ⟨⟨Row.proper_regrouped laysFirst.proper, Row.distances_regrouped _⟩,
    ⟨Row.proper_regrouped laysSecond.proper, Row.distances_regrouped _⟩,
    Row.proper_regrouped laysThird.proper, Row.distances_regrouped _⟩

end Layout

/-- A nearness whose texts lay out rows. The distance is a natural number, and there is an
alternative. -/
structure Nearness.IsLaidOut (nearness : Nearness) (distance : Distance) : Prop where
  left : Layout.IsLaidOut nearness.left
  filled : nearness.alternatives ≠ []
  each : ∀ alternative ∈ nearness.alternatives, Layout.IsLaidOut alternative
  unit : nearness.unit = distance.unit
  count : nearness.count = distance.count

/-- The distance of a nearness between its texts is a separator. -/
theorem Nearness.IsLaidOut.reach {nearness : Nearness} {distance : Distance}
    (laidOut : nearness.IsLaidOut distance) :
    nearness.reach = (Separator.near distance).text := by
  simp [Nearness.reach, laidOut.unit, laidOut.count, signedDecimal, Separator.text, Distance.text]

/-- The right side of a nearness as a row. Several alternatives are a group of their rows, and a
single one is enclosed if it must be. -/
def Layout.besideRow (first : Row) : List Row → Row
  | [] => first.regrouped
  | second :: others => .last (.group (.joined .or first (second :: others)) false)

/-- A nearness lays out the row of its left side and the row of its right side, with its distance
between them. -/
theorem Nearness.IsLaidOut.lays_out {nearness : Nearness} {distance : Distance}
    {alternative : Text} {others : List Text} {leftRow : Row} {row : Text → Row}
    (laidOut : nearness.IsLaidOut distance)
    (alternatives : nearness.alternatives = alternative :: others)
    (laysLeft : LaysOut nearness.left leftRow)
    (laysOut : ∀ text ∈ alternative :: others, LaysOut text (row text)) :
    LaysOut nearness.text (leftRow.regrouped.append (.near distance)
      (besideRow (row alternative) (others.map row))) := by
  obtain ⟨asRight, proper, isOpen⟩ :
      nearness.text = Brackets.regroup nearness.left ++ nearness.reach ++
          (besideRow (row alternative) (others.map row)).text ∧
        (besideRow (row alternative) (others.map row)).IsProper ∧
        (besideRow (row alternative) (others.map row)).isOpen = true := by
    rw [Nearness.text, alternatives]
    cases others with
    | nil =>
      have alone := laysOut alternative (by simp)
      have regrouped : groupIfCompound (Brackets.strip alternative) =
          (row alternative).regrouped.text := alone.regroup
      exact ⟨by simp [besideRow, regrouped], Row.proper_regrouped alone.proper,
        Row.open_regrouped alone.isOpen⟩
    | cons next rest =>
      have joined := text_joined_texts .or Brackets.strip row
        (fun member inside => (laysOut member inside).strip)
      have clean := clean_joined .or row (fun member inside => (laysOut member inside).proper)
        (fun member inside => (laysOut member inside).isOpen)
      simp only [Connective.sign, List.map_cons] at joined
      refine ⟨?_, clean.proper, rfl⟩
      simp [besideRow, Row.text, Atom.text, suffix, joined]
  have asRow : nearness.text = (leftRow.regrouped.append (.near distance)
      (besideRow (row alternative) (others.map row))).text := by
    rw [asRight, laysLeft.regroup, laidOut.reach, Row.text_append]
  rw [asRow]
  apply Expr.IsClean.lays_out
  refine ⟨?_, ?_, Row.not_group_append _ _ _⟩
  · exact (Row.proper_append _ _ _).mpr ⟨Row.proper_regrouped laysLeft.proper, proper⟩
  · exact (Row.open_append _ _ _).trans isOpen

/-- A nearness of texts that lay out rows lays out a row. -/
theorem Nearness.IsLaidOut.text {nearness : Nearness} {distance : Distance}
    (laidOut : nearness.IsLaidOut distance) : Layout.IsLaidOut nearness.text := by
  obtain ⟨leftRow, laysLeft⟩ := laidOut.left
  obtain ⟨row, laysOut⟩ := rows_of_texts laidOut.each
  cases alternatives : nearness.alternatives with
  | nil => exact absurd alternatives laidOut.filled
  | cons alternative others =>
    rw [alternatives] at laysOut
    exact ⟨_, laidOut.lays_out alternatives laysLeft laysOut⟩

/-- A word factor whose texts lay out rows. -/
inductive WordFactor.IsLaidOut : WordFactor → Prop where
  | plain {text : Text} (laidOut : Layout.IsLaidOut text) : IsLaidOut (.plain text)
  | near {nearness : Nearness} (distance : Distance) (laidOut : nearness.IsLaidOut distance) :
      IsLaidOut (.near nearness)

/-- The text of a factor lays out a row. -/
theorem WordFactor.IsLaidOut.text {factor : WordFactor} (laidOut : factor.IsLaidOut) :
    Layout.IsLaidOut factor.text := by
  cases laidOut with
  | plain laidOut =>
    obtain ⟨row, laysOut⟩ := laidOut
    rw [WordFactor.text, Text.trim_solid laysOut.tidy.solid]
    exact ⟨row, laysOut⟩
  | near distance laidOut => exact laidOut.text

namespace Parts

/-- The text of word factors, at least one, whose texts lay out rows lays out a row. -/
theorem wordsText_laid_out {parts : Parts} (some : parts.words ≠ [])
    (each : ∀ factor ∈ parts.words, factor.IsLaidOut) : Layout.IsLaidOut parts.wordsText := by
  have texts : ∀ text ∈ parts.words.map WordFactor.text, Layout.IsLaidOut text := by
    rw [List.forall_mem_map]
    exact fun factor inside => (each factor inside).text
  have filled : ∀ text ∈ parts.words.map WordFactor.text, (!text.isEmpty) = true := by
    intro text inside
    obtain ⟨row, laysOut⟩ := texts text inside
    simpa using laysOut.filled
  have someText : parts.words.map WordFactor.text ≠ [] := by simpa using some
  rw [wordsText, List.filter_eq_self.mpr filled]
  generalize parts.words.map WordFactor.text = written at texts someText
  cases written with
  | nil => exact absurd rfl someText
  | cons text others =>
    cases others with
    | nil => exact texts text (by simp)
    | cons next rest => exact lays_out_product texts

end Parts

end PriorArt
