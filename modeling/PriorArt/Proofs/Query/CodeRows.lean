import PriorArt.Proofs.Query.CodeTrees
import PriorArt.Proofs.Query.LaidOut
import PriorArt.Proofs.Query.RowOperators

/-!
# Rows of codes

A group of codes in a query is a union of plain codes, or it is put together from such unions by
plus signs and, where a branch of a union searches for several groups at once, by stars between
enclosed groups. So its row has no distances, and it is a union of plain codes unless it has a
star.
-/

namespace PriorArt

open Brackets Layout

/-- A clean row without distances that unites plain codes if it keeps to union. -/
structure IsCodeRow (row : Row) : Prop where
  clean : Expr.IsClean row
  legible : row.legible = true
  keeps : row.KeepsTo .and
  union : row.KeepsTo .or → ∃ codes, ArePlain codes ∧ row.text = Text.join '+' codes

/-- The text is that of a row of codes. -/
def IsCodeText (text : Text) : Prop := ∃ row, IsCodeRow row ∧ text = row.text

/-- A single plain code is a row of codes. -/
theorem code_row_word {code : Text} (plain : IsPlain code) :
    IsCodeRow (.last (.word code false)) where
  clean := Expr.clean_word plain
  legible := rfl
  keeps := trivial
  union := by
    intro _
    refine ⟨[code], ⟨by simp, by simpa using plain⟩, ?_⟩
    simp [Row.text, Atom.text, suffix]

/-- Two rows of codes with a plus sign between them are a row of codes. -/
theorem IsCodeRow.plus {front back : Row} (ofFront : IsCodeRow front) (ofBack : IsCodeRow back) :
    IsCodeRow (front.append .plus back) where
  clean := by
    refine ⟨?_, ?_, Row.not_group_append _ _ _⟩
    · exact (Row.proper_append _ _ _).mpr ⟨ofFront.clean.proper, ofBack.clean.proper⟩
    · exact (Row.open_append _ _ _).trans ofBack.clean.isOpen
  legible := by simp [ofFront.legible, ofBack.legible]
  keeps := (Row.keeps_append _ _ _ _).mpr ⟨ofFront.keeps, rfl, ofBack.keeps⟩
  union := by
    intro keeps
    obtain ⟨keepsFront, _, keepsBack⟩ := (Row.keeps_append _ _ _ _).mp keeps
    obtain ⟨codes, plain, sameFront⟩ := ofFront.union keepsFront
    obtain ⟨more, plainMore, sameBack⟩ := ofBack.union keepsBack
    refine ⟨codes ++ more, ⟨by simp [plain.filled], ?_⟩, ?_⟩
    · exact List.forall_mem_append.mpr ⟨plain.plain, plainMore.plain⟩
    · rw [Row.text_append, sameFront, sameBack, Text.join_append plain.filled plainMore.filled]
      simp [Separator.text]

/-- Texts of rows of codes with plus signs between them are a text of codes. -/
theorem code_text_union {texts : List Text} (some : texts ≠ [])
    (each : ∀ text ∈ texts, IsCodeText text) : IsCodeText (Text.join '+' texts) := by
  induction texts with
  | nil => exact absurd rfl some
  | cons text others inductionHypothesis =>
    obtain ⟨front, ofFront, sameFront⟩ := each text (by simp)
    cases others with
    | nil =>
      rw [Text.join_single]
      exact ⟨front, ofFront, sameFront⟩
    | cons next rest =>
      obtain ⟨back, ofBack, sameBack⟩ := inductionHypothesis (by simp)
        (fun member inside => each member (by simp [inside]))
      refine ⟨front.append .plus back, ofFront.plus ofBack, ?_⟩
      rw [Text.join_cons (by simp), sameFront, sameBack]
      simp [Separator.text]

/-- A row of codes can be read inside a group. -/
theorem IsCodeRow.fits {row : Row} (ofRow : IsCodeRow row) : row.fits = true := by
  simp [Row.fits, ofRow.legible, ofRow.keeps.no_distance]

/-- Enclosed texts of codes with stars between them are the text of a proper row without
distances. -/
theorem enclosed_codes {texts : List Text} (some : texts ≠ [])
    (each : ∀ text ∈ texts, IsCodeText text) :
    ∃ row : Row, row.IsProper ∧ row.isOpen = true ∧ row.legible = true ∧ row.KeepsTo .and ∧
      Text.join '*' (texts.map parenthesized) = row.text := by
  induction texts with
  | nil => exact absurd rfl some
  | cons text others inductionHypothesis =>
    obtain ⟨front, ofFront, sameFront⟩ := each text (by simp)
    cases others with
    | nil =>
      refine ⟨.last (.group front false), ofFront.clean.proper, rfl, ofFront.fits, trivial, ?_⟩
      simp [sameFront, Row.text, Atom.text, suffix]
    | cons next rest =>
      obtain ⟨back, proper, isOpen, legible, keeps, sameBack⟩ := inductionHypothesis (by simp)
        (fun member inside => each member (by simp [inside]))
      refine ⟨.more (.group front false) .star back, ⟨ofFront.clean.proper, proper⟩, isOpen, ?_,
        ⟨rfl, keeps⟩, ?_⟩
      · exact Bool.and_eq_true_iff.mpr ⟨ofFront.fits, legible⟩
      · rw [List.map_cons, Text.join_cons (by simp), sameBack]
        simp [sameFront, Row.text, Atom.text, suffix, Separator.text]

/-- Several texts of codes, each enclosed, with stars between them are a text of codes. -/
theorem code_text_product {text next : Text} {rest : List Text}
    (each : ∀ member ∈ text :: next :: rest, IsCodeText member) :
    IsCodeText (Text.join '*' ((text :: next :: rest).map parenthesized)) := by
  obtain ⟨front, ofFront, sameFront⟩ := each text (by simp)
  obtain ⟨back, proper, isOpen, legible, keeps, sameBack⟩ := enclosed_codes (by simp)
    (fun member inside => each member (List.mem_cons_of_mem text inside))
  refine ⟨.more (.group front false) .star back, ⟨⟨⟨ofFront.clean.proper, proper⟩, isOpen, ?_⟩, ?_,
    ⟨rfl, keeps⟩, ?_⟩, ?_⟩
  · rintro ⟨inner, same⟩
    cases same
  · exact Bool.and_eq_true_iff.mpr ⟨ofFront.fits, legible⟩
  · intro keepsUnion
    exact absurd keepsUnion.1 (by decide)
  · rw [List.map_cons, Text.join_cons (by simp), sameBack]
    simp [sameFront, Row.text, Atom.text, suffix, Separator.text]

/-- The group is a text of codes in round brackets. -/
def ListsCodes (group : Text) : Prop := ∃ row, IsCodeRow row ∧ group = parenthesized row.text

/-- What is inside the brackets of a group of codes. -/
theorem ListsCodes.strip {group : Text} (lists : ListsCodes group) :
    IsCodeText (Brackets.strip group) ∧ group.allBlank = false := by
  obtain ⟨row, ofRow, rfl⟩ := lists
  have laysOut := ofRow.clean.lays_out_enclosed
  exact ⟨⟨row, ofRow, laysOut.strip⟩,
    Text.not_allBlank_of_solid laysOut.tidy.solid laysOut.filled⟩

/-- The union of plain codes lists codes. -/
theorem ArePlain.lists {codes : List Text} (plain : ArePlain codes) :
    ListsCodes (parenthesized (Text.join '+' codes)) := by
  obtain ⟨row, ofRow, same⟩ : IsCodeText (Text.join '+' codes) := by
    apply code_text_union plain.filled
    intro code inside
    refine ⟨_, code_row_word (plain.plain code inside), ?_⟩
    simp [Row.text, Atom.text, suffix]
  exact ⟨row, ofRow, by rw [same]⟩

namespace Parts

/-- The groups of codes of some parts, at least one. -/
structure SearchesCodes (parts : Parts) : Prop where
  filled : parts.classes ≠ []
  each : ∀ group ∈ parts.classes, ListsCodes group

/-- The text of groups of codes is a text of codes. -/
theorem SearchesCodes.text {parts : Parts} (searches : parts.SearchesCodes) :
    IsCodeText parts.classesText := by
  have notBlank : ∀ group ∈ parts.classes, (!group.allBlank) = true := by
    intro group inside
    simp [(searches.each group inside).strip.2]
  have texts : ∀ text ∈ parts.classes.map Brackets.strip, IsCodeText text := by
    rw [List.forall_mem_map]
    exact fun group inside => (searches.each group inside).strip.1
  have someText : parts.classes.map Brackets.strip ≠ [] := by simpa using searches.filled
  rw [classesText, List.filter_eq_self.mpr notBlank]
  generalize parts.classes.map Brackets.strip = written at texts someText
  cases written with
  | nil => exact absurd rfl someText
  | cons text others =>
    cases others with
    | nil => exact texts text (by simp)
    | cons next rest => exact code_text_product texts

/-- The union of branches with groups of codes is a group that lists codes. -/
theorem uniteClasses_lists {branches : List Parts} (some : branches ≠ [])
    (each : ∀ branch ∈ branches, branch.SearchesCodes) :
    ∃ group, uniteClasses branches = .ofClass group ∧ ListsCodes group := by
  obtain ⟨row, ofRow, same⟩ : IsCodeText (Text.join '+' (branches.map classesText)) := by
    apply code_text_union (by simpa using some)
    rw [List.forall_mem_map]
    exact fun branch inside => (each branch inside).text
  exact ⟨_, rfl, row, ofRow, by rw [same]⟩

end Parts

end PriorArt
