import PriorArt.Entity
import PriorArt.Parts
import PriorArt.Proofs.Brackets.Nested
import PriorArt.Proofs.Reading
import PriorArt.Proofs.Token.Identifiers

/-!
# The search of a group of codes

The codes of a group are trimmed, have characters and hold no brackets, since they are cut from
identifiers. So the brackets around their union are the outermost ones: a query that consists of the
group alone is the search of the group.
-/

namespace PriorArt

open Brackets

/-- The codes that the distinct codes of a list are. -/
theorem mem_distinctCodes {codes : List Text} {code : Text} :
    code ∈ distinctCodes codes ↔ (∃ written ∈ codes, Text.trim written = code) ∧ code ≠ [] := by
  simp [distinctCodes]

/-- The distinct ones among trimmed codes are all that there are. -/
theorem distinctCodes_trimmed {codes : List Text}
    (proper : ∀ code ∈ codes, Text.IsTrimmed code ∧ code ≠ []) :
    distinctCodes codes = codes.eraseDups := by
  have trimmed : codes.map Text.trim = codes := by
    rw [List.map_congr_left (fun code inside => (proper code inside).1.trim), List.map_id']
  have kept : ∀ code ∈ codes, (!code.isEmpty) = true :=
    fun code inside => by simpa using (proper code inside).2
  rw [distinctCodes, trimmed, List.filter_eq_self.mpr kept]

/-- The codes of an expression are the distinct ones among its words, and there is one. -/
theorem Expr.codes_of_words {expr : Expr} {codes : List Text} (read : expr.codes = .ok codes) :
    codes = distinctCodes expr.words ∧ codes ≠ [] := by
  rw [Expr.codes] at read
  cases check : checkPlainUnion expr with
  | error fault =>
    rw [check] at read
    cases read
  | ok checked =>
    rw [check, Reading.ok_bind] at read
    cases listed : distinctCodes expr.words with
    | nil =>
      rw [listed] at read
      cases read
    | cons code others =>
      rw [listed] at read
      obtain rfl := Except.ok.inj read
      exact ⟨rfl, by simp⟩

/-- Codes as a group has them. -/
structure AreCodes (codes : List Text) : Prop where
  filled : codes ≠ []
  proper : ∀ code ∈ codes, Text.IsTrimmed code ∧ code ≠ []
  unbracketed : ∀ code ∈ codes, IsUnbracketed code

/-- Brackets separate. -/
theorem bracket_separates {character : Char}
    (bracket : isOpener character = true ∨ isCloser character = true) :
    Token.isSeparator character = true := by
  rcases bracket with opens | closes
  · unfold isOpener closerOf? at opens
    split at opens
    · rfl
    · rfl
    · cases opens
  · simp only [isCloser, Bool.or_eq_true, decide_eq_true_eq] at closes
    rcases closes with rfl | rfl
    · rfl
    · rfl

/-- There are no brackets in a run. -/
theorem Token.IsRun.unbracketed {text : Text} (run : Token.IsRun text) : IsUnbracketed text := by
  intro character inside
  have noSeparator : ¬ Token.isSeparator character = true := by simp [run character inside]
  exact ⟨Bool.eq_false_iff.mpr (fun opens => noSeparator (bracket_separates (.inl opens))),
    Bool.eq_false_iff.mpr (fun closes => noSeparator (bracket_separates (.inr closes)))⟩

/-- The codes of an expression of identifiers. -/
theorem Expr.codes_are_codes {expr : Expr} (runs : ∀ text ∈ expr.words, Token.IsRun text)
    {codes : List Text} (read : expr.codes = .ok codes) : AreCodes codes := by
  obtain ⟨rfl, filled⟩ := codes_of_words read
  refine ⟨filled, ?_, ?_⟩
  · intro code inside
    obtain ⟨⟨written, _, rfl⟩, some⟩ := mem_distinctCodes.mp inside
    exact ⟨Text.trimmed_trim written, some⟩
  · intro code inside character ofCode
    obtain ⟨⟨written, listed, rfl⟩, _⟩ := mem_distinctCodes.mp inside
    exact (runs written listed).unbracketed character (Text.trim_subset written ofCode)

namespace AreCodes

variable {codes : List Text}

/-- The distinct ones among codes are codes, and the first of them is the first of all. -/
theorem distinct (areCodes : AreCodes codes) :
    AreCodes (distinctCodes codes) ∧ (distinctCodes codes).head? = codes.head? := by
  have inside : ∀ code ∈ codes.eraseDups, code ∈ codes := fun code => List.mem_eraseDups.mp
  rw [distinctCodes_trimmed areCodes.proper]
  refine ⟨⟨?_, fun code listed => areCodes.proper code (inside code listed),
    fun code listed => areCodes.unbracketed code (inside code listed)⟩, ?_⟩
  · obtain ⟨code, listed⟩ := List.exists_mem_of_ne_nil codes areCodes.filled
    exact List.ne_nil_of_mem (List.mem_eraseDups.mpr listed)
  · cases codes with
    | nil => rfl
    | cons code others => rw [List.eraseDups_cons, List.head?_cons, List.head?_cons]

/-- Brackets around the union of codes are its only ones. -/
theorem strip_union (areCodes : AreCodes codes) :
    strip (parenthesized (Text.join '+' codes)) = Text.join '+' codes ∧
      Text.join '+' codes ≠ [] := by
  obtain ⟨trimmed, filled⟩ := Text.trimmed_join areCodes.filled areCodes.proper
  have unbracketed : IsUnbracketed (Text.join '+' codes) := by
    intro character inside
    rcases Text.mem_join inside with rfl | ⟨code, listed, ofCode⟩
    · decide
    · exact areCodes.unbracketed code listed character ofCode
  exact ⟨strip_parenthesized trimmed unbracketed.nested unbracketed.bare, filled⟩

end AreCodes

/-- A query that consists of a group of codes is its search. -/
theorem ClassEntity.render_union {group : ClassEntity} (areCodes : AreCodes group.codes) :
    (Parts.ofClass group.union).render = group.search := by
  obtain ⟨stripped, filled⟩ := areCodes.strip_union
  have union : group.union = parenthesized (Text.join '+' group.codes) := by
    simp [ClassEntity.union, areCodes.filled]
  have rendered : renderClass? group.union = some (renderClass group.union) := by
    simp [renderClass?, union, stripped, filled]
  have whole : renderClass group.union = group.search := by
    rw [ClassEntity.search, renderClass, union, stripped, if_neg (by simp [areCodes.filled])]
  simp [Parts.ofClass, Parts.render, rendered, whole]

end PriorArt
