import PriorArt.Text.Basic

/-!
# Texts without blanks, runs and joined texts

Trimming keeps a text without blanks as it is. A run at the start of a text ends before a
character outside of it, whatever comes later. Joining puts a separator between neighbours only,
so that joined groups of pieces are the join of all their pieces.
-/

namespace PriorArt.Text

/-- No character of the text is blank. -/
def IsSolid (text : Text) : Prop := ∀ character ∈ text, isBlank character = false

instance : DecidablePred IsSolid := fun text => List.decidableBAll _ text

/-- A text is solid if its first character is no blank and the others are solid. -/
theorem solid_cons {character : Char} {text : Text} :
    IsSolid (character :: text) ↔ isBlank character = false ∧ IsSolid text := by
  simp [IsSolid]

/-- Solid texts make a solid text together. -/
theorem solid_append {front back : Text} :
    IsSolid (front ++ back) ↔ IsSolid front ∧ IsSolid back := by
  simp only [IsSolid, List.mem_append]
  constructor
  · intro solid
    exact ⟨fun character inside => solid character (.inl inside),
      fun character inside => solid character (.inr inside)⟩
  · rintro ⟨solidFront, solidBack⟩ character (inside | inside)
    · exact solidFront character inside
    · exact solidBack character inside

/-- A solid text loses nothing at its end. -/
theorem trimEnd_solid {text : Text} (solid : IsSolid text) : trimEnd text = text := by
  induction text with
  | nil => rfl
  | cons character rest inductionHypothesis =>
    obtain ⟨notBlank, solidRest⟩ := solid_cons.mp solid
    rw [trimEnd, inductionHypothesis solidRest]
    cases rest with
    | nil => simp [notBlank]
    | cons next others => rfl

/-- A solid text is trimmed already. -/
theorem trim_solid {text : Text} (solid : IsSolid text) : trim text = text := by
  have start : trimStart text = text := by
    cases text with
    | nil => rfl
    | cons character rest => simp [trimStart, (solid_cons.mp solid).1]
  rw [trim, start, trimEnd_solid solid]

/-- A solid text with characters is not blank. -/
theorem not_allBlank_of_solid {text : Text} (solid : IsSolid text) (filled : text ≠ []) :
    text.allBlank = false := by
  cases text with
  | nil => exact absurd rfl filled
  | cons character rest => simp [allBlank, (solid_cons.mp solid).1]

/-- A text with a character to be seen is not empty. -/
theorem isEmpty_of_visible {text : Text} (visible : text.allBlank = false) :
    text.isEmpty = false := by
  cases text with
  | nil => cases visible
  | cons first rest => rfl

/-- A run does not grow by a text that goes on with a character outside of it. -/
theorem takeWhile_append_stop {kept : Char → Bool} (front : Text) {back : Text}
    (stop : ∀ first ∈ back.head?, kept first = false) :
    (front ++ back).takeWhile kept = front.takeWhile kept := by
  induction front with
  | nil =>
    cases back with
    | nil => rfl
    | cons first rest => simp [stop first (by simp)]
  | cons character rest inductionHypothesis =>
    rw [List.cons_append, List.takeWhile_cons, List.takeWhile_cons, inductionHypothesis]

/-- What follows a run is followed by the text behind it. -/
theorem dropWhile_append_stop {kept : Char → Bool} (front : Text) {back : Text}
    (stop : ∀ first ∈ back.head?, kept first = false) :
    (front ++ back).dropWhile kept = front.dropWhile kept ++ back := by
  induction front with
  | nil =>
    cases back with
    | nil => rfl
    | cons first rest => simp [stop first (by simp)]
  | cons character rest inductionHypothesis =>
    rw [List.cons_append, List.dropWhile_cons, List.dropWhile_cons, inductionHypothesis]
    split <;> rfl

/-- A single piece is joined to itself. -/
@[simp] theorem join_single (separator : Char) (piece : Text) : join separator [piece] = piece :=
  List.intercalate_singleton

/-- The separator stands behind the first of several pieces. -/
theorem join_cons {separator : Char} {piece : Text} {others : List Text} (more : others ≠ []) :
    join separator (piece :: others) = piece ++ separator :: join separator others := by
  rw [join, List.intercalate_cons_of_ne_nil more]
  simp [join]

/-- A character in front of the first piece stands in front of the pieces that are joined. -/
theorem join_modifyHead {separator character : Char} {pieces : List Text} (some : pieces ≠ []) :
    join separator (pieces.modifyHead (character :: ·)) = character :: join separator pieces := by
  match pieces, some with
  | [piece], _ => rw [List.modifyHead_cons, join_single, join_single]
  | piece :: next :: rest, _ =>
    have several : next :: rest ≠ [] := List.cons_ne_nil next rest
    rw [List.modifyHead_cons, join_cons several, join_cons several, List.cons_append]

/-- Two lists of pieces are joined with a separator between them. -/
theorem join_append {separator : Char} {front back : List Text} (someFront : front ≠ [])
    (someBack : back ≠ []) :
    join separator (front ++ back) = join separator front ++ separator :: join separator back := by
  induction front with
  | nil => exact absurd rfl someFront
  | cons piece others inductionHypothesis =>
    cases others with
    | nil => rw [List.singleton_append, join_cons someBack, join_single]
    | cons next rest =>
      rw [List.cons_append, join_cons (by simp), inductionHypothesis (by simp),
        join_cons (List.cons_ne_nil next rest), List.append_assoc, List.cons_append]

/-- Pieces that are joined already are joined with others like the pieces one by one. -/
theorem join_inlined {separator : Char} {before inner after : List Text} (filled : inner ≠ []) :
    join separator (before ++ join separator inner :: after) =
      join separator (before ++ inner ++ after) := by
  have behind : join separator (join separator inner :: after) =
      join separator (inner ++ after) := by
    cases after with
    | nil => rw [List.append_nil, join_single]
    | cons next rest =>
      rw [join_cons (by simp), join_append filled (List.cons_ne_nil next rest)]
  cases before with
  | nil => exact behind
  | cons piece others =>
    rw [List.append_assoc, join_append (by simp) (by simp), join_append (by simp) (by simp [filled]),
      behind]

/-- A character of joined pieces is the separator, or it is in a piece. -/
theorem mem_join {separator character : Char} {pieces : List Text}
    (inside : character ∈ join separator pieces) :
    character = separator ∨ ∃ piece ∈ pieces, character ∈ piece := by
  induction pieces with
  | nil => simp [join] at inside
  | cons piece others inductionHypothesis =>
    cases others with
    | nil => exact .inr ⟨piece, by simp, by simpa using inside⟩
    | cons next rest =>
      rw [join_cons (by simp), List.mem_append, List.mem_cons] at inside
      rcases inside with ofPiece | same | later
      · exact .inr ⟨piece, by simp, ofPiece⟩
      · exact .inl same
      · refine (inductionHypothesis later).imp_right ?_
        rintro ⟨other, listed, ofOther⟩
        exact ⟨other, List.mem_cons_of_mem _ listed, ofOther⟩

/-- Joining groups of pieces, each of which is joined, joins all the pieces. -/
theorem join_groups {separator : Char} {groups : List (List Text)}
    (filled : ∀ group ∈ groups, group ≠ []) :
    join separator (groups.map (join separator)) = join separator groups.flatten := by
  induction groups with
  | nil => rfl
  | cons group others inductionHypothesis =>
    have later := inductionHypothesis (fun other inside => filled other (by simp [inside]))
    cases others with
    | nil => simp
    | cons next rest =>
      have someGroup : group ≠ [] := filled group (by simp)
      have someLater : (next :: rest).flatten ≠ [] := by
        simp [filled next (by simp)]
      have split : (group :: next :: rest).flatten = group ++ (next :: rest).flatten :=
        List.flatten_cons
      rw [List.map_cons, join_cons (by simp), later, split, join_append someGroup someLater]

end PriorArt.Text
