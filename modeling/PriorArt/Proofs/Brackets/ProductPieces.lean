import PriorArt.Proofs.Brackets.Balanced
import PriorArt.Proofs.Brackets.Stripped

/-!
# Cutting a product

A text is cut at each star outside brackets, where the depth is counted and never falls below zero.
So every text is cut, with brackets that match or not. The cuts of a text are the one way to write
it as texts joined by stars, such that no text has a star outside brackets and every star that joins
them is outside brackets.
-/

namespace PriorArt.Brackets

/-- The depth behind a text. -/
def depthBehind (depth : Nat) (text : Text) : Nat := text.foldl depthAfter depth

@[simp] theorem depthBehind_nil (depth : Nat) : depthBehind depth [] = depth := rfl

@[simp] theorem depthBehind_cons (depth : Nat) (character : Char) (rest : Text) :
    depthBehind depth (character :: rest) = depthBehind (depthAfter depth character) rest := rfl

theorem depthBehind_append (depth : Nat) (front back : Text) :
    depthBehind depth (front ++ back) = depthBehind (depthBehind depth front) back :=
  List.foldl_append

/-- What occurs outside brackets in two texts occurs in one of them, at the depth it begins with. -/
theorem occursOutside_append (characters : List Char) (depth : Nat) (front back : Text) :
    occursOutside characters depth (front ++ back) =
      (occursOutside characters depth front ||
        occursOutside characters (depthBehind depth front) back) := by
  induction front generalizing depth with
  | nil => rfl
  | cons first rest inductionHypothesis =>
    rw [List.cons_append, occursOutside, occursOutside, inductionHypothesis, depthBehind_cons,
      Bool.or_assoc]

/-- Behind a nested text the depth is the same. -/
theorem Nested.depthBehind {text : Text} (nested : Nested text) (depth : Nat) :
    depthBehind depth text = depth := by
  induction nested generalizing depth with
  | empty => rfl
  | character character notOpener notCloser _ inductionHypothesis =>
    have sameDepth : depthAfter depth character = depth := by
      simp [depthAfter, notOpener, notCloser]
    rw [depthBehind_cons, sameDepth, inductionHypothesis]
  | pair matching _ _ innerHypothesis restHypothesis =>
    rw [List.cons_append, depthBehind_cons, depthAfter_opener matching, depthBehind_append,
      innerHypothesis, depthBehind_cons, depthAfter_closer matching, Nat.add_sub_cancel,
      restHypothesis]

/-- A blank text is unbracketed. -/
theorem unbracketed_of_blank {text : Text} (blank : text.allBlank = true) :
    IsUnbracketed text := by
  intro character inside
  have isBlank := List.all_eq_true.mp blank character inside
  have ordinary : isBracket character = false := by
    by_contra bracket
    have listed := mem_of_isBracket (Bool.not_eq_false _ ▸ bracket)
    simp only [List.mem_cons, List.not_mem_nil, or_false] at listed
    rcases listed with rfl | rfl | rfl | rfl | rfl | rfl <;> cases isBlank
  exact ⟨(ordinary_cases ordinary).1, (ordinary_cases ordinary).2.1⟩

/-- Trimming leaves the same visible characters outside brackets. -/
theorem hasTopLevel_trim {characters : List Char}
    (visible : ∀ character ∈ characters, isBlank character = false) (text : Text) :
    hasTopLevel characters (Text.trim text) = hasTopLevel characters text := by
  obtain ⟨before, after, split, blankBefore, blankAfter⟩ := Text.trim_split text
  have absent : ∀ part : Text, part.allBlank = true → ∀ depth,
      occursOutside characters depth part = false := by
    intro part blank depth
    apply occursOutside_absent
    intro character inside
    by_contra listed
    have seen := visible character (by simpa using listed)
    rw [List.all_eq_true.mp blank character inside] at seen
    cases seen
  have sameDepth := (unbracketed_of_blank blankBefore).nested.depthBehind 0
  have whole : hasTopLevel characters (before ++ Text.trim text ++ after) =
      hasTopLevel characters (Text.trim text) := by
    rw [hasTopLevel, occursOutside_append, occursOutside_append, absent after blankAfter,
      absent before blankBefore, sameDepth, Bool.false_or, Bool.or_false, hasTopLevel]
  rw [← whole, ← split]

/-- Texts between the stars outside brackets, from a depth on: no text has such a star, and the
depth is zero behind each but the last. -/
inductive AreCuts : Nat → List Text → Prop where
  | last {depth : Nat} {piece : Text} (uncut : occursOutside ['*'] depth piece = false) :
      AreCuts depth [piece]
  | more {depth : Nat} {piece : Text} {others : List Text}
      (uncut : occursOutside ['*'] depth piece = false) (outermost : depthBehind depth piece = 0)
      (rest : AreCuts 0 others) : AreCuts depth (piece :: others)

/-- There is a cut. -/
theorem AreCuts.filled {depth : Nat} {pieces : List Text} (cuts : AreCuts depth pieces) :
    pieces ≠ [] := by
  cases cuts <;> exact List.cons_ne_nil _ _

/-- No cut has a star outside brackets, if the first one begins outside. -/
theorem AreCuts.uncut {pieces : List Text} (cuts : AreCuts 0 pieces) :
    ∀ piece ∈ pieces, hasTopLevel ['*'] piece = false := by
  generalize same : 0 = depth at cuts
  induction cuts with
  | last uncut =>
    intro piece inside
    rwa [List.mem_singleton.mp inside, hasTopLevel, same]
  | more uncut _ _ inductionHypothesis =>
    refine List.forall_mem_cons.mpr ⟨?_, inductionHypothesis rfl⟩
    rwa [hasTopLevel, same]

/-- Texts that end outside brackets and have no star there are cuts. -/
theorem areCuts_of_outermost {pieces : List Text} (some : pieces ≠ [])
    (each : ∀ piece ∈ pieces, hasTopLevel ['*'] piece = false ∧ depthBehind 0 piece = 0) :
    AreCuts 0 pieces := by
  induction pieces with
  | nil => exact absurd rfl some
  | cons piece others inductionHypothesis =>
    obtain ⟨⟨uncut, outermost⟩, eachOther⟩ := List.forall_mem_cons.mp each
    cases others with
    | nil => exact .last uncut
    | cons next rest => exact .more uncut outermost (inductionHypothesis (by simp) eachOther)

/-- The cut is made at a star that occurs outside brackets. -/
theorem star_outside (depth : Nat) (character : Char) :
    (decide (character = '*') && depth == 0) = (depth == 0 && ['*'].contains character) := by
  rw [Bool.and_comm, List.contains_eq_mem]
  simp

/-- A character that is no star outside brackets goes in front of the first cut. -/
theorem AreCuts.behind {depth : Nat} {character : Char} {pieces : List Text}
    (cuts : AreCuts (depthAfter depth character) pieces)
    (kept : (depth == 0 && ['*'].contains character) = false) :
    AreCuts depth (pieces.modifyHead (character :: ·)) := by
  have notHere : ∀ piece, occursOutside ['*'] (depthAfter depth character) piece = false →
      occursOutside ['*'] depth (character :: piece) = false := by
    intro piece uncut
    rw [occursOutside, uncut, kept, Bool.or_false]
  cases cuts with
  | last uncut => exact .last (notHere _ uncut)
  | more uncut outermost rest => exact .more (notHere _ uncut) outermost rest

/-- The pieces of a text are cuts. -/
theorem areCuts_productPieces (depth : Nat) (text : Text) :
    AreCuts depth (productPieces depth text) := by
  induction text generalizing depth with
  | nil => exact .last rfl
  | cons character rest inductionHypothesis =>
    rw [productPieces]
    split
    · next star =>
      obtain ⟨_, rfl⟩ : character = '*' ∧ depth = 0 := by simpa using star
      exact .more rfl rfl (inductionHypothesis 0)
    · next kept =>
      rw [star_outside, Bool.not_eq_true] at kept
      exact (inductionHypothesis _).behind kept

/-- The pieces joined are the text. -/
theorem join_productPieces (depth : Nat) (text : Text) :
    Text.join '*' (productPieces depth text) = text := by
  induction text generalizing depth with
  | nil => rfl
  | cons character rest inductionHypothesis =>
    rw [productPieces]
    split
    · next star =>
      obtain ⟨rfl, _⟩ : character = '*' ∧ (depth == 0) = true := by simpa using star
      rw [Text.join_cons (areCuts_productPieces 0 rest).filled, inductionHypothesis]
      rfl
    · rw [Text.join_modifyHead (areCuts_productPieces _ rest).filled, inductionHypothesis]

/-- A text without a star outside brackets goes in front of the first piece of what follows. -/
theorem productPieces_append {depth : Nat} {front : Text}
    (uncut : occursOutside ['*'] depth front = false) (back : Text) :
    productPieces depth (front ++ back) =
      (productPieces (depthBehind depth front) back).modifyHead (front ++ ·) := by
  induction front generalizing depth with
  | nil =>
    rw [List.nil_append, depthBehind_nil]
    cases productPieces depth back <;> rfl
  | cons character rest inductionHypothesis =>
    obtain ⟨notHere, uncutRest⟩ := (Bool.or_eq_false_iff).mp uncut
    rw [List.cons_append, productPieces, star_outside, notHere, inductionHypothesis uncutRest,
      depthBehind_cons]
    simp only [Bool.false_eq_true, ↓reduceIte, List.modifyHead_modifyHead]
    rfl

/-- A text without a star outside brackets is one piece. -/
theorem productPieces_uncut {depth : Nat} {text : Text}
    (uncut : occursOutside ['*'] depth text = false) : productPieces depth text = [text] := by
  have whole := productPieces_append uncut []
  rwa [List.append_nil, productPieces, List.modifyHead_cons, List.append_nil] at whole

/-- A star outside brackets behind such a text ends its piece. -/
theorem productPieces_star {depth : Nat} {front : Text}
    (uncut : occursOutside ['*'] depth front = false) (outermost : depthBehind depth front = 0)
    (back : Text) : productPieces depth (front ++ '*' :: back) = front :: productPieces 0 back := by
  have cut : productPieces 0 ('*' :: back) = [] :: productPieces 0 back := rfl
  rw [productPieces_append uncut, outermost, cut, List.modifyHead_cons, List.append_nil]

/-- The pieces of a text are the cuts that make the text when they are joined. -/
theorem productPieces_iff {depth : Nat} {text : Text} {pieces : List Text} :
    productPieces depth text = pieces ↔ Text.join '*' pieces = text ∧ AreCuts depth pieces := by
  constructor
  · rintro rfl
    exact ⟨join_productPieces depth text, areCuts_productPieces depth text⟩
  · rintro ⟨rfl, cuts⟩
    induction cuts with
    | last uncut => rw [Text.join_single, productPieces_uncut uncut]
    | more uncut outermost rest inductionHypothesis =>
      rw [Text.join_cons rest.filled, productPieces_star uncut outermost, inductionHypothesis]

/-- The factors of a text that is not blank are its cuts without the blanks around them. -/
theorem splitProduct_cuts {text : Text} (visible : text.allBlank = false) :
    ∃ cuts, Text.join '*' cuts = text ∧ AreCuts 0 cuts ∧
      splitProduct text = cuts.map Text.trim := by
  refine ⟨productPieces 0 text, join_productPieces 0 text, areCuts_productPieces 0 text, ?_⟩
  simp [splitProduct, visible]

/-- No factor has a star outside brackets. -/
theorem splitProduct_uncut {text piece : Text} (inside : piece ∈ splitProduct text) :
    hasTopLevel ['*'] piece = false := by
  unfold splitProduct at inside
  split at inside
  · cases inside
  · obtain ⟨cut, isCut, rfl⟩ := List.mem_map.mp inside
    rw [hasTopLevel_trim (List.forall_mem_singleton.mpr rfl)]
    exact (areCuts_productPieces 0 text).uncut cut isCut

/-- Several texts joined by stars are not blank, and neither is a trimmed one with characters. -/
theorem join_visible {pieces : List Text} (some : pieces ≠ []) (notEmpty : pieces ≠ [[]])
    (trimmed : ∀ piece ∈ pieces, Text.trim piece = piece) :
    (Text.join '*' pieces).allBlank = false := by
  match pieces, some, notEmpty, trimmed with
  | [piece], _, notEmpty, trimmed =>
    rw [Text.join_single]
    by_contra blank
    have same := trimmed piece (by simp)
    rw [Text.trim_blank (Bool.not_eq_false _ ▸ blank)] at same
    exact notEmpty (by rw [← same])
  | piece :: next :: rest, _, _, _ =>
    rw [Text.join_cons (List.cons_ne_nil next rest)]
    by_contra blank
    have star := List.all_eq_true.mp (Bool.not_eq_false _ ▸ blank) '*' (by simp)
    cases star

/-- Trimmed texts that end outside brackets and have no star there are the factors of their
product. -/
theorem splitProduct_join {pieces : List Text} (some : pieces ≠ []) (notEmpty : pieces ≠ [[]])
    (each : ∀ piece ∈ pieces, Text.trim piece = piece ∧ hasTopLevel ['*'] piece = false ∧
      depthBehind 0 piece = 0) : splitProduct (Text.join '*' pieces) = pieces := by
  have visible := join_visible some notEmpty (fun piece inside => (each piece inside).1)
  have cuts := areCuts_of_outermost some (fun piece inside => (each piece inside).2)
  have cut := productPieces_iff.mpr ⟨rfl, cuts⟩
  have kept : pieces.map Text.trim = pieces :=
    (List.map_congr_left (fun piece inside => (each piece inside).1)).trans (List.map_id' _)
  simp [splitProduct, visible, cut, kept]

end PriorArt.Brackets
