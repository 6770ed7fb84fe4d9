import PriorArt.Proofs.Brackets.Balanced

/-!
# Cutting at outermost stars

A text is cut at each `*` that stands outside all round, curly and square brackets. A balanced text is
passed over inside a pair of brackets. So the cuts of a balanced text do not depend on what follows it,
and the pieces of balanced texts that are joined by `*` are the pieces of each of them.
-/

namespace PriorArt.Brackets

/-- The depth behind a character, where brackets of all kinds count. -/
def bracketDepthAfter (depth : Nat) (character : Char) : Nat :=
  if (partnerOf? character).isSome then depth + 1
  else if isBracket character then depth - 1
  else depth

/-- Cut at each `*` outside all brackets. -/
def starPieces : Nat → Text → List Text
  | _, [] => [[]]
  | depth, character :: rest =>
    if character = '*' && depth == 0 then [] :: starPieces 0 rest
    else (starPieces (bracketDepthAfter depth character) rest).modifyHead (character :: ·)

/-- An ordinary character leaves the depth as it is. -/
theorem bracketDepthAfter_ordinary {character : Char} (ordinary : isBracket character = false)
    (depth : Nat) : bracketDepthAfter depth character = depth := by
  obtain ⟨notOpener, _, notSquare, _⟩ := ordinary_cases ordinary
  have noPartner : partnerOf? character = none := by
    unfold partnerOf?
    split
    · exact absurd rfl notSquare
    · simpa [isOpener] using notOpener
  simp [bracketDepthAfter, noPartner, ordinary]

/-- The brackets of a pair open and close one level, and neither is a star. -/
theorem bracketDepthAfter_pair {opener closer : Char}
    (matching : partnerOf? opener = some closer) (depth : Nat) :
    bracketDepthAfter depth opener = depth + 1 ∧
      bracketDepthAfter (depth + 1) closer = depth ∧ opener ≠ '*' ∧ closer ≠ '*' := by
  have opens : bracketDepthAfter depth opener = depth + 1 := by simp [bracketDepthAfter, matching]
  refine ⟨opens, ?_⟩
  unfold partnerOf? closerOf? at matching
  repeat' split at matching
  all_goals cases matching
  all_goals exact ⟨rfl, by decide, by decide⟩

/-- Inside brackets a balanced text is not cut. -/
theorem starPieces_inside {text : Text} (balanced : Balanced text) (depth : Nat) (rest : Text) :
    starPieces (depth + 1) (text ++ rest) =
      (starPieces (depth + 1) rest).modifyHead (text ++ ·) := by
  induction balanced generalizing depth rest with
  | empty => cases pieces : starPieces (depth + 1) rest <;> simp [pieces]
  | character first ordinary _ inductionHypothesis =>
    rw [List.cons_append, starPieces, bracketDepthAfter_ordinary ordinary, inductionHypothesis]
    cases starPieces (depth + 1) rest <;> simp
  | @pair opener closer inner own matching _ _ innerHypothesis restHypothesis =>
    obtain ⟨opens, closes, notStar, closerNotStar⟩ := bracketDepthAfter_pair matching (depth + 1)
    have assembled : opener :: inner ++ closer :: own ++ rest =
        opener :: (inner ++ closer :: (own ++ rest)) := by simp
    rw [assembled, starPieces, opens, innerHypothesis, starPieces, closes, restHypothesis]
    cases starPieces (depth + 1) rest <;> simp

/-- What follows a text goes on with its last piece. -/
def GoesOn (front : Text) : Prop :=
  ∃ earlier last, starPieces 0 front = earlier ++ [last] ∧
    ∀ back, starPieces 0 (front ++ back) = earlier ++ (starPieces 0 back).modifyHead (last ++ ·)

/-- It does so behind a text that is not cut and so belongs to the first piece. -/
theorem GoesOn.behind {front rest : Text} (goesOn : GoesOn rest)
    (uncut : ∀ text, starPieces 0 (front ++ text) =
      (starPieces 0 text).modifyHead (front ++ ·)) : GoesOn (front ++ rest) := by
  obtain ⟨earlier, last, pieces, behind⟩ := goesOn
  cases earlier with
  | nil =>
    refine ⟨[], front ++ last, by rw [uncut, pieces]; rfl, ?_⟩
    intro back
    rw [List.append_assoc, uncut, behind]
    cases starPieces 0 back <;> simp
  | cons piece others =>
    refine ⟨(front ++ piece) :: others, last, by rw [uncut, pieces]; rfl, ?_⟩
    intro back
    rw [List.append_assoc, uncut, behind]
    rfl

/-- What follows a balanced text goes on with its last piece. -/
theorem starPieces_behind {front : Text} (balanced : Balanced front) : GoesOn front := by
  induction balanced with
  | empty =>
    refine ⟨[], [], rfl, ?_⟩
    intro back
    cases pieces : starPieces 0 back <;> simp [pieces]
  | @character first rest ordinary _ inductionHypothesis =>
    by_cases star : first = '*'
    · obtain ⟨earlier, last, pieces, behind⟩ := inductionHypothesis
      refine ⟨[] :: earlier, last, by simp [starPieces, star, pieces], ?_⟩
      intro back
      simp [starPieces, star, behind]
    · have behind : GoesOn ([first] ++ rest) := by
        refine inductionHypothesis.behind (fun text => ?_)
        simp [starPieces, star, bracketDepthAfter_ordinary ordinary]
      exact behind
  | @pair opener closer inner rest matching balancedInner _ _ inductionHypothesis =>
    obtain ⟨opens, closes, notStar, closerNotStar⟩ := bracketDepthAfter_pair matching 0
    have behind : GoesOn ((opener :: inner ++ [closer]) ++ rest) := by
      refine inductionHypothesis.behind (fun text => ?_)
      rw [List.append_assoc, List.cons_append, starPieces, opens, starPieces_inside balancedInner,
        List.cons_append, List.nil_append, starPieces, closes]
      cases starPieces 0 text <;> simp [notStar, closerNotStar]
    rwa [List.append_assoc] at behind

/-- A balanced text and another one behind a star are cut there. -/
theorem starPieces_star {front : Text} (balanced : Balanced front) (back : Text) :
    starPieces 0 (front ++ '*' :: back) = starPieces 0 front ++ starPieces 0 back := by
  obtain ⟨earlier, last, pieces, behind⟩ := starPieces_behind balanced
  rw [behind, pieces]
  simp [starPieces]

/-- A balanced text in brackets is one piece. -/
theorem starPieces_enclosed {opener closer : Char} {text : Text}
    (matching : partnerOf? opener = some closer) (balanced : Balanced text) :
    starPieces 0 (opener :: text ++ [closer]) = [opener :: text ++ [closer]] := by
  obtain ⟨opens, closes, notStar, closerNotStar⟩ := bracketDepthAfter_pair matching 0
  rw [List.cons_append, starPieces, opens, starPieces_inside balanced, starPieces, closes]
  simp [starPieces, notStar, closerNotStar]

/-- A text without brackets and stars is one piece. -/
theorem starPieces_plain {text : Text} (plain : text.any isBracket = false)
    (starless : '*' ∉ text) (depth : Nat) : starPieces depth text = [text] := by
  induction text with
  | nil => rfl
  | cons first rest inductionHypothesis =>
    obtain ⟨ordinary, ofRest⟩ := (Bool.or_eq_false_iff).mp plain
    obtain ⟨notStar, starlessRest⟩ := not_or.mp (mt List.mem_cons.mpr starless)
    rw [starPieces, bracketDepthAfter_ordinary ordinary, inductionHypothesis ofRest starlessRest]
    simp [Ne.symm notStar]

/-- The pieces of balanced texts that are joined are those of each. -/
theorem starPieces_join {texts : List Text} (some : texts ≠ [])
    (each : ∀ text ∈ texts, Balanced text) :
    starPieces 0 (Text.join '*' texts) = texts.flatMap (starPieces 0) := by
  induction texts with
  | nil => exact absurd rfl some
  | cons text others inductionHypothesis =>
    obtain ⟨ofText, ofOthers⟩ := List.forall_mem_cons.mp each
    cases others with
    | nil => simp
    | cons next rest =>
      rw [Text.join_cons (List.cons_ne_nil next rest), starPieces_star ofText,
        inductionHypothesis (List.cons_ne_nil next rest) ofOthers]
      rfl

/-- There is a piece. -/
theorem starPieces_filled (depth : Nat) (text : Text) : starPieces depth text ≠ [] := by
  induction text generalizing depth with
  | nil => exact List.cons_ne_nil _ _
  | cons first rest inductionHypothesis =>
    rw [starPieces]
    split
    · exact List.cons_ne_nil _ _
    · intro none
      exact inductionHypothesis _ (List.modifyHead_eq_nil_iff.mp none)

/-- The pieces joined are the text. -/
theorem join_starPieces (depth : Nat) (text : Text) :
    Text.join '*' (starPieces depth text) = text := by
  induction text generalizing depth with
  | nil => rfl
  | cons first rest inductionHypothesis =>
    rw [starPieces]
    split
    · next star =>
      obtain ⟨rfl, _⟩ : first = '*' ∧ (depth == 0) = true := by simpa using star
      rw [Text.join_cons (starPieces_filled 0 rest), inductionHypothesis]
      rfl
    · rw [Text.join_modifyHead (starPieces_filled _ rest), inductionHypothesis]

end PriorArt.Brackets
