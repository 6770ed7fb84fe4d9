import PriorArt.Proofs.Query.RowTexts

/-!
# Distances in the text of a query

A distance is written between two commas, a brace has two commas inside and one behind it, and a
query has no other commas. So counting commas tells whether a bracket of a query holds more than
one distance: there are more than two commas in it then, without those behind braces.
-/

namespace PriorArt

/-- Whether no bracket of a query holds more than one distance. The counts are the numbers of
commas so far in the brackets that are open, the innermost one first, where a brace counts one
less in advance for the comma behind it. -/
def distancesFit : List Int → Text → Bool
  | _, [] => true
  | counts, '(' :: rest | counts, '[' :: rest | counts, '{' :: rest => distancesFit (0 :: counts) rest
  | count :: outer, ',' :: rest => distancesFit ((count + 1) :: outer) rest
  | count :: outer, ')' :: rest | count :: outer, ']' :: rest =>
    count ≤ 2 && distancesFit outer rest
  | count :: next :: outer, '}' :: rest => count ≤ 2 && distancesFit ((next - 1) :: outer) rest
  | counts, _ :: rest => distancesFit counts rest

/-- A character without a part in the counting. -/
def IsUncounted (character : Char) : Prop :=
  character ∉ ['(', '[', '{', ',', ')', ']', '}']

/-- A character without a part in the counting is passed over. -/
theorem distancesFit_uncounted {character : Char} (uncounted : IsUncounted character)
    (counts : List Int) (rest : Text) :
    distancesFit counts (character :: rest) = distancesFit counts rest := by
  simp only [IsUncounted, List.mem_cons, List.not_mem_nil, or_false, not_or] at uncounted
  obtain ⟨_, _, _, _, _, _, _⟩ := uncounted
  rw [distancesFit.eq_def]
  split <;> simp_all

/-- Characters without a part in the counting are passed over. -/
theorem distancesFit_run {run : Text} (uncounted : ∀ character ∈ run, IsUncounted character)
    (counts : List Int) (rest : Text) :
    distancesFit counts (run ++ rest) = distancesFit counts rest := by
  induction run with
  | nil => rfl
  | cons character others inductionHypothesis =>
    rw [List.cons_append, distancesFit_uncounted (uncounted character (by simp)),
      inductionHypothesis (fun other inside => uncounted other (by simp [inside]))]

/-- The characters of a plain word have no part in the counting. -/
theorem IsPlain.uncounted {word : Text} (plain : IsPlain word) :
    ∀ character ∈ word, IsUncounted character := by
  intro character inside
  rcases (Phrase.term_chars plain.term).2 character inside with termChar | rfl
  · have noMark := (term_char_facts termChar).2
    simp only [Phrase.isMark, List.contains_eq_mem, List.mem_cons, List.not_mem_nil, or_false,
      decide_eq_false_iff_not, not_or] at noMark
    simp [IsUncounted, noMark]
  · simp [IsUncounted]

/-- The characters of a distance have no part in the counting. -/
theorem distance_uncounted (distance : Distance) :
    ∀ character ∈ distance.text, IsUncounted character := by
  intro character inside
  rcases List.mem_append.mp inside with digit | letter
  · have isDigit := decimal_digits distance.count character digit
    have notSign : ∀ sign ∈ ['(', '[', '{', ',', ')', ']', '}'], sign.isDigit = false := by simp
    intro listed
    rw [notSign character listed] at isDigit
    cases isDigit
  · rw [List.mem_singleton.mp letter]
    cases distance.unit <;> simp [IsUncounted, DistanceUnit.letter]

namespace Layout

/-- The suffix of the text field has no part in the counting. -/
theorem suffix_uncounted (marked : Bool) : ∀ character ∈ suffix marked, IsUncounted character := by
  cases marked with
  | true => simp [suffix, Field.suffix, IsUncounted]
  | false => simp [suffix]

/-- The commas of a separator. -/
theorem distancesFit_separator (separator : Separator) (count : Int) (outer : List Int)
    (rest : Text) :
    distancesFit (count :: outer) (separator.text ++ rest) =
      distancesFit ((count + match separator with | .near _ => 2 | _ => 0) :: outer) rest := by
  cases separator with
  | plus => simp [Separator.text, distancesFit]
  | star => simp [Separator.text, distancesFit]
  | near distance =>
    have assembled : (Separator.near distance).text ++ rest =
        ',' :: (distance.text ++ ',' :: rest) := by simp [Separator.text]
    have counted : count + 1 + 1 = count + 2 := by omega
    rw [assembled, distancesFit, distancesFit_run (distance_uncounted distance), distancesFit,
      counted]

mutual

/-- The counting passes over a proper atom exactly if it is legible. -/
theorem Atom.distancesFit (atom : Atom) (proper : atom.IsProper) (count : Int) (outer : List Int)
    (rest : Text) :
    distancesFit (count :: outer) (atom.text ++ rest) =
      (atom.legible && PriorArt.distancesFit (count :: outer) rest) := by
  cases atom with
  | word text marked =>
    rw [Atom.text, List.append_assoc, distancesFit_run (IsPlain.uncounted proper),
      distancesFit_run (suffix_uncounted marked)]
    rfl
  | group inner marked =>
    have assembled : (Atom.group inner marked).text ++ rest =
        '(' :: (inner.text ++ ')' :: (suffix marked ++ rest)) := by
      simp [Atom.text, Brackets.parenthesized]
    have allowed : decide ((0 : Int) + 2 * inner.distances ≤ 2) = decide (inner.distances ≤ 1) := by
      rw [decide_eq_decide]
      omega
    rw [assembled, PriorArt.distancesFit, Row.distancesFit inner proper, PriorArt.distancesFit,
      distancesFit_run (suffix_uncounted marked), allowed, Atom.legible, Bool.and_assoc]
  | brace first second third words marked =>
    obtain ⟨⟨properFirst, noFirst⟩, ⟨properSecond, noSecond⟩, properThird, noThird⟩ := proper
    have assembled : (Atom.brace first second third words marked).text ++ rest =
        '{' :: (first.text ++ ',' :: (second.text ++ ',' :: (third.text ++ '}' ::
          ',' :: (Distance.text ⟨.words, words⟩ ++ (suffix marked ++ rest))))) := by
      simp [Atom.text, Expr.bracedText, Distance.text, DistanceUnit.letter]
    have closed : count - 1 + 1 = count := by omega
    have inner : ∀ slot : Row, slot.distances = 0 → ∀ commas : Int,
        commas + 2 * (slot.distances : Int) = commas := by
      intro slot none commas
      omega
    rw [assembled, PriorArt.distancesFit, Row.distancesFit first properFirst, inner first noFirst,
      PriorArt.distancesFit, Row.distancesFit second properSecond, inner second noSecond,
      PriorArt.distancesFit, Row.distancesFit third properThird, inner third noThird,
      PriorArt.distancesFit, PriorArt.distancesFit, closed,
      distancesFit_run (distance_uncounted _), distancesFit_run (suffix_uncounted marked)]
    simp [Atom.legible, Bool.and_assoc]

/-- The counting passes over a proper row exactly if it is legible, and counts its distances. -/
theorem Row.distancesFit (row : Row) (proper : row.IsProper) (count : Int) (outer : List Int)
    (rest : Text) :
    distancesFit (count :: outer) (row.text ++ rest) =
      (row.legible &&
        PriorArt.distancesFit ((count + 2 * row.distances) :: outer) rest) := by
  cases row with
  | last atom =>
    rw [Row.text, Atom.distancesFit atom proper]
    simp [Row.legible, Row.distances]
  | more atom separator later =>
    rw [Row.text, List.append_assoc, List.append_assoc, Atom.distancesFit atom proper.1,
      distancesFit_separator, Row.distancesFit later proper.2, Row.legible, Bool.and_assoc]
    cases separator with
    | plus => simp [Row.distances]
    | star => simp [Row.distances]
    | near distance =>
      have counted : count + 2 + 2 * (later.distances : Int) =
          count + 2 * ((later.distances + 1 : Nat) : Int) := by omega
      simp only [Row.distances, counted]

end

end Layout

end PriorArt
