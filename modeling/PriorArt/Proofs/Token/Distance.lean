import PriorArt.Proofs.Text.Decimals
import PriorArt.Proofs.Token.Scan

/-!
# Distances as they are written

A distance in a statement is a token of its own, and the same text can be read by itself. Both
readings agree: a distance token carries the unit and the digits of its text, and the text is a
distance with just that unit and number. A distance that is written from its number is read back
as it was.
-/

namespace PriorArt

namespace Text

/-- A digit of ASCII counts its place behind the zero of ASCII. -/
theorem digit_value_ascii (character : Char) (digit : character.isDigit = true) :
    digitValue? character = some (character.toNat - '0'.toNat) := by
  simp only [Char.isDigit, Bool.and_eq_true, decide_eq_true_eq, UInt32.le_iff_toNat_le] at digit
  obtain ⟨least, most⟩ : 48 ≤ character.toNat ∧ character.toNat ≤ 57 := digit
  have inside : (decide (48 ≤ character.toNat) && decide (character.toNat < 48 + 10)) = true := by
    simp only [Bool.and_eq_true, decide_eq_true_eq]
    omega
  have zeros : digitZeros = 48 :: digitZeros.tail := rfl
  rw [digitValue?, zeros, List.find?_cons, inside]
  rfl

/-- A numeral in digits of ASCII has the value of its digits. -/
theorem numeral_from_ascii (value : Nat) (digits : Text)
    (ascii : ∀ character ∈ digits, character.isDigit = true) :
    numeralFrom? value digits = some (Nat.ofDigitChars 10 digits value) := by
  induction digits generalizing value with
  | nil => simp [numeralFrom?]
  | cons character rest inductionHypothesis =>
    have first : character.isDigit = true := ascii character (by simp)
    simp only [numeralFrom?, digit_value_ascii character first]
    rw [inductionHypothesis _ (fun other member => ascii other (by simp [member])),
      Nat.ofDigitChars_cons]

/-- A text that does not end with a line feed loses nothing. -/
theorem without_final_newline_concat (front : Text) (last : Char) (kept : last ≠ '\n') :
    withoutFinalNewline (front ++ [last]) = front ++ [last] := by
  induction front with
  | nil => simp [withoutFinalNewline, kept]
  | cons character rest inductionHypothesis =>
    have unfinished : rest ++ [last] ≠ [] := by simp
    cases behind : rest ++ [last] with
    | nil => exact absurd behind unfinished
    | cons next others =>
      rw [List.cons_append, behind, withoutFinalNewline, ← behind, inductionHypothesis]
      simp

end Text

/-- Digits with the letter of a unit behind them are a distance as a text of their own. -/
theorem Distance.of_text_digits (digits : Text) (letter : Char) (unit : DistanceUnit)
    (some_digit : digits ≠ []) (ascii : ∀ character ∈ digits, character.isDigit = true)
    (names : DistanceUnit.ofLetter? letter = some unit) (kept : letter ≠ '\n') :
    Distance.ofText? (digits ++ [letter]) = some ⟨unit, Nat.ofDigitChars 10 digits 0⟩ := by
  have numeral : Text.numeral? digits = some (Nat.ofDigitChars 10 digits 0) := by
    cases digits with
    | nil => exact absurd rfl some_digit
    | cons digit others => exact Text.numeral_from_ascii 0 (digit :: others) ascii
  simp [Distance.ofText?, Text.without_final_newline_concat digits letter kept, names, numeral]

namespace Token

/-- A run is read as a distance only if it is digits and one letter. -/
theorem of_run_distance {run digits : Text} {unit : DistanceUnit} {capital : Bool}
    (read : ofRun run = .distance digits unit capital) :
    digits = run.takeWhile Char.isDigit ∧ digits ≠ [] := by
  unfold ofRun at read
  split at read
  · next digit others letter taken _ =>
    split at read
    · simp only [distance.injEq] at read
      exact ⟨by rw [← read.1, taken], by simp [← read.1]⟩
    · simp at read
  · simp at read

/-- A distance among the tokens of a run is what a run of its own is read as. -/
theorem of_whole_run_distance {run digits : Text} {unit : DistanceUnit} {capital : Bool}
    (member : .distance digits unit capital ∈ ofWholeRun run) :
    ∃ part, ofRun part = .distance digits unit capital := by
  have ofRest_distance (part : Text) (inRest : .distance digits unit capital ∈ ofRest part) :
      ∃ part, ofRun part = .distance digits unit capital := by
    cases part with
    | nil => simp [ofRest] at inRest
    | cons character others =>
      exact ⟨character :: others, by simpa [ofRest, eq_comm] using inRest⟩
  unfold ofWholeRun at member
  split at member
  · split at member
    · exact ofRest_distance _ member
    · simp only [List.mem_cons] at member
      rcases member with slash | inRest
      · unfold ofSlash at slash
        split at slash <;> simp at slash
      · exact ofRest_distance _ inRest
  · exact ofRest_distance _ member

/-- The digits of a distance in a scan are digits of ASCII, and there is at least one. -/
theorem scan_from_distance (run text digits : Text) (unit : DistanceUnit) (capital : Bool)
    (member : .distance digits unit capital ∈ scanFrom run text) :
    digits ≠ [] ∧ ∀ character ∈ digits, character.isDigit = true := by
  have ofRun_digits (whole : Text) (inRun : .distance digits unit capital ∈ ofWholeRun whole) :
      digits ≠ [] ∧ ∀ character ∈ digits, character.isDigit = true := by
    obtain ⟨part, read⟩ := of_whole_run_distance inRun
    obtain ⟨taken, some_digit⟩ := of_run_distance read
    have all : (part.takeWhile Char.isDigit).all Char.isDigit = true := List.all_takeWhile
    exact ⟨some_digit, by simpa [← taken] using all⟩
  induction text generalizing run with
  | nil =>
    simp only [scanFrom, List.mem_append, List.mem_singleton, reduceCtorEq, or_false] at member
    exact ofRun_digits run member
  | cons character rest inductionHypothesis =>
    unfold scanFrom at member
    split at member
    · next sign signs =>
      have noDistance : sign ≠ .distance digits unit capital := by
        rintro rfl
        unfold ofSign? at signs
        split at signs <;> simp at signs
      simp only [List.mem_append, List.mem_cons, noDistance.symm, false_or] at member
      rcases member with inRun | behind
      · exact ofRun_digits run inRun
      · exact inductionHypothesis [] behind
    · split at member
      · rcases List.mem_append.mp member with inRun | behind
        · exact ofRun_digits run inRun
        · exact inductionHypothesis [] behind
      · exact inductionHypothesis _ member

/-- The text of a distance token, read by itself, is the distance of the token. -/
theorem of_text_distance (digits : Text) (unit : DistanceUnit) (capital : Bool)
    (some_digit : digits ≠ []) (ascii : ∀ character ∈ digits, character.isDigit = true) :
    Distance.ofText? (distance digits unit capital).text =
      some ⟨unit, Nat.ofDigitChars 10 digits 0⟩ := by
  apply Distance.of_text_digits digits _ unit some_digit ascii
  · cases unit <;> cases capital <;> decide
  · cases unit <;> cases capital <;> decide

/-- The characters that separate are the four gaps and the eight signs. -/
theorem separator_cases {character : Char} (separates : isSeparator character = true) :
    character ∈ [' ', '\t', '\r', '\n', '+', '*', ',', '(', ')', '{', '}', '='] := by
  rcases Bool.or_eq_true_iff.mp separates with gap | sign
  · simp only [isGap, Bool.or_eq_true, decide_eq_true_eq] at gap
    rcases gap with ((rfl | rfl) | rfl) | rfl <;> decide
  · unfold ofSign? at sign
    split at sign
    case h_9 => simp at sign
    all_goals decide

/-- No digit separates. -/
theorem digit_not_separator {character : Char} (digit : character.isDigit = true) :
    isSeparator character = false := by
  cases separates : isSeparator character with
  | false => rfl
  | true =>
    have noDigit : ∀ separator ∈ [' ', '\t', '\r', '\n', '+', '*', ',', '(', ')', '{', '}', '='],
        separator.isDigit = false := by simp
    rw [noDigit character (separator_cases separates)] at digit
    exact absurd digit (by decide)

/-- Digits with the letter of a unit behind them are a distance token. -/
theorem of_whole_run_digits (digits : Text) (unit : DistanceUnit) (some_digit : digits ≠ [])
    (ascii : ∀ character ∈ digits, character.isDigit = true) :
    ofWholeRun (digits ++ [unit.letter]) = [.distance digits unit false] := by
  have letter : unit.letter.isDigit = false ∧ unit.letter.isUpper = false ∧
      DistanceUnit.ofLetter? unit.letter = some unit := by cases unit <;> decide
  have taken : (digits ++ [unit.letter]).takeWhile Char.isDigit = digits := by
    simp [List.takeWhile_append_of_pos ascii, letter.1]
  have left : (digits ++ [unit.letter]).dropWhile Char.isDigit = [unit.letter] := by
    simp [List.dropWhile_append_of_pos ascii, letter.1]
  cases digits with
  | nil => exact absurd rfl some_digit
  | cons digit others =>
    have noSlash : digit ≠ '/' := by
      rintro rfl
      exact absurd (ascii '/' (by simp)) (by decide)
    have run : ofWholeRun (digit :: others ++ [unit.letter]) =
        ofRest (digit :: others ++ [unit.letter]) := by
      rw [List.cons_append, ofWholeRun]
      simpa using noSlash
    rw [run, List.cons_append, ofRest, ← List.cons_append, ofRun, taken, left]
    · simp [letter.2]
    · simp

/-- A distance written from its number is one token, which has the digits of the number. -/
theorem body_distance (given : Distance) :
    body given.text = [.distance (decimal given.count) given.unit false] := by
  have ascii := decimal_digits given.count
  have letter : isSeparator given.unit.letter = false := by cases given.unit <;> decide
  have whole : ∀ character ∈ given.text, isSeparator character = false := by
    intro character inside
    simp only [Distance.text, List.mem_append, List.mem_singleton] at inside
    rcases inside with digit | rfl
    · exact digit_not_separator (ascii character digit)
    · exact letter
  rw [body_run _ whole]
  exact of_whole_run_digits _ _ Nat.toDigits_ne_nil ascii

end Token

end PriorArt
