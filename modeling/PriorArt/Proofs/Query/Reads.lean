import PriorArt.Expr.LogicalForm
import PriorArt.Proofs.Query.Tidy
import PriorArt.Proofs.Reading

/-!
# Reading what is written

Each reader of the query grammar reads a text that follows its rule, in front of whatever can
stand behind it. A text is said to read as a phrase at a level of the grammar if that reader,
given enough depth, finds the phrase and stops behind the text. The rules of the grammar become
rules for reading: a text that is put together from texts that read, reads.

The depth that a text needs grows with its length alone, so the depth that is given to a query is
enough for every part of it.
-/

namespace PriorArt.Phrase

/-- The marks that can stand behind a union. -/
def unionEnds : List Char := ['*', ',', ')', ']', '}']

/-- The marks that can stand behind a product. -/
def productEnds : List Char := [',', ')', ']', '}']

/-- The marks that can stand behind the inside of a group or bracket. -/
def insideEnds : List Char := [')', ']']

/-- A text reads as an atom that can still take a field. -/
def ReadsOpen (text : Text) (phrase : Phrase) : Prop :=
  ∀ depth rest, 4 * text.length + 1 ≤ depth → EndsOpen rest →
    atom depth (text ++ rest) = .ok (withField phrase rest)

/-- A text reads as an atom with the field that it has. -/
def ReadsAtom (text : Text) (phrase : Phrase) : Prop :=
  ∀ depth rest, 4 * text.length + 1 ≤ depth → StopsAt closingMarks rest →
    atom depth (text ++ rest) = .ok (phrase, rest)

/-- A text reads as the operands of a union. -/
def ReadsUnion (text : Text) (operands : Phrase × List Phrase) : Prop :=
  ∀ depth rest, 4 * text.length + 2 ≤ depth → StopsAt unionEnds rest →
    alternatives depth (text ++ rest) = .ok (operands, rest)

/-- A text reads as the operands of a product. -/
def ReadsProduct (text : Text) (operands : Phrase × List Phrase) : Prop :=
  ∀ depth rest, 4 * text.length + 3 ≤ depth → StopsAt productEnds rest →
    factors depth (text ++ rest) = .ok (operands, rest)

/-- A text reads as the inside of a group or bracket. -/
def ReadsInside (text : Text) (phrase : Phrase) : Prop :=
  ∀ depth rest, 4 * text.length + 4 ≤ depth → StopsAt insideEnds rest →
    inside depth (text ++ rest) = .ok (phrase, rest)

/-- Where an atom ends without a field, it takes none. -/
theorem withField_stop {rest : Text} (stops : StopsAt closingMarks rest) (inner : Phrase) :
    withField inner rest = (inner, rest) := by
  have noField : field? rest = none := by
    rcases stops.cases with rfl | ⟨mark, behind, rfl, closing⟩
    · rfl
    · have noSlash := (closing_mark_facts closing).2.2
      unfold field?
      split
      · next same => exact absurd (List.cons.inj same).1 noSlash
      · rfl
  rw [withField, stops.skipGap, noField]

/-- An atom takes the field that stands behind it. -/
theorem withField_suffix (field : Field) {rest : Text} (stops : StopsAt closingMarks rest)
    (inner : Phrase) :
    withField inner (field.suffix.toList ++ rest) = (fielded inner field, rest) := by
  obtain ⟨first, second, suffix, _, _, names⟩ := suffix_letters field
  have found : field? (field.suffix.toList ++ rest) = some (field, rest) := by
    simp [suffix, field?, names]
  rw [withField, (EndsOpen.field field stops).skipGap, found]

/-- An atom need not take a field. -/
theorem ReadsOpen.atom {text : Text} {phrase : Phrase} (reads : ReadsOpen text phrase) :
    ReadsAtom text phrase := by
  intro depth rest enough stops
  rw [reads depth rest enough (.stop stops), withField_stop stops]

/-- An atom that can take a field reads with the field behind it. -/
theorem ReadsOpen.fielded {text : Text} {phrase : Phrase} (reads : ReadsOpen text phrase)
    (field : Field) : ReadsAtom (text ++ field.suffix.toList) (.fielded phrase field) := by
  intro depth rest enough stops
  rw [List.length_append] at enough
  rw [List.append_assoc, reads depth _ (by omega) (.field field stops),
    withField_suffix field stops]

/-- What is no blank is no gap. -/
theorem no_gap_of_not_blank {character : Char} (notBlank : isBlank character = false) :
    isGap character = false := by
  cases gap : isGap character with
  | false => rfl
  | true =>
    simp only [isGap, Bool.or_eq_true, decide_eq_true_eq] at gap
    rcases gap with (((rfl | rfl) | rfl) | rfl) | rfl <;> exact absurd notBlank (by decide)

/-- A plain word reads as a term. -/
theorem reads_term {word : Text} (plain : IsPlain word) : ReadsOpen word (.term word) := by
  intro depth rest enough ends
  obtain ⟨⟨first, others, same, termChar⟩, _⟩ := term_chars plain.term
  obtain ⟨depth, rfl⟩ : ∃ less, depth = less + 1 := ⟨depth - 1, by omega⟩
  obtain ⟨notBlank, noMark⟩ := term_char_facts termChar
  have noSkip : skipGap (word ++ rest) = word ++ rest := by
    simp [skipGap, same, no_gap_of_not_blank notBlank]
  have noOpening : ∀ mark behind, isMark mark = true → word ++ rest ≠ mark :: behind := by
    intro mark behind isMark opened
    rw [same] at opened
    rw [(List.cons.inj opened).1, isMark] at noMark
    cases noMark
  rw [Phrase.atom, noSkip]
  split
  · next behind opened => exact absurd opened (noOpening '(' behind rfl)
  · next behind opened => exact absurd opened (noOpening '[' behind rfl)
  · next behind opened => exact absurd opened (noOpening '{' behind rfl)
  · rw [term_append plain.term ends]
    rfl

/-- A text that reads inside a group reads as the group in round brackets. -/
theorem reads_group {text : Text} {phrase : Phrase} (reads : ReadsInside text phrase) :
    ReadsOpen (Brackets.parenthesized text) (.group phrase) := by
  intro depth rest enough ends
  obtain ⟨depth, rfl⟩ : ∃ less, depth = less + 1 := ⟨depth - 1, by omega⟩
  have assembled : Brackets.parenthesized text ++ rest = '(' :: (text ++ ')' :: rest) := by
    simp [Brackets.parenthesized]
  have long : 4 * text.length + 4 ≤ depth := by
    simp only [Brackets.parenthesized, List.length_append, List.length_cons,
      List.length_nil] at enough
    omega
  have noSkip : skipGap ('(' :: (text ++ ')' :: rest)) = '(' :: (text ++ ')' :: rest) := rfl
  rw [assembled, Phrase.atom, noSkip]
  simp only
  rw [reads depth _ long (stops_at_cons (by decide) rest)]
  rfl

/-- A text that reads inside a bracket reads as the bracket in square brackets. -/
theorem reads_bracket {text : Text} {phrase : Phrase} (reads : ReadsInside text phrase) :
    ReadsAtom ('[' :: text ++ [']']) (.bracket phrase) := by
  intro depth rest enough ends
  obtain ⟨depth, rfl⟩ : ∃ less, depth = less + 1 := ⟨depth - 1, by omega⟩
  have assembled : '[' :: text ++ [']'] ++ rest = '[' :: (text ++ ']' :: rest) := by simp
  have long : 4 * text.length + 4 ≤ depth := by
    simp only [List.length_append, List.length_cons, List.length_nil] at enough
    omega
  have noSkip : skipGap ('[' :: (text ++ ']' :: rest)) = '[' :: (text ++ ']' :: rest) := rfl
  rw [assembled, Phrase.atom, noSkip]
  simp only
  rw [reads depth _ long (stops_at_cons (by decide) rest)]
  rfl

/-- The operands of a product as one phrase. -/
def wholeProduct (operands : Phrase × List Phrase) : Phrase := joinProduct operands.1 operands.2

/-- The operands of a union as one phrase. -/
def wholeUnion (operands : Phrase × List Phrase) : Phrase := joinUnion operands.1 operands.2

/-- A distance is read back in front of any text. -/
theorem distance_append (distance : Distance) (rest : Text) :
    distance? (distance.text ++ rest) = some (distance, rest) := by
  obtain ⟨unit, count⟩ := distance
  have letter : unit.letter.isDigit = false ∧ DistanceUnit.ofLetter? unit.letter = some unit := by
    cases unit <;> decide
  have digits := decimal_digits count
  have number : Nat.ofDigitChars 10 (decimal count) 0 = count := by simp [decimal]
  have assembled : Distance.text ⟨unit, count⟩ ++ rest = decimal count ++ unit.letter :: rest := by
    simp [Distance.text]
  rw [assembled, distance?, List.takeWhile_append_of_pos digits,
    List.dropWhile_append_of_pos digits]
  cases run : decimal count with
  | nil => exact absurd run Nat.toDigits_ne_nil
  | cons first others =>
    rw [run] at number
    simp [letter.1, letter.2, number]

/-- A distance begins with a digit, so no gap stands in front of it. -/
theorem distance_no_gap (distance : Distance) (rest : Text) :
    skipGap (distance.text ++ rest) = distance.text ++ rest := by
  unfold Distance.text
  cases digits : decimal distance.count with
  | nil => exact absurd digits Nat.toDigits_ne_nil
  | cons first others =>
    have digit : first.isDigit = true := decimal_digits distance.count first (by simp [digits])
    simp [skipGap, no_gap_of_not_blank (digit_sign digit).1]

/-- A mark is taken where it stands. -/
theorem expectMark_cons {mark : Char} (noGap : isGap mark = false) (rest : Text) :
    expectMark mark (mark :: rest) = .ok rest := by
  simp [expectMark, skipGap, noGap]

/-- A distance is taken where it stands. -/
theorem expectDistance_append (distance : Distance) (rest : Text) :
    expectDistance (distance.text ++ rest) = .ok (distance, rest) := by
  rw [expectDistance, distance_no_gap, distance_append]

/-- A brace in front of a text, mark by mark. -/
theorem braced_append (first second third : Text) (count : Nat) (rest : Text) :
    Expr.bracedText first second third count ++ rest =
      '{' :: (first ++ ',' :: (second ++ ',' :: (third ++ '}' :: ',' ::
        (Distance.text ⟨.words, count⟩ ++ rest)))) := by
  simp [Expr.bracedText, Distance.text, DistanceUnit.letter]

/-- No gap stands in front of a brace. -/
theorem skipGap_brace (behind : Text) : skipGap ('{' :: behind) = '{' :: behind := rfl

/-- Three texts that read as products read as operands of a brace with its word distance. -/
theorem reads_brace {first second third : Text} {firsts seconds thirds : Phrase × List Phrase}
    (readsFirst : ReadsProduct first firsts) (readsSecond : ReadsProduct second seconds)
    (readsThird : ReadsProduct third thirds) (count : Nat) :
    ReadsOpen (Expr.bracedText first second third count)
      (.brace (wholeProduct firsts) (wholeProduct seconds) (wholeProduct thirds)
        ⟨.words, count⟩) := by
  intro depth rest enough ends
  obtain ⟨depth, rfl⟩ : ∃ less, depth = less + 1 := ⟨depth - 1, by omega⟩
  simp only [Expr.bracedText, List.length_append, List.length_cons, List.length_nil] at enough
  rw [braced_append, Phrase.atom]
  simp only [skipGap_brace]
  rw [readsFirst depth _ (by omega) (stops_at_cons (by decide) _)]
  simp only [Reading.ok_bind, expectMark_cons (rfl : isGap ',' = false)]
  rw [readsSecond depth _ (by omega) (stops_at_cons (by decide) _)]
  simp only [Reading.ok_bind, expectMark_cons (rfl : isGap ',' = false)]
  rw [readsThird depth _ (by omega) (stops_at_cons (by decide) _)]
  simp only [Reading.ok_bind, expectMark_cons (rfl : isGap '}' = false),
    expectMark_cons (rfl : isGap ',' = false), expectDistance_append]
  rfl

/-- An atom reads as a union of one operand. -/
theorem ReadsAtom.union {text : Text} {phrase : Phrase} (reads : ReadsAtom text phrase) :
    ReadsUnion text (phrase, []) := by
  intro depth rest enough stops
  obtain ⟨depth, rfl⟩ : ∃ less, depth = less + 1 := ⟨depth - 1, by omega⟩
  have ends : StopsAt closingMarks rest := stops.mono (by decide)
  rw [alternatives, reads depth rest (by omega) ends]
  simp only [Reading.ok_bind, ends.skipGap]
  split
  · exact absurd (stops '+' rfl) (by decide)
  · rfl

/-- An atom and a union read as one union with a plus sign between them. -/
theorem ReadsUnion.cons {text more : Text} {phrase : Phrase} {operands : Phrase × List Phrase}
    (reads : ReadsAtom text phrase) (readsMore : ReadsUnion more operands) :
    ReadsUnion (text ++ '+' :: more) (phrase, operands.1 :: operands.2) := by
  intro depth rest enough stops
  obtain ⟨depth, rfl⟩ : ∃ less, depth = less + 1 := ⟨depth - 1, by omega⟩
  simp only [List.length_append, List.length_cons] at enough
  rw [List.append_assoc, List.cons_append, alternatives,
    reads depth _ (by omega) (stops_at_cons (by decide) _)]
  have noSkip : skipGap ('+' :: (more ++ rest)) = '+' :: (more ++ rest) := rfl
  simp only [Reading.ok_bind, noSkip]
  rw [readsMore depth rest (by omega) stops]
  rfl

/-- A union reads as a product of one operand. -/
theorem ReadsUnion.product {text : Text} {operands : Phrase × List Phrase}
    (reads : ReadsUnion text operands) : ReadsProduct text (wholeUnion operands, []) := by
  intro depth rest enough stops
  obtain ⟨depth, rfl⟩ : ∃ less, depth = less + 1 := ⟨depth - 1, by omega⟩
  have ends : StopsAt closingMarks rest := stops.mono (by decide)
  rw [factors, reads depth rest (by omega) (stops.mono (by decide))]
  simp only [Reading.ok_bind, ends.skipGap]
  split
  · exact absurd (stops '*' rfl) (by decide)
  · rfl

/-- A union and a product read as one product with a star between them. -/
theorem ReadsProduct.cons {text more : Text} {operands others : Phrase × List Phrase}
    (reads : ReadsUnion text operands) (readsMore : ReadsProduct more others) :
    ReadsProduct (text ++ '*' :: more) (wholeUnion operands, others.1 :: others.2) := by
  intro depth rest enough stops
  obtain ⟨depth, rfl⟩ : ∃ less, depth = less + 1 := ⟨depth - 1, by omega⟩
  simp only [List.length_append, List.length_cons] at enough
  rw [List.append_assoc, List.cons_append, factors,
    reads depth _ (by omega) (stops_at_cons (by decide) _)]
  have noSkip : skipGap ('*' :: (more ++ rest)) = '*' :: (more ++ rest) := rfl
  simp only [Reading.ok_bind, noSkip]
  rw [readsMore depth rest (by omega) stops]
  rfl

/-- A product reads inside a group or bracket. -/
theorem ReadsProduct.inside {text : Text} {operands : Phrase × List Phrase}
    (reads : ReadsProduct text operands) : ReadsInside text (wholeProduct operands) := by
  intro depth rest enough stops
  obtain ⟨depth, rfl⟩ : ∃ less, depth = less + 1 := ⟨depth - 1, by omega⟩
  have ends : StopsAt closingMarks rest := stops.mono (by decide)
  rw [Phrase.inside, reads depth rest (by omega) (stops.mono (by decide))]
  simp only [Reading.ok_bind, ends.skipGap]
  split
  · exact absurd (stops ',' rfl) (by decide)
  · rfl

/-- Two products with a distance between them read inside a group or bracket. -/
theorem reads_proximity {left right : Text} {lefts rights : Phrase × List Phrase}
    (readsLeft : ReadsProduct left lefts) (distance : Distance)
    (readsRight : ReadsProduct right rights) :
    ReadsInside (left ++ ',' :: distance.text ++ ',' :: right)
      (.proximity (wholeProduct lefts) distance (wholeProduct rights)) := by
  intro depth rest enough stops
  obtain ⟨depth, rfl⟩ : ∃ less, depth = less + 1 := ⟨depth - 1, by omega⟩
  have assembled : left ++ ',' :: distance.text ++ ',' :: right ++ rest =
      left ++ ',' :: (distance.text ++ ',' :: (right ++ rest)) := by simp
  simp only [List.length_append, List.length_cons] at enough
  rw [assembled, Phrase.inside, readsLeft depth _ (by omega) (stops_at_cons (by decide) _)]
  have noSkip : ∀ behind, skipGap (',' :: behind) = ',' :: behind := fun _ => rfl
  simp only [Reading.ok_bind, noSkip, expectDistance_append,
    expectMark_cons (rfl : isGap ',' = false)]
  rw [readsRight depth rest (by omega) (stops.mono (by decide))]
  rfl

/-- A query that reads as a product has the operands of the product as its factors. -/
theorem ReadsProduct.query {text : Text} {operands : Phrase × List Phrase}
    (reads : ReadsProduct text operands) : ofQuery text = .ok (operands.1 :: operands.2) := by
  have whole := reads (depthBound text) [] (by simp only [depthBound]; omega) (by
    intro first inside
    cases inside)
  rw [List.append_nil] at whole
  rw [ofQuery, whole]
  rfl

end PriorArt.Phrase
