import PriorArt.Proofs.Query.ReadTerms

/-!
# Terminals of queries

Beside its marks the grammar of queries has three terminals: fields, distances and terms. Each has a
pattern, which says what a lexeme is like in front of the text behind it; only that of a term looks at
the text behind. A terminal is matched greedily, so its lexeme at the start of a text is the longest
that fits the pattern.

The scanners of the reader do not search for the longest lexeme, and they take the letters of a field
in plain capitals and small letters only. In a text in normal form they find what the patterns match.
-/

namespace PriorArt.Query

open Phrase (isTermChar isMark termTail term? field? distance?)

/-- What a lexeme is like in front of the text behind it. -/
abbrev Pattern := Text → Text → Prop

/-- The longest lexeme at the start of a text that fits a pattern, and the text behind it. -/
structure Pattern.Matches (pattern : Pattern) (text lexeme rest : Text) : Prop where
  parts : text = lexeme ++ rest
  fits : pattern lexeme rest
  longest : ∀ other behind, text = other ++ behind → pattern other behind →
    other.length ≤ lexeme.length

/-- Only one lexeme is the longest. -/
theorem Pattern.Matches.unique {pattern : Pattern} {text lexeme rest other behind : Text}
    (isMatch : pattern.Matches text lexeme rest) (isOther : pattern.Matches text other behind) :
    lexeme = other ∧ rest = behind := by
  have same : lexeme ++ rest = other ++ behind := isMatch.parts.symm.trans isOther.parts
  have atMost := isOther.longest lexeme rest isMatch.parts isMatch.fits
  have atLeast := isMatch.longest other behind isOther.parts isOther.fits
  exact List.append_inj same (Nat.le_antisymm atMost atLeast)

/-- A letter that is matched without regard to case. The letter I is also matched without its dot
and, as a capital, with one. -/
def MatchesLetter (capital character : Char) : Prop :=
  character = capital ∨ character = capital.toLower ∨
    capital = 'I' ∧ (character = 'ı' ∨ character = 'İ')

/-- The two letters of a field, in any case. -/
def AreLetters (field : Field) (first second : Char) : Prop :=
  ∃ one two, field.suffix.toList = ['/', one, two] ∧ MatchesLetter one first ∧
    MatchesLetter two second

/-- A field is a slash and the two letters of a field. -/
def fieldPattern : Pattern := fun lexeme _ =>
  ∃ field first second, lexeme = ['/', first, second] ∧ AreLetters field first second

/-- A distance is one or more digits and the letter of a unit, in either case. -/
def distancePattern : Pattern := fun lexeme _ =>
  ∃ digits letter, lexeme = digits ++ [letter] ∧ digits ≠ [] ∧
    (∀ digit ∈ digits, digit.isDigit = true) ∧ (MatchesLetter 'N' letter ∨ MatchesLetter 'C' letter)

/-- A text that begins with the letters of a field, behind which no character of a term stands. -/
def OpensField (text : Text) : Prop :=
  ∃ field first second behind, text = first :: second :: behind ∧ AreLetters field first second ∧
    ∀ next ∈ behind.head?, isTermChar next = false

/-- A run of characters of terms. -/
structure IsRun (run : Text) : Prop where
  filled : run ≠ []
  chars : ∀ character ∈ run, isTermChar character = true

/-- A term is a run, or several with slashes between them, of which none opens a field. -/
inductive TermPattern : Pattern where
  | run {run : Text} (isRun : IsRun run) (behind : Text) : TermPattern run behind
  | slash {front run behind : Text} (term : TermPattern front ('/' :: run ++ behind))
      (noField : ¬ OpensField (run ++ behind)) (isRun : IsRun run) :
      TermPattern (front ++ '/' :: run) behind

/-- A character whose capital is given is the capital or its small letter. -/
theorem char_of_upper {capital character : Char} (same : character.toUpper = capital) :
    character = capital ∨ character = capital.toLower := by
  unfold Char.toUpper at same
  split at same
  · next small =>
    subst same
    simp only [UInt32.le_iff_toNat_le] at small
    have first : 'a'.val.toNat = 97 := rfl
    have last : 'z'.val.toNat = 122 := rfl
    have upper : (character.val + ('A'.val - 'a'.val)).toNat = character.val.toNat - 32 := by
      rw [UInt32.toNat_add, show ('A'.val - 'a'.val).toNat = 2 ^ 32 - 32 from rfl]
      omega
    have isUpper : character.val + ('A'.val - 'a'.val) ≥ 'A'.val ∧
        character.val + ('A'.val - 'a'.val) ≤ 'Z'.val := by
      have firstUpper : 'A'.val.toNat = 65 := rfl
      have lastUpper : 'Z'.val.toNat = 90 := rfl
      simp only [ge_iff_le, UInt32.le_iff_toNat_le, upper]
      omega
    right
    unfold Char.toLower
    rw [dif_pos isUpper]
    apply Char.ext
    apply UInt32.toNat_inj.mp
    rw [UInt32.toNat_add, upper, show ('a'.val - 'A'.val).toNat = 32 from rfl]
    omega
  · exact .inl same

/-- Two letters that name a field are letters of the field. -/
theorem letters_of_names {first second : Char} {field : Field}
    (names : Field.ofLetters? [first, second] = some field) : AreLetters field first second := by
  have suffix := List.find?_some names
  simp only [List.map_cons, List.map_nil, decide_eq_true_eq] at suffix
  refine ⟨first.toUpper, second.toUpper, suffix, ?_, ?_⟩
  · exact (char_of_upper rfl).imp_right .inl
  · exact (char_of_upper rfl).imp_right .inl

/-- A character that matches a letter of a field is a spelling of it. -/
theorem MatchesLetter.spells {capital character : Char} (isMatch : MatchesLetter capital character)
    (isLetter : capital ∈ ['T', 'X', 'C', 'P', 'F', 'I']) :
    suffixLetter? character = some capital := by
  simp only [List.mem_cons, List.not_mem_nil, or_false] at isLetter
  rcases isMatch with rfl | rfl | ⟨rfl, rfl | rfl⟩
  · rcases isLetter with rfl | rfl | rfl | rfl | rfl | rfl <;> rfl
  · rcases isLetter with rfl | rfl | rfl | rfl | rfl | rfl <;> rfl
  · rfl
  · rfl

/-- The capitals of a field are letters of fields and name it. -/
theorem capitals_of_field {field : Field} {one two : Char}
    (suffix : field.suffix.toList = ['/', one, two]) :
    one ∈ ['T', 'X', 'C', 'P', 'F', 'I'] ∧ two ∈ ['T', 'X', 'C', 'P', 'F', 'I'] ∧
      Field.ofLetters? [one, two] = some field := by
  cases field with
  | text =>
    obtain ⟨rfl, rfl⟩ : 'T' = one ∧ 'X' = two := by simpa [Field.suffix] using suffix
    exact ⟨by decide, by decide, rfl⟩
  | primaryClass =>
    obtain ⟨rfl, rfl⟩ : 'C' = one ∧ 'P' = two := by simpa [Field.suffix] using suffix
    exact ⟨by decide, by decide, rfl⟩
  | furtherClass =>
    obtain ⟨rfl, rfl⟩ : 'F' = one ∧ 'I' = two := by simpa [Field.suffix] using suffix
    exact ⟨by decide, by decide, rfl⟩

/-- Letters of a field spell the field. -/
theorem AreLetters.spelled {field : Field} {first second : Char}
    (letters : AreLetters field first second) : spelledField? first second = some field := by
  obtain ⟨one, two, suffix, ofFirst, ofSecond⟩ := letters
  obtain ⟨oneLetter, twoLetter, names⟩ := capitals_of_field suffix
  rw [spelledField?, ofFirst.spells oneLetter, ofSecond.spells twoLetter]
  exact names

/-- Letters of a field that stand behind a slash in a normal text are its capitals. -/
theorem AreLetters.capitals {field : Field} {first second : Char} {behind : Text}
    (letters : AreLetters field first second)
    (normal : Text.IsNormal ('/' :: first :: second :: behind)) :
    field.suffix.toList = ['/', first, second] := by
  have capitals := (Text.canonicalSuffixes_eq_iff _).mp (Text.normal_iff.mp normal).2
  exact capitals [] first second behind field rfl letters.spelled

/-- A field is matched where a slash and the letters of a field stand. -/
theorem field_matches_iff {text lexeme rest : Text} :
    fieldPattern.Matches text lexeme rest ↔ ∃ field first second,
      lexeme = ['/', first, second] ∧ text = '/' :: first :: second :: rest ∧
        AreLetters field first second := by
  constructor
  · rintro ⟨rfl, ⟨field, first, second, rfl, letters⟩, _⟩
    exact ⟨field, first, second, rfl, rfl, letters⟩
  · rintro ⟨field, first, second, rfl, rfl, letters⟩
    refine ⟨rfl, ⟨field, first, second, rfl, letters⟩, ?_⟩
    rintro other behind _ ⟨_, _, _, rfl, _⟩
    exact Nat.le_refl _

/-- In a normal text the scanner finds a field exactly where one is matched. -/
theorem field_iff {text rest : Text} {field : Field} (normal : Text.IsNormal text) :
    field? text = some (field, rest) ↔ ∃ lexeme, fieldPattern.Matches text lexeme rest ∧
      Field.ofLetters? lexeme.tail = some field := by
  constructor
  · intro found
    unfold field? at found
    split at found
    · next first second behind =>
      split at found
      · next named names =>
        obtain ⟨rfl, rfl⟩ := Prod.mk.inj (Option.some.inj found)
        exact ⟨_, field_matches_iff.mpr
          ⟨named, first, second, rfl, rfl, letters_of_names names⟩, names⟩
      · cases found
    · cases found
  · rintro ⟨lexeme, isMatch, names⟩
    obtain ⟨_, first, second, rfl, rfl, _⟩ := field_matches_iff.mp isMatch
    change Field.ofLetters? [first, second] = some field at names
    rw [field?, names]

/-- A field that is matched in a normal text is named by its letters. -/
theorem named_of_field_match {text lexeme rest : Text} (normal : Text.IsNormal text)
    (isMatch : fieldPattern.Matches text lexeme rest) :
    ∃ field, Field.ofLetters? lexeme.tail = some field := by
  obtain ⟨field, first, second, rfl, rfl, letters⟩ := field_matches_iff.mp isMatch
  exact ⟨field, (capitals_of_field (letters.capitals normal)).2.2⟩

/-- A letter is that of a unit exactly if it names one. -/
theorem unit_letter_iff {letter : Char} :
    MatchesLetter 'N' letter ∨ MatchesLetter 'C' letter ↔
      ∃ unit, DistanceUnit.ofLetter? letter = some unit := by
  constructor
  · rintro ((rfl | rfl | ⟨other, _⟩) | (rfl | rfl | ⟨other, _⟩))
    · exact ⟨.words, rfl⟩
    · exact ⟨.words, rfl⟩
    · cases other
    · exact ⟨.sentences, rfl⟩
    · exact ⟨.sentences, rfl⟩
    · cases other
  · rintro ⟨unit, names⟩
    unfold DistanceUnit.ofLetter? at names
    split at names
    · exact .inl (.inr (.inl rfl))
    · exact .inl (.inl rfl)
    · exact .inr (.inr (.inl rfl))
    · exact .inr (.inl rfl)
    · cases names

/-- The letter of a unit is no digit. -/
theorem unit_letter_no_digit {letter : Char} {unit : DistanceUnit}
    (names : DistanceUnit.ofLetter? letter = some unit) : letter.isDigit = false := by
  unfold DistanceUnit.ofLetter? at names
  split at names
  · rfl
  · rfl
  · rfl
  · rfl
  · cases names

/-- The distance that a lexeme writes: the number of its digits, and the unit of its letter. -/
def writtenDistance (lexeme : Text) : Distance :=
  ⟨if lexeme.getLast? = some 'n' ∨ lexeme.getLast? = some 'N' then .words else .sentences,
    Nat.ofDigitChars 10 lexeme.dropLast 0⟩

/-- A distance is matched where digits and the letter of a unit stand. -/
theorem distance_matches_iff {text lexeme rest : Text} :
    distancePattern.Matches text lexeme rest ↔ ∃ digits letter unit,
      lexeme = digits ++ [letter] ∧ text = digits ++ letter :: rest ∧ digits ≠ [] ∧
        (∀ digit ∈ digits, digit.isDigit = true) ∧
        DistanceUnit.ofLetter? letter = some unit := by
  constructor
  · rintro ⟨rfl, ⟨digits, letter, rfl, filled, areDigits, isLetter⟩, _⟩
    obtain ⟨unit, names⟩ := unit_letter_iff.mp isLetter
    exact ⟨digits, letter, unit, rfl, by simp, filled, areDigits, names⟩
  · rintro ⟨digits, letter, unit, rfl, rfl, filled, areDigits, names⟩
    refine ⟨by simp, ⟨digits, letter, rfl, filled, areDigits, unit_letter_iff.mpr ⟨unit, names⟩⟩,
      ?_⟩
    rintro _ behind split ⟨others, other, rfl, _, areOthers, isOther⟩
    obtain ⟨otherUnit, otherNames⟩ := unit_letter_iff.mp isOther
    have sameDigits : digits = others := by
      have front := congrArg (List.takeWhile Char.isDigit) split
      rw [List.takeWhile_append_of_pos areDigits, List.append_assoc,
        List.takeWhile_append_of_pos areOthers] at front
      simpa [unit_letter_no_digit names, unit_letter_no_digit otherNames] using front
    rw [sameDigits]
    simp

/-- What digits and the letter of a unit write. -/
theorem written_distance (digits : Text) {letter : Char} {unit : DistanceUnit}
    (names : DistanceUnit.ofLetter? letter = some unit) :
    writtenDistance (digits ++ [letter]) = ⟨unit, Nat.ofDigitChars 10 digits 0⟩ := by
  unfold writtenDistance
  rw [List.getLast?_concat, List.dropLast_concat]
  unfold DistanceUnit.ofLetter? at names
  split at names <;> cases names <;> rfl

/-- The scanner finds a distance exactly where one is matched. -/
theorem distance_iff {text rest : Text} {distance : Distance} :
    distance? text = some (distance, rest) ↔
      ∃ lexeme, distancePattern.Matches text lexeme rest ∧ writtenDistance lexeme = distance := by
  constructor
  · intro found
    unfold distance? at found
    split at found
    · next digit digits letter behind isFront isBack =>
      split at found
      · next unit names =>
        obtain ⟨rfl, rfl⟩ := Prod.mk.inj (Option.some.inj found)
        have whole : text = digit :: digits ++ letter :: behind := by
          rw [← isFront, ← isBack, List.takeWhile_append_dropWhile]
        have areDigits : ∀ other ∈ digit :: digits, other.isDigit = true := by
          rw [← isFront]
          exact fun other inside => List.all_eq_true.mp List.all_takeWhile other inside
        refine ⟨digit :: digits ++ [letter], distance_matches_iff.mpr ?_, written_distance _ names⟩
        exact ⟨_, letter, unit, rfl, whole, List.cons_ne_nil _ _, areDigits, names⟩
      · cases found
    · cases found
  · rintro ⟨lexeme, isMatch, rfl⟩
    obtain ⟨digits, letter, unit, rfl, rfl, filled, areDigits, names⟩ :=
      distance_matches_iff.mp isMatch
    have noDigit := unit_letter_no_digit names
    obtain ⟨digit, others, rfl⟩ := List.exists_cons_of_ne_nil filled
    have front : (digit :: others ++ letter :: rest).takeWhile Char.isDigit = digit :: others := by
      rw [List.takeWhile_append_of_pos areDigits]
      simp [noDigit]
    have back : (digit :: others ++ letter :: rest).dropWhile Char.isDigit = letter :: rest := by
      rw [List.dropWhile_append_of_pos areDigits]
      simp [noDigit]
    unfold distance?
    rw [front, back]
    dsimp only
    rw [names, written_distance _ names]

/-- No character of a term stands behind a run that is taken as far as it goes. -/
theorem no_term_char_behind (text : Text) :
    ∀ next ∈ (text.dropWhile isTermChar).head?, isTermChar next = false := by
  intro next inside
  have stops := List.head?_dropWhile_not isTermChar text
  rw [inside] at stops
  simpa using stops

/-- Behind a slash of a normal text a field opens exactly if the run there names one. -/
theorem opens_field_iff {text : Text} (normal : Text.IsNormal ('/' :: text)) :
    OpensField text ↔ (Field.ofLetters? (text.takeWhile isTermChar)).isSome = true := by
  constructor
  · rintro ⟨field, first, second, behind, rfl, letters, ends⟩
    have capitals := letters.capitals normal
    obtain ⟨one, two, suffix, oneChar, twoChar, names⟩ := Phrase.suffix_letters field
    obtain ⟨rfl, rfl⟩ : first = one ∧ second = two := by simpa [suffix, eq_comm] using capitals
    have run : (first :: second :: behind).takeWhile isTermChar = [first, second] := by
      have whole := Text.takeWhile_append_stop [first, second] ends
      simpa [oneChar, twoChar] using whole
    rw [run, names]
    rfl
  · intro named
    obtain ⟨field, names⟩ := Option.isSome_iff_exists.mp named
    have suffix := List.find?_some names
    obtain ⟨one, two, capitals, _⟩ := Phrase.suffix_letters field
    have length := congrArg List.length (of_decide_eq_true suffix)
    have whole : text.takeWhile isTermChar ++ text.dropWhile isTermChar = text :=
      List.takeWhile_append_dropWhile
    have ends := no_term_char_behind text
    generalize text.dropWhile isTermChar = behind at whole ends
    match run : text.takeWhile isTermChar with
    | [first, second] =>
      rw [run] at names whole
      exact ⟨field, first, second, behind, whole.symm, letters_of_names names, ends⟩
    | [] => simp [run, capitals] at length
    | [first] => simp [run, capitals] at length
    | first :: second :: third :: more => simp [run, capitals] at length

/-- A run that no character of a term follows is taken as a whole. -/
theorem IsRun.taken {run : Text} (isRun : IsRun run) {behind : Text}
    (ends : ∀ next ∈ behind.head?, isTermChar next = false) :
    (run ++ behind).takeWhile isTermChar = run ∧ (run ++ behind).dropWhile isTermChar = behind := by
  constructor
  · rw [Text.takeWhile_append_stop run ends, List.takeWhile_eq_self_iff.mpr isRun.chars]
  · rw [Text.dropWhile_append_stop run ends, List.dropWhile_eq_nil_iff.mpr isRun.chars,
      List.nil_append]

/-- What is taken of a text is a run, if anything is. -/
theorem is_run_taken {text : Text} (filled : text.takeWhile isTermChar ≠ []) :
    IsRun (text.takeWhile isTermChar) :=
  ⟨filled, fun character inside => List.all_eq_true.mp List.all_takeWhile character inside⟩

/-- A term begins with a character of terms. -/
theorem TermPattern.head {lexeme behind : Text} (term : TermPattern lexeme behind) :
    ∃ first others, lexeme = first :: others ∧ isTermChar first = true := by
  induction term with
  | run isRun behind =>
    obtain ⟨first, others, rfl⟩ := List.exists_cons_of_ne_nil isRun.filled
    exact ⟨first, others, rfl, isRun.chars first List.mem_cons_self⟩
  | slash term noField isRun inductionHypothesis =>
    obtain ⟨first, others, rfl, isChar⟩ := inductionHypothesis
    exact ⟨first, others ++ '/' :: _, rfl, isChar⟩

/-- The scanner takes a slash with the run behind it, unless a field opens there. -/
theorem termTail_slash {text : Text} (normal : Text.IsNormal ('/' :: text))
    (noField : ¬ OpensField text) (filled : text.takeWhile isTermChar ≠ []) (pieces : Nat) :
    termTail (pieces + 1) ('/' :: text) =
      ('/' :: text.takeWhile isTermChar ++ (termTail pieces (text.dropWhile isTermChar)).1,
        (termTail pieces (text.dropWhile isTermChar)).2) := by
  rw [opens_field_iff normal] at noField
  rw [termTail]
  simp [filled, noField]

/-- The scanner goes on behind every part of a text that fits the pattern of a term and that no
character of a term follows. -/
theorem TermPattern.passed {front behind : Text} (term : TermPattern front behind)
    (normal : Text.IsNormal (front ++ behind))
    (ends : ∀ next ∈ behind.head?, isTermChar next = false) :
    ∃ pieces, behind.length ≤ pieces ∧ term? (front ++ behind) =
      some (front ++ (termTail pieces behind).1, (termTail pieces behind).2) := by
  induction term with
  | @run run isRun behind =>
    obtain ⟨taken, dropped⟩ := isRun.taken ends
    refine ⟨(run ++ behind).length, by simp, ?_⟩
    unfold term?
    rw [taken, dropped]
    split
    · next empty => exact absurd rfl isRun.filled
    · rfl
  | @slash front run behind term noField isRun inductionHypothesis =>
    rw [List.append_assoc] at normal ⊢
    obtain ⟨pieces, enough, found⟩ := inductionHypothesis normal (by simp; decide)
    obtain ⟨pieces, rfl⟩ : ∃ fewer, pieces = fewer + 1 := ⟨pieces - 1, by simp at enough; omega⟩
    obtain ⟨taken, dropped⟩ := isRun.taken ends
    have normalBehind : Text.IsNormal ('/' :: (run ++ behind)) :=
      normal.within (List.suffix_append ..).isInfix
    have tail := termTail_slash normalBehind noField (by rw [taken]; exact isRun.filled) pieces
    rw [taken, dropped] at tail
    refine ⟨pieces, by simp at enough; omega, ?_⟩
    rw [List.cons_append] at found ⊢
    rw [found, tail]
    simp

/-- What the scanner takes behind a term makes a longer term. -/
theorem TermPattern.extended {front text : Text} (term : TermPattern front text)
    (normal : Text.IsNormal text) {pieces : Nat} {tail behind : Text}
    (taken : termTail pieces text = (tail, behind)) :
    text = tail ++ behind ∧ TermPattern (front ++ tail) behind := by
  fun_induction termTail pieces text generalizing front tail behind with
  | case1 text =>
    obtain ⟨rfl, rfl⟩ := Prod.mk.inj taken
    exact ⟨rfl, by simpa using term⟩
  | case2 pieces rest run =>
    obtain ⟨rfl, rfl⟩ := Prod.mk.inj taken
    exact ⟨rfl, by simpa using term⟩
  | case3 pieces rest run goesOn later left split =>
    rename_i inductionHypothesis
    obtain ⟨rfl, rfl⟩ := Prod.mk.inj taken
    simp only [Bool.or_eq_true, List.isEmpty_iff, not_or] at goesOn
    obtain ⟨filled, noField⟩ := goesOn
    rw [← opens_field_iff normal] at noField
    have whole : run ++ rest.dropWhile isTermChar = rest := List.takeWhile_append_dropWhile
    have isRun : IsRun run := is_run_taken filled
    have longer : TermPattern (front ++ '/' :: run) (rest.dropWhile isTermChar) :=
      .slash (by rw [List.cons_append, whole]; exact term) (by rw [whole]; exact noField) isRun
    have normalBehind : Text.IsNormal (rest.dropWhile isTermChar) :=
      (Phrase.normal_behind normal).within (List.dropWhile_suffix isTermChar).isInfix
    obtain ⟨parts, extended⟩ := inductionHypothesis longer normalBehind split
    refine ⟨?_, by simpa using extended⟩
    rw [← whole, parts]
    simp
  | case4 pieces text different =>
    obtain ⟨rfl, rfl⟩ := Prod.mk.inj taken
    exact ⟨rfl, by simpa using term⟩

/-- A term that the scanner finds fits the pattern. -/
theorem pattern_of_term {text lexeme rest : Text} (normal : Text.IsNormal text)
    (found : term? text = some (lexeme, rest)) : TermPattern lexeme rest := by
  unfold term? at found
  split at found
  · cases found
  · next run filled =>
    have whole : text.takeWhile isTermChar ++ text.dropWhile isTermChar = text :=
      List.takeWhile_append_dropWhile
    have first : TermPattern (text.takeWhile isTermChar) (text.dropWhile isTermChar) :=
      .run (is_run_taken filled) _
    have normalBehind : Text.IsNormal (text.dropWhile isTermChar) :=
      normal.within (List.dropWhile_suffix isTermChar).isInfix
    obtain ⟨rfl, rfl⟩ := Prod.mk.inj (Option.some.inj found)
    exact (first.extended normalBehind rfl).2

/-- What fits the pattern of a term is no longer than the term that the scanner finds. -/
theorem TermPattern.length_le {other behind lexeme rest : Text} (term : TermPattern other behind)
    (normal : Text.IsNormal (other ++ behind))
    (found : term? (other ++ behind) = some (lexeme, rest)) : other.length ≤ lexeme.length := by
  cases term with
  | run isRun behind =>
    unfold term? at found
    rw [List.takeWhile_append_of_pos isRun.chars] at found
    split at found
    · cases found
    · obtain ⟨rfl, -⟩ := Prod.mk.inj (Option.some.inj found)
      simp only [List.length_append]
      omega
  | @slash front run behind term noField isRun =>
    -- The scanner passes the slash, and takes all of the run behind it.
    rw [List.append_assoc] at normal found
    obtain ⟨pieces, enough, passed⟩ := term.passed normal (by simp; decide)
    obtain ⟨pieces, rfl⟩ : ∃ fewer, pieces = fewer + 1 := ⟨pieces - 1, by simp at enough; omega⟩
    have normalBehind : Text.IsNormal ('/' :: (run ++ behind)) :=
      normal.within (List.suffix_append ..).isInfix
    have taken : (run ++ behind).takeWhile isTermChar = run ++ behind.takeWhile isTermChar :=
      List.takeWhile_append_of_pos isRun.chars
    have filled : (run ++ behind).takeWhile isTermChar ≠ [] := by
      rw [taken]
      simp [isRun.filled]
    rw [List.cons_append, termTail_slash normalBehind noField filled, taken] at passed
    obtain ⟨rfl, -⟩ := Prod.mk.inj (Option.some.inj (found.symm.trans passed))
    simp only [List.length_append, List.length_cons]
    omega

/-- In a normal text the scanner finds a term exactly where one is matched. -/
theorem term_iff {text lexeme rest : Text} (normal : Text.IsNormal text) :
    term? text = some (lexeme, rest) ↔ Pattern.Matches TermPattern text lexeme rest := by
  have sound : ∀ {word behind : Text}, term? text = some (word, behind) →
      Pattern.Matches TermPattern text word behind := by
    intro word behind found
    refine ⟨(Phrase.term_again found).1, pattern_of_term normal found, ?_⟩
    rintro other later rfl fits
    exact fits.length_le normal found
  constructor
  · exact sound
  · intro isMatch
    obtain ⟨first, others, rfl, isChar⟩ := isMatch.fits.head
    have some : (term? text).isSome = true := by
      rw [isMatch.parts]
      unfold term?
      simp [isChar]
    obtain ⟨⟨word, behind⟩, found⟩ := Option.isSome_iff_exists.mp some
    obtain ⟨same, sameRest⟩ := (sound found).unique isMatch
    rw [found, same, sameRest]

end PriorArt.Query
