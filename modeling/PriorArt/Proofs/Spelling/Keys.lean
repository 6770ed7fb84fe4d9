import Mathlib.Data.List.Basic
import PriorArt.Proofs.Spelling.Respelled
import PriorArt.Proofs.Spelling.Words

/-!
# Keys of keys

The normal form puts suffixes in capitals before the other blanks are taken out. So a suffix that is
torn by such a blank gets into a key as it is typed, and is put in capitals when the key is read again.
Taking out the blanks first does the same. Where no suffix is torn a key is its own key, and it depends
on the characters without the blanks alone.
-/

namespace PriorArt.Text

open Brackets

/-- A character of terms is no bracket. -/
theorem term_char_plain {character : Char} (isChar : Phrase.isTermChar character = true) :
    closerOf? character = none ∧ isCloser character = false := by
  have noBracket : character ≠ '(' ∧ character ≠ ')' ∧ character ≠ '{' ∧ character ≠ '}' := by
    refine ⟨?_, ?_, ?_, ?_⟩ <;> rintro rfl <;> cases isChar
  obtain ⟨noRound, noRoundEnd, noCurly, noCurlyEnd⟩ := noBracket
  constructor
  · unfold closerOf?
    split
    · exact absurd rfl noRound
    · exact absurd rfl noCurly
    · rfl
  · simp [isCloser, noRoundEnd, noCurlyEnd]

/-- A character that is no bracket closes nothing. -/
theorem closesAtEnd_plain {character : Char} (notOpener : closerOf? character = none)
    (notCloser : isCloser character = false) (awaited : List Char) (rest : Text) :
    closesAtEnd awaited (character :: rest) = (!awaited.isEmpty && closesAtEnd awaited rest) := by
  cases awaited <;> simp [closesAtEnd, notOpener, notCloser]

/-- An opening bracket is no slash. -/
theorem opener_no_slash {character : Char} (opens : isOpener character = true) :
    character ≠ '/' := by
  rintro rfl
  cases opens

/-- A closing bracket is neither a slash nor a letter of a suffix. -/
theorem closer_apart {character : Char} (closes : isCloser character = true) :
    character ≠ '/' ∧ suffixLetter? character = none := by
  constructor
  · rintro rfl
    cases closes
  · cases letter : suffixLetter? character with
    | none => rfl
    | some capital =>
      rw [(term_char_plain (suffix_letter_term_char letter)).2] at closes
      cases closes

namespace Respelled

variable {text other : Text}

/-- Only texts without blanks are respellings of texts without blanks. -/
theorem solid (respelled : Respelled text other) (isSolid : IsSolid text) : IsSolid other := by
  induction respelled with
  | nil => exact isSolid
  | same character _ inductionHypothesis =>
    obtain ⟨visible, later⟩ := solid_cons.mp isSolid
    exact solid_cons.mpr ⟨visible, inductionHypothesis later⟩
  | suffix spelled spelledOther _ inductionHypothesis =>
    obtain ⟨one, two⟩ := letters_of_spelled spelledOther
    simp only [solid_cons] at isSolid ⊢
    exact ⟨isSolid.1, term_char_visible one, term_char_visible two,
      inductionHypothesis isSolid.2.2.2⟩

/-- Respellings close the same brackets. -/
theorem closesAtEnd_eq (respelled : Respelled text other) (awaited : List Char) :
    closesAtEnd awaited text = closesAtEnd awaited other := by
  induction respelled generalizing awaited with
  | nil => rfl
  | @same character text other later inductionHypothesis =>
    have ends : text.isEmpty = other.isEmpty := by cases later <;> rfl
    simp only [closesAtEnd, inductionHypothesis, ends]
  | suffix spelled spelledOther _ inductionHypothesis =>
    obtain ⟨first, second⟩ := letters_of_spelled spelled
    obtain ⟨one, two⟩ := letters_of_spelled spelledOther
    have slash : closerOf? '/' = none ∧ isCloser '/' = false := by decide
    simp only [closesAtEnd_plain slash.1 slash.2, inductionHypothesis,
      closesAtEnd_plain (term_char_plain first).1 (term_char_plain first).2,
      closesAtEnd_plain (term_char_plain second).1 (term_char_plain second).2,
      closesAtEnd_plain (term_char_plain one).1 (term_char_plain one).2,
      closesAtEnd_plain (term_char_plain two).1 (term_char_plain two).2]

/-- A pair that encloses a text encloses its respellings, and the insides are respellings. -/
theorem interior (respelled : Respelled text other) {inside : Text}
    (enclosed : interior? text = some inside) :
    ∃ within, interior? other = some within ∧ Respelled inside within := by
  obtain ⟨opener, closer, rfl, opens, closes⟩ := interior_shape enclosed
  obtain ⟨rest, rfl, later⟩ := respelled.behind_letter (opener_no_slash opens)
  have ofRest : Respelled (inside ++ [closer]) rest := later
  obtain ⟨within, back, rfl, ofInside, ofBack⟩ :=
    ofRest.split (starts_safely_cons (closer_apart closes).2 [])
  obtain ⟨behind, rfl, nothing⟩ := ofBack.behind_letter (closer_apart closes).1
  obtain rfl : behind = [] := List.length_eq_zero_iff.mp nothing.length_eq.symm
  refine ⟨within, ?_, ofInside⟩
  obtain ⟨awaited, opened⟩ := Option.isSome_iff_exists.mp opens
  have ends : closesAtEnd [awaited] (inside ++ [closer]) = true := by
    rw [List.cons_append, interior?, opened] at enclosed
    by_contra never
    simp [never] at enclosed
  rw [ofRest.closesAtEnd_eq] at ends
  simp [interior?, opened, ends]

/-- Respelled texts without blanks are respellings without their enclosing brackets. -/
theorem strip (respelled : Respelled text other) (isSolid : IsSolid text) :
    Respelled (strip text) (strip other) := by
  induction text using strip_induction generalizing other with
  | untrimmed text ofTrimmed =>
    rw [trim_solid isSolid] at ofTrimmed
    exact ofTrimmed respelled isSolid
  | bare text trimmed bare =>
    have otherBare : interior? other = none := by
      cases enclosed : interior? other with
      | none => rfl
      | some inside =>
        obtain ⟨within, encloses, _⟩ := respelled.symm.interior enclosed
        rw [bare] at encloses
        cases encloses
    rwa [strip_bare isSolid bare, strip_bare (respelled.solid isSolid) otherBare]
  | enclosed text inside trimmed enclosed ofInside =>
    obtain ⟨within, otherEnclosed, later⟩ := respelled.interior enclosed
    rw [strip_of_interior trimmed enclosed,
      strip_of_interior (respelled.solid isSolid).trimmed otherEnclosed]
    obtain ⟨opener, closer, rfl, _⟩ := interior_shape enclosed
    exact ofInside later (isSolid.within ⟨[opener], [closer], rfl⟩)

end Respelled

/-- A part of a text with capital suffixes has capital suffixes. -/
theorem HasCapitalSuffixes.within {whole text : Text} (capitals : HasCapitalSuffixes whole)
    (inside : text <:+: whole) : HasCapitalSuffixes text := by
  obtain ⟨front, back, rfl⟩ := inside
  exact capitals.part

/-- Brackets can be removed before suffixes are put in capitals, or after. -/
theorem strip_canonicalSuffixes {text : Text} (solid : IsSolid text) :
    strip (canonicalSuffixes text) = canonicalSuffixes (strip text) := by
  have capitals : HasCapitalSuffixes (strip (canonicalSuffixes text)) :=
    (capital_canonicalSuffixes text).within (strip_occurs _)
  rw [((respelled_canonicalSuffixes text).strip solid).canonical_eq]
  exact ((canonicalSuffixes_eq_iff _).mpr capitals).symm

/-- A character is as blank as its fold. -/
theorem blank_of_folds {character fold : Char} (folds : foldedChar? character = some fold) :
    isBlank fold = isBlank character := by
  unfold foldedChar? at folds
  split at folds
  all_goals cases folds <;> rfl

/-- Only blanks are dropped. -/
theorem blank_of_dropped {character : Char} (dropped : foldedChar? character = none) :
    isBlank character = true := by
  unfold foldedChar? at dropped
  split at dropped
  all_goals cases dropped <;> rfl

/-- Blanks can be taken out before a text is folded, or after. -/
theorem folded_withoutBlanks (text : Text) :
    folded (withoutBlanks text) = withoutBlanks (folded text) := by
  rw [folded, withoutBlanks, List.filterMap_filter, withoutBlanks, folded, List.filter_filterMap]
  refine List.filterMap_congr (fun character _ => ?_)
  cases folds : foldedChar? character with
  | none => simp [blank_of_dropped folds]
  | some fold => rw [Option.filter_some, blank_of_folds folds]

/-- A key is read again like its suffixes are put in capitals. -/
theorem key_key (text : Text) : key (key text) = canonicalSuffixes (key text) := by
  have solid : IsSolid (canonicalSuffixes (key text)) :=
    (respelled_canonicalSuffixes _).solid (solid_key text)
  have normal : normalized (key text) = canonicalSuffixes (key text) := by
    rw [normalized, filterMap_folded (folded_key text)]
  rw [key, normal, withoutBlanks_solid solid, strip_canonicalSuffixes (solid_key text), key,
    strip_strip]

/-- When the blanks are taken out first, the suffixes of the key are in capitals. -/
theorem key_withoutBlanks (text : Text) :
    key (withoutBlanks text) = canonicalSuffixes (key text) := by
  have solid : IsSolid (withoutBlanks (folded text)) := solid_withoutBlanks _
  have solidForm := (respelled_canonicalSuffixes (withoutBlanks (folded text))).solid solid
  have alike : Respelled (withoutBlanks (folded text)) (withoutBlanks (normalized text)) :=
    (respelled_canonicalSuffixes (folded text)).withoutBlanks
  have form : normalized (withoutBlanks text) = canonicalSuffixes (withoutBlanks (folded text)) := by
    rw [← folded_withoutBlanks]
    rfl
  calc key (withoutBlanks text)
      = strip (canonicalSuffixes (withoutBlanks (folded text))) := by
        rw [key, form, withoutBlanks_solid solidForm]
    _ = strip (canonicalSuffixes (withoutBlanks (normalized text))) := by rw [alike.canonical_eq]
    _ = canonicalSuffixes (key text) := strip_canonicalSuffixes (solid_withoutBlanks _)

/-- The letters of a suffix stand behind a slash with nothing but blanks in between, not in capitals. In
a normal text at least one blank is there, since the suffix would be in capitals without. -/
def HasTornSuffix (text : Text) : Prop :=
  ∃ (front gap between back : Text) (first second : Char) (field : Field),
    text = front ++ '/' :: (gap ++ first :: (between ++ second :: back)) ∧
      gap.allBlank = true ∧ between.allBlank = true ∧
      spelledField? first second = some field ∧ field.suffix.toList ≠ ['/', first, second]

/-- Nothing is left of a blank text without its blanks. -/
theorem withoutBlanks_blank {text : Text} (blank : text.allBlank = true) :
    withoutBlanks text = [] := by
  refine List.filter_eq_nil_iff.mpr (fun character inside => ?_)
  simpa using List.all_eq_true.mp blank character inside

/-- Without its blanks a text has capital suffixes exactly if none of its suffixes is torn. -/
theorem capital_withoutBlanks_iff (text : Text) :
    HasCapitalSuffixes (withoutBlanks text) ↔ ¬ HasTornSuffix text := by
  constructor
  · rintro capitals ⟨front, gap, between, back, first, second, field, rfl, blankGap, blankBetween,
      spelled, small⟩
    obtain ⟨firstChar, secondChar⟩ := letters_of_spelled spelled
    refine small (capitals (withoutBlanks front) first second (withoutBlanks back) field ?_ spelled)
    have slash : isBlank '/' = false := by decide
    have noGap := withoutBlanks_blank blankGap
    have noBetween := withoutBlanks_blank blankBetween
    unfold withoutBlanks at noGap noBetween ⊢
    simp [List.filter_append, slash, noGap, noBetween,
      term_char_visible firstChar, term_char_visible secondChar]
  · intro whole front first second back field split spelled
    by_contra small
    have blank : ∀ {gap : Text},
        (∀ character ∈ gap, ¬ (!isBlank character) = true) → gap.allBlank = true := by
      intro gap hidden
      exact List.all_eq_true.mpr (fun character inside => by simpa using hidden character inside)
    obtain ⟨before, rest, rfl, rfl, kept⟩ := List.filter_eq_append_iff.mp split
    obtain ⟨lead, behind, rfl, _, _, keptBehind⟩ := List.filter_eq_cons_iff.mp kept
    obtain ⟨gap, later, rfl, hiddenGap, _, keptLater⟩ := List.filter_eq_cons_iff.mp keptBehind
    obtain ⟨between, last, rfl, hiddenBetween, _, _⟩ := List.filter_eq_cons_iff.mp keptLater
    exact whole ⟨before ++ lead, gap, between, last, first, second, field, by simp,
      blank hiddenGap, blank hiddenBetween, spelled, small⟩

/-- A text without slashes has no suffixes. -/
theorem capital_of_no_slash {text : Text} (noSlash : '/' ∉ text) : HasCapitalSuffixes text := by
  rintro front first second back field rfl
  exact absurd (by simp) noSlash

/-- Texts with capital suffixes make one together, if no suffix can stand across the cut. -/
theorem HasCapitalSuffixes.append {front back : Text} (capitalsFront : HasCapitalSuffixes front)
    (capitalsBack : HasCapitalSuffixes back) (safe : StartsSafely back) :
    HasCapitalSuffixes (front ++ back) := by
  rw [← canonicalSuffixes_eq_iff] at capitalsFront capitalsBack ⊢
  rw [canonicalSuffixes_append front safe, capitalsFront, capitalsBack]

/-- A character that is no slash can stand in front of a text with capital suffixes. -/
theorem HasCapitalSuffixes.letter {character : Char} {text : Text}
    (capitals : HasCapitalSuffixes text) (noSlash : character ≠ '/') :
    HasCapitalSuffixes (character :: text) :=
  capitals.cons (fun _ _ _ slash => absurd slash noSlash)

/-- Texts with capital suffixes make one together with plus signs between them. -/
theorem capital_join {parts : List Text} (each : ∀ part ∈ parts, HasCapitalSuffixes part) :
    HasCapitalSuffixes (join '+' parts) := by
  induction parts with
  | nil => exact capital_of_no_slash List.not_mem_nil
  | cons first others inductionHypothesis =>
    obtain ⟨ofFirst, ofOthers⟩ := List.forall_mem_cons.mp each
    cases others with
    | nil => rwa [join_single]
    | cons next rest =>
      rw [join_cons (by simp)]
      exact ofFirst.append ((inductionHypothesis ofOthers).letter (by decide))
        (starts_safely_cons rfl _)

/-- Enclosing brackets hide no suffixes. -/
theorem capital_strip_iff {text : Text} (solid : IsSolid text) :
    HasCapitalSuffixes (strip text) ↔ HasCapitalSuffixes text := by
  refine ⟨fun capitals => ?_, fun capitals => capitals.within (strip_occurs text)⟩
  induction text using strip_induction with
  | untrimmed text ofTrimmed =>
    rw [trim_solid solid] at ofTrimmed
    exact ofTrimmed solid capitals
  | bare text trimmed bare => rwa [strip_bare solid bare] at capitals
  | enclosed text inside trimmed enclosed ofInside =>
    rw [strip_of_interior trimmed enclosed] at capitals
    obtain ⟨opener, closer, rfl, opens, closes⟩ := interior_shape enclosed
    have ofInside := ofInside (solid.within ⟨[opener], [closer], rfl⟩) capitals
    have atEnd : HasCapitalSuffixes [closer] :=
      capital_of_no_slash (by simpa using (closer_apart closes).1.symm)
    have whole := ofInside.append atEnd (starts_safely_cons (closer_apart closes).2 [])
    exact whole.letter (opener_no_slash opens)

/-- A key has capital suffixes exactly if no suffix is torn in the normal form. -/
theorem capital_key_iff (text : Text) :
    HasCapitalSuffixes (key text) ↔ ¬ HasTornSuffix (normalized text) := by
  rw [key, capital_strip_iff (solid_withoutBlanks _), capital_withoutBlanks_iff]

/-- A key is its own key exactly if no suffix is torn. -/
theorem key_key_eq_iff (text : Text) :
    key (key text) = key text ↔ ¬ HasTornSuffix (normalized text) := by
  rw [key_key, canonicalSuffixes_eq_iff, capital_key_iff]

/-- A text of Latin letters has no suffixes. -/
theorem IsLatin.capital {text : Text} (latin : IsLatin text) : HasCapitalSuffixes text :=
  capital_of_no_slash (fun inside => (latin '/' inside).plain.noSlash rfl)

/-- A word of a key occurs in the key. -/
theorem infix_of_word {text word : Text} (listed : word ∈ keyWords (key text)) :
    word <:+: key text :=
  infix_of_piece ((mem_keyWords (solid_key text)).mp listed).1

/-- A word of Latin letters alone that stands in a key consists of Latin letters. -/
theorem latin_of_word {text word : Text} (listed : word ∈ keyWords (key text))
    (latinOnly : isLatinOnly word = true) : IsLatin word :=
  ((latin_only_iff ((solid_key text).within (infix_of_word listed))).mp latinOnly).2

/-- A key has the spellings of its text exactly if no suffix is torn. -/
theorem variants_key_eq_iff (text : Text) :
    variants (key text) = variants text ↔ ¬ HasTornSuffix (normalized text) := by
  constructor
  · intro same
    have each : ∀ part ∈ pieces '+' (key text), HasCapitalSuffixes part := by
      intro part listed
      by_cases filled : part = []
      · subst filled
        exact capital_of_no_slash List.not_mem_nil
      have isWord := (mem_keyWords (solid_key text)).mpr ⟨listed, filled⟩
      cases latinOnly : isLatinOnly part with
      | true => exact (latin_of_word isWord latinOnly).capital
      | false =>
        have spelled : part ∈ variants (key text) := by
          rw [same]
          exact mem_variants.mpr (.inr ⟨isWord, latinOnly⟩)
        rcases mem_variants.mp spelled with ⟨word, ofKey, latinWord, spelling⟩ | ⟨ofKey, _⟩
        · exact (spelling_facts (latin_of_word ofKey latinWord) spelling).1.capital
        · have occurs := infix_of_word ofKey
          rw [key_key] at occurs
          exact (capital_canonicalSuffixes _).within occurs
    have whole := capital_join each
    rw [join, pieces, List.intercalate_splitOn] at whole
    exact (capital_key_iff text).mp whole
  · intro untorn
    rw [variants, (key_key_eq_iff text).mpr untorn, variants]

/-- What makes keys canonical is that no suffix is torn. Exactly then the key of a text is its own key,
it is the key of the text without any blanks, and it has the spellings of the text. Texts with the same
characters apart from blanks and without torn suffixes have the same key. -/
theorem key_canonical_iff (text : Text) :
    (key (key text) = key text ↔ ¬ HasTornSuffix (normalized text)) ∧
      (key (withoutBlanks text) = key text ↔ ¬ HasTornSuffix (normalized text)) ∧
      (variants (key text) = variants text ↔ ¬ HasTornSuffix (normalized text)) ∧
      ∀ other, withoutBlanks other = withoutBlanks text → ¬ HasTornSuffix (normalized text) →
        ¬ HasTornSuffix (normalized other) → key other = key text := by
  have early : ∀ text, key (withoutBlanks text) = key text ↔ ¬ HasTornSuffix (normalized text) := by
    intro text
    rw [key_withoutBlanks, canonicalSuffixes_eq_iff, capital_key_iff]
  refine ⟨key_key_eq_iff text, early text, variants_key_eq_iff text, ?_⟩
  intro other same untorn otherUntorn
  rw [← (early text).mpr untorn, ← (early other).mpr otherUntorn, same]

/-- A tab behind a slash tears a suffix, which gets into the key in small letters, so that the key is
not its own. A tab elsewhere makes no difference. -/
theorem torn_key : HasTornSuffix (normalized ['A', '/', '\t', 't', 'x']) ∧
    key ['A', '/', '\t', 't', 'x'] = ['A', '/', 't', 'x'] ∧
    key ['A', '/', 't', 'x'] = ['A', '/', 'T', 'X'] ∧
    key ['A', '\t', '+', 'B'] = key ['A', '+', 'B'] := by
  refine ⟨?_, by decide +kernel, by decide +kernel, ?_⟩
  · by_contra untorn
    have same := (key_canonical_iff ['A', '/', '\t', 't', 'x']).1.mpr untorn
    revert same
    decide +kernel
  · have typed := key_canonical_iff ['A', '+', 'B']
    have spaced := key_canonical_iff ['A', '\t', '+', 'B']
    exact typed.2.2.2 _ (by decide) (typed.1.mp (by decide +kernel)) (spaced.1.mp (by decide +kernel))

end PriorArt.Text
