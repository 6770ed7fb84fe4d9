import PriorArt.Proofs.Brackets.Stripped
import PriorArt.Proofs.Spelling.Normal
import PriorArt.Proofs.Text.Solid
import PriorArt.Spelling

/-!
# Words and their spellings

The words of a union are found between the plus signs of its key. A word of Latin letters alone is
searched in six spellings, any other word as it is.

## Spellings of Latin words

A word of Latin letters has one small form in half width, from which its six spellings are made. Each
of the spellings is a word of Latin letters of the same length with the same small form, so it has the
same six spellings. What is true of each letter is checked in the code chart, letter by letter.
-/

namespace PriorArt.Text

/-- A character that is a Latin letter in either width. -/
def IsLatinLetter (character : Char) : Prop :=
  isHalfWidthLetter character = true ∨ isFullWidthLetter character = true

/-- A half-width letter is a character of ASCII. -/
theorem half_width_ascii {character : Char} (letter : isHalfWidthLetter character = true) :
    character.toNat < 128 := by
  simp only [isHalfWidthLetter, Bool.or_eq_true, Bool.and_eq_true, decide_eq_true_eq, Char.le_def,
    UInt32.le_iff_toNat_le] at letter
  have last : 'Z'.val.toNat = 90 := rfl
  have lastSmall : 'z'.val.toNat = 122 := rfl
  have code : character.toNat = character.val.toNat := rfl
  omega

/-- What is true of each half-width letter of the code chart is true of all. -/
@[elab_as_elim]
theorem half_width_forall {motive : Char → Prop} (character : Char)
    (letter : isHalfWidthLetter character = true)
    (each : ∀ code < 128, isHalfWidthLetter (.ofNat code) = true → motive (.ofNat code)) :
    motive character := by
  have found := each character.toNat (half_width_ascii letter)
  rw [Char.ofNat_toNat] at found
  exact found letter

/-- What is true of each full-width letter of the code chart is true of all. -/
@[elab_as_elim]
theorem full_width_forall {motive : Char → Prop} (character : Char)
    (letter : isFullWidthLetter character = true)
    (each : ∀ place < 64, isFullWidthLetter (.ofNat (0xFF20 + place)) = true →
      motive (.ofNat (0xFF20 + place))) :
    motive character := by
  have range : 0xFF20 ≤ character.toNat ∧ character.toNat < 0xFF60 := by
    have both := letter
    simp only [isFullWidthLetter, Bool.or_eq_true, Bool.and_eq_true, decide_eq_true_eq,
      Char.le_def, UInt32.le_iff_toNat_le] at both
    have first : 'Ａ'.val.toNat = 0xFF21 := rfl
    have last : 'Ｚ'.val.toNat = 0xFF3A := rfl
    have firstSmall : 'ａ'.val.toNat = 0xFF41 := rfl
    have lastSmall : 'ｚ'.val.toNat = 0xFF5A := rfl
    have code : character.toNat = character.val.toNat := rfl
    omega
  have found := each (character.toNat - 0xFF20) (by omega)
  rw [Nat.add_sub_cancel' range.1, Char.ofNat_toNat] at found
  exact found letter

/-- A half-width letter has a full-width form, from which it is had again. -/
theorem half_width_shifted {character : Char} (letter : isHalfWidthLetter character = true) :
    isFullWidthLetter character = false ∧ isFullWidthLetter (shifted character widthDistance) = true ∧
      shifted (shifted character widthDistance) (-widthDistance) = character := by
  refine half_width_forall character letter ?_
  decide +kernel

/-- A half-width letter stays one in either case, and all its forms have the same small form. -/
theorem half_width_case {character : Char} (letter : isHalfWidthLetter character = true) :
    isHalfWidthLetter character.toLower = true ∧ isHalfWidthLetter character.toUpper = true ∧
      character.toUpper.toLower = character.toLower ∧
      character.toLower.toLower = character.toLower := by
  refine half_width_forall character letter ?_
  decide +kernel

/-- The half-width form of a full-width letter is a half-width letter. -/
theorem full_width_shifted {character : Char} (letter : isFullWidthLetter character = true) :
    isHalfWidthLetter (shifted character (-widthDistance)) = true := by
  refine full_width_forall character letter ?_
  decide +kernel

/-- The characters that a Latin letter is not, and its fold, which is the letter itself. -/
structure IsPlainLetter (character : Char) : Prop where
  visible : isBlank character = false
  folded : foldedChar? character = some character
  noSlash : character ≠ '/'
  noPlus : character ≠ '+'
  noOpener : Brackets.isOpener character = false
  noCloser : Brackets.isCloser character = false

/-- A Latin letter is neither a blank nor a mark of the notation, and is folded. -/
theorem IsLatinLetter.plain {character : Char} (letter : IsLatinLetter character) :
    IsPlainLetter character := by
  have facts : isBlank character = false ∧ foldedChar? character = some character ∧
      character ≠ '/' ∧ character ≠ '+' ∧ Brackets.isOpener character = false ∧
      Brackets.isCloser character = false := by
    rcases letter with half | full
    · refine half_width_forall character half ?_
      decide +kernel
    · refine full_width_forall character full ?_
      decide +kernel
  obtain ⟨visible, folded, noSlash, noPlus, noOpener, noCloser⟩ := facts
  exact ⟨visible, folded, noSlash, noPlus, noOpener, noCloser⟩

/-- A text of half-width letters. -/
def IsHalfLatin (text : Text) : Prop := ∀ character ∈ text, isHalfWidthLetter character = true

/-- A text of Latin letters of either width. -/
def IsLatin (text : Text) : Prop := ∀ character ∈ text, IsLatinLetter character

section HalfWidth

variable {text : Text} (half : IsHalfLatin text)
include half

/-- Half-width letters are put in small letters one by one. -/
theorem lower_half : lower text = text.map Char.toLower := by
  have behind : ∀ before, lowerAfter before text = text.map Char.toLower := by
    induction text with
    | nil => exact fun _ => rfl
    | cons character rest inductionHypothesis =>
      obtain ⟨ofFirst, ofRest⟩ := List.forall_mem_cons.mp half
      have ascii := half_width_ascii ofFirst
      have noSigma : character.toNat ≠ 0x3A3 := by omega
      intro before
      rw [lowerAfter, if_neg noSigma, lowerChar, if_pos ascii, inductionHypothesis ofRest]
      rfl
  exact behind []

/-- Half-width letters are put in capitals one by one. -/
theorem upper_half : upper text = text.map Char.toUpper := by
  induction text with
  | nil => rfl
  | cons character rest inductionHypothesis =>
    obtain ⟨ofFirst, ofRest⟩ := List.forall_mem_cons.mp half
    have later := inductionHypothesis ofRest
    rw [upper] at later ⊢
    rw [List.flatMap_cons, later, upperChar, if_pos (half_width_ascii ofFirst)]
    rfl

/-- Half-width letters are in half width. -/
theorem halfWidth_half : halfWidth text = text := by
  refine (List.map_congr_left (fun character inside => ?_)).trans (List.map_id' text)
  simp [(half_width_shifted (half character inside)).1]

/-- Half-width letters are had again from their full-width forms. -/
theorem halfWidth_fullWidth : halfWidth (fullWidth text) = text := by
  rw [halfWidth, fullWidth, List.map_map]
  refine (List.map_congr_left (fun character inside => ?_)).trans (List.map_id' text)
  have letter := half character inside
  obtain ⟨_, isFull, back⟩ := half_width_shifted letter
  simp [letter, isFull, back]

/-- The full-width forms of half-width letters are full-width letters. -/
theorem full_fullWidth : ∀ character ∈ fullWidth text, isFullWidthLetter character = true := by
  intro character inside
  obtain ⟨letter, listed, rfl⟩ := List.mem_map.mp inside
  have isHalf := half letter listed
  rw [if_pos isHalf]
  exact (half_width_shifted isHalf).2.1

/-- The small forms of half-width letters are half-width letters. -/
theorem half_lower : IsHalfLatin (lower text) := by
  rw [lower_half half]
  intro character inside
  obtain ⟨letter, listed, rfl⟩ := List.mem_map.mp inside
  exact (half_width_case (half letter listed)).1

/-- The capitals of half-width letters are half-width letters with the same small forms. -/
theorem lower_upper : IsHalfLatin (upper text) ∧ lower (upper text) = lower text := by
  have halfUpper : IsHalfLatin (upper text) := by
    rw [upper_half half]
    intro character inside
    obtain ⟨letter, listed, rfl⟩ := List.mem_map.mp inside
    exact (half_width_case (half letter listed)).2.1
  refine ⟨halfUpper, ?_⟩
  rw [lower_half halfUpper, upper_half half, lower_half half, List.map_map, List.map_inj_left]
  intro letter listed
  exact (half_width_case (half letter listed)).2.2.1

/-- Half-width letters with a capital in front are half-width letters with the same small forms. -/
theorem lower_capitalized : IsHalfLatin (capitalized text) ∧
    lower (capitalized text) = lower text := by
  cases text with
  | nil => exact ⟨half, rfl⟩
  | cons character rest =>
    obtain ⟨ofFirst, ofRest⟩ := List.forall_mem_cons.mp half
    obtain ⟨_, isUpper, back, _⟩ := half_width_case ofFirst
    have form : capitalized (character :: rest) = character.toUpper :: rest := by
      rw [capitalized, upperChar, if_pos (half_width_ascii ofFirst)]
      rfl
    have halfForm : IsHalfLatin (character.toUpper :: rest) :=
      List.forall_mem_cons.mpr ⟨isUpper, ofRest⟩
    rw [form]
    refine ⟨halfForm, ?_⟩
    rw [lower_half halfForm, lower_half half, List.map_cons, List.map_cons, back]

/-- Small forms stay as they are. -/
theorem lower_lower : lower (lower text) = lower text := by
  rw [lower_half (half_lower half), lower_half half, List.map_map, List.map_inj_left]
  intro letter listed
  exact (half_width_case (half letter listed)).2.2.2

end HalfWidth

/-- A text of Latin letters consists of half-width letters in half width. -/
theorem half_halfWidth {text : Text} (latin : IsLatin text) : IsHalfLatin (halfWidth text) := by
  intro character inside
  obtain ⟨letter, listed, rfl⟩ := List.mem_map.mp inside
  split
  · next isFull => exact full_width_shifted isFull
  · next notFull => exact (latin letter listed).resolve_right notFull

/-- The small form of a text in half width. -/
def smallForm (text : Text) : Text := lower (halfWidth text)

/-- The small form of Latin letters is as long as they are. -/
theorem length_smallForm {text : Text} (latin : IsLatin text) :
    (smallForm text).length = text.length := by
  rw [smallForm, lower_half (half_halfWidth latin), List.length_map, halfWidth, List.length_map]

/-- A form in which a word is spelled in half width: capitalised, in capitals or in small letters. -/
def IsForm (word form : Text) : Prop :=
  form = capitalized (smallForm word) ∨ form = upper (smallForm word) ∨ form = smallForm word

/-- The spellings of a word are its forms in either width. -/
theorem mem_latinVariants {word spelling : Text} : spelling ∈ latinVariants word ↔
    ∃ form, IsForm word form ∧ (spelling = form ∨ spelling = fullWidth form) := by
  simp only [latinVariants, IsForm, smallForm, List.mem_cons, List.not_mem_nil, or_false]
  constructor
  · rintro (same | same | same | same | same | same)
    · exact ⟨_, .inl rfl, .inr same⟩
    · exact ⟨_, .inl rfl, .inl same⟩
    · exact ⟨_, .inr (.inl rfl), .inr same⟩
    · exact ⟨_, .inr (.inl rfl), .inl same⟩
    · exact ⟨_, .inr (.inr rfl), .inr same⟩
    · exact ⟨_, .inr (.inr rfl), .inl same⟩
  · rintro ⟨form, rfl | rfl | rfl, rfl | rfl⟩ <;> simp

/-- A form of a Latin word is in half width and has the small form of the word. -/
theorem half_of_form {word form : Text} (latin : IsLatin word) (isForm : IsForm word form) :
    IsHalfLatin form ∧ lower form = smallForm word := by
  have halfWord := half_halfWidth latin
  have halfSmall : IsHalfLatin (smallForm word) := half_lower halfWord
  have smallAgain : lower (smallForm word) = smallForm word := lower_lower halfWord
  rcases isForm with rfl | rfl | rfl
  · exact (lower_capitalized halfSmall).imp_right (·.trans smallAgain)
  · exact (lower_upper halfSmall).imp_right (·.trans smallAgain)
  · exact ⟨halfSmall, smallAgain⟩

/-- A spelling of a Latin word is a Latin word of the same length with the same small form. -/
theorem spelling_facts {word spelling : Text} (latin : IsLatin word)
    (listed : spelling ∈ latinVariants word) :
    IsLatin spelling ∧ smallForm spelling = smallForm word ∧ spelling.length = word.length := by
  obtain ⟨half, isForm, same⟩ := mem_latinVariants.mp listed
  obtain ⟨isHalf, small⟩ := half_of_form latin isForm
  have latinSpelling : IsLatin spelling := by
    rcases same with rfl | rfl
    · exact fun character inside => .inl (isHalf character inside)
    · exact fun character inside => .inr (full_fullWidth isHalf character inside)
  have inHalf : halfWidth spelling = half := by
    rcases same with rfl | rfl
    · exact halfWidth_half isHalf
    · exact halfWidth_fullWidth isHalf
  have sameForm : smallForm spelling = smallForm word := by rw [smallForm, inHalf, small]
  refine ⟨latinSpelling, sameForm, ?_⟩
  rw [← length_smallForm latinSpelling, sameForm, length_smallForm latin]

/-- A spelling of a Latin word has the same spellings as the word. -/
theorem spellings_of_spelling {word spelling : Text} (latin : IsLatin word)
    (listed : spelling ∈ latinVariants word) : latinVariants spelling = latinVariants word := by
  have same := (spelling_facts latin listed).2.1
  unfold smallForm at same
  rw [latinVariants, latinVariants, same]

/-- A text of Latin letters has no blanks. -/
theorem IsLatin.solid {text : Text} (latin : IsLatin text) : IsSolid text :=
  fun character inside => (latin character inside).plain.visible

/-- A text without blanks loses no line feed at its end. -/
theorem withoutFinalNewline_solid {text : Text} (solid : IsSolid text) :
    withoutFinalNewline text = text := by
  fun_induction withoutFinalNewline text with
  | case1 => rfl
  | case2 => cases solid _ (List.mem_singleton_self _)
  | case3 character rest different inductionHypothesis =>
    rw [inductionHypothesis (solid_cons.mp solid).2]

/-- A word without blanks is one of Latin letters alone if it has characters and all are Latin. -/
theorem latin_only_iff {word : Text} (solid : IsSolid word) :
    isLatinOnly word = true ↔ word ≠ [] ∧ IsLatin word := by
  simp [isLatinOnly, withoutFinalNewline_solid solid, IsLatin, IsLatinLetter]

end PriorArt.Text

/-!
## Words of a key

A key has no blanks, and its characters are folded. Its words are the pieces between its plus signs, as
far as they have characters, so each word stands in the key as it is. The spellings that are searched
for a text are those of the Latin words of its key and its other words themselves.
-/

namespace PriorArt

/-- What is left without blanks around and enclosing brackets occurs in the text. -/
theorem Brackets.strip_occurs (text : Text) : strip text <:+: text := by
  induction text using strip_induction with
  | untrimmed text ofTrimmed =>
    rw [strip_trim] at ofTrimmed
    obtain ⟨before, after, split, _⟩ := Text.trim_split text
    exact ofTrimmed.trans ⟨before, after, split.symm⟩
  | bare text trimmed bare =>
    simp [strip_trimmed_bare trimmed bare]
  | enclosed text inside trimmed enclosed ofInside =>
    rw [strip_of_interior trimmed enclosed]
    obtain ⟨opener, closer, rfl, _⟩ := interior_shape enclosed
    exact ofInside.trans ⟨[opener], [closer], rfl⟩

namespace Text

/-- A part of a text without blanks has no blanks. -/
theorem IsSolid.within {whole text : Text} (solid : IsSolid whole) (inside : text <:+: whole) :
    IsSolid text :=
  fun character listed => solid character (inside.subset listed)

/-- Without blanks a text is solid. -/
theorem solid_withoutBlanks (text : Text) : IsSolid (withoutBlanks text) := by
  intro character inside
  simpa using (List.mem_filter.mp inside).2

/-- A solid text has no blanks to lose. -/
theorem withoutBlanks_solid {text : Text} (solid : IsSolid text) : withoutBlanks text = text :=
  List.filter_eq_self.mpr (fun character inside => by simp [solid character inside])

/-- A key has no blanks. -/
theorem solid_key (text : Text) : IsSolid (key text) :=
  (solid_withoutBlanks _).within (Brackets.strip_occurs _)

/-- The characters of a key are folded. -/
theorem folded_key (text : Text) : IsFolded (key text) := by
  intro character inside
  have kept : character ∈ withoutBlanks (normalized text) := (Brackets.strip_occurs _).subset inside
  exact folded_normalized text character (List.mem_filter.mp kept).1

/-- Each piece occurs in the text that the pieces are joined to. -/
theorem infix_join {separator : Char} {parts : List Text} {part : Text} (listed : part ∈ parts) :
    part <:+: join separator parts := by
  induction parts with
  | nil => cases listed
  | cons first others inductionHypothesis =>
    cases others with
    | nil =>
      obtain rfl := List.mem_singleton.mp listed
      simp [join_single]
    | cons next rest =>
      rw [join_cons (by simp)]
      rcases List.mem_cons.mp listed with rfl | later
      · exact (List.prefix_append _ _).isInfix
      · exact (inductionHypothesis later).trans
          ((List.suffix_cons _ _).trans (List.suffix_append _ _)).isInfix

/-- Each piece occurs in the text that is cut. -/
theorem infix_of_piece {separator : Char} {text part : Text} (listed : part ∈ pieces separator text) :
    part <:+: text := by
  have occurs : part <:+: join separator (pieces separator text) := infix_join listed
  rwa [join, pieces, List.intercalate_splitOn] at occurs

/-- The separator does not stand in a piece. -/
theorem separator_not_in_piece {separator : Char} {text part : Text}
    (listed : part ∈ pieces separator text) : separator ∉ part := by
  unfold pieces List.splitOn at listed
  induction text generalizing part with
  | nil =>
    obtain rfl := List.mem_singleton.mp listed
    exact List.not_mem_nil
  | cons character rest inductionHypothesis =>
    rw [List.splitOnP_cons_eq_if_modifyHead] at listed
    split at listed
    · rcases List.mem_cons.mp listed with rfl | later
      · exact List.not_mem_nil
      · exact inductionHypothesis later
    · next different =>
      cases cut : rest.splitOnP (· == separator) with
      | nil => exact absurd cut (List.splitOnP_ne_nil _ _)
      | cons first others =>
        rw [cut, List.modifyHead_cons] at listed
        rw [cut] at inductionHypothesis
        rcases List.mem_cons.mp listed with rfl | later
        · have apart := inductionHypothesis List.mem_cons_self
          simp only [List.mem_cons, not_or]
          exact ⟨fun same => different (by simp [same]), apart⟩
        · exact inductionHypothesis (List.mem_cons_of_mem _ later)

/-- The words of a key are its pieces with characters. -/
theorem mem_keyWords {key word : Text} (solid : IsSolid key) :
    word ∈ keyWords key ↔ word ∈ pieces '+' key ∧ word ≠ [] := by
  have kept : (pieces '+' key).map trim = pieces '+' key := by
    refine (List.map_congr_left (fun part listed => ?_)).trans (List.map_id _)
    exact trim_solid (solid.within (infix_of_piece listed))
  rw [keyWords, kept, List.mem_filter]
  simp

/-- The spellings of a text are those of the Latin words of its key, and its other words. -/
theorem mem_variants {text word : Text} : word ∈ variants text ↔
    (∃ latin ∈ keyWords (key text), isLatinOnly latin = true ∧ word ∈ latinVariants latin) ∨
      word ∈ keyWords (key text) ∧ isLatinOnly word = false := by
  simp [variants, and_assoc]

end Text

end PriorArt
