import PriorArt.Spelling

/-!
# Texts in normal form

The normal form of a query folds each character by itself and then puts field suffixes in
capitals. It is made up from the normal forms of the parts of a text, as long as no part is cut
where a suffix could stand across the cut: behind the cut there must be no letter of a suffix.
-/

namespace PriorArt.Text

/-- Folding a character once more changes nothing. -/
theorem folded_of_folded {character folded : Char} (folds : foldedChar? character = some folded) :
    foldedChar? folded = some folded := by
  have same := folds
  unfold foldedChar? at folds
  split at folds
  -- The last case is that of a character without a form of full width, which is its own fold.
  case h_12 =>
    cases folds
    exact same
  all_goals cases folds <;> rfl

/-- Every character is folded already. -/
def IsFolded (text : Text) : Prop := ∀ character ∈ text, foldedChar? character = some character

instance : DecidablePred IsFolded := fun text => List.decidableBAll _ text

/-- Folding a folded text changes nothing. -/
theorem filterMap_folded {text : Text} (folded : IsFolded text) :
    text.filterMap foldedChar? = text := by
  induction text with
  | nil => rfl
  | cons character rest inductionHypothesis =>
    have restFolded : IsFolded rest := fun other inside => folded other (by simp [inside])
    rw [List.filterMap_cons, folded character (by simp), inductionHypothesis restFolded]

/-- Capital suffixes bring no other characters into a text than their own. -/
theorem mem_canonicalSuffixes {text : Text} {character : Char}
    (inside : character ∈ canonicalSuffixes text) :
    character ∈ text ∨ character ∈ ['/', 'T', 'X', 'C', 'P', 'F', 'I'] := by
  have ofSuffix : ∀ field : Field, ∀ letter ∈ field.suffix.toList,
      letter ∈ ['/', 'T', 'X', 'C', 'P', 'F', 'I'] := by
    intro field
    cases field <;> simp [Field.suffix]
  fun_induction canonicalSuffixes text with
  | case1 => cases inside
  | case2 first second rest field spelled inductionHypothesis =>
    rcases List.mem_append.mp inside with letter | later
    · exact .inr (ofSuffix field character letter)
    · exact (inductionHypothesis later).imp_left (by simp +contextual)
  | case3 first second rest spelled inductionHypothesis =>
    rcases List.mem_cons.mp inside with rfl | later
    · simp
    · exact (inductionHypothesis later).imp_left (by simp +contextual)
  | case4 other rest different inductionHypothesis =>
    rcases List.mem_cons.mp inside with rfl | later
    · simp
    · exact (inductionHypothesis later).imp_left (by simp +contextual)

/-- Every character of a normal form is folded. -/
theorem folded_normalized (text : Text) : IsFolded (normalized text) := by
  intro character inside
  rcases mem_canonicalSuffixes inside with ofText | ofSuffix
  · obtain ⟨original, _, folds⟩ := List.mem_filterMap.mp ofText
    exact folded_of_folded folds
  · revert ofSuffix
    simp only [List.mem_cons, List.not_mem_nil, or_false]
    rintro (rfl | rfl | rfl | rfl | rfl | rfl | rfl) <;> rfl

/-- A text in normal form. -/
def IsNormal (text : Text) : Prop := normalized text = text

instance : DecidablePred IsNormal := fun text =>
  inferInstanceAs (Decidable (normalized text = text))

/-- A text is in normal form if its characters are folded and its suffixes are in capitals. -/
theorem normal_iff {text : Text} :
    IsNormal text ↔ IsFolded text ∧ canonicalSuffixes text = text := by
  constructor
  · intro normal
    have folded : IsFolded text := by
      rw [← normal]
      exact folded_normalized text
    rw [IsNormal, normalized, filterMap_folded folded] at normal
    exact ⟨folded, normal⟩
  · rintro ⟨folded, capitals⟩
    rw [IsNormal, normalized, filterMap_folded folded, capitals]

/-- No letter of a suffix stands first. -/
def StartsSafely (text : Text) : Prop :=
  ∀ first ∈ text.head?, suffixLetter? first = none

/-- A text is cut safely in front of a character that is no letter of a suffix. -/
theorem starts_safely_cons {first : Char} (foreign : suffixLetter? first = none) (rest : Text) :
    StartsSafely (first :: rest) := by
  intro character inside
  rwa [← Option.some.inj inside]

/-- Two letters of which one is no letter of a suffix name no field. -/
theorem spelledField_none {first second : Char}
    (foreign : suffixLetter? first = none ∨ suffixLetter? second = none) :
    spelledField? first second = none := by
  unfold spelledField?
  rcases foreign with foreign | foreign
  · rw [foreign]
  · rw [foreign]
    cases suffixLetter? first <;> rfl

/-- A character that opens no suffix is kept. -/
theorem canonicalSuffixes_cons {character : Char} {rest : Text}
    (apart : ∀ first second behind, character = '/' → rest = first :: second :: behind →
      spelledField? first second = none) :
    canonicalSuffixes (character :: rest) = character :: canonicalSuffixes rest := by
  rw [canonicalSuffixes.eq_def]
  split
  · next impossible => cases impossible
  · next first second behind same =>
    obtain ⟨rfl, rfl⟩ := List.cons.inj same
    rw [apart first second behind rfl rfl]
  · next other behind _ same =>
    obtain ⟨rfl, rfl⟩ := List.cons.inj same
    rfl

/-- Suffixes do not reach over a cut behind which no letter of a suffix stands. -/
theorem canonicalSuffixes_append (front : Text) {back : Text} (safe : StartsSafely back) :
    canonicalSuffixes (front ++ back) = canonicalSuffixes front ++ canonicalSuffixes back := by
  fun_induction canonicalSuffixes front with
  | case1 => rfl
  | case2 first second rest field spelled inductionHypothesis =>
    simp only [List.cons_append, canonicalSuffixes, spelled, inductionHypothesis,
      List.append_assoc]
  | case3 first second rest spelled inductionHypothesis =>
    simp only [List.cons_append] at inductionHypothesis
    simp only [List.cons_append, canonicalSuffixes, spelled, inductionHypothesis]
  | case4 other rest different inductionHypothesis =>
    rw [List.cons_append, canonicalSuffixes_cons, inductionHypothesis, List.cons_append]
    rintro first second behind rfl same
    match rest, same with
    | [], same =>
      have whole : back = first :: second :: behind := same
      exact spelledField_none (.inl (safe first (by simp [whole])))
    | [single], same =>
      obtain ⟨rfl, rfl⟩ := List.cons.inj same
      exact spelledField_none (.inr (safe second (by simp)))
    | one :: two :: others, _ => exact absurd rfl (different one two others rfl)

/-- Normal texts make a normal text together, if no suffix can stand across the cut. -/
theorem IsNormal.append {front back : Text} (normalFront : IsNormal front)
    (normalBack : IsNormal back) (safe : StartsSafely back) : IsNormal (front ++ back) := by
  obtain ⟨foldedFront, capitalsFront⟩ := normal_iff.mp normalFront
  obtain ⟨foldedBack, capitalsBack⟩ := normal_iff.mp normalBack
  refine normal_iff.mpr ⟨?_, ?_⟩
  · intro character inside
    rcases List.mem_append.mp inside with ofFront | ofBack
    · exact foldedFront character ofFront
    · exact foldedBack character ofBack
  · rw [canonicalSuffixes_append front safe, capitalsFront, capitalsBack]

/-- A folded character other than a slash can stand in front of a normal text. -/
theorem IsNormal.cons {character : Char} {text : Text} (normal : IsNormal text)
    (folded : foldedChar? character = some character) (noSlash : character ≠ '/') :
    IsNormal (character :: text) := by
  obtain ⟨foldedText, capitals⟩ := normal_iff.mp normal
  refine normal_iff.mpr ⟨?_, ?_⟩
  · intro other inside
    rcases List.mem_cons.mp inside with rfl | later
    · exact folded
    · exact foldedText other later
  · rw [canonicalSuffixes_cons, capitals]
    rintro first second behind rfl
    exact absurd rfl noSlash

/-!
## Parts of normal forms

A normal form is in normal form, and so is every part of it: a suffix that stands in a part stands
in the whole, where it is in capitals, and cutting a text makes no new suffixes.
-/

/-- The letters of a suffix are no slashes. -/
theorem spelled_letters {first second : Char} {field : Field}
    (spelled : spelledField? first second = some field) : first ≠ '/' ∧ second ≠ '/' := by
  constructor
  · rintro rfl
    rw [spelledField_none (.inl rfl)] at spelled
    cases spelled
  · rintro rfl
    rw [spelledField_none (.inr rfl)] at spelled
    cases spelled

/-- The letters of a capital suffix spell its field. -/
theorem suffix_spells (field : Field) : ∃ first second,
    field.suffix.toList = ['/', first, second] ∧ spelledField? first second = some field := by
  cases field with
  | text => exact ⟨'T', 'X', rfl, by decide⟩
  | primaryClass => exact ⟨'C', 'P', rfl, by decide⟩
  | furtherClass => exact ⟨'F', 'I', rfl, by decide⟩

/-- A character other than a slash is kept. -/
theorem canonicalSuffixes_letter {character : Char} (noSlash : character ≠ '/') (rest : Text) :
    canonicalSuffixes (character :: rest) = character :: canonicalSuffixes rest :=
  canonicalSuffixes_cons (fun _ _ _ slash => absurd slash noSlash)

/-- Capital suffixes begin with the same character. -/
theorem head_canonicalSuffixes (text : Text) : (canonicalSuffixes text).head? = text.head? := by
  fun_cases canonicalSuffixes text with
  | case1 => rfl
  | case2 first second rest field spelled =>
    obtain ⟨_, _, suffix, _⟩ := suffix_spells field
    simp [suffix]
  | case3 first second rest spelled => rfl
  | case4 other rest different => rfl

/-- Every suffix of a text is in capitals. -/
def HasCapitalSuffixes (text : Text) : Prop :=
  ∀ front first second back field, text = front ++ '/' :: first :: second :: back →
    spelledField? first second = some field → field.suffix.toList = ['/', first, second]

/-- The suffixes of a part of a text are suffixes of the text. -/
theorem HasCapitalSuffixes.part {front text back : Text}
    (capitals : HasCapitalSuffixes (front ++ text ++ back)) : HasCapitalSuffixes text := by
  rintro before first second behind field rfl spelled
  exact capitals (front ++ before) first second (behind ++ back) field (by simp) spelled

/-- A text with a character in front has capital suffixes if the rest has and the character opens
none. -/
theorem HasCapitalSuffixes.cons {text : Text} (capitals : HasCapitalSuffixes text)
    {character : Char}
    (apart : ∀ first second back, character = '/' → text = first :: second :: back →
      spelledField? first second = none) : HasCapitalSuffixes (character :: text) := by
  intro front first second back field split spelled
  cases front with
  | nil =>
    obtain ⟨slash, same⟩ := List.cons.inj split
    rw [apart first second back slash same] at spelled
    cases spelled
  | cons head front =>
    obtain ⟨_, same⟩ := List.cons.inj split
    exact capitals front first second back field same spelled

/-- A text with a capital suffix in front has capital suffixes if the rest has. -/
theorem HasCapitalSuffixes.suffix {text : Text} (capitals : HasCapitalSuffixes text)
    (field : Field) : HasCapitalSuffixes (field.suffix.toList ++ text) := by
  obtain ⟨one, two, suffix, spells⟩ := suffix_spells field
  obtain ⟨oneLetter, twoLetter⟩ := spelled_letters spells
  have behindSlash : HasCapitalSuffixes (one :: two :: text) :=
    (capitals.cons (fun _ _ _ slash => absurd slash twoLetter)).cons
      (fun _ _ _ slash => absurd slash oneLetter)
  rw [suffix]
  intro front first second back other split spelled
  cases front with
  | nil =>
    simp only [List.cons_append, List.nil_append, List.cons.injEq, true_and] at split
    obtain ⟨rfl, rfl, -⟩ := split
    obtain rfl := Option.some.inj (spells.symm.trans spelled)
    exact suffix
  | cons head front =>
    obtain ⟨-, same⟩ := List.cons.inj split
    exact behindSlash front first second back other same spelled

/-- Two characters that spell a field after suffixes were put in capitals spell it before. -/
theorem spelled_of_canonicalSuffixes {text : Text} {first second : Char} {back : Text}
    {field : Field} (same : canonicalSuffixes text = first :: second :: back)
    (spelled : spelledField? first second = some field) :
    ∃ rest, text = first :: second :: rest := by
  obtain ⟨firstLetter, secondLetter⟩ := spelled_letters spelled
  have head := head_canonicalSuffixes text
  rw [same] at head
  cases text with
  | nil => cases head
  | cons character rest =>
    obtain rfl : first = character := Option.some.inj head
    rw [canonicalSuffixes_letter firstLetter] at same
    have next := head_canonicalSuffixes rest
    rw [(List.cons.inj same).2] at next
    cases rest with
    | nil => cases next
    | cons other behind =>
      obtain rfl : second = other := Option.some.inj next
      exact ⟨behind, rfl⟩

/-- Suffixes that were put in capitals are in capitals. -/
theorem capital_canonicalSuffixes (text : Text) : HasCapitalSuffixes (canonicalSuffixes text) := by
  fun_induction canonicalSuffixes text with
  | case1 =>
    intro front first second back field split
    simp at split
  | case2 first second rest field spelled inductionHypothesis =>
    exact inductionHypothesis.suffix field
  | case3 first second rest spelled inductionHypothesis =>
    refine inductionHypothesis.cons (fun one two back _ same => ?_)
    cases spells : spelledField? one two with
    | none => rfl
    | some field =>
      obtain ⟨behind, split⟩ := spelled_of_canonicalSuffixes same spells
      simp only [List.cons.injEq] at split
      obtain ⟨rfl, rfl, -⟩ := split
      exact spells.symm.trans spelled
  | case4 other rest different inductionHypothesis =>
    refine inductionHypothesis.cons (fun one two back slash same => ?_)
    cases spells : spelledField? one two with
    | none => rfl
    | some field =>
      obtain ⟨behind, rfl⟩ := spelled_of_canonicalSuffixes same spells
      exact absurd rfl (different one two behind slash)

/-- Putting suffixes in capitals changes nothing exactly if they are in capitals. -/
theorem canonicalSuffixes_eq_iff (text : Text) :
    canonicalSuffixes text = text ↔ HasCapitalSuffixes text := by
  constructor
  · intro same
    rw [← same]
    exact capital_canonicalSuffixes text
  · intro capitals
    have rest : ∀ front {back : Text}, HasCapitalSuffixes (front ++ back) →
        HasCapitalSuffixes back := by
      intro front back whole
      have inside : HasCapitalSuffixes (front ++ back ++ []) := by simpa using whole
      exact inside.part
    fun_induction canonicalSuffixes text with
    | case1 => rfl
    | case2 first second behind field spelled inductionHypothesis =>
      rw [inductionHypothesis (rest ['/', first, second] capitals),
        capitals [] first second behind field rfl spelled]
      rfl
    | case3 first second behind spelled inductionHypothesis =>
      rw [inductionHypothesis (rest ['/'] capitals)]
    | case4 other behind different inductionHypothesis =>
      rw [inductionHypothesis (rest [other] capitals)]

/-- A normal form is in normal form. -/
theorem normal_normalized (text : Text) : IsNormal (normalized text) := by
  refine normal_iff.mpr ⟨folded_normalized text, ?_⟩
  rw [canonicalSuffixes_eq_iff]
  exact capital_canonicalSuffixes _

/-- A part of a normal text is in normal form. -/
theorem IsNormal.part {front text back : Text} (normal : IsNormal (front ++ text ++ back)) :
    IsNormal text := by
  obtain ⟨folded, capitals⟩ := normal_iff.mp normal
  rw [canonicalSuffixes_eq_iff] at capitals
  refine normal_iff.mpr ⟨fun character inside => folded character (by simp [inside]), ?_⟩
  rw [canonicalSuffixes_eq_iff]
  exact capitals.part

/-- A text that occurs in a normal text is in normal form. -/
theorem IsNormal.within {whole text : Text} (normal : IsNormal whole) (inside : text <:+: whole) :
    IsNormal text := by
  obtain ⟨front, back, rfl⟩ := inside
  exact normal.part

end PriorArt.Text
