import PriorArt.Proofs.Spelling.Normal
import PriorArt.Query.Phrase

/-!
# Respelled suffixes

Two texts are respellings of one another if they differ in the letters of field suffixes alone. Putting
suffixes in capitals respells a text and gives the same for all its respellings, so it finds the one
among them that has capital suffixes. Texts stay respellings of one another when their blanks are taken
out, and when they are cut where no suffix can stand.
-/

namespace PriorArt.Text

/-- The text with its characters folded, in which suffixes are as they are typed. -/
def folded (text : Text) : Text := text.filterMap foldedChar?

/-- The letters of suffixes are characters of terms. -/
theorem suffix_letter_term_char {character capital : Char}
    (isLetter : suffixLetter? character = some capital) : Phrase.isTermChar character = true := by
  unfold suffixLetter? at isLetter
  split at isLetter
  all_goals first | rfl | cases isLetter

/-- The two letters that spell a field are letters of suffixes. -/
theorem letters_of_spelled {first second : Char} {field : Field}
    (spelled : spelledField? first second = some field) :
    Phrase.isTermChar first = true ∧ Phrase.isTermChar second = true := by
  unfold spelledField? at spelled
  split at spelled
  · next firstLetter secondLetter =>
    exact ⟨suffix_letter_term_char firstLetter, suffix_letter_term_char secondLetter⟩
  · cases spelled

/-- A character of terms is not blank. -/
theorem term_char_visible {character : Char} (isChar : Phrase.isTermChar character = true) :
    isBlank character = false := by
  simp only [Phrase.isTermChar, Bool.and_eq_true, Bool.not_eq_true'] at isChar
  exact isChar.1

/-- Texts that differ in the letters of suffixes alone. -/
inductive Respelled : Text → Text → Prop where
  | nil : Respelled [] []
  | same (character : Char) {text other : Text} (later : Respelled text other) :
      Respelled (character :: text) (character :: other)
  | suffix {first second one two : Char} {field : Field} {text other : Text}
      (spelled : spelledField? first second = some field)
      (spelledOther : spelledField? one two = some field) (later : Respelled text other) :
      Respelled ('/' :: first :: second :: text) ('/' :: one :: two :: other)

namespace Respelled

variable {text other : Text}

/-- A respelled text is as long as before. -/
theorem length_eq (respelled : Respelled text other) : text.length = other.length := by
  induction respelled with
  | nil => rfl
  | same character later inductionHypothesis => simp [inductionHypothesis]
  | suffix spelled spelledOther later inductionHypothesis => simp [inductionHypothesis]

/-- A character in front that is no slash is kept. -/
theorem behind_letter {character : Char} (respelled : Respelled (character :: text) other)
    (noSlash : character ≠ '/') : ∃ rest, other = character :: rest ∧ Respelled text rest := by
  cases respelled with
  | same _ later => exact ⟨_, rfl, later⟩
  | suffix => exact absurd rfl noSlash

/-- Two letters in front that spell a field are kept. -/
theorem behind_letters {first second : Char} {field : Field}
    (respelled : Respelled (first :: second :: text) other)
    (spelled : spelledField? first second = some field) :
    ∃ rest, other = first :: second :: rest ∧ Respelled text rest := by
  obtain ⟨firstLetter, secondLetter⟩ := spelled_letters spelled
  obtain ⟨_, rfl, later⟩ := respelled.behind_letter firstLetter
  obtain ⟨rest, rfl, last⟩ := later.behind_letter secondLetter
  exact ⟨rest, rfl, last⟩

/-- A text is a respelling of itself. -/
theorem refl (text : Text) : Respelled text text := by
  induction text with
  | nil => exact .nil
  | cons character rest inductionHypothesis => exact .same character inductionHypothesis

/-- Respelling works in both directions. -/
theorem symm (respelled : Respelled text other) : Respelled other text := by
  induction respelled with
  | nil => exact .nil
  | same character _ inductionHypothesis => exact .same character inductionHypothesis
  | suffix spelled spelledOther _ inductionHypothesis =>
    exact .suffix spelledOther spelled inductionHypothesis

/-- All respellings of a text are the same with capital suffixes. -/
theorem canonical_eq (respelled : Respelled text other) :
    canonicalSuffixes text = canonicalSuffixes other := by
  induction respelled with
  | nil => rfl
  | @same character text other later inductionHypothesis =>
    by_cases opens : ∃ first second rest field, character = '/' ∧ text = first :: second :: rest ∧
        spelledField? first second = some field
    · obtain ⟨first, second, rest, field, rfl, rfl, spelled⟩ := opens
      obtain ⟨firstLetter, secondLetter⟩ := spelled_letters spelled
      obtain ⟨behind, rfl, _⟩ := later.behind_letters spelled
      simp only [canonicalSuffixes_letter firstLetter, canonicalSuffixes_letter secondLetter,
        List.cons.injEq, true_and] at inductionHypothesis
      simp only [canonicalSuffixes, spelled, inductionHypothesis]
    · -- A suffix that the slash opens in one text it opens in the other.
      have apart : ∀ {start : Text}, Respelled start text → ∀ first second behind,
          character = '/' → start = first :: second :: behind →
            spelledField? first second = none := by
        intro start alike first second behind slash same
        cases spelled : spelledField? first second with
        | none => rfl
        | some field =>
          obtain ⟨rest, kept, _⟩ := (same ▸ alike).behind_letters spelled
          exact absurd ⟨first, second, rest, field, slash, kept, spelled⟩ opens
      rw [canonicalSuffixes_cons (apart (refl text)), canonicalSuffixes_cons (apart later.symm),
        inductionHypothesis]
  | suffix spelled spelledOther _ inductionHypothesis =>
    simp only [canonicalSuffixes, spelled, spelledOther, inductionHypothesis]

/-- Without their blanks respellings stay respellings, since no blank stands in a suffix. -/
theorem withoutBlanks (respelled : Respelled text other) :
    Respelled (Text.withoutBlanks text) (Text.withoutBlanks other) := by
  induction respelled with
  | nil => exact .nil
  | @same character text other _ inductionHypothesis =>
    unfold Text.withoutBlanks at inductionHypothesis ⊢
    rw [List.filter_cons, List.filter_cons]
    split
    · exact .same character inductionHypothesis
    · exact inductionHypothesis
  | suffix spelled spelledOther _ inductionHypothesis =>
    unfold Text.withoutBlanks at inductionHypothesis ⊢
    obtain ⟨first, second⟩ := letters_of_spelled spelled
    obtain ⟨one, two⟩ := letters_of_spelled spelledOther
    have slash : isBlank '/' = false := rfl
    simp only [List.filter_cons, slash, term_char_visible first, term_char_visible second,
      term_char_visible one, term_char_visible two]
    exact .suffix spelled spelledOther inductionHypothesis

/-- Respellings can be cut at the same place, if no suffix reaches over the cut. -/
theorem split {front back : Text} (respelled : Respelled (front ++ back) other)
    (safe : StartsSafely back) :
    ∃ before after, other = before ++ after ∧ Respelled front before ∧ Respelled back after := by
  generalize whole : front ++ back = text at respelled
  induction respelled generalizing front with
  | nil =>
    obtain ⟨rfl, rfl⟩ := List.append_eq_nil_iff.mp whole
    exact ⟨[], [], rfl, .nil, .nil⟩
  | same character later inductionHypothesis =>
    cases front with
    | nil =>
      subst whole
      exact ⟨[], _, rfl, .nil, .same character later⟩
    | cons first rest =>
      obtain ⟨rfl, same⟩ := List.cons.inj whole
      obtain ⟨before, after, rfl, ofFront, ofBack⟩ := inductionHypothesis same
      exact ⟨first :: before, after, rfl, .same first ofFront, ofBack⟩
  | @suffix first second one two field text other spelled spelledOther later
      inductionHypothesis =>
    have foreign : ∀ {character : Char} {rest : Text}, back = character :: rest →
        suffixLetter? character = none := by
      rintro character rest rfl
      exact safe character rfl
    match front, whole with
    | [], whole =>
      subst whole
      exact ⟨[], _, rfl, .nil, .suffix spelled spelledOther later⟩
    | [_], whole =>
      rw [spelledField_none (.inl (foreign (List.cons.inj whole).2))] at spelled
      cases spelled
    | [_, _], whole =>
      rw [spelledField_none (.inr (foreign (List.cons.inj (List.cons.inj whole).2).2))] at spelled
      cases spelled
    | _ :: _ :: _ :: rest, whole =>
      simp only [List.cons_append, List.cons.injEq] at whole
      obtain ⟨rfl, rfl, rfl, same⟩ := whole
      obtain ⟨before, after, rfl, ofFront, ofBack⟩ := inductionHypothesis same
      exact ⟨'/' :: one :: two :: before, after, rfl, .suffix spelled spelledOther ofFront, ofBack⟩

end Respelled

/-- Putting suffixes in capitals respells a text. -/
theorem respelled_canonicalSuffixes (text : Text) : Respelled text (canonicalSuffixes text) := by
  fun_induction canonicalSuffixes text with
  | case1 => exact .nil
  | case2 first second rest field spelled inductionHypothesis =>
    obtain ⟨one, two, suffix, capital⟩ := suffix_spells field
    rw [suffix]
    exact .suffix spelled capital inductionHypothesis
  | case3 first second rest spelled inductionHypothesis => exact .same '/' inductionHypothesis
  | case4 character rest different inductionHypothesis => exact .same character inductionHypothesis

/-!
## Complete suffixes

The grammar of queries takes two letters of a field behind a slash for a suffix only if no character of
a term follows. The normal form does not look at what follows, so it puts letters inside of terms in
capitals as well. This is the only difference: the normal form puts exactly the complete suffixes in
capitals where no letters of a field stand inside of a term in another spelling.
-/

/-- No character of a term stands first. -/
def endsRun (text : Text) : Bool := !text.head?.any Phrase.isTermChar

/-- A text begins with a character of a term if no run ends there. -/
theorem endsRun_false_iff {text : Text} : endsRun text = false ↔
    ∃ next back, text = next :: back ∧ Phrase.isTermChar next = true := by
  cases text with
  | nil => simp [endsRun]
  | cons next back => simp [endsRun]

/-- A run ends where no character of a term comes first. -/
theorem endsRun_iff {text : Text} :
    endsRun text = true ↔ ∀ next ∈ text.head?, Phrase.isTermChar next = false := by
  cases text with
  | nil => simp [endsRun]
  | cons next back => simp [endsRun]

/-- The letters of suffixes do not end runs. -/
theorem not_endsRun_of_spelled {first second : Char} {field : Field}
    (spelled : spelledField? first second = some field) (rest : Text) :
    endsRun (first :: rest) = false ∧ endsRun (second :: rest) = false := by
  obtain ⟨firstChar, secondChar⟩ := letters_of_spelled spelled
  exact ⟨endsRun_false_iff.mpr ⟨first, rest, rfl, firstChar⟩,
    endsRun_false_iff.mpr ⟨second, rest, rfl, secondChar⟩⟩

/-- Write every complete field suffix in capitals of half width. -/
def completeSuffixes : Text → Text
  | [] => []
  | '/' :: first :: second :: rest =>
    match spelledField? first second, endsRun rest with
    | some field, true => field.suffix.toList ++ completeSuffixes rest
    | _, _ => '/' :: completeSuffixes (first :: second :: rest)
  | character :: rest => character :: completeSuffixes rest

/-- The letters of a suffix stand inside of a term, not in capitals. -/
def HasInnerSuffix (text : Text) : Prop :=
  ∃ (front back : Text) (first second next : Char) (field : Field),
    text = front ++ '/' :: first :: second :: next :: back ∧
      spelledField? first second = some field ∧ Phrase.isTermChar next = true ∧
      field.suffix.toList ≠ ['/', first, second]

/-- What stands inside of terms in a part stands inside of terms in the whole. -/
theorem HasInnerSuffix.behind {text : Text} (inner : HasInnerSuffix text) (front : Text) :
    HasInnerSuffix (front ++ text) := by
  obtain ⟨before, back, first, second, next, field, rfl, facts⟩ := inner
  exact ⟨front ++ before, back, first, second, next, field, by simp, facts⟩

/-- A complete suffix is put in capitals. -/
theorem completeSuffixes_suffix {first second : Char} {field : Field} {rest : Text}
    (spelled : spelledField? first second = some field) (ends : endsRun rest = true) :
    completeSuffixes ('/' :: first :: second :: rest) =
      field.suffix.toList ++ completeSuffixes rest := by
  rw [completeSuffixes, spelled, ends]

/-- A character that opens no complete suffix is kept. -/
theorem completeSuffixes_cons {character : Char} {rest : Text}
    (apart : ∀ first second behind field, character = '/' → rest = first :: second :: behind →
      spelledField? first second = some field → endsRun behind = false) :
    completeSuffixes (character :: rest) = character :: completeSuffixes rest := by
  rw [completeSuffixes.eq_def]
  split
  · next impossible => cases impossible
  · next first second behind same =>
    obtain ⟨rfl, rfl⟩ := List.cons.inj same
    split
    · next field spelled ends =>
      rw [apart first second behind field rfl rfl spelled] at ends
      cases ends
    · rfl
  · next other behind _ same =>
    obtain ⟨rfl, rfl⟩ := List.cons.inj same
    rfl

/-- A character other than a slash is kept. -/
theorem completeSuffixes_letter {character : Char} (noSlash : character ≠ '/') (rest : Text) :
    completeSuffixes (character :: rest) = character :: completeSuffixes rest :=
  completeSuffixes_cons (fun _ _ _ _ slash => absurd slash noSlash)

/-- The letters of a field inside of a term are kept. -/
theorem completeSuffixes_inner {first second : Char} {field : Field} {rest : Text}
    (spelled : spelledField? first second = some field) (goesOn : endsRun rest = false) :
    completeSuffixes ('/' :: first :: second :: rest) =
      '/' :: first :: second :: completeSuffixes rest := by
  obtain ⟨firstLetter, secondLetter⟩ := spelled_letters spelled
  rw [completeSuffixes, spelled, goesOn]
  exact congrArg _ ((completeSuffixes_letter firstLetter _).trans
    (congrArg _ (completeSuffixes_letter secondLetter _)))

/-- Complete suffixes keep their length when they are put in capitals. -/
theorem length_completeSuffixes (text : Text) : (completeSuffixes text).length = text.length := by
  fun_induction completeSuffixes text with
  | case1 => rfl
  | case2 first second rest field ends spelled inductionHypothesis =>
    obtain ⟨one, two, suffix, _⟩ := suffix_spells field
    simp [suffix, inductionHypothesis]
  | case3 first second rest other inductionHypothesis => simpa using inductionHypothesis
  | case4 character rest different inductionHypothesis => simpa using inductionHypothesis

/-- Where runs end behind a text and at its start if it is empty, they end where it starts. -/
theorem endsRun_append {front back : Text} (ends : endsRun back = true) :
    endsRun (front ++ back) = endsRun front := by
  cases front with
  | nil => exact ends
  | cons character rest => rfl

/-- No letters of a field reach over a place where runs end. -/
theorem within_of_spelled {front back behind : Text} {first second : Char} {field : Field}
    (ends : endsRun back = true) (spelled : spelledField? first second = some field)
    (same : front ++ back = first :: second :: behind) :
    ∃ rest, front = first :: second :: rest ∧ rest ++ back = behind := by
  obtain ⟨noFirst, noSecond⟩ : endsRun (first :: second :: behind) = false ∧
      endsRun (second :: behind) = false :=
    ⟨(not_endsRun_of_spelled spelled _).1, (not_endsRun_of_spelled spelled _).2⟩
  match front, same with
  | [], same =>
    have sameBack : back = first :: second :: behind := same
    rw [← sameBack, ends] at noFirst
    cases noFirst
  | [single], same =>
    have sameBack : back = second :: behind := (List.cons.inj same).2
    rw [← sameBack, ends] at noSecond
    cases noSecond
  | one :: two :: rest, same =>
    obtain ⟨rfl, later⟩ := List.cons.inj same
    obtain ⟨rfl, last⟩ := List.cons.inj later
    exact ⟨rest, rfl, last⟩

/-- What stands in front of a place where runs end has its complete suffixes to itself. -/
theorem completeSuffixes_append (front : Text) {back : Text} (ends : endsRun back = true) :
    completeSuffixes (front ++ back) = completeSuffixes front ++ completeSuffixes back := by
  fun_induction completeSuffixes front with
  | case1 => rfl
  | case2 first second rest field endsRest spelled inductionHypothesis =>
    rw [← endsRun_append ends] at endsRest
    have whole := completeSuffixes_suffix spelled endsRest
    rw [inductionHypothesis] at whole
    simpa using whole
  | case3 first second rest unfinished inductionHypothesis =>
    rw [List.cons_append, completeSuffixes_cons, inductionHypothesis, List.cons_append]
    rintro one two behind field - same spelled
    obtain ⟨back', split, rfl⟩ := within_of_spelled ends spelled same
    obtain ⟨rfl, rfl, rfl⟩ : first = one ∧ second = two ∧ rest = back' := by simpa using split
    rw [endsRun_append ends]
    cases endsRest : endsRun rest with
    | false => rfl
    | true => exact absurd endsRest (unfinished field spelled)
  | case4 character rest different inductionHypothesis =>
    rw [List.cons_append, completeSuffixes_cons, inductionHypothesis, List.cons_append]
    rintro one two behind field slash same spelled
    obtain ⟨later, split, -⟩ := within_of_spelled ends spelled same
    exact absurd split (different one two later slash)

/-- The normal form puts exactly the complete suffixes in capitals if no letters of a field stand inside
of a term in another spelling. -/
theorem canonicalSuffixes_complete {text : Text} (noInner : ¬ HasInnerSuffix text) :
    canonicalSuffixes text = completeSuffixes text := by
  fun_induction canonicalSuffixes text with
  | case1 => rfl
  | case2 first second rest field spelled inductionHypothesis =>
    have later := inductionHypothesis (fun inner => noInner (inner.behind ['/', first, second]))
    cases ends : endsRun rest with
    | true => rw [completeSuffixes_suffix spelled ends, later]
    | false =>
      obtain ⟨next, back, rfl, isChar⟩ := endsRun_false_iff.mp ends
      have capital : field.suffix.toList = ['/', first, second] := Decidable.not_not.mp
        (fun small => noInner ⟨[], back, first, second, next, field, rfl, spelled, isChar, small⟩)
      rw [later, capital, completeSuffixes_inner spelled ends]
      rfl
  | case3 first second rest unspelled inductionHypothesis =>
    rw [inductionHypothesis (fun inner => noInner (inner.behind ['/']))]
    refine (completeSuffixes_cons ?_).symm
    rintro one two behind field - same spelled
    obtain ⟨rfl, rfl, -⟩ : first = one ∧ second = two ∧ rest = behind := by simpa using same
    rw [unspelled] at spelled
    cases spelled
  | case4 character rest different inductionHypothesis =>
    rw [inductionHypothesis (fun inner => noInner (inner.behind [character]))]
    refine (completeSuffixes_cons ?_).symm
    rintro one two behind field slash same -
    exact absurd same (different one two behind slash)

/-- The normal form puts letters of a field inside of a term in capitals. -/
theorem canonicalSuffixes_inner {text : Text} (inner : HasInnerSuffix text) :
    canonicalSuffixes text ≠ completeSuffixes text := by
  obtain ⟨front, back, first, second, next, field, rfl, spelled, isChar, small⟩ := inner
  intro same
  rw [canonicalSuffixes_append front (starts_safely_cons rfl _), completeSuffixes_append front rfl]
    at same
  have lengths : (canonicalSuffixes front).length = (completeSuffixes front).length := by
    rw [length_completeSuffixes, (respelled_canonicalSuffixes front).length_eq]
  have suffixes := (List.append_inj same lengths).2
  rw [canonicalSuffixes, spelled,
    completeSuffixes_inner spelled (endsRun_false_iff.mpr ⟨next, back, rfl, isChar⟩)] at suffixes
  obtain ⟨one, two, suffix, -⟩ := suffix_spells field
  simp only [suffix, List.cons_append, List.cons.injEq, List.nil_append] at suffixes small
  obtain ⟨-, rfl, rfl, -⟩ := suffixes
  exact small rfl

/-- The normal form puts exactly the complete suffixes in capitals, exactly if no letters of a field
stand inside of a term in another spelling. -/
theorem canonical_eq_complete_iff (text : Text) :
    canonicalSuffixes text = completeSuffixes text ↔ ¬ HasInnerSuffix text :=
  ⟨fun same inner => canonicalSuffixes_inner inner same, canonicalSuffixes_complete⟩

/-- Letters inside of a term stand behind the first character, or this is their slash. -/
theorem HasInnerSuffix.cons_cases {character : Char} {text : Text}
    (inner : HasInnerSuffix (character :: text)) : HasInnerSuffix text ∨
      ∃ first second next back field, character = '/' ∧ text = first :: second :: next :: back ∧
        spelledField? first second = some field ∧ Phrase.isTermChar next = true ∧
        field.suffix.toList ≠ ['/', first, second] := by
  obtain ⟨front, back, first, second, next, field, same, facts⟩ := inner
  cases front with
  | nil =>
    obtain ⟨slash, rfl⟩ := List.cons.inj same
    exact .inr ⟨first, second, next, back, field, slash, rfl, facts⟩
  | cons head front =>
    obtain ⟨-, rfl⟩ := List.cons.inj same
    exact .inl ⟨front, back, first, second, next, field, rfl, facts⟩

/-- Letters inside of a term behind a character that is no slash stand in the rest. -/
theorem HasInnerSuffix.of_letter {character : Char} {text : Text}
    (inner : HasInnerSuffix (character :: text)) (noSlash : character ≠ '/') :
    HasInnerSuffix text :=
  inner.cons_cases.resolve_right (fun ⟨_, _, _, _, _, slash, _⟩ => noSlash slash)

/-- Texts that differ in the letters of complete suffixes alone. -/
inductive RespelledAtEnds : Text → Text → Prop where
  | nil : RespelledAtEnds [] []
  | same (character : Char) {text other : Text} (later : RespelledAtEnds text other) :
      RespelledAtEnds (character :: text) (character :: other)
  | suffix {first second one two : Char} {field : Field} {text other : Text}
      (spelled : spelledField? first second = some field)
      (spelledOther : spelledField? one two = some field) (ends : endsRun text = true)
      (later : RespelledAtEnds text other) :
      RespelledAtEnds ('/' :: first :: second :: text) ('/' :: one :: two :: other)

namespace RespelledAtEnds

variable {text other : Text}

/-- Runs end in front of a text where they end in front of its respellings. -/
theorem endsRun_eq (respelled : RespelledAtEnds text other) : endsRun text = endsRun other := by
  cases respelled <;> rfl

/-- A character in front that is no slash is kept. -/
theorem behind_letter {character : Char} (respelled : RespelledAtEnds (character :: text) other)
    (noSlash : character ≠ '/') :
    ∃ rest, other = character :: rest ∧ RespelledAtEnds text rest := by
  cases respelled with
  | same _ later => exact ⟨_, rfl, later⟩
  | suffix => exact absurd rfl noSlash

end RespelledAtEnds

/-- Putting complete suffixes in capitals respells them. -/
theorem respelled_completeSuffixes (text : Text) :
    RespelledAtEnds (completeSuffixes text) text := by
  fun_induction completeSuffixes text with
  | case1 => exact .nil
  | case2 first second rest field ends spelled inductionHypothesis =>
    obtain ⟨one, two, suffix, capital⟩ := suffix_spells field
    rw [suffix]
    exact .suffix capital spelled (inductionHypothesis.endsRun_eq.trans ends) inductionHypothesis
  | case3 first second rest unfinished inductionHypothesis => exact .same '/' inductionHypothesis
  | case4 character rest different inductionHypothesis => exact .same character inductionHypothesis

end PriorArt.Text
