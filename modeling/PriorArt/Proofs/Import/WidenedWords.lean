import PriorArt.Proofs.Import.Roots
import PriorArt.Proofs.Import.TypedWords
import PriorArt.Proofs.Spelling.Keys

/-!
# Widened words

The six spellings of a Latin word are in full or in half width, and in capitals, in small letters, or in
small letters behind a capital. They are made from the small form of the word, so they take the place of
the word as it is typed. It is one of them exactly if it is regular: if all of its letters have one width,
and it is written in one of these three ways.

An import with all spellings defines the word for a union by these spellings, and one without them by the
words as they are typed. So it widens a union exactly if all Latin words in it are regular. A word that is
stored already is taken as it is in either case.
-/

namespace PriorArt

namespace Text

/-! ## Regular words -/

/-- Whether a character is a Latin capital of either width. -/
def isCapital (character : Char) : Bool :=
  ('A' ≤ character && character ≤ 'Z') || ('Ａ' ≤ character && character ≤ 'Ｚ')

/-- A word in small letters, in capitals, or in small letters behind a capital. -/
inductive HasUsualCase : Text → Prop where
  | small {word : Text} (each : ∀ character ∈ word, isCapital character = false) : HasUsualCase word
  | capitals {word : Text} (each : ∀ character ∈ word, isCapital character = true) : HasUsualCase word
  | capitalized {first : Char} {others : Text} (capital : isCapital first = true)
      (each : ∀ character ∈ others, isCapital character = false) : HasUsualCase (first :: others)

/-- A word of Latin letters of one width in a usual case. -/
structure IsRegular (word : Text) : Prop where
  width : (∀ character ∈ word, isHalfWidthLetter character = true) ∨
    ∀ character ∈ word, isFullWidthLetter character = true
  usualCase : HasUsualCase word

/-- A half-width letter is its own small form if it is no capital, and the capital of its small form if it
is one. -/
theorem half_width_capital {character : Char} (letter : isHalfWidthLetter character = true) :
    (character.toLower = character ↔ isCapital character = false) ∧
      (character.toLower.toUpper = character ↔ isCapital character = true) := by
  refine half_width_forall character letter ?_
  decide +kernel

/-- A full-width letter is had again from its half-width form, which is a capital if the letter is one. -/
theorem full_width_back {character : Char} (letter : isFullWidthLetter character = true) :
    shifted (shifted character (-widthDistance)) widthDistance = character ∧
      isCapital (shifted character (-widthDistance)) = isCapital character := by
  refine full_width_forall character letter ?_
  decide +kernel

/-- A text stays the same exactly if each of its characters does. -/
theorem map_fixed_iff {change : Char → Char} {text : Text} :
    text = text.map change ↔ ∀ character ∈ text, change character = character := by
  induction text with
  | nil => simp
  | cons character rest inductionHypothesis =>
    rw [List.map_cons, List.cons_eq_cons, inductionHypothesis, List.forall_mem_cons, eq_comm]

section HalfWidth

variable {text : Text} (half : IsHalfLatin text)
include half

/-- Half-width letters are small exactly if none is a capital. -/
theorem eq_lower_iff : text = lower text ↔ ∀ character ∈ text, isCapital character = false := by
  rw [lower_half half, map_fixed_iff]
  exact forall₂_congr (fun character inside => (half_width_capital (half character inside)).1)

/-- Half-width letters are the capitals of their small forms exactly if each is a capital. -/
theorem eq_upper_iff :
    text = upper (lower text) ↔ ∀ character ∈ text, isCapital character = true := by
  rw [upper_half (half_lower half), lower_half half, List.map_map, map_fixed_iff]
  exact forall₂_congr (fun character inside => (half_width_capital (half character inside)).2)

/-- Half-width letters are their small forms behind a capital exactly if the first is a capital, and no
other is. -/
theorem eq_capitalized_iff : text = capitalized (lower text) ↔ text = [] ∨
    ∃ first others, text = first :: others ∧ isCapital first = true ∧
      ∀ character ∈ others, isCapital character = false := by
  cases text with
  | nil => exact iff_of_true rfl (.inl rfl)
  | cons first others =>
    obtain ⟨ofFirst, ofOthers⟩ := List.forall_mem_cons.mp half
    have ascii := half_width_ascii (half_width_case ofFirst).1
    have form : capitalized (lower (first :: others)) = first.toLower.toUpper :: lower others := by
      rw [lower_half half, lower_half ofOthers, List.map_cons, capitalized, upperChar, if_pos ascii]
      rfl
    rw [form, List.cons_eq_cons, eq_comm, (half_width_capital ofFirst).2, eq_lower_iff ofOthers]
    simp

/-- Half-width letters are in a usual case exactly if they are one of the forms of their small letters. -/
theorem usual_case_half : HasUsualCase text ↔
    text = capitalized (lower text) ∨ text = upper (lower text) ∨ text = lower text := by
  rw [eq_capitalized_iff half, eq_upper_iff half, eq_lower_iff half]
  constructor
  · rintro (small | capitals | ⟨capital, small⟩)
    · exact .inr (.inr small)
    · exact .inr (.inl capitals)
    · exact .inl (.inr ⟨_, _, rfl, capital, small⟩)
  · rintro ((rfl | ⟨first, others, rfl, capital, small⟩) | capitals | small)
    · exact .small nofun
    · exact .capitalized capital small
    · exact .capitals capitals
    · exact .small small

end HalfWidth

/-- The width of letters makes no difference to their case. -/
theorem usual_case_halfWidth (word : Text) : HasUsualCase (halfWidth word) ↔ HasUsualCase word := by
  have same : ∀ character, isCapital (if isFullWidthLetter character then
      shifted character (-widthDistance) else character) = isCapital character := by
    intro character
    split
    · next full => exact (full_width_back full).2
    · rfl
  have each : ∀ (others : Text) (capital : Bool),
      (∀ character ∈ halfWidth others, isCapital character = capital) ↔
        ∀ character ∈ others, isCapital character = capital := by
    intro others capital
    simp only [halfWidth, List.forall_mem_map, same]
  constructor
  · intro usual
    generalize narrow : halfWidth word = text at usual
    cases usual with
    | small small => exact .small ((each word false).mp (narrow ▸ small))
    | capitals capitals => exact .capitals ((each word true).mp (narrow ▸ capitals))
    | capitalized capital small =>
      obtain ⟨first, others, rfl, rfl, rfl⟩ := List.map_eq_cons_iff.mp narrow
      exact .capitalized ((same first).symm.trans capital) ((each others false).mp small)
  · rintro (small | capitals | ⟨capital, small⟩)
    · exact .small ((each word false).mpr small)
    · exact .capitals ((each word true).mpr capitals)
    · exact .capitalized ((same _).trans capital) ((each _ false).mpr small)

/-- Full-width letters are had again from their half-width forms. -/
theorem fullWidth_halfWidth {text : Text}
    (full : ∀ character ∈ text, isFullWidthLetter character = true) :
    fullWidth (halfWidth text) = text := by
  rw [fullWidth, halfWidth, List.map_map]
  refine (List.map_congr_left (fun character inside => ?_)).trans (List.map_id' text)
  have letter := full character inside
  simp [letter, full_width_shifted letter, (full_width_back letter).1]

/-- A Latin word is one of its spellings exactly if it is regular. -/
theorem own_spelling_iff {word : Text} (latin : IsLatin word) :
    word ∈ latinVariants word ↔ IsRegular word := by
  -- The case is settled in half width; which width a spelling has is told by the word itself.
  have forms : HasUsualCase word ↔ IsForm word (halfWidth word) :=
    (usual_case_halfWidth word).symm.trans (usual_case_half (half_halfWidth latin))
  rw [mem_latinVariants]
  constructor
  · rintro ⟨form, isForm, isSpelling⟩
    have half := (half_of_form latin isForm).1
    rcases isSpelling with same | same
    · have narrow : halfWidth word = form := by rw [same, halfWidth_half half]
      exact ⟨.inl (same ▸ half), forms.mpr (narrow ▸ isForm)⟩
    · have narrow : halfWidth word = form := by rw [same, halfWidth_fullWidth half]
      exact ⟨.inr (same ▸ full_fullWidth half), forms.mpr (narrow ▸ isForm)⟩
  · rintro ⟨narrow | wide, usual⟩
    · exact ⟨halfWidth word, forms.mp usual, .inl (halfWidth_half narrow).symm⟩
    · exact ⟨halfWidth word, forms.mp usual, .inr (fullWidth_halfWidth wide).symm⟩

/-- A word of a key is among the spellings exactly if it is regular, as far as it is a Latin word. -/
theorem word_listed_iff {text word : Text} (ofKey : word ∈ keyWords (key text)) :
    word ∈ variants text ↔ (isLatinOnly word = true → IsRegular word) := by
  rw [mem_variants]
  cases latinOnly : isLatinOnly word with
  | false => simp [ofKey]
  | true =>
    have latin := latin_of_word ofKey latinOnly
    rw [← own_spelling_iff latin]
    constructor
    · rintro (⟨other, ofOther, otherLatin, spelled⟩ | ⟨-, notLatin⟩)
      · intro _
        rwa [spellings_of_spelling (latin_of_word ofOther otherLatin) spelled]
      · cases notLatin
    · exact fun own => .inl ⟨word, ofKey, latinOnly, own rfl⟩

end Text

/-! ## Widened unions -/

namespace Import

open Action

/-- The spellings of a union of plain words contain it as it is typed exactly if its Latin words are
regular. -/
theorem typed_among_variants_iff {union : Expr} (plainTree : IsPlainTree union)
    (isUnion : union.isPlainUnion = true) :
    (∀ spelling ∈ typedVariants (Text.key union.text),
        spelling ∈ Text.variants (Text.key union.text)) ↔
      ∀ word ∈ union.words, Text.isLatinOnly word = true → Text.IsRegular word := by
  have plain := plainTree.are_plain
  have ownKey : Text.key union.text = Text.join '+' union.words :=
    plainTree.key_text.1.trans (plainTree.text_union isUnion)
  have again : Text.key (Text.key union.text) = Text.key union.text := by
    rw [plainTree.key_text.1, plainTree.key_text.1]
  rw [ownKey] at again
  rw [ownKey, typed_variants_join plain]
  refine forall_congr' (fun word => ?_)
  rw [List.mem_eraseDups]
  refine imp_congr_right (fun ofUnion => Text.word_listed_iff ?_)
  rw [again, Text.mem_keyWords (again ▸ Text.solid_key _), plain.pieces]
  exact ⟨ofUnion, (plain.plain word ofUnion).filled⟩

/-- The word for a union is the one that is stored under its key, or a new one with the spellings that
are asked for. -/
theorem import_word_variants {expand : Bool} {union : Expr} {before after : Workspace}
    {word : WordEntity} (run : runOn (importWord expand union) before = (.ok word, after)) :
    before.catalogue.wordOfKey? (Text.key union.text) = some word ∨
      before.catalogue.wordOfKey? (Text.key union.text) = none ∧
        word.variants = if expand then Text.variants (Text.key union.text)
          else typedVariants (Text.key union.text) := by
  unfold importWord at run
  cases word_run _ _ before _ run with
  | found filled stored => exact .inl stored
  | new filled absent room tokens free tokenFilled same =>
    refine .inr ⟨absent, ?_⟩
    rw [same]
    rfl

/-- The operands of a tree of plain words are such trees. -/
theorem imported_operands_plain {expr operand : Expr} (plainTree : IsPlainTree expr)
    (inside : operand ∈ Catalogue.importedOperands expr) : IsPlainTree operand := by
  cases plainTree with
  | word plain => exact List.mem_singleton.mp inside ▸ .word plain
  | reference isNamed => exact isNamed.elim
  | logical connective operands => exact List.mem_singleton.mp inside ▸ .logical connective operands
  | proximity distance ofLeft ofRight =>
    simp only [Catalogue.importedOperands, List.mem_cons, List.not_mem_nil, or_false] at inside
    rcases inside with rfl | rfl
    · exact ofLeft
    · exact ofRight
  | simultaneous count ofFirst ofSecond ofThird =>
    simp only [Catalogue.importedOperands, List.mem_cons, List.not_mem_nil, or_false] at inside
    rcases inside with rfl | rfl | rfl
    · exact ofFirst
    · exact ofSecond
    · exact ofThird

/-- A new word for a union is widened exactly if the Latin words of the union are regular. A word that is
stored is the same with all spellings and without them. -/
theorem widened_iff {union : Expr} (plainTree : IsPlainTree union) (isUnion : union.isPlainUnion = true)
    {before after other : Workspace} {widened typed : WordEntity}
    (widens : runOn (importWord true union) before = (.ok widened, after))
    (types : runOn (importWord false union) before = (.ok typed, other)) :
    (∀ spelling ∈ typed.variants, spelling ∈ widened.variants) ↔
      before.catalogue.wordOfKey? (Text.key union.text) ≠ none ∨
        ∀ word ∈ union.words, Text.isLatinOnly word = true → Text.IsRegular word := by
  rcases import_word_variants widens with found | ⟨absent, widenedVariants⟩
  · rcases import_word_variants types with again | ⟨absent, -⟩
    · obtain rfl := Option.some.inj (found.symm.trans again)
      exact iff_of_true (fun _ inside => inside) (.inl (by simp [found]))
    · rw [found] at absent
      cases absent
  · rcases import_word_variants types with found | ⟨-, typedAgain⟩
    · rw [absent] at found
      cases found
    · rw [widenedVariants, typedAgain, absent]
      simpa using typed_among_variants_iff plainTree isUnion

/-- What is typed is lost from the spellings of a text only where a Latin word is not regular. A word of a
key that is no Latin word is kept. For a Latin word its six spellings are listed, and the word itself
exactly if it is regular. So an import with all spellings has all those of an import without them for a
union in a query exactly if a word is stored for the union already or its Latin words are regular. -/
theorem widens_regular_words :
    (∀ text word, word ∈ Text.pieces '+' (Text.key text) → word ≠ [] →
      (word ∈ Text.variants text ↔ (Text.isLatinOnly word = true → Text.IsRegular word)) ∧
        (Text.isLatinOnly word = true →
          ∀ spelling ∈ Text.latinVariants word, spelling ∈ Text.variants text)) ∧
      ∀ query factors expr union, Query.parse query = .ok factors → .words expr ∈ factors →
        union ∈ Catalogue.importedOperands expr → union.isPlainUnion = true →
        ∀ before after other widened typed,
          runOn (importWord true union) before = (.ok widened, after) →
          runOn (importWord false union) before = (.ok typed, other) →
          ((∀ spelling ∈ typed.variants, spelling ∈ widened.variants) ↔
            before.catalogue.wordOfKey? (Text.key union.text) ≠ none ∨
              ∀ word ∈ union.words, Text.isLatinOnly word = true → Text.IsRegular word) := by
  constructor
  · intro text word piece filled
    have ofKey := (Text.mem_keyWords (Text.solid_key text)).mpr ⟨piece, filled⟩
    refine ⟨Text.word_listed_iff ofKey, ?_⟩
    intro latinOnly spelling isSpelling
    exact Text.mem_variants.mpr (.inl ⟨word, ofKey, latinOnly, isSpelling⟩)
  · intro query factors expr union accepted inside operand isUnion before after other widened typed
      widens types
    cases Query.plain_factors accepted _ inside with
    | words plainTree =>
      exact widened_iff (imported_operands_plain plainTree operand) isUnion widens types

/-- A word in mixed case is not among its spellings. -/
theorem mixed_case_word_lost :
    ¬ ∀ text word, word ∈ Text.pieces '+' (Text.key text) → word ≠ [] → word ∈ Text.variants text := by
  intro kept
  have listed := kept ['e', 'N', 'B'] ['e', 'N', 'B'] (by decide +kernel) (by decide)
  rw [Text.mem_variants] at listed
  exact absurd listed (by decide +kernel)

/-- A union of a word in mixed case and a word in capitals. -/
def mixedUnion : Expr := .logical .or (.word ['e', 'N', 'B']) [.word ['L', 'T', 'E']]

/-- The query of the union. -/
def mixedQuery : Text := ['e', 'N', 'B', '+', 'L', 'T', 'E']

/-- A workspace without entities. -/
def beforeMixed : Workspace := ⟨Catalogue.empty 5, TokenSource.standard (congruential 1)⟩

/-- An import of the query into an empty workspace does not widen the union: the word in capitals is kept,
but the one in mixed case is replaced. -/
theorem mixed_union_not_widened :
    Query.parse mixedQuery = .ok [.words mixedUnion] ∧
      ['L', 'T', 'E'] ∈ Text.variants mixedQuery ∧
      ∃ after other widened typed,
        runOn (importWord true mixedUnion) beforeMixed = (.ok widened, after) ∧
        runOn (importWord false mixedUnion) beforeMixed = (.ok typed, other) ∧
        ¬ ∀ spelling ∈ typed.variants, spelling ∈ widened.variants := by
  have accepted : Query.parse mixedQuery = .ok [.words mixedUnion] := by decide +kernel
  obtain ⟨ofWords, ofImports⟩ := widens_regular_words
  have capitals : ['L', 'T', 'E'] ∈ Text.variants mixedQuery := by
    refine (ofWords mixedQuery ['L', 'T', 'E'] (by decide +kernel) (by decide)).1.mpr ?_
    exact fun _ => ⟨.inl (List.all_eq_true.mp rfl), .capitals (List.all_eq_true.mp rfl)⟩
  have irregular : ¬ Text.IsRegular ['e', 'N', 'B'] := by
    rintro ⟨-, small | capitals | ⟨capital, -⟩⟩
    · exact absurd (small 'N' (by decide)) (by decide)
    · exact absurd (capitals 'e' (by decide)) (by decide)
    · exact absurd capital (by decide)
  have succeeds : ∀ expand, (runOn (importWord expand mixedUnion) beforeMixed).1.toOption.isSome := by
    decide +kernel
  have widens := succeeds true
  have types := succeeds false
  rcases ofWidened : runOn (importWord true mixedUnion) beforeMixed with ⟨_ | widened, after⟩
  · rw [ofWidened] at widens
    cases widens
  rcases ofTyped : runOn (importWord false mixedUnion) beforeMixed with ⟨_ | typed, other⟩
  · rw [ofTyped] at types
    cases types
  refine ⟨accepted, capitals, after, other, widened, typed, rfl, rfl, ?_⟩
  rw [ofImports mixedQuery _ mixedUnion mixedUnion accepted List.mem_cons_self List.mem_cons_self
    (by decide) beforeMixed after other widened typed ofWidened ofTyped]
  rintro (stored | regular)
  · exact stored rfl
  · exact irregular (regular ['e', 'N', 'B'] (by decide) (by decide))

end Import

end PriorArt
