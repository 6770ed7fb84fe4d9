import PriorArt.Proofs.Spelling.Keys
import PriorArt.Proofs.Text.Lists

/-!
# Spellings of spellings

The spellings of the words of a key are each of the length of its word, so those of one length come from
the words of that length. They are put together with the Latin words first, each once, in the order in
which they come first. When they are taken for words themselves, the Latin ones among them give the same
spellings in the same order, and the others stay. So nothing changes for any length, and the spellings
of a text that is joined from spellings are the same again.
-/

namespace PriorArt.Text

/-- The words that are not of Latin letters alone. -/
def otherWords (words : List Text) : List Text := words.filter (fun word => !isLatinOnly word)

/-- The six spellings of each of the words of Latin letters alone. -/
def latinSpellings (words : List Text) : List Text :=
  (words.filter isLatinOnly).flatMap latinVariants

/-- The spellings of words, each once, with the longest first. -/
def spellings (words : List Text) : List Text :=
  longestFirst (latinSpellings words ++ otherWords words).eraseDups

/-- Words that have characters, none of them blank. -/
def AreWords (words : List Text) : Prop := ∀ word ∈ words, word ≠ [] ∧ IsSolid word

/-- The words of a key have characters, none of them blank. -/
theorem areWords_keyWords (text : Text) : AreWords (keyWords (key text)) := by
  intro word listed
  exact ⟨((mem_keyWords (solid_key text)).mp listed).2, (solid_key text).within (infix_of_word listed)⟩

/-- A word of Latin letters has the same six spellings as each of these, which are words of Latin
letters of its length with its small form. -/
theorem spelling_of_word {word spelling : Text} (isWord : word ≠ [] ∧ IsSolid word)
    (latinOnly : isLatinOnly word = true) (listed : spelling ∈ latinVariants word) :
    isLatinOnly spelling = true ∧ spelling.length = word.length ∧
      smallForm spelling = smallForm word ∧ latinVariants spelling = latinVariants word := by
  have latin := ((latin_only_iff isWord.2).mp latinOnly).2
  obtain ⟨latinSpelling, small, length⟩ := spelling_facts latin listed
  refine ⟨(latin_only_iff latinSpelling.solid).mpr ⟨?_, latinSpelling⟩, length, small,
    spellings_of_spelling latin listed⟩
  rintro rfl
  exact isWord.1 (List.length_eq_zero_iff.mp length.symm)

/-- The other words of one length are not of Latin letters alone. -/
theorem other_of_ofLength {words : List Text} {length : Nat} {word : Text}
    (listed : word ∈ (ofLength length (otherWords words)).eraseDups) : isLatinOnly word = false := by
  have ofWords := (List.mem_filter.mp (List.mem_eraseDups.mp listed)).1
  simpa using (List.mem_filter.mp ofWords).2

section Words

variable {words : List Text} (areWords : AreWords words)
include areWords

/-- Spellings of Latin words are of Latin letters alone. -/
theorem latin_of_latinSpellings {spelling : Text} (listed : spelling ∈ latinSpellings words) :
    isLatinOnly spelling = true := by
  obtain ⟨word, inside, isSpelling⟩ := List.mem_flatMap.mp listed
  obtain ⟨inWords, latinOnly⟩ := List.mem_filter.mp inside
  exact (spelling_of_word (areWords word inWords) latinOnly isSpelling).1

/-- The spellings of one length are those of the Latin words of that length. -/
theorem ofLength_latinSpellings (length : Nat) :
    ofLength length (latinSpellings words) = latinSpellings (ofLength length words) := by
  induction words with
  | nil => rfl
  | cons word rest inductionHypothesis =>
    obtain ⟨isWord, areRest⟩ := List.forall_mem_cons.mp areWords
    have later := inductionHypothesis areRest
    unfold ofLength latinSpellings at later ⊢
    cases latinOnly : isLatinOnly word with
    | false =>
      rw [List.filter_cons_of_neg (by simp [latinOnly]), later]
      by_cases same : word.length = length <;> simp [same, latinOnly]
    | true =>
      have lengths : ∀ spelling ∈ latinVariants word, spelling.length = word.length :=
        fun spelling listed => (spelling_of_word isWord latinOnly listed).2.1
      rw [List.filter_cons_of_pos latinOnly, List.flatMap_cons, List.filter_append, later]
      by_cases same : word.length = length
      · have all : (latinVariants word).filter (fun text => text.length = length) =
            latinVariants word :=
          List.filter_eq_self.mpr (fun spelling listed => by simp [lengths spelling listed, same])
        rw [all, List.filter_cons_of_pos (by simp [same]), List.filter_cons_of_pos latinOnly,
          List.flatMap_cons]
      · have none : (latinVariants word).filter (fun text => text.length = length) = [] :=
          List.filter_eq_nil_iff.mpr
            (fun spelling listed => by simp [lengths spelling listed, same])
        rw [none, List.filter_cons_of_neg (by simp [same]), List.nil_append]

/-- The spellings of one length are those of the Latin words, each once, and behind them the other
words, each once. -/
theorem ofLength_spellings (length : Nat) : ofLength length (spellings words) =
    (ofLength length (latinSpellings words)).eraseDups ++
      (ofLength length (otherWords words)).eraseDups := by
  have apart : ∀ word ∈ otherWords words, word ∉ latinSpellings words := by
    intro word listed spelled
    have other := (List.mem_filter.mp listed).2
    rw [latin_of_latinSpellings areWords spelled] at other
    cases other
  rw [spellings, ofLength_longestFirst, eraseDups_append_apart apart]
  simp only [ofLength, List.filter_append, eraseDups_filter]

/-- Spellings have characters, none of them blank. -/
theorem areWords_spellings : AreWords (spellings words) := by
  intro spelling listed
  rw [spellings, longestFirst, List.mem_mergeSort, List.mem_eraseDups, List.mem_append] at listed
  rcases listed with ofLatin | ofOthers
  · obtain ⟨word, inside, isSpelling⟩ := List.mem_flatMap.mp ofLatin
    obtain ⟨inWords, latinOnly⟩ := List.mem_filter.mp inside
    have isWord := areWords word inWords
    obtain ⟨-, length, -⟩ := spelling_of_word isWord latinOnly isSpelling
    have latin := ((latin_only_iff isWord.2).mp latinOnly).2
    refine ⟨?_, (spelling_facts latin isSpelling).1.solid⟩
    rintro rfl
    exact isWord.1 (List.length_eq_zero_iff.mp length.symm)
  · exact areWords spelling (List.mem_filter.mp ofOthers).1

/-- The spellings of Latin words of one length are of Latin letters alone. -/
theorem latin_of_ofLength {length : Nat} {spelling : Text}
    (listed : spelling ∈ (ofLength length (latinSpellings words)).eraseDups) :
    isLatinOnly spelling = true :=
  latin_of_latinSpellings areWords (List.mem_filter.mp (List.mem_eraseDups.mp listed)).1

/-- Among the spellings of one length those of Latin words are of Latin letters alone. -/
theorem latin_ofLength_spellings (length : Nat) :
    (ofLength length (spellings words)).filter isLatinOnly =
      (ofLength length (latinSpellings words)).eraseDups := by
  have others : ((ofLength length (otherWords words)).eraseDups).filter isLatinOnly = [] :=
    List.filter_eq_nil_iff.mpr (fun word listed => by simp [other_of_ofLength listed])
  rw [ofLength_spellings areWords, List.filter_append, others, List.append_nil]
  exact List.filter_eq_self.mpr (fun word listed => latin_of_ofLength areWords listed)

/-- Among the spellings of one length the other words are those that are not of Latin letters alone. -/
theorem other_ofLength_spellings (length : Nat) :
    otherWords (ofLength length (spellings words)) =
      (ofLength length (otherWords words)).eraseDups := by
  have latin : otherWords ((ofLength length (latinSpellings words)).eraseDups) = [] :=
    List.filter_eq_nil_iff.mpr (fun word listed => by simp [latin_of_ofLength areWords listed])
  unfold otherWords at latin ⊢
  rw [ofLength_spellings areWords, List.filter_append, latin, List.nil_append]
  exact List.filter_eq_self.mpr (fun word listed => by simp [other_of_ofLength listed])

/-- The spellings of spellings of Latin words are the spellings of the words, each once. -/
theorem spelled_again (length : Nat) :
    ((ofLength length (latinSpellings words)).eraseDups.flatMap latinVariants).eraseDups =
      (ofLength length (latinSpellings words)).eraseDups := by
  rw [eraseDups_flatMap_distinct, ofLength_latinSpellings areWords, latinSpellings,
    List.flatMap_assoc]
  refine eraseDups_flatMap_congr (fun word listed => ?_)
  obtain ⟨ofWords, latinOnly⟩ := List.mem_filter.mp listed
  have isWord := areWords word (List.mem_filter.mp ofWords).1
  refine eraseDups_flatMap_same (List.cons_ne_nil _ _) (fun spelling isSpelling => ?_)
  exact (spelling_of_word isWord latinOnly isSpelling).2.2.2

/-- The spellings of words are their own spellings. -/
theorem spellings_spellings : spellings (spellings words) = spellings words := by
  have areSpellings := areWords_spellings areWords
  refine (sorted_longestFirst _).ext (sorted_longestFirst _) (fun length => ?_)
  have latin : (ofLength length (latinSpellings (spellings words))).eraseDups =
      (ofLength length (latinSpellings words)).eraseDups := by
    rw [ofLength_latinSpellings areSpellings, latinSpellings, latin_ofLength_spellings areWords,
      spelled_again areWords]
  have other : (ofLength length (otherWords (spellings words))).eraseDups =
      (ofLength length (otherWords words)).eraseDups := by
    have commute : ofLength length (otherWords (spellings words)) =
        otherWords (ofLength length (spellings words)) := List.filter_comm ..
    rw [commute, other_ofLength_spellings areWords, eraseDups_eraseDups]
  change ofLength length (spellings (spellings words)) = ofLength length (spellings words)
  rw [ofLength_spellings areSpellings, ofLength_spellings areWords, latin, other]

end Words

/-- A text that can be a word of a key without brackets: its characters are visible, folded, and neither
plus signs nor brackets, and its suffixes are in capitals. -/
structure CanBeWord (word : Text) : Prop where
  filled : word ≠ []
  solid : IsSolid word
  noPlus : '+' ∉ word
  folded : IsFolded word
  capitals : HasCapitalSuffixes word
  unbracketed : Brackets.IsUnbracketed word

/-- Latin letters can be a word. -/
theorem IsLatin.can_be_word {word : Text} (latin : IsLatin word) (filled : word ≠ []) :
    CanBeWord word where
  filled := filled
  solid := latin.solid
  noPlus := fun inside => (latin '+' inside).plain.noPlus rfl
  folded := fun character inside => (latin character inside).plain.folded
  capitals := latin.capital
  unbracketed := fun character inside =>
    ⟨(latin character inside).plain.noOpener, (latin character inside).plain.noCloser⟩

section Joined

variable {words : List Text} (each : ∀ word ∈ words, CanBeWord word)
include each

/-- Words that are joined are the words of the joined text. -/
theorem keyWords_join : keyWords (join '+' words) = words := by
  cases words with
  | nil => rfl
  | cons first others =>
    have cut : pieces '+' (join '+' (first :: others)) = first :: others :=
      List.splitOn_intercalate '+' (fun word listed => (each word listed).noPlus)
        (List.cons_ne_nil _ _)
    have trimmed : (first :: others).map trim = first :: others :=
      (List.map_congr_left (fun word listed => trim_solid (each word listed).solid)).trans
        (List.map_id _)
    rw [keyWords, cut, trimmed]
    exact List.filter_eq_self.mpr (fun word listed => by simp [(each word listed).filled])

/-- Words that are joined are their own key. -/
theorem key_join : key (join '+' words) = join '+' words := by
  have chars : ∀ {property : Char → Prop}, property '+' →
      (∀ word ∈ words, ∀ character ∈ word, property character) →
      ∀ character ∈ join '+' words, property character := by
    intro property ofPlus ofWords character inside
    rcases mem_join inside with rfl | ⟨word, listed, ofWord⟩
    · exact ofPlus
    · exact ofWords word listed character ofWord
  have folded : IsFolded (join '+' words) := chars rfl (fun word listed => (each word listed).folded)
  have solid : IsSolid (join '+' words) := chars (by decide) (fun word listed => (each word listed).solid)
  have unbracketed : Brackets.IsUnbracketed (join '+' words) :=
    chars (by decide) (fun word listed => (each word listed).unbracketed)
  have capitals := capital_join (fun word listed => (each word listed).capitals)
  have normal : normalized (join '+' words) = join '+' words :=
    normal_iff.mpr ⟨folded, (canonicalSuffixes_eq_iff _).mpr capitals⟩
  rw [key, normal, withoutBlanks_solid solid, Brackets.strip_bare solid unbracketed.bare]

end Joined

/-- Spellings of a text without brackets and torn suffixes can be words of a key. -/
theorem can_be_word_of_variant {text word : Text} (unbracketed : Brackets.IsUnbracketed (key text))
    (canonical : key (key text) = key text) (listed : word ∈ variants text) : CanBeWord word := by
  have areWords := areWords_keyWords text
  rcases mem_variants.mp listed with ⟨latin, ofKey, latinOnly, isSpelling⟩ | ⟨ofKey, -⟩
  · obtain ⟨spellingLatin, -⟩ := spelling_of_word (areWords latin ofKey) latinOnly isSpelling
    obtain ⟨isLatin, -, length⟩ := spelling_facts (latin_of_word ofKey latinOnly) isSpelling
    refine isLatin.can_be_word ?_
    rintro rfl
    cases spellingLatin
  · obtain ⟨filled, solid⟩ := areWords word ofKey
    have occurs := infix_of_word ofKey
    have capitals : HasCapitalSuffixes (key text) := by
      rwa [key_key, canonicalSuffixes_eq_iff] at canonical
    exact {
      filled, solid
      noPlus := separator_not_in_piece ((mem_keyWords (solid_key text)).mp ofKey).1
      folded := fun character inside => folded_key text character (occurs.subset inside)
      capitals := capitals.within occurs
      unbracketed := fun character inside => unbracketed character (occurs.subset inside) }

/-- A word of Latin letters alone in its small form, and another word as it is. -/
def caseFolded (word : Text) : Text := if isLatinOnly word then smallForm word else word

/-- The spellings of a text are its words, in any case and width of the Latin ones. -/
theorem mem_caseFolded_variants (text word : Text) :
    word ∈ (variants text).map caseFolded ↔ word ∈ (keyWords (key text)).map caseFolded := by
  have areWords := areWords_keyWords text
  simp only [List.mem_map]
  constructor
  · rintro ⟨spelling, listed, rfl⟩
    rcases mem_variants.mp listed with ⟨latin, ofKey, latinOnly, isSpelling⟩ | ⟨ofKey, -⟩
    · obtain ⟨spellingLatin, -, small, -⟩ :=
        spelling_of_word (areWords latin ofKey) latinOnly isSpelling
      exact ⟨latin, ofKey, by rw [caseFolded, caseFolded, if_pos latinOnly, if_pos spellingLatin, small]⟩
    · exact ⟨spelling, ofKey, rfl⟩
  · rintro ⟨known, ofKey, rfl⟩
    cases latinOnly : isLatinOnly known with
    | false => exact ⟨known, mem_variants.mpr (.inr ⟨ofKey, latinOnly⟩), rfl⟩
    | true =>
      have isSpelling : smallForm known ∈ latinVariants known := by
        simp [latinVariants, smallForm]
      obtain ⟨spellingLatin, -, small, -⟩ :=
        spelling_of_word (areWords known ofKey) latinOnly isSpelling
      refine ⟨smallForm known, mem_variants.mpr (.inl ⟨known, ofKey, latinOnly, isSpelling⟩), ?_⟩
      rw [caseFolded, caseFolded, if_pos latinOnly, if_pos spellingLatin, small]

/-- The spellings of a text whose key has no brackets and is its own key are stable. Each stands there
once and the longest first; among those of one length the ones of Latin words come first, and either
kind in the order of first appearance. Apart from case and width of Latin words they are the words of the
key, and a text joined from them has the same spellings in the same order. -/
theorem variants_stable (text : Text) (unbracketed : Brackets.IsUnbracketed (key text))
    (canonical : key (key text) = key text) :
    (variants text).Nodup ∧ IsLongestFirst (variants text) ∧
      (∀ length, ofLength length (variants text) =
        (ofLength length (latinSpellings (keyWords (key text)))).eraseDups ++
          (ofLength length (otherWords (keyWords (key text)))).eraseDups) ∧
      (∀ word, word ∈ (variants text).map caseFolded ↔
        word ∈ (keyWords (key text)).map caseFolded) ∧
      variants (join '+' (variants text)) = variants text := by
  have areWords := areWords_keyWords text
  have ofWords : variants text = spellings (keyWords (key text)) := rfl
  have canBeWords : ∀ word ∈ variants text, CanBeWord word :=
    fun word listed => can_be_word_of_variant unbracketed canonical listed
  refine ⟨?_, ofWords ▸ sorted_longestFirst _, fun length => ofWords ▸ ofLength_spellings areWords length,
    mem_caseFolded_variants text, ?_⟩
  · exact (List.mergeSort_perm _ _).nodup_iff.mpr (nodup_eraseDups _)
  · have again : variants (join '+' (variants text)) = spellings (variants text) := by
      change spellings (keyWords (key (join '+' (variants text)))) = _
      rw [key_join canBeWords, keyWords_join canBeWords]
    rw [again, ofWords, spellings_spellings areWords]

/-- A word of Latin letters in two cases, one with a digit, and one of a single letter. -/
theorem variants_of_mixed_words :
    variants (join '+' (variants ['a', 'b', '+', 'u', '1', '+', 'A', 'B', '+', 'c'])) =
        variants ['a', 'b', '+', 'u', '1', '+', 'A', 'B', '+', 'c'] ∧
      ofLength 2 (variants ['a', 'b', '+', 'u', '1', '+', 'A', 'B', '+', 'c']) =
        latinVariants ['a', 'b'] ++ [['u', '1']] := by
  obtain ⟨-, -, ordered, -, again⟩ :=
    variants_stable ['a', 'b', '+', 'u', '1', '+', 'A', 'B', '+', 'c'] (by decide +kernel)
      (by decide +kernel)
  refine ⟨again, (ordered 2).trans ?_⟩
  decide +kernel

end PriorArt.Text
