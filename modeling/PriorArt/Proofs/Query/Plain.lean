import PriorArt.Proofs.Spelling.Normal
import PriorArt.Proofs.Text.Solid
import PriorArt.Query.Phrase

/-!
# Plain words

A plain word is read as one term of a query and is in normal form. It is read as a term in every
place where terms are written: in front of a closing mark, of a field suffix with such a mark
behind it, and at the end of the query.
-/

namespace PriorArt

namespace Phrase

/-- A text ends, or goes on with one of the given marks. -/
def StopsAt (marks : List Char) (text : Text) : Prop := ∀ first ∈ text.head?, first ∈ marks

/-- The marks that can stand behind an atom with its field. -/
def closingMarks : List Char := ['+', '*', ',', ')', ']', '}']

/-- What can stand behind an atom that has no field yet: what stands behind an atom, or a field
and then what stands behind an atom. -/
inductive EndsOpen : Text → Prop where
  | stop {text : Text} (stops : StopsAt closingMarks text) : EndsOpen text
  | field (field : Field) {text : Text} (stops : StopsAt closingMarks text) :
      EndsOpen (field.suffix.toList ++ text)

/-- A text stops at more marks if it stops at some of them. -/
theorem StopsAt.mono {marks more : List Char} {text : Text} (stops : StopsAt marks text)
    (listed : marks ⊆ more) : StopsAt more text :=
  fun first inside => listed (stops first inside)

/-- A text with a listed mark in front stops there. -/
theorem stops_at_cons {marks : List Char} {mark : Char} (listed : mark ∈ marks) (rest : Text) :
    StopsAt marks (mark :: rest) := by
  intro first inside
  rwa [← Option.some.inj inside]

/-- A text that stops is empty, or has one of the marks in front. -/
theorem StopsAt.cases {marks : List Char} {text : Text} (stops : StopsAt marks text) :
    text = [] ∨ ∃ mark rest, text = mark :: rest ∧ mark ∈ marks := by
  cases text with
  | nil => exact .inl rfl
  | cons mark rest => exact .inr ⟨mark, rest, rfl, stops mark rfl⟩

/-- A closing mark is no gap, no character of a term and no slash. -/
theorem closing_mark_facts {mark : Char} (closing : mark ∈ closingMarks) :
    isGap mark = false ∧ isTermChar mark = false ∧ mark ≠ '/' := by
  revert closing
  simp only [closingMarks, List.mem_cons, List.not_mem_nil, or_false]
  rintro (rfl | rfl | rfl | rfl | rfl | rfl) <;> decide

/-- The two letters of a field belong to terms, and name the field. -/
theorem suffix_letters (field : Field) : ∃ first second,
    field.suffix.toList = ['/', first, second] ∧ isTermChar first = true ∧
      isTermChar second = true ∧ Field.ofLetters? [first, second] = some field := by
  cases field with
  | text => exact ⟨'T', 'X', rfl, rfl, rfl, rfl⟩
  | primaryClass => exact ⟨'C', 'P', rfl, rfl, rfl, rfl⟩
  | furtherClass => exact ⟨'F', 'I', rfl, rfl, rfl, rfl⟩

/-- No term goes on where a text stops at closing marks. -/
theorem StopsAt.no_term_char {text : Text} (stops : StopsAt closingMarks text) :
    ∀ first ∈ text.head?, isTermChar first = false :=
  fun first inside => (closing_mark_facts (stops first inside)).2.1

/-- No gap stands where a text stops at closing marks. -/
theorem StopsAt.skipGap {text : Text} (stops : StopsAt closingMarks text) :
    skipGap text = text := by
  rcases stops.cases with rfl | ⟨mark, rest, rfl, closing⟩
  · rfl
  · simp [Phrase.skipGap, (closing_mark_facts closing).1]

/-- What ends an atom begins with a closing mark or a slash, if with anything. -/
theorem EndsOpen.head {text : Text} (ends : EndsOpen text) :
    ∀ first ∈ text.head?, isGap first = false ∧ isTermChar first = false := by
  cases ends with
  | stop stops =>
    intro first inside
    obtain ⟨noGap, noTerm, _⟩ := closing_mark_facts (stops first inside)
    exact ⟨noGap, noTerm⟩
  | field field stops =>
    obtain ⟨one, two, suffix, _⟩ := suffix_letters field
    intro first inside
    have slash : first = '/' := by simpa [suffix] using inside.symm
    rw [slash]
    decide

/-- No gap stands behind an atom. -/
theorem EndsOpen.skipGap {text : Text} (ends : EndsOpen text) : skipGap text = text := by
  cases text with
  | nil => rfl
  | cons first rest => simp [Phrase.skipGap, (ends.head first rfl).1]

/-- No piece of a term stands behind an atom. -/
theorem EndsOpen.termTail {text : Text} (ends : EndsOpen text) (pieces : Nat) :
    termTail pieces text = ([], text) := by
  cases pieces with
  | zero => rfl
  | succ pieces =>
    cases ends with
    | stop stops =>
      rcases stops.cases with rfl | ⟨mark, rest, rfl, closing⟩
      · rfl
      · have noSlash := (closing_mark_facts closing).2.2
        rw [Phrase.termTail]
        simpa using noSlash
    | @field field rest stops =>
      obtain ⟨first, second, suffix, termFirst, termSecond, names⟩ := suffix_letters field
      have run : (first :: second :: rest).takeWhile isTermChar = [first, second] := by
        have whole := Text.takeWhile_append_stop [first, second] stops.no_term_char
        simpa [termFirst, termSecond] using whole
      rw [suffix]
      simp [Phrase.termTail, run, names]

/-- The pieces of a whole term are the same pieces in front of what ends an atom. The induction
follows the pieces, of which the longer text allows at least as many. -/
theorem termTail_append {pieces : Nat} {text tail : Text}
    (whole : termTail pieces text = (tail, [])) {more : Nat} (enough : pieces ≤ more)
    {rest : Text} (ends : EndsOpen rest) : termTail more (text ++ rest) = (tail, rest) := by
  have noTerm : ∀ first ∈ rest.head?, isTermChar first = false :=
    fun first inside => (ends.head first inside).2
  fun_induction termTail pieces text generalizing tail more with
  | case1 text =>
    obtain ⟨rfl, rfl⟩ := Prod.mk.inj whole
    exact ends.termTail more
  | case2 pieces behind run =>
    cases (Prod.mk.inj whole).2
  | case3 pieces behind run goesOn later left split =>
    rename_i inductionHypothesis
    obtain ⟨rfl, rfl⟩ := Prod.mk.inj whole
    obtain ⟨more, rfl⟩ : ∃ fewer, more = fewer + 1 := ⟨more - 1, by omega⟩
    have continued := inductionHypothesis split (Nat.le_of_succ_le_succ enough)
    have sameRun : (behind ++ rest).takeWhile isTermChar = run :=
      Text.takeWhile_append_stop behind noTerm
    rw [List.cons_append, termTail, sameRun, Text.dropWhile_append_stop behind noTerm,
      continued]
    exact if_neg goesOn
  | case4 pieces text different =>
    obtain ⟨rfl, rfl⟩ := Prod.mk.inj whole
    exact ends.termTail more

/-- A term that is a whole text is read in front of what ends an atom. -/
theorem term_append {word : Text} (whole : term? word = some (word, [])) {rest : Text}
    (ends : EndsOpen rest) : term? (word ++ rest) = some (word, rest) := by
  have noTerm : ∀ first ∈ rest.head?, isTermChar first = false :=
    fun first inside => (ends.head first inside).2
  unfold term? at whole ⊢
  rw [Text.takeWhile_append_stop word noTerm, Text.dropWhile_append_stop word noTerm]
  split at whole
  · cases whole
  · next run someRun =>
    obtain ⟨sameWord, none⟩ := Prod.mk.inj (Option.some.inj whole)
    have tail : termTail word.length (word.dropWhile isTermChar) =
        ((termTail word.length (word.dropWhile isTermChar)).1, []) := by rw [← none]
    have continued := termTail_append tail (by simp : word.length ≤ (word ++ rest).length) ends
    rw [continued]
    simp only [sameWord]

/-- The characters of the pieces of a term. -/
theorem termTail_chars (pieces : Nat) (text : Text) :
    ∀ character ∈ (termTail pieces text).1, isTermChar character = true ∨ character = '/' := by
  fun_induction termTail pieces text with
  | case1 text => simp
  | case2 pieces behind run => simp
  | case3 pieces behind run goesOn later left split =>
    rename_i inductionHypothesis
    rw [split] at inductionHypothesis
    intro character inside
    have parts : character = '/' ∨ character ∈ run ∨ character ∈ later := by simpa using inside
    rcases parts with slash | ofRun | ofTail
    · exact .inr slash
    · exact .inl (List.all_eq_true.mp List.all_takeWhile character ofRun)
    · exact inductionHypothesis character ofTail
  | case4 pieces text different => simp

/-- A term consists of characters of terms and slashes, and begins with none of the latter. -/
theorem term_chars {text word rest : Text} (read : term? text = some (word, rest)) :
    (∃ first others, word = first :: others ∧ isTermChar first = true) ∧
      ∀ character ∈ word, isTermChar character = true ∨ character = '/' := by
  unfold term? at read
  split at read
  · cases read
  · next run someRun =>
    obtain ⟨sameWord, _⟩ := Prod.mk.inj (Option.some.inj read)
    have runChars : ∀ character ∈ text.takeWhile isTermChar, isTermChar character = true :=
      fun character inside => List.all_eq_true.mp List.all_takeWhile character inside
    rw [← sameWord]
    constructor
    · cases run : text.takeWhile isTermChar with
      | nil => exact absurd run someRun
      | cons first others => exact ⟨first, _, rfl, runChars first (by simp [run])⟩
    · intro character inside
      rcases List.mem_append.mp inside with ofRun | ofTail
      · exact .inl (runChars character ofRun)
      · exact termTail_chars _ _ character ofTail

end Phrase

/-- A word that the query grammar reads as one term and that is in normal form. -/
structure IsPlain (word : Text) : Prop where
  term : Phrase.term? word = some (word, [])
  normal : Text.IsNormal word

instance : DecidablePred IsPlain := fun word =>
  decidable_of_iff (Phrase.term? word = some (word, []) ∧ Text.IsNormal word)
    ⟨fun both => ⟨both.1, both.2⟩, fun plain => ⟨plain.term, plain.normal⟩⟩

end PriorArt
