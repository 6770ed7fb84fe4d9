import PriorArt.Proofs.Query.Terminals
import PriorArt.Proofs.Statement.Grammar
import PriorArt.Proofs.Token.Blanks
import PriorArt.Proofs.Workspace.TokenSpace

/-!
# Tokens that can be written

A line names an entity by its token, which has to be one identifier of the line. The usual stock has
letters and digits only, so a drawn token is a run of the line as a whole. A run is an identifier
unless it is written like a distance, and a run of two or more characters from the stock may be.
Such a token is drawn like any other, but no line can name its entity.
-/

namespace PriorArt

/-- A text that is written like a distance: digits, and the letter of a unit behind them. -/
def IsWrittenDistance (text : Text) : Prop :=
  ∃ digits letter, text = digits ++ [letter] ∧ digits ≠ [] ∧
    (∀ digit ∈ digits, digit.isDigit = true) ∧ letter ∈ ['n', 'N', 'c', 'C']

/-- The letters of the units. -/
theorem DistanceUnit.of_letter_iff {letter : Char} :
    (∃ unit, ofLetter? letter = some unit) ↔ letter ∈ ['n', 'N', 'c', 'C'] := by
  constructor
  · rintro ⟨unit, names⟩
    unfold ofLetter? at names
    split at names
    · decide
    · decide
    · decide
    · decide
    · cases names
  · intro inside
    simp only [List.mem_cons, List.not_mem_nil, or_false] at inside
    rcases inside with rfl | rfl | rfl | rfl <;> exact ⟨_, rfl⟩

namespace Token

/-- A run is read as an identifier or as a distance. -/
theorem of_run_cases (run : Text) :
    ofRun run = .identifier run ∨
      ∃ digits unit capital, ofRun run = .distance digits unit capital := by
  unfold ofRun
  split
  · split
    · exact .inr ⟨_, _, _, rfl⟩
    · exact .inl rfl
  · exact .inl rfl

/-- A run is read as a distance exactly if it is written like one. -/
theorem of_run_distance_iff {run : Text} :
    (∃ digits unit capital, ofRun run = .distance digits unit capital) ↔ IsWrittenDistance run := by
  constructor
  · rintro ⟨digits, unit, capital, read⟩
    obtain ⟨taken, some_digit⟩ := of_run_distance read
    have areDigits : ∀ digit ∈ digits, digit.isDigit = true := by
      rw [taken]
      exact List.all_eq_true.mp List.all_takeWhile
    have whole := text_of_run run
    rw [read] at whole
    refine ⟨digits, _, whole.symm, some_digit, areDigits, ?_⟩
    cases unit <;> cases capital <;> decide
  · rintro ⟨digits, letter, rfl, some_digit, areDigits, isLetter⟩
    obtain ⟨unit, names⟩ := DistanceUnit.of_letter_iff.mpr isLetter
    have noDigit := Query.unit_letter_no_digit names
    have front : (digits ++ [letter]).takeWhile Char.isDigit = digits := by
      simp [List.takeWhile_append_of_pos areDigits, noDigit]
    have behind : (digits ++ [letter]).dropWhile Char.isDigit = [letter] := by
      simp [List.dropWhile_append_of_pos areDigits, noDigit]
    obtain ⟨digit, others, rfl⟩ := List.exists_cons_of_ne_nil some_digit
    refine ⟨digit :: others, unit, letter.isUpper, ?_⟩
    simp only [ofRun, front, behind, names]

/-- A run is read as an identifier exactly if it is not written like a distance. -/
theorem of_run_identifier_iff {run : Text} :
    ofRun run = .identifier run ↔ ¬ IsWrittenDistance run := by
  rw [← of_run_distance_iff]
  constructor
  · rintro read ⟨digits, unit, capital, other⟩
    rw [read] at other
    cases other
  · exact (of_run_cases run).resolve_right

/-- A run that does not open with a slash is one token. -/
theorem scan_of_run {run : Text} (whole : IsRun run) (some : run ≠ []) (noSlash : '/' ∉ run) :
    scan run = [ofRun run, .finish] := by
  obtain ⟨character, rest, rfl⟩ := List.exists_cons_of_ne_nil some
  have unslashed : character ≠ '/' := fun same => noSlash (by simp [same])
  have alone : ofWholeRun (character :: rest) = [ofRun (character :: rest)] := by
    unfold ofWholeRun
    split
    · next opens => exact absurd (List.cons.inj opens).1 unslashed
    · rfl
  rw [scan_eq_body, body_run _ whole, alone, List.singleton_append]

end Token

/-- An identifier alone is read as a word. -/
theorem Statement.parse_identifier {text : Text}
    (scanned : Token.scan text = [.identifier text, .finish]) :
    parse text = .ok ⟨none, .word text, none⟩ := by
  rw [parse, scanned]
  exact of_tokens_complete ⟨none, .last (.last (.single (.identifier text))), none⟩

/-- A distance alone is refused. -/
theorem Statement.parse_distance {text digits : Text} {unit : DistanceUnit} {capital : Bool}
    (scanned : Token.scan text = [.distance digits unit capital, .finish]) :
    parse text = .error (.atToken .unexpected (.distance digits unit capital)) := by
  rw [parse, scanned]
  rfl

section Alone

variable {text : Text} (scanned : Token.scan text = [Token.ofRun text, .finish])
include scanned

/-- A run alone that is written like a distance is refused as one. -/
theorem Statement.refused_of_distance (written : IsWrittenDistance text) :
    ∃ digits unit capital, Token.scan text = [.distance digits unit capital, .finish] ∧
      parse text = .error (.atToken .unexpected (.distance digits unit capital)) := by
  obtain ⟨digits, unit, capital, read⟩ := Token.of_run_distance_iff.mpr written
  rw [read] at scanned
  exact ⟨digits, unit, capital, scanned, parse_distance scanned⟩

/-- A run alone is one identifier exactly if it is not written like a distance. -/
theorem Token.scan_identifier_iff :
    scan text = [.identifier text, .finish] ↔ ¬ IsWrittenDistance text := by
  rw [scanned, ← of_run_identifier_iff]
  simp

/-- A run alone is read as a word exactly if it is not written like a distance. -/
theorem Statement.parse_word_iff :
    parse text = .ok ⟨none, .word text, none⟩ ↔ ¬ IsWrittenDistance text := by
  constructor
  · intro parsed written
    obtain ⟨_, _, _, _, failed⟩ := refused_of_distance scanned written
    rw [parsed] at failed
    cases failed
  · intro unwritten
    exact parse_identifier ((Token.scan_identifier_iff scanned).mpr unwritten)

/-- The logical form of a word that is a run alone is read as the word exactly if it is not written
like a distance. -/
theorem Expr.parse_word_iff :
    parse (word text).text = .ok (.word text) ↔ ¬ IsWrittenDistance text := by
  have logicalForm : (word text).text = text := rfl
  rw [logicalForm, parse]
  constructor
  · intro parsed written
    obtain ⟨_, _, _, _, failed⟩ := Statement.refused_of_distance scanned written
    rw [failed] at parsed
    cases parsed
  · intro unwritten
    rw [(Statement.parse_word_iff scanned).mpr unwritten]
    rfl

end Alone

namespace TokenSource

variable {source : TokenSource}

/-- No character of the usual stock separates or is a slash. -/
theorem standard_stock_plain :
    ∀ character ∈ standardStock, Token.isSeparator character = false ∧ character ≠ '/' := by
  have plain : standardStock.all
      (fun character => !Token.isSeparator character && character != '/') = true := by decide
  simpa using plain

/-- A text from the usual stock is one token. -/
theorem scan_of_stock {length : Nat} {text : Text} (isText : IsTextOf standardStock length text)
    (some : 0 < length) : Token.scan text = [Token.ofRun text, .finish] := by
  have filled : text ≠ [] := List.ne_nil_of_length_pos (by rwa [isText.long])
  refine Token.scan_of_run ?_ filled ?_
  · exact fun character inside => (standard_stock_plain character (isText.fromStock _ inside)).1
  · exact fun inside => (standard_stock_plain '/' (isText.fromStock _ inside)).2 rfl

/-- A text that is written like a distance is drawn, if there is room for a digit and a letter. -/
theorem draws_distance_iff (usual : source.stock = standardStock) :
    (∃ numbers, IsWrittenDistance ({ source with numbers } : TokenSource).draw.1) ↔
      2 ≤ source.length := by
  constructor
  · rintro ⟨numbers, digits, letter, drawn, some_digit, _⟩
    have long := ({ source with numbers } : TokenSource).draw_text.long
    have filled := List.length_pos_iff.mpr some_digit
    rw [drawn, List.length_append, List.length_singleton] at long
    change digits.length + 1 = source.length at long
    omega
  · intro room
    have drawable : IsTextOf source.stock source.length
        (List.replicate (source.length - 1) '1' ++ ['n']) := by
      constructor
      · simp
        omega
      · rw [usual]
        intro character inside
        rcases List.mem_append.mp inside with isDigit | isLetter
        · rw [List.eq_of_mem_replicate isDigit]
          decide
        · rw [List.mem_singleton.mp isLetter]
          decide
    obtain ⟨numbers, drawn⟩ := exists_draw drawable
    refine ⟨numbers, _, 'n', drawn, ?_, ?_, by decide⟩
    · simp
      omega
    · intro digit inside
      rw [List.eq_of_mem_replicate inside]
      rfl

/-- A token that is drawn from the usual stock can be written exactly if it is not written like a
distance. Then it is one identifier, a line reads it as the word, and so does an expression, which
is what the logical form of the word is. Otherwise a line refuses it as a distance. Such tokens are
drawn, with the right numbers, at all lengths but the shortest. -/
theorem drawn_token_written_iff (usual : source.stock = standardStock) :
    (∀ taken attempts token, (source.drawFree taken attempts).1 = some token →
      (Token.scan token = [.identifier token, .finish] ↔ ¬ IsWrittenDistance token) ∧
      (Statement.parse token = .ok ⟨none, .word token, none⟩ ↔ ¬ IsWrittenDistance token) ∧
      (Expr.parse (Expr.word token).text = .ok (.word token) ↔ ¬ IsWrittenDistance token) ∧
      (IsWrittenDistance token → ∃ digits unit capital,
        Token.scan token = [.distance digits unit capital, .finish] ∧
        Statement.parse token = .error (.atToken .unexpected (.distance digits unit capital)))) ∧
    ((∃ numbers, IsWrittenDistance ({ source with numbers } : TokenSource).draw.1) ↔
      2 ≤ source.length) := by
  refine ⟨?_, draws_distance_iff usual⟩
  intro taken attempts token drawn
  have scanned : Token.scan token = [Token.ofRun token, .finish] :=
    scan_of_stock (usual ▸ drawFree_text drawn) source.length_pos
  exact ⟨Token.scan_identifier_iff scanned, Statement.parse_word_iff scanned,
    Expr.parse_word_iff scanned, Statement.refused_of_distance scanned⟩

/-- A source that picks digits and the letter of a unit draws a token that no line can use. -/
theorem drawn_token_written_unit :
    let unlucky : TokenSource := standard (continued [53, 53, 53, 53, 39] 1)
    (unlucky.drawFree (fun _ => false) 1).1 = some ['1', '1', '1', '1', 'n'] ∧
    Token.scan ['1', '1', '1', '1', 'n'] ≠ [.identifier ['1', '1', '1', '1', 'n'], .finish] ∧
    (∃ error, Statement.parse ['1', '1', '1', '1', 'n'] = .error error) ∧
    (∃ numbers, IsWrittenDistance ({ unlucky with numbers } : TokenSource).draw.1) := by
  intro unlucky
  have drawn : (unlucky.drawFree (fun _ => false) 1).1 = some ['1', '1', '1', '1', 'n'] := rfl
  have written : IsWrittenDistance ['1', '1', '1', '1', 'n'] :=
    ⟨['1', '1', '1', '1'], 'n', rfl, by decide, by simp, by decide⟩
  have usual : unlucky.stock = standardStock := rfl
  obtain ⟨ofDrawn, someDrawn⟩ := drawn_token_written_iff usual
  obtain ⟨identified, _, _, refused⟩ := ofDrawn _ _ _ drawn
  obtain ⟨_, _, _, _, failed⟩ := refused written
  exact ⟨drawn, fun same => identified.mp same written, ⟨_, failed⟩, someDrawn.mpr (by decide)⟩

end TokenSource

end PriorArt
