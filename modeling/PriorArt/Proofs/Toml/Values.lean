import Mathlib.Tactic.SplitIfs
import PriorArt.Proofs.Text.Decimals
import PriorArt.Toml.Reader
import PriorArt.Toml.Writer

/-!
# Plain values in documents

A whole number is written as its decimal digits, behind a minus if it is negative. Before a reader takes
it for a number, it asks whether it is a date, a time, or a number in another base. No number in front of
a line end is any of these: a date has a hyphen behind four digits, a time a colon behind two, and
another base a letter behind a zero in front. So the digits are read up to the line end, and give the
number again.

A string is written between double quotes, with an escape for each quote, backslash and control but the
tab. The reader takes the characters back one by one, so a string is read up to its closing quote,
whatever characters it has. Together with whole numbers and truth values this gives every plain value
back in front of a line end.

No carriage return gets into a document, since it is a control. So the line ends of a document stay as
they are written.
-/

namespace PriorArt.Toml

/-! ## Dates and times -/

/-- What is left when characters are taken from the front is behind them. -/
theorem stripped_front {wanted text rest : Text} (stripped : stripFront? wanted text = some rest) :
    text = wanted ++ rest := by
  fun_induction stripFront? wanted text with
  | case1 text => exact Option.some.inj stripped
  | case2 => cases stripped
  | case3 rest' character text inductionHypothesis =>
    rw [inductionHypothesis stripped, List.cons_append]
  | case4 => cases stripped

/-- A number of two digits is read from two digits. -/
theorem two_digits_front {least most number : Nat} {text behind : Text}
    (read : twoDigits? least most text = some (number, behind)) :
    ∃ tens ones, text = tens :: ones :: behind ∧ tens.isDigit = true ∧ ones.isDigit = true := by
  unfold twoDigits? at read
  split at read
  · next tens ones rest =>
    split at read
    · next areDigits =>
      dsimp only at read
      split at read
      · obtain ⟨-, rfl⟩ := Prod.mk.inj (Option.some.inj read)
        simp only [Bool.and_eq_true] at areDigits
        exact ⟨tens, ones, rfl, areDigits⟩
      · cases read
    · cases read
  · cases read

/-- The digits in front of the text, if there are any, stand in front of a line end. -/
def DigitsEndLine (text : Text) : Prop :=
  ∀ first others mark back, text = first :: others ++ mark :: back →
    (∀ character ∈ first :: others, character.isDigit = true) → mark.isDigit = false → mark = '\n'

section Moments

variable {text : Text} (endsLine : DigitsEndLine text)
include endsLine

/-- A text whose digits end their line is no time. -/
theorem no_time : timeOfDay? text = none := by
  cases read : timeOfDay? text with
  | none => rfl
  | some behind =>
    simp only [timeOfDay?, Option.bind_eq_bind, Option.bind_eq_some_iff, Prod.exists] at read
    obtain ⟨_, behindHours, hours, behindColon, colon, _⟩ := read
    obtain ⟨tens, ones, rfl, ofTens, ofOnes⟩ := two_digits_front hours
    obtain rfl := stripped_front colon
    have same := endsLine tens [ones] ':' behindColon rfl (by simp [ofTens, ofOnes]) rfl
    cases same

/-- A text whose digits end their line is no date. -/
theorem no_date : date? text = none := by
  unfold date?
  split
  · next first second third fourth rest =>
    cases areDigits : [first, second, third, fourth].all Char.isDigit with
    | false => simp only [areDigits, Bool.not_false, if_true, Option.bind_eq_bind, Option.bind_none]
    | true =>
      have same := endsLine first [second, third, fourth] '-' rest rfl
        (List.all_eq_true.mp areDigits) rfl
      cases same
  · rfl

/-- A text whose digits end their line is neither a date nor a time. -/
theorem no_moment : moment? text = none := by
  rw [moment?, no_date endsLine, no_time endsLine]

end Moments

/-! ## Digits -/

section Digits

variable {digits : Text} (areDigits : ∀ character ∈ digits, character.isDigit = true) (rest : Text)
include areDigits

/-- Digits in front of a line end. -/
theorem digits_end_line : DigitsEndLine (digits ++ '\n' :: rest) := by
  intro first others mark back same areFront noDigit
  -- Without its digits in front, the text begins with the line feed, and also with the mark.
  have left : (digits ++ '\n' :: rest).dropWhile Char.isDigit = ('\n' :: rest).dropWhile Char.isDigit :=
    List.dropWhile_append_of_pos areDigits
  have right : (first :: others ++ mark :: back).dropWhile Char.isDigit =
      (mark :: back).dropWhile Char.isDigit := List.dropWhile_append_of_pos areFront
  rw [same, right, List.dropWhile_cons_of_neg (by simp [noDigit]),
    List.dropWhile_cons_of_neg (by decide)] at left
  exact (List.cons.inj left).1

/-- Digits are read up to a line end. -/
theorem moreDigits_line :
    moreDigits Char.isDigit (digits ++ '\n' :: rest) = (digits, '\n' :: rest) := by
  induction digits with
  | nil => simp [moreDigits]
  | cons digit others inductionHypothesis =>
    obtain ⟨isDigit, areOthers⟩ := List.forall_mem_cons.mp areDigits
    have noUnderscore : digit ≠ '_' := by
      rintro rfl
      cases isDigit
    rw [List.cons_append, moreDigits]
    · simp [isDigit, inductionHypothesis areOthers]
    · exact fun _ _ same => absurd same noUnderscore

end Digits

/-- A number begins with a digit, which is a zero only if nothing is behind it. -/
theorem decimal_begins (number : Nat) : ∃ first others, decimal number = first :: others ∧
    first.isDigit = true ∧ (first = '0' → number = 0 ∧ others = []) := by
  cases digits : decimal number with
  | nil => exact absurd digits Nat.toDigits_ne_nil
  | cons first others =>
    refine ⟨first, others, rfl, decimal_digits number first (by simp [digits]), ?_⟩
    rintro rfl
    rcases Nat.eq_zero_or_pos number with rfl | positive
    · exact ⟨rfl, (List.cons.inj digits).2.symm⟩
    · exact absurd (by rw [digits, List.head?_cons]) (decimal_without_leading_zero positive)

/-- The digits of a number are read up to a line end. -/
theorem decimalDigits_line (number : Nat) (rest : Text) :
    decimalDigits? (decimal number ++ '\n' :: rest) = some (decimal number, '\n' :: rest) := by
  obtain ⟨first, others, digits, isDigit, zero⟩ := decimal_begins number
  by_cases isZero : first = '0'
  · obtain ⟨-, rfl⟩ := zero isZero
    rw [digits, isZero]
    rfl
  · have areOthers : ∀ character ∈ others, character.isDigit = true := fun character inside =>
      decimal_digits number character (by simp [digits, inside])
    rw [digits, List.cons_append, decimalDigits?]
    · simp [digits?, isDigit, moreDigits_line areOthers]
    · exact fun _ same => isZero (List.cons.inj same).1

/-- A text that does not begin with a zero is no number in another base. -/
theorem no_base {first : Char} (notZero : first ≠ '0') (rest : Text) :
    basedInteger? (first :: rest) = none := by
  unfold basedInteger?
  split
  · next same => exact absurd (List.cons.inj same).1 notZero
  · next same => exact absurd (List.cons.inj same).1 notZero
  · next same => exact absurd (List.cons.inj same).1 notZero
  · rfl

/-- A number is read from its sign and its digits up to a line end. -/
theorem decimal_of_sign {text unsigned rest : Text} {negative : Bool} {count : Nat}
    (signed : sign text = (negative, unsigned))
    (digits : decimalDigits? unsigned = some (decimal count, '\n' :: rest)) :
    decimal? text = some (.integer (if negative then -(count : Int) else count), '\n' :: rest) := by
  have behind : skipExponent (skipFraction ('\n' :: rest)) = '\n' :: rest := rfl
  simp [decimal?, signed, digits, behind, value_of_decimal]

/-- A whole number is read up to a line end. -/
theorem decimal_line (number : Int) (rest : Text) :
    decimal? (signedDecimal number ++ '\n' :: rest) = some (.integer number, '\n' :: rest) := by
  cases number with
  | ofNat count =>
    obtain ⟨first, others, digits, isDigit, -⟩ := decimal_begins count
    have signed : sign (decimal count ++ '\n' :: rest) = (false, decimal count ++ '\n' :: rest) := by
      rw [digits, List.cons_append, sign]
      · rintro _ ⟨⟩
        cases isDigit
      · rintro _ ⟨⟩
        cases isDigit
    exact decimal_of_sign signed (decimalDigits_line count rest)
  | negSucc count =>
    have signed : sign ('-' :: (decimal (count + 1) ++ '\n' :: rest)) =
        (true, decimal (count + 1) ++ '\n' :: rest) := rfl
    exact decimal_of_sign signed (decimalDigits_line (count + 1) rest)

/-- A whole number in front of a line end is a number and nothing else. -/
theorem plainValue_line (number : Int) (rest : Text) :
    plainValue? (signedDecimal number ++ '\n' :: rest) = some (.integer number, '\n' :: rest) := by
  have read := decimal_line number rest
  have apart : DigitsEndLine (signedDecimal number ++ '\n' :: rest) ∧
      basedInteger? (signedDecimal number ++ '\n' :: rest) = none := by
    cases number with
    | ofNat count =>
      refine ⟨digits_end_line (decimal_digits count) rest, ?_⟩
      obtain ⟨first, others, digits, isDigit, zero⟩ := decimal_begins count
      rw [signedDecimal, digits]
      by_cases isZero : first = '0'
      · obtain ⟨-, rfl⟩ := zero isZero
        rw [isZero]
        rfl
      · exact no_base isZero _
    | negSucc count =>
      refine ⟨?_, no_base (by decide) _⟩
      intro first others mark back same areFront noDigit
      obtain ⟨rfl, -⟩ := List.cons.inj same
      exact absurd (areFront '-' List.mem_cons_self) (by decide)
  rw [plainValue?, no_moment apart.1, apart.2, read]
  rfl

/-! ## Strings -/

/-- The four digits of a code point of ASCII are read as the code point. -/
theorem ascii_hexadecimal : ∀ code < 128, (Text.hexadecimal 4 code).length = 4 ∧
    hexNumberFrom? 0 (Text.hexadecimal 4 code) = some code ∧ code.isValidChar ∧
    '\r' ∉ Text.hexadecimal 4 code := by
  decide

/-- A character of ASCII that is written by its code point is read back. -/
theorem codePoint_ascii {character : Char} (ascii : character.toNat < 128) (rest : Text) :
    codePoint? 4 (Text.hexadecimal 4 character.toNat ++ rest) = some (character, rest) := by
  obtain ⟨length, read, valid, -⟩ := ascii_hexadecimal character.toNat ascii
  have enough : ¬ (Text.hexadecimal 4 character.toNat ++ rest).length < 4 := by
    simp [length]
  rw [codePoint?, if_neg enough, List.take_left' length, read, List.drop_left' length]
  simp [valid]

/-- A character is known from its code point. -/
theorem char_of_code {character other : Char} (same : character.toNat = other.toNat) :
    character = other := by
  rw [← Char.ofNat_toNat character, same, Char.ofNat_toNat]

/-- How a character stands in a string: as an escape that is read back, or as it is. -/
inductive IsWritten (character : Char) : Text → Prop where
  | escaped {code : Text} (read : ∀ rest, escape? (code ++ rest) = some (character, rest))
      (noReturn : '\r' ∉ code) : IsWritten character ('\\' :: code)
  | plain (noQuote : character ≠ '"') (noBackslash : character ≠ '\\')
      (visible : isControl character = false) : IsWritten character [character]

/-- The escape of a character without a code point in it. -/
theorem isWritten_short {character letter : Char} (noReturn : letter ≠ '\r')
    (read : ∀ rest, escape? (letter :: rest) = some (character, rest)) :
    IsWritten character ['\\', letter] :=
  .escaped read (by simpa using noReturn.symm)

/-- Every character is written in one of these ways. -/
theorem isWritten_writtenChar (character : Char) : IsWritten character (writtenChar character) := by
  unfold writtenChar
  split_ifs with quote backslash lineFeed carriageReturn backspace formFeed control
  · subst quote
    exact isWritten_short (by decide) (fun _ => rfl)
  · subst backslash
    exact isWritten_short (by decide) (fun _ => rfl)
  · subst lineFeed
    exact isWritten_short (by decide) (fun _ => rfl)
  · subst carriageReturn
    exact isWritten_short (by decide) (fun _ => rfl)
  · obtain rfl : character = '\x08' := char_of_code backspace
    exact isWritten_short (by decide) (fun _ => rfl)
  · obtain rfl : character = '\x0c' := char_of_code formFeed
    exact isWritten_short (by decide) (fun _ => rfl)
  · have ascii : character.toNat < 128 := by
      simp only [Bool.or_eq_true, Bool.and_eq_true, decide_eq_true_eq] at control
      omega
    refine .escaped (fun rest => codePoint_ascii ascii rest) ?_
    simpa using (ascii_hexadecimal character.toNat ascii).2.2.2
  · exact .plain quote backslash (by simpa [isControl] using control)

/-- A character is read back from its written form. -/
theorem basicString_isWritten {character : Char} {written : Text}
    (isWritten : IsWritten character written) (bound : Nat) (rest : Text) :
    basicString? (bound + 1) (written ++ rest) =
      (basicString? bound rest).map (fun (text, rest) => (character :: text, rest)) := by
  cases isWritten with
  | escaped read noReturn =>
    rw [List.cons_append, basicString?, read]
    simp only [Option.bind_eq_bind, Option.bind_some]
    cases basicString? bound rest <;> rfl
  | plain noQuote noBackslash visible =>
    rw [List.singleton_append, basicString?]
    · simp only [visible, Bool.false_eq_true, if_false]
      cases basicString? bound rest <;> rfl
    · exact noQuote
    · exact noBackslash

/-- A written form has characters, none of which is a carriage return. -/
theorem IsWritten.facts {character : Char} {written : Text} (isWritten : IsWritten character written) :
    written ≠ [] ∧ '\r' ∉ written := by
  cases isWritten with
  | escaped read noReturn => exact ⟨List.cons_ne_nil _ _, by simpa using noReturn⟩
  | plain noQuote noBackslash visible =>
    refine ⟨List.cons_ne_nil _ _, ?_⟩
    simp only [List.mem_singleton]
    rintro rfl
    cases visible

/-- A string is read back up to its closing quote, if the bound allows for its characters. -/
theorem basicString_written (text : Text) {bound : Nat} (enough : text.length < bound) (rest : Text) :
    basicString? bound (text.flatMap writtenChar ++ '"' :: rest) = some (text, rest) := by
  induction text generalizing bound with
  | nil =>
    obtain ⟨smaller, rfl⟩ := Nat.exists_eq_add_of_lt enough
    rfl
  | cons character others inductionHypothesis =>
    cases bound with
    | zero => exact absurd enough (Nat.not_lt_zero _)
    | succ smaller =>
      rw [List.flatMap_cons, List.append_assoc, basicString_isWritten (isWritten_writtenChar character),
        inductionHypothesis (Nat.lt_of_succ_lt_succ enough)]
      rfl

/-- A string takes at least a place for each of its characters. -/
theorem length_written (text : Text) : text.length ≤ (text.flatMap writtenChar).length := by
  induction text with
  | nil => exact Nat.le_refl _
  | cons character others inductionHypothesis =>
    have place := List.length_pos_iff.mpr (isWritten_writtenChar character).facts.1
    rw [List.flatMap_cons, List.length_append, List.length_cons]
    omega

/-- A string is read back in front of anything but another quote. -/
theorem string_written (text rest : Text) (noQuote : rest.head? ≠ some '"') :
    string? (writtenString text ++ rest) = some (text, rest) := by
  have assembled : writtenString text ++ rest = '"' :: (text.flatMap writtenChar ++ '"' :: rest) := by
    simp [writtenString]
  -- Three quotes would open a string of several lines, but only an empty string has a second one.
  have single : ∀ behind, text.flatMap writtenChar ++ '"' :: rest ≠ '"' :: '"' :: behind := by
    intro behind same
    cases text with
    | nil => exact noQuote (by rw [(List.cons.inj same).2, List.head?_cons])
    | cons character others =>
      have written := isWritten_writtenChar character
      rw [List.flatMap_cons] at same
      generalize writtenChar character = form at written same
      cases written with
      | escaped read noReturn => cases (List.cons.inj same).1
      | plain notQuote noBackslash visible => exact notQuote (List.cons.inj same).1
  have enough : text.length < (text.flatMap writtenChar ++ '"' :: rest).length := by
    have places := length_written text
    rw [List.length_append, List.length_cons]
    omega
  rw [assembled, string?]
  · exact basicString_written text enough rest
  · exact fun behind same => single behind same

/-! ## Values -/

/-- A whole number begins with a minus or a digit. -/
theorem signedDecimal_begins (number : Int) : ∃ first others, signedDecimal number = first :: others ∧
    (first = '-' ∨ first.isDigit = true) := by
  cases number with
  | ofNat count =>
    obtain ⟨first, others, digits, isDigit, -⟩ := decimal_begins count
    exact ⟨first, others, digits, .inr isDigit⟩
  | negSucc count => exact ⟨'-', decimal (count + 1), rfl, .inl rfl⟩

/-- What begins like a number is read as a plain value. -/
theorem value_number {first : Char} (begins : first = '-' ∨ first.isDigit = true) (depth : Nat)
    (rest : Text) : value? (depth + 1) (first :: rest) = plainValue? (first :: rest) := by
  have other : ∀ mark : Char, mark ≠ '-' → mark.isDigit = false →
      ∀ behind, first :: rest = mark :: behind → False := by
    intro mark noMinus noDigit behind same
    obtain ⟨rfl, -⟩ := List.cons.inj same
    rcases begins with minus | digit
    · exact noMinus minus
    · rw [noDigit] at digit
      cases digit
  have noTrue : stripFront? "true".toList (first :: rest) = none :=
    if_neg (fun same => other 't' (by decide) (by decide) rest (congrArg (· :: rest) same.symm))
  have noFalse : stripFront? "false".toList (first :: rest) = none :=
    if_neg (fun same => other 'f' (by decide) (by decide) rest (congrArg (· :: rest) same.symm))
  rw [value?, noTrue, noFalse]
  · exact other '"' (by decide) (by decide)
  · exact other '\'' (by decide) (by decide)
  · exact other '[' (by decide) (by decide)
  · exact other '{' (by decide) (by decide)

/-- A plain value is read back in front of a line end. -/
theorem value_line (plain : Plain) (depth : Nat) (rest : Text) :
    value? (depth + 1) (plain.text ++ '\n' :: rest) = some (plain.value, '\n' :: rest) := by
  cases plain with
  | string text =>
    have read := string_written text ('\n' :: rest) (by simp)
    have opened : writtenString text ++ '\n' :: rest =
        '"' :: (text.flatMap writtenChar ++ '"' :: '\n' :: rest) := by simp [writtenString]
    rw [Plain.text, opened, value?]
    rw [← opened, read]
    rfl
  | integer number =>
    have read := plainValue_line number rest
    obtain ⟨first, others, digits, begins⟩ := signedDecimal_begins number
    rw [digits, List.cons_append] at read
    rw [Plain.text, digits, List.cons_append, value_number begins, read]
    rfl
  | boolean value => cases value <;> rfl

/-- No space stands in front of a plain value. -/
theorem skipSpaces_plain (plain : Plain) (rest : Text) :
    skipSpaces (plain.text ++ rest) = plain.text ++ rest := by
  cases plain with
  | string text => rfl
  | integer number =>
    obtain ⟨first, others, digits, begins⟩ := signedDecimal_begins number
    have noSpace : ¬ isSpace first = true := by
      intro space
      rcases (by simpa [isSpace] using space : first = ' ' ∨ first = '\t') with rfl | rfl
      · simp at begins
      · simp at begins
    rw [Plain.text, digits, List.cons_append, skipSpaces, List.dropWhile_cons_of_neg noSpace]
  | boolean value => cases value <;> rfl

/-- No carriage return is in a plain value. -/
theorem plain_no_return (plain : Plain) : '\r' ∉ plain.text := by
  cases plain with
  | string text =>
    have inside : '\r' ∉ text.flatMap writtenChar := by
      intro found
      obtain ⟨character, -, among⟩ := List.mem_flatMap.mp found
      exact (isWritten_writtenChar character).facts.2 among
    simpa [Plain.text, writtenString] using inside
  | integer number =>
    have noDigit : ∀ count, '\r' ∉ decimal count := fun count inside =>
      absurd (decimal_digits count '\r' inside) (by decide)
    cases number with
    | ofNat count => exact noDigit count
    | negSucc count => simpa [Plain.text, signedDecimal] using noDigit (count + 1)
  | boolean value => cases value <;> decide

end PriorArt.Toml
