import PriorArt.Proofs.Workspace.WritableTokens

/-!
# Scans without loss

Each token of a scan is read from a slice of the text, and the slices stand one behind another with nothing
but blanks around them. So no character is lost and none is read twice, also where a slash opens no field
after all and where digits turn out to be the front of an identifier.

What a token carries can be relied on. An identifier is not empty and has no separator, and the text of a
distance is one that is read as a distance by itself.
-/

namespace PriorArt.Token

/-- What the text of a token is like, for the tokens that are no signs. -/
def IsProper : Token → Prop
  | identifier name => name ≠ [] ∧ IsRun name
  | distance digits unit capital =>
    IsWrittenDistance (distance digits unit capital).text ∧
      Distance.ofText? (distance digits unit capital).text =
        some ⟨unit, Nat.ofDigitChars 10 digits 0⟩
  | field name => (field name).text ∈ ["/TX".toList, "/CP".toList, "/FI".toList]
  | _ => True

/-- The tokens of a text are proper. -/
theorem proper_of_mem_body {text : Text} {token : Token} (inside : token ∈ body text) :
    token.IsProper := by
  have scanned : token ∈ scanFrom [] text := (List.dropLast_sublist _).subset inside
  cases token with
  | identifier name => exact ⟨identifier_filled scanned, run_of_identifier .nil scanned⟩
  | distance digits unit capital =>
    obtain ⟨some_digit, ascii⟩ := scan_from_distance [] text digits unit capital scanned
    have ofUnit : (if capital then unit.letter.toUpper else unit.letter) ∈ ['n', 'N', 'c', 'C'] := by
      cases unit <;> cases capital <;> decide
    exact ⟨⟨digits, _, rfl, some_digit, ascii, ofUnit⟩,
      of_text_distance digits unit capital some_digit ascii⟩
  | field name => cases name <;> simp [IsProper, Token.text, Field.suffix]
  | _ => trivial

/-- A scan loses and invents nothing. It ends with the one token `finish`, and the other tokens are read from
slices of the text, which are the text without its blanks when they are put together. A token has the text
of its slice, a field suffix in upper case. Every identifier has characters and no separator, every distance
is written as digits and the letter of a unit and is accepted when its text is read by itself, and every
field suffix is one of the three. -/
theorem scan_lossless (text : Text) :
    ∃ tokens slices, scan text = tokens ++ [finish] ∧ finish ∉ tokens ∧
      IsCutInto text slices ∧ slices.flatten = withoutGaps text ∧
      List.Forall₂ IsReadFrom tokens slices ∧ ∀ token ∈ tokens, token.IsProper := by
  obtain ⟨slices, cut, read⟩ := exists_slices text
  exact ⟨body text, slices, scan_eq_body text, finish_absent_body text, cut, cut.flatten, read,
    fun _ inside => proper_of_mem_body inside⟩

/-- In `⇥5N,/tX/b (/fiA` the field suffix is put in upper case, the slashes behind it and in front of other
letters belong to identifiers, and the tab and the blank are left out. -/
theorem scan_lossless_slashes :
    ∃ slices, IsCutInto ['\t', '5', 'N', ',', '/', 't', 'X', '/', 'b', ' ', '(', '/', 'f', 'i', 'A'] slices ∧
      slices.flatten = ['5', 'N', ',', '/', 't', 'X', '/', 'b', '(', '/', 'f', 'i', 'A'] ∧
      List.Forall₂ IsReadFrom [.distance ['5'] .words true, .comma, .field .text, .identifier ['/', 'b'],
        .leftParenthesis, .identifier ['/', 'f', 'i', 'A']] slices ∧
      Distance.ofText? ['5', 'N'] = some ⟨.words, 5⟩ := by
  obtain ⟨tokens, slices, scanned, _, cut, kept, read, proper⟩ := scan_lossless
    ['\t', '5', 'N', ',', '/', 't', 'X', '/', 'b', ' ', '(', '/', 'f', 'i', 'A']
  have known : [Token.distance ['5'] .words true, .comma, .field .text, .identifier ['/', 'b'],
      .leftParenthesis, .identifier ['/', 'f', 'i', 'A']] ++ [finish] = tokens ++ [finish] := scanned
  obtain rfl := List.append_cancel_right known
  exact ⟨slices, cut, kept, read, (proper (.distance ['5'] .words true) (by simp)).2⟩

end PriorArt.Token
