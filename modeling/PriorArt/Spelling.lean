import PriorArt.Brackets
import PriorArt.Text.Letter
import PriorArt.Token

/-!
# Spellings

Queries are often typed with full-width characters, and a Latin word is found in documents in
either case and either width. This module brings a typed query into its normal form, gives a
union of words the key under which it is stored, and lists the spellings under which each of its
words is searched.
-/

namespace PriorArt

/-- The normal form of a character of a query; none for a space, which is dropped. -/
def foldedChar? : Char → Option Char
  | '＋' => some '+'
  | '＊' => some '*'
  | '（' => some '('
  | '）' => some ')'
  | '［' => some '['
  | '］' => some ']'
  | '｛' => some '{'
  | '｝' => some '}'
  | '／' => some '/'
  | ' ' => none
  | '　' => none
  | character => some character

/-- The capital of a letter that occurs in a field suffix, in either case and width. The letter
I is also recognised without its dot and, as a capital, with one. -/
def suffixLetter? : Char → Option Char
  | 't' | 'T' | 'ｔ' | 'Ｔ' => some 'T'
  | 'x' | 'X' | 'ｘ' | 'Ｘ' => some 'X'
  | 'c' | 'C' | 'ｃ' | 'Ｃ' => some 'C'
  | 'p' | 'P' | 'ｐ' | 'Ｐ' => some 'P'
  | 'f' | 'F' | 'ｆ' | 'Ｆ' => some 'F'
  | 'i' | 'I' | 'ｉ' | 'Ｉ' | 'İ' | 'ı' => some 'I'
  | _ => none

/-- The field that two letters behind a slash name, in any spelling. -/
def spelledField? (first second : Char) : Option Field :=
  match suffixLetter? first, suffixLetter? second with
  | some first, some second => Field.ofLetters? [first, second]
  | _, _ => none

/-- Write every field suffix in capitals of half width. -/
def canonicalSuffixes : Text → Text
  | [] => []
  | '/' :: first :: second :: rest =>
    match spelledField? first second with
    | some field => field.suffix.toList ++ canonicalSuffixes rest
    | none => '/' :: canonicalSuffixes (first :: second :: rest)
  | character :: rest => character :: canonicalSuffixes rest

namespace Text

/-- The normal form of a query: operators and brackets in half width, spaces dropped, field
suffixes in capitals. -/
def normalized (text : Text) : Text := canonicalSuffixes (text.filterMap foldedChar?)

/-- The key of a union of words: its normal form without blanks and enclosing brackets. -/
def key (text : Text) : Text := Brackets.strip (withoutBlanks (normalized text))

/-- The six spellings of a Latin word: capitalised, in capitals and in small letters, each in
full width and in half width. -/
def latinVariants (word : Text) : List Text :=
  let small := lower (halfWidth word)
  [fullWidth (capitalized small), capitalized small, fullWidth (upper small), upper small,
    fullWidth small, small]

/-- The words of a union that is given by its key. -/
def keyWords (key : Text) : List Text :=
  ((pieces '+' key).map trim).filter (fun word => !word.isEmpty)

/-- The spellings under which the words of a union are searched, longest first. Latin words have
six spellings, other words the one they are typed in. Among spellings of one length those of
Latin words come first, and otherwise the order of the words is kept. -/
def variants (text : Text) : List Text :=
  let words := keyWords (key text)
  let latin := (words.filter isLatinOnly).flatMap latinVariants
  let others := words.filter (fun word => !isLatinOnly word)
  (latin ++ others).eraseDups.mergeSort (fun left right => right.length ≤ left.length)

/-- The number of spellings that a label shows. -/
def shownVariants : Nat := 10

/-- The label of a list of spellings, which shows only the first of a long list. -/
def labelOf (variants : List Text) : Text :=
  if variants.isEmpty then []
  else
    let shown := join '+' (variants.take shownVariants)
    Brackets.parenthesized
      (if shownVariants < variants.length then shown ++ ['+', '.', '.', '.'] else shown)

end Text

end PriorArt
