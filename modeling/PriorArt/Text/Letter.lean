import PriorArt.Text.Basic
import PriorArt.Text.CaseTable

/-!
# Letters: case and width

Patent texts mix half-width and full-width Latin letters, so a word has several spellings that
differ in case or width only. This module changes the case of a text by the full case mappings
of Unicode, moves Latin letters between the two widths, and recognises words made of Latin
letters alone.

ASCII letters are mapped directly; the tables are consulted only beyond ASCII.
-/

namespace PriorArt.Text

/-- The character at a signed distance from another in the code chart. -/
def shifted (character : Char) (distance : Int) : Char :=
  Char.ofNat ((character.toNat : Int) + distance).toNat

/-- Apply the run that covers a character; a character outside every run stays as it is. -/
def shiftedBy (runs : List CaseRun) (character : Char) : Char :=
  match runs.find? (·.covers character.toNat) with
  | some run => shifted character run.shift
  | none => character

/-- The upper case of a character, which may be several characters. -/
def upperChar (character : Char) : Text :=
  if character.toNat < 128 then [character.toUpper]
  else match upperExpansions.lookup character.toNat with
    | some codes => codes.map Char.ofNat
    | none => [shiftedBy upperRuns character]

/-- The lower case of a character outside any context. The dotted capital I keeps its dot as a
separate mark. -/
def lowerChar (character : Char) : Text :=
  if character.toNat < 128 then [character.toLower]
  else if character.toNat = 0x130 then ['i', '\u0307']
  else [shiftedBy lowerRuns character]

/-- The upper case of a text. -/
def upper (text : Text) : Text := text.flatMap upperChar

/-- Whether the nearest character that the sigma rule does not pass over has case. -/
def meetsCased (text : Text) : Bool :=
  match text.dropWhile (inSpans ignorableSpans) with
  | [] => false
  | character :: _ => inSpans casedSpans character

/-- Lower case with the text before the current position, read backwards, at hand. A capital
sigma that closes a word, having a cased character before it and none after it, becomes the
final small sigma. -/
def lowerAfter (before : Text) : Text → Text
  | [] => []
  | character :: rest =>
    (if character.toNat = 0x3A3 then
      [if meetsCased before && !meetsCased rest then 'ς' else 'σ']
    else lowerChar character) ++ lowerAfter (character :: before) rest

/-- The lower case of a text. -/
def lower (text : Text) : Text := lowerAfter [] text

/-- The text with its first character in upper case. -/
def capitalized : Text → Text
  | [] => []
  | character :: rest => upperChar character ++ rest

/-- A Latin letter of ASCII. -/
def isHalfWidthLetter (character : Char) : Bool :=
  ('A' ≤ character && character ≤ 'Z') || ('a' ≤ character && character ≤ 'z')

/-- A full-width Latin letter. -/
def isFullWidthLetter (character : Char) : Bool :=
  ('Ａ' ≤ character && character ≤ 'Ｚ') || ('ａ' ≤ character && character ≤ 'ｚ')

/-- The distance from a half-width letter to its full-width form. -/
def widthDistance : Int := 0xFEE0

/-- The text with every Latin letter in half width. -/
def halfWidth (text : Text) : Text :=
  text.map (fun character =>
    if isFullWidthLetter character then shifted character (-widthDistance) else character)

/-- The text with every Latin letter in full width. -/
def fullWidth (text : Text) : Text :=
  text.map (fun character =>
    if isHalfWidthLetter character then shifted character widthDistance else character)

/-- Whether a word consists of Latin letters of either width, at least one, up to a single line
feed at its end. -/
def isLatinOnly (word : Text) : Bool :=
  let letters := withoutFinalNewline word
  !letters.isEmpty && letters.all (fun character =>
    isHalfWidthLetter character || isFullWidthLetter character)

end PriorArt.Text
