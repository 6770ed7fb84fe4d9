import PriorArt.Text.Basic
import PriorArt.Text.VisibilityTable

/-!
# Quoted text

Messages about a value show a text between quotes, with the characters that would break or hide
in a message written as escapes. Single quotes are preferred; double quotes are used for a text
that contains single quotes only, so that few quotes need an escape.
-/

namespace PriorArt.Text

/-- Whether a character shows in a message as itself. -/
def isVisible (character : Char) : Bool := !inSpans invisibleSpans character

/-- The lower-case hexadecimal digits of a number, filled up with zeros to a width. -/
def hexadecimal (width number : Nat) : Text :=
  List.leftpad width '0' (Nat.toDigits 16 number)

/-- A character as it stands between quotes of the given kind. -/
def quotedChar (quote character : Char) : Text :=
  if character = quote || character = '\\' then ['\\', character]
  else if character = '\n' then ['\\', 'n']
  else if character = '\r' then ['\\', 'r']
  else if character = '\t' then ['\\', 't']
  else if isVisible character then [character]
  else if character.toNat < 0x100 then '\\' :: 'x' :: hexadecimal 2 character.toNat
  else if character.toNat < 0x10000 then '\\' :: 'u' :: hexadecimal 4 character.toNat
  else '\\' :: 'U' :: hexadecimal 8 character.toNat

/-- The quote that encloses a text. -/
def enclosingQuote (text : Text) : Char :=
  if text.contains '\'' && !text.contains '"' then '"' else '\''

/-- A text between quotes. -/
def quoted (text : Text) : Text :=
  let quote := enclosingQuote text
  quote :: text.flatMap (quotedChar quote) ++ [quote]

end PriorArt.Text
