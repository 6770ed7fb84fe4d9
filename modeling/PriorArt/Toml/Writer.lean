import PriorArt.Text.Quoted
import PriorArt.Toml.Value

/-!
# Writing TOML

Settings are written as sections of plain values. Strings stand on one line between double
quotes; the tab is the only control that stands in them as it is.
-/

namespace PriorArt.Toml

/-- A character inside a string. -/
def writtenChar (character : Char) : Text :=
  if character = '"' then ['\\', '"']
  else if character = '\\' then ['\\', '\\']
  else if character = '\n' then ['\\', 'n']
  else if character = '\r' then ['\\', 'r']
  else if character.toNat = 8 then ['\\', 'b']
  else if character.toNat = 12 then ['\\', 'f']
  else if (character.toNat < 32 && character ≠ '\t') || character.toNat = 127 then
    '\\' :: 'u' :: Text.hexadecimal 4 character.toNat
  else [character]

/-- A string between its quotes. -/
def writtenString (text : Text) : Text := '"' :: text.flatMap writtenChar ++ ['"']

/-- A value that is neither an array nor a table. -/
inductive Plain where
  | string (text : Text)
  | integer (number : Int)
  | boolean (value : Bool)

/-- The value as a document gives it back. -/
def Plain.value : Plain → Value
  | string text => .string text
  | integer number => .integer number
  | boolean value => .boolean value

/-- A plain value as it is written. -/
def Plain.text : Plain → Text
  | string text => writtenString text
  | integer number => signedDecimal number
  | boolean true => "true".toList
  | boolean false => "false".toList

/-- An assignment on a line of its own. -/
def assignmentLine (key : Text) (value : Plain) : Text :=
  key ++ [' ', '=', ' '] ++ value.text ++ ['\n']

/-- A section: its header and its assignments. -/
def sectionText (name : Text) (entries : List (Text × Plain)) : Text :=
  '[' :: name ++ [']', '\n'] ++ entries.flatMap (fun entry => assignmentLine entry.1 entry.2)

/-- Several sections with a blank line between neighbours. Names and keys must need no quotes. -/
def render (sections : List (Text × List (Text × Plain))) : Text :=
  Text.join '\n' (sections.map (fun part => sectionText part.1 part.2))

end PriorArt.Toml
