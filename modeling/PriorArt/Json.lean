import PriorArt.Text.Basic
import PriorArt.Text.Quoted

/-!
# JSON documents

Expression trees are exchanged as JSON, and the command line prints JSON. A document keeps the
order of the members of an object, tells whole numbers from numbers written with a fraction or
an exponent, and keeps the latter as they were written, since no operation computes with them.

The module holds the value type, the look-up of members, the indented printer, and the two
notations in which messages name a value: its type and its literal.
-/

namespace PriorArt

/-- A JSON document. -/
inductive Json where
  | null
  | bool (value : Bool)
  | int (value : Int)
  | real (written : Text)
  | str (text : Text)
  | arr (items : List Json)
  | obj (members : List (Text × Json))
  deriving Inhabited

namespace Json

/-- A text given by a string. -/
def ofString (text : String) : Json := .str text.toList

/-- A text, or null for none. -/
def ofText? : Option Text → Json
  | some text => .str text
  | none => .null

/-- The member of an object under a key. A document of another type has no members. -/
def get? (key : String) : Json → Option Json
  | .obj members => members.lookup key.toList
  | _ => none

/-- The type of a document as messages name it. -/
def typeName : Json → String
  | .null => "NoneType"
  | .bool _ => "bool"
  | .int _ => "int"
  | .real _ => "float"
  | .str _ => "str"
  | .arr _ => "list"
  | .obj _ => "dict"

/-- Enclose items, separated by a comma and a blank. -/
def enclosed (opening closing : Char) (items : List Text) : Text :=
  opening :: List.intercalate [',', ' '] items ++ [closing]

mutual

/-- The literal by which messages name a document. -/
def literal : Json → Text
  | .null => "None".toList
  | .bool true => "True".toList
  | .bool false => "False".toList
  | .int value => signedDecimal value
  | .real written => written
  | .str text => Text.quoted text
  | .arr items => enclosed '[' ']' (literals items)
  | .obj members => enclosed '\x7b' '\x7d' (memberLiterals members)

/-- The literals of the items of an array. -/
def literals : List Json → List Text
  | [] => []
  | item :: items => literal item :: literals items

/-- The members of an object, each as a key and a literal. -/
def memberLiterals : List (Text × Json) → List Text
  | [] => []
  | (key, value) :: members =>
    (Text.quoted key ++ [':', ' '] ++ literal value) :: memberLiterals members

end

/-- A character inside a JSON string. Only the quote, the backslash and the controls are
escaped. -/
def escapedChar (character : Char) : Text :=
  if character = '"' then ['\\', '"']
  else if character = '\\' then ['\\', '\\']
  else if character = '\n' then ['\\', 'n']
  else if character = '\r' then ['\\', 'r']
  else if character = '\t' then ['\\', 't']
  else if character.toNat = 8 then ['\\', 'b']
  else if character.toNat = 12 then ['\\', 'f']
  else if character.toNat < 32 then '\\' :: 'u' :: Text.hexadecimal 4 character.toNat
  else [character]

/-- A JSON string. -/
def stringText (text : Text) : Text := '"' :: text.flatMap escapedChar ++ ['"']

/-- A new line, indented by two blanks a level. -/
def lineBreak (level : Nat) : Text := '\n' :: List.replicate (2 * level) ' '

/-- Lay out the parts of an array or object one to a line. -/
def block (opening closing : Char) (level : Nat) : List Text → Text
  | [] => [opening, closing]
  | parts =>
    opening :: lineBreak (level + 1)
      ++ List.intercalate (',' :: lineBreak (level + 1)) parts
      ++ lineBreak level ++ [closing]

mutual

/-- The document at a level of nesting, one item or member to a line. -/
def indented (level : Nat) : Json → Text
  | .null => "null".toList
  | .bool true => "true".toList
  | .bool false => "false".toList
  | .int value => signedDecimal value
  | .real written => written
  | .str text => stringText text
  | .arr items => block '[' ']' level (indentedItems (level + 1) items)
  | .obj members => block '\x7b' '\x7d' level (indentedMembers (level + 1) members)

/-- The items of an array. -/
def indentedItems (level : Nat) : List Json → List Text
  | [] => []
  | item :: items => indented level item :: indentedItems level items

/-- The members of an object. -/
def indentedMembers (level : Nat) : List (Text × Json) → List Text
  | [] => []
  | (key, value) :: members =>
    (stringText key ++ [':', ' '] ++ indented level value) :: indentedMembers level members

end

/-- The document as indented text. -/
def pretty (document : Json) : Text := indented 0 document

end Json

end PriorArt
