import PriorArt.Text.Basic
import PriorArt.Text.WidthTable

/-!
# Text on a console

A console shows a text in columns. Control characters without a place in a line are left out,
and a tab becomes a blank and goes on to the next multiple of eight columns. Most characters take
one column, others two or none; a mark for emoji style widens the character in front of it, and
what is joined to a character by a joiner takes no column.
-/

namespace PriorArt.CommandLine

/-- The controls that are left out: bell, backspace, vertical tab, form feed, carriage return. -/
def isLeftOut (character : Char) : Bool := [7, 8, 11, 12, 13].contains character.toNat

/-- The number of columns that a character takes by itself. -/
def columns (character : Char) : Nat :=
  if Text.inSpans Text.zeroWidthSpans character then 0
  else if Text.inSpans Text.wideSpans character then 2
  else 1

/-- The character that joins its neighbours into one picture. -/
def joiner : Char := '\u200D'

/-- The mark by which the character in front of it is an emoji. -/
def emojiMark : Char := '\uFE0F'

/-- The number of columns of a text. `widens` says whether an emoji mark would widen the last
character in front of the text that has a column. -/
def columnsFrom (widens : Bool) : Text → Nat
  | [] => 0
  | first :: rest =>
    if first = joiner then
      match rest with
      | [] => 0
      | _ :: behind => columnsFrom widens behind
    else if first = emojiMark then
      (if widens then 1 else 0) + columnsFrom false rest
    else
      columns first + columnsFrom
        (if columns first = 0 then widens else Text.inSpans Text.emojiStyledSpans first) rest

/-- A text with a blank behind it, filled up with blanks to a multiple of eight columns. -/
def filledUp (text : Text) : Text :=
  let spaced := text ++ [' ']
  spaced ++ List.replicate ((8 - columnsFrom false spaced % 8) % 8) ' '

/-- Join the parts of a line that stand between tabs. -/
def joinTabbed : List Text → Text
  | [] => []
  | [last] => last
  | part :: parts => filledUp part ++ joinTabbed parts

/-- A line without tabs. -/
def withoutTabs (line : Text) : Text := joinTabbed (Text.pieces '\t' line)

/-- A text as a console shows it. -/
def shown (text : Text) : Text :=
  Text.join '\n' ((Text.pieces '\n' (text.filter (fun character =>
    !isLeftOut character))).map withoutTabs)

end PriorArt.CommandLine
