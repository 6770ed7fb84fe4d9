import PriorArt.Text.Basic

/-!
# Brackets

Factors of a query are handled as texts in which round and curly brackets nest. This module
removes enclosing pairs, cuts products at their outermost `*`, and adds a pair where a text
would otherwise fall apart.

Two notions of nesting occur, and they agree on properly nested text only. An enclosing pair is
found by matching kinds on a stack. The outermost level is found by counting depth, where a
closing bracket too many leaves the depth at zero, so that unbalanced text is cut as well.
-/

namespace PriorArt.Brackets

/-- The closing bracket that belongs to an opening one. -/
def closerOf? : Char → Option Char
  | '(' => some ')'
  | '{' => some '}'
  | _ => none

/-- Whether a character opens a bracket. -/
def isOpener (character : Char) : Bool := (closerOf? character).isSome

/-- Whether a character closes a bracket. -/
def isCloser (character : Char) : Bool := character = ')' || character = '}'

/-- Whether the text closes every awaited bracket in order, the last one with the last
character: at no earlier point is the stack of awaited brackets empty. -/
def closesAtEnd : List Char → Text → Bool
  | awaited, [] => awaited.isEmpty
  | awaited, character :: rest =>
    match closerOf? character with
    | some closer => closesAtEnd (closer :: awaited) rest
    | none =>
      match awaited with
      | [] => false
      | closer :: outer =>
        if isCloser character then
          character = closer && (!outer.isEmpty || rest.isEmpty) && closesAtEnd outer rest
        else closesAtEnd awaited rest

/-- The inside of a text that a single pair of brackets encloses. -/
def interior? : Text → Option Text
  | [] => none
  | opener :: rest =>
    match closerOf? opener with
    | some closer => if closesAtEnd [closer] rest then some rest.dropLast else none
    | none => none

/-- Remove enclosing pairs, at most so many. -/
def stripLayers : Nat → Text → Text
  | 0, text => text
  | layers + 1, text =>
    match interior? text with
    | some inside => stripLayers layers (Text.trim inside)
    | none => text

/-- Remove every enclosing pair, and the blanks around and inside the pairs. A pair takes two
characters, so the length of the text bounds their number. -/
def strip (text : Text) : Text :=
  let trimmed := Text.trim text
  stripLayers trimmed.length trimmed

/-- The depth behind a character. -/
def depthAfter (depth : Nat) (character : Char) : Nat :=
  if isOpener character then depth + 1
  else if isCloser character then depth - 1
  else depth

/-- Cut at each `*` at depth zero. -/
def productPieces : Nat → Text → List Text
  | _, [] => [[]]
  | depth, character :: rest =>
    if character = '*' && depth == 0 then [] :: productPieces 0 rest
    else (productPieces (depthAfter depth character) rest).modifyHead (character :: ·)

/-- The factors of a product: the text cut at its outermost `*`, each piece trimmed. A blank
text has none. -/
def splitProduct (text : Text) : List Text :=
  if text.allBlank then [] else (productPieces 0 text).map Text.trim

/-- Whether one of the given characters occurs at depth zero. -/
def occursOutside (characters : List Char) : Nat → Text → Bool
  | _, [] => false
  | depth, character :: rest =>
    (depth == 0 && characters.contains character)
      || occursOutside characters (depthAfter depth character) rest

/-- Whether one of the given characters occurs outside every bracket. An opening bracket at
depth zero counts as outside. -/
def hasTopLevel (characters : List Char) (text : Text) : Bool := occursOutside characters 0 text

/-- Enclose a text in round brackets. -/
def parenthesized (text : Text) : Text := '(' :: text ++ [')']

/-- The characters that make a text more than one factor when they stand outside brackets. -/
def compoundMarks : List Char := ['+', ',', '{']

/-- Enclose a text that holds more than one factor. -/
def groupIfCompound (text : Text) : Text :=
  if hasTopLevel compoundMarks text then parenthesized text else text

/-- The text without enclosing brackets, enclosed anew if it holds more than one factor. -/
def regroup (text : Text) : Text := groupIfCompound (strip text)

end PriorArt.Brackets
