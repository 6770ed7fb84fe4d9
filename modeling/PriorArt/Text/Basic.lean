/-!
# Text

Expressions, names, codes and query strings are lists of Unicode code points, so that every
operation on them is an equation on lists and positions count code points.

This module holds the two classes of characters the whole library shares, blanks and line
ends, and the cutting and joining operations built on them. Character classes of one notation
(separators of expressions, brackets, field suffixes) stand with that notation.
-/

namespace PriorArt

/-- A text is its list of code points. -/
abbrev Text := List Char

/-- The blanks are the code points with the white-space property of Unicode, together with the
four information separators `U+001C` to `U+001F`. -/
def isBlank (character : Char) : Bool :=
  let code := character.toNat
  (9 ≤ code && code ≤ 13) || (28 ≤ code && code ≤ 32) || code == 0x85 || code == 0xA0
    || code == 0x1680 || (0x2000 ≤ code && code ≤ 0x200A) || code == 0x2028 || code == 0x2029
    || code == 0x202F || code == 0x205F || code == 0x3000

/-- The characters that end a line. The pair of a carriage return and a line feed is one line
end, which `Text.lines` takes care of. -/
def isLineEnd (character : Char) : Bool :=
  let code := character.toNat
  (10 ≤ code && code ≤ 13) || (28 ≤ code && code ≤ 30) || code == 0x85 || code == 0x2028
    || code == 0x2029

namespace Text

/-- Whether a character lies in one of several spans of code points. -/
def inSpans (spans : List (Nat × Nat)) (character : Char) : Bool :=
  spans.any (fun span => span.1 ≤ character.toNat && character.toNat ≤ span.2)

/-- A text without content: every character is blank. -/
def allBlank (text : Text) : Bool := text.all isBlank

/-- Remove the blanks in front. -/
def trimStart (text : Text) : Text := text.dropWhile isBlank

/-- Remove the blanks at the end. A blank is kept exactly when something is kept behind it. -/
def trimEnd : Text → Text
  | [] => []
  | character :: rest =>
    match trimEnd rest with
    | [] => if isBlank character then [] else [character]
    | kept => character :: kept

/-- Remove the blanks at both ends. -/
def trim (text : Text) : Text := trimEnd (trimStart text)

/-- Remove every blank, inside as well as at the ends. -/
def withoutBlanks (text : Text) : Text := text.filter (fun character => !isBlank character)

/-- Cut a text at every separator. There is one piece more than there are separators, so even
the empty text has a piece. -/
def pieces (separator : Char) (text : Text) : List Text := List.splitOn separator text

/-- Join pieces with a separator between neighbours. -/
def join (separator : Char) (parts : List Text) : Text := List.intercalate [separator] parts

/-- The text without its empty form: nothing for the empty text. -/
def nonempty? (text : Text) : Option Text := if text.isEmpty then none else some text

/-- The text without one line feed at its very end. -/
def withoutFinalNewline : Text → Text
  | [] => []
  | ['\n'] => []
  | character :: rest => character :: withoutFinalNewline rest

/-- Collect lines; `current` is the part of the line read so far. -/
def linesFrom (current : Text) : Text → List Text
  | [] => if current.isEmpty then [] else [current]
  | '\r' :: '\n' :: rest => current :: linesFrom [] rest
  | character :: rest =>
    if isLineEnd character then current :: linesFrom [] rest
    else linesFrom (current ++ [character]) rest

/-- The lines of a text, without their line ends. A line end at the very end of the text closes
the last line and starts no other. -/
def lines (text : Text) : List Text := linesFrom [] text

/-- The code-point order on texts, by which names are sorted. -/
def precedes : Text → Text → Bool
  | [], _ => true
  | _ :: _, [] => false
  | left :: lefts, right :: rights =>
    if left = right then precedes lefts rights else left.toNat < right.toNat

/-- The distinct members of a list of texts, sorted by code point. -/
def sortedDistinct (texts : List Text) : List Text := texts.eraseDups.mergeSort precedes

end Text

/-- The decimal digits of a number, without leading zeros. -/
def decimal (number : Nat) : Text := Nat.toDigits 10 number

/-- The decimal digits of a number behind its sign, where only a minus is written. -/
def signedDecimal : Int → Text
  | .ofNat number => decimal number
  | .negSucc number => '-' :: decimal (number + 1)

end PriorArt
