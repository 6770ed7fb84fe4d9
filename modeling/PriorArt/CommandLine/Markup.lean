import PriorArt.CommandLine.Emoji

/-!
# Styled messages

A message is styled by tags: words in square brackets that begin with a small letter or one of
`#`, `/` and `@`. A tag is not shown. A backslash in front guards it, so that it is shown as text;
two backslashes in front stand for one that is shown. A backslash in front of a bracket that
opens no tag is not shown either.

A text from outside that must not set a style is guarded before it becomes part of a message.
Emoji are called by name between tags, not across them.
-/

namespace PriorArt.CommandLine

/-- Whether a character can be the first of a tag. -/
def opensTag (character : Char) : Bool :=
  character.isLower || ['#', '/', '@'].contains character

/-- The tag at the start of the text between an opening bracket and the next one, and what follows
its closing bracket. -/
def tagBehind? : Text → Option (Text × Text)
  | [] => none
  | first :: rest =>
    match rest.dropWhile (fun character => character ≠ ']') with
    | [] => none
    | _ :: behind =>
      if opensTag first then
        some (first :: rest.takeWhile (fun character => character ≠ ']'), behind)
      else none

/-- The number of backslashes at the end of a text. -/
def closingBackslashes (text : Text) : Nat :=
  (text.reverse.takeWhile (fun character => character = '\\')).length

/-- Several backslashes. -/
def backslashes (count : Nat) : Text := List.replicate count '\\'

/-- A tag with its brackets. -/
def bracketed (tag : Text) : Text := '[' :: tag ++ [']']

/-- Guard the tags in a text, of which a front part and the pieces between the further opening
brackets are given. The backslashes in front of a tag are doubled, and one guards the tag. -/
def guardedFrom (front : Text) : List Text → Text
  | [] => front
  | piece :: pieces =>
    match tagBehind? piece with
    | none => guardedFrom (front ++ '[' :: piece) pieces
    | some (tag, behind) =>
      front ++ backslashes (closingBackslashes front + 1) ++ bracketed tag
        ++ guardedFrom behind pieces

/-- A text whose single backslash at the end is doubled. -/
def withDoubledEnd (text : Text) : Text :=
  if closingBackslashes text = 1 then text ++ ['\\'] else text

/-- A text as part of a message, with its tags guarded. -/
def guarded (text : Text) : Text :=
  match Text.pieces '[' text with
  | [] => []
  | front :: pieces => withDoubledEnd (guardedFrom front pieces)

/-- A text without the backslashes in front of opening brackets. -/
def withoutGuards : Text → Text
  | '\\' :: '[' :: rest => '[' :: withoutGuards rest
  | character :: rest => character :: withoutGuards rest
  | [] => []

/-- What is shown of a part of a message between tags. -/
def plainPart (text : Text) : Text := withEmojis (withoutGuards text)

/-- What is shown of a message, of which a front part without tags and the pieces between the
further opening brackets are given. -/
def unmarkedFrom (front : Text) : List Text → Text
  | [] => plainPart front
  | piece :: pieces =>
    match tagBehind? piece with
    | none => unmarkedFrom (front ++ '[' :: piece) pieces
    | some (tag, behind) =>
      let count := closingBackslashes front
      plainPart (front.take (front.length - count)) ++ backslashes (count / 2)
        ++ (if count % 2 = 1 then plainPart (bracketed tag) else [])
        ++ unmarkedFrom behind pieces

/-- What is shown of a message. -/
def unmarked (message : Text) : Text :=
  match Text.pieces '[' message with
  | [] => []
  | front :: pieces => unmarkedFrom front pieces

/-- A text in a style. -/
def styled (style : String) (text : Text) : Text :=
  bracketed style.toList ++ text ++ bracketed ('/' :: style.toList)

end PriorArt.CommandLine
