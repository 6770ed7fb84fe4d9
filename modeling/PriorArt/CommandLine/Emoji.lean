import PriorArt.Text.Letter
import PriorArt.CommandLine.EmojiTable

/-!
# Emoji by name

A message can call for an emoji by its name between colons, in letters of either case. A style
behind the name asks for the emoji in colour or as plain text. Names that no emoji has stay as
they are, with their colons, and a colon closes or opens one name only.
-/

namespace PriorArt.CommandLine

/-- Every emoji with names, apart from the hands and people that have a colour. -/
def namedEmojis : List NamedEmoji :=
  tonedEmojis ++ symbolEmojis ++ enclosedEmojis ++ flagEmojis ++ sceneryEmojis ++ objectEmojis
    ++ signEmojis ++ faceEmojis ++ transportEmojis ++ furtherEmojis ++ compoundEmojis

/-- The skin tones: the end of a name that asks for one, and the character that gives it. -/
def skinTones : List (String × Nat) := [
  ("_light_skin_tone", 0x1F3FB), ("_medium-light_skin_tone", 0x1F3FC),
  ("_medium_skin_tone", 0x1F3FD), ("_medium-dark_skin_tone", 0x1F3FE),
  ("_dark_skin_tone", 0x1F3FF)]

/-- The styles of an emoji: the end of a name that asks for one, and the mark that gives it. -/
def emojiStyles : List (String × Nat) := [("-emoji", 0xFE0F), ("-text", 0xFE0E)]

/-- The code points of an emoji in a skin tone. The tone stands behind the hand or the person, in
the place of a mark for the style. -/
def withTone (tone : Nat) : List Nat → List Nat
  | [] => []
  | base :: 0xFE0F :: rest => base :: tone :: rest
  | base :: rest => base :: tone :: rest

/-- The code points of the emoji with a name. -/
def emojiNamed? (emojis : List NamedEmoji) (name : Text) : Option (List Nat) :=
  (emojis.find? (fun emoji => emoji.names.contains (String.ofList name))).map NamedEmoji.codes

/-- The first ending that a text has: what stands in front of it, and what goes with it. -/
def ending? (endings : List (String × Nat)) (text : Text) : Option (Text × Nat) :=
  endings.findSome? (fun (ending, code) =>
    if ending.toList.isSuffixOf text then
      some (text.take (text.length - ending.toList.length), code)
    else none)

/-- The code points of the emoji with a name in small letters, in a skin tone if the name asks for
one. -/
def emojiCodes? (name : Text) : Option (List Nat) :=
  match emojiNamed? namedEmojis name with
  | some codes => some codes
  | none =>
    match ending? skinTones name with
    | some (base, tone) => (emojiNamed? tonedEmojis base).map (withTone tone)
    | none => none

/-- What is shown for a name between colons. -/
def calledEmoji (name : Text) : Text :=
  let (base, style) :=
    match ending? emojiStyles name with
    | some (base, mark) => (base, [mark])
    | none => (name, [])
  match emojiCodes? (Text.lower base) with
  | some codes => (codes ++ style).map Char.ofNat
  | none => ':' :: name ++ [':']

/-- Put emoji in the place of names, in the pieces of a text that stand behind a colon each. A
piece is a name if it has no blanks and a colon follows. -/
def emojiBehindColon : List Text → Text
  | [] => []
  | [last] => ':' :: last
  | name :: behind :: pieces =>
    if name.any isBlank then ':' :: name ++ emojiBehindColon (behind :: pieces)
    else calledEmoji name ++ behind ++ emojiBehindColon pieces

/-- A text with emoji in the place of their names. -/
def withEmojis (text : Text) : Text :=
  match Text.pieces ':' text with
  | [] => []
  | first :: pieces => first ++ emojiBehindColon pieces

end PriorArt.CommandLine
