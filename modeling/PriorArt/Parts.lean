import PriorArt.Brackets
import PriorArt.Expr.Basic
import PriorArt.Token

/-!
# Parts of a query

The search service searches words in the text of a document and classification codes in two
fields. So an expression is turned into two lists of factors, word factors and groups of
codes, all of them to be met at once. A nearness is kept apart from plain text, because its
right side can still take up alternatives before it is written. Expressions have nearnesses with
natural numbers only, but factors can be given directly, so any whole number stands here.

This module holds the parts, the kind of their content, and the two ways of writing them: as a
query, with every factor in its field, and as the bare text of the words alone.
-/

namespace PriorArt

/-- One text near any of several alternatives. -/
structure Nearness where
  left : Text
  alternatives : List Text
  unit : DistanceUnit
  count : Int
  deriving DecidableEq, Repr

/-- One factor of the word side of a query. -/
inductive WordFactor where
  /-- A text to be searched as it stands. -/
  | plain (text : Text)
  | near (nearness : Nearness)
  deriving DecidableEq, Repr

/-- The factors of a query. -/
structure Parts where
  words : List WordFactor
  classes : List Text
  deriving DecidableEq, Repr

/-- What the factors of a query search for. -/
inductive ContentKind where
  | words
  | classes
  | mixed
  | empty
  deriving DecidableEq, Repr

/-- The name of a kind of content. -/
def ContentKind.name : ContentKind → String
  | .words => "word"
  | .classes => "class"
  | .mixed => "mixed"
  | .empty => "empty"

/-- A text as a factor that is searched in the text of documents. -/
def renderWord (text : Text) : Text := Brackets.regroup text ++ Field.text.suffix.toList

namespace Nearness

/-- One text near another within a distance. -/
def ofDistance (left right : Text) (distance : Distance) : Nearness :=
  ⟨left, [right], distance.unit, distance.count⟩

/-- The nearness with further alternatives. -/
def withAlternatives (nearness : Nearness) (further : List Text) : Nearness :=
  { nearness with alternatives := nearness.alternatives ++ further }

/-- How near the texts must be, as it is written between commas. -/
def reach (nearness : Nearness) : Text :=
  ',' :: signedDecimal nearness.count ++ [nearness.unit.letter, ',']

/-- The nearness without a field. -/
def text (nearness : Nearness) : Text :=
  let right :=
    match nearness.alternatives.map Brackets.strip with
    | [alternative] => Brackets.groupIfCompound alternative
    | several => Brackets.parenthesized (Text.join '+' several)
  Brackets.regroup nearness.left ++ nearness.reach ++ right

/-- The nearness in the form of a query. Every alternative on the right is in its field, and the
field of the left side follows from it. -/
def render (nearness : Nearness) : Text :=
  '[' :: Brackets.regroup nearness.left ++ nearness.reach
    ++ Text.join '+' (nearness.alternatives.map renderWord) ++ [']']

end Nearness

namespace WordFactor

/-- Whether the factor searches for anything; a nearness always does. -/
def hasContent : WordFactor → Bool
  | plain text => !text.allBlank
  | near .. => true

/-- The factor without its field. -/
def text : WordFactor → Text
  | plain text => Text.trim text
  | near nearness => nearness.text

end WordFactor

/-- A group of codes, searched in both classification fields. -/
def renderClass (group : Text) : Text :=
  let enclosed := Brackets.parenthesized (Brackets.strip group)
  '[' :: enclosed ++ Field.primaryClass.suffix.toList
    ++ '+' :: enclosed ++ Field.furtherClass.suffix.toList ++ [']']

/-- A word factor in the form of a query; nothing for a text that is empty inside its
brackets. -/
def WordFactor.render? : WordFactor → Option Text
  | plain text => if (Brackets.strip text).isEmpty then none else some (renderWord text)
  | near nearness => some nearness.render

/-- A group of codes in the form of a query; nothing for a group that is empty inside its
brackets. -/
def renderClass? (group : Text) : Option Text :=
  if (Brackets.strip group).isEmpty then none else some (renderClass group)

namespace Parts

/-- The parts that search for nothing. -/
def empty : Parts := ⟨[], []⟩

/-- A single word factor. -/
def ofFactor (factor : WordFactor) : Parts := ⟨[factor], []⟩

/-- A text as a single word factor. -/
def ofText (text : Text) : Parts := ofFactor (.plain text)

/-- A text without the blanks around it as a single word factor, if anything is left. -/
def ofTrimmed (text : Text) : Parts :=
  match Text.trim text with
  | [] => empty
  | trimmed => ofText trimmed

/-- A single group of codes. -/
def ofClass (group : Text) : Parts := ⟨[], [group]⟩

/-- The factors of two parts together. -/
def append (left right : Parts) : Parts :=
  ⟨left.words ++ right.words, left.classes ++ right.classes⟩

instance : Append Parts := ⟨append⟩

/-- The kind of content. -/
def kind (parts : Parts) : ContentKind :=
  match parts.words.any WordFactor.hasContent, parts.classes.any (fun group => !group.allBlank) with
  | true, true => .mixed
  | true, false => .words
  | false, true => .classes
  | false, false => .empty

/-- The query for the parts: the word factors, then the groups of codes, all joined by `*`. -/
def render (parts : Parts) : Text :=
  Text.join '*' (parts.words.filterMap WordFactor.render? ++ parts.classes.filterMap renderClass?)

/-- The text of the word factors without fields. A single factor stands as it is; several are
enclosed where they would fall apart. -/
def wordsText (parts : Parts) : Text :=
  match (parts.words.map WordFactor.text).filter (fun text => !text.isEmpty) with
  | [text] => text
  | texts => Text.join '*' (texts.map Brackets.regroup)

/-- The text of the groups of codes without fields. A single group stands without brackets. -/
def classesText (parts : Parts) : Text :=
  match (parts.classes.filter (fun group => !group.allBlank)).map Brackets.strip with
  | [group] => group
  | groups => Text.join '*' (groups.map Brackets.parenthesized)

end Parts

end PriorArt
