import PriorArt.Text.Numeral
import PriorArt.Toml.Tables

/-!
# Reading TOML

A document is read in one pass. Pairs of a carriage return and a line feed count as line feeds;
a carriage return on its own is a control character like others, which no string and no comment
may hold. Each reader takes the text in front of it and gives what it read with the text behind,
or nothing. What is wrong with a document is not reported, since a message could only repeat the
standard.

Values nest, and a reader of values calls itself for the items of arrays and in-line tables; each
call takes a character, so the length of the text bounds the depth.
-/

namespace PriorArt.Toml

/-- Whether a character separates the parts of a line. -/
def isSpace (character : Char) : Bool := character = ' ' || character = '\t'

/-- The text behind the spaces of a line. -/
def skipSpaces (text : Text) : Text := text.dropWhile isSpace

/-- Whether a character is a control other than the tab. -/
def isControl (character : Char) : Bool :=
  (character.toNat < 32 && character ≠ '\t') || character.toNat = 127

/-- Whether a character is a control other than the tab and the line feed. -/
def isBlockControl (character : Char) : Bool := isControl character && character ≠ '\n'

/-- Take the given characters from the front of a text. -/
def stripFront? : Text → Text → Option Text
  | [], text => some text
  | _ :: _, [] => none
  | wanted :: rest, character :: text =>
    if wanted = character then stripFront? rest text else none

/-- Write each pair of a carriage return and a line feed as a line feed. -/
def unifyLineEnds : Text → Text
  | [] => []
  | '\r' :: '\n' :: rest => '\n' :: unifyLineEnds rest
  | character :: rest => character :: unifyLineEnds rest

/-! ## Strings -/

/-- The value of a hexadecimal digit. -/
def hexDigit? (character : Char) : Option Nat :=
  if '0' ≤ character && character ≤ '9' then some (character.toNat - '0'.toNat)
  else if 'a' ≤ character && character ≤ 'f' then some (character.toNat - 'a'.toNat + 10)
  else if 'A' ≤ character && character ≤ 'F' then some (character.toNat - 'A'.toNat + 10)
  else none

/-- The number that hexadecimal digits write, continued from a front part. -/
def hexNumberFrom? (value : Nat) : Text → Option Nat
  | [] => some value
  | character :: rest =>
    (hexDigit? character).bind (fun digit => hexNumberFrom? (16 * value + digit) rest)

/-- The character with a code point given by so many hexadecimal digits. -/
def codePoint? (digits : Nat) (text : Text) : Option (Char × Text) :=
  if text.length < digits then none
  else
    match hexNumberFrom? 0 (text.take digits) with
    | some code => if code.isValidChar then some (Char.ofNat code, text.drop digits) else none
    | none => none

/-- The character that an escape stands for, from the text behind the backslash. -/
def escape? : Text → Option (Char × Text)
  | 'b' :: rest => some ('\x08', rest)
  | 't' :: rest => some ('\t', rest)
  | 'n' :: rest => some ('\n', rest)
  | 'f' :: rest => some ('\x0c', rest)
  | 'r' :: rest => some ('\r', rest)
  | '"' :: rest => some ('"', rest)
  | '\\' :: rest => some ('\\', rest)
  | 'u' :: rest => codePoint? 4 rest
  | 'U' :: rest => codePoint? 8 rest
  | _ => none

/-- A string on one line, from the text behind its opening quote. -/
def basicString? : Nat → Text → Option (Text × Text)
  | 0, _ | _, [] => none
  | _ + 1, '"' :: rest => some ([], rest)
  | bound + 1, '\\' :: rest => do
    let (character, rest) ← escape? rest
    let (text, rest) ← basicString? bound rest
    return (character :: text, rest)
  | bound + 1, character :: rest =>
    if isControl character then none
    else do
      let (text, rest) ← basicString? bound rest
      return (character :: text, rest)

/-- A string without escapes on one line, from the text behind its opening quote. -/
def literalString? : Text → Option (Text × Text)
  | [] => none
  | '\'' :: rest => some ([], rest)
  | character :: rest =>
    if isControl character then none
    else do
      let (text, rest) ← literalString? rest
      return (character :: text, rest)

/-- Up to two quotes in front of the closing ones, which belong to a string of several lines,
from the text behind the first three. -/
def closingQuotes (quote : Char) : Text → Text × Text
  | first :: second :: rest =>
    if first = quote then
      if second = quote then ([quote, quote], rest) else ([quote], second :: rest)
    else ([], first :: second :: rest)
  | [first] => if first = quote then ([quote], []) else ([], [first])
  | [] => ([], [])

/-- The text behind an escaped line end: the rest of the line must be spaces, and all blanks in
front of the next text are dropped. -/
def escapedLineEnd? (text : Text) : Option Text :=
  match skipSpaces text with
  | '\n' :: rest => some (rest.dropWhile (fun character => isSpace character || character = '\n'))
  | [] => some []
  | _ => none

/-- A string of several lines, from the text behind its opening quotes. -/
def multilineBasicString? : Nat → Text → Option (Text × Text)
  | 0, _ | _, [] => none
  | _ + 1, '"' :: '"' :: '"' :: rest => some (closingQuotes '"' rest)
  | bound + 1, '\\' :: rest =>
    match escape? rest with
    | some (character, rest) => do
      let (text, rest) ← multilineBasicString? bound rest
      return (character :: text, rest)
    | none =>
      match rest with
      | ' ' :: _ | '\t' :: _ | '\n' :: _ => do multilineBasicString? bound (← escapedLineEnd? rest)
      | _ => none
  | bound + 1, character :: rest =>
    if isBlockControl character then none
    else do
      let (text, rest) ← multilineBasicString? bound rest
      return (character :: text, rest)

/-- A string of several lines without escapes, from the text behind its opening quotes. -/
def multilineLiteralString? : Text → Option (Text × Text)
  | [] => none
  | '\'' :: '\'' :: '\'' :: rest => some (closingQuotes '\'' rest)
  | character :: rest =>
    if isBlockControl character then none
    else do
      let (text, rest) ← multilineLiteralString? rest
      return (character :: text, rest)

/-- A line feed directly behind the opening quotes does not belong to a string. -/
def dropLineFeed : Text → Text
  | '\n' :: rest => rest
  | text => text

/-- A string of any kind, from its opening quote on. -/
def string? : Text → Option (Text × Text)
  | '"' :: '"' :: '"' :: rest => multilineBasicString? rest.length (dropLineFeed rest)
  | '"' :: rest => basicString? rest.length rest
  | '\'' :: '\'' :: '\'' :: rest => multilineLiteralString? (dropLineFeed rest)
  | '\'' :: rest => literalString? rest
  | _ => none

/-! ## Keys -/

/-- The characters of keys without quotes. -/
def isBareKeyChar (character : Char) : Bool :=
  character.isAlphanum || character = '-' || character = '_'

/-- One part of a key. -/
def keyPart? : Text → Option (Text × Text)
  | '"' :: rest => basicString? rest.length rest
  | '\'' :: rest => literalString? rest
  | text =>
    match text.takeWhile isBareKeyChar with
    | [] => none
    | part => some (part, text.dropWhile isBareKeyChar)

/-- A key, its parts separated by dots. -/
def key? : Nat → Text → Option (List Text × Text)
  | 0, _ => none
  | bound + 1, text => do
    let (part, rest) ← keyPart? text
    match skipSpaces rest with
    | '.' :: rest =>
      let (parts, rest) ← key? bound (skipSpaces rest)
      return (part :: parts, rest)
    | rest => return ([part], rest)

/-! ## Numbers, dates and times -/

/-- The further digits of a number, between which single underscores may stand. -/
def moreDigits (isDigit : Char → Bool) : Text → Text × Text
  | '_' :: character :: rest =>
    if isDigit character then
      let (digits, behind) := moreDigits isDigit rest
      (character :: digits, behind)
    else ([], '_' :: character :: rest)
  | character :: rest =>
    if isDigit character then
      let (digits, behind) := moreDigits isDigit rest
      (character :: digits, behind)
    else ([], character :: rest)
  | [] => ([], [])

/-- The digits of a number, at least one, without the underscores. -/
def digits? (isDigit : Char → Bool) : Text → Option (Text × Text)
  | [] => none
  | character :: rest =>
    if isDigit character then
      let (digits, behind) := moreDigits isDigit rest
      some (character :: digits, behind)
    else none

/-- A whole number without sign in base sixteen, two or eight. -/
def basedInteger? : Text → Option (Value × Text)
  | '0' :: 'x' :: rest => read 16 (fun character => (hexDigit? character).isSome) rest
  | '0' :: 'b' :: rest => read 2 (fun character => character = '0' || character = '1') rest
  | '0' :: 'o' :: rest => read 8 (fun character => '0' ≤ character && character ≤ '7') rest
  | _ => none
where
  /-- Read the digits in a base. -/
  read (base : Nat) (isDigit : Char → Bool) (text : Text) : Option (Value × Text) :=
    (digits? isDigit text).map (fun (digits, rest) =>
      (.integer (digits.foldl (fun value digit => base * value + (hexDigit? digit).getD 0) 0 : Nat),
        rest))

/-- The text behind an optional sign, and whether the sign is a minus. -/
def sign : Text → Bool × Text
  | '-' :: rest => (true, rest)
  | '+' :: rest => (false, rest)
  | text => (false, text)

/-- The digits of a decimal number, which has no leading zeros. -/
def decimalDigits? : Text → Option (Text × Text)
  | '0' :: rest => some (['0'], rest)
  | text => digits? Char.isDigit text

/-- The text behind an optional fraction. -/
def skipFraction : Text → Text
  | '.' :: rest =>
    match digits? Char.isDigit rest with
    | some (_, behind) => behind
    | none => '.' :: rest
  | text => text

/-- The text behind an optional exponent. -/
def skipExponent (text : Text) : Text :=
  match text with
  | 'e' :: rest | 'E' :: rest =>
    match digits? Char.isDigit (sign rest).2 with
    | some (_, behind) => behind
    | none => text
  | _ => text

/-- The part of a text in front of a later part. -/
def before (text behind : Text) : Text := text.take (text.length - behind.length)

/-- A decimal number, whole or not. -/
def decimal? (text : Text) : Option (Value × Text) := do
  let (negative, unsigned) := sign text
  let (digits, rest) ← decimalDigits? unsigned
  let behind := skipExponent (skipFraction rest)
  if behind.length < rest.length then return (.float (before text behind), behind)
  else
    let value : Int := Nat.ofDigitChars 10 digits 0
    return (.integer (if negative then -value else value), rest)

/-- Infinity or the value that is no number. -/
def specialFloat? (text : Text) : Option (Value × Text) :=
  let unsigned := (sign text).2
  match stripFront? ['i', 'n', 'f'] unsigned, stripFront? ['n', 'a', 'n'] unsigned with
  | some rest, _ | none, some rest => some (.float (before text rest), rest)
  | none, none => none

/-- A number of two digits that is at most so large. -/
def twoDigits? (least most : Nat) : Text → Option (Nat × Text)
  | tens :: ones :: rest =>
    if tens.isDigit && ones.isDigit then
      let value := Nat.ofDigitChars 10 [tens, ones] 0
      if least ≤ value && value ≤ most then some (value, rest) else none
    else none
  | _ => none

/-- The text behind the fraction of a second. -/
def skipSecondFraction : Text → Text
  | '.' :: digit :: rest =>
    if digit.isDigit then rest.dropWhile Char.isDigit else '.' :: digit :: rest
  | text => text

/-- The text behind a time of day. -/
def timeOfDay? (text : Text) : Option Text := do
  let (_, rest) ← twoDigits? 0 23 text
  let rest ← stripFront? [':'] rest
  let (_, rest) ← twoDigits? 0 59 rest
  let rest ← stripFront? [':'] rest
  let (_, rest) ← twoDigits? 0 59 rest
  return skipSecondFraction rest

/-- The text behind the offset of a time from universal time. -/
def offset? : Text → Option Text
  | 'Z' :: rest | 'z' :: rest => some rest
  | '+' :: rest | '-' :: rest => do
    let (_, rest) ← twoDigits? 0 23 rest
    let rest ← stripFront? [':'] rest
    let (_, rest) ← twoDigits? 0 59 rest
    return rest
  | _ => none

/-- The number of days of a month. -/
def daysOfMonth (year month : Nat) : Nat :=
  if month = 2 then
    if year % 4 = 0 && (year % 100 ≠ 0 || year % 400 = 0) then 29 else 28
  else if month = 4 || month = 6 || month = 9 || month = 11 then 30
  else 31

/-- Year, month and day as they are written, whether or not there is such a day. -/
def date? : Text → Option ((Nat × Nat × Nat) × Text)
  | first :: second :: third :: fourth :: '-' :: rest => do
    let year := [first, second, third, fourth]
    if !year.all Char.isDigit then none
    let (month, rest) ← twoDigits? 1 12 rest
    let rest ← stripFront? ['-'] rest
    let (day, rest) ← twoDigits? 1 31 rest
    return ((Nat.ofDigitChars 10 year 0, month, day), rest)
  | _ => none

/-- The text behind a date and the time that may follow it. -/
def behindDateTime (behindDate : Text) : Text :=
  match behindDate with
  | separator :: rest =>
    if separator = 'T' || separator = 't' || separator = ' ' then
      match timeOfDay? rest with
      | some behindTime => (offset? behindTime).getD behindTime
      | none => behindDate
    else behindDate
  | [] => []

/-- A date or a time at the front of a text, if anything there is written as one. A date that
does not exist has no value. -/
def moment? (text : Text) : Option (Option (Value × Text)) :=
  match date? text with
  | some ((year, month, day), behindDate) =>
    let behind := behindDateTime behindDate
    if year = 0 || daysOfMonth year month < day then some none
    else some (some (.moment (before text behind), behind))
  | none =>
    match timeOfDay? text with
    | some behind => some (some (.moment (before text behind), behind))
    | none => none

/-- A number, date or time. -/
def plainValue? (text : Text) : Option (Value × Text) :=
  match moment? text with
  | some moment => moment
  | none => basedInteger? text <|> decimal? text <|> specialFloat? text

/-! ## Values -/

/-- The text behind a comment, which ends with its line. -/
def behindComment? : Text → Option Text
  | [] => some []
  | '\n' :: rest => some ('\n' :: rest)
  | character :: rest => if isControl character then none else behindComment? rest

/-- The text behind the comments and blanks between the items of an array. -/
def behindComments? : Nat → Text → Option Text
  | 0, _ => none
  | bound + 1, text =>
    match text.dropWhile (fun character => isSpace character || character = '\n') with
    | '#' :: rest => do behindComments? bound (← behindComment? rest)
    | rest => some rest

mutual

/-- A value. -/
def value? : Nat → Text → Option (Value × Text)
  | 0, _ => none
  | depth + 1, text =>
    match text with
    | '"' :: _ | '\'' :: _ => (string? text).map (fun (text, rest) => (.string text, rest))
    | '[' :: rest => do
      let (items, rest) ← items? depth (← behindComments? text.length rest)
      return (.array items, rest)
    | '{' :: rest =>
      match skipSpaces rest with
      | '}' :: rest => some (.table [], rest)
      | rest => do
        let (entries, rest) ← pairs? depth [] rest
        return (.table (finishEntries entries), rest)
    | _ =>
      match stripFront? "true".toList text, stripFront? "false".toList text with
      | some rest, _ => some (.boolean true, rest)
      | none, some rest => some (.boolean false, rest)
      | none, none => plainValue? text

/-- The items of an array with its closing bracket. A comma may follow the last item. -/
def items? : Nat → Text → Option (List Value × Text)
  | 0, _ => none
  | _ + 1, ']' :: rest => some ([], rest)
  | depth + 1, text => do
    let (item, rest) ← value? depth text
    match ← behindComments? text.length rest with
    | ']' :: rest => return ([item], rest)
    | ',' :: rest =>
      let (items, rest) ← items? depth (← behindComments? text.length rest)
      return (item :: items, rest)
    | _ => none

/-- The assignments of an in-line table with its closing brace, added to those before. -/
def pairs? : Nat → Entries → Text → Option (Entries × Text)
  | 0, _, _ => none
  | depth + 1, entries, text => do
    let (key, rest) ← key? text.length text
    let rest ← stripFront? ['='] rest
    let (value, rest) ← value? depth (skipSpaces rest)
    let entries ← entries.assign 0 value key
    match skipSpaces rest with
    | '}' :: rest => return (entries, rest)
    | ',' :: rest => pairs? depth entries (skipSpaces rest)
    | _ => none

end

/-! ## Documents -/

/-- What has been read of a document: the header of the section and its number, and the
entries. -/
structure Progress where
  header : List Text
  sectionNumber : Nat
  entries : Entries

/-- Read an assignment. -/
def assignment? (progress : Progress) (text : Text) : Option (Progress × Text) := do
  let (key, rest) ← key? (text.length + 1) text
  let rest ← stripFront? ['='] rest
  let (value, rest) ← value? (text.length + 1) (skipSpaces rest)
  let entries ← progress.entries.assignUnder progress.sectionNumber value key progress.header
  return ({ progress with entries }, rest)

/-- Read the header of a table, from the text behind its bracket. -/
def tableHeader? (progress : Progress) (text : Text) : Option (Progress × Text) := do
  let (path, rest) ← key? (text.length + 1) (skipSpaces text)
  let entries ← progress.entries.declareTable path
  let rest ← stripFront? [']'] rest
  return (⟨path, progress.sectionNumber + 1, entries⟩, rest)

/-- Read the header of a table in an array, from the text behind its brackets. -/
def elementHeader? (progress : Progress) (text : Text) : Option (Progress × Text) := do
  let (path, rest) ← key? (text.length + 1) (skipSpaces text)
  let entries ← progress.entries.declareElement path
  let rest ← stripFront? [']', ']'] rest
  return (⟨path, progress.sectionNumber + 1, entries⟩, rest)

/-- Read what a line states, if anything. -/
def statement? (progress : Progress) (text : Text) : Option (Progress × Text) :=
  match text with
  | [] | '\n' :: _ | '#' :: _ => some (progress, text)
  | '[' :: '[' :: rest => elementHeader? progress rest
  | '[' :: rest => tableHeader? progress rest
  | _ => assignment? progress text

/-- The text behind the end of a line, in front of which only a comment may stand. -/
def lineEnd? (text : Text) : Option Text := do
  let rest ←
    match skipSpaces text with
    | '#' :: rest => behindComment? rest
    | rest => some rest
  match rest with
  | [] => some []
  | '\n' :: rest => some rest
  | _ => none

/-- Read the lines of a document. Each line takes a character, the last one perhaps none. -/
def lines? : Nat → Progress → Text → Option Entries
  | 0, _, _ => none
  | _ + 1, progress, [] => some progress.entries
  | bound + 1, progress, text => do
    let (progress, rest) ← statement? progress (skipSpaces text)
    lines? bound progress (← lineEnd? rest)

/-- Read a document. -/
def parse? (text : Text) : Option Document :=
  let unified := unifyLineEnds text
  (lines? (unified.length + 1) ⟨[], 0, []⟩ unified).map finishEntries

end PriorArt.Toml
