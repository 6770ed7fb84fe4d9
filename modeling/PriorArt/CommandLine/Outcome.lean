import PriorArt.CommandLine.Console
import PriorArt.CommandLine.Markup

/-!
# Outcomes

What a run yields: an exit status, the texts of the two output streams, and the files to be
written. Errors, doubts and advice are lines on the error stream, each with its lead.

A line is either plain, as a query is, whose brackets are no tags, or it shows a message with tags.
Emoji are called by name in both.
-/

namespace PriorArt.CommandLine

/-- What a run yields. -/
structure Outcome where
  status : Nat
  /-- The rows of the table in front of the output, if a command shows one. -/
  table : List (List Text)
  output : Text
  errors : Text
  /-- The files to be written, by path. -/
  files : List (Text × Text)

namespace Outcome

/-- A run that yields nothing but a status. -/
def silent (status : Nat) : Outcome := ⟨status, [], [], [], []⟩

/-- A plain line. -/
def plainLine (text : Text) : Text := shown (withEmojis text) ++ ['\n']

/-- The line that shows a message. -/
def messageLine (message : Text) : Text := shown (unmarked message) ++ ['\n']

/-- The line for news in a style. -/
def noteLine (style : String) (message : Text) : Text := messageLine (styled style message)

/-- The report of an error. -/
def errorLine (message : Text) : Text :=
  messageLine (styled "error" "Error:".toList ++ ' ' :: message)

/-- The report of a doubt. -/
def warningLine (message : Text) : Text :=
  messageLine (styled "warning" "Warning:".toList ++ ' ' :: message)

/-- The advice below an error. -/
def hintLine (message : Text) : Text :=
  messageLine (' ' :: ' ' :: styled "info" "Hint:".toList ++ ' ' :: message)

/-- A run that yields a status and a text, which is written as it is. -/
def answer (status : Nat) (text : Text) : Outcome :=
  { silent status with output := text ++ ['\n'] }

/-- A run that fails with an error. -/
def failure (report : Text) : Outcome := { silent 1 with errors := report }

/-- The run with further reports in front of its own. -/
def after (reports : Text) (outcome : Outcome) : Outcome :=
  { outcome with errors := reports ++ outcome.errors }

/-- The text of the output stream, where the cells of a row are separated by tabs. -/
def outputText (outcome : Outcome) : Text :=
  outcome.table.flatMap (fun row => Text.join '\t' row ++ ['\n']) ++ outcome.output

end Outcome

end PriorArt.CommandLine
