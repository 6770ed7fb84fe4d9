import PriorArt.CommandLine.Outcome
import PriorArt.CommandLine.Request

/-!
# Help

The answers to command lines that carry out no command: the version, help on one command or on
all, and the overview for a command line that is used in a wrong way.
-/

namespace PriorArt.CommandLine

/-- The version of the program. -/
def versionText : Text := "patent-query, version 0.1.0".toList

/-- The purpose of a command in a few words. -/
def CommandName.purpose : CommandName → String
  | .render => "Render every query line of a workbook FILE."
  | .parse => "Parse LINE and print its tree as JSON."
  | .importQuery => "Split a rendered QUERY into word, classification and expression entities."
  | .initConfig => "Create a new configuration file with default settings."
  | .help => "Show help for a command."

/-- Help on a command or on all. -/
def helpText : Option CommandName → Text
  | some name => s!"Usage: patent-query {name.word} [OPTIONS]\n\n  {name.purpose}".toList
  | none =>
    "Usage: patent-query [OPTIONS] COMMAND [ARGS]...\n\nCommands:".toList
      ++ CommandName.all.flatMap (fun name => s!"\n  {name.word}  {name.purpose}".toList)

/-- The answer to a command line that carries out no command. -/
def Detour.outcome : Detour → Outcome
  | .misuse => { Outcome.silent 2 with errors := helpText none ++ ['\n'] }
  | .version => .answer 0 versionText
  | .help command => .answer 0 (helpText command)

end PriorArt.CommandLine
