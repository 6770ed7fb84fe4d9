import PriorArt.CommandLine.Arguments

/-!
# Requests

A command line names a command. Options in front of the name concern every command; the options
behind it are those of the command, and may stand between its other arguments. The command is
looked at in two steps, because the settings are loaded before the arguments of the command are
read.
-/

namespace PriorArt.CommandLine

/-- The settings in front of a command. -/
inductive CommonOption where
  | settingsFile (path : Text)
  | plainOutput
  | verbose
  | debug
  | quiet
  | version
  | help
  deriving DecidableEq

/-- The options in front of a command. -/
def commonRules : List (OptionRule CommonOption) := [
  ⟨"config", some 'c', .value .settingsFile⟩,
  ⟨"no-color", none, .flag .plainOutput⟩,
  ⟨"verbose", some 'v', .flag .verbose⟩,
  ⟨"debug", none, .flag .debug⟩,
  ⟨"quiet", some 'q', .flag .quiet⟩,
  ⟨"version", none, .flag .version⟩,
  ⟨"help", none, .flag .help⟩]

/-- The commands. -/
inductive CommandName where
  | render
  | parse
  | importQuery
  | initConfig
  | help
  deriving DecidableEq

/-- The word that names a command. -/
def CommandName.word : CommandName → String
  | .render => "render"
  | .parse => "parse"
  | .importQuery => "import"
  | .initConfig => "init-config"
  | .help => "help"

/-- Every command. -/
def CommandName.all : List CommandName := [.help, .importQuery, .initConfig, .parse, .render]

/-- The command that a word names. -/
def CommandName.ofWord? (word : Text) : Option CommandName :=
  CommandName.all.find? (fun name => name.word.toList = word)

/-- A command line that is answered without carrying out a command. -/
inductive Detour where
  /-- The command line does not follow the rules. -/
  | misuse
  | version
  /-- Help is wanted, on a command or on all. -/
  | help (command : Option CommandName)

/-- A command line of which the command's own arguments are still to be read. -/
structure Request where
  settingsFile : Option Text
  verbose : Bool
  quiet : Bool
  command : CommandName
  arguments : List Text

/-- The first option that is answered at once. -/
def firstDetour? : List CommonOption → Option Detour
  | [] => none
  | .version :: _ => some .version
  | .help :: _ => some (.help none)
  | _ :: rest => firstDetour? rest

/-- The path of the settings file, where the last one given counts. -/
def settingsFile? : List CommonOption → Option Text
  | [] => none
  | .settingsFile path :: rest => some ((settingsFile? rest).getD path)
  | _ :: rest => settingsFile? rest

/-- Read the options in front of a command, and keep the arguments behind them. -/
def readCommonOptions (arguments : List Text) :
    Except Detour (List CommonOption × List Text) :=
  match readArguments commonRules false arguments with
  | none => .error .misuse
  | some (options, rest) =>
    match firstDetour? options with
    | some detour => .error detour
    | none => .ok (options, rest)

/-- Read the options in front of a command and the name of the command. Where a word names no
command, the command line is misused, unless the word and what follows it are options that are
answered at once; this happens behind two dashes that end the options too early. -/
def Request.ofArguments (arguments : List Text) : Except Detour Request := do
  let (options, rest) ← readCommonOptions arguments
  match rest with
  | [] => .error .misuse
  | word :: others =>
    match CommandName.ofWord? word with
    | none =>
      let _ ← readCommonOptions (word :: others)
      .error .misuse
    | some command =>
      return {
        settingsFile := settingsFile? options
        verbose := options.contains .verbose || options.contains .debug
        quiet := options.contains .quiet
        command
        arguments := others }

/-- The formats in which queries are written out. -/
inductive OutputFormat where
  | text
  | json
  deriving DecidableEq

/-- The format that a word names. -/
def OutputFormat.ofWord? (word : Text) : Option OutputFormat :=
  if word = "text".toList then some .text
  else if word = "json".toList then some .json
  else none

/-- A command with its arguments. -/
inductive Command where
  /-- Write out the queries of a workbook. -/
  | render (file : Text) (format : Option OutputFormat) (logical : Bool)
  /-- Show the tree of a statement. -/
  | parse (line : Text) (tokens : Bool)
  /-- Import a query and write it out again. -/
  | importQuery (query : Text) (expand : Option Bool)
  /-- Make a settings file. -/
  | initConfig (force : Bool) (path : Option Text)
  /-- Show help. -/
  | help (words : List Text)

/-- An option of a command. -/
inductive CommandOption where
  | format (word : Text)
  | logical
  | tokens
  | expand (wanted : Bool)
  | force
  | output (path : Text)
  | help
  deriving DecidableEq

/-- The word for a format that an option gives. -/
def CommandOption.formatWord? : CommandOption → Option Text
  | .format word => some word
  | _ => none

/-- Whether an option asks for all spellings, if it is about them. -/
def CommandOption.expansion? : CommandOption → Option Bool
  | .expand wanted => some wanted
  | _ => none

/-- The path that an option gives. -/
def CommandOption.path? : CommandOption → Option Text
  | .output path => some path
  | _ => none

/-- The options of a command. -/
def CommandName.rules (name : CommandName) : List (OptionRule CommandOption) :=
  ⟨"help", none, .flag .help⟩ ::
    match name with
    | .render => [⟨"format", some 'f', .value .format⟩, ⟨"logical", some 'l', .flag .logical⟩]
    | .parse => [⟨"tokens", some 't', .flag .tokens⟩]
    | .importQuery =>
      [⟨"variants", none, .flag (.expand true)⟩, ⟨"no-variants", none, .flag (.expand false)⟩]
    | .initConfig => [⟨"force", some 'f', .flag .force⟩, ⟨"output", some 'o', .value .output⟩]
    | .help => []

/-- The last value that a list of options gives. -/
def lastOf {α : Type} (options : List CommandOption) (value? : CommandOption → Option α) :
    Option α :=
  (options.filterMap value?).getLast?

/-- Put together a command from its options and its other arguments. -/
def CommandName.assemble (name : CommandName) (options : List CommandOption)
    (arguments : List Text) : Option Command :=
  match name, arguments with
  | .render, [file] =>
    let logical := options.contains .logical
    match lastOf options CommandOption.formatWord? with
    | none => some (.render file none logical)
    | some word =>
      (OutputFormat.ofWord? word).map (fun format => .render file (some format) logical)
  | .parse, [line] => some (.parse line (options.contains .tokens))
  | .importQuery, word :: words =>
    some (.importQuery (Text.join ' ' (word :: words)) (lastOf options CommandOption.expansion?))
  | .initConfig, [] =>
    some (.initConfig (options.contains .force) (lastOf options CommandOption.path?))
  | .help, words => some (.help words)
  | _, _ => none

/-- Read the arguments of the command. -/
def Request.readCommand (request : Request) : Except Detour Command :=
  match readArguments request.command.rules true request.arguments with
  | none => .error .misuse
  | some (options, arguments) =>
    if options.contains .help then
      .error (.help (some request.command))
    else
      match request.command.assemble options arguments with
      | some command => .ok command
      | none => .error .misuse

end PriorArt.CommandLine
