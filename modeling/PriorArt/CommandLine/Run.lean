import PriorArt.CommandLine.Help
import PriorArt.CommandLine.Surroundings
import PriorArt.Expr.Interchange
import PriorArt.Import
import PriorArt.Settings
import PriorArt.Workbook

/-!
# Running a command

A run is a function of the command line and of what it finds around it: the home and working
directories, the files, the standard input, and the numbers from which tokens are drawn. It
yields an exit status, the texts of the two output streams, and the files to be written.

The status is 0 if all went well, 1 if something was wrong with what was given, and 2 if the
command line was used in a wrong way.
-/

namespace PriorArt.CommandLine

/-- The document for the report on a line. -/
def reportDocument (report : LineReport) : Json :=
  let done := report.achievement?
  .obj [("line".toList, .int report.number), ("text".toList, .str report.text),
    ("kind".toList, Json.ofText? (done.map (fun achievement => achievement.kindName.toList))),
    ("entity_id".toList, Json.ofText? (done.bind Achievement.id?)),
    ("query".toList, Json.ofText? (done.map Achievement.queryText)),
    ("logical".toList, Json.ofText? (done.bind Achievement.logical?)),
    ("error".toList, Json.ofText? (report.error?.map String.toList))]

/-- The output for a line that did not fail. -/
def achievementOutput (verbose logical : Bool) (number : Nat) (achievement : Achievement) : Text :=
  match achievement with
  | .query query form =>
    Outcome.plainLine query
      ++ if logical && !form.isEmpty then Outcome.plainLine (' ' :: ' ' :: form) else []
  | defined =>
    if verbose then
      Outcome.noteLine "info"
        (s!"line {number}: defined {defined.kindName} ".toList ++ defined.id?.getD [])
    else []

/-- The output for a line in text form. -/
def reportOutput (verbose logical : Bool) (report : LineReport) : Text :=
  match report.outcome with
  | .ok achievement => achievementOutput verbose logical report.number achievement
  | .error _ => []

/-- The error report for a line in text form. -/
def reportErrors (report : LineReport) : Text :=
  match report.numberedError? with
  | some message => Outcome.errorLine (guarded message.toList)
  | none => []

/-- A workspace without entities. -/
def emptyWorkspace (surroundings : Surroundings) (settings : Settings) : Workspace :=
  let tokens :=
    match TokenSource.make settings.tokenLength TokenSource.standardStock surroundings.numbers with
    | .ok source => source
    | .error _ => TokenSource.standard surroundings.numbers
  ⟨Catalogue.empty settings.entityLimit, tokens⟩

/-- Write out the queries of a workbook. -/
def runRender (surroundings : Surroundings) (settings : Settings) (verbose : Bool) (file : Text)
    (format : Option OutputFormat) (logical : Bool) : Outcome :=
  match surroundings.fileText? file with
  | none => Detour.misuse.outcome
  | some text =>
    let (reports, _) := (Workbook.processText text).run (emptyWorkspace surroundings settings)
    let status := if reports.all LineReport.succeeded then 0 else 1
    match format.orElse (fun _ => OutputFormat.ofWord? settings.outputFormat) with
    | some .json => .answer status (Json.pretty (.arr (reports.map reportDocument)))
    | _ =>
      { Outcome.silent status with
        output := reports.flatMap (reportOutput verbose logical)
        errors := reports.flatMap reportErrors }

/-- The row of a token in the table of tokens. -/
def tokenRow (entry : Token × Nat) : List Text :=
  [decimal entry.2, entry.1.kind.name.toList, entry.1.text]

/-- The document for a statement. -/
def statementDocument (statement : Statement) : Json :=
  .obj [("name".toList, Json.ofText? statement.name),
    ("field".toList, Json.ofText? (statement.field.map (fun field => field.suffix.toList))),
    ("logical".toList, .str statement.expr.text), ("expr".toList, statement.expr.toJson)]

/-- Show the tree of a statement. -/
def runParse (line : Text) (tokens : Bool) : Outcome :=
  let table := if tokens then (Token.scan line).zipIdx.map tokenRow else []
  match Statement.parse line with
  | .ok statement =>
    { Outcome.answer 0 (Json.pretty (statementDocument statement)) with table }
  | .error error =>
    let hint :=
      s!"stopped at {error.stoppedKind.name} token '{String.ofList error.stoppedText}'"
    let report := s!"Invalid expression: {error.message}"
    { Outcome.failure (Outcome.errorLine (guarded report.toList)
        ++ Outcome.hintLine (guarded hint.toList)) with table }

/-- What an entity stands for, in the table of imported entities. -/
def contentText (catalogue : Catalogue) : Entity → Text
  | .word entity => entity.definition
  | .classification group => group.search
  | .expression entity =>
    match entity.root with
    | some root => root.logicalForm catalogue.nameOf
    | none => []

/-- The row of an entity in the table of imported entities. -/
def entityRow (catalogue : Catalogue) (entity : Entity) : List Text :=
  [entity.id, entity.kind.name.toList, entity.label, entity.token, contentText catalogue entity]

/-- The intersection of the groups and expressions among entities, by reference. -/
def recombined? (entities : List Entity) : Option Expr :=
  match (entities.filter (fun entity => entity.kind ≠ .word)).map (fun entity =>
      Expr.reference entity.id) with
  | [] => none
  | first :: others => some (.logical .and first others)

/-- The first line of a text, without blanks at its end. -/
def firstLine (text : Text) : Text :=
  Text.trimEnd (text.takeWhile (fun character => character ≠ '\n'))

/-- Import a query and write it out again. A query that cannot be read is reported on one line. -/
def runImport (surroundings : Surroundings) (settings : Settings) (quiet : Bool) (query : Text)
    (expand : Option Bool) : Outcome :=
  let importing := Import.importQuery (expand.getD settings.expandVariants) query
  match importing.run.run (emptyWorkspace surroundings settings) with
  | (.error failure, _) =>
    .failure (firstLine (Outcome.errorLine (guarded failure.message.toList)) ++ ['\n'])
  | (.ok report, workspace) =>
    let output :=
      if report.entities.isEmpty then
        if quiet then [] else Outcome.noteLine "info" "Nothing to import".toList
      else
        match recombined? report.entities with
        | some expr =>
          "Re-rendered: ".toList ++ Outcome.plainLine (workspace.catalogue.query expr)
        | none => []
    { status := if report.succeeded then 0 else 1
      table := report.entities.map (entityRow workspace.catalogue)
      output
      errors := report.messages.flatMap (fun message =>
        Outcome.errorLine (guarded message.toList))
      files := [] }

/-- The text of a new settings file. -/
def settingsTemplate : String :=
  "# patent-query configuration
# Copy to ~/.config/patent-query/config.toml and adjust.

[store]
# Maximum number of entities per kind (words, classifications, expressions)
max_entities_per_kind = 30
# Length of generated anonymous word tokens
token_length = 5

[display]
# Use colors in terminal output
colored_output = true

[import]
# Expand Latin-letter words into case and full/half-width variants on import
expand_variants = true

[output]
# Default output format for `patent-query render`: \"text\" or \"json\"
format = \"text\"
"

/-- Make a settings file. -/
def runInitConfig (surroundings : Surroundings) (quiet force : Bool) (path : Option Text) :
    Outcome :=
  let path := surroundings.settingsPath path
  if (surroundings.place path).isOccupied && !force then
    .failure (Outcome.errorLine ("Config file already exists: ".toList ++ path)
      ++ Outcome.hintLine "Use --force to overwrite".toList)
  else
    match surroundings.writeFault? path with
    | some fault =>
      .failure (Outcome.errorLine ("Failed to write config file: ".toList ++ fault.message))
    | none =>
      let output :=
        if quiet then []
        else Outcome.noteLine "success" ("Created config file: ".toList ++ path)
          ++ Outcome.noteLine "info" ("Edit this file to change entity limits, token length "
            ++ "and output format.").toList
      { Outcome.silent 0 with output, files := [(path, settingsTemplate.toList)] }

/-- Show help on the first of several words, or on all commands. -/
def runHelp : List Text → Outcome
  | [] => .answer 0 (helpText none)
  | word :: _ =>
    match CommandName.ofWord? word with
    | some name => .answer 0 (helpText (some name))
    | none => .failure (Outcome.errorLine ("Unknown command: ".toList ++ word))

/-- Carry out a command. -/
def Command.run (surroundings : Surroundings) (settings : Settings) (verbose quiet : Bool) :
    Command → Outcome
  | .render file format logical => runRender surroundings settings verbose file format logical
  | .parse line tokens => runParse line tokens
  | .importQuery query expand => runImport surroundings settings quiet query expand
  | .initConfig force path => runInitConfig surroundings quiet force path
  | .help words => runHelp words

/-- Carry out a request: load the settings, read the arguments of the command, and run it. -/
def Request.run (surroundings : Surroundings) (request : Request) : Outcome :=
  let path := surroundings.settingsPath request.settingsFile
  let loaded :=
    match surroundings.place path with
    | .nothing => Settings.load path none
    | .file text => Settings.load path (some text)
    | .directory => .error .unreadable
  match loaded with
  | .error error => .failure (Outcome.errorLine (error.message path).toList)
  | .ok (settings, warnings) =>
    let reports :=
      if request.quiet then []
      else warnings.flatMap (fun warning => Outcome.warningLine warning.toList)
    match request.readCommand with
    | .error detour => detour.outcome.after reports
    | .ok command =>
      (command.run surroundings settings request.verbose request.quiet).after reports

/-- Run a command line. -/
def run (surroundings : Surroundings) (arguments : List Text) : Outcome :=
  match Request.ofArguments arguments with
  | .error detour => detour.outcome
  | .ok request => request.run surroundings

/-- The paths that a run of a command line can look at. -/
def pathsOf (home workingDirectory : Text) (arguments : List Text) : List Text :=
  match Request.ofArguments arguments with
  | .error _ => []
  | .ok request =>
    let given :=
      match request.readCommand with
      | .ok (.render file _ _) => waypoints workingDirectory file
      | .ok (.initConfig _ path) =>
        let target := settingsPath home workingDirectory path
        target :: directoriesAbove target
      | _ => []
    settingsPath home workingDirectory request.settingsFile :: given

/-- Whether a run of a command line looks at the standard input. -/
def readsInput (arguments : List Text) : Bool :=
  match Request.ofArguments arguments with
  | .error _ => false
  | .ok request =>
    match request.readCommand with
    | .ok (.render ['-'] _ _) => true
    | _ => false

end PriorArt.CommandLine
