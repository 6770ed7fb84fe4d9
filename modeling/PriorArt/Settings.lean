import PriorArt.Toml.Reader
import PriorArt.Toml.Writer

/-!
# Settings

The settings stand in a TOML file of four sections. A setting that the file does not give keeps
its usual value. The types of all given settings are checked in a fixed order before any value
is; a bad value is an error, and a doubtful one is a warning.
-/

namespace PriorArt

/-- The settings. -/
structure Settings where
  /-- The largest number of entities of a kind. -/
  entityLimit : Int
  /-- The number of characters of a drawn token. -/
  tokenLength : Int
  colouredOutput : Bool
  /-- Whether imported words are searched in all their spellings. -/
  expandVariants : Bool
  /-- The format in which queries are written out. -/
  outputFormat : Text
  deriving DecidableEq, Repr

/-- What a setting is about. -/
inductive Setting where
  | entityLimit
  | tokenLength
  | colouredOutput
  | expandVariants
  | outputFormat
  deriving DecidableEq, Repr

/-- The section of a setting. -/
def Setting.sectionName : Setting → String
  | .entityLimit | .tokenLength => "store"
  | .colouredOutput => "display"
  | .expandVariants => "import"
  | .outputFormat => "output"

/-- The key of a setting in its section. -/
def Setting.key : Setting → String
  | .entityLimit => "max_entities_per_kind"
  | .tokenLength => "token_length"
  | .colouredOutput => "colored_output"
  | .expandVariants => "expand_variants"
  | .outputFormat => "format"

/-- The name of a setting in messages. -/
def Setting.name (setting : Setting) : String := s!"{setting.sectionName}.{setting.key}"

/-- Why a setting is refused. -/
inductive SettingFault where
  | notInteger
  | notBoolean
  | notString
  | belowOne
  | unknownFormat
  deriving DecidableEq, Repr

/-- The requirement that a refused setting does not meet. -/
def SettingFault.requirement : SettingFault → String
  | .notInteger => "must be an integer"
  | .notBoolean => "must be a boolean"
  | .notString => "must be a string"
  | .belowOne => "must be at least 1"
  | .unknownFormat => "must be one of: text, json"

/-- Why settings cannot be loaded. -/
inductive SettingsError where
  /-- The file is no TOML document. -/
  | unreadable
  /-- A setting is looked for in something that is not a table of settings. -/
  | noTable (setting : Setting)
  | refused (setting : Setting) (fault : SettingFault)
  deriving DecidableEq, Repr

namespace Settings

/-- The usual settings. -/
def standard : Settings := ⟨30, 5, true, true, "text".toList⟩

/-- The formats for queries. -/
def formats : List String := ["text", "json"]

/-- Whether a text occurs inside another. -/
def occursIn (part : Text) : Text → Bool
  | [] => part.isEmpty
  | character :: rest => part.isPrefixOf (character :: rest) || occursIn part rest

/-- The value given for a setting. A section that is no table gives no settings, and is refused
where it seems to give one: a string or array that contains the key, or any plain value. -/
def given (document : Toml.Document) (setting : Setting) :
    Except SettingsError (Option Toml.Value) :=
  let key := setting.key.toList
  match document.lookup setting.sectionName.toList with
  | none => .ok none
  | some (.table entries) => .ok (entries.lookup key)
  | some (.string text) => if occursIn key text then .error (.noTable setting) else .ok none
  | some (.array items) =>
    if items.any (fun item => match item with | .string text => text = key | _ => false) then
      .error (.noTable setting)
    else .ok none
  | some _ => .error (.noTable setting)

/-- A whole number given for a setting. -/
def integer (document : Toml.Document) (setting : Setting) (usual : Int) :
    Except SettingsError Int := do
  match ← given document setting with
  | none => return usual
  | some (.integer number) => return number
  | some _ => .error (.refused setting .notInteger)

/-- A truth value given for a setting. -/
def boolean (document : Toml.Document) (setting : Setting) (usual : Bool) :
    Except SettingsError Bool := do
  match ← given document setting with
  | none => return usual
  | some (.boolean value) => return value
  | some _ => .error (.refused setting .notBoolean)

/-- A text given for a setting. -/
def string (document : Toml.Document) (setting : Setting) (usual : Text) :
    Except SettingsError Text := do
  match ← given document setting with
  | none => return usual
  | some (.string text) => return text
  | some _ => .error (.refused setting .notString)

/-- The settings that a document gives, of the right types but not checked further. -/
def ofDocument (document : Toml.Document) : Except SettingsError Settings := do
  let entityLimit ← integer document .entityLimit standard.entityLimit
  let tokenLength ← integer document .tokenLength standard.tokenLength
  let colouredOutput ← boolean document .colouredOutput standard.colouredOutput
  let expandVariants ← boolean document .expandVariants standard.expandVariants
  let outputFormat ← string document .outputFormat standard.outputFormat
  return ⟨entityLimit, tokenLength, colouredOutput, expandVariants, outputFormat⟩

/-- Check the values of settings, and give the warnings about them. -/
def validate (settings : Settings) : Except SettingsError (List String) :=
  if settings.entityLimit < 1 then .error (.refused .entityLimit .belowOne)
  else if settings.tokenLength < 1 then .error (.refused .tokenLength .belowOne)
  else if !(formats.map String.toList).contains settings.outputFormat then
    .error (.refused .outputFormat .unknownFormat)
  else if settings.tokenLength < 3 then
    .ok [s!"store.token_length={settings.tokenLength} is short; "
      ++ "generated tokens may clash with real words"]
  else .ok []

/-- The settings that a document gives, with the warnings about them. -/
def read (document : Toml.Document) : Except SettingsError (Settings × List String) := do
  let settings ← ofDocument document
  let warnings ← validate settings
  return (settings, warnings)

/-- The warning about a missing file. -/
def missingWarning (path : Text) : String :=
  s!"No config file found at {String.ofList path}. Using defaults. "
    ++ "Create config with: patent-query init-config"

/-- Load the settings from the file with a path, if there is one, or else use the usual
settings with a warning. -/
def load (path : Text) (file : Option Text) : Except SettingsError (Settings × List String) :=
  match file with
  | none => .ok (standard, [missingWarning path])
  | some text =>
    match Toml.parse? text with
    | some document => read document
    | none => .error .unreadable

/-- The sections of a file with these settings. -/
def sections (settings : Settings) : List (Text × List (Text × Toml.Plain)) :=
  let entry (setting : Setting) (value : Toml.Plain) := (setting.key.toList, value)
  [("store".toList, [entry .entityLimit (.integer settings.entityLimit),
      entry .tokenLength (.integer settings.tokenLength)]),
    ("display".toList, [entry .colouredOutput (.boolean settings.colouredOutput)]),
    ("import".toList, [entry .expandVariants (.boolean settings.expandVariants)]),
    ("output".toList, [entry .outputFormat (.string settings.outputFormat)])]

/-- The text of a file with these settings. -/
def render (settings : Settings) : Text := Toml.render settings.sections

end Settings

/-- The message for settings in the file with a path that cannot be loaded. -/
def SettingsError.message (path : Text) : SettingsError → String
  | .unreadable => s!"Invalid config at {String.ofList path}"
  | .noTable setting => s!"Invalid config section '{setting.sectionName}': must be a table"
  | .refused setting fault => s!"Invalid config value for '{setting.name}': {fault.requirement}"

end PriorArt
