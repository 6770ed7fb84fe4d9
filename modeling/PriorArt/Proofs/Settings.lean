import PriorArt.Proofs.Reading
import PriorArt.Proofs.Toml.Documents
import PriorArt.Settings

/-!
# Settings from documents

A document may have any value where a table of settings is expected. If the section of a setting is a
table, the setting is what stands there under its key. Otherwise no setting is given there. But it is only
asked whether the section contains the key, and this asks of a text whether the key occurs in it, of an
array whether the key is one of its items, and cannot be asked of a plain value at all. So some sections
mislead: the setting is taken from something that is no table.

The settings are read in a fixed order, and reading ends with the first that is misled or has a value of
another type. So it ends with anything but usable settings or the refusal of a given value exactly if a
misled setting comes first.

Saved settings never mislead. They are written as a document of four sections, which gives them back.
-/

namespace PriorArt

open Reading

/-- The value of a setting. -/
def Settings.value (settings : Settings) : Setting → Toml.Value
  | .entityLimit => .integer settings.entityLimit
  | .tokenLength => .integer settings.tokenLength
  | .colouredOutput => .boolean settings.colouredOutput
  | .expandVariants => .boolean settings.expandVariants
  | .outputFormat => .string settings.outputFormat

namespace Setting

/-- The place of a setting in the order in which they are read. -/
def place : Setting → Nat
  | .entityLimit => 0
  | .tokenLength => 1
  | .colouredOutput => 2
  | .expandVariants => 3
  | .outputFormat => 4

/-- A value has the type of a setting. -/
def Fits : Setting → Toml.Value → Prop
  | .entityLimit, value | .tokenLength, value => ∃ number, value = .integer number
  | .colouredOutput, value | .expandVariants, value => ∃ truth, value = .boolean truth
  | .outputFormat, value => ∃ text, value = .string text

/-- The fault of a value that does not have the type of a setting. -/
def typeFault : Setting → SettingFault
  | .entityLimit | .tokenLength => .notInteger
  | .colouredOutput | .expandVariants => .notBoolean
  | .outputFormat => .notString

/-- Why a value is refused for a setting: it has another type, or it is out of range. -/
inductive Refuses : Setting → SettingFault → Toml.Value → Prop where
  | mistyped {setting : Setting} {value : Toml.Value} (other : ¬ setting.Fits value) :
      Refuses setting setting.typeFault value
  | entityLimit {number : Int} (low : number < 1) : Refuses .entityLimit .belowOne (.integer number)
  | tokenLength {number : Int} (low : number < 1) : Refuses .tokenLength .belowOne (.integer number)
  | outputFormat {text : Text} (unknown : text ∉ Settings.formats.map String.toList) :
      Refuses .outputFormat .unknownFormat (.string text)

/-- A document gives a value for a setting: it stands under the key in the table of the section. -/
def IsGiven (document : Toml.Document) (setting : Setting) (value : Toml.Value) : Prop :=
  ∃ entries, document.lookup setting.sectionName.toList = some (.table entries) ∧
    entries.lookup setting.key.toList = some value

/-- A value that is no table seems to have a key: the key occurs in a text or is an item of an array, or
the value is plain. -/
inductive SeemsToHave (key : Text) : Toml.Value → Prop where
  | string {text : Text} (occurs : key <:+: text) : SeemsToHave key (.string text)
  | array {items : List Toml.Value} (among : .string key ∈ items) : SeemsToHave key (.array items)
  | integer (number : Int) : SeemsToHave key (.integer number)
  | float (written : Text) : SeemsToHave key (.float written)
  | boolean (value : Bool) : SeemsToHave key (.boolean value)
  | moment (written : Text) : SeemsToHave key (.moment written)

/-- The section of a setting is no table, but seems to have its key. -/
def IsMisled (document : Toml.Document) (setting : Setting) : Prop :=
  ∃ found, document.lookup setting.sectionName.toList = some found ∧
    SeemsToHave setting.key.toList found

/-- A setting takes a value: the one that is given for it, or its usual one if there is no value. -/
inductive Takes (document : Toml.Document) (setting : Setting) : Toml.Value → Prop where
  | given {value : Toml.Value} (isGiven : IsGiven document setting value) (fits : setting.Fits value) :
      Takes document setting value
  | usual (notMisled : ¬ IsMisled document setting)
      (notGiven : ∀ value, ¬ IsGiven document setting value) :
      Takes document setting (Settings.standard.value setting)

end Setting

open Setting

namespace Settings

/-! ## What is found -/

/-- It is found whether a text occurs in another. -/
theorem occursIn_iff {part text : Text} : occursIn part text = true ↔ part <:+: text := by
  induction text with
  | nil => simp [occursIn]
  | cons character rest inductionHypothesis =>
    simp [occursIn, inductionHypothesis, List.infix_cons_iff]

/-- It is found whether a text is an item of an array. -/
theorem hasText_iff {key : Text} {items : List Toml.Value} :
    items.any (fun item => match item with | .string text => text = key | _ => false) = true ↔
      .string key ∈ items := by
  rw [List.any_eq_true]
  constructor
  · rintro ⟨item, among, same⟩
    cases item with
    | string text =>
      obtain rfl : text = key := by simpa using same
      exact among
    | _ => cases same
  · intro among
    exact ⟨.string key, among, by simp⟩

/-- What is found for a setting: an error if it is misled, or else the value that is given for it. -/
theorem given_found (document : Toml.Document) (setting : Setting) :
    (IsMisled document setting ∧ given document setting = .error (.noTable setting)) ∨
      ∃ found, ¬ IsMisled document setting ∧ given document setting = .ok found ∧
        ∀ value, IsGiven document setting value ↔ found = some value := by
  unfold given IsMisled IsGiven
  cases stands : document.lookup setting.sectionName.toList with
  | none => exact .inr ⟨none, by simp, rfl, by simp⟩
  | some content =>
    simp only [Option.some.injEq, exists_eq_left']
    cases content with
    | table entries => exact .inr ⟨entries.lookup setting.key.toList, nofun, rfl, by simp⟩
    | string text =>
      by_cases occurs : occursIn setting.key.toList text = true
      · exact .inl ⟨.string (occursIn_iff.mp occurs), if_pos occurs⟩
      · refine .inr ⟨none, ?_, if_neg occurs, by simp⟩
        rintro (inside | _)
        exact occurs (occursIn_iff.mpr inside)
    | array items =>
      by_cases among : Toml.Value.string setting.key.toList ∈ items
      · exact .inl ⟨.array among, if_pos (hasText_iff.mpr among)⟩
      · refine .inr ⟨none, ?_, if_neg (fun has => among (hasText_iff.mp has)), by simp⟩
        rintro (_ | inside)
        exact among inside
    | integer number => exact .inl ⟨.integer number, rfl⟩
    | float written => exact .inl ⟨.float written, rfl⟩
    | boolean value => exact .inl ⟨.boolean value, rfl⟩
    | moment written => exact .inl ⟨.moment written, rfl⟩

/-! ## What is read -/

/-- A whole number among the values. -/
def asInteger? : Toml.Value → Option Int
  | .integer number => some number
  | _ => none

/-- A truth value among the values. -/
def asBoolean? : Toml.Value → Option Bool
  | .boolean value => some value
  | _ => none

/-- A text among the values. -/
def asString? : Toml.Value → Option Text
  | .string text => some text
  | _ => none

/-- A value is a whole number exactly if it is read as one. -/
theorem asInteger_iff (value : Toml.Value) (number : Int) :
    asInteger? value = some number ↔ value = .integer number := by
  cases value <;> simp [asInteger?]

/-- A value is a truth value exactly if it is read as one. -/
theorem asBoolean_iff (value : Toml.Value) (truth : Bool) :
    asBoolean? value = some truth ↔ value = .boolean truth := by
  cases value <;> simp [asBoolean?]

/-- A value is a text exactly if it is read as one. -/
theorem asString_iff (value : Toml.Value) (text : Text) :
    asString? value = some text ↔ value = .string text := by
  cases value <;> simp [asString?]

/-- The value of the right type that has been found, or the usual one if nothing has been found. -/
def typed {α : Type} (setting : Setting) (fault : SettingFault) (as? : Toml.Value → Option α)
    (usual : α) : Option Toml.Value → Except SettingsError α
  | none => .ok usual
  | some value =>
    match as? value with
    | some read => .ok read
    | none => .error (.refused setting fault)

section Readers

variable (document : Toml.Document) (setting : Setting)

/-- A whole number is read in this way. -/
theorem integer_typed (usual : Int) : integer document setting usual =
    given document setting >>= typed setting .notInteger asInteger? usual := by
  refine bind_congr (fun found => ?_)
  cases found with
  | none => rfl
  | some value => cases value <;> rfl

/-- A truth value is read in this way. -/
theorem boolean_typed (usual : Bool) : boolean document setting usual =
    given document setting >>= typed setting .notBoolean asBoolean? usual := by
  refine bind_congr (fun found => ?_)
  cases found with
  | none => rfl
  | some value => cases value <;> rfl

/-- A text is read in this way. -/
theorem string_typed (usual : Text) : string document setting usual =
    given document setting >>= typed setting .notString asString? usual := by
  refine bind_congr (fun found => ?_)
  cases found with
  | none => rfl
  | some value => cases value <;> rfl

end Readers

/-- Why the reading of a setting fails: it is misled, or the given value has another type. -/
inductive FailsFor (document : Toml.Document) (setting : Setting) : SettingsError → Prop where
  | misled (isMisled : IsMisled document setting) : FailsFor document setting (.noTable setting)
  | mistyped {value : Toml.Value} (isGiven : IsGiven document setting value)
      (other : ¬ setting.Fits value) :
      FailsFor document setting (.refused setting setting.typeFault)

/-- A reading ends with a good result or with an error of a kind. -/
inductive Ends {ε α : Type} (good : α → Prop) (bad : ε → Prop) : Except ε α → Prop where
  | ok {result : α} (isGood : good result) : Ends good bad (.ok result)
  | error {error : ε} (isBad : bad error) : Ends good bad (.error error)

/-- The reading of a setting ends with a value that it takes, or fails. -/
theorem typed_ends {α : Type} {document : Toml.Document} (setting : Setting)
    {as? : Toml.Value → Option α} {toValue : α → Toml.Value} {usual : α}
    (reads : ∀ value read, as? value = some read ↔ value = toValue read)
    (fits : ∀ value, setting.Fits value ↔ ∃ read, value = toValue read)
    (standard : toValue usual = Settings.standard.value setting) :
    Ends (fun read => Takes document setting (toValue read)) (FailsFor document setting)
      (given document setting >>= typed setting setting.typeFault as? usual) := by
  obtain ⟨isMisled, found⟩ | ⟨value, notMisled, found, isGiven⟩ := given_found document setting
  · rw [found, error_bind]
    exact .error (.misled isMisled)
  · rw [found, ok_bind]
    cases value with
    | none =>
      refine .ok ?_
      rw [standard]
      exact .usual notMisled (fun value given => by cases (isGiven value).mp given)
    | some value =>
      have stands := (isGiven value).mpr rfl
      rw [typed]
      cases read : as? value with
      | some result =>
        obtain rfl := (reads value result).mp read
        exact .ok (.given stands ((fits _).mpr ⟨result, rfl⟩))
      | none =>
        refine .error (.mistyped stands ?_)
        intro isFit
        obtain ⟨result, same⟩ := (fits value).mp isFit
        rw [(reads value result).mpr same] at read
        cases read

/-! ## The order of the settings -/

/-- Each setting with a place before the given one takes a value. -/
def SoundBefore (document : Toml.Document) (place : Nat) : Prop :=
  ∀ setting, setting.place < place → ∃ value, Takes document setting value

/-- Different settings have different places. -/
theorem place_injective {setting other : Setting} (same : setting.place = other.place) :
    setting = other := by
  cases setting <;> cases other <;> first | rfl | cases same

/-- With the setting at a place, each before the next place takes a value. -/
theorem SoundBefore.next {document : Toml.Document} {setting : Setting} {value : Toml.Value}
    (sound : SoundBefore document setting.place) (takes : Takes document setting value) :
    SoundBefore document (setting.place + 1) := by
  intro other before
  rcases Nat.lt_succ_iff_lt_or_eq.mp before with earlier | same
  · exact sound other earlier
  · obtain rfl := place_injective same
    exact ⟨value, takes⟩

/-- An error is the first: each setting before the one that fails takes a value. -/
def FailsFirst (document : Toml.Document) (error : SettingsError) : Prop :=
  ∃ setting, FailsFor document setting error ∧ SoundBefore document setting.place

/-- After the reading of a setting the next settings are read, or it has failed first. -/
theorem Ends.behind {α β : Type} {document : Toml.Document} {setting : Setting}
    {toValue : α → Toml.Value} {good : β → Prop} {reading : Except SettingsError α}
    {next : α → Except SettingsError β}
    (ends : Ends (fun read => Takes document setting (toValue read)) (FailsFor document setting) reading)
    (sound : SoundBefore document setting.place)
    (later : ∀ read, Takes document setting (toValue read) → SoundBefore document (setting.place + 1) →
      Ends good (FailsFirst document) (next read)) :
    Ends good (FailsFirst document) (reading >>= next) := by
  cases ends with
  | ok takes => exact later _ takes (sound.next takes)
  | error fails => exact .error ⟨setting, fails, sound⟩

/-- The settings take their values from a document, or the reading ends with the first error. -/
theorem ofDocument_ends (document : Toml.Document) :
    Ends (fun settings => ∀ setting, Takes document setting (settings.value setting))
      (FailsFirst document) (ofDocument document) := by
  simp only [ofDocument, integer_typed, boolean_typed, string_typed]
  refine (typed_ends .entityLimit asInteger_iff (fun _ => Iff.rfl) rfl).behind nofun ?_
  intro entityLimit takesLimit sound
  refine (typed_ends .tokenLength asInteger_iff (fun _ => Iff.rfl) rfl).behind sound ?_
  intro tokenLength takesLength sound
  refine (typed_ends .colouredOutput asBoolean_iff (fun _ => Iff.rfl) rfl).behind sound ?_
  intro colouredOutput takesColours sound
  refine (typed_ends .expandVariants asBoolean_iff (fun _ => Iff.rfl) rfl).behind sound ?_
  intro expandVariants takesVariants sound
  refine (typed_ends .outputFormat asString_iff (fun _ => Iff.rfl) rfl).behind sound ?_
  intro outputFormat takesFormat sound
  refine .ok ?_
  rintro (_ | _)
  · exact takesLimit
  · exact takesLength
  · exact takesColours
  · exact takesVariants
  · exact takesFormat

/-! ## The first error -/

section First

variable {document : Toml.Document} {setting : Setting} {value other : Toml.Value}
  {error second : SettingsError}

/-- A setting that is given is not misled. -/
theorem given_not_misled (isGiven : IsGiven document setting value) : ¬ IsMisled document setting := by
  rintro ⟨found, stands, seems⟩
  obtain ⟨entries, table, -⟩ := isGiven
  obtain rfl := Option.some.inj (stands.symm.trans table)
  cases seems

/-- Only one value is given for a setting. -/
theorem given_unique (isGiven : IsGiven document setting value)
    (otherGiven : IsGiven document setting other) : value = other := by
  obtain ⟨entries, table, entry⟩ := isGiven
  obtain ⟨others, otherTable, otherEntry⟩ := otherGiven
  cases table.symm.trans otherTable
  exact Option.some.inj (entry.symm.trans otherEntry)

/-- A setting that takes a value does not fail. -/
theorem takes_not_fails (takes : Takes document setting value) : ¬ FailsFor document setting error := by
  rintro (isMisled | ⟨isGiven, unfit⟩)
  · cases takes with
    | given isGiven fits => exact given_not_misled isGiven isMisled
    | usual notMisled notGiven => exact notMisled isMisled
  · cases takes with
    | given otherGiven fits => exact unfit (given_unique otherGiven isGiven ▸ fits)
    | usual notMisled notGiven => exact notGiven _ isGiven

/-- A setting fails for one reason only. -/
theorem fails_unique (fails : FailsFor document setting error)
    (again : FailsFor document setting second) : error = second := by
  cases fails with
  | misled isMisled =>
    cases again with
    | misled => rfl
    | mistyped isGiven => exact absurd isMisled (given_not_misled isGiven)
  | mistyped isGiven =>
    cases again with
    | misled isMisled => exact absurd isMisled (given_not_misled isGiven)
    | mistyped => rfl

/-- There is only one first error. -/
theorem first_unique (first : FailsFirst document error) (again : FailsFirst document second) :
    error = second := by
  obtain ⟨setting, fails, sound⟩ := first
  obtain ⟨next, failsNext, soundNext⟩ := again
  -- Of two settings that fail, the earlier one would take a value, since the other is a first one too.
  rcases Nat.lt_trichotomy setting.place next.place with before | same | behind
  · obtain ⟨value, takes⟩ := soundNext setting before
    exact absurd fails (takes_not_fails takes)
  · obtain rfl := place_injective same
    exact fails_unique fails failsNext
  · obtain ⟨value, takes⟩ := sound next behind
    exact absurd failsNext (takes_not_fails takes)

/-- The reading of the settings ends with an error exactly if it is the first. -/
theorem ofDocument_error_iff : ofDocument document = .error error ↔ FailsFirst document error := by
  have ends := ofDocument_ends document
  generalize ofDocument document = reading at ends
  cases ends with
  | ok takes =>
    constructor
    · nofun
    · rintro ⟨setting, fails, -⟩
      exact absurd fails (takes_not_fails (takes setting))
  | error first =>
    constructor
    · rintro ⟨⟩
      exact first
    · exact fun again => congrArg Except.error (first_unique first again)

end First

/-! ## The values of the settings -/

/-- Settings that can be used: the numbers are at least one, and there is such a format. -/
structure IsUsable (settings : Settings) : Prop where
  entityLimit : 1 ≤ settings.entityLimit
  tokenLength : 1 ≤ settings.tokenLength
  outputFormat : settings.outputFormat ∈ formats.map String.toList

/-- Settings are usable, or the value of one is refused. -/
theorem validate_ends (settings : Settings) :
    Ends (fun _ => settings.IsUsable)
      (fun error => ∃ setting fault, error = .refused setting fault ∧
        Refuses setting fault (settings.value setting))
      settings.validate := by
  unfold validate
  split
  · next low => exact .error ⟨.entityLimit, .belowOne, rfl, .entityLimit low⟩
  · next enoughEntities =>
    split
    · next low => exact .error ⟨.tokenLength, .belowOne, rfl, .tokenLength low⟩
    · next enoughCharacters =>
      split
      · next unknown =>
        exact .error ⟨.outputFormat, .unknownFormat, rfl, .outputFormat (by simpa using unknown)⟩
      · next known =>
        have usable : settings.IsUsable :=
          ⟨by omega, by omega, by simpa using known⟩
        split
        · exact .ok usable
        · exact .ok usable

/-- No usual value is refused. -/
theorem standard_not_refused (setting : Setting) (fault : SettingFault) :
    ¬ Refuses setting fault (standard.value setting) := by
  have fits : setting.Fits (standard.value setting) := by cases setting <;> exact ⟨_, rfl⟩
  generalize same : standard.value setting = value
  rw [same] at fits
  rintro (other | low | low | unknown)
  · exact other fits
  · cases same
    exact absurd low (by decide)
  · cases same
    exact absurd low (by decide)
  · cases same
    exact absurd unknown (by decide)

/-- A value that a setting takes and that is refused has been given. -/
theorem given_of_refused {document : Toml.Document} {setting : Setting} {value : Toml.Value}
    {fault : SettingFault} (takes : Takes document setting value)
    (refuses : Refuses setting fault value) : IsGiven document setting value := by
  cases takes with
  | given isGiven fits => exact isGiven
  | usual notMisled notGiven => exact absurd refuses (standard_not_refused setting fault)

/-! ## All settings -/

/-- A proper end: usable settings, each of which is given or is the usual one, or the refusal of a given
value. -/
def IsProper (document : Toml.Document) : Except SettingsError (Settings × List String) → Prop :=
  Ends
    (fun outcome => outcome.1.IsUsable ∧
      ∀ setting, Takes document setting (outcome.1.value setting))
    (fun error => ∃ setting fault value, error = .refused setting fault ∧
      IsGiven document setting value ∧ Refuses setting fault value)

/-- A setting is misled, and each setting before it takes a value. -/
def IsMisledFirst (document : Toml.Document) (setting : Setting) : Prop :=
  IsMisled document setting ∧ SoundBefore document setting.place

/-- A misled setting is the first exactly if the error about it is. -/
theorem misled_first_iff {document : Toml.Document} {setting : Setting} :
    FailsFirst document (.noTable setting) ↔ IsMisledFirst document setting := by
  constructor
  · rintro ⟨other, fails, sound⟩
    cases fails with
    | misled isMisled => exact ⟨isMisled, sound⟩
  · rintro ⟨isMisled, sound⟩
    exact ⟨setting, .misled isMisled, sound⟩

/-- Reading ends with a misled setting exactly if it is the first. -/
theorem read_misled_iff (document : Toml.Document) (setting : Setting) :
    read document = .error (.noTable setting) ↔ IsMisledFirst document setting := by
  rw [← misled_first_iff, ← ofDocument_error_iff, read, bind_error_iff]
  constructor
  · rintro (failed | ⟨settings, -, refused⟩)
    · exact failed
    · have checked := validate_ends settings
      generalize settings.validate = warnings at checked refused
      cases checked with
      | ok usable => cases refused
      | error isRefused =>
        obtain ⟨other, fault, rfl, -⟩ := isRefused
        cases refused
  · exact .inl

/-- Without a misled setting in front of all other errors, reading ends properly. -/
theorem read_proper {document : Toml.Document}
    (notMisled : ∀ setting, ¬ IsMisledFirst document setting) : IsProper document (read document) := by
  have ends := ofDocument_ends document
  unfold read
  generalize ofDocument document = reading at ends
  cases ends with
  | @ok settings takes =>
    have checked := validate_ends settings
    rw [ok_bind]
    generalize settings.validate = warnings at checked
    cases checked with
    | ok usable => exact .ok ⟨usable, takes⟩
    | error isRefused =>
      obtain ⟨setting, fault, rfl, refuses⟩ := isRefused
      exact .error ⟨setting, fault, _, rfl, given_of_refused (takes setting) refuses, refuses⟩
  | error first =>
    obtain ⟨setting, fails, sound⟩ := first
    cases fails with
    | misled isMisled => exact absurd ⟨isMisled, sound⟩ (notMisled setting)
    | mistyped isGiven other => exact .error ⟨setting, _, _, rfl, isGiven, .mistyped other⟩

/-- The reading of settings ends properly exactly if no misled setting is the first to fail. For a setting
it ends with the error that its section is no table exactly if it is misled and is the first to fail. -/
theorem read_proper_iff (document : Toml.Document) :
    (IsProper document (read document) ↔ ∀ setting, ¬ IsMisledFirst document setting) ∧
      ∀ setting, read document = .error (.noTable setting) ↔ IsMisledFirst document setting := by
  refine ⟨⟨?_, read_proper⟩, read_misled_iff document⟩
  intro proper setting first
  rw [(read_misled_iff document setting).mpr first] at proper
  cases proper with
  | error isRefused =>
    obtain ⟨other, fault, value, same, -⟩ := isRefused
    cases same

/-- A number for a section misleads the first setting of it. -/
theorem read_number_for_section :
    read [("store".toList, .integer 5)] = .error (.noTable .entityLimit) :=
  ((read_proper_iff [("store".toList, .integer 5)]).2 .entityLimit).mpr
    ⟨⟨.integer 5, rfl, .integer 5⟩, nofun⟩

/-! ## Saved settings -/

/-- The document that saved settings are. -/
def saved (settings : Settings) : Toml.Document :=
  settings.sections.map (fun part =>
    (part.1, .table (part.2.map (fun entry => (entry.1, entry.2.value)))))

/-- The sections of settings can be written. -/
theorem sections_writable (settings : Settings) : Toml.AreWritable settings.sections where
  distinctNames := by
    change (["store", "display", "import", "output"].map String.toList).Nodup
    decide
  bareNames := by
    simp only [sections, List.forall_mem_cons]
    decide
  distinctKeys := by
    simp only [sections, List.forall_mem_cons, List.map_cons, List.map_nil]
    decide
  bareKeys := by
    simp only [sections, List.forall_mem_cons]
    decide

/-- The settings are read from the document that they are saved as. -/
theorem ofDocument_saved (settings : Settings) : ofDocument settings.saved = .ok settings := by
  rfl

/-- Settings load back from the file that they are saved in: the file is a document, from which just these
settings are read. So loading succeeds exactly if the settings are valid, and gives them with their
warnings; otherwise it ends with the same error. -/
theorem load_saved (path : Text) (settings : Settings) :
    (∃ document, Toml.parse? settings.render = some document ∧ ofDocument document = .ok settings) ∧
      load path (some settings.render) =
        settings.validate.map (fun warnings => (settings, warnings)) := by
  have parsed : Toml.parse? settings.render = some settings.saved :=
    Toml.parse_render (sections_writable settings)
  refine ⟨⟨settings.saved, parsed, ofDocument_saved settings⟩, ?_⟩
  rw [load, parsed]
  dsimp only
  rw [read, ofDocument_saved, ok_bind]
  cases settings.validate <;> rfl

end Settings

end PriorArt
