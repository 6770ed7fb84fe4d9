import PriorArt.Text.Basic

/-!
# Arguments of a command line

Options have a long name behind two dashes, and many a letter behind one. Letters can share a
dash. An option that takes a value takes the rest of its argument or the next argument; behind a
long name the value may follow an equals sign. Two dashes alone end the options, and a dash alone
is no option.

A command line that uses an unknown option, or an option in a wrong way, has no reading.
-/

namespace PriorArt.CommandLine

/-- What an option sets. -/
inductive Effect (α : Type) where
  | flag (setting : α)
  | value (setting : Text → α)

/-- An option of a command. -/
structure OptionRule (α : Type) where
  long : String
  letter : Option Char
  effect : Effect α

/-- What one argument gives: settings, or settings and a further one that waits for a value. -/
inductive Taken (α : Type) where
  | complete (settings : List α)
  | awaiting (settings : List α) (setting : Text → α)

variable {α : Type}

/-- Put a setting in front. -/
def Taken.add (setting : α) : Taken α → Taken α
  | complete settings => complete (setting :: settings)
  | awaiting settings waiting => awaiting (setting :: settings) waiting

/-- Read the letters behind a dash. -/
def readLetters (rules : List (OptionRule α)) : Text → Option (Taken α)
  | [] => some (.complete [])
  | letter :: rest =>
    match rules.find? (fun rule => rule.letter = some letter) with
    | none => none
    | some rule =>
      match rule.effect with
      | .flag setting => (readLetters rules rest).map (Taken.add setting)
      | .value setting =>
        some (if rest.isEmpty then .awaiting [] setting else .complete [setting rest])

/-- The name and the value of an argument at its first equals sign. -/
def splitAtEquals (argument : Text) : Text × Option Text :=
  match argument.dropWhile (fun character => character ≠ '=') with
  | [] => (argument, none)
  | _ :: value => (argument.takeWhile (fun character => character ≠ '='), some value)

/-- Read the name behind two dashes, with the value that may follow it. -/
def readLong (rules : List (OptionRule α)) (argument : Text) : Option (Taken α) :=
  let (name, given) := splitAtEquals argument
  match rules.find? (fun rule => rule.long.toList = name) with
  | none => none
  | some rule =>
    match rule.effect, given with
    | .flag setting, none => some (.complete [setting])
    | .flag _, some _ => none
    | .value setting, some value => some (.complete [setting value])
    | .value setting, none => some (.awaiting [] setting)

/-- Read the settings in front of and, if they may mix, between the other arguments. -/
def readArguments (rules : List (OptionRule α)) (mixed : Bool) :
    List Text → Option (List α × List Text)
  | [] => some ([], [])
  | ['-', '-'] :: rest => some ([], rest)
  | argument :: rest => do
    let taken? ←
      match argument with
      | '-' :: '-' :: name => (readLong rules name).map some
      | '-' :: letter :: letters => (readLetters rules (letter :: letters)).map some
      | _ => some none
    match taken?, rest with
    | none, rest =>
      if mixed then
        let (settings, others) ← readArguments rules mixed rest
        return (settings, argument :: others)
      else return ([], argument :: rest)
    | some (.complete settings), rest =>
      let (further, others) ← readArguments rules mixed rest
      return (settings ++ further, others)
    | some (.awaiting settings setting), value :: rest =>
      let (further, others) ← readArguments rules mixed rest
      return (settings ++ setting value :: further, others)
    | some (.awaiting ..), [] => none

end PriorArt.CommandLine
