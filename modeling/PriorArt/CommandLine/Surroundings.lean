import PriorArt.CommandLine.Path
import PriorArt.Text.Quoted

/-!
# The surroundings of a run

What a run finds around it: the home and working directories, what paths lead to, the standard
input, and the numbers from which tokens are drawn. A run looks at files through these functions
only: whether something is there, the text of a file that is to be read, and why a file cannot be
written.
-/

namespace PriorArt.CommandLine

/-- What a path leads to. -/
inductive Place where
  | nothing
  | file (text : Text)
  | directory

/-- Whether there is something. -/
def Place.isOccupied : Place → Bool
  | nothing => false
  | _ => true

/-- Whether there is a directory. -/
def Place.isDirectory : Place → Bool
  | directory => true
  | _ => false

/-- Whether there is a file. -/
def Place.isFile (place : Place) : Bool := place.isOccupied && !place.isDirectory

/-- What a run finds around it. -/
structure Surroundings where
  home : Text
  workingDirectory : Text
  /-- What an absolute path without dots leads to. -/
  place : Text → Place
  input : Text
  /-- The numbers from which tokens are drawn. -/
  numbers : Nat → Nat

/-- Why a file cannot be written. -/
inductive WriteFault where
  /-- The directory of the file is a file. -/
  | fileAsDirectory (path : Text)
  /-- The directory of the file lies below a file. -/
  | belowFile (path : Text)
  /-- The file is a directory. -/
  | directoryAsFile (path : Text)

/-- The message for a fault. -/
def WriteFault.message : WriteFault → Text
  | .fileAsDirectory path => "[Errno 17] File exists: ".toList ++ Text.quoted path
  | .belowFile path => "[Errno 20] Not a directory: ".toList ++ Text.quoted path
  | .directoryAsFile path => "[Errno 21] Is a directory: ".toList ++ Text.quoted path

namespace Surroundings

/-- The absolute path of a settings file, the usual one if none is given. -/
def settingsPath (surroundings : Surroundings) (given : Option Text) : Text :=
  CommandLine.settingsPath surroundings.home surroundings.workingDirectory given

/-- The text of the file at the end of a way, if directories lead to it. -/
def textAtEnd? (surroundings : Surroundings) : List Text → Option Text
  | [] => none
  | [path] =>
    match surroundings.place path with
    | .file text => some text
    | _ => none
  | path :: paths =>
    if (surroundings.place path).isDirectory then surroundings.textAtEnd? paths else none

/-- The text of the file that a command reads; a dash stands for the standard input. -/
def fileText? (surroundings : Surroundings) (path : Text) : Option Text :=
  if path = ['-'] then some surroundings.input
  else surroundings.textAtEnd? (waypoints surroundings.workingDirectory path)

/-- Why a file cannot be written, if missing directories are made. -/
def writeFault? (surroundings : Surroundings) (path : Text) : Option WriteFault :=
  match directoriesAbove path with
  | [] => some (.directoryAsFile path)
  | directory :: further =>
    if (surroundings.place directory).isFile then some (.fileAsDirectory directory)
    else if further.any (fun above => (surroundings.place above).isFile) then
      some (.belowFile directory)
    else if (surroundings.place path).isDirectory then some (.directoryAsFile path)
    else none

end Surroundings

end PriorArt.CommandLine
