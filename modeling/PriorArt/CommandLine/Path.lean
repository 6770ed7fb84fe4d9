import PriorArt.Text.Basic

/-!
# Paths

A path leads from the root or from the working directory through the parts between its slashes:
names, a dot for where one is, and two dots for the directory above. An empty part is a dot. A
place is given by the names that lead to it from the root, the last name first.

There are two ways to read a path. The path of a settings file is read by its parts alone, so
that two dots undo the part in front of them, and a tilde in front stands for the home directory.
A file that is to be read is found step by step, which needs a directory at every step.
-/

namespace PriorArt.CommandLine

/-- Where one is after a part of a path. -/
def step (location : List Text) (part : Text) : List Text :=
  if part.isEmpty || part = ['.'] then location
  else if part = ['.', '.'] then location.tail
  else part :: location

/-- A place as an absolute path. -/
def pathText (location : List Text) : Text := '/' :: Text.join '/' location.reverse

/-- The place that an absolute path leads to, by its parts alone. -/
def locationOf (path : Text) : List Text := (Text.pieces '/' path).foldl step []

/-- Where a path begins. -/
def startOf (workingDirectory : Text) : Text → List Text
  | '/' :: _ => []
  | _ => locationOf workingDirectory

/-- A path as an absolute path without dots. -/
def absolute (workingDirectory path : Text) : Text :=
  pathText ((Text.pieces '/' path).foldl step (startOf workingDirectory path))

/-- The places on the way from a place through the parts of a path, both ends included. -/
def way (location : List Text) : List Text → List (List Text)
  | [] => [location]
  | part :: parts => location :: way (step location part) parts

/-- The absolute paths of the places that a path leads through, the last being the one it leads
to. -/
def waypoints (workingDirectory path : Text) : List Text :=
  (way (startOf workingDirectory path) (Text.pieces '/' path)).map pathText

/-- A path with the home directory in the place of a tilde, if the tilde is its first part apart
from dots. -/
def expandHome (home path : Text) : Text :=
  match path, (Text.pieces '/' path).filter (fun part => !(part.isEmpty || part = ['.'])) with
  | '/' :: _, _ => path
  | _, ['~'] :: parts => home ++ '/' :: Text.join '/' parts
  | _, _ => path

/-- The place of the settings file below the home directory. -/
def standardSettingsPath (home : Text) : Text :=
  home ++ "/.config/patent-query/config.toml".toList

/-- The absolute path of a settings file, the usual one if none is given. -/
def settingsPath (home workingDirectory : Text) (given : Option Text) : Text :=
  absolute workingDirectory
    (match given with
    | some path => expandHome home path
    | none => standardSettingsPath home)

/-- The places above a place, the nearest first. -/
def placesAbove : List Text → List (List Text)
  | [] => []
  | _ :: above => above :: placesAbove above

/-- The directories above an absolute path, the nearest first. -/
def directoriesAbove (path : Text) : List Text := (placesAbove (locationOf path)).map pathText

end PriorArt.CommandLine
