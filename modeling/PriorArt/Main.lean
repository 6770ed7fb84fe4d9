import PriorArt.CommandLine.Run

/-!
# The program

Looks up what a run needs to know (the home and working directories, the files that the command
line names, and the standard input), carries out the command line, and hands over what comes of
it: the texts of the two output streams, the files, and the exit status.
-/

open PriorArt PriorArt.CommandLine

namespace PriorArt.Program

/-- All that is left in a stream. -/
partial def readAll (stream : IO.FS.Stream) (before : String) : IO String := do
  let line ← stream.getLine
  if line.isEmpty then return before else readAll stream (before ++ line)

/-- The number by which the system reports that a file to be read is a directory. -/
def isDirectoryCode : UInt32 := 21

/-- What a path leads to; nothing is below a file. What exists but cannot be read as a text is
taken for a directory. -/
def look (path : Text) : IO (Text × Place) := do
  try
    return (path, .file (← IO.FS.readFile (String.ofList path)).toList)
  catch
    | .noFileOrDirectory .. => return (path, .nothing)
    | .inappropriateType _ code _ =>
      return (path, if code = isDirectoryCode then .directory else .nothing)
    | _ => return (path, .directory)

/-- What a list of places says about a path. -/
def placeIn (places : List (Text × Place)) (path : Text) : Place :=
  (places.lookup path).getD .nothing

/-- Write a file, and make the directories above it first. -/
def write (path content : Text) : IO Unit := do
  (directoriesAbove path).head?.forM (fun directory =>
    IO.FS.createDirAll (String.ofList directory))
  IO.FS.writeFile (String.ofList path) (String.ofList content)

/-- The directory that a variable of the environment names, the root if it names none. -/
def directory (variableName : String) : IO Text := do
  return ((← IO.getEnv variableName).getD "/").toList

end PriorArt.Program

open PriorArt.Program

/-- Run the command line of the program. -/
def main (arguments : List String) : IO UInt32 := do
  let arguments := arguments.map String.toList
  let home ← directory "HOME"
  let workingDirectory ← directory "PWD"
  let places ← (pathsOf home workingDirectory arguments).mapM look
  let input ←
    if readsInput arguments then readAll (← IO.getStdin) "" else pure ""
  let seed ← IO.rand 0 (congruentialStates - 1)
  let outcome := run
    ⟨home, workingDirectory, placeIn places, input.toList, congruential seed⟩ arguments
  (← IO.getStdout).putStr (String.ofList outcome.outputText)
  (← IO.getStderr).putStr (String.ofList outcome.errors)
  outcome.files.forM (fun (path, content) => write path content)
  return outcome.status.toUInt32
