import Lineage.Command.Run

/-!
# The command line

Reads the files that a command needs, runs the command, and writes what comes of it.
-/

namespace Lineage

/-- The text of a file, if it can be read. -/
def readText? (path : String) : IO (Option String) := do
  try
    return some (Text.kept (← IO.FS.readFile (Text.restored path)))
  catch _ =>
    return none

/-- Whether there is a folder at a path. -/
def hasFolder (path : String) : IO Bool := do
  try
    let _ ← IO.FS.realPath (Text.restored path ++ "/.")
    return true
  catch _ =>
    return false

/-- The paths that a command may look at. -/
def pathsOf : Command → List String
  | .render file { output := some output, .. } => [file, Settings.fileName, output]
  | c => [c.file, Settings.fileName]

/-- The files and folders that a command may look at. -/
def surroundings (c : Command) : IO Folder := do
  let mut folder : Folder := {}
  for path in (pathsOf c).map Path.ofString do
    for place in path.ancestors ++ [path] do
      if ← hasFolder place.text then
        folder := { folder with folders := folder.folders ++ [place.text] }
    if let some text ← readText? path.text then
      folder := { folder with files := folder.files ++ [(path.text, text)] }
  return folder

/-- The outcome of a command line. -/
def outcomeOf (words : List String) : IO Command.Outcome := do
  match Command.parse? words with
  | none => return .misused
  | some c => return c.run (← surroundings c)

end Lineage

/-- Runs a command line. -/
def main (words : List String) : IO UInt32 := do
  let outcome ← Lineage.outcomeOf (words.map Lineage.Text.kept)
  IO.eprint (Lineage.Text.restored outcome.notices)
  for (path, text) in outcome.written do
    IO.FS.writeFile (Lineage.Text.restored path.text) (Lineage.Text.restored text)
  IO.print (Lineage.Text.restored outcome.printed)
  return outcome.exitCode.toUInt32
