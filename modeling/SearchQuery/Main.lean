import SearchQuery.Program.Run

/-!
# The program

Everything that touches the world is here. The files that may matter to a command
line are read into a `FileSystem`, the outcome is computed from it, and then the
outcome is carried out: what changed is written, the streams are printed, and the
status is returned.
-/

namespace SearchQuery.Main

/-- What is at a path on the disk. -/
def entryAt? (p : Path) : IO (Option Entry) := do
  try
    return some (.file (← IO.FS.readBinFile p.text))
  catch
    | .noFileOrDirectory _ _ _ => return none
    | .noSuchThing _ _ _ => return none
    | .inappropriateType _ _ _ => return some .directory
    | e => throw e

/-- The files at some paths, with the directories on the way, as a file system. -/
def snapshot (here : Place) (paths : List Path) : IO FileSystem := do
  let mut files := FileSystem.empty
  for p in paths do
    for q in p.ancestors.reverse do
      match files.resolve here q with
      | .error _ => pure ()
      | .ok place =>
        if (files.lookup? place).isNone then
          if let some entry ← entryAt? q then
            files := files.put place entry
  return files

/-- Writes the files at some paths whose text differs afterwards. -/
def carryOut (here : Place) (paths : List Path) (before after : FileSystem) : IO Unit := do
  for p in paths do
    if let .ok text := after.readText here p then
      if (before.readText here p).toOption ≠ some text then
        IO.FS.writeFile p.text text

/-- The paths that may matter to a command line. -/
def relevantPaths (directory home : Path) : List Path :=
  let site : Site := ⟨.empty, home, directory.steps⟩
  Site.candidates site.here ++ [site.globalFile]

end SearchQuery.Main

open SearchQuery SearchQuery.Main in
/-- Runs a command line. -/
def main (arguments : List String) : IO UInt32 := do
  let directory := Path.ofText (toString (← IO.currentDir))
  let home := Path.ofText ((← IO.getEnv "HOME").getD "/")
  let here := directory.steps
  let environment : Environment :=
    ⟨← IO.getEnv "NO_COLOR", ← IO.getEnv "SIFT_LOG", ← (← IO.getStdout).isTty⟩
  let paths := relevantPaths directory home
  let files ← snapshot here paths
  let outcome := Program.run environment ⟨files, home, here⟩ arguments
  let log := Program.log environment arguments
  try
    carryOut here paths files outcome.files
  catch e =>
    (← IO.getStderr).putStrLn ("error: failed to write: " ++ toString e)
    return 1
  (← IO.getStdout).putStr outcome.output
  (← IO.getStderr).putStr (outcome.errorText (some log))
  return outcome.status.code.toUInt32
