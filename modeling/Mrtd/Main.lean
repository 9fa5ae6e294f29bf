import Mrtd.Cli.Program
import Mrtd.Uuid
import Std.Time.DateTime.Timestamp

/-!
The program: it takes its surroundings in, runs and prints.
-/

namespace Mrtd.Cli

/-- What a path leads to. What cannot be read leads nowhere. -/
def entryAt (path : String) : IO (Option FileEntry) := do
  try
    let place ← IO.FS.realPath path
    if ← place.isDir then
      let mut names := []
      for found in ← place.readDir do
        if !(← found.path.isDir) then names := names ++ [found.fileName]
      return some (.directory names)
    let contents ← IO.FS.readBinFile place
    return some (.file contents.data.toList)
  catch _ => return none

/-- What some paths lead to. -/
def entriesAt (paths : List String) : IO (List (String × FileEntry)) := do
  let mut entries := []
  for path in paths do
    if let some entry ← entryAt path then entries := entries ++ [(path, entry)]
  return entries

/-- The paths of the files in some directories. -/
def pathsIn (entries : List (String × FileEntry)) : List String :=
  entries.flatMap fun
    | (directory, .directory names) => names.map (Path.entry directory)
    | _ => []

/-- The surroundings in which these paths lead somewhere. -/
def surroundingsOf (entries : List (String × FileEntry)) (environment : List (String × String))
    (now : Timestamp) : Surroundings where
  files := ⟨(entries.lookup ·)⟩
  environment := (environment.lookup ·)
  now := now

/-- The variables that matter. -/
def environment : IO (List (String × String)) := do
  let mut found := []
  for name in ["HOME", "XDG_CONFIG_HOME", "PKD_STORE"] do
    if let some value ← IO.getEnv name then found := found ++ [(name, value)]
  return found

/-- The surroundings of a run: the settings file, the files of the command, and the store. The
reading of the clock is cut off to whole seconds. -/
def takeIn (arguments : List String) : IO Surroundings := do
  let environment ← environment
  let now := (← Std.Time.Timestamp.now).toSecondsSinceUnixEpoch.toInt
  let bare := surroundingsOf [] environment now
  match Invocation.read bare.environment arguments with
  | .error _ => return bare
  | .ok i =>
      let settingsPath := bare.settingsPath.toOption
      let entries ← entriesAt (settingsPath.toList ++ i.files)
      let store := match (surroundingsOf entries environment now).settings with
        | .ok settings => (settings.override i).store
        | .error _ => none
      let directories ← entriesAt ((store.map StoreDirectory.directories).getD [])
      let files ← entriesAt (pathsIn directories)
      return surroundingsOf (entries ++ directories ++ files) environment now

end Mrtd.Cli

/-- Runs the program on its arguments. -/
def main (arguments : List String) : IO UInt32 := do
  let start ← IO.monoMsNow
  let surroundings ← Mrtd.Cli.takeIn arguments
  let ending ← IO.lazyPure fun _ => Mrtd.Cli.run surroundings arguments
  let code := ending.code
  let id := Mrtd.Uuid.text (← IO.getRandomBytes 16).data.toList
  let finish ← IO.monoMsNow
  IO.eprint ending.complaint
  IO.print (ending.output ⟨id, surroundings.now, finish - start⟩)
  return code.toUInt32
