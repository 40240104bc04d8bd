import SearchQuery.Files.FileSystem
import SearchQuery.Settings.Decode

/-!
# Finding and loading configuration files

The files that apply to a directory are those in the directory and in the
directories around it, the nearest first, and after them the file in the home
directory. A file may declare itself the root: nothing beyond it applies then, not
even the file in the home directory. A file that cannot be read or understood is
never a root; it is found nevertheless, and loading it fails.
-/

namespace SearchQuery

/--
Where a command runs. Both the home directory and the current one are taken to be known. A home
directory that cannot be told would have no configuration file to add after the walk, no command
would run in it, and asking for a new file there would fail with an error of its own. That case is
left out, and so is the failure of every command when the current directory cannot be told.
-/
structure Site where
  files : FileSystem
  home : Path
  /-- The directory where paths start that are not absolute. -/
  directory : Place

/-- The name of configuration files. -/
def settingsFileName : String := ".sift.toml"

/-- Why settings could not be loaded. -/
inductive SettingsError where
  | unreadable (path : Path) (error : FileError)
  /-- The file at the path has the text `source`, which is not a layer. -/
  | malformed (path : Path) (source : String) (error : LayerError)
  deriving DecidableEq, Repr

/-- The words of an error. -/
def SettingsError.message : SettingsError → String
  | unreadable path error => "failed to read config file " ++ path.text ++ ": " ++ error.message
  | malformed path source error =>
    "failed to parse config file " ++ path.text ++ ": " ++ error.excerpt source

/-- The layer of a text that comes from a path. -/
def Layer.readFrom (path : Path) (text : String) : Except SettingsError Layer :=
  match Layer.read text with
  | .error e => .error (.malformed path text e)
  | .ok l => .ok l

namespace Site

/-- The path of the directory where a command runs. -/
def here (site : Site) : Path := FileSystem.pathOf site.directory

/-- The configuration file in the home directory. -/
def globalFile (site : Site) : Path := site.home.join settingsFileName

/-- Whether a path names a file. -/
def isFile (site : Site) (p : Path) : Bool := site.files.isFile site.directory p

/-- The layer of a file. -/
def layer (site : Site) (p : Path) : Except SettingsError Layer :=
  match site.files.readText site.directory p with
  | .error e => .error (.unreadable p e)
  | .ok text => Layer.readFrom p text

/-- Whether a file declares itself the root. -/
def isRoot (site : Site) (p : Path) : Bool :=
  match site.layer p with
  | .error _ => false
  | .ok l => l.root = some true

/-- The paths where a configuration file of a directory may be, the nearest first. -/
def candidates (start : Path) : List Path :=
  start.ancestors.map fun dir => dir.join settingsFileName

/-- The files among some paths, each with whether it is the root; nothing comes after a root. -/
def walk (site : Site) : List Path → List (Path × Bool)
  | [] => []
  | p :: rest =>
    if site.isFile p then
      if site.isRoot p then [(p, true)] else (p, false) :: site.walk rest
    else site.walk rest

/-- The file in the home directory, if it applies after the files that were found. -/
def globalAfter (site : Site) (found : List (Path × Bool)) : List Path :=
  if !found.any (fun f => f.2) && site.isFile site.globalFile &&
      !found.any (fun f => f.1.sameAs site.globalFile) then
    [site.globalFile]
  else []

/-- The configuration files that apply to a directory, the one that takes precedence first. -/
def discover (site : Site) (start : Path) : List Path :=
  let found := site.walk (candidates start)
  found.map Prod.fst ++ site.globalAfter found

/-- The settings of some files, the one that takes precedence first. -/
def loadFiles (site : Site) (paths : List Path) : Except SettingsError Settings := do
  let layers ← paths.mapM fun p => (site.layer p).map fun l => (p, l)
  return Settings.ofLayers layers

/-- The settings that apply to a directory. -/
def load (site : Site) (start : Path) : Except SettingsError Settings :=
  site.loadFiles (site.discover start)

/-! ## What the log hears -/

/-- A report on finding and loading settings. -/
inductive Notice where
  /-- A file was found, and whether it is the root. -/
  | found (path : Path) (isRoot : Bool)
  /-- The file in the home directory applies. -/
  | global (path : Path)
  /-- Settings were loaded from some files. -/
  | loaded (files : Nat) (settings : Settings)
  deriving DecidableEq, Repr

/-- The notices of finding the files of a directory. -/
def discoverNotices (site : Site) (start : Path) : List Notice :=
  let found := site.walk (candidates start)
  found.map (fun f => .found f.1 f.2) ++ (site.globalAfter found).map .global

/-- The notices of loading the settings of some files. -/
def loadFilesNotices (site : Site) (paths : List Path) : List Notice :=
  match site.loadFiles paths with
  | .error _ => []
  | .ok s => if paths.isEmpty then [] else [.loaded paths.length s]

/-- The notices of loading the settings of a directory. -/
def loadNotices (site : Site) (start : Path) : List Notice :=
  site.discoverNotices start ++ site.loadFilesNotices (site.discover start)

end Site

end SearchQuery
