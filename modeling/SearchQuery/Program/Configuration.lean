import SearchQuery.Program.Outcome
import SearchQuery.Settings.Template
import SearchQuery.Terminal.Highlight

/-!
# The commands on configuration files

One command shows the settings in effect and the files they come from, the other
writes a new file to start from. Writing never replaces a file unless it is told
to, and it does not read settings first, so that it works where they are broken.
-/

namespace SearchQuery

/-- The file that a new configuration goes to, with its text. The home directory has a file of
its own kind, also when it is where the command runs. -/
def Site.newFile (site : Site) (global : Bool) : Path × String :=
  if global || site.globalFile.parent?.any (fun home => home.sameAs site.here) then
    (site.globalFile, Template.global)
  else (site.here.join settingsFileName, Template.project)

namespace Context

/-- The text of a configuration file as it is shown. -/
def fileText (ctx : Context) (text : String) : String :=
  if ctx.styler.enabled then Terminal.highlight .toml text else text

/-- The outcome of a command that fails and leaves the files alone. -/
def fails (ctx : Context) (messages : List String) : Outcome :=
  ⟨.failure, "", messages.map .line, ctx.site.files⟩

/-- Writes a new configuration file. -/
def init (ctx : Context) (global force : Bool) : Outcome :=
  let site := ctx.site
  let (path, text) := site.newFile global
  if site.files.pathExists site.directory path && !force then
    ctx.fails ["error: configuration file already exists: " ++ path.text,
      "use --force to overwrite"]
  else
    match site.files.writeText site.directory path text with
    | .error e => ctx.fails ["error: failed to write " ++ path.text ++ ": " ++ e.message]
    | .ok files =>
      { status := .success
        output := ctx.styler.success "Created" ++ " " ++ path.text ++ "\n\n" ++ ctx.fileText text
        messages := []
        files := files }

/-- The lines on the files that settings come from. -/
def originLines (ctx : Context) : List String :=
  let files := ctx.site.discover ctx.site.here
  (if files.isEmpty then ["# no config files found, showing defaults"]
    else "# config files, highest precedence first:" :: files.map fun p => "#   " ++ p.text) ++
    (ctx.settings.origin.map fun p => "# config root: " ++ p.text).toList

/-- Shows the settings in effect. -/
def config (ctx : Context) : Outcome :=
  let head := String.join (ctx.originLines.map fun l => ctx.styler.dim l ++ "\n")
  (ctx.prints (head ++ "\n" ++ ctx.fileText ctx.settings.fileText) []).after
    ((ctx.site.discoverNotices ctx.site.here).map .settings)

end Context

end SearchQuery
